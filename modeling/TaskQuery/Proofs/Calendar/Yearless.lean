/-
**Literals without a year.**

A literal with a month and a day but no year means the current local year if they have not passed
there, and the next one otherwise; a time of day takes part in the comparison if one is written. The
reader asks for the date in the current year before it compares, so it goes by this rule in every
case but one: a 29 February that has passed in the year before a leap year.

* `exists_areYearless`: what such a literal writes.
* `Vantage.byRule?`: the instant that the rule gives.
* `read?_eq_byRule?_iff`: when the reader goes by the rule.
-/

import TaskQuery.Proofs.Calendar.RoundTrip

namespace TaskQuery.Calendar

/-! ### What is written -/

/-- The patterns with a month and a day but no year. -/
def yearlessPatterns : List Pattern :=
  [Pattern.monthDay ++ [.literal ','] ++ Pattern.toSeconds,
    Pattern.monthDay ++ [.literal ','] ++ Pattern.toMinutes,
    Pattern.dayMonth ++ [.literal ','] ++ Pattern.toMinutes,
    Pattern.monthDay,
    Pattern.dayMonth]

/-- Fields with a month, a day and, if one is written, a time of day. -/
structure Fields.AreYearless (fields : Fields) (month day : Nat) (clock : Option Clock) : Prop where
  year : fields.year = none
  month : fields.month = some month
  day : fields.day = some day
  hour : fields.hour = clock.map Clock.hour
  minute : fields.minute = clock.map Clock.minute
  second : ∀ time ∈ clock, time.second = fields.second.getD 0 ∧ time.nanosecond = 0

theorem isSole_of_mem_yearlessPatterns : ∀ pattern ∈ yearlessPatterns, Vantage.IsSole pattern := by
  decide

/-- A literal in one of these patterns writes a month, a day and perhaps a time of day. -/
theorem exists_areYearless {pattern : Pattern} {text : List Char} {fields : Fields}
    (yearless : pattern ∈ yearlessPatterns) (reads : pattern.read? text = some fields) :
    ∃ month day clock, fields.AreYearless month day clock := by
  have parts : ∀ pattern ∈ yearlessPatterns, Piece.field .year ∉ pattern ∧
      Piece.field .month ∈ pattern ∧ Piece.field .day ∈ pattern ∧
      (Piece.field .hour ∈ pattern ↔ Piece.field .minute ∈ pattern) := by decide
  obtain ⟨noYear, hasMonth, hasDay, hourMinute⟩ := parts pattern yearless
  have timely := Pattern.areTimely_of_readInto? reads ⟨nofun, nofun, nofun⟩
  have has (part : Field) : fields.has part = true ↔ .field part ∈ pattern := by
    rw [Pattern.has_of_readInto? reads part]
    cases part <;> simp [Fields.has]
  have year : fields.year = none :=
    Option.not_isSome_iff_eq_none.mp fun some => noYear ((has .year).mp some)
  obtain ⟨month, month'⟩ := Option.isSome_iff_exists.mp ((has .month).mpr hasMonth)
  obtain ⟨day, day'⟩ := Option.isSome_iff_exists.mp ((has .day).mpr hasDay)
  have together : fields.hour.isSome = true ↔ fields.minute.isSome = true :=
    (has .hour).trans (hourMinute.trans (has .minute).symm)
  cases hour : fields.hour with
  | none =>
    have minute : fields.minute = none := by
      rw [hour] at together
      exact Option.not_isSome_iff_eq_none.mp fun some => absurd (together.mpr some) (by decide)
    exact ⟨month, day, none, year, month', day', hour, minute, nofun⟩
  | some hour' =>
    obtain ⟨minute, minute'⟩ := Option.isSome_iff_exists.mp (together.mp (by rw [hour]; rfl))
    have second : fields.second.getD 0 < 60 := by
      cases given : fields.second with
      | none => decide
      | some value => exact timely.second value given
    let time : Clock :=
      ⟨hour', minute, fields.second.getD 0, 0, timely.hour _ hour, timely.minute _ minute', second,
        by decide⟩
    refine ⟨month, day, some time, year, month', day', hour, minute', ?_⟩
    rintro _ ⟨⟩
    exact ⟨rfl, rfl⟩

/-! ### The rule -/

/-- Whether a month and a day, with a time of day if one is given, come before those of a local
time. -/
def LocalTime.HasPassed (here : LocalTime) (month day : Nat) (clock : Option Clock) : Prop :=
  month < here.date.month ∨ month = here.date.month ∧
    (day < here.date.day ∨ day = here.date.day ∧
      clock.any (·.nanoseconds < here.clock.nanoseconds) = true)

instance (here : LocalTime) (month day : Nat) (clock : Option Clock) :
    Decidable (here.HasPassed month day clock) :=
  inferInstanceAs (Decidable (_ ∨ _))

namespace Vantage

/-- The current local year, or the next one for what has passed in it. -/
def chosenYear (vantage : Vantage) (month day : Nat) (clock : Option Clock) : Int :=
  if vantage.here.HasPassed month day clock then vantage.here.date.year + 1
  else vantage.here.date.year

/-- The instant of a month and a day in the chosen year, at midnight if no time of day is given. -/
def byRule? (vantage : Vantage) (month day : Nat) (clock : Option Clock) : Option Instant :=
  (Date.ofParts? (vantage.chosenYear month day clock) month day).bind fun date =>
    LocalTime.toInstant? { date, clock := clock.getD Clock.midnight } vantage.zone

/-! ### What the reader does -/

variable {vantage : Vantage} {fields : Fields} {month day : Nat} {clock : Option Clock}

theorem resolve?_yearless (written : fields.AreYearless month day clock) :
    vantage.resolve? fields =
      vantage.inferYear? month day (clock.getD Clock.midnight) clock.isSome := by
  obtain ⟨year, month', day', hour, minute, second⟩ := written
  have timed : fields.hour.isSome = clock.isSome := by rw [hour, Option.isSome_map]
  have clocked : clockOf? fields = some (clock.getD Clock.midnight) := by
    cases clock with
    | none => rw [clockOf?, hour, Option.map_none, Option.getD_none]
    | some time =>
      obtain ⟨seconds, whole⟩ := second time rfl
      rw [clockOf?, hour, minute]
      show Clock.ofParts? time.hour time.minute (fields.second.getD 0) = some time
      rw [← seconds, Clock.ofParts?_self whole]
  rw [resolve?, clocked, year, month', day', timed]
  rfl

/-- In one year the reader compares as the rule does. -/
theorem passed_iff {here : LocalTime} {date : Date} (same : date.year = here.date.year) :
    (if clock.isSome = true then
      LocalTime.position { date, clock := clock.getD Clock.midnight } < here.position
    else date.dayNumber < here.date.dayNumber) ↔ here.HasPassed date.month date.day clock := by
  have earlier := Date.dayNumber_lt_iff_of_year_eq same
  unfold LocalTime.HasPassed
  cases clock with
  | none =>
    rw [if_neg (by decide), earlier]
    simp
  | some time =>
    have sooner : LocalTime.position { date, clock := time } < here.position ↔ _ :=
      LocalTime.position_lt_iff
    rw [if_pos Option.isSome_some, Option.getD_some, sooner, earlier, Date.eq_iff_of_year_eq same,
      or_assoc, and_assoc, ← and_or_left, Option.any_some, decide_eq_true_eq]

/-- A date that the current year has is taken as the rule takes it. -/
theorem inferYear?_of_some {date : Date}
    (found : Date.ofParts? vantage.here.date.year month day = some date) :
    vantage.inferYear? month day (clock.getD Clock.midnight) clock.isSome =
      (Date.ofParts? (vantage.chosenYear month day clock) month day).map fun date =>
        { date, clock := clock.getD Clock.midnight } := by
  obtain ⟨year, rfl, rfl⟩ := Date.ofParts?_eq_some.mp found
  have compared := @passed_iff clock vantage.here date year
  rw [inferYear?, found, Option.bind_some, chosenYear]
  by_cases passed : vantage.here.HasPassed date.month date.day clock
  · rw [if_pos passed]
    exact if_pos (compared.mpr passed)
  · rw [if_neg passed, found]
    exact if_neg (mt compared.mp passed)

theorem inferYear?_of_none {time : Clock} {timed : Bool}
    (absent : Date.ofParts? vantage.here.date.year month day = none) :
    vantage.inferYear? month day time timed = none := by
  rw [inferYear?, absent, Option.bind_none]

end Vantage

/-! ### The exception -/

theorem Date.isSome_ofParts? {year : Int} {month day : Nat} :
    (Date.ofParts? year month day).isSome = true ↔
      (-9999 ≤ year ∧ year ≤ 9999) ∧ 1 ≤ day ∧ day ≤ monthLength year month := by
  unfold Date.ofParts?
  split <;> simp_all

/-- Only February has another length in another year. -/
theorem monthLength_february (year : Int) (month : Nat) :
    monthLength year month =
      if month = 2 then (if isLeap year then 29 else 28) else monthLength 1970 month := by
  unfold monthLength monthLengths
  rcases month with _ | _ | _ | month
  · rfl
  · rfl
  · rfl
  · rfl

/-- What one year does not have and the next one has is a 29 February. -/
theorem ofParts?_next_iff {year : Int} (range : -9999 ≤ year ∧ year ≤ 9999) {month day : Nat} :
    Date.ofParts? year month day = none ∧
        (Date.ofParts? (year + 1) month day).isSome = true ↔
      month = 2 ∧ day = 29 ∧ isLeap (year + 1) = true ∧ year + 1 ≤ 9999 := by
  have neighbours : isLeap (year + 1) = true → isLeap year = false := by
    unfold isLeap
    simp
    omega
  rw [← Option.not_isSome_iff_eq_none, Date.isSome_ofParts?, Date.isSome_ofParts?,
    monthLength_february year, monthLength_february (year + 1)]
  by_cases february : month = 2
  · rw [if_pos february, if_pos february]
    by_cases leap : isLeap (year + 1) = true
    · simp only [neighbours leap, leap, if_true, Bool.false_eq_true, if_false, true_and]
      omega
    · simp only [leap, if_false, Bool.false_eq_true, false_and, and_false, iff_false]
      split <;> omega
  · rw [if_neg february, if_neg february]
    omega

/-- A leap year lies within the range of instants. -/
theorem toInstant?_of_isLeap {time : LocalTime} (leap : isLeap time.date.year = true)
    (zone : Zone) : (time.toInstant? zone).isSome = true := by
  have years := time.date.year_range
  have divisible : time.date.year % 4 = 0 := by
    unfold isLeap at leap
    exact beq_iff_eq.mp (Bool.and_eq_true_iff.mp leap).1
  have first : daysBeforeYear (-9998) ≤ daysBeforeYear time.date.year :=
    daysBeforeYear_le (by omega)
  have last : daysBeforeYear (time.date.year + 1) ≤ daysBeforeYear 9997 :=
    daysBeforeYear_le (by omega)
  have within := time.date.dayNumber_range
  have hours := zone.range
  have clock := time.clock.nanoseconds_lt
  have ends : daysBeforeYear (-9998) = -3651694 ∧ daysBeforeYear 9997 = 3651330 := by decide
  unfold LocalTime.toInstant? Instant.ofNanoseconds?
  rw [dif_pos]
  · rfl
  · unfold LocalTime.position Zone.shift Date.epoch earliest latest dayLength hourLength at *
    omega

/-! ### When the reader goes by the rule -/

namespace Vantage

variable {vantage : Vantage}

/-- A literal in a yearless pattern means what its fields mean. -/
theorem read?_yearless {literal : String} {pattern : Pattern} {fields : Fields}
    (yearless : pattern ∈ yearlessPatterns)
    (reads : pattern.read? (Text.trim literal.toList) = some fields) :
    vantage.read? literal =
      (vantage.resolve? fields).bind fun time => time.toInstant? vantage.zone :=
  have sole := isSole_of_mem_yearlessPatterns pattern yearless
  read?_of_only sole.1 reads (sole.only_reads reads)

/-- Whether a month and a day are a 29 February that has passed in the year before a leap year. -/
def IsLeapDayAhead (vantage : Vantage) (month day : Nat) (clock : Option Clock) : Prop :=
  vantage.here.HasPassed month day clock ∧ month = 2 ∧ day = 29 ∧
    isLeap (vantage.here.date.year + 1) = true ∧ vantage.here.date.year + 1 ≤ 9999

variable {month day : Nat} {clock : Option Clock}

theorem IsLeapDayAhead.absent (ahead : vantage.IsLeapDayAhead month day clock) :
    Date.ofParts? vantage.here.date.year month day = none :=
  ((ofParts?_next_iff vantage.here.date.year_range).mpr ahead.2).1

/-- Of the dates that the current year does not have, the rule finds those leap days only. -/
theorem isSome_byRule?_iff (absent : Date.ofParts? vantage.here.date.year month day = none) :
    (vantage.byRule? month day clock).isSome = true ↔ vantage.IsLeapDayAhead month day clock := by
  have next := @ofParts?_next_iff _ vantage.here.date.year_range month day
  unfold byRule? chosenYear
  by_cases passed : vantage.here.HasPassed month day clock
  · rw [if_pos passed]
    constructor
    · intro found
      obtain ⟨instant, found⟩ := Option.isSome_iff_exists.mp found
      obtain ⟨date, here, _⟩ := Option.bind_eq_some_iff.mp found
      exact ⟨passed, next.mp ⟨absent, by rw [here]; rfl⟩⟩
    · rintro ⟨_, ahead⟩
      obtain ⟨date, here⟩ := Option.isSome_iff_exists.mp (next.mpr ahead).2
      have leap : isLeap date.year = true := by
        rw [(Date.ofParts?_eq_some.mp here).1]
        exact ahead.2.2.1
      rw [here, Option.bind_some]
      exact toInstant?_of_isLeap leap vantage.zone
  · rw [if_neg passed, absent, Option.bind_none]
    exact ⟨nofun, fun ahead => absurd ahead.1 passed⟩

end Vantage

/-- **When a literal without a year is read by the rule.** The reader goes by it unless the literal
is a 29 February that has passed in the year before a leap year; this one it refuses, while the rule
finds it in the next year. -/
theorem read?_eq_byRule?_iff (vantage : Vantage) {literal : String} {pattern : Pattern}
    {fields : Fields} (yearless : pattern ∈ yearlessPatterns)
    (reads : pattern.read? (Text.trim literal.toList) = some fields) :
    ∃ month day clock, fields.AreYearless month day clock ∧
      (vantage.read? literal = vantage.byRule? month day clock ↔
        ¬ vantage.IsLeapDayAhead month day clock) ∧
      (vantage.IsLeapDayAhead month day clock →
        vantage.read? literal = none ∧
          ∃ instant, vantage.byRule? month day clock = some instant) := by
  obtain ⟨month, day, clock, written⟩ := exists_areYearless yearless reads
  refine ⟨month, day, clock, written, ?_⟩
  rw [Vantage.read?_yearless yearless reads, Vantage.resolve?_yearless written]
  cases here : Date.ofParts? vantage.here.date.year month day with
  | some date =>
    have present : ¬ vantage.IsLeapDayAhead month day clock := by
      intro ahead
      cases here.symm.trans ahead.absent
    refine ⟨iff_of_true ?_ present, fun ahead => absurd ahead present⟩
    rw [Vantage.inferYear?_of_some here, Option.bind_map]
    rfl
  | none =>
    have found := @Vantage.isSome_byRule?_iff vantage month day clock here
    rw [Vantage.inferYear?_of_none here, Option.bind_none, ← found]
    refine ⟨?_, fun some => ⟨rfl, Option.isSome_iff_exists.mp some⟩⟩
    rw [eq_comm, Option.not_isSome_iff_eq_none]

/-- Half an hour into 2027 in local time, half an hour before it in UTC: an evening of 31 December
that has passed in the one year and not in the other. -/
theorem read?_eq_byRule?_iff_newYear :
    let vantage : Vantage :=
      { zone := ⟨1, by decide⟩, now := ⟨1798759800000000000, by decide⟩ }
    let pattern := Pattern.dayMonth ++ [.literal ','] ++ Pattern.toMinutes
    let fields : Fields :=
      { month := some 12, day := some 31, hour := some 23, minute := some 45 }
    pattern ∈ yearlessPatterns ∧ pattern.read? (Text.trim " 31/12,23:45".toList) = some fields ∧
      ∃ month day clock, fields.AreYearless month day clock ∧
        (vantage.read? " 31/12,23:45" = vantage.byRule? month day clock ↔
          ¬ vantage.IsLeapDayAhead month day clock) ∧
        (vantage.IsLeapDayAhead month day clock →
          vantage.read? " 31/12,23:45" = none ∧
            ∃ instant, vantage.byRule? month day clock = some instant) := by
  intro vantage pattern fields
  have yearless : pattern ∈ yearlessPatterns := by decide
  have reads : pattern.read? (Text.trim " 31/12,23:45".toList) = some fields := by
    decide +kernel
  exact ⟨yearless, reads, read?_eq_byRule?_iff vantage yearless reads⟩

/-- On 1 March 2027 the rule finds 29 February in 2028, and the reader finds nothing. -/
theorem leapDay_refused_before_leap_year :
    let vantage : Vantage :=
      { zone := ⟨0, by decide⟩, now := ⟨1803902400000000000, by decide⟩ }
    Pattern.monthDay ∈ yearlessPatterns ∧
      Pattern.monthDay.read? (Text.trim "02-29".toList) = some { month := some 2, day := some 29 } ∧
      vantage.byRule? 2 29 none = some ⟨1835395200000000000, by decide⟩ ∧
      vantage.read? "02-29" = none := by
  decide +kernel

end TaskQuery.Calendar
