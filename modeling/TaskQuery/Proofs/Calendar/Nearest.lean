/-
**Clock times and weekdays mean the nearest match.**

The local date and clock of an instant are the two parts of its position, so an instant is found
from a day number and a clock time. A clock time alone lies less than a day ahead, and a weekday
lies among seven consecutive dates, of which exactly one falls on it.

* `LocalTime.inZone_iff`: the instants with a day number and a clock time.
* `bind_nextOccurrence?_iff`: the next occurrence of a clock time is less than a day ahead.
* `seekWeekday?_eq`: seven dates are enough to find a weekday.
* `read_nearest`: what literals with a clock time or a weekday mean.
-/

import Mathlib.Data.List.TakeWhile
import TaskQuery.Proofs.Calendar.RoundTrip

namespace TaskQuery.Calendar

/-! ### Positions -/

theorem Clock.nanoseconds_inj {clock other : Clock} :
    clock.nanoseconds = other.nanoseconds ↔ clock = other := by
  refine ⟨fun same => ?_, congrArg nanoseconds⟩
  obtain ⟨hour, minute, second, nanosecond, hours, minutes, seconds, parts⟩ := clock
  obtain ⟨hour', minute', second', nanosecond', hours', minutes', seconds', parts'⟩ := other
  unfold nanoseconds secondLength at *
  dsimp only at same
  obtain ⟨rfl, rfl, rfl, rfl⟩ : hour = hour' ∧ minute = minute' ∧ second = second' ∧
      nanosecond = nanosecond' := by omega
  rfl

/-- The instants with a local day number and a local clock time. -/
theorem LocalTime.inZone_iff {instant : Instant} {zone : Zone} {day : Int} {clock : Clock} :
    (inZone instant zone).date.dayNumber = day ∧ (inZone instant zone).clock = clock ↔
      instant.nanoseconds + zone.shift = day * dayLength + clock.nanoseconds := by
  have shown : (inZone instant zone).date.dayNumber * dayLength +
      (inZone instant zone).clock.nanoseconds = instant.nanoseconds + zone.shift :=
    position_inZone instant zone
  have inside := (inZone instant zone).clock.nanoseconds_lt
  have inside' := clock.nanoseconds_lt
  rw [← Clock.nanoseconds_inj, ← shown]
  unfold dayLength at *
  omega

/-- There is an instant with a local day number and a local clock time if it lies in the range. -/
theorem LocalTime.exists_inZone {zone : Zone} {day : Int} {clock : Clock}
    (range : earliest ≤ day * dayLength + clock.nanoseconds - zone.shift ∧
      day * dayLength + clock.nanoseconds - zone.shift ≤ latest) :
    ∃ instant : Instant,
      instant.nanoseconds = day * dayLength + clock.nanoseconds - zone.shift ∧
      (inZone instant zone).date.dayNumber = day ∧ (inZone instant zone).clock = clock :=
  ⟨⟨_, range⟩, rfl, inZone_iff.mpr (Int.sub_add_cancel _ _)⟩

/-- Every date has a day number of the calendar. -/
theorem Date.dayNumber_mem (date : Date) :
    firstDay ≤ date.dayNumber ∧ date.dayNumber ≤ lastDay := by
  have range := date.dayNumber_range
  have first := daysBeforeYear_le date.year_range.1
  have last : daysBeforeYear (date.year + 1) ≤ daysBeforeYear 10000 :=
    daysBeforeYear_le (by have := date.year_range.2; omega)
  rw [firstDay_eq, lastDay_eq]
  omega

/-- The date of a day number is the one that has it. -/
theorem Date.ofDayNumber?_eq_some {day : Int} {date : Date} :
    ofDayNumber? day = some date ↔ date.dayNumber = day := by
  unfold ofDayNumber?
  constructor
  · intro found
    split at found
    · cases found
      exact dayNumber_ofDayNumber day _ _
    · cases found
  · rintro rfl
    rw [dif_pos date.dayNumber_mem, Option.some.injEq, ← dayNumber_inj]
    exact dayNumber_ofDayNumber _ _ _

/-- The instant of a day number and a clock time. -/
theorem bind_toInstant?_eq_some {day : Int} {clock : Clock} {zone : Zone} {instant : Instant} :
    ((Date.ofDayNumber? day).bind fun date => LocalTime.toInstant? { date, clock } zone) =
        some instant ↔
      (LocalTime.inZone instant zone).date.dayNumber = day ∧
        (LocalTime.inZone instant zone).clock = clock := by
  constructor
  · intro found
    obtain ⟨date, dated, converted⟩ := Option.bind_eq_some_iff.mp found
    obtain rfl := Date.ofDayNumber?_eq_some.mp dated
    have same := LocalTime.toInstant?_eq_some.mp converted
    refine LocalTime.inZone_iff.mpr ?_
    rw [same, Int.sub_add_cancel]
    rfl
  · rintro ⟨rfl, rfl⟩
    rw [Date.ofDayNumber?_eq_some.mpr rfl, Option.bind_some]
    exact LocalTime.toInstant?_inZone instant zone

namespace Vantage

variable {vantage : Vantage}

/-- The local date and clock of the vantage. -/
theorem position_here (vantage : Vantage) :
    vantage.here.date.dayNumber * dayLength + vantage.here.clock.nanoseconds =
      vantage.now.nanoseconds + vantage.zone.shift :=
  LocalTime.position_inZone vantage.now vantage.zone

/-! ### Clock times -/

/-- Whether an instant is less than a day ahead and has some local clock time. -/
structure IsNextAt (vantage : Vantage) (clock : Clock) (instant : Instant) : Prop where
  notPassed : vantage.now.nanoseconds ≤ instant.nanoseconds
  withinDay : instant.nanoseconds < vantage.now.nanoseconds + dayLength
  clock : (LocalTime.inZone instant vantage.zone).clock = clock

/-- The next occurrence of a clock time is today or tomorrow. -/
theorem nextOccurrence?_eq (vantage : Vantage) (clock : Clock) :
    vantage.nextOccurrence? clock =
      (Date.ofDayNumber? (vantage.here.date.dayNumber +
        if clock.nanoseconds < vantage.here.clock.nanoseconds then 1 else 0)).map fun date =>
          { date, clock } := by
  unfold nextOccurrence?
  by_cases passed : clock.nanoseconds < vantage.here.clock.nanoseconds
  · rw [if_pos passed, if_pos passed]
    rfl
  · rw [if_neg passed, if_neg passed, Int.add_zero, Date.ofDayNumber?_eq_some.mpr rfl]
    rfl

/-- **The next occurrence of a clock time** is the instant less than a day ahead that has it. -/
theorem bind_nextOccurrence?_iff {clock : Clock} {instant : Instant} :
    ((vantage.nextOccurrence? clock).bind fun time => time.toInstant? vantage.zone) =
        some instant ↔ vantage.IsNextAt clock instant := by
  have today := vantage.position_here
  have inside := vantage.here.clock.nanoseconds_lt
  have inside' := clock.nanoseconds_lt
  rw [nextOccurrence?_eq, Option.bind_map]
  constructor
  · intro found
    have parts := bind_toInstant?_eq_some.mp found
    have position := LocalTime.inZone_iff.mp parts
    refine ⟨?_, ?_, parts.2⟩ <;> split at position <;> unfold dayLength at * <;> omega
  · rintro ⟨notPassed, withinDay, rfl⟩
    have position : instant.nanoseconds + vantage.zone.shift = _ :=
      LocalTime.inZone_iff.mp ⟨rfl, rfl⟩
    refine bind_toInstant?_eq_some.mpr ⟨?_, rfl⟩
    split <;> unfold dayLength at * <;> omega

/-- A clock time occurs within a day if the day lies in the range of instants. -/
theorem exists_isNextAt (clock : Clock) (range : vantage.now.nanoseconds + dayLength ≤ latest) :
    ∃ instant, vantage.IsNextAt clock instant := by
  have today := vantage.position_here
  have first := vantage.now.range.1
  have inside := vantage.here.clock.nanoseconds_lt
  have inside' := clock.nanoseconds_lt
  let day : Int := vantage.here.date.dayNumber +
    if clock.nanoseconds < vantage.here.clock.nanoseconds then 1 else 0
  let count : Int := day * dayLength + clock.nanoseconds - vantage.zone.shift
  have ahead : vantage.now.nanoseconds ≤ count ∧
      count < vantage.now.nanoseconds + dayLength := by
    unfold count day
    constructor <;> split <;> unfold dayLength at * <;> omega
  have inRange : earliest ≤ count ∧ count ≤ latest := by omega
  obtain ⟨instant, same, _, shows⟩ := LocalTime.exists_inZone inRange
  exact ⟨instant, same ▸ ahead.1, same ▸ ahead.2, shows⟩

end Vantage

/-! ### Weekdays -/

namespace Weekday

/-- The place of a weekday among seven days from a Thursday on. -/
def place : Weekday → Int
  | thursday => 0
  | friday => 1
  | saturday => 2
  | sunday => 3
  | monday => 4
  | tuesday => 5
  | wednesday => 6

/-- A day falls on a weekday according to its place in the week. -/
theorem ofDayNumber_eq_iff {day : Int} {weekday : Weekday} :
    ofDayNumber day = weekday ↔ day % 7 = weekday.place := by
  unfold ofDayNumber
  have cases : day % 7 = 0 ∨ day % 7 = 1 ∨ day % 7 = 2 ∨ day % 7 = 3 ∨ day % 7 = 4 ∨
      day % 7 = 5 ∨ day % 7 = 6 := by omega
  rcases cases with same | same | same | same | same | same | same <;> rw [same] <;>
    cases weekday <;> decide

theorem place_range (weekday : Weekday) : 0 ≤ weekday.place ∧ weekday.place < 7 := by
  cases weekday <;> decide

/-- How many days after a day a weekday comes. -/
def distance (weekday : Weekday) (day : Int) : Nat :=
  ((weekday.place - day) % 7).toNat

/-- Of seven consecutive days exactly one falls on a weekday. -/
theorem eq_add_distance_iff (weekday : Weekday) (today day : Int) :
    day = today + weekday.distance today ↔
      today ≤ day ∧ day ≤ today + 6 ∧ ofDayNumber day = weekday := by
  have range := weekday.place_range
  rw [ofDayNumber_eq_iff, distance]
  omega

end Weekday

namespace Vantage

variable {vantage : Vantage}

/-- Going from date to date finds the first one with the weekday, unless the calendar ends before
it. -/
theorem seekWeekday?_of_first {weekday : Weekday} {steps reach : Nat} (within : steps < reach)
    (date : Date) (lands : Weekday.ofDayNumber (date.dayNumber + steps) = weekday)
    (first : ∀ earlier < steps, Weekday.ofDayNumber (date.dayNumber + earlier) ≠ weekday) :
    seekWeekday? weekday reach date = Date.ofDayNumber? (date.dayNumber + steps) := by
  obtain ⟨reach, rfl⟩ := Nat.exists_eq_add_of_le' (Nat.one_le_of_lt within)
  induction steps generalizing date reach with
  | zero =>
    have here : Weekday.ofDayNumber date.dayNumber = weekday := by simpa using lands
    rw [seekWeekday?, if_pos here]
    exact (Date.ofDayNumber?_eq_some.mpr (Int.add_zero _).symm).symm
  | succ steps inner =>
    have notHere : Weekday.ofDayNumber date.dayNumber ≠ weekday := by
      simpa using first 0 (Nat.succ_pos steps)
    rw [seekWeekday?, if_neg notHere]
    cases next : date.tomorrow? with
    | none =>
      -- the calendar ends today
      unfold Date.tomorrow? Date.ofDayNumber? at next
      have ended : ¬(date.dayNumber + 1 ≤ Date.lastDay) := by
        intro inside
        have begun := date.dayNumber_mem.1
        rw [dif_pos ⟨by omega, inside⟩] at next
        cases next
      unfold Date.ofDayNumber?
      rw [dif_neg (by push_cast; omega)]
      rfl
    | some tomorrow =>
      have number : tomorrow.dayNumber = date.dayNumber + 1 := Date.ofDayNumber?_eq_some.mp next
      have shifted (step : Nat) :
          tomorrow.dayNumber + step = date.dayNumber + ((step + 1 : Nat) : Int) := by
        rw [number]
        push_cast
        omega
      have later := inner tomorrow (by rw [shifted]; exact lands)
        (fun earlier before => by
          rw [shifted]
          exact first (earlier + 1) (Nat.succ_lt_succ before))
      obtain ⟨reach, rfl⟩ := Nat.exists_eq_add_of_le' (show 1 ≤ reach by omega)
      rw [Option.bind_some, later reach (by omega), shifted]

/-- **Seven dates are enough to find a weekday**: a search that goes further finds nothing else. -/
theorem seekWeekday?_eq {reach : Nat} (enough : 7 ≤ reach) (weekday : Weekday) (date : Date) :
    seekWeekday? weekday reach date =
      Date.ofDayNumber? (date.dayNumber + weekday.distance date.dayNumber) := by
  have lands := (weekday.eq_add_distance_iff date.dayNumber _).mp rfl
  refine seekWeekday?_of_first (by omega) date lands.2.2 fun earlier before same => ?_
  have sooner := (weekday.eq_add_distance_iff date.dayNumber (date.dayNumber + earlier)).mpr
    ⟨by omega, by omega, same⟩
  omega

/-- Whether an instant lies on one of seven local dates from today on, and has some weekday and
clock time there. -/
structure IsNextOn (vantage : Vantage) (weekday : Weekday) (clock : Clock) (instant : Instant) :
    Prop where
  notPassed : vantage.here.date.dayNumber ≤ (LocalTime.inZone instant vantage.zone).date.dayNumber
  withinWeek :
    (LocalTime.inZone instant vantage.zone).date.dayNumber ≤ vantage.here.date.dayNumber + 6
  weekday : Weekday.ofDayNumber (LocalTime.inZone instant vantage.zone).date.dayNumber = weekday
  clock : (LocalTime.inZone instant vantage.zone).clock = clock

/-- **The weekday that is found** is the one among the next seven dates. -/
theorem bind_seekWeekday?_iff {weekday : Weekday} {clock : Clock} {instant : Instant} :
    ((seekWeekday? weekday weekdayReach vantage.here.date).bind fun date =>
        LocalTime.toInstant? { date, clock } vantage.zone) = some instant ↔
      vantage.IsNextOn weekday clock instant := by
  have found := weekday.eq_add_distance_iff vantage.here.date.dayNumber
  rw [seekWeekday?_eq (by decide), bind_toInstant?_eq_some, found]
  constructor
  · rintro ⟨⟨notPassed, withinWeek, falls⟩, shows⟩
    exact ⟨notPassed, withinWeek, falls, shows⟩
  · rintro ⟨notPassed, withinWeek, falls, shows⟩
    exact ⟨⟨notPassed, withinWeek, falls⟩, shows⟩

/-- A weekday comes within a week if the day before and the week after lie in the range of
instants. -/
theorem exists_isNextOn (weekday : Weekday) (clock : Clock)
    (first : earliest + dayLength ≤ vantage.now.nanoseconds)
    (last : vantage.now.nanoseconds + 7 * dayLength ≤ latest) :
    ∃ instant, vantage.IsNextOn weekday clock instant := by
  have today := vantage.position_here
  have inside := vantage.here.clock.nanoseconds_lt
  have inside' := clock.nanoseconds_lt
  let day : Int := vantage.here.date.dayNumber + weekday.distance vantage.here.date.dayNumber
  have falls := (weekday.eq_add_distance_iff vantage.here.date.dayNumber day).mp rfl
  have inRange : earliest ≤ day * dayLength + clock.nanoseconds - vantage.zone.shift ∧
      day * dayLength + clock.nanoseconds - vantage.zone.shift ≤ latest := by
    unfold dayLength earliest latest at *
    omega
  obtain ⟨instant, _, dated, shows⟩ := LocalTime.exists_inZone inRange
  exact ⟨instant, dated ▸ falls.1, dated ▸ falls.2.1, dated ▸ falls.2.2, shows⟩

end Vantage

/-! ### Literals with a clock time -/

/-- The patterns of a clock time alone. -/
def clockPatterns : List Pattern :=
  [Pattern.toSeconds, Pattern.toMinutes]

theorem isSole_of_mem_clockPatterns : ∀ pattern ∈ clockPatterns, Vantage.IsSole pattern := by
  decide

/-- Fields with the parts of a clock time; the seconds may be left out. -/
structure Fields.Show (fields : Fields) (clock : Clock) : Prop where
  hour : fields.hour = some clock.hour
  minute : fields.minute = some clock.minute
  second : fields.second.getD 0 = clock.second
  whole : clock.nanosecond = 0

/-- Whether a text writes a clock time, with seconds or without. -/
def Clock.IsWritten (clock : Clock) (text : List Char) : Prop :=
  ∃ pattern ∈ clockPatterns, ∃ fields, pattern.read? text = some fields ∧ fields.Show clock

theorem Fields.Show.clockOf? {fields : Fields} {clock : Clock} (shows : fields.Show clock) :
    Vantage.clockOf? fields = some clock := by
  rw [Vantage.clockOf?, shows.hour]
  dsimp only
  rw [shows.minute, Option.bind_some, shows.second, Clock.ofParts?_self shows.whole]

namespace Vantage

variable {vantage : Vantage} {clock : Clock} {text : List Char} {literal : String}

/-- A literal with a clock time alone means the next occurrence of it. -/
theorem read?_clock (written : clock.IsWritten (Text.trim literal.toList)) :
    vantage.read? literal =
      (vantage.nextOccurrence? clock).bind fun time => time.toInstant? vantage.zone := by
  obtain ⟨pattern, member, fields, reads, shows⟩ := written
  have sole := isSole_of_mem_clockPatterns pattern member
  have undated : ∀ pattern ∈ clockPatterns, Piece.field .month ∉ pattern := by decide
  have month : fields.month = none := by
    have has := Pattern.has_of_readInto? reads .month
    refine Option.not_isSome_iff_eq_none.mp fun some => ?_
    rcases has.mp some with inside | set
    · exact undated pattern member inside
    · cases set
  have resolved : vantage.resolve? fields = vantage.nextOccurrence? clock := by
    rw [resolve?, shows.clockOf?, Option.bind_some, month]
  rw [read?_of_only sole.1 reads (sole.only_reads reads), resolved]

theorem readClock?_of_isWritten (written : clock.IsWritten text) :
    readClock? text = some clock := by
  obtain ⟨pattern, member, fields, reads, shows⟩ := written
  have sole := isSole_of_mem_clockPatterns pattern member
  have others : ∀ other ∈ clockPatterns, other ≠ pattern →
      (other.read? text).bind clockOf? = none := by
    intro other member' different
    have listed := (isSole_of_mem_clockPatterns other member').1
    rw [sole.only_reads reads other listed different]
    rfl
  have found := findSome?_eq_of_sole member others
  rw [reads, Option.bind_some, shows.clockOf?] at found
  exact found

end Vantage

/-! ### Literals with a weekday -/

namespace Weekday

/-- Whether a text is a name of a weekday, in any letter case. -/
def IsNamed (weekday : Weekday) (name : List Char) : Prop :=
  (String.ofList (name.map Char.toLower), weekday) ∈ names

/-- Whether a text writes a weekday, with a clock time after a comma or at midnight. -/
inductive IsWritten (weekday : Weekday) : Clock → List Char → Prop where
  | alone {name : List Char} (named : weekday.IsNamed (Text.trim name)) :
      IsWritten weekday Clock.midnight name
  | timed {name text : List Char} {clock : Clock} (named : weekday.IsNamed (Text.trim name))
      (written : clock.IsWritten (Text.trim text)) :
      IsWritten weekday clock (name ++ ',' :: text)

variable {weekday : Weekday} {name : List Char}

theorem IsNamed.ofName? (named : weekday.IsNamed name) : Weekday.ofName? name = some weekday := by
  have unique : ∀ entry ∈ names, names.lookup entry.1 = some entry.2 := by decide
  exact unique _ named

theorem mem_trim {text : List Char} {c : Char} (inside : c ∈ text)
    (visible : Text.isBlank c = false) : c ∈ Text.trim text := by
  have kept {text : List Char} (inside : c ∈ text) : c ∈ text.dropWhile Text.isBlank := by
    rw [← List.takeWhile_append_dropWhile (p := Text.isBlank) (l := text)] at inside
    rcases List.mem_append.mp inside with taken | kept
    · rw [List.mem_takeWhile_imp taken] at visible
      cases visible
    · exact kept
  exact List.mem_reverse.mpr (kept (List.mem_reverse.mpr (kept inside)))

/-- The name of a weekday has no comma. -/
theorem IsNamed.comma_notMem (named : weekday.IsNamed (Text.trim name)) : ',' ∉ name := by
  intro inside
  have unpunctuated : ∀ entry ∈ names, ',' ∉ entry.1.toList := by decide
  refine unpunctuated _ named ?_
  rw [String.toList_ofList]
  exact List.mem_map.mpr ⟨',', mem_trim inside (by decide), rfl⟩

theorem IsWritten.exists_letter {clock : Clock} {text : List Char}
    (written : weekday.IsWritten clock text) : ∃ c ∈ text, c.isAlpha = true := by
  cases written with
  | alone named =>
    obtain ⟨c, inside, letter⟩ := Weekday.exists_letter named.ofName?
    exact ⟨c, mem_of_mem_trim inside, letter⟩
  | timed named _ =>
    obtain ⟨c, inside, letter⟩ := Weekday.exists_letter named.ofName?
    exact ⟨c, List.mem_append_left _ (mem_of_mem_trim inside), letter⟩

end Weekday

namespace Vantage

variable {vantage : Vantage} {weekday : Weekday} {clock : Clock} {name text : List Char}

theorem ne_comma_of_mem (plain : ',' ∉ name) : ∀ c ∈ name, (c != ',') = true :=
  fun _ inside => bne_iff_ne.mpr fun same => plain (same ▸ inside)

theorem splitAtComma_of_notMem (plain : ',' ∉ name) : splitAtComma name = (name, none) := by
  rw [splitAtComma, List.dropWhile_eq_nil_iff.mpr (ne_comma_of_mem plain)]

theorem splitAtComma_append (plain : ',' ∉ name) (text : List Char) :
    splitAtComma (name ++ ',' :: text) = (name, some text) := by
  have before := ne_comma_of_mem plain
  rw [splitAtComma, List.dropWhile_append_of_pos before, List.takeWhile_append_of_pos before]
  simp

theorem readWeekday?_of_isWritten (written : weekday.IsWritten clock text) :
    vantage.readWeekday? text =
      (seekWeekday? weekday weekdayReach vantage.here.date).bind fun date =>
        LocalTime.toInstant? { date, clock } vantage.zone := by
  cases written with
  | alone named =>
    rw [readWeekday?, splitAtComma_of_notMem named.comma_notMem]
    dsimp only
    rw [named.ofName?, Option.bind_some, Option.bind_some]
  | @timed _ text _ named written =>
    rw [readWeekday?, splitAtComma_append named.comma_notMem text]
    dsimp only
    rw [named.ofName?, Option.bind_some, readClock?_of_isWritten written, Option.bind_some]

/-- No pattern reads a text with a letter. -/
theorem findSome?_readPattern?_of_letter {c : Char} (inside : c ∈ text)
    (letter : c.isAlpha = true) : patterns.findSome? (vantage.readPattern? text) = none := by
  refine List.findSome?_eq_none_iff.mpr fun pattern listed => ?_
  have unread : pattern.read? text = none := by
    refine Option.eq_none_iff_forall_ne_some.mpr fun fields reads => ?_
    have marked : c ∈ marksOf text := List.mem_filter.mpr ⟨inside, isMark_of_isAlpha letter⟩
    have plain := isAlpha_false_of_mem_markings listed (Pattern.marksOf_mem_markings reads) marked
    rw [letter] at plain
    cases plain
  rw [readPattern?, unread]
  rfl

/-- A literal with a weekday means the first date with it from today on. -/
theorem read?_weekday {literal : String}
    (written : weekday.IsWritten clock (Text.trim literal.toList)) :
    vantage.read? literal =
      (seekWeekday? weekday weekdayReach vantage.here.date).bind fun date =>
        LocalTime.toInstant? { date, clock } vantage.zone := by
  obtain ⟨c, inside, letter⟩ := written.exists_letter
  have nonempty : Text.trim literal.toList ≠ [] := List.ne_nil_of_mem inside
  rw [← readWeekday?_of_isWritten written, read?, read_of_ne_nil nonempty, readTrimmed?,
    findSome?_readPattern?_of_letter inside letter, Option.none_or]
  cases vantage.readWeekday? (Text.trim literal.toList) <;> rfl

end Vantage

/-- **Clock times and weekdays mean the nearest match.** A clock time alone means the instant less
than a day ahead at which it is that time; a weekday means the instant with the written clock time on
the one of seven dates from today on that falls on it. Away from the ends of the range there is
such an instant, and to search further than the reader does would find no other date. -/
theorem read_nearest (vantage : Vantage) (literal : String) :
    (∀ clock : Clock, clock.IsWritten (Text.trim literal.toList) →
      (∀ instant, vantage.read literal = .ok instant ↔ vantage.IsNextAt clock instant) ∧
      (vantage.now.nanoseconds + dayLength ≤ latest →
        ∃ instant, vantage.read literal = .ok instant)) ∧
    ∀ (weekday : Weekday) (clock : Clock),
      weekday.IsWritten clock (Text.trim literal.toList) →
      (∀ instant, vantage.read literal = .ok instant ↔ vantage.IsNextOn weekday clock instant) ∧
      (earliest + dayLength ≤ vantage.now.nanoseconds →
        vantage.now.nanoseconds + 7 * dayLength ≤ latest →
        ∃ instant, vantage.read literal = .ok instant) ∧
      ∀ reach, Vantage.weekdayReach ≤ reach → Vantage.seekWeekday? weekday reach vantage.here.date =
        Vantage.seekWeekday? weekday Vantage.weekdayReach vantage.here.date := by
  constructor
  · intro clock written
    have means (instant : Instant) :
        vantage.read literal = .ok instant ↔ vantage.IsNextAt clock instant := by
      rw [← Vantage.read?_eq_some, Vantage.read?_clock written]
      exact Vantage.bind_nextOccurrence?_iff
    refine ⟨means, fun range => ?_⟩
    obtain ⟨instant, next⟩ := Vantage.exists_isNextAt clock range
    exact ⟨instant, (means instant).mpr next⟩
  · intro weekday clock written
    have means (instant : Instant) :
        vantage.read literal = .ok instant ↔ vantage.IsNextOn weekday clock instant := by
      rw [← Vantage.read?_eq_some, Vantage.read?_weekday written]
      exact Vantage.bind_seekWeekday?_iff
    refine ⟨means, fun first last => ?_, fun reach further => ?_⟩
    · obtain ⟨instant, next⟩ := Vantage.exists_isNextOn weekday clock first last
      exact ⟨instant, (means instant).mpr next⟩
    · have enough : 7 ≤ Vantage.weekdayReach := by decide
      rw [Vantage.seekWeekday?_eq (enough.trans further), Vantage.seekWeekday?_eq enough]

/-- Half a second before the leap day of 2028 in local time, five hours east of UTC: a second that
has begun comes back on the leap day, and the Sunday is in March. -/
theorem read_nearest_leapDay :
    let vantage : Vantage := { zone := ⟨5, by decide⟩, now := ⟨1835377199500000000, by decide⟩ }
    let evening : Clock := ⟨23, 59, 59, 0, by decide, by decide, by decide, by decide⟩
    let morning : Clock := ⟨7, 5, 0, 0, by decide, by decide, by decide, by decide⟩
    let leapDay : Instant := ⟨1835463599000000000, by decide⟩
    let sunday : Instant := ⟨1835834700000000000, by decide⟩
    evening.IsWritten (Text.trim "23:59:59".toList) ∧
      Weekday.sunday.IsWritten morning (Text.trim " sUNday , 7:05".toList) ∧
      vantage.IsNextAt evening leapDay ∧ vantage.IsNextOn .sunday morning sunday ∧
      vantage.read "23:59:59" = .ok leapDay ∧ vantage.read " sUNday , 7:05" = .ok sunday := by
  intro vantage evening morning leapDay sunday
  have written : evening.IsWritten (Text.trim "23:59:59".toList) :=
    ⟨Pattern.toSeconds, by decide, { hour := some 23, minute := some 59, second := some 59 },
      by decide +kernel, rfl, rfl, rfl, rfl⟩
  have seven : morning.IsWritten (Text.trim " 7:05".toList) :=
    ⟨Pattern.toMinutes, by decide, { hour := some 7, minute := some 5 },
      by decide +kernel, rfl, rfl, rfl, rfl⟩
  have named : Weekday.sunday.IsNamed (Text.trim "sUNday ".toList) := by
    unfold Weekday.IsNamed
    decide +kernel
  have written' : Weekday.sunday.IsWritten morning (Text.trim " sUNday , 7:05".toList) := by
    have text : Text.trim " sUNday , 7:05".toList = "sUNday ".toList ++ ',' :: " 7:05".toList := by
      decide +kernel
    rw [text]
    exact .timed named seven
  have next : vantage.IsNextAt evening leapDay :=
    ⟨by decide, by decide, by decide +kernel⟩
  have next' : vantage.IsNextOn .sunday morning sunday :=
    ⟨by decide +kernel, by decide +kernel, by decide +kernel, by decide +kernel⟩
  have clocks := (read_nearest vantage "23:59:59").1 evening written
  have weekdays := (read_nearest vantage " sUNday , 7:05").2 .sunday morning written'
  exact ⟨written, written', next, next', (clocks.1 leapDay).mpr next,
    (weekdays.1 sunday).mpr next'⟩

end TaskQuery.Calendar
