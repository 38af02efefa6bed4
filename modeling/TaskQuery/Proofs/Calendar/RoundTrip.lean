/-
**Stored trigger times are read back as the instants they stand for.**

A stamp has the marks of one pattern only, so it is read by this pattern whatever the clock says,
and its fields are those of the local time that was written. Every literal means an instant of whole
seconds, and those are the instants of which a stamp loses nothing.

* `isWhole_of_read`: the instants of literals are whole seconds.
* `read_stamp`: the stamp of whole seconds is read back.
* `stamp_round_trip`: a literal and its stamp mean the same instant.
-/

import TaskQuery.Proofs.Calendar.Marks
import TaskQuery.Proofs.Calendar.Resolved

namespace TaskQuery.Calendar

/-! ### Whole seconds -/

theorem Clock.nanosecond_of_ofParts? {hour minute second : Nat} {clock : Clock}
    (found : Clock.ofParts? hour minute second = some clock) : clock.nanosecond = 0 := by
  unfold Clock.ofParts? at found
  split at found
  · cases found
    rfl
  · cases found

theorem LocalTime.toInstant?_eq_some {time : LocalTime} {zone : Zone} {instant : Instant} :
    time.toInstant? zone = some instant ↔ instant.nanoseconds = time.position - zone.shift := by
  unfold toInstant? Instant.ofNanoseconds?
  constructor
  · intro found
    split at found
    · cases found
      rfl
    · cases found
  · intro same
    rw [dif_pos (same ▸ instant.range)]
    simp only [← same]

/-- Whether an instant lies a whole number of seconds from the start of 1970. -/
def Instant.IsWhole (instant : Instant) : Prop :=
  (secondLength : Int) ∣ instant.nanoseconds

/-- A local time of whole seconds is an instant of whole seconds. -/
theorem LocalTime.isWhole_of_toInstant? {time : LocalTime} {zone : Zone} {instant : Instant}
    (whole : time.clock.nanosecond = 0) (found : time.toInstant? zone = some instant) :
    instant.IsWhole := by
  have same := toInstant?_eq_some.mp found
  unfold Instant.IsWhole
  rw [same, position, Clock.nanoseconds, whole, Zone.shift]
  unfold dayLength hourLength secondLength
  omega

/-- The local time of an instant of whole seconds has no fraction of a second. -/
theorem LocalTime.nanosecond_inZone {instant : Instant} (whole : instant.IsWhole) (zone : Zone) :
    (inZone instant zone).clock.nanosecond = 0 := by
  show ((instant.nanoseconds + zone.shift) % dayLength).toNat % secondLength = 0
  obtain ⟨seconds, same⟩ := whole
  rw [same, Zone.shift]
  unfold dayLength hourLength secondLength
  omega

/-! ### Literals mean whole seconds -/

namespace Vantage

variable {vantage : Vantage}

theorem nanosecond_of_clockOf? {fields : Fields} {clock : Clock}
    (found : clockOf? fields = some clock) : clock.nanosecond = 0 := by
  unfold clockOf? at found
  split at found
  · cases found
    rfl
  · obtain ⟨minute, _, parts⟩ := Option.bind_eq_some_iff.mp found
    exact Clock.nanosecond_of_ofParts? parts

theorem clock_of_inferYear? {month day : Nat} {clock : Clock} {timed : Bool} {time : LocalTime}
    (found : vantage.inferYear? month day clock timed = some time) : time.clock = clock := by
  obtain ⟨date, _, chosen⟩ := Option.bind_eq_some_iff.mp found
  by_cases passed : if timed = true then
      LocalTime.position { date, clock } < vantage.here.position
    else date.dayNumber < vantage.here.date.dayNumber
  · obtain ⟨later, _, rfl⟩ := Option.map_eq_some_iff.mp ((if_pos passed).symm.trans chosen)
    rfl
  · cases (if_neg passed).symm.trans chosen
    rfl

theorem clock_of_nextOccurrence? {clock : Clock} {time : LocalTime}
    (found : vantage.nextOccurrence? clock = some time) : time.clock = clock := by
  unfold nextOccurrence? at found
  split at found
  · obtain ⟨tomorrow, _, rfl⟩ := Option.map_eq_some_iff.mp found
    rfl
  · cases found
    rfl

/-- What some fields mean has the clock time of the fields. -/
theorem clock_of_resolve? {fields : Fields} {time : LocalTime}
    (found : vantage.resolve? fields = some time) : clockOf? fields = some time.clock := by
  obtain ⟨clock, clocked, dated⟩ := Option.bind_eq_some_iff.mp found
  have same : time.clock = clock := by
    split at dated
    · split at dated
      · obtain ⟨date, _, rfl⟩ := Option.map_eq_some_iff.mp dated
        rfl
      · exact clock_of_inferYear? dated
    · exact clock_of_nextOccurrence? dated
  rw [clocked, same]

theorem isWhole_of_readPattern? {literal : List Char} {pattern : Pattern} {instant : Instant}
    (found : vantage.readPattern? literal pattern = some instant) : instant.IsWhole := by
  obtain ⟨time, resolved, converted⟩ := Option.bind_eq_some_iff.mp found
  obtain ⟨fields, _, resolved⟩ := Option.bind_eq_some_iff.mp resolved
  exact LocalTime.isWhole_of_toInstant? (nanosecond_of_clockOf? (clock_of_resolve? resolved))
    converted

theorem isWhole_of_readWeekday? {literal : List Char} {instant : Instant}
    (found : vantage.readWeekday? literal = some instant) : instant.IsWhole := by
  obtain ⟨weekday, _, found⟩ := Option.bind_eq_some_iff.mp found
  obtain ⟨clock, clocked, found⟩ := Option.bind_eq_some_iff.mp found
  obtain ⟨date, _, converted⟩ := Option.bind_eq_some_iff.mp found
  have whole : clock.nanosecond = 0 := by
    split at clocked
    · cases clocked
      rfl
    · obtain ⟨pattern, _, read⟩ := List.exists_of_findSome?_eq_some clocked
      obtain ⟨fields, _, clocked⟩ := Option.bind_eq_some_iff.mp read
      exact nanosecond_of_clockOf? clocked
  exact LocalTime.isWhole_of_toInstant? whole converted

theorem read_of_ne_nil {literal : String} (written : Text.trim literal.toList ≠ []) :
    vantage.read literal =
      match vantage.readTrimmed? (Text.trim literal.toList) with
      | some instant => .ok instant
      | none => .error (.unrecognized (String.ofList (Text.trim literal.toList))) :=
  if_neg (written ∘ List.isEmpty_iff.mp)

theorem readTrimmed?_of_read {literal : String} {instant : Instant}
    (reads : vantage.read literal = .ok instant) :
    vantage.readTrimmed? (Text.trim literal.toList) = some instant := by
  by_cases empty : Text.trim literal.toList = []
  · rw [read, empty] at reads
    cases reads
  · rw [read_of_ne_nil empty] at reads
    split at reads
    · next found =>
      cases reads
      exact found
    · cases reads

theorem patterns_read?_nil : ∀ pattern ∈ patterns, pattern.read? [] = none := by
  decide

/-- A literal that one pattern reads and no other one means what its fields mean. -/
theorem read?_of_only {literal : String} {pattern : Pattern} {fields : Fields}
    (listed : pattern ∈ patterns)
    (reads : pattern.read? (Text.trim literal.toList) = some fields)
    (only : ∀ other ∈ patterns, other ≠ pattern →
      other.read? (Text.trim literal.toList) = none) :
    vantage.read? literal =
      (vantage.resolve? fields).bind fun time => time.toInstant? vantage.zone := by
  have written : Text.trim literal.toList ≠ [] := by
    intro empty
    rw [empty, patterns_read?_nil pattern listed] at reads
    cases reads
  rw [← readTrimmed?_of_only listed reads only, read?, read_of_ne_nil written]
  cases vantage.readTrimmed? (Text.trim literal.toList) <;> rfl

/-- The instant of a literal is a whole number of seconds. -/
theorem isWhole_of_read {literal : String} {instant : Instant}
    (reads : vantage.read literal = .ok instant) : instant.IsWhole := by
  rcases Option.or_eq_some_iff.mp (readTrimmed?_of_read reads) with found | ⟨_, found⟩
  · obtain ⟨pattern, _, found⟩ := List.exists_of_findSome?_eq_some found
    exact isWhole_of_readPattern? found
  · exact isWhole_of_readWeekday? found

end Vantage

/-! ### Stamps -/

/-- The fields of a stamp stand for the local time that was written, up to parts of a second. -/
theorem Vantage.resolve?_trigger (vantage : Vantage) {time : LocalTime}
    (whole : time.clock.nanosecond = 0) :
    vantage.resolve? (Pattern.trigger.record time {}) = some time := by
  have listed : Pattern.trigger ∈ patterns := by decide
  have shown : Pattern.trigger.shownClock time.clock = time.clock :=
    Pattern.shownClock_of_whole (by decide) (by decide) (by decide) whole
  rw [resolve?_dated listed time vantage (by decide), shown]

/-- **The stamp of an instant of whole seconds is read back**, whatever the clock says. -/
theorem read_stamp {zone : Zone} {instant : Instant} (now : Instant) (whole : instant.IsWhole) :
    Vantage.read { zone, now } (stamp instant zone) = .ok instant := by
  have noFraction := LocalTime.nanosecond_inZone whole zone
  have back := LocalTime.toInstant?_inZone instant zone
  unfold stamp
  generalize LocalTime.inZone instant zone = time at noFraction back
  have sole : Vantage.IsSole Pattern.trigger := by decide
  have separated : Pattern.trigger.isSeparated = true := by decide
  have begins : Pattern.trigger = .field .year :: Pattern.trigger.tail := rfl
  have ends : Pattern.trigger = Pattern.trigger.dropLast ++ [.field .second] := rfl
  have trimmed := Pattern.trim_write time begins ends
  have reads := Pattern.read?_write time separated
  have written : Text.trim (Pattern.trigger.write time).toList ≠ [] := by
    intro empty
    rw [← trimmed, empty] at reads
    cases reads
  rw [Vantage.read_of_ne_nil written, trimmed, Vantage.readTrimmed?_of_isSole sole reads,
    Vantage.resolve?_trigger _ noFraction, Option.bind_some, back]

/-- **A literal and its stamp mean the same instant.** Whatever a literal means in a zone, the stamp
of its instant is read back in this zone under every clock; and so is the stamp of every instant of
whole seconds. -/
theorem stamp_round_trip (zone : Zone) (first second : Instant) :
    (∀ literal instant, Vantage.read { zone, now := first } literal = .ok instant →
      Vantage.read { zone, now := second } (stamp instant zone) = .ok instant) ∧
    ∀ instant : Instant, instant.IsWhole →
      Vantage.read { zone, now := second } (stamp instant zone) = .ok instant :=
  ⟨fun _ _ reads => read_stamp second (Vantage.isWhole_of_read reads),
    fun _ whole => read_stamp second whole⟩

/-- A weekday in the new year after the sixth one before year 0, read back in 1970. -/
theorem stamp_round_trip_before_year_zero :
    let zone : Zone := ⟨-3, by decide⟩
    let newYearsEve : Instant := ⟨-62324999999999999995, by decide⟩
    let friday : Instant := ⟨-62324476200000000000, by decide⟩
    Vantage.read { zone, now := newYearsEve } " Fri, 18:30" = .ok friday ∧
      Vantage.read { zone, now := Instant.unixEpoch } (stamp friday zone) = .ok friday ∧
      friday.IsWhole ∧
      Vantage.read { zone, now := newYearsEve } (stamp friday zone) = .ok friday := by
  intro zone newYearsEve friday
  have reads : Vantage.read { zone, now := newYearsEve } " Fri, 18:30" = .ok friday :=
    Vantage.read?_eq_some.mp (by decide +kernel)
  have whole : friday.IsWhole := ⟨-62324476200, by decide⟩
  have forth := stamp_round_trip zone newYearsEve Instant.unixEpoch
  have back := stamp_round_trip zone Instant.unixEpoch newYearsEve
  exact ⟨reads, forth.1 " Fri, 18:30" friday reads, whole, back.2 friday whole⟩

end TaskQuery.Calendar
