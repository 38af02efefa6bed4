/-
**Clock times and weekdays.**

* `Clock.nanoseconds_ofNanoseconds`: the clock time of a number of nanoseconds since midnight has
  that number.
* `Weekday.ofDayNumber`: days repeat their weekday every seven days.
-/

namespace TaskQuery.Calendar

/-- The nanoseconds of a second. -/
abbrev secondLength : Nat := 1000000000

/-- The nanoseconds of an hour. -/
abbrev hourLength : Nat := 3600000000000

/-- The nanoseconds of a day. -/
abbrev dayLength : Nat := 86400000000000

/-- A time of day. -/
structure Clock where
  hour : Nat
  minute : Nat
  second : Nat
  nanosecond : Nat
  hour_range : hour < 24
  minute_range : minute < 60
  second_range : second < 60
  nanosecond_range : nanosecond < secondLength
  deriving DecidableEq, Repr

namespace Clock

/-- The start of a day. -/
def midnight : Clock :=
  ⟨0, 0, 0, 0, by decide, by decide, by decide, by decide⟩

/-- The clock time with the given parts, if there is one. -/
def ofParts? (hour minute second : Nat) : Option Clock :=
  if valid : hour < 24 ∧ minute < 60 ∧ second < 60 then
    some ⟨hour, minute, second, 0, valid.1, valid.2.1, valid.2.2, by decide⟩
  else none

/-- The nanoseconds since midnight. -/
def nanoseconds (clock : Clock) : Nat :=
  ((clock.hour * 60 + clock.minute) * 60 + clock.second) * secondLength + clock.nanosecond

theorem nanoseconds_lt (clock : Clock) : clock.nanoseconds < dayLength := by
  have hour := clock.hour_range
  have minute := clock.minute_range
  have second := clock.second_range
  have nanosecond := clock.nanosecond_range
  unfold nanoseconds secondLength dayLength at *
  omega

/-- The clock time of a number of nanoseconds since midnight. -/
def ofNanoseconds (count : Nat) (inside : count < dayLength) : Clock where
  hour := count / hourLength
  minute := count / (60 * secondLength) % 60
  second := count / secondLength % 60
  nanosecond := count % secondLength
  hour_range := by unfold dayLength at inside; unfold hourLength; omega
  minute_range := by omega
  second_range := by omega
  nanosecond_range := by unfold secondLength; omega

theorem nanoseconds_ofNanoseconds (count : Nat) (inside : count < dayLength) :
    (ofNanoseconds count inside).nanoseconds = count := by
  unfold ofNanoseconds nanoseconds hourLength secondLength
  dsimp only
  omega

end Clock

/-! ### Weekdays -/

/-- The days of the week. -/
inductive Weekday where
  | monday
  | tuesday
  | wednesday
  | thursday
  | friday
  | saturday
  | sunday
  deriving DecidableEq, Repr

namespace Weekday

/-- The weekday of a day, numbered from 1970-01-01, which was a Thursday. -/
def ofDayNumber (day : Int) : Weekday :=
  match (day % 7).toNat with
  | 0 => thursday
  | 1 => friday
  | 2 => saturday
  | 3 => sunday
  | 4 => monday
  | 5 => tuesday
  | _ => wednesday

/-- The names of the days of the week, short and long. -/
def names : List (String × Weekday) :=
  [("mon", monday), ("monday", monday), ("tue", tuesday), ("tuesday", tuesday),
    ("wed", wednesday), ("wednesday", wednesday), ("thu", thursday), ("thursday", thursday),
    ("fri", friday), ("friday", friday), ("sat", saturday), ("saturday", saturday),
    ("sun", sunday), ("sunday", sunday)]

/-- The weekday of a name in any letter case. -/
def ofName? (name : List Char) : Option Weekday :=
  names.lookup (String.ofList (name.map Char.toLower))

end Weekday

end TaskQuery.Calendar
