/-
**What the fields of a written time mean.**

A pattern gives values to its own fields and to no others. A clock time that it leaves out is
midnight, and a second that it leaves out is the first one of the minute; a date without a year, or a
clock time without a date, means what the vantage makes of it.

* `Pattern.record_eq`: the fields of a written time.
* `Vantage.clockOf?_record`: the clock time that a pattern shows.
* `Vantage.resolve?_dated`, `Vantage.resolve?_undated`, `Vantage.resolve?_timeOnly`: the local time
  that the fields mean.
-/

import TaskQuery.Proofs.Calendar.Written

namespace TaskQuery.Calendar

/-! ### Dates and clock times from their parts -/

theorem secondLength_pos : 0 < secondLength := by
  decide

/-- The date with some parts is the one that has them. -/
theorem Date.ofParts?_eq_some {year : Int} {month day : Nat} {date : Date} :
    Date.ofParts? year month day = some date ↔
      date.year = year ∧ date.month = month ∧ date.day = day := by
  constructor
  · intro found
    unfold Date.ofParts? at found
    split at found
    · cases found
      exact ⟨rfl, rfl, rfl⟩
    · cases found
  · rintro ⟨rfl, rfl, rfl⟩
    exact dif_pos ⟨date.year_range, date.day_range⟩

theorem Clock.ofParts?_self {clock : Clock} (whole : clock.nanosecond = 0) :
    Clock.ofParts? clock.hour clock.minute clock.second = some clock := by
  obtain ⟨hour, minute, second, nanosecond, hours, minutes, seconds, nanoseconds⟩ := clock
  obtain rfl : nanosecond = 0 := whole
  exact dif_pos ⟨hours, minutes, seconds⟩

/-! ### The fields of a pattern -/

namespace Pattern

/-- The fields of a written time: those of the pattern have its values. -/
theorem record_eq (pattern : Pattern) (time : LocalTime) (fields : Fields) :
    pattern.record time fields =
      { year := if .field .year ∈ pattern then some time.date.year else fields.year
        month := if .field .month ∈ pattern then some time.date.month else fields.month
        day := if .field .day ∈ pattern then some time.date.day else fields.day
        hour := if .field .hour ∈ pattern then some time.clock.hour else fields.hour
        minute := if .field .minute ∈ pattern then some time.clock.minute else fields.minute
        second := if .field .second ∈ pattern then some time.clock.second else fields.second } := by
  have second : min time.clock.second 59 = time.clock.second :=
    Nat.min_eq_left (Nat.le_of_lt_succ time.clock.second_range)
  induction pattern generalizing fields with
  | nil => simp [record]
  | cons piece rest inner =>
    cases piece with
    | field part => cases part <;> simp [record, inner, Fields.set, Field.valueIn, second]
    | literal c => simp [record, inner]
    | gap => simp [record, inner]

/-- The clock time that a pattern shows: a part that it leaves out is zero. -/
def shownClock (pattern : Pattern) (clock : Clock) : Clock where
  hour := if .field .hour ∈ pattern then clock.hour else 0
  minute := if .field .minute ∈ pattern then clock.minute else 0
  second := if .field .second ∈ pattern then clock.second else 0
  nanosecond := 0
  hour_range := by have := clock.hour_range; split <;> omega
  minute_range := by have := clock.minute_range; split <;> omega
  second_range := by have := clock.second_range; split <;> omega
  nanosecond_range := secondLength_pos

/-- A pattern with all parts of a clock time shows a whole second as it is. -/
theorem shownClock_of_whole {pattern : Pattern} {clock : Clock}
    (hour : .field .hour ∈ pattern) (minute : .field .minute ∈ pattern)
    (second : .field .second ∈ pattern) (whole : clock.nanosecond = 0) :
    pattern.shownClock clock = clock := by
  simp only [shownClock, if_pos hour, if_pos minute, if_pos second]
  simp only [← whole]

end Pattern

namespace Vantage

/-- The fields of literals that come together. -/
theorem parts_of_mem_patterns : ∀ pattern ∈ patterns,
    (Piece.field .hour ∈ pattern ↔ Piece.field .minute ∈ pattern) ∧
    (Piece.field .second ∈ pattern → Piece.field .hour ∈ pattern) ∧
    (Piece.field .month ∈ pattern ↔ Piece.field .day ∈ pattern) ∧
    (Piece.field .year ∈ pattern → Piece.field .month ∈ pattern) := by
  decide

variable {pattern : Pattern} (listed : pattern ∈ patterns) (time : LocalTime)

include listed

/-- The fields of a written time show the clock time that the pattern shows. -/
theorem clockOf?_record :
    clockOf? (pattern.record time {}) = some (pattern.shownClock time.clock) := by
  obtain ⟨together, seconds, _, _⟩ := parts_of_mem_patterns pattern listed
  rw [Pattern.record_eq, clockOf?]
  by_cases hour : .field .hour ∈ pattern
  · have minute : Piece.field .minute ∈ pattern := together.mp hour
    have shown : Clock.ofParts? (pattern.shownClock time.clock).hour
        (pattern.shownClock time.clock).minute (pattern.shownClock time.clock).second =
          some (pattern.shownClock time.clock) := Clock.ofParts?_self rfl
    rw [← shown]
    simp only [Pattern.shownClock, if_pos hour, if_pos minute, Option.bind_some]
    split <;> rfl
  · have minute : ¬Piece.field .minute ∈ pattern := mt together.mpr hour
    have second : ¬Piece.field .second ∈ pattern := mt seconds hour
    simp only [Pattern.shownClock, if_neg hour, if_neg minute, if_neg second]
    rfl

/-- A date with a year is meant itself. -/
theorem resolve?_dated (vantage : Vantage) (year : Piece.field .year ∈ pattern) :
    vantage.resolve? (pattern.record time {}) =
      some { date := time.date, clock := pattern.shownClock time.clock } := by
  obtain ⟨_, _, together, dated⟩ := parts_of_mem_patterns pattern listed
  have month := dated year
  have date : Date.ofParts? time.date.year time.date.month time.date.day = some time.date :=
    Date.ofParts?_eq_some.mpr ⟨rfl, rfl, rfl⟩
  rw [resolve?, clockOf?_record listed, Option.bind_some, Pattern.record_eq]
  simp only [if_pos year, if_pos month, if_pos (together.mp month), date, Option.map_some]

/-- A date without a year means one of this year or the next. -/
theorem resolve?_undated (vantage : Vantage) (noYear : Piece.field .year ∉ pattern)
    (month : Piece.field .month ∈ pattern) :
    vantage.resolve? (pattern.record time {}) =
      vantage.inferYear? time.date.month time.date.day (pattern.shownClock time.clock)
        (decide (Piece.field .hour ∈ pattern)) := by
  obtain ⟨_, _, together, _⟩ := parts_of_mem_patterns pattern listed
  have timed : (if Piece.field .hour ∈ pattern then some time.clock.hour else none).isSome =
      decide (Piece.field .hour ∈ pattern) := by
    split <;> simp_all
  rw [resolve?, clockOf?_record listed, Option.bind_some, Pattern.record_eq]
  simp only [if_neg noYear, if_pos month, if_pos (together.mp month), timed]

/-- A clock time without a date means its next occurrence. -/
theorem resolve?_timeOnly (vantage : Vantage) (undated : Piece.field .month ∉ pattern) :
    vantage.resolve? (pattern.record time {}) =
      vantage.nextOccurrence? (pattern.shownClock time.clock) := by
  rw [resolve?, clockOf?_record listed, Option.bind_some, Pattern.record_eq]
  simp only [if_neg undated]

end Vantage

end TaskQuery.Calendar
