/-
**Dates and local times in order.**

Day numbers order dates by year, month and day, and positions order local times by date and time of
day: each smaller part stays below the distance between two neighbouring values of the greater one.

* `Date.dayNumber_lt_iff`: the order of day numbers.
* `LocalTime.position_lt_iff`: the order of positions.
-/

import TaskQuery.Calendar.Instant

namespace TaskQuery.Calendar

/-! ### Months -/

/-- A month has at most 31 days. -/
theorem monthLength_le (year : Int) (month : Nat) : monthLength year month ≤ 31 := by
  unfold monthLength monthLengths
  rcases month with _ | _ | _ | _ | _ | _ | _ | _ | _ | _ | _ | _ | _ | month <;> simp
  split <;> decide

/-- No number beyond 12 names a month. -/
theorem monthLength_eq_zero {year : Int} {month : Nat} (beyond : 12 < month) :
    monthLength year month = 0 := by
  unfold monthLength monthLengths
  rw [List.getD_eq_getElem?_getD, List.getElem?_eq_none beyond, Option.getD_none]

theorem totalLength_take_succ (lengths : List Nat) (count : Nat) :
    totalLength (lengths.take (count + 1)) =
      totalLength (lengths.take count) + lengths.getD count 0 := by
  induction lengths generalizing count with
  | nil => simp [totalLength]
  | cons length rest inner =>
    cases count with
    | zero => simp [totalLength]
    | succ count =>
      rw [List.take_succ_cons, totalLength_cons, inner, List.take_succ_cons, totalLength_cons,
        List.getD_cons_succ, Nat.add_assoc]

/-- A month begins after the days of the month before it. -/
theorem daysBeforeMonth_succ (year : Int) {month : Nat} (first : 1 ≤ month) :
    daysBeforeMonth year (month + 1) = daysBeforeMonth year month + monthLength year month := by
  obtain ⟨month, rfl⟩ := Nat.exists_eq_add_of_le' first
  unfold daysBeforeMonth monthLength
  rw [List.getD_cons_succ]
  exact totalLength_take_succ (monthLengths year) month

theorem daysBeforeMonth_le (year : Int) {month later : Nat} (first : 1 ≤ month)
    (before : month ≤ later) : daysBeforeMonth year month ≤ daysBeforeMonth year later := by
  induction before with
  | refl => exact Nat.le_refl _
  | @step later before inner =>
    rw [Nat.succ_eq_add_one, daysBeforeMonth_succ year (Nat.le_trans first before)]
    omega

/-- The months of a year are as long as the year. -/
theorem daysBeforeMonth_end (year : Int) :
    daysBeforeYear year + daysBeforeMonth year 13 = daysBeforeYear (year + 1) := by
  have whole : daysBeforeMonth year 13 = if isLeap year then 366 else 365 :=
    totalLength_monthLengths year
  rw [whole, daysBeforeYear_succ]
  split <;> rfl

/-! ### Dates -/

namespace Date

theorem month_range (date : Date) : 1 ≤ date.month ∧ date.month ≤ 12 := by
  have first := date.day_range.1
  have last := date.day_range.2
  refine ⟨Nat.one_le_iff_ne_zero.mpr fun none => ?_, Nat.not_lt.mp fun beyond => ?_⟩
  · have empty : monthLength date.year 0 = 0 := rfl
    rw [none, empty] at last
    omega
  · rw [monthLength_eq_zero beyond] at last
    omega

theorem day_le (date : Date) : date.day ≤ 31 :=
  Nat.le_trans date.day_range.2 (monthLength_le date.year date.month)

/-- A date lies before the next month. -/
theorem daysBeforeMonth_add_day_le (date : Date) {later : Nat} (after : date.month < later) :
    daysBeforeMonth date.year date.month + date.day ≤ daysBeforeMonth date.year later := by
  have last := date.day_range.2
  have month := daysBeforeMonth_succ date.year date.month_range.1
  have next := daysBeforeMonth_le date.year (Nat.le_add_left 1 date.month) after
  omega

/-- A date lies within its year. -/
theorem dayNumber_range (date : Date) :
    daysBeforeYear date.year ≤ date.dayNumber + epoch ∧
      date.dayNumber + epoch < daysBeforeYear (date.year + 1) := by
  have first := date.day_range.1
  have december : date.month < 13 := Nat.lt_succ_of_le date.month_range.2
  have last := date.daysBeforeMonth_add_day_le december
  have whole := daysBeforeMonth_end date.year
  unfold dayNumber
  omega

variable {first second : Date}

theorem dayNumber_lt_of_lt
    (before : first.year < second.year ∨ first.year = second.year ∧
      (first.month < second.month ∨ first.month = second.month ∧ first.day < second.day)) :
    first.dayNumber < second.dayNumber := by
  rcases before with years | ⟨year, months | ⟨month, days⟩⟩
  · have here := first.dayNumber_range.2
    have there := second.dayNumber_range.1
    have between := daysBeforeYear_le (Int.add_one_le_of_lt years)
    omega
  · have earlier := first.daysBeforeMonth_add_day_le months
    have later := second.day_range.1
    unfold dayNumber
    rw [year] at earlier ⊢
    omega
  · unfold dayNumber
    rw [year, month]
    omega

theorem dayNumber_inj : first.dayNumber = second.dayNumber ↔ first = second := by
  refine ⟨fun same => ?_, congrArg dayNumber⟩
  have forth := mt (@dayNumber_lt_of_lt first second) (by omega)
  have back := mt (@dayNumber_lt_of_lt second first) (by omega)
  obtain ⟨year, month, day, _, _⟩ := first
  obtain ⟨year', month', day', _, _⟩ := second
  dsimp only at forth back
  obtain ⟨rfl, rfl, rfl⟩ : year = year' ∧ month = month' ∧ day = day' := by omega
  rfl

/-- **Day numbers order dates** by year, month and day. -/
theorem dayNumber_lt_iff :
    first.dayNumber < second.dayNumber ↔
      first.year < second.year ∨ first.year = second.year ∧
        (first.month < second.month ∨ first.month = second.month ∧ first.day < second.day) := by
  refine ⟨fun before => ?_, dayNumber_lt_of_lt⟩
  have back := mt (@dayNumber_lt_of_lt second first) (by omega)
  have different : first ≠ second := fun same => by rw [same] at before; omega
  obtain ⟨year, month, day, _, _⟩ := first
  obtain ⟨year', month', day', _, _⟩ := second
  simp only [ne_eq, mk.injEq] at different
  dsimp only at back ⊢
  omega

section SameYear

variable (same : first.year = second.year)

include same

theorem dayNumber_lt_iff_of_year_eq :
    first.dayNumber < second.dayNumber ↔
      first.month < second.month ∨ first.month = second.month ∧ first.day < second.day := by
  rw [dayNumber_lt_iff]
  omega

theorem eq_iff_of_year_eq :
    first = second ↔ first.month = second.month ∧ first.day = second.day := by
  refine ⟨fun equal => equal ▸ ⟨rfl, rfl⟩, fun parts => dayNumber_inj.mp ?_⟩
  have forth := mt (dayNumber_lt_iff_of_year_eq same).mp (by omega)
  have back := mt (dayNumber_lt_iff_of_year_eq same.symm).mp (by omega)
  omega

end SameYear

end Date

/-! ### Local times -/

/-- **Positions order local times** by date and time of day. -/
theorem LocalTime.position_lt_iff {first second : LocalTime} :
    first.position < second.position ↔
      first.date.dayNumber < second.date.dayNumber ∨ first.date = second.date ∧
        first.clock.nanoseconds < second.clock.nanoseconds := by
  have here := first.clock.nanoseconds_lt
  have there := second.clock.nanoseconds_lt
  rw [← Date.dayNumber_inj]
  unfold position dayLength at *
  omega

end TaskQuery.Calendar
