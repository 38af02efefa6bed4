/-
**Dates of the proleptic Gregorian calendar.**

Years run from -9999 to 9999 and include a year 0. Every date has a day number, its distance from
1970-01-01.

* `daysBeforeYear_succ`: a year has 365 days, a leap year 366.
* `yearOfDay_le`, `lt_yearOfDay_succ`: the year of a day is the one whose days hold it.
* `Date.dayNumber_ofDayNumber`: the date of a day number has that number.
-/

namespace TaskQuery.Calendar

/-! ### Years -/

/-- Whether a year has a 29 February. -/
def isLeap (year : Int) : Bool :=
  year % 4 == 0 && (year % 100 != 0 || year % 400 == 0)

/-- The number of days from 1 January of year 0 to 1 January of a year. -/
def daysBeforeYear (year : Int) : Int :=
  365 * year + (year - 1) / 4 - (year - 1) / 100 + (year - 1) / 400 + 1

theorem daysBeforeYear_succ (year : Int) :
    daysBeforeYear (year + 1) = daysBeforeYear year + if isLeap year then 366 else 365 := by
  unfold daysBeforeYear isLeap
  by_cases four : year % 4 = 0 <;> by_cases hundred : year % 100 = 0 <;>
    by_cases fourHundred : year % 400 = 0 <;> simp [four, hundred, fourHundred] <;> omega

theorem daysBeforeYear_lt {first second : Int} (before : first < second) :
    daysBeforeYear first < daysBeforeYear second := by
  unfold daysBeforeYear; omega

theorem daysBeforeYear_le {first second : Int} (before : first ≤ second) :
    daysBeforeYear first ≤ daysBeforeYear second := by
  rcases Int.lt_or_eq_of_le before with strict | rfl
  · exact Int.le_of_lt (daysBeforeYear_lt strict)
  · exact Int.le_refl _

/-- Four hundred years are 146097 days. -/
theorem daysBeforeYear_cycle (cycles year : Int) :
    daysBeforeYear (400 * cycles + year) = 146097 * cycles + daysBeforeYear year := by
  unfold daysBeforeYear; omega

/-- The year of a day, counted from 1 January of year 0: the mean length of a year gives it up to
one. -/
def yearOfDay (day : Int) : Int :=
  let mean := 400 * day / 146097
  if daysBeforeYear (mean + 1) ≤ day then mean + 1
  else if daysBeforeYear mean ≤ day then mean
  else mean - 1

/-- Within a cycle the mean length misses the year of a day by at most one. -/
theorem mean_near (year day : Int) (nonneg : 0 ≤ year) (cycle : year < 400)
    (low : 146097 * year ≤ 400 * day) (high : 400 * day < 146097 * year + 146097) :
    daysBeforeYear (year - 1) ≤ day ∧ day < daysBeforeYear (year + 2) := by
  have centuryBelow : (year - 2) / 100 = -1 ∨ (year - 2) / 100 = 0 ∨ (year - 2) / 100 = 1 ∨
      (year - 2) / 100 = 2 ∨ (year - 2) / 100 = 3 := by omega
  have centuryAbove : (year + 1) / 100 = 0 ∨ (year + 1) / 100 = 1 ∨ (year + 1) / 100 = 2 ∨
      (year + 1) / 100 = 3 ∨ (year + 1) / 100 = 4 := by omega
  unfold daysBeforeYear
  constructor
  · rw [show year - 1 - 1 = year - 2 by omega]
    rcases centuryBelow with century | century | century | century | century <;>
      rw [century] <;> omega
  · rw [show year + 2 - 1 = year + 1 by omega]
    rcases centuryAbove with century | century | century | century | century <;>
      rw [century] <;> omega

theorem yearOfDay_bounds (day : Int) :
    daysBeforeYear (yearOfDay day) ≤ day ∧ day < daysBeforeYear (yearOfDay day + 1) := by
  have near : ∀ year : Int, 146097 * year ≤ 400 * day → 400 * day < 146097 * year + 146097 →
      daysBeforeYear (year - 1) ≤ day ∧ day < daysBeforeYear (year + 2) := by
    intro year low high
    have inCycle := mean_near (year % 400) (day - 146097 * (year / 400)) (by omega) (by omega)
      (by omega) (by omega)
    have below := daysBeforeYear_cycle (year / 400) (year % 400 - 1)
    have above := daysBeforeYear_cycle (year / 400) (year % 400 + 2)
    rw [show 400 * (year / 400) + (year % 400 - 1) = year - 1 by omega] at below
    rw [show 400 * (year / 400) + (year % 400 + 2) = year + 2 by omega] at above
    omega
  have mean := near (400 * day / 146097) (by omega) (by omega)
  unfold yearOfDay
  dsimp only
  split
  · refine ⟨by assumption, ?_⟩
    rw [show 400 * day / 146097 + 1 + 1 = 400 * day / 146097 + 2 by omega]
    exact mean.2
  · split
    · constructor <;> omega
    · rw [show 400 * day / 146097 - 1 + 1 = 400 * day / 146097 by omega]
      constructor <;> omega

/-- The year of a day has begun. -/
theorem yearOfDay_le (day : Int) : daysBeforeYear (yearOfDay day) ≤ day :=
  (yearOfDay_bounds day).1

/-- The year of a day has not ended. -/
theorem lt_yearOfDay_succ (day : Int) : day < daysBeforeYear (yearOfDay day + 1) :=
  (yearOfDay_bounds day).2

/-- A day lies in one year only. -/
theorem yearOfDay_eq {day year : Int} (begun : daysBeforeYear year ≤ day)
    (unfinished : day < daysBeforeYear (year + 1)) : yearOfDay day = year := by
  have begun' := yearOfDay_le day
  have unfinished' := lt_yearOfDay_succ day
  rcases Int.lt_trichotomy (yearOfDay day) year with earlier | same | later
  · have := daysBeforeYear_le (show yearOfDay day + 1 ≤ year by omega); omega
  · exact same
  · have := daysBeforeYear_le (show year + 1 ≤ yearOfDay day by omega); omega

/-! ### Months -/

/-- The days of consecutive spans together. -/
def totalLength (lengths : List Nat) : Nat :=
  lengths.foldr Nat.add 0

theorem totalLength_cons (length : Nat) (rest : List Nat) :
    totalLength (length :: rest) = length + totalLength rest := rfl

/-- The lengths of the months of a year, from January on. -/
def monthLengths (year : Int) : List Nat :=
  [31, if isLeap year then 29 else 28, 31, 30, 31, 30, 31, 31, 30, 31, 30, 31]

/-- The number of days of a month; a number that names no month has none. -/
def monthLength (year : Int) (month : Nat) : Nat :=
  (0 :: monthLengths year).getD month 0

/-- The number of days of a year before the first of a month. -/
def daysBeforeMonth (year : Int) (month : Nat) : Nat :=
  totalLength ((monthLengths year).take (month - 1))

theorem totalLength_monthLengths (year : Int) :
    totalLength (monthLengths year) = if isLeap year then 366 else 365 := by
  unfold monthLengths; split <;> rfl

/-- The place of a day in consecutive spans: the index of its span, and the days of the span before
it. -/
def locate : List Nat → Nat → Nat × Nat
  | [], day => (0, day)
  | length :: rest, day =>
    if day < length then (0, day)
    else ((locate rest (day - length)).1 + 1, (locate rest (day - length)).2)

/-- A day within the spans lies in the span found for it. -/
theorem locate_bounds {lengths : List Nat} {day : Nat} (inside : day < totalLength lengths) :
    (locate lengths day).2 < lengths.getD (locate lengths day).1 0 ∧
      totalLength (lengths.take (locate lengths day).1) + (locate lengths day).2 = day := by
  induction lengths generalizing day with
  | nil => simp [totalLength] at inside
  | cons length rest later =>
    unfold locate
    split
    · next within => exact ⟨within, by simp [totalLength]⟩
    · next beyond =>
      rw [totalLength_cons] at inside
      obtain ⟨within, total⟩ := later (show day - length < totalLength rest by omega)
      refine ⟨by simpa using within, ?_⟩
      rw [List.take_succ_cons, totalLength_cons]
      omega

/-! ### Dates -/

/-- A date between the years -9999 and 9999. -/
structure Date where
  year : Int
  month : Nat
  day : Nat
  year_range : -9999 ≤ year ∧ year ≤ 9999
  day_range : 1 ≤ day ∧ day ≤ monthLength year month
  deriving DecidableEq, Repr

namespace Date

/-- The date with the given parts, if there is one. -/
def ofParts? (year : Int) (month day : Nat) : Option Date :=
  if valid : (-9999 ≤ year ∧ year ≤ 9999) ∧ 1 ≤ day ∧ day ≤ monthLength year month then
    some ⟨year, month, day, valid.1, valid.2⟩
  else none

/-- The number of days from 1 January of year 0 to 1 January 1970. -/
def epoch : Int := 719528

theorem daysBeforeYear_epoch : daysBeforeYear 1970 = epoch := by decide

/-- The number of days from 1970-01-01. -/
def dayNumber (date : Date) : Int :=
  daysBeforeYear date.year + daysBeforeMonth date.year date.month + (date.day - 1) - epoch

/-- The number of the first date. -/
def firstDay : Int := -4371587

/-- The number of the last date. -/
def lastDay : Int := 2932896

theorem firstDay_eq : firstDay = daysBeforeYear (-9999) - epoch := by decide

theorem lastDay_eq : lastDay = daysBeforeYear 10000 - 1 - epoch := by decide

theorem yearOfDay_range {day : Int} (first : firstDay ≤ day) (last : day ≤ lastDay) :
    -9999 ≤ yearOfDay (day + epoch) ∧ yearOfDay (day + epoch) ≤ 9999 := by
  have begun := yearOfDay_le (day + epoch)
  have unfinished := lt_yearOfDay_succ (day + epoch)
  rw [firstDay_eq] at first
  rw [lastDay_eq] at last
  constructor
  · refine Int.not_lt.mp fun early => ?_
    have := daysBeforeYear_le (show yearOfDay (day + epoch) + 1 ≤ -9999 by omega)
    omega
  · refine Int.not_lt.mp fun late => ?_
    have := daysBeforeYear_le (show 10000 ≤ yearOfDay (day + epoch) by omega)
    omega

/-- The place of a day within its year. -/
def dayOfYear (day : Int) : Nat :=
  (day + epoch - daysBeforeYear (yearOfDay (day + epoch))).toNat

theorem dayOfYear_lt (day : Int) :
    dayOfYear day < totalLength (monthLengths (yearOfDay (day + epoch))) := by
  have begun := yearOfDay_le (day + epoch)
  have unfinished := lt_yearOfDay_succ (day + epoch)
  rw [daysBeforeYear_succ] at unfinished
  rw [totalLength_monthLengths, dayOfYear]
  split at unfinished <;> simp_all <;> omega

/-- The date of a day number. -/
def ofDayNumber (day : Int) (first : firstDay ≤ day) (last : day ≤ lastDay) : Date :=
  let year := yearOfDay (day + epoch)
  let place := locate (monthLengths year) (dayOfYear day)
  { year
    month := place.1 + 1
    day := place.2 + 1
    year_range := yearOfDay_range first last
    day_range := by
      have bounds := (locate_bounds (dayOfYear_lt day)).1
      refine ⟨by omega, ?_⟩
      simpa [monthLength, Nat.succ_le_iff] using bounds }

theorem dayNumber_ofDayNumber (day : Int) (first : firstDay ≤ day) (last : day ≤ lastDay) :
    (ofDayNumber day first last).dayNumber = day := by
  have total := (locate_bounds (dayOfYear_lt day)).2
  have begun := yearOfDay_le (day + epoch)
  unfold dayNumber ofDayNumber daysBeforeMonth
  simp only [Nat.add_sub_cancel]
  rw [dayOfYear] at total
  rw [dayOfYear]
  omega

/-- The date of a day number, if the calendar reaches it. -/
def ofDayNumber? (day : Int) : Option Date :=
  if range : firstDay ≤ day ∧ day ≤ lastDay then some (ofDayNumber day range.1 range.2) else none

/-- The next date; the last one has none. -/
def tomorrow? (date : Date) : Option Date :=
  ofDayNumber? (date.dayNumber + 1)

end Date

end TaskQuery.Calendar
