/-
**How often a task comes back.**

A frequency is one of five words or a number of days.

* `text`, `ofText?`: its written form and its reading.
* `ofText?_text_word`: the five words are read back.
-/

import TaskQuery.Text.Numeral

namespace TaskQuery

/-- The repetition of a task. -/
inductive Frequency where
  | daily
  | weekly
  | biweekly
  | monthly
  | yearly
  /-- Every so many days: at least one, and a count of 32 bits. -/
  | days (count : Nat) (positive : 0 < count) (fits : count < Text.wordCount)
  deriving DecidableEq, Repr

namespace Frequency

/-- The written form. -/
def text : Frequency → String
  | daily => "daily"
  | weekly => "weekly"
  | biweekly => "biweekly"
  | monthly => "monthly"
  | yearly => "yearly"
  | days count _ _ => toString count

/-- A number of days, if it is a positive count. -/
def ofDays? (count : Nat) : Option Frequency :=
  if valid : 0 < count ∧ count < Text.wordCount then some (days count valid.1 valid.2) else none

/-- The frequency that a text writes. -/
def ofText? (text : String) : Option Frequency :=
  match text with
  | "daily" => some daily
  | "weekly" => some weekly
  | "biweekly" => some biweekly
  | "monthly" => some monthly
  | "yearly" => some yearly
  | text => (Text.word32? text).bind ofDays?

/-- The number of days of a frequency that counts them. -/
def dayCount? : Frequency → Option Nat
  | days count _ _ => some count
  | _ => none

/-- A word is read back as the frequency it writes. -/
theorem ofText?_text_word {frequency : Frequency} (word : frequency.dayCount? = none) :
    ofText? frequency.text = some frequency := by
  cases frequency with
  | days count positive fits => simp [dayCount?] at word
  | _ => rfl

end Frequency

end TaskQuery
