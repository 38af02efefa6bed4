/-
**Decimal numerals.**

A numeral is an optional sign and one or more ASCII digits; leading zeros are allowed, and a value
outside the range asked for is no numeral of that range.

* `digits?_eq_some_iff`: exactly the non-empty runs of digits have a value.
-/

namespace TaskQuery.Text

/-- The value of a digit. -/
def digitValue (digit : Char) : Nat :=
  digit.toNat - '0'.toNat

/-- The value of a run of digits, the most significant first. -/
def digitsValue (digits : List Char) : Nat :=
  digits.foldl (fun value digit => 10 * value + digitValue digit) 0

/-- The value of an unsigned numeral. -/
def digits? (text : List Char) : Option Nat :=
  if text ≠ [] ∧ text.all Char.isDigit then some (digitsValue text) else none

theorem digits?_eq_some_iff {text : List Char} {value : Nat} :
    digits? text = some value ↔
      text ≠ [] ∧ text.all Char.isDigit = true ∧ digitsValue text = value := by
  simp [digits?, and_assoc]

/-- The value of a numeral whose only sign is a plus. -/
def natural? : List Char → Option Nat
  | '+' :: digits => digits? digits
  | digits => digits? digits

/-- The value of a numeral with either sign. -/
def integer? : List Char → Option Int
  | '+' :: digits => (digits? digits).map Int.ofNat
  | '-' :: digits => (digits? digits).map fun value => -Int.ofNat value
  | digits => (digits? digits).map Int.ofNat

/-! ### Ranges -/

/-- The number of counts of 32 bits. -/
abbrev wordCount : Nat := 4294967296

/-- Whether a number is a signed number of 64 bits. -/
def isInt64 (value : Int) : Bool :=
  -9223372036854775808 ≤ value && value ≤ 9223372036854775807

/-- Whether a number is a signed number of 8 bits. -/
def isInt8 (value : Int) : Bool :=
  -128 ≤ value && value ≤ 127

/-- A numeral of a count of 32 bits. -/
def word32? (text : String) : Option Nat :=
  (natural? text.toList).filter (· < wordCount)

/-- A numeral of a signed number of 64 bits. -/
def int64? (text : String) : Option Int :=
  (integer? text.toList).filter isInt64

/-- A numeral of a signed number of 8 bits. -/
def int8? (text : String) : Option Int :=
  (integer? text.toList).filter isInt8

end TaskQuery.Text
