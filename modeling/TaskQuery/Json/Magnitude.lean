/-
**Magnitudes of decimal numbers.**

A number that is no small whole number is only checked for its size: it must not round to infinity
as a binary number of 64 bits. Its significand keeps digits as long as they fit in 64 bits;
significand and power of ten are each rounded to 53 binary digits before they are multiplied.

* `Magnitude.isInfinite`: whether a number is too large.
* `Magnitude.isInfinite_zero`: zero never is, whatever its power of ten.
-/

import TaskQuery.Text.Numeral

namespace TaskQuery.Json

/-- A significand and the power of ten that it is multiplied by. -/
structure Magnitude where
  significand : Nat := 0
  exponent : Int := 0
  deriving DecidableEq, Repr

namespace Magnitude

/-- The number of significands of 64 bits. -/
def significandCount : Nat := 18446744073709551616

/-- A significand with more digits, as long as it fits, and the digits that do not. -/
def extend (significand : Nat) : List Char → Nat × List Char
  | [] => (significand, [])
  | digit :: rest =>
    let longer := 10 * significand + Text.digitValue digit
    if longer < significandCount then extend longer rest else (significand, digit :: rest)

/-- The magnitude of whole digits: each digit that does not fit counts as a power of ten. -/
def ofWhole (digits : List Char) : Magnitude :=
  let extended := extend 0 digits
  { significand := extended.1, exponent := extended.2.length }

/-- A magnitude with the digits of a fraction: those that do not fit are dropped. -/
def withFraction (magnitude : Magnitude) (digits : List Char) : Magnitude :=
  let extended := extend magnitude.significand digits
  { significand := extended.1
    exponent := magnitude.exponent - (digits.length - extended.2.length : Nat) }

/-- A magnitude multiplied by a power of ten. -/
def scale (magnitude : Magnitude) (power : Int) : Magnitude :=
  { magnitude with exponent := magnitude.exponent + power }

/-- A number rounded to 53 binary digits, a tie to the even neighbour. -/
def roundBinary (value : Nat) : Nat :=
  let unit := Nat.pow 2 (value.log2 - 52)
  let below := value / unit
  let rest := value % unit
  if unit < 2 * rest ∨ (unit = 2 * rest ∧ below % 2 = 1) then (below + 1) * unit else below * unit

/-- The least number that rounds to infinity: half a step above the largest finite one. -/
def infinity : Nat :=
  Nat.pow 2 1024 - Nat.pow 2 970

/-- The largest power of ten that is finite. -/
def largestPower : Int := 308

/-- Whether a number is too large to be finite. -/
def isInfinite (magnitude : Magnitude) : Bool :=
  magnitude.significand != 0 &&
    (largestPower < magnitude.exponent ||
      (0 ≤ magnitude.exponent &&
        infinity ≤ roundBinary magnitude.significand
          * roundBinary (Nat.pow 10 magnitude.exponent.toNat)))

/-- Zero is finite, whatever its power of ten. -/
theorem isInfinite_zero (exponent : Int) : isInfinite { significand := 0, exponent } = false := rfl

end Magnitude

end TaskQuery.Json
