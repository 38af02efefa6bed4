/-
**Written forms of local times.**

A pattern is a list of fields, literal characters and gaps. Writing fills the fields with digits
of a fixed width. Reading is more tolerant: a gap matches any run of ASCII blanks, also none, a
field may be preceded by such blanks and may have fewer digits than its width, and a year may have
a sign.

* `digitsOfWidth_length`: a field is written with the digits of its width.
* `Pattern.write`, `Pattern.read?`: writing and reading.
* `stamp`: the form in which trigger times are stored.
-/

import TaskQuery.Calendar.Instant
import TaskQuery.Text.Numeral

namespace TaskQuery.Calendar

/-! ### Patterns -/

/-- The parts of a local time that a pattern can show. -/
inductive Field where
  | year
  | month
  | day
  | hour
  | minute
  | second
  deriving DecidableEq, Repr

namespace Field

/-- The letter of a field in the text of a pattern. -/
def letter : Field → Char
  | year => 'Y'
  | month => 'm'
  | day => 'd'
  | hour => 'H'
  | minute => 'M'
  | second => 'S'

/-- The largest number of digits of a field. -/
def width : Field → Nat
  | year => 4
  | _ => 2

/-- The values that may stand in a field; the leap second is read, too. -/
def admits : Field → Int → Bool
  | year, value => -9999 ≤ value && value ≤ 9999
  | month, value => 1 ≤ value && value ≤ 12
  | day, value => 1 ≤ value && value ≤ 31
  | hour, value => 0 ≤ value && value ≤ 23
  | minute, value => 0 ≤ value && value ≤ 59
  | second, value => 0 ≤ value && value ≤ 60

end Field

/-- A part of a pattern. -/
inductive Piece where
  | field (part : Field)
  | literal (c : Char)
  /-- A space between two parts. -/
  | gap
  deriving DecidableEq, Repr

/-- A written form of local times. -/
abbrev Pattern := List Piece

namespace Piece

/-- The text of a part in a pattern. -/
def text : Piece → List Char
  | field part => ['%', part.letter]
  | literal c => [c]
  | gap => [' ']

end Piece

/-! ### Writing -/

/-- The last digits of a number, as many as the width says. -/
def digitsOfWidth : Nat → Nat → List Char
  | 0, _ => []
  | width + 1, value => digitsOfWidth width (value / 10) ++ [Nat.digitChar (value % 10)]

theorem digitsOfWidth_length (width value : Nat) : (digitsOfWidth width value).length = width := by
  induction width generalizing value with
  | zero => rfl
  | succ width shorter => simp [digitsOfWidth, shorter]

/-- A year with four characters; of a negative one the sign is among them as long as it fits. -/
def writeYear (year : Int) : List Char :=
  if 0 ≤ year then digitsOfWidth 4 year.toNat
  else '-' :: digitsOfWidth (if year.natAbs < 1000 then 3 else 4) year.natAbs

/-- A field of a local time. -/
def Field.write (time : LocalTime) : Field → List Char
  | year => writeYear time.date.year
  | month => digitsOfWidth 2 time.date.month
  | day => digitsOfWidth 2 time.date.day
  | hour => digitsOfWidth 2 time.clock.hour
  | minute => digitsOfWidth 2 time.clock.minute
  | second => digitsOfWidth 2 time.clock.second

/-- A part of a pattern, filled from a local time. -/
def Piece.write (time : LocalTime) : Piece → List Char
  | field part => part.write time
  | literal c => [c]
  | gap => [' ']

namespace Pattern

/-- The text of a pattern, each field as a percent sign and its letter. -/
def text (pattern : Pattern) : String :=
  String.ofList (pattern.flatMap Piece.text)

/-- A local time written in a pattern. -/
def write (pattern : Pattern) (time : LocalTime) : String :=
  String.ofList (pattern.flatMap (Piece.write time))

end Pattern

/-! ### Reading -/

/-- The blanks of ASCII that may stand in a written time. -/
def isAsciiBlank : Char → Bool
  | ' ' | '\t' | '\n' | '\x0c' | '\r' => true
  | _ => false

/-- The values read from the fields of a pattern. -/
structure Fields where
  year : Option Int := none
  month : Option Nat := none
  day : Option Nat := none
  hour : Option Nat := none
  minute : Option Nat := none
  second : Option Nat := none
  deriving DecidableEq, Repr

namespace Fields

/-- The fields with one more value; a leap second counts as the second before it. -/
def set (fields : Fields) (part : Field) (value : Int) : Fields :=
  match part with
  | .year => { fields with year := some value }
  | .month => { fields with month := some value.toNat }
  | .day => { fields with day := some value.toNat }
  | .hour => { fields with hour := some value.toNat }
  | .minute => { fields with minute := some value.toNat }
  | .second => { fields with second := some (min value.toNat 59) }

end Fields

/-- Blanks, then at least one digit and at most as many as the width says; the value and the text
after them. -/
def readDigits? (width : Nat) (text : List Char) : Option (Nat × List Char) :=
  let text := text.dropWhile isAsciiBlank
  let digits := (text.take width).takeWhile Char.isDigit
  (Text.digits? digits).map fun value => (value, text.drop digits.length)

/-- The digits of a field, after a sign if the field is a year. -/
def Field.readSigned? : Field → List Char → Option (Int × List Char)
  | year, '+' :: rest => (readDigits? 4 rest).map fun found => (found.1, found.2)
  | year, '-' :: rest => (readDigits? 4 rest).map fun found => (-found.1, found.2)
  | part, text => (readDigits? part.width text).map fun found => (found.1, found.2)

/-- The value of a field and the text after it. -/
def Field.read? (part : Field) (text : List Char) : Option (Int × List Char) :=
  (part.readSigned? text).filter fun found => part.admits found.1

namespace Pattern

/-- Reads the parts of a pattern one after the other and must use up the text. -/
def readInto? : Pattern → Fields → List Char → Option Fields
  | [], fields, [] => some fields
  | [], _, _ :: _ => none
  | .field part :: rest, fields, text =>
    match part.read? text with
    | some (value, after) => readInto? rest (fields.set part value) after
    | none => none
  | .literal expected :: rest, fields, c :: after =>
    if c = expected then readInto? rest fields after else none
  | .literal _ :: _, _, [] => none
  | .gap :: rest, fields, text => readInto? rest fields (text.dropWhile isAsciiBlank)

/-- The values that a text gives to the fields of a pattern. -/
def read? (pattern : Pattern) (text : List Char) : Option Fields :=
  readInto? pattern {} text

/-! ### The parts of patterns -/

/-- The fields of a list with a literal character between any two. -/
def separated (c : Char) : List Field → Pattern
  | [] => []
  | [part] => [.field part]
  | part :: rest => .field part :: .literal c :: separated c rest

/-- Hours, minutes and seconds. -/
def toSeconds : Pattern :=
  separated ':' [.hour, .minute, .second]

/-- Hours and minutes. -/
def toMinutes : Pattern :=
  separated ':' [.hour, .minute]

/-- Year, month and day with a separator. -/
def yearFirst (c : Char) : Pattern :=
  separated c [.year, .month, .day]

/-- Day, month and year with slashes. -/
def yearLast : Pattern :=
  separated '/' [.day, .month, .year]

/-- Month and day with a hyphen. -/
def monthDay : Pattern :=
  separated '-' [.month, .day]

/-- Day and month with a slash. -/
def dayMonth : Pattern :=
  separated '/' [.day, .month]

/-- The form of a stored trigger time. -/
def trigger : Pattern :=
  yearFirst '-' ++ [.gap] ++ toSeconds

end Pattern

/-- An instant in the form in which trigger times are stored. -/
def stamp (instant : Instant) (zone : Zone) : String :=
  Pattern.trigger.write (LocalTime.inZone instant zone)

end TaskQuery.Calendar
