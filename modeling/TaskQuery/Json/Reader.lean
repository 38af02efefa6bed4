/-
**Reading JSON of a known shape.**

A reader goes through a text from left to right and stops at the first thing that is wrong: the
text ends too early, it is no JSON, or it is JSON of another shape. Which of the three it is
depends only on the text up to that place.

* `readText`, `readInt8`: texts and small whole numbers.
* `readEntries`, `readItem?`: objects and lists.
* `skipValue`: a value that nobody asks for.
* `readDocument`: a text that holds one value and nothing else.
-/

import TaskQuery.Json.Magnitude

namespace TaskQuery.Json

/-- What is wrong with a text. -/
inductive Fault where
  /-- The text ends too early. -/
  | unfinished
  /-- The text is no JSON. -/
  | malformed
  /-- The text is JSON of another shape. -/
  | mismatched
  deriving DecidableEq, Repr

/-- A wording of a fault, which says of which kind it is but not where it was met. -/
def Fault.message : Fault → String
  | unfinished => "the text ends too early"
  | malformed => "the text is not JSON"
  | mismatched => "a value has the wrong type or is out of range"

/-- A reader takes some characters of a text or meets a fault. -/
abbrev Reader := StateT (List Char) (Except Fault)

namespace Reader

/-! ### Characters -/

/-- The blanks between the parts of a JSON text. -/
def isSeparator (c : Char) : Bool :=
  c == ' ' || c == '\n' || c == '\t' || c == '\r'

/-- Stops with a fault. -/
def fail {α : Type} (fault : Fault) : Reader α :=
  throw fault

/-- Takes the next character, if there is one. -/
def take? : Reader (Option Char) := fun text => .ok (text.head?, text.tail)

/-- Looks at the next character. -/
def look? : Reader (Option Char) := fun text => .ok (text.head?, text)

/-- Skips blanks and looks at the next character. -/
def peek? : Reader (Option Char) := fun text =>
  let text := text.dropWhile isSeparator
  .ok (text.head?, text)

/-- Skips blanks and looks at the next character, which has to be there. -/
def peek : Reader Char := do
  match ← peek? with
  | some c => pure c
  | none => fail .unfinished

/-- Drops the next character. -/
def drop : Reader Unit :=
  modify List.tail

/-- Takes the rest of a word whose first letter has been taken. -/
def word : List Char → Reader Unit
  | [] => pure ()
  | letter :: rest => do
    match ← take? with
    | none => fail .unfinished
    | some c => if c = letter then word rest else fail .malformed

/-- Takes the digits at the start of the text. -/
def digits : Reader (List Char) := fun text =>
  .ok (text.takeWhile Char.isDigit, text.dropWhile Char.isDigit)

/-! ### Numbers -/

/-- At least one digit. -/
def someDigits : Reader (List Char) := do
  let found ← digits
  if found.isEmpty then
    match ← look? with
    | none => fail .unfinished
    | some _ => fail .malformed
  else pure found

/-- The sign and digits of an exponent, whose letter has been taken. -/
def exponent : Reader Int := do
  let sign ← look?
  if sign = some '+' ∨ sign = some '-' then drop
  let found ← someDigits
  let value : Int := Text.digitsValue found
  pure (if sign = some '-' then -value else value)

/-- The fraction and exponent after whole digits, if there is one of them: the magnitude of the
number. -/
def scaled? (whole : Magnitude) : Reader (Option Magnitude) := do
  let point ← look?
  let fraction ← if point = some '.' then drop *> someDigits else pure []
  let magnitude := whole.withFraction fraction
  let letter ← look?
  if letter = some 'e' ∨ letter = some 'E' then
    drop
    return some (magnitude.scale (← exponent))
  else return if point = some '.' then some magnitude else none

/-- The whole digits of a number: a leading zero stands alone. -/
def wholeDigits : Reader (List Char) := do
  let found ← someDigits
  if found.head? = some '0' ∧ found.length > 1 then fail .malformed else pure found

/-- A number after its sign: its value if it is written as a whole number other than minus zero. -/
def number? (negative : Bool) : Reader (Option Int) := do
  let whole ← wholeDigits
  let magnitude := Magnitude.ofWhole whole
  match ← scaled? magnitude with
  | some scaled => if scaled.isInfinite then fail .malformed else pure none
  | none =>
    let value : Int := Text.digitsValue whole
    if magnitude.isInfinite then fail .malformed
    else if negative then pure (if value = 0 then none else some (-value))
    else pure (some value)

/-! ### Texts -/

/-- The value of a hexadecimal digit. -/
def hexValue? (c : Char) : Option Nat :=
  if '0' ≤ c ∧ c ≤ '9' then some (c.toNat - '0'.toNat)
  else if 'a' ≤ c ∧ c ≤ 'f' then some (c.toNat - 'a'.toNat + 10)
  else if 'A' ≤ c ∧ c ≤ 'F' then some (c.toNat - 'A'.toNat + 10)
  else none

/-- The code unit of four hexadecimal digits; fewer than four bytes are an early end. -/
def codeUnit : Reader Nat := fun text =>
  if (String.ofList text).utf8ByteSize < 4 then .error .unfinished
  else
    match (text.take 4).mapM hexValue? with
    | some [a, b, c, d] => .ok (((a * 16 + b) * 16 + c) * 16 + d, text.drop 4)
    | _ => .error .malformed

/-- The next character, which has to be the expected one. -/
def expect (expected : Char) : Reader Unit := do
  match ← take? with
  | none => fail .unfinished
  | some c => if c = expected then pure () else fail .malformed

/-- The character of a code unit, together with a second one if the first is a leading surrogate. -/
def surrogates (unit : Nat) : Reader Char := do
  if 0xDC00 ≤ unit ∧ unit ≤ 0xDFFF then fail .malformed
  else if 0xD800 ≤ unit ∧ unit ≤ 0xDBFF then
    expect '\\'
    expect 'u'
    let second ← codeUnit
    if 0xDC00 ≤ second ∧ second ≤ 0xDFFF then
      pure (Char.ofNat (0x10000 + (unit - 0xD800) * 0x400 + (second - 0xDC00)))
    else fail .malformed
  else pure (Char.ofNat unit)

/-- The character of an escape that is a single letter. -/
def letterEscape? : Char → Option Char
  | '"' => some '"'
  | '\\' => some '\\'
  | '/' => some '/'
  | 'b' => some '\x08'
  | 'f' => some '\x0c'
  | 'n' => some '\n'
  | 'r' => some '\r'
  | 't' => some '\t'
  | _ => none

/-- The character of an escape after its backslash. In a text that is skipped, surrogates need no
partner. -/
def escaped (skipping : Bool) : Reader Char := do
  match ← take? with
  | none => fail .unfinished
  | some 'u' =>
    let unit ← codeUnit
    if skipping then pure ' ' else surrogates unit
  | some c =>
    match letterEscape? c with
    | some meant => pure meant
    | none => fail .malformed

/-- The characters up to the closing quote, at most as many as the fuel. -/
def charsUpTo (skipping : Bool) : Nat → List Char → Reader (List Char)
  | 0, _ => fail .unfinished
  | fuel + 1, found => do
    match ← take? with
    | none => fail .unfinished
    | some '"' => pure found.reverse
    | some '\\' =>
      let c ← escaped skipping
      charsUpTo skipping fuel (c :: found)
    | some c => if c < ' ' then fail .malformed else charsUpTo skipping fuel (c :: found)

/-- The characters up to the closing quote. -/
def chars (skipping : Bool) : Reader String := do
  let fuel := (← get).length + 1
  return String.ofList (← charsUpTo skipping fuel [])

/-! ### Values that do not fit -/

/-- Takes a value of another shape as far as its first token and stops: a fault in the token comes
before the mismatch. -/
def mismatch {α : Type} : Reader α := do
  match ← peek with
  | 'n' => drop *> word ['u', 'l', 'l'] *> fail .mismatched
  | 't' => drop *> word ['r', 'u', 'e'] *> fail .mismatched
  | 'f' => drop *> word ['a', 'l', 's', 'e'] *> fail .mismatched
  | '-' => drop *> number? true *> fail .mismatched
  | '"' => drop *> chars false *> fail .mismatched
  | '[' => fail .mismatched
  | '\x7b' => fail .mismatched
  | c => if c.isDigit then number? false *> fail .mismatched else fail .malformed

/-- A text. -/
def readText : Reader String := do
  if (← peek) = '"' then drop *> chars false else mismatch

/-- A whole number of 8 bits. -/
def readInt8 : Reader Int := do
  let first ← peek
  let value ←
    if first = '-' then drop *> number? true
    else if first.isDigit then number? false
    else mismatch
  match value with
  | some value => if Text.isInt8 value then pure value else fail .mismatched
  | none => fail .mismatched

/-! ### Skipped values -/

/-- A part of a number that is skipped: it needs a digit, whatever stands there instead. -/
def skipDigits : Reader Unit := do
  if (← digits).isEmpty then fail .malformed

/-- A number that is skipped, after its sign. -/
def skipNumber : Reader Unit := do
  let found ← digits
  if found.isEmpty ∨ (found.head? = some '0' ∧ found.length > 1) then fail .malformed
  if (← look?) = some '.' then drop *> skipDigits
  let letter ← look?
  if letter = some 'e' ∨ letter = some 'E' then
    drop
    let sign ← look?
    if sign = some '+' ∨ sign = some '-' then drop
    skipDigits

/-- The colon between a name and its value. -/
def colon : Reader Unit := do
  if (← peek) = ':' then drop else fail .malformed

/-- The quote that opens a name. -/
def openName : Reader Unit := do
  if (← peek) = '"' then drop else fail .malformed

mutual

/-- A value of any shape, nested no deeper than the fuel. -/
def skipNested : Nat → Reader Unit
  | 0 => fail .unfinished
  | fuel + 1 => do
    match ← peek with
    | 'n' => drop *> word ['u', 'l', 'l']
    | 't' => drop *> word ['r', 'u', 'e']
    | 'f' => drop *> word ['a', 'l', 's', 'e']
    | '-' => drop *> skipNumber
    | '"' =>
      drop
      let _ ← chars true
    | '[' =>
      drop
      if (← peek) = ']' then drop else skipItems fuel
    | '\x7b' =>
      drop
      if (← peek) = '\x7d' then drop else skipFields fuel
    | c => if c.isDigit then skipNumber else fail .malformed

/-- The items of a list up to its bracket, no more than the fuel. -/
def skipItems : Nat → Reader Unit
  | 0 => fail .unfinished
  | fuel + 1 => do
    skipNested fuel
    match ← peek with
    | ',' => drop *> skipItems fuel
    | ']' => drop
    | _ => fail .malformed

/-- The fields of an object up to its brace, no more than the fuel. -/
def skipFields : Nat → Reader Unit
  | 0 => fail .unfinished
  | fuel + 1 => do
    openName
    let _ ← chars true
    colon
    skipNested fuel
    match ← peek with
    | ',' => drop *> skipFields fuel
    | '\x7d' => drop
    | _ => fail .malformed

end

/-- A value of any shape: each level and each member takes a character at least and two units of
fuel at most. -/
def skipValue : Reader Unit := do
  skipNested (2 * (← get).length + 2)

/-! ### Objects and lists -/

/-- The entries of an object whose brace has been taken, no more than the fuel. A name is handed
over before its colon. -/
def entriesUpTo {σ : Type} (entry : String → σ → Reader σ) : Nat → Bool → σ → Reader σ
  | 0, _, _ => fail .unfinished
  | fuel + 1, first, state => do
    match ← peek with
    | '\x7d' => drop *> pure state
    | c =>
      if !first then
        if c = ',' then drop else fail .malformed
      openName
      let name ← chars false
      let state ← entry name state
      entriesUpTo entry fuel false state

/-- The entries of an object whose brace has been taken. -/
def readEntries {σ : Type} (entry : String → σ → Reader σ) (start : σ) : Reader σ := do
  entriesUpTo entry ((← get).length + 1) true start

/-- The value of a field after its name. -/
def fieldValue {α : Type} (value : Reader α) : Reader α :=
  colon *> value

/-- The next item of a list whose bracket has been taken, if there is one. -/
def readItem? {α : Type} (first : Bool) (item : Reader α) : Reader (Option α) := do
  match ← peek with
  | ']' => pure none
  | c =>
    if first then some <$> item
    else if c = ',' then
      drop
      if (← peek) = ']' then fail .malformed else some <$> item
    else fail .malformed

/-- The bracket of a list all of whose expected items have been taken. -/
def closeList : Reader Unit := do
  if (← peek) = ']' then drop else fail .malformed

/-! ### Documents -/

/-- Reads a text that holds one value and nothing but blanks around it. -/
def readDocument {α : Type} (value : Reader α) (text : String) : Except Fault α := do
  let (found, rest) ← value text.toList
  if (rest.dropWhile isSeparator).isEmpty then pure found else throw .malformed

end Reader

end TaskQuery.Json
