/-
**The tokens of a query.**

A query is written with two interchangeable signs, `#` and `@`. Its tokens are spaces, the markers
that begin with a sign, the six comparisons, two terminators, and runs of characters that are
neither blank nor special: a run of tag characters is a name, any other run is plain text.

* `isTagChar_false_of_isSpecial`, `isTagChar_false_of_isBlank`, `isSpecial_false_of_isBlank`: the
  classes of characters do not overlap.
* `Token.text`: what a token is written as.
-/

import TaskQuery.Text.Alphanumeric
import TaskQuery.Text.Blank

namespace TaskQuery

/-! ### Signs and comparisons -/

/-- The two signs that begin a marker; either may stand for the other. -/
inductive Sign where
  | hash
  | atSign
  deriving DecidableEq, Repr

namespace Sign

/-- The character of a sign. -/
def char : Sign → Char
  | hash => '#'
  | atSign => '@'

/-- The sign that a character writes. -/
def ofChar? : Char → Option Sign
  | '#' => some hash
  | '@' => some atSign
  | _ => none

theorem ofChar?_char (sign : Sign) : ofChar? sign.char = some sign := by
  cases sign <;> rfl

theorem char_of_ofChar? {c : Char} {sign : Sign} (found : ofChar? c = some sign) :
    sign.char = c := by
  unfold ofChar? at found
  split at found <;> cases found <;> rfl

end Sign

/-- The six comparisons. -/
inductive Comparison where
  | le
  | ge
  | ne
  | eq
  | lt
  | gt
  deriving DecidableEq, Repr

namespace Comparison

/-- The comparison as it is written in a query. -/
def text : Comparison → String
  | le => "<="
  | ge => ">="
  | ne => "!="
  | eq => "="
  | lt => "<"
  | gt => ">"

/-- All comparisons, those of two characters first. -/
def all : List Comparison :=
  [le, ge, ne, eq, lt, gt]

/-- The comparison that a text writes. -/
def ofText? (written : String) : Option Comparison :=
  all.find? fun comparison => comparison.text == written

theorem ofText?_text (comparison : Comparison) : ofText? comparison.text = some comparison := by
  cases comparison <;> rfl

end Comparison

/-! ### Classes of characters -/

/-- The characters of tag names, option names and dates. -/
def isTagChar (c : Char) : Bool :=
  isTagPunctuation c || Text.isAlphanumeric c
where
  /-- The tag characters that are neither letters nor numbers. -/
  isTagPunctuation : Char → Bool
    | '+' | '-' | '/' | ',' | '_' | ':' => true
    | _ => false

/-- The characters that never stand in a run. -/
def isSpecial : Char → Bool
  | '#' | '@' | '!' | '?' | '<' | '>' | '=' => true
  | _ => false

/-- The characters of plain text that cannot be part of a name. -/
def isPlainChar (c : Char) : Bool :=
  !Text.isBlank c && !isTagChar c && !isSpecial c

/-- Whether a text is a name: one or more tag characters. -/
def isTagName (name : List Char) : Bool :=
  !name.isEmpty && name.all isTagChar

/-- Whether a name may open a tag: its first character is a letter, a number or an underscore. -/
def opensTag : List Char → Bool
  | c :: _ => Text.isAlphanumeric c || c == '_'
  | [] => false

/-- No special character is a tag character. -/
theorem isTagChar_false_of_isSpecial {c : Char} (special : isSpecial c = true) :
    isTagChar c = false := by
  unfold isSpecial at special
  split at special
  all_goals first | (exact absurd special (by decide)) | decide

/-- No blank is a tag character. -/
theorem isTagChar_false_of_isBlank {c : Char} (blank : Text.isBlank c = true) :
    isTagChar c = false := by
  have listed : ∀ code ∈ Text.blankCodes, isTagChar (Char.ofNat code) = false := by
    decide +kernel
  exact Char.ofNat_toNat c ▸ listed c.toNat (Text.mem_blankCodes blank)

/-- No blank is a special character. -/
theorem isSpecial_false_of_isBlank {c : Char} (blank : Text.isBlank c = true) :
    isSpecial c = false := by
  have listed : ∀ code ∈ Text.blankCodes, isSpecial (Char.ofNat code) = false := by
    decide +kernel
  exact Char.ofNat_toNat c ▸ listed c.toNat (Text.mem_blankCodes blank)

/-! ### Tokens -/

/-- A token of a query. -/
inductive Token where
  /-- A run of blanks. -/
  | space
  /-- A doubled sign, which stands for the sign itself. -/
  | escape (sign : Sign)
  /-- The marker of a saved search, `#%`. -/
  | savedMark (sign : Sign)
  /-- The marker of an option or field, `#:`. -/
  | optionMark (sign : Sign)
  /-- A sign alone, the marker of a tag. -/
  | tagMark (sign : Sign)
  /-- A comparison. -/
  | comparison (relation : Comparison)
  /-- An exclamation mark. -/
  | bang
  /-- A question mark. -/
  | ask
  /-- A maximal run of tag characters. -/
  | name (run : List Char)
  /-- A maximal run of plain characters. -/
  | plain (run : List Char)
  deriving DecidableEq, Repr

namespace Token

/-- What a token is written as; a run of blanks is written as one space. -/
def text : Token → List Char
  | space => [' ']
  | escape sign => [sign.char, sign.char]
  | savedMark sign => [sign.char, '%']
  | optionMark sign => [sign.char, ':']
  | tagMark sign => [sign.char]
  | comparison relation => relation.text.toList
  | bang => ['!']
  | ask => ['?']
  | name run => run
  | plain run => run

/-- The characters of a run, if the token is one. -/
def run? : Token → Option (List Char)
  | name run => some run
  | plain run => some run
  | _ => none

end Token

end TaskQuery
