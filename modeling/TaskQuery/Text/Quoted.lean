/-
**The quoted form of a text in a diagnostic.**

A diagnostic shows a text between double quotes on one line of visible characters: the quote and the
backslash get a backslash, four controls have a letter, and every other character without a glyph is
spelled as its code point.

* `quoted`: the quoted form.
* `escaped_of_printable`: a printable character other than the quote and the backslash stands for
  itself.
-/

import TaskQuery.Text.Printable

namespace TaskQuery.Text

/-- The spelling of a character inside the quotes. -/
def escaped (c : Char) : List Char :=
  match c with
  | '\x00' => ['\\', '0']
  | '\t' => ['\\', 't']
  | '\n' => ['\\', 'n']
  | '\r' => ['\\', 'r']
  | '"' => ['\\', '"']
  | '\\' => ['\\', '\\']
  | c => if isPrintable c then [c] else ['\\', 'u', '\x7b'] ++ Nat.toDigits 16 c.toNat ++ ['\x7d']

/-- A text between double quotes, each character in its spelling. -/
def quoted (text : String) : String :=
  String.ofList ('"' :: text.toList.flatMap escaped ++ ['"'])

/-- A printable character other than the quote and the backslash stands for itself. -/
theorem escaped_of_printable {c : Char} (printable : isPrintable c = true) (quote : c ≠ '"')
    (backslash : c ≠ '\\') : escaped c = [c] := by
  unfold escaped
  split
  · exact absurd printable (by decide)
  · exact absurd printable (by decide)
  · exact absurd printable (by decide)
  · exact absurd printable (by decide)
  · exact absurd rfl quote
  · exact absurd rfl backslash
  · simp [printable]

end TaskQuery.Text
