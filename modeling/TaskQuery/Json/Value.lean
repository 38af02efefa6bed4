/-
**JSON values and their printed form.**

The pretty form puts every member of a list or object on a line of its own, two spaces further in
than the brackets; an empty list or object stays on one line.

* `Value.pretty`: the pretty form.
* `escape_plain`: a character that needs no escape is printed as it is.
-/

namespace TaskQuery.Json

/-- A JSON value; numbers are whole. -/
inductive Value where
  | null
  | bool (truth : Bool)
  | number (value : Int)
  | text (content : String)
  | list (items : List Value)
  | object (fields : List (String × Value))
  deriving Repr

/-- An optional value: null if there is none. -/
def Value.ofOption (value : Option String) : Value :=
  match value with
  | some content => .text content
  | none => .null

/-- A list of texts. -/
def Value.ofTexts (texts : List String) : Value :=
  .list (texts.map .text)

/-! ### Texts -/

/-- The spelling of a character inside a JSON text: the quote, the backslash and the controls below
the space are escaped. -/
def escape (c : Char) : List Char :=
  match c with
  | '"' => ['\\', '"']
  | '\\' => ['\\', '\\']
  | '\x08' => ['\\', 'b']
  | '\x0c' => ['\\', 'f']
  | '\n' => ['\\', 'n']
  | '\r' => ['\\', 'r']
  | '\t' => ['\\', 't']
  | c =>
    if c < ' ' then
      ['\\', 'u', '0', '0', Nat.digitChar (c.toNat / 16), Nat.digitChar (c.toNat % 16)]
    else [c]

/-- A character that needs no escape is printed as it is. -/
theorem escape_plain {c : Char} (visible : ¬c < ' ') (quote : c ≠ '"') (backslash : c ≠ '\\') :
    escape c = [c] := by
  unfold escape
  split
  · exact absurd rfl quote
  · exact absurd rfl backslash
  · exact absurd (by decide) visible
  · exact absurd (by decide) visible
  · exact absurd (by decide) visible
  · exact absurd (by decide) visible
  · exact absurd (by decide) visible
  · simp [visible]

/-- A JSON text between its quotes. -/
def quoteText (content : String) : String :=
  String.ofList ('"' :: content.toList.flatMap escape ++ ['"'])

/-! ### The pretty form -/

/-- A line break and the indentation of a depth. -/
def newLine (depth : Nat) : String :=
  "\n" ++ String.ofList (List.replicate (2 * depth) ' ')

mutual

/-- The pretty form at a depth of nesting. -/
def Value.prettyAt (depth : Nat) : Value → String
  | .null => "null"
  | .bool true => "true"
  | .bool false => "false"
  | .number value => toString value
  | .text content => quoteText content
  | .list [] => "[]"
  | .list (item :: items) =>
    "[" ++ newLine (depth + 1) ++ item.prettyAt (depth + 1) ++ prettyItems (depth + 1) items
      ++ newLine depth ++ "]"
  | .object [] => "\x7b\x7d"
  | .object ((name, value) :: fields) =>
    "\x7b" ++ newLine (depth + 1) ++ quoteText name ++ ": " ++ value.prettyAt (depth + 1)
      ++ prettyFields (depth + 1) fields ++ newLine depth ++ "\x7d"

/-- The items of a list after the first. -/
def prettyItems (depth : Nat) : List Value → String
  | [] => ""
  | item :: items => "," ++ newLine depth ++ item.prettyAt depth ++ prettyItems depth items

/-- The fields of an object after the first. -/
def prettyFields (depth : Nat) : List (String × Value) → String
  | [] => ""
  | (name, value) :: fields =>
    "," ++ newLine depth ++ quoteText name ++ ": " ++ value.prettyAt depth
      ++ prettyFields depth fields

end

/-- The pretty form. -/
def Value.pretty (value : Value) : String :=
  value.prettyAt 0

end TaskQuery.Json
