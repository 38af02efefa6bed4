/-
**The standard input.**

The input is bytes that are read line by line. A read takes the bytes up to a line break, which it
keeps, or up to the end of the input, and fails if they are no text in UTF-8.

* `Input.reads`: what one read after another gives.
* `Input.ofText`: the input that is a text.
-/

namespace TaskQuery.Cli

/-- The parts of a list, each of which ends after the first element that ends a part; the last one
may lack such an element. -/
def partedAfter {α : Type} (ends : α → Bool) : List α → List (List α)
  | [] => []
  | x :: rest =>
    match ends x, partedAfter ends rest with
    | false, part :: parts => (x :: part) :: parts
    | _, parts => [x] :: parts

/-- What stands on the standard input. -/
structure Input where
  bytes : List UInt8
  deriving DecidableEq, Repr

namespace Input

/-- The input that is a text. -/
def ofText (text : String) : Input :=
  ⟨text.toList.flatMap String.utf8EncodeChar⟩

instance : Coe String Input :=
  ⟨ofText⟩

/-- The byte of a line break. -/
def lineBreak : UInt8 := 10

/-- What one read after another gives: a line with its line break, or nothing if its bytes are no
text. -/
def reads (input : Input) : List (Option String) :=
  (partedAfter (· == lineBreak) input.bytes).map fun line => String.fromUTF8? line.toByteArray

end Input

end TaskQuery.Cli
