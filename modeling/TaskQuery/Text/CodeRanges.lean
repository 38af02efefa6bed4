/-
**Sets of code points.**

A character class is a list of ranges of code points, both ends included. Classes are data, so that
the tables of a class and the functions that consult them stay apart.

* `CodeRanges.contains`: membership of a character.
* `contains_append`: a list of ranges holds what either of its parts holds.
-/

namespace TaskQuery.Text

/-- A set of code points, as ranges with both ends included. -/
abbrev CodeRanges := List (Nat × Nat)

namespace CodeRanges

/-- Whether a character lies in one of the ranges. -/
def contains (ranges : CodeRanges) (c : Char) : Bool :=
  ranges.any fun range => Nat.ble range.1 c.toNat && Nat.ble c.toNat range.2

theorem contains_append (first second : CodeRanges) (c : Char) :
    contains (first ++ second) c = (contains first c || contains second c) := by
  simp [contains]

end CodeRanges

end TaskQuery.Text
