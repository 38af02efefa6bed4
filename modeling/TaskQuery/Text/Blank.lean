/-
**Blank characters and trimming.**

Blanks are the twenty-five characters with the property White_Space, which leaves out U+180E, U+200B
and U+FEFF.

* `isBlank_space`: the space is a blank.
* `mem_blankCodes`: every blank is one of the listed ones.
* `trim_of_ends`: a text that neither starts nor ends with a blank is its own trimming.
-/

import TaskQuery.Text.CodeRanges

namespace TaskQuery.Text

/-- The code points with the property White_Space. -/
def blankRanges : CodeRanges :=
  [(0x09, 0x0D), (0x20, 0x20), (0x85, 0x85), (0xA0, 0xA0), (0x1680, 0x1680), (0x2000, 0x200A),
    (0x2028, 0x2029), (0x202F, 0x202F), (0x205F, 0x205F), (0x3000, 0x3000)]

/-- Whether a character separates words. -/
def isBlank (c : Char) : Bool :=
  blankRanges.contains c

theorem isBlank_space : isBlank ' ' = true := by decide

/-- The code points of the blanks one by one. -/
def blankCodes : List Nat :=
  [0x09, 0x0A, 0x0B, 0x0C, 0x0D, 0x20, 0x85, 0xA0, 0x1680, 0x2000, 0x2001, 0x2002, 0x2003, 0x2004,
    0x2005, 0x2006, 0x2007, 0x2008, 0x2009, 0x200A, 0x2028, 0x2029, 0x202F, 0x205F, 0x3000]

/-- Every blank is one of the listed ones. -/
theorem mem_blankCodes {c : Char} (blank : isBlank c = true) : c.toNat ∈ blankCodes := by
  simp [isBlank, CodeRanges.contains, blankRanges] at blank
  simp [blankCodes]
  omega

/-! ### Trimming -/

/-- A text without its leading blanks. -/
def trimLeft (text : List Char) : List Char :=
  text.dropWhile isBlank

/-- A text without its trailing blanks. -/
def trimRight (text : List Char) : List Char :=
  (text.reverse.dropWhile isBlank).reverse

/-- A text without the blanks at its two ends. -/
def trim (text : List Char) : List Char :=
  trimRight (trimLeft text)

theorem trim_nil : trim [] = [] := rfl

/-- A text that neither starts nor ends with a blank is its own trimming. -/
theorem trim_of_ends {text : List Char} (start : ∀ c ∈ text.head?, isBlank c = false)
    (stop : ∀ c ∈ text.getLast?, isBlank c = false) : trim text = text := by
  have left : trimLeft text = text := by
    cases text with
    | nil => rfl
    | cons c rest =>
      have visible : isBlank c = false := start c (by simp)
      simp [trimLeft, visible]
  rw [trim, left, trimRight]
  have last : text.reverse.dropWhile isBlank = text.reverse := by
    cases reversed : text.reverse with
    | nil => rfl
    | cons c rest =>
      have visible : isBlank c = false := stop c (by rw [← List.head?_reverse, reversed]; simp)
      simp [visible]
  rw [last, List.reverse_reverse]

/-- `String` form of `trim`. -/
def trimText (text : String) : String :=
  String.ofList (trim text.toList)

end TaskQuery.Text
