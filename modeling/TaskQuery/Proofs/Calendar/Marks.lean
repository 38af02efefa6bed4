/-
**The marks of a text decide which pattern can read it.**

The marks of a text are its characters that are neither digits nor ASCII blanks. A pattern reads
only texts whose marks are its literal characters in their order, with a sign before the year or
without one. Most patterns share their marks with no other one, so a text that one of them reads is
read by it alone, and it is no weekday.

* `marksOf_mem_markings`: the marks of a text that a pattern reads.
* `Vantage.readTrimmed?_of_isSole`: a literal means what the only pattern that reads it says.
-/

import TaskQuery.Proofs.Calendar.Written

namespace TaskQuery.Calendar

/-- The characters of a text that are neither digits nor ASCII blanks. -/
def marksOf (text : List Char) : List Char :=
  text.filter isMark

theorem marksOf_dropWhile (text : List Char) :
    marksOf (text.dropWhile isAsciiBlank) = marksOf text := by
  induction text with
  | nil => rfl
  | cons c rest inner =>
    by_cases blank : isAsciiBlank c = true
    · have unmarked : ¬ isMark c = true := by simp [isMark, blank]
      rw [List.dropWhile_cons, if_pos blank, inner, marksOf, marksOf,
        List.filter_cons_of_neg unmarked]
    · rw [List.dropWhile_cons, if_neg blank]

/-- Reading a number takes no marks. -/
theorem marksOf_of_readDigits? {width value : Nat} {text after : List Char}
    (reads : readDigits? width text = some (value, after)) : marksOf after = marksOf text := by
  obtain ⟨_, numeral, same⟩ := Option.map_eq_some_iff.mp reads
  rw [Prod.mk.injEq] at same
  obtain ⟨rfl, rfl⟩ := same
  have digits := (Text.digits?_eq_some_iff.mp numeral).2.1
  rw [← marksOf_dropWhile text]
  generalize text.dropWhile isAsciiBlank = start at digits ⊢
  have taken : (start.take width).takeWhile Char.isDigit <+: start :=
    (List.takeWhile_prefix _).trans (List.take_prefix width start)
  generalize (start.take width).takeWhile Char.isDigit = number at digits taken ⊢
  obtain ⟨after, rfl⟩ := taken
  have none : marksOf number = [] := by
    refine List.filter_eq_nil_iff.mpr fun c member => ?_
    simp [isMark, List.all_eq_true.mp digits c member]
  rw [List.drop_left, marksOf, marksOf, List.filter_append]
  exact (congrArg (· ++ after.filter isMark) none).symm

/-! ### What patterns read -/

/-- The marks that may stand in a field: the sign of a year. -/
def Field.markings : Field → List (List Char)
  | year => [[], ['+'], ['-']]
  | _ => [[]]

/-- The marks that may stand in a part of a pattern. -/
def Piece.markings : Piece → List (List Char)
  | field part => part.markings
  | literal c => [[c].filter isMark]
  | gap => [[]]

/-- The marks that the texts of a pattern may have. -/
def Pattern.markings : Pattern → List (List Char)
  | [] => [[]]
  | piece :: rest =>
    piece.markings.flatMap fun first => (markings rest).map fun second => first ++ second

theorem Field.nil_mem_markings (part : Field) : [] ∈ part.markings := by
  cases part <;> exact List.mem_cons_self

/-- Reading a field takes no marks but a sign. -/
theorem Field.marksOf_of_read? {part : Field} {text after : List Char} {value : Int}
    (reads : part.read? text = some (value, after)) :
    ∃ first ∈ part.markings, marksOf text = first ++ marksOf after := by
  have signed := (Option.filter_eq_some_iff.mp reads).1
  unfold readSigned? at signed
  split at signed
  · obtain ⟨found, digits, same⟩ := Option.map_eq_some_iff.mp signed
    cases same
    exact ⟨['+'], by decide, congrArg ('+' :: ·) (marksOf_of_readDigits? digits).symm⟩
  · obtain ⟨found, digits, same⟩ := Option.map_eq_some_iff.mp signed
    cases same
    exact ⟨['-'], by decide, congrArg ('-' :: ·) (marksOf_of_readDigits? digits).symm⟩
  · obtain ⟨found, digits, same⟩ := Option.map_eq_some_iff.mp signed
    cases same
    exact ⟨[], part.nil_mem_markings, (marksOf_of_readDigits? digits).symm⟩

theorem Pattern.append_mem_markings {piece : Piece} {rest : Pattern} {first second : List Char}
    (here : first ∈ piece.markings) (later : second ∈ rest.markings) :
    first ++ second ∈ markings (piece :: rest) :=
  List.mem_flatMap.mpr ⟨first, here, List.mem_map.mpr ⟨second, later, rfl⟩⟩

/-- **The marks of a text that a pattern reads** are those of the pattern. -/
theorem Pattern.marksOf_mem_markings {pattern : Pattern} {fields found : Fields}
    {text : List Char} (reads : pattern.readInto? fields text = some found) :
    marksOf text ∈ pattern.markings := by
  fun_induction readInto? pattern fields text with
  | case1 => exact List.mem_singleton_self []
  | case3 part rest fields text value after field inner =>
    obtain ⟨first, here, same⟩ := part.marksOf_of_read? field
    rw [same]
    exact append_mem_markings here (inner reads)
  | case5 rest fields expected after inner =>
    have split : marksOf (expected :: after) = [expected].filter isMark ++ marksOf after :=
      List.filter_append [expected] after
    rw [split]
    exact append_mem_markings (List.mem_singleton_self _) (inner reads)
  | case8 rest fields text inner =>
    have here : [] ∈ Piece.gap.markings := List.mem_singleton_self []
    rw [← marksOf_dropWhile]
    exact append_mem_markings here (inner reads)
  | case2 | case4 | case6 | case7 => cases reads

/-! ### Weekdays have letters -/

theorem isMark_of_isAlpha {c : Char} (letter : c.isAlpha = true) : isMark c = true := by
  have digit : c.isDigit = false := by
    unfold Char.isAlpha Char.isUpper Char.isLower at letter
    unfold Char.isDigit
    simp only [UInt32.le_iff_toNat_le, ge_iff_le, Bool.or_eq_true, Bool.and_eq_true,
      decide_eq_true_eq, Bool.and_eq_false_iff, decide_eq_false_iff_not] at letter ⊢
    have codes : 'A'.val.toNat = 65 ∧ 'a'.val.toNat = 97 ∧ '9'.val.toNat = 57 := by decide
    omega
  have visible : isAsciiBlank c = false := by
    unfold isAsciiBlank
    split
    all_goals first | rfl | exact absurd letter (by decide)
  rw [isMark, digit, visible]
  rfl

theorem isAlpha_of_toLower {c : Char} (letter : c.toLower.isAlpha = true) : c.isAlpha = true := by
  unfold Char.toLower at letter
  split at letter
  · next upper =>
    have isUpper : c.isUpper = true := decide_eq_true upper
    show (c.isUpper || c.isLower) = true
    rw [isUpper, Bool.true_or]
  · exact letter

/-- The name of a weekday has a letter. -/
theorem Weekday.exists_letter {name : List Char} {weekday : Weekday}
    (named : ofName? name = some weekday) : ∃ c ∈ name, c.isAlpha = true := by
  have lettered : (names.all fun entry => entry.1.toList.any Char.isAlpha) = true := by decide
  obtain ⟨before, after, split, _⟩ := List.lookup_eq_some_iff.mp named
  have member : (String.ofList (name.map Char.toLower), weekday) ∈ names :=
    split ▸ List.mem_append_right before List.mem_cons_self
  obtain ⟨lower, written, letter⟩ := List.any_eq_true.mp (List.all_eq_true.mp lettered _ member)
  rw [String.toList_ofList] at written
  obtain ⟨c, inside, rfl⟩ := List.mem_map.mp written
  exact ⟨c, inside, isAlpha_of_toLower letter⟩

theorem mem_of_mem_trim {text : List Char} {c : Char} (inside : c ∈ Text.trim text) : c ∈ text := by
  have right := List.dropWhile_subset Text.isBlank (List.mem_reverse.mp inside)
  exact List.dropWhile_subset Text.isBlank (List.mem_reverse.mp right)

theorem Vantage.splitAtComma_subset (text : List Char) : (splitAtComma text).1 ⊆ text := by
  unfold splitAtComma
  split
  · exact fun _ member => member
  · exact (List.takeWhile_sublist _).subset

/-- A text whose marks are no letters is no weekday. -/
theorem Vantage.readWeekday?_eq_none {vantage : Vantage} {text : List Char}
    (unlettered : ∀ c ∈ marksOf text, c.isAlpha = false) : vantage.readWeekday? text = none := by
  have unnamed : Weekday.ofName? (Text.trim (splitAtComma text).1) = none := by
    refine Option.eq_none_iff_forall_ne_some.mpr fun weekday named => ?_
    obtain ⟨c, inside, letter⟩ := Weekday.exists_letter named
    have written : c ∈ text := splitAtComma_subset text (mem_of_mem_trim inside)
    have marked : c ∈ marksOf text := List.mem_filter.mpr ⟨written, isMark_of_isAlpha letter⟩
    rw [unlettered c marked] at letter
    cases letter
  rw [readWeekday?, unnamed, Option.bind_none]

/-! ### Patterns that share their marks with no other one -/

theorem findSome?_eq_of_sole {α β : Type} {f : α → Option β} {list : List α} {a : α}
    (member : a ∈ list) (others : ∀ b ∈ list, b ≠ a → f b = none) : list.findSome? f = f a := by
  cases here : f a with
  | none =>
    refine List.findSome?_eq_none_iff.mpr fun b inside => ?_
    by_cases same : b = a
    · rw [same, here]
    · exact others b inside same
  | some value =>
    induction list with
    | nil => cases member
    | cons b rest inner =>
      by_cases same : b = a
      · rw [same, List.findSome?_cons_of_isSome (by rw [here]; rfl), here]
      · have later : a ∈ rest := List.mem_of_ne_of_mem (Ne.symm same) member
        rw [List.findSome?_cons, others b List.mem_cons_self same]
        exact inner later fun other inside => others other (List.mem_cons_of_mem b inside)

namespace Vantage

/-- Whether a pattern of literals is the only one with its marks. -/
def IsSole (pattern : Pattern) : Prop :=
  pattern ∈ patterns ∧ ∀ other ∈ patterns, ∀ marks ∈ other.markings, marks ∈ pattern.markings →
    other = pattern

instance (pattern : Pattern) : Decidable (IsSole pattern) :=
  inferInstanceAs (Decidable (_ ∧ _))

/-- No pattern has a letter among its marks. -/
theorem isAlpha_false_of_mem_markings {pattern : Pattern} {marks : List Char} {c : Char}
    (member : pattern ∈ patterns) (marked : marks ∈ pattern.markings) (inside : c ∈ marks) :
    c.isAlpha = false := by
  have unlettered : (patterns.all fun pattern =>
      pattern.markings.all fun marks => marks.all fun c => !c.isAlpha) = true := by decide
  have inPattern := List.all_eq_true.mp unlettered pattern member
  have inMarks := List.all_eq_true.mp inPattern marks marked
  exact Bool.not_eq_true' _ ▸ List.all_eq_true.mp inMarks c inside

variable {vantage : Vantage} {pattern : Pattern} {literal : List Char} {fields : Fields}

/-- A literal that one pattern reads and no other one means what this pattern says. -/
theorem readTrimmed?_of_only (listed : pattern ∈ patterns) (reads : pattern.read? literal = some fields)
    (only : ∀ other ∈ patterns, other ≠ pattern → other.read? literal = none) :
    vantage.readTrimmed? literal =
      (vantage.resolve? fields).bind fun time => time.toInstant? vantage.zone := by
  have others : ∀ other ∈ patterns, other ≠ pattern →
      vantage.readPattern? literal other = none := by
    intro other member different
    rw [readPattern?, only other member different]
    rfl
  have noWeekday : vantage.readWeekday? literal = none :=
    readWeekday?_eq_none fun _ =>
      isAlpha_false_of_mem_markings listed (Pattern.marksOf_mem_markings reads)
  rw [readTrimmed?, findSome?_eq_of_sole listed others, noWeekday, Option.or_none, readPattern?,
    reads]
  rfl

/-- What a sole pattern reads no other pattern reads. -/
theorem IsSole.only_reads (sole : IsSole pattern) (reads : pattern.read? literal = some fields) :
    ∀ other ∈ patterns, other ≠ pattern → other.read? literal = none := by
  intro other member different
  refine Option.eq_none_iff_forall_ne_some.mpr fun found reads' => different ?_
  exact sole.2 other member _ (Pattern.marksOf_mem_markings reads')
    (Pattern.marksOf_mem_markings reads)

/-- **A literal that a sole pattern reads means what this pattern says.** -/
theorem readTrimmed?_of_isSole (sole : IsSole pattern)
    (reads : pattern.read? literal = some fields) :
    vantage.readTrimmed? literal =
      (vantage.resolve? fields).bind fun time => time.toInstant? vantage.zone :=
  readTrimmed?_of_only sole.1 reads (sole.only_reads reads)

end Vantage

end TaskQuery.Calendar
