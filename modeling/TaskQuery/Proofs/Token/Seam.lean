/-
**A blank ends every piece of a query.**

A text that begins with a blank does not change what is read before it: no run, comparison or marker
reaches across, except that blanks on both sides make one space. Payloads reach up to the next
command marker, but the blanks at their ends are not part of them.

* `scan_append`: one step before a blank.
* `lexemes_append`: the pieces of two texts with a blank between them.
* `lexemes_append_blanks`: blanks at the end of any query.
-/

import Mathlib.Data.List.TakeWhile
import TaskQuery.Token.Lexer

namespace TaskQuery.Lexer

/-- A text that begins with a blank. -/
def BeginsBlank (text : List Char) : Prop :=
  ∃ b rest, text = b :: rest ∧ Text.isBlank b = true

/-! ### Runs -/

section Runs

variable {keeps : Char → Bool} {text more : List Char}

/-- A run ends before the first character that it does not keep. -/
theorem takeWhile_append_of_ends (ends : ∀ c ∈ more.head?, keeps c = false) :
    (text ++ more).takeWhile keeps = text.takeWhile keeps := by
  have none : more.takeWhile keeps = [] := by
    cases more with
    | nil => rfl
    | cons c more => rw [List.takeWhile_cons, if_neg (Bool.eq_false_iff.mp (ends c rfl))]
  rw [List.takeWhile_append]
  split
  · next whole =>
    rw [none, List.append_nil, (List.takeWhile_prefix keeps).eq_of_length whole]
  · rfl

theorem dropWhile_append_of_ends (ends : ∀ c ∈ more.head?, keeps c = false) :
    (text ++ more).dropWhile keeps = text.dropWhile keeps ++ more := by
  have all : more.dropWhile keeps = more := by
    cases more with
    | nil => rfl
    | cons c more => rw [List.dropWhile_cons, if_neg (Bool.eq_false_iff.mp (ends c rfl))]
  rw [List.dropWhile_append]
  split
  · next whole => rw [all, List.isEmpty_iff.mp whole, List.nil_append]
  · rfl

end Runs

theorem isPlainChar_false_of_isBlank {c : Char} (blank : Text.isBlank c = true) :
    isPlainChar c = false := by
  rw [isPlainChar, blank]
  rfl

/-! ### One step before a blank -/

/-- A run does not reach into a text that begins with no character of a run. -/
theorem scanRun_append {c : Char} {rest more : List Char}
    (endsName : ∀ d ∈ more.head?, isTagChar d = false)
    (endsPlain : ∀ d ∈ more.head?, isPlainChar d = false) :
    scanRun c (rest ++ more) = ((scanRun c rest).1, (scanRun c rest).2 ++ more) := by
  unfold scanRun
  rw [takeWhile_append_of_ends endsName, dropWhile_append_of_ends endsName,
    takeWhile_append_of_ends endsPlain, dropWhile_append_of_ends endsPlain]
  split <;> rfl

theorem BeginsBlank.isBlank {more : List Char} (blank : BeginsBlank more) :
    ∀ d ∈ more.head?, Text.isBlank d = true := by
  obtain ⟨b, tail, rfl, isBlank⟩ := blank
  rintro d ⟨rfl⟩
  exact isBlank

theorem ne_of_isBlank {b c : Char} (blank : Text.isBlank b = true)
    (visible : Text.isBlank c = false) : b ≠ c := by
  rintro rfl
  cases blank.symm.trans visible

theorem scanSymbol?_append {c : Char} {rest more : List Char} (blank : BeginsBlank more) :
    scanSymbol? c (rest ++ more) =
      (scanSymbol? c rest).map fun found => (found.1, found.2 ++ more) := by
  obtain ⟨b, tail, rfl, isBlank⟩ := blank
  cases rest with
  | nil =>
    have noEquals : b ≠ '=' := ne_of_isBlank isBlank rfl
    unfold scanSymbol?
    split <;> simp_all
  | cons d rest =>
    unfold scanSymbol?
    split <;> simp_all

/-- What follows a sign makes a marker of its own only if it is one of four characters. -/
theorem scanSign_mark {sign : Sign} {c : Char} {rest : List Char} (plus : c ≠ '+') (bang : c ≠ '!')
    (percent : c ≠ '%') (colon : c ≠ ':') :
    scanSign sign (c :: rest) =
      if c = sign.char then (.token (.escape sign), rest)
      else (.token (.tagMark sign), c :: rest) := by
  unfold scanSign
  split
  · next same => exact absurd (List.cons.inj same).1 plus
  · next same => exact absurd (List.cons.inj same).1 bang
  · next same => exact absurd (List.cons.inj same).1 percent
  · next same => exact absurd (List.cons.inj same).1 colon
  · next same =>
    obtain ⟨rfl, rfl⟩ := List.cons.inj same
    rfl
  · next same => cases same

theorem scanSign_append {sign : Sign} {rest more after : List Char} {token : Token}
    (blank : BeginsBlank more) (scanned : scanSign sign rest = (.token token, after)) :
    scanSign sign (rest ++ more) = (.token token, after ++ more) := by
  obtain ⟨b, tail, rfl, isBlank⟩ := blank
  cases rest with
  | nil =>
    have noSign : b ≠ sign.char := ne_of_isBlank isBlank (by cases sign <;> rfl)
    cases scanned
    show scanSign sign (b :: tail) = _
    rw [scanSign_mark (ne_of_isBlank isBlank rfl)
      (ne_of_isBlank isBlank rfl) (ne_of_isBlank isBlank rfl) (ne_of_isBlank isBlank rfl),
      if_neg noSign]
    rfl
  | cons d rest =>
    by_cases plus : d = '+'
    · subst plus
      cases scanned
    by_cases bang : d = '!'
    · subst bang
      cases scanned
    by_cases percent : d = '%'
    · subst percent
      cases scanned
      rfl
    by_cases colon : d = ':'
    · subst colon
      cases scanned
      rfl
    rw [scanSign_mark plus bang percent colon] at scanned
    rw [List.cons_append, scanSign_mark plus bang percent colon]
    by_cases doubled : d = sign.char
    · rw [if_pos doubled] at scanned ⊢
      cases scanned
      rfl
    · rw [if_neg doubled] at scanned ⊢
      cases scanned
      rfl

/-- A token before a text that begins with a blank is the token that it is without that text. -/
theorem scan_append {c : Char} {rest more after : List Char} {token : Token}
    (blank : BeginsBlank more) (scanned : scan c rest = (.token token, after))
    (rests : Text.isBlank c = true → after ≠ []) :
    scan c (rest ++ more) = (.token token, after ++ more) := by
  unfold scan at scanned ⊢
  by_cases space : Text.isBlank c = true
  · rw [if_pos space] at scanned ⊢
    cases scanned
    rw [List.dropWhile_append, if_neg (rests space ∘ List.isEmpty_iff.mp)]
  · rw [if_neg space] at scanned ⊢
    cases sign : Sign.ofChar? c with
    | some sign =>
      rw [sign] at scanned
      exact scanSign_append blank scanned
    | none =>
      rw [sign] at scanned
      dsimp only at scanned ⊢
      rw [scanSymbol?_append blank]
      cases symbol : scanSymbol? c rest with
      | some found =>
        rw [symbol] at scanned
        cases scanned
        rfl
      | none =>
        rw [symbol] at scanned
        cases scanned
        rw [scanRun_append
          (fun d begins => isTagChar_false_of_isBlank (blank.isBlank d begins))
          (fun d begins => isPlainChar_false_of_isBlank (blank.isBlank d begins))]
        rfl

/-- A step finds a token, or one of the two payloads after their markers. -/
theorem scan_cases (c : Char) (rest : List Char) :
    (∃ token after, scan c rest = (.token token, after)) ∨
      (∃ written, rest = '+' :: written ∧ ∀ more, scan c ('+' :: more) =
        (.extra (Text.trim (splitAtCommand more).1), (splitAtCommand more).2)) ∨
      ∃ written, rest = '!' :: written ∧ ∀ more, scan c ('!' :: more) =
        (.command (Text.trim more), []) := by
  by_cases space : Text.isBlank c = true
  · refine Or.inl ⟨.space, rest.dropWhile Text.isBlank, ?_⟩
    rw [scan, if_pos space]
  cases signed : Sign.ofChar? c with
  | none =>
    refine Or.inl ?_
    unfold scan
    rw [if_neg space, signed]
    cases scanSymbol? c rest with
    | none => exact ⟨_, _, rfl⟩
    | some found => exact ⟨_, _, rfl⟩
  | some sign =>
    have scanned (more : List Char) : scan c more = scanSign sign more := by
      rw [scan, if_neg space, signed]
    cases rest with
    | nil => exact Or.inl ⟨_, _, scanned []⟩
    | cons d written =>
      by_cases plus : d = '+'
      · exact Or.inr (Or.inl ⟨written, by rw [plus], fun more => scanned ('+' :: more)⟩)
      by_cases bang : d = '!'
      · exact Or.inr (Or.inr ⟨written, by rw [bang], fun more => scanned ('!' :: more)⟩)
      refine Or.inl ?_
      rw [scanned]
      by_cases percent : d = '%'
      · exact ⟨_, _, by rw [percent]; rfl⟩
      by_cases colon : d = ':'
      · exact ⟨_, _, by rw [colon]; rfl⟩
      rw [scanSign_mark plus bang percent colon]
      split
      · exact ⟨_, _, rfl⟩
      · exact ⟨_, _, rfl⟩

/-! ### The pieces of two texts -/

theorem lexemes_cons (c : Char) (rest : List Char) :
    lexemes (c :: rest) = (scan c rest).1 :: lexemes (scan c rest).2 := by
  rw [lexemes]

theorem lexemes_blank {c : Char} (rest : List Char) (blank : Text.isBlank c = true) :
    lexemes (c :: rest) = .token .space :: lexemes (rest.dropWhile Text.isBlank) := by
  rw [lexemes_cons, scan, if_pos blank]

theorem dropWhile_blanks {blanks : List Char} (blank : ∀ c ∈ blanks, Text.isBlank c = true) :
    blanks.dropWhile Text.isBlank = [] :=
  List.dropWhile_eq_nil_iff.mpr blank

/-- Blanks are one space, with those that follow them. -/
theorem lexemes_blanks {blanks : List Char} (rest : List Char) (written : blanks ≠ [])
    (blank : ∀ c ∈ blanks, Text.isBlank c = true) :
    lexemes (blanks ++ rest) = .token .space :: lexemes (rest.dropWhile Text.isBlank) := by
  cases blanks with
  | nil => exact absurd rfl written
  | cons c more =>
    have none : more.dropWhile Text.isBlank = [] :=
      dropWhile_blanks fun d member => blank d (List.mem_cons_of_mem c member)
    rw [List.cons_append, lexemes_blank _ (blank c List.mem_cons_self), List.dropWhile_append,
      if_pos (List.isEmpty_iff.mpr none)]

/-- **The pieces of two texts with a blank between them** are those of the first text and those of
the second, but blanks at the end of the first text count only once. -/
theorem lexemes_append {text more : List Char} (blank : BeginsBlank more)
    (plain : ∀ piece ∈ lexemes text, ∃ token, piece = .token token) :
    ∃ before, lexemes (text ++ more) = before ++ lexemes more ∧
      (lexemes text = before ∨ lexemes text = before ++ [.token .space]) := by
  fun_induction lexemes text with
  | case1 => exact ⟨[], rfl, Or.inl rfl⟩
  | case2 c rest inner =>
    obtain ⟨token, isToken⟩ := plain _ List.mem_cons_self
    have later : ∀ piece ∈ lexemes (scan c rest).2, ∃ token, piece = .token token :=
      fun piece member => plain piece (List.mem_cons_of_mem _ member)
    by_cases last : Text.isBlank c = true ∧ (scan c rest).2 = []
    · -- The first text ends in blanks, which the second text goes on with.
      obtain ⟨isBlank, ends⟩ := last
      obtain ⟨b, tail, rfl, isBlank'⟩ := blank
      have none : rest.dropWhile Text.isBlank = [] := by
        rw [scan, if_pos isBlank] at ends
        exact ends
      refine ⟨[], ?_, Or.inr ?_⟩
      · rw [List.cons_append, lexemes_blank _ isBlank, List.dropWhile_append,
          if_pos (List.isEmpty_iff.mpr none), List.dropWhile_cons, if_pos isBlank',
          ← lexemes_blank _ isBlank']
        rfl
      · rw [scan, if_pos isBlank, none, lexemes]
        rfl
    · have rests : Text.isBlank c = true → (scan c rest).2 ≠ [] :=
        fun isBlank ends => last ⟨isBlank, ends⟩
      have scanned : scan c rest = (.token token, (scan c rest).2) := by rw [← isToken]
      obtain ⟨before, whole, kept⟩ := inner later
      refine ⟨.token token :: before, ?_, ?_⟩
      · rw [List.cons_append, lexemes_cons, scan_append blank scanned rests, whole]
        rfl
      · rcases kept with same | same
        · exact Or.inl (by rw [isToken, same])
        · exact Or.inr (by rw [isToken, same]; rfl)

/-! ### Blanks at the end -/

section Trailing

variable {blanks : List Char}

theorem trim_append_blanks (text : List Char) (blank : ∀ c ∈ blanks, Text.isBlank c = true) :
    Text.trim (text ++ blanks) = Text.trim text := by
  have reversed : blanks.reverse.dropWhile Text.isBlank = [] :=
    dropWhile_blanks fun c member => blank c (List.mem_reverse.mp member)
  have right (inner : List Char) : Text.trimRight (inner ++ blanks) = Text.trimRight inner := by
    rw [Text.trimRight, List.reverse_append, List.dropWhile_append,
      if_pos (List.isEmpty_iff.mpr reversed), Text.trimRight]
  unfold Text.trim Text.trimLeft
  rw [List.dropWhile_append]
  split
  · next whole => rw [dropWhile_blanks blank, List.isEmpty_iff.mp whole]
  · exact right _

theorem startsCommand_cons_cons (c d : Char) (rest : List Char) :
    startsCommand (c :: d :: rest) = (decide (d = '!') && (Sign.ofChar? c).isSome) := by
  by_cases bang : d = '!'
  · subst bang
    rfl
  · rw [decide_eq_false bang, Bool.false_and]
    unfold startsCommand
    split
    · next same => exact absurd (List.cons.inj (List.cons.inj same).2).1 bang
    · rfl

theorem startsCommand_append {c : Char} {rest : List Char}
    (blank : ∀ c ∈ blanks, Text.isBlank c = true) :
    startsCommand (c :: (rest ++ blanks)) = startsCommand (c :: rest) := by
  cases rest with
  | cons d rest => rw [List.cons_append, startsCommand_cons_cons, startsCommand_cons_cons]
  | nil =>
    cases blanks with
    | nil => rfl
    | cons b tail =>
      have noBang : b ≠ '!' := ne_of_isBlank (blank b List.mem_cons_self) rfl
      rw [List.nil_append, startsCommand_cons_cons, decide_eq_false noBang]
      rfl

theorem startsCommand_blank {b : Char} (rest : List Char) (blank : Text.isBlank b = true) :
    startsCommand (b :: rest) = false := by
  have noSign : Sign.ofChar? b = none := by
    cases sign : Sign.ofChar? b with
    | none => rfl
    | some sign' =>
      rw [← Sign.char_of_ofChar? sign] at blank
      cases sign' <;> exact absurd blank (by decide)
  cases rest with
  | nil => rfl
  | cons d rest => rw [startsCommand_cons_cons, noSign, Option.isSome_none, Bool.and_false]

/-- Blanks after a text belong to what stands before its first command marker, or to what stands
after it. -/
theorem splitAtCommand_append (text : List Char) (blank : ∀ c ∈ blanks, Text.isBlank c = true) :
    splitAtCommand (text ++ blanks) =
      if (splitAtCommand text).2 = [] then ((splitAtCommand text).1 ++ blanks, [])
      else ((splitAtCommand text).1, (splitAtCommand text).2 ++ blanks) := by
  induction text with
  | nil =>
    show splitAtCommand blanks = (blanks, [])
    induction blanks with
    | nil => rfl
    | cons b tail inner =>
      rw [splitAtCommand, startsCommand_blank tail (blank b List.mem_cons_self),
        inner fun c member => blank c (List.mem_cons_of_mem b member)]
      rfl
  | cons c rest inner =>
    rw [List.cons_append, splitAtCommand, splitAtCommand, startsCommand_append blank]
    by_cases starts : startsCommand (c :: rest) = true
    · rw [if_pos starts, if_pos starts, if_neg (List.cons_ne_nil c rest)]
      rfl
    · rw [if_neg starts, if_neg starts, inner]
      split <;> rfl

/-- **Blanks at the end of a query** add at most a space. -/
theorem lexemes_append_blanks (text : List Char) (blank : ∀ c ∈ blanks, Text.isBlank c = true) :
    lexemes (text ++ blanks) = lexemes text ∨
      lexemes (text ++ blanks) = lexemes text ++ [.token .space] := by
  by_cases written : blanks = []
  · exact Or.inl (by rw [written, List.append_nil])
  have begins : BeginsBlank blanks := by
    obtain ⟨b, tail, rfl⟩ := List.exists_cons_of_ne_nil written
    exact ⟨b, tail, rfl, blank b List.mem_cons_self⟩
  fun_induction lexemes text with
  | case1 =>
    have spaces := lexemes_blanks [] written blank
    rw [List.append_nil, List.dropWhile_nil, lexemes] at spaces
    exact Or.inr spaces
  | case2 c rest inner =>
    rw [List.cons_append]
    rcases scan_cases c rest with ⟨token, after, scanned⟩ | ⟨written, rfl, scanned⟩ |
      ⟨written, rfl, scanned⟩
    · rw [scanned] at inner ⊢
      by_cases last : Text.isBlank c = true ∧ after = []
      · obtain ⟨isBlank, rfl⟩ := last
        rw [scan, if_pos isBlank] at scanned
        obtain ⟨isSpace, none⟩ := Prod.mk.inj scanned
        refine Or.inl ?_
        rw [lexemes_blank _ isBlank, List.dropWhile_append, if_pos (List.isEmpty_iff.mpr none),
          dropWhile_blanks blank, isSpace]
      · have rests : Text.isBlank c = true → after ≠ [] :=
          fun isBlank ends => last ⟨isBlank, ends⟩
        rw [lexemes_cons, scan_append begins scanned rests]
        rcases inner with same | same
        · exact Or.inl (by rw [same])
        · exact Or.inr (by rw [same]; rfl)
    · rw [scanned] at inner ⊢
      rw [List.cons_append, lexemes_cons, scanned, splitAtCommand_append written blank]
      split
      · next none =>
        rw [trim_append_blanks _ blank, none]
        exact Or.inl rfl
      · rcases inner with same | same
        · exact Or.inl (by rw [same])
        · exact Or.inr (by rw [same]; rfl)
    · rw [List.cons_append, lexemes_cons, scanned, scanned, trim_append_blanks written blank]
      exact Or.inl rfl

end Trailing

end TaskQuery.Lexer
