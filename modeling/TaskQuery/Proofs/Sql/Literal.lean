/-
**A literal delimits itself.**

A literal is read from its opening quote to the first quote that is not doubled. So a text begins
with a literal exactly if it begins with a content between quotes in which each quote is doubled,
and no third quote follows. What the standard quoter writes is such a literal: whatever it quotes,
and whatever follows, it is read back as the text without NUL, up to where it was written to end.

* `readLiteral?_eq_some_iff`: the texts that begin with a literal.
* `quote_eq`: what the standard quoter writes.
* `readLiteral?_quote`: its literals are read back.
-/

import TaskQuery.Sql.Template

namespace TaskQuery.Sql

/-! ### Reading literals -/

/-- What a literal holds whose opening quote has been read, and the text after its closing quote. A
doubled quote is a quote of the content. -/
def readContent? : List Char → Option (List Char × List Char)
  | [] => none
  | '\'' :: '\'' :: rest => (readContent? rest).map fun read => ('\'' :: read.1, read.2)
  | '\'' :: rest => some ([], rest)
  | c :: rest => (readContent? rest).map fun read => (c :: read.1, read.2)

/-- What the literal holds that a text begins with, and the text after it. -/
def readLiteral? : List Char → Option (List Char × List Char)
  | '\'' :: rest => readContent? rest
  | _ => none

/-- A content with each of its quotes written twice. -/
def doubleQuotes (content : List Char) : List Char :=
  content.flatMap fun c => if c = '\'' then ['\'', '\''] else [c]

theorem doubleQuotes_quote (content : List Char) :
    doubleQuotes ('\'' :: content) = '\'' :: '\'' :: doubleQuotes content := rfl

theorem doubleQuotes_cons {c : Char} (different : c ≠ '\'') (content : List Char) :
    doubleQuotes (c :: content) = c :: doubleQuotes content := by
  rw [doubleQuotes, List.flatMap_cons, if_neg different]
  rfl

/-- A quote that no other one follows closes a literal. -/
theorem readContent?_close {rest : List Char} (apart : rest.head? ≠ some '\'') :
    readContent? ('\'' :: rest) = some ([], rest) := by
  unfold readContent?
  split
  · next same => cases same
  · next same =>
    cases same
    exact absurd rfl apart
  · next same =>
    cases same
    rfl
  · next notClosed same =>
    cases same
    exact absurd rfl notClosed

theorem readContent?_cons {c : Char} (different : c ≠ '\'') (rest : List Char) :
    readContent? (c :: rest) = (readContent? rest).map fun read => (c :: read.1, read.2) := by
  rw [readContent?]
  · exact fun _ same => absurd same different
  · exact fun same => absurd same different

/-- A content with its quotes doubled is read back up to the quote that closes it. -/
theorem readContent?_doubleQuotes (content : List Char) {rest : List Char}
    (apart : rest.head? ≠ some '\'') :
    readContent? (doubleQuotes content ++ '\'' :: rest) = some (content, rest) := by
  induction content with
  | nil => exact readContent?_close apart
  | cons c content inner =>
    by_cases quote : c = '\''
    · subst quote
      rw [doubleQuotes_quote, List.cons_append, List.cons_append, readContent?, inner]
      rfl
    · rw [doubleQuotes_cons quote, List.cons_append, readContent?_cons quote, inner]
      rfl

/-- What is read as the content of a literal was written with its quotes doubled. -/
theorem eq_of_readContent? {text content rest : List Char}
    (read : readContent? text = some (content, rest)) :
    text = doubleQuotes content ++ '\'' :: rest ∧ rest.head? ≠ some '\'' := by
  fun_induction readContent? text generalizing content with
  | case1 => cases read
  | case2 after inner =>
    obtain ⟨⟨content, rest⟩, found, same⟩ := Option.map_eq_some_iff.mp read
    cases same
    obtain ⟨written, apart⟩ := inner found
    refine ⟨?_, apart⟩
    rw [doubleQuotes_quote, List.cons_append, List.cons_append, ← written]
  | case3 after single =>
    cases read
    refine ⟨rfl, fun doubled => ?_⟩
    obtain ⟨more, same⟩ := List.head?_eq_some_iff.mp doubled
    exact single more same
  | case4 c after _ different inner =>
    obtain ⟨⟨content, rest⟩, found, same⟩ := Option.map_eq_some_iff.mp read
    cases same
    obtain ⟨written, apart⟩ := inner found
    refine ⟨?_, apart⟩
    rw [doubleQuotes_cons different, List.cons_append, ← written]

/-- **The texts that begin with a literal** are those that begin with a content between quotes, its
own quotes doubled, which no further quote follows. -/
theorem readLiteral?_eq_some_iff {text content rest : List Char} :
    readLiteral? text = some (content, rest) ↔
      text = '\'' :: doubleQuotes content ++ '\'' :: rest ∧ rest.head? ≠ some '\'' := by
  constructor
  · intro read
    unfold readLiteral? at read
    split at read
    · obtain ⟨written, apart⟩ := eq_of_readContent? read
      exact ⟨congrArg ('\'' :: ·) written, apart⟩
    · cases read
  · rintro ⟨rfl, apart⟩
    exact readContent?_doubleQuotes content apart

/-! ### Standard literals -/

/-- A text without its NUL characters. -/
def withoutNul (text : List Char) : List Char :=
  text.filter (· != '\x00')

theorem withoutNul_of_notMem {text : List Char} (free : '\x00' ∉ text) : withoutNul text = text :=
  List.filter_eq_self.mpr fun _ member => bne_iff_ne.mpr fun same => free (same ▸ member)

/-- The standard spelling doubles the quotes of a text and leaves NUL out. -/
theorem flatMap_spell (text : List Char) :
    text.flatMap Quoter.spell = doubleQuotes (withoutNul text) := by
  induction text with
  | nil => rfl
  | cons c text inner =>
    rw [List.flatMap_cons, inner]
    by_cases quote : c = '\''
    · subst quote
      rfl
    by_cases nul : c = '\x00'
    · subst nul
      rfl
    have itself : Quoter.spell c = [c] := by simp [Quoter.spell]
    have kept : withoutNul (c :: text) = c :: withoutNul text :=
      List.filter_cons_of_pos (bne_iff_ne.mpr nul)
    rw [itself, kept, doubleQuotes_cons quote]
    rfl

theorem quote_eq (raw : String) :
    (Quoter.standard.quote raw).toList =
      '\'' :: doubleQuotes (withoutNul raw.toList) ++ ['\''] := by
  rw [Quoter.standard, String.toList_ofList, flatMap_spell]

/-- **A standard literal delimits itself.** Before any text that does not begin with a quote, the
literal of a text is read back as the text without NUL, and what follows it is left as it is. So two
texts have the same literal exactly if they differ in nothing but NUL, and a literal without NUL
stands for one text only. -/
theorem readLiteral?_quote (raw : String) (rest : List Char) (apart : rest.head? ≠ some '\'') :
    readLiteral? ((Quoter.standard.quote raw).toList ++ rest) =
      some (withoutNul raw.toList, rest) ∧
    ∀ other : String,
      (Quoter.standard.quote raw = Quoter.standard.quote other ↔
        withoutNul raw.toList = withoutNul other.toList) ∧
      ('\x00' ∉ raw.toList → '\x00' ∉ other.toList →
        Quoter.standard.quote raw = Quoter.standard.quote other → raw = other) := by
  have reads (text : String) {rest : List Char} (apart : rest.head? ≠ some '\'') :
      readLiteral? ((Quoter.standard.quote text).toList ++ rest) =
        some (withoutNul text.toList, rest) := by
    refine readLiteral?_eq_some_iff.mpr ⟨?_, apart⟩
    rw [quote_eq, List.append_assoc, List.singleton_append]
  have same_iff (other : String) : Quoter.standard.quote raw = Quoter.standard.quote other ↔
      withoutNul raw.toList = withoutNul other.toList := by
    constructor
    · intro same
      have read := reads raw apart
      rw [same, reads other apart] at read
      exact (congrArg Prod.fst (Option.some.inj read)).symm
    · intro same
      rw [← String.toList_inj, quote_eq, quote_eq, same]
  refine ⟨reads raw apart, fun other => ⟨same_iff other, fun free free' same => ?_⟩⟩
  have contents := (same_iff other).mp same
  rw [withoutNul_of_notMem free, withoutNul_of_notMem free'] at contents
  exact String.toList_inj.mp contents

/-- Quotes at both ends, two of them with only NUL between, before a text that has a quote in it. -/
theorem readLiteral?_quote_hostile :
    let raw := "'a'\x00' OR 1=1 --'"
    let rest := ") AND name = 'b'".toList
    rest.head? ≠ some '\'' ∧
      readLiteral? ((Quoter.standard.quote raw).toList ++ rest) =
        some ("'a'' OR 1=1 --'".toList, rest) ∧
      (Quoter.standard.quote raw = Quoter.standard.quote "'a'' OR 1=1 --'" ↔
        withoutNul raw.toList = withoutNul "'a'' OR 1=1 --'".toList) := by
  intro raw rest
  have apart : rest.head? ≠ some '\'' := by decide
  obtain ⟨reads, same⟩ := readLiteral?_quote raw rest apart
  have content : withoutNul raw.toList = "'a'' OR 1=1 --'".toList := by decide +kernel
  rw [content] at reads
  exact ⟨apart, reads, (same _).1⟩

end TaskQuery.Sql
