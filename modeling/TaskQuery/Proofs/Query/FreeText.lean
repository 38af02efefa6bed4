/-
**Free text is in normal form for a full-text search.**

The characters of a word are neither blank nor part of a comparison or terminator, whichever tokens
it is put together from, and no word is empty. So the free text of a query is words with one space
between any two, and neither trimming it nor collapsing its spaces changes it.

* `IsNormalText`: the normal form, and that trimming and collapsing keep it.
* `Item.next_isSearchable`, `items_isSearchable`: the words of spelled tokens.
* `isNormalText_intercalate`: words with one space between any two are in normal form.
* `ofText_isNormalText`: the free text of every query is.
-/

import Mathlib.Data.List.Basic
import TaskQuery.Proofs.Query.Concatenation
import TaskQuery.Proofs.Query.WellFormed
import TaskQuery.Proofs.Token.Covering

namespace TaskQuery

open Calendar (Instant Vantage)

/-! ### The normal form -/

/-- A character is neither blank nor part of a comparison or a terminator. -/
def IsWordChar (c : Char) : Prop :=
  Text.isBlank c = false ∧ c ∉ ['!', '?', '<', '>', '=']

instance (c : Char) : Decidable (IsWordChar c) :=
  inferInstanceAs (Decidable (_ ∧ _))

theorem IsWordChar.ne_space {c : Char} (isWordChar : IsWordChar c) : c ≠ ' ' := by
  rintro rfl
  cases isWordChar.1.symm.trans Text.isBlank_space

theorem IsOrdinary.isWordChar {c : Char} (ordinary : IsOrdinary c) : IsWordChar c := by
  refine ⟨ordinary.1, fun member => ?_⟩
  have special : ∀ d ∈ ['!', '?', '<', '>', '='], isSpecial d = true :=
    List.all_eq_true.mp (by decide)
  cases ordinary.2.symm.trans (special c member)

/-- A text of which full-text search refuses nothing: no comparison, no terminator, no blank but the
space, and no space at an end or beside another one. -/
structure IsNormalText (text : List Char) : Prop where
  searchable : ∀ c ∈ text, c ∉ ['!', '?', '<', '>', '=']
  spaces : ∀ c ∈ text, Text.isBlank c = true → c = ' '
  begins : text.head? ≠ some ' '
  ends : text.getLast? ≠ some ' '
  single : ¬[' ', ' '] <:+: text

namespace IsNormalText

variable {text : List Char}

/-- A text in normal form has no blanks at its ends. -/
theorem trim_eq (normal : IsNormalText text) : Text.trim text = text := by
  refine Text.trim_of_ends (fun c begins => ?_) fun c ends => ?_
  · refine Bool.eq_false_iff.mpr fun blank => normal.begins ?_
    rw [← normal.spaces c (List.mem_of_head? begins) blank]
    exact begins
  · refine Bool.eq_false_iff.mpr fun blank => normal.ends ?_
    rw [← normal.spaces c (List.mem_of_getLast? ends) blank]
    exact ends

/-- A text whose blanks are single spaces has nothing to collapse. -/
theorem collapse_eq_of_single (spaces : ∀ c ∈ text, Text.isBlank c = true → c = ' ')
    (single : ¬[' ', ' '] <:+: text) : collapse text = text := by
  induction text with
  | nil => rfl
  | cons c rest inner =>
    obtain ⟨here, later⟩ := List.forall_mem_cons.mp spaces
    have kept := inner later fun within => single (within.trans (List.suffix_cons c rest).isInfix)
    rw [collapse, kept]
    by_cases blank : Text.isBlank c = true
    · obtain rfl := here blank
      -- A blank after this one would be a second space.
      have alone : ¬rest.head?.any Text.isBlank = true := by
        cases rest with
        | nil => exact Bool.false_ne_true
        | cons d rest =>
          intro blank
          obtain rfl := later d List.mem_cons_self blank
          exact single (List.prefix_append [' ', ' '] rest).isInfix
      rw [if_pos blank, if_neg alone]
    · rw [if_neg blank]

theorem collapse_eq (normal : IsNormalText text) : collapse text = text :=
  collapse_eq_of_single normal.spaces normal.single

end IsNormalText

/-! ### Words with one space between them -/

/-- A word without spaces puts no two spaces next to each other. -/
theorem not_doubled_append {word rest : List Char} (visible : ∀ c ∈ word, c ≠ ' ')
    (single : ¬[' ', ' '] <:+: rest) : ¬[' ', ' '] <:+: word ++ rest := by
  induction word with
  | nil => exact single
  | cons c word inner =>
    obtain ⟨here, later⟩ := List.forall_mem_cons.mp visible
    intro within
    rcases List.infix_cons_iff.mp within with starts | within
    · exact here (List.cons_prefix_cons.mp starts).1.symm
    · exact inner later within

theorem not_doubled_cons {rest : List Char} (begins : rest.head? ≠ some ' ')
    (single : ¬[' ', ' '] <:+: rest) : ¬[' ', ' '] <:+: ' ' :: rest := by
  intro within
  rcases List.infix_cons_iff.mp within with starts | within
  · obtain ⟨more, same⟩ := (List.cons_prefix_cons.mp starts).2
    exact begins (by rw [← same]; rfl)
  · exact single within

theorem isNormalText_word {word : List Char} (searchable : ∀ c ∈ word, IsWordChar c) :
    IsNormalText word where
  searchable c member := (searchable c member).2
  spaces c member blank := by cases (searchable c member).1.symm.trans blank
  begins same := (searchable ' ' (List.mem_of_head? same)).ne_space rfl
  ends same := (searchable ' ' (List.mem_of_getLast? same)).ne_space rfl
  single within := (searchable ' ' (within.subset List.mem_cons_self)).ne_space rfl

/-- A word before a text in normal form, with one space between them. -/
theorem IsNormalText.after_word {word text : List Char} (begun : word ≠ [])
    (searchable : ∀ c ∈ word, IsWordChar c) (written : text ≠ []) (normal : IsNormalText text) :
    IsNormalText (word ++ ' ' :: text) where
  searchable := by
    refine List.forall_mem_append.mpr ⟨(isNormalText_word searchable).searchable, ?_⟩
    exact List.forall_mem_cons.mpr ⟨by decide, normal.searchable⟩
  spaces := by
    refine List.forall_mem_append.mpr ⟨(isNormalText_word searchable).spaces, ?_⟩
    exact List.forall_mem_cons.mpr ⟨fun _ => rfl, normal.spaces⟩
  begins := by
    rw [List.head?_append_of_ne_nil _ begun]
    exact (isNormalText_word searchable).begins
  ends := by
    obtain ⟨c, text, rfl⟩ := List.exists_cons_of_ne_nil written
    rw [List.getLast?_append_cons, List.getLast?_cons_cons]
    exact normal.ends
  single := not_doubled_append (fun c member => (searchable c member).ne_space)
    (not_doubled_cons normal.begins normal.single)

/-- **Words with one space between any two are in normal form.** -/
theorem isNormalText_intercalate {words : List (List Char)} (written : ∀ word ∈ words, word ≠ [])
    (searchable : ∀ word ∈ words, ∀ c ∈ word, IsWordChar c) :
    IsNormalText ([' '].intercalate words) := by
  induction words with
  | nil => exact isNormalText_word fun c none => absurd none List.not_mem_nil
  | cons word words inner =>
    obtain ⟨begun, later⟩ := List.forall_mem_cons.mp written
    obtain ⟨here, others⟩ := List.forall_mem_cons.mp searchable
    cases words with
    | nil =>
      rw [List.intercalate_singleton]
      exact isNormalText_word here
    | cons next words =>
      have more : [' '].intercalate (next :: words) ≠ [] := fun none =>
        List.cons_ne_nil next words ((ofList_eq_empty_iff later).mp (congrArg String.ofList none))
      rw [List.intercalate_cons_cons, List.append_assoc, List.singleton_append]
      exact .after_word begun here more (inner later others)

/-! ### The words of items -/

/-- Every character of a part of a word may be searched for. -/
def Item.IsSearchable : Item → Prop
  | word text => ∀ c ∈ text, IsWordChar c
  | _ => True

theorem Token.IsSpelled.isSearchable {token : Token} (spelled : token.IsSpelled) :
    (Item.ofToken token).IsSearchable := by
  have marks : ['#', '@', '%', ':'].all (fun c => decide (IsWordChar c)) = true := by decide
  have listed {text : List Char} (within : text ⊆ ['#', '@', '%', ':']) :
      ∀ c ∈ text, IsWordChar c := fun c member =>
    of_decide_eq_true (List.all_eq_true.mp marks c (within member))
  cases token with
  | name run => exact fun c member => (spelled.ordinary rfl c member).isWordChar
  | plain run => exact fun c member => (spelled.ordinary rfl c member).isWordChar
  | escape sign | savedMark sign | optionMark sign | tagMark sign =>
    exact listed (by cases sign <;> decide)
  | _ => trivial

namespace Item

theorem afterSign_isSearchable (vantage : Vantage) (sign : Sign) (name : List Char)
    (rest : List Token) : (afterSign vantage sign name rest).1.IsSearchable := by
  have searchable : ∀ c ∈ [sign.char], IsWordChar c :=
    List.forall_mem_singleton.mpr (by cases sign <;> decide)
  unfold afterSign
  split
  · trivial
  · split
    · trivial
    · split
      · trivial
      · exact searchable

theorem afterOptionMark_isSearchable (vantage : Vantage) (name : String) (rest : List Token) :
    (afterOptionMark vantage name rest).1.IsSearchable := by
  unfold afterOptionMark
  split <;> trivial

theorem excluded_isSearchable (name : List Char) (rest : List Token) :
    (excluded name rest).1.IsSearchable := by
  unfold excluded
  dsimp only
  split <;> trivial

/-- The first item of tokens the first of which is spelled is a word that may be searched for, or no
word. -/
theorem next_isSearchable (vantage : Vantage) {token : Token} (spelled : token.IsSpelled)
    (rest : List Token) : (next vantage token rest).1.IsSearchable := by
  unfold next
  split
  · trivial
  · exact afterOptionMark_isSearchable _ _ _
  · exact afterSign_isSearchable _ _ _ _
  · split
    · exact excluded_isSearchable _ _
    · exact spelled.isSearchable
  · exact spelled.isSearchable

end Item

/-- The words of spelled tokens may be searched for. -/
theorem items_isSearchable (vantage : Vantage) {tokens : List Token}
    (spelled : ∀ token ∈ tokens, token.IsSpelled) :
    ∀ item ∈ items vantage tokens, item.IsSearchable := by
  fun_induction items vantage tokens with
  | case1 => exact fun item none => absurd none List.not_mem_nil
  | case2 token rest inner =>
    have within := Item.next_suffix vantage token rest
    obtain ⟨here, later⟩ := List.forall_mem_cons.mp spelled
    exact List.forall_mem_cons.mpr ⟨Item.next_isSearchable vantage here rest,
      inner fun other member => later other (within.subset member)⟩

/-- A word is put together from parts that may be searched for. The induction is on the items, for
any word that has begun before them. -/
theorem Item.wordsFrom_isSearchable {begun : List Char} {items : List Item}
    (start : ∀ c ∈ begun, IsWordChar c)
    (searchable : ∀ item ∈ items, item.IsSearchable) :
    ∀ word ∈ wordsFrom begun items, ∀ c ∈ word, IsWordChar c := by
  have kept {begun : List Char} (start : ∀ c ∈ begun, IsWordChar c) :
      ∀ word ∈ keepWord begun, ∀ c ∈ word, IsWordChar c := by
    unfold keepWord
    split
    · exact fun word none => absurd none List.not_mem_nil
    · exact fun word member => List.mem_singleton.mp member ▸ start
  induction items generalizing begun with
  | nil => exact kept start
  | cons item items inner =>
    obtain ⟨here, later⟩ := List.forall_mem_cons.mp searchable
    cases item with
    | space =>
      exact List.forall_mem_append.mpr
        ⟨kept start, inner (fun c none => absurd none List.not_mem_nil) later⟩
    | word text => exact inner (List.forall_mem_append.mpr ⟨start, here⟩) later
    | _ => exact inner start later

/-! ### Queries -/

theorem Query.isNormalText_read (vantage : Vantage) (text : String) :
    IsNormalText (read vantage text).text.toList := by
  have spelled : ∀ token ∈ (tokenize text).tokens, token.IsSpelled :=
    fun token member => Lexer.exists_spells_of_mem member
  have searchable := items_isSearchable vantage spelled
  have words : (read vantage text).text =
      String.ofList ([' '].intercalate (Item.words (items vantage (tokenize text).tokens))) := rfl
  rw [words, String.toList_ofList]
  exact isNormalText_intercalate (fun _ => Item.ne_nil_of_mem_wordsFrom)
    (Item.wordsFrom_isSearchable (fun c none => absurd none List.not_mem_nil) searchable)

/-- **The free text of every query is in normal form**, at every offset and clock: it has no
comparison, no terminator and no blank but single spaces between words, so trimming it and
collapsing its blanks leave it as it is. -/
theorem ofText_isNormalText (hours : Int) (now : Instant) (text : String)
    (valid : -25 ≤ hours ∧ hours ≤ 25) :
    ∃ query, Query.ofText hours now text = .ok query ∧ IsNormalText query.text.toList ∧
      Text.trimText query.text = query.text ∧
      String.ofList (collapse query.text.toList) = query.text := by
  have here : Vantage.ofOffset hours now = .ok { zone := ⟨hours, valid⟩, now } :=
    Vantage.ofOffset_eq_ok.mpr ⟨rfl, rfl⟩
  have normal := Query.isNormalText_read { zone := ⟨hours, valid⟩, now } text
  refine ⟨_, Query.ofText_eq here text, normal, ?_, ?_⟩
  · rw [Text.trimText, normal.trim_eq, String.ofList_toList]
  · rw [normal.collapse_eq, String.ofList_toList]

/-- Tags, stray comparisons and terminators, doubled signs and an extra payload between words, with
blanks of several kinds: four words with a space between two of them are left. -/
theorem ofText_isNormalText_crowded :
    let text := "\u3000a ! #x  ? b>=c\t##d -# \u00a0#+ e"
    (-25 ≤ (2 : Int) ∧ (2 : Int) ≤ 25) ∧
      ∃ query, Query.ofText 2 Instant.unixEpoch text = .ok query ∧ query.text = "a bc #d -#" ∧
        IsNormalText query.text.toList ∧ Text.trimText query.text = query.text ∧
        String.ofList (collapse query.text.toList) = query.text := by
  intro text
  have valid : -25 ≤ (2 : Int) ∧ (2 : Int) ≤ 25 := by decide
  have free : (Query.ofText 2 Instant.unixEpoch text).toOption.map Query.text =
      some "a bc #d -#" := by
    decide +kernel
  obtain ⟨query, isQuery, normal⟩ := ofText_isNormalText 2 Instant.unixEpoch text valid
  rw [isQuery] at free
  exact ⟨valid, query, isQuery, Option.some.inj free, normal⟩

end TaskQuery
