/-
**A query is read piece by piece between blanks.**

Where two texts are joined by blanks, the query of the whole is that of the first text followed by
that of the second: conditions and columns in order, options together, free text with one space
between, and the saved search written last. How many blanks there are and which ones does not
matter.

* `Query.append`: one query after another.
* `Query.ofItems_append`: what the items of two texts add up to.
* `read_append`: the query of two texts with blanks between them.
-/

import TaskQuery.Proofs.Query.Seam
import TaskQuery.Proofs.Token.Seam
import TaskQuery.Query.Reading

namespace TaskQuery

open Calendar (Instant Vantage)

/-! ### One query after another -/

/-- The parts of two junctions, under the connective of the first. -/
def Junction.append (first second : Junction) : Junction :=
  { first with parts := first.parts ++ second.parts }

namespace Query

/-- Two free texts with one space between them, or the only one that is not empty. -/
def joinText (first second : String) : String :=
  if first = "" then second
  else if second = "" then first
  else first ++ " " ++ second

/-- A query followed by another one, which decides the payloads. -/
def append (first second : Query) : Query where
  text := joinText first.text second.text
  included := first.included.append second.included
  excluded := first.excluded.append second.excluded
  options := first.options.union second.options
  savedSearch := second.savedSearch.or first.savedSearch
  extra := second.extra
  command := second.command
  shownColumns := first.shownColumns ++ second.shownColumns
  offset := second.offset

end Query

/-! ### Words -/

namespace Item

theorem wordsFrom_append (begun : List Char) (before after : List Item) :
    wordsFrom begun (before ++ .space :: after) = wordsFrom begun before ++ words after := by
  induction before generalizing begun with
  | nil => rfl
  | cons item before inner =>
    cases item with
    | space =>
      rw [List.cons_append, wordsFrom, wordsFrom, inner, List.append_assoc]
    | word text => exact inner (begun ++ text)
    | _ => exact inner begun

theorem ne_nil_of_mem_keepWord {begun word : List Char} (member : word ∈ keepWord begun) :
    word ≠ [] := by
  unfold keepWord at member
  split at member
  · cases member
  · next written =>
    rw [List.mem_singleton.mp member]
    exact fun empty => written (List.isEmpty_iff.mpr empty)

theorem ne_nil_of_mem_wordsFrom {begun word : List Char} {items : List Item}
    (member : word ∈ wordsFrom begun items) : word ≠ [] := by
  induction items generalizing begun with
  | nil => exact ne_nil_of_mem_keepWord member
  | cons item items inner =>
    cases item with
    | space =>
      rcases List.mem_append.mp member with member | member
      · exact ne_nil_of_mem_keepWord member
      · exact inner member
    | word text => exact inner member
    | _ => exact inner member

end Item

theorem intercalate_append {first second : List (List Char)} (between : List Char)
    (written : first ≠ []) (written' : second ≠ []) :
    between.intercalate (first ++ second) =
      between.intercalate first ++ between ++ between.intercalate second := by
  induction first with
  | nil => exact absurd rfl written
  | cons word first inner =>
    cases first with
    | nil =>
      rw [List.singleton_append, List.intercalate_cons_of_ne_nil written',
        List.intercalate_singleton]
    | cons next first =>
      have both : next :: first ++ second ≠ [] := List.append_ne_nil_of_right_ne_nil _ written'
      rw [List.cons_append, List.intercalate_cons_of_ne_nil both,
        inner (List.cons_ne_nil next first), List.intercalate_cons_cons]
      simp only [List.append_assoc]

theorem ofList_eq_empty_iff {words : List (List Char)} (visible : ∀ word ∈ words, word ≠ []) :
    String.ofList ([' '].intercalate words) = "" ↔ words = [] := by
  constructor
  · intro empty
    have none : [' '].intercalate words = [] :=
      String.toList_ofList.symm.trans (congrArg String.toList empty)
    match words, visible, none with
    | [], _, _ => rfl
    | [word], visible, none =>
      rw [List.intercalate_singleton] at none
      exact absurd none (visible word List.mem_cons_self)
    | word :: next :: rest, visible, none =>
      rw [List.intercalate_cons_cons, List.append_eq_nil_iff, List.append_eq_nil_iff] at none
      exact absurd none.1.1 (visible word List.mem_cons_self)
  · rintro rfl
    rfl

/-- Words with one space between any two. -/
theorem joinText_words {first second : List (List Char)} (visible : ∀ word ∈ first, word ≠ [])
    (visible' : ∀ word ∈ second, word ≠ []) :
    String.ofList ([' '].intercalate (first ++ second)) =
      Query.joinText (String.ofList ([' '].intercalate first))
        (String.ofList ([' '].intercalate second)) := by
  unfold Query.joinText
  by_cases none : first = []
  · rw [if_pos ((ofList_eq_empty_iff visible).mpr none), none, List.nil_append]
  rw [if_neg (none ∘ (ofList_eq_empty_iff visible).mp)]
  by_cases none' : second = []
  · rw [if_pos ((ofList_eq_empty_iff visible').mpr none'), none', List.append_nil]
  rw [if_neg (none' ∘ (ofList_eq_empty_iff visible').mp), intercalate_append _ none none',
    String.ofList_append, String.ofList_append]

/-! ### Items -/

namespace Query

theorem filterMap_space {α : Type} {adds : Item → Option α} (nothing : adds .space = none)
    (before after : List Item) :
    (before ++ .space :: after).filterMap adds = before.filterMap adds ++ after.filterMap adds := by
  rw [List.filterMap_append, List.filterMap_cons, nothing]

/-- What the items of two texts add up to, with a space between them. -/
theorem ofItems_append (before after : List Item) :
    ofItems (before ++ .space :: after) = (ofItems before).append (ofItems after) := by
  have words : Item.words (before ++ .space :: after) = Item.words before ++ Item.words after :=
    Item.wordsFrom_append [] before after
  have visible (items : List Item) : ∀ word ∈ Item.words items, word ≠ [] :=
    fun _ => Item.ne_nil_of_mem_wordsFrom
  have required := filterMap_space (show Item.required? .space = none from rfl) before after
  have excluded := filterMap_space (show Item.excluded? .space = none from rfl) before after
  have options := filterMap_space (show Item.option? .space = none from rfl) before after
  have searches := filterMap_space (show Item.savedSearch? .space = none from rfl) before after
  have columns := filterMap_space (show Item.column? .space = none from rfl) before after
  unfold ofItems append
  rw [words, joinText_words (visible before) (visible after), required, excluded, options, searches,
    columns, NameSet.ofList_append, List.getLast?_append, Junction.all, Junction.all,
    List.map_append, List.map_append]
  rfl

/-! ### Texts -/

theorem empty_append (items : List Item) : (ofItems []).append (ofItems items) = ofItems items := by
  have options : (ofItems []).options.union (ofItems items).options = (ofItems items).options := by
    refine NameSet.eq_of_mem_iff fun name => ?_
    rw [NameSet.mem_union]
    constructor
    · rintro (member | member)
      · cases member
      · exact member
    · exact Or.inr
  have search : (ofItems items).savedSearch.or (ofItems []).savedSearch =
      (ofItems items).savedSearch := Option.or_none
  unfold append
  rw [options, search]
  rfl

theorem joinText_empty (written : String) : joinText written "" = written := by
  unfold joinText
  by_cases empty : written = ""
  · rw [if_pos empty, empty]
  · rw [if_neg empty, if_pos rfl]

theorem append_empty (items : List Item) : (ofItems items).append (ofItems []) = ofItems items := by
  have parts (conditions : List Condition) :
      (Junction.all conditions).append (Junction.all []) = Junction.all conditions := by
    unfold Junction.append Junction.all
    rw [List.map_nil, List.append_nil]
  have included : (ofItems items).included.append (ofItems []).included =
      (ofItems items).included := parts _
  have excluded : (ofItems items).excluded.append (ofItems []).excluded =
      (ofItems items).excluded := parts _
  have columns : (ofItems items).shownColumns ++ (ofItems []).shownColumns =
      (ofItems items).shownColumns := List.append_nil _
  have written : joinText (ofItems items).text (ofItems []).text = (ofItems items).text :=
    joinText_empty _
  unfold append
  rw [written, included, excluded, columns]
  rfl

/-- The query of a text, by the pieces of the text. -/
def ofLexemes (vantage : Vantage) (pieces : List Lexeme) : Query :=
  { ofItems (items vantage (pieces.filterMap Lexeme.token?)) with
    extra := (pieces.findSome? Lexeme.extra?).map String.ofList
    command := (pieces.findSome? Lexeme.command?).map String.ofList
    offset := vantage.zone.hours }

theorem read_eq_ofLexemes (vantage : Vantage) (text : String) :
    read vantage text = ofLexemes vantage (Lexer.lexemes text.toList) := rfl

/-- Tokens without payloads are the query of their items. -/
theorem ofLexemes_tokens (vantage : Vantage) (tokens : List Token) :
    ofLexemes vantage (tokens.map .token) =
      { ofItems (items vantage tokens) with offset := vantage.zone.hours } := by
  have kept : (tokens.map Lexeme.token).filterMap Lexeme.token? = tokens := by
    rw [List.filterMap_map]
    exact List.filterMap_some
  have none {payload? : Lexeme → Option (List Char)}
      (nothing : ∀ token, payload? (.token token) = none) :
      (tokens.map Lexeme.token).findSome? payload? = none := by
    simp [nothing]
  rw [ofLexemes, kept, none fun _ => rfl, none fun _ => rfl]
  rfl

/-- A space before some pieces adds nothing. -/
theorem ofLexemes_space (vantage : Vantage) (pieces : List Lexeme) :
    ofLexemes vantage (.token .space :: pieces) = ofLexemes vantage pieces := by
  have tokens : (Lexeme.token .space :: pieces).filterMap Lexeme.token? =
      [] ++ .space :: pieces.filterMap Lexeme.token? := rfl
  unfold ofLexemes
  rw [tokens, items_append, items, ofItems_append, empty_append]
  rfl

/-- A space after some pieces adds nothing. -/
theorem ofLexemes_append_space (vantage : Vantage) (pieces : List Lexeme) :
    ofLexemes vantage (pieces ++ [.token .space]) = ofLexemes vantage pieces := by
  have tokens : (pieces ++ [Lexeme.token .space]).filterMap Lexeme.token? =
      pieces.filterMap Lexeme.token? ++ .space :: [] := List.filterMap_append
  unfold ofLexemes
  rw [tokens, items_append, items, ofItems_append, append_empty, List.findSome?_append,
    List.findSome?_append]
  simp [Lexeme.extra?, Lexeme.command?]

/-- Pieces with a space between them. -/
theorem ofLexemes_append (vantage : Vantage) {before : List Lexeme} (after : List Lexeme)
    (plain : ∀ piece ∈ before, ∃ token, piece = .token token) :
    ofLexemes vantage (before ++ .token .space :: after) =
      (ofLexemes vantage before).append (ofLexemes vantage after) := by
  have tokens : (before ++ Lexeme.token .space :: after).filterMap Lexeme.token? =
      before.filterMap Lexeme.token? ++ .space :: after.filterMap Lexeme.token? :=
    List.filterMap_append
  have none {α : Type} (payload? : Lexeme → Option α)
      (nothing : ∀ token, payload? (.token token) = none) : before.findSome? payload? = none := by
    rw [List.findSome?_eq_none_iff]
    intro piece member
    obtain ⟨token, rfl⟩ := plain piece member
    exact nothing token
  unfold ofLexemes
  rw [tokens, items_append, ofItems_append, List.findSome?_append, List.findSome?_append,
    none Lexeme.extra? fun _ => rfl, none Lexeme.command? fun _ => rfl]
  rfl

/-! ### Texts with blanks between them -/

section Blanks

variable {blanks : String} (vantage : Vantage)

theorem read_dropWhile (text : List Char) :
    ofLexemes vantage (Lexer.lexemes (text.dropWhile Text.isBlank)) =
      ofLexemes vantage (Lexer.lexemes text) := by
  cases text with
  | nil => rfl
  | cons c rest =>
    rw [List.dropWhile_cons]
    by_cases blank : Text.isBlank c = true
    · rw [if_pos blank, Lexer.lexemes_blank rest blank, ofLexemes_space]
    · rw [if_neg blank]

/-- Blanks before a query are no part of it. -/
theorem read_blanks (text : String) (written : blanks ≠ "")
    (blank : ∀ c ∈ blanks.toList, Text.isBlank c = true) :
    read vantage (blanks ++ text) = read vantage text := by
  have begun : blanks.toList ≠ [] := fun none => written (String.toList_inj.mp none)
  rw [read_eq_ofLexemes, String.toList_append, Lexer.lexemes_blanks text.toList begun blank,
    ofLexemes_space, read_dropWhile, read_eq_ofLexemes]

/-- Blanks after a query are no part of it. -/
theorem read_append_blanks (text : String) (blank : ∀ c ∈ blanks.toList, Text.isBlank c = true) :
    read vantage (text ++ blanks) = read vantage text := by
  rw [read_eq_ofLexemes, String.toList_append]
  rcases Lexer.lexemes_append_blanks text.toList blank with same | same
  · rw [same, read_eq_ofLexemes]
  · rw [same, ofLexemes_append_space, read_eq_ofLexemes]

/-- Blanks between two texts, the first of which holds no payload. -/
theorem read_append {first : String} (second : String) (noExtra : (tokenize first).extra = none)
    (noCommand : (tokenize first).command = none) (written : blanks ≠ "")
    (blank : ∀ c ∈ blanks.toList, Text.isBlank c = true) :
    read vantage (first ++ blanks ++ second) =
      (read vantage first).append (read vantage second) := by
  have begun : blanks.toList ≠ [] := fun none => written (String.toList_inj.mp none)
  have begins : Lexer.BeginsBlank (blanks.toList ++ second.toList) := by
    obtain ⟨b, tail, spelled⟩ := List.exists_cons_of_ne_nil begun
    rw [spelled] at blank ⊢
    exact ⟨b, tail ++ second.toList, rfl, blank b List.mem_cons_self⟩
  have plain : ∀ piece ∈ Lexer.lexemes first.toList, ∃ token, piece = .token token := by
    intro piece member
    cases piece with
    | token token => exact ⟨token, rfl⟩
    | extra text => cases List.findSome?_eq_none_iff.mp noExtra _ member
    | command text => cases List.findSome?_eq_none_iff.mp noCommand _ member
  obtain ⟨before, whole, kept⟩ := Lexer.lexemes_append begins plain
  have plainBefore : ∀ piece ∈ before, ∃ token, piece = .token token := by
    intro piece member
    rcases kept with same | same
    · exact plain piece (same ▸ member)
    · exact plain piece (same ▸ List.mem_append_left _ member)
  have head : read vantage first = ofLexemes vantage before := by
    rcases kept with same | same
    · rw [read_eq_ofLexemes, same]
    · rw [read_eq_ofLexemes, same, ofLexemes_append_space]
  rw [head, read_eq_ofLexemes, String.toList_append, String.toList_append, List.append_assoc, whole,
    Lexer.lexemes_blanks second.toList begun blank, ofLexemes_append vantage _ plainBefore,
    read_dropWhile, read_eq_ofLexemes]

end Blanks

end Query

/-- **Reading goes piece by piece between blanks.** Where a text without payloads stands before
another one with blanks between, the whole is read as the first query followed by the second,
whatever the blanks are; and blanks at the two ends of a query are no part of it. -/
theorem ofText_append (hours : Int) (now : Instant) (vantage : Vantage) (first second : String)
    (valid : Vantage.ofOffset hours now = .ok vantage) (noExtra : (tokenize first).extra = none)
    (noCommand : (tokenize first).command = none) :
    ∃ one two, Query.ofText hours now first = .ok one ∧ Query.ofText hours now second = .ok two ∧
      ∀ blanks : String, blanks ≠ "" → (∀ c ∈ blanks.toList, Text.isBlank c = true) →
        Query.ofText hours now (first ++ blanks ++ second) = .ok (one.append two) ∧
        Query.ofText hours now (blanks ++ second) = .ok two ∧
        Query.ofText hours now (second ++ blanks) = .ok two := by
  refine ⟨_, _, Query.ofText_eq valid first, Query.ofText_eq valid second, ?_⟩
  intro blanks written blank
  rw [Query.ofText_eq valid, Query.ofText_eq valid, Query.ofText_eq valid,
    Query.read_append vantage second noExtra noCommand written blank,
    Query.read_blanks vantage second written blank, Query.read_append_blanks vantage second blank]
  exact ⟨rfl, rfl, rfl⟩

/-- A shorthand, which a space lets end, before an excluded tag and the two payloads. -/
theorem ofText_append_payloads :
    let vantage : Vantage := { now := Instant.unixEpoch, zone := ⟨2, by decide⟩ }
    Vantage.ofOffset 2 Instant.unixEpoch = .ok vantage ∧
      (tokenize "milk  #now").extra = none ∧ (tokenize "milk  #now").command = none ∧
      ∃ one two, Query.ofText 2 Instant.unixEpoch "milk  #now" = .ok one ∧
        Query.ofText 2 Instant.unixEpoch "!tea -#work=x? #%later #+ a #!b" = .ok two ∧
        ∀ blanks : String, blanks ≠ "" → (∀ c ∈ blanks.toList, Text.isBlank c = true) →
          Query.ofText 2 Instant.unixEpoch
            ("milk  #now" ++ blanks ++ "!tea -#work=x? #%later #+ a #!b") =
              .ok (one.append two) ∧
          Query.ofText 2 Instant.unixEpoch (blanks ++ "!tea -#work=x? #%later #+ a #!b") =
            .ok two ∧
          Query.ofText 2 Instant.unixEpoch ("!tea -#work=x? #%later #+ a #!b" ++ blanks) =
            .ok two := by
  intro vantage
  have valid : Vantage.ofOffset 2 Instant.unixEpoch = .ok vantage := by rfl
  have noExtra : (tokenize "milk  #now").extra = none := by decide +kernel
  have noCommand : (tokenize "milk  #now").command = none := by decide +kernel
  exact ⟨valid, noExtra, noCommand, ofText_append 2 Instant.unixEpoch vantage "milk  #now"
    "!tea -#work=x? #%later #+ a #!b" valid noExtra noCommand⟩

end TaskQuery
