/-
**Words of the free text.**

Only a space ends a word. What belongs to no word (a stray comparison or terminator, or the tokens
of a tag, an option, a saved search, an exclusion or a request for a column) leaves no trace, so
that the free tokens on its two sides are put together. The free tokens between two spaces are one
word then, and no word goes beyond a space.

* `Placed`, `placed`: the tokens of a query at their places, with the items that take them.
* `Placed.words`: the free tokens, parted at the spaces.
* `map_spelled_words`: the words of the tokens spell the words of the items.
* `isInfix_of_isInfix`: tokens without a space stand next to each other in the text.
* `ofText_words`: how the free text of every query comes from its tokens.
-/

import TaskQuery.Proofs.Pieces
import TaskQuery.Proofs.Query.Escape
import TaskQuery.Proofs.Query.FreeText
import TaskQuery.Proofs.Token.Rules

namespace TaskQuery

open Calendar (Instant Vantage)

/-! ### What an item takes -/

/-- What a token adds to a word: a doubled sign stands for the sign itself. -/
def Token.decoded : Token → List Char
  | escape sign => [sign.char]
  | token => token.text

theorem Token.decoded_ne_nil {token : Token} (written : token.text ≠ []) : token.decoded ≠ [] := by
  cases token with
  | escape sign => exact List.cons_ne_nil _ _
  | _ => exact written

namespace Item

/-- Whether an item is a part of a word. -/
def isWord : Item → Bool
  | word _ => true
  | _ => false

/-- The part of a word that an item is. -/
def part : Item → List Char
  | word text => text
  | _ => []

section Next

variable (vantage : Vantage) {token : Token} (rest : List Token)

/-- The tokens that the first item takes. -/
def taken (token : Token) : List Token :=
  token :: rest.take (rest.length - (next vantage token rest).2.length)

theorem taken_append (token : Token) :
    taken vantage rest token ++ (next vantage token rest).2 = token :: rest := by
  obtain ⟨front, split⟩ := next_suffix vantage token rest
  have length : front.length = rest.length - (next vantage token rest).2.length := by
    rw [← congrArg List.length split, List.length_append, Nat.add_sub_cancel]
  have front_eq : front = rest.take front.length := by
    rw [← split, List.take_left]
  rw [taken, ← length, ← front_eq, List.cons_append, split]

/-- An item that leaves the other tokens takes one. -/
theorem taken_of_alone {item : Item} (alone : next vantage token rest = (item, rest)) :
    taken vantage rest token = [token] := by
  rw [taken, alone, Nat.sub_self, List.take_zero]

/-- An item before a space takes what it takes at the end of the tokens. -/
theorem taken_append_space (token : Token) (more : List Token) :
    taken vantage (rest ++ .space :: more) token = taken vantage rest token := by
  have whole := taken_append vantage (rest ++ .space :: more) token
  rw [next_append, ← List.cons_append, ← taken_append vantage rest token,
    List.append_assoc] at whole
  exact List.append_cancel_right whole

end Next

/-- An item is what its first token stands for by itself, or neither a part of a word nor a
space. -/
theorem next_cases (vantage : Vantage) (token : Token) (rest : List Token) :
    next vantage token rest = (ofToken token, rest) ∨
      (next vantage token rest).1.isWord = false ∧ (next vantage token rest).1 ≠ .space := by
  unfold next
  split
  · exact .inr ⟨rfl, Item.noConfusion⟩
  · unfold afterOptionMark
    split <;> exact .inr ⟨rfl, Item.noConfusion⟩
  · unfold afterSign
    split
    · exact .inr ⟨rfl, Item.noConfusion⟩
    · split
      · exact .inr ⟨rfl, Item.noConfusion⟩
      · split
        · exact .inr ⟨rfl, Item.noConfusion⟩
        · exact .inl rfl
  · split
    · unfold excluded
      dsimp only
      split <;> exact .inr ⟨rfl, Item.noConfusion⟩
    · exact .inl rfl
  · exact .inl rfl

/-- A part of a word is one token. -/
theorem next_of_isWord {vantage : Vantage} {token : Token} {rest : List Token}
    (isWord : (next vantage token rest).1.isWord = true) :
    next vantage token rest = (.word token.decoded, rest) := by
  rcases next_cases vantage token rest with alone | ⟨notWord, _⟩
  · rw [alone] at isWord ⊢
    cases token with
    | space | comparison | bang | ask => cases isWord
    | _ => rfl
  · cases notWord.symm.trans isWord

/-- Only a space token begins a space. -/
theorem eq_space_of_next {vantage : Vantage} {token : Token} {rest : List Token}
    (isSpace : (next vantage token rest).1 = .space) : token = .space := by
  rcases next_cases vantage token rest with alone | ⟨_, notSpace⟩
  · rw [alone] at isSpace
    cases token with
    | space => rfl
    | _ => cases isSpace
  · exact absurd isSpace notSpace

/-- Tokens without a space have no space among their items. -/
theorem items_ne_space (vantage : Vantage) {tokens : List Token}
    (noSpace : ∀ token ∈ tokens, token ≠ .space) :
    ∀ item ∈ items vantage tokens, item ≠ .space := by
  fun_induction items vantage tokens with
  | case1 => exact fun item none => absurd none List.not_mem_nil
  | case2 token rest inner =>
    have within := next_suffix vantage token rest
    obtain ⟨here, later⟩ := List.forall_mem_cons.mp noSpace
    exact List.forall_mem_cons.mpr ⟨here ∘ eq_space_of_next,
      inner fun other member => later other (within.subset member)⟩

/-- Items without a space are parts of one word. -/
theorem wordsFrom_of_ne_space {parts : List Item} (noSpace : ∀ item ∈ parts, item ≠ .space)
    (begun : List Char) : wordsFrom begun parts = keepWord (begun ++ parts.flatMap part) := by
  induction parts generalizing begun with
  | nil => rw [List.flatMap_nil, List.append_nil, wordsFrom]
  | cons item parts inner =>
    obtain ⟨here, later⟩ := List.forall_mem_cons.mp noSpace
    cases item with
    | space => exact absurd rfl here
    | word text => rw [wordsFrom, inner later, List.flatMap_cons, List.append_assoc]; rfl
    | _ => exact inner later begun

end Item

/-! ### The tokens at their places -/

/-- A token of a query, its place among all of them, and the item that takes it. -/
structure Placed where
  place : Nat
  token : Token
  item : Item
  deriving DecidableEq, Repr

namespace Placed

/-- Whether a token is a part of a word. -/
def isFree (placed : Placed) : Bool :=
  placed.item.isWord

/-- Whether a token ends a word. -/
def isSpace (placed : Placed) : Bool :=
  placed.token == .space

/-- What some tokens spell. -/
def spelled (word : List Placed) : List Char :=
  word.flatMap (·.token.decoded)

theorem spelled_append (first second : List Placed) :
    spelled (first ++ second) = spelled first ++ spelled second :=
  List.flatMap_append

/-- The words of some tokens: the free ones between two spaces, if there are any. -/
def words (tokens : List Placed) : List (List Placed) :=
  ((tokens.splitOnP isSpace).map (·.filter isFree)).filter (!·.isEmpty)

/-- Some tokens of one item from a place on. -/
def ofItem (item : Item) (place : Nat) (tokens : List Token) : List Placed :=
  (tokens.zipIdx place).map fun found => ⟨found.2, found.1, item⟩

theorem map_token_ofItem (item : Item) (place : Nat) (tokens : List Token) :
    (ofItem item place tokens).map token = tokens := by
  rw [ofItem, List.map_map]
  exact List.zipIdx_map_fst place tokens

theorem map_place_ofItem (item : Item) (place : Nat) (tokens : List Token) :
    (ofItem item place tokens).map Placed.place = List.range' place tokens.length := by
  rw [ofItem, List.map_map]
  exact List.zipIdx_map_snd place tokens

end Placed

/-- The tokens of a query from a place on, with the items that take them. -/
def placed (vantage : Vantage) (place : Nat) : List Token → List Placed
  | [] => []
  | token :: rest =>
    Placed.ofItem (Item.next vantage token rest).1 place (Item.taken vantage rest token) ++
      placed vantage (place + (Item.taken vantage rest token).length)
        (Item.next vantage token rest).2
termination_by tokens => tokens.length
decreasing_by
  have shorter := (Item.next_suffix vantage token rest).length_le
  simp only [List.length_cons]; omega

section Placing

variable (vantage : Vantage) (place : Nat) (tokens : List Token)

/-- Every token has a place. -/
theorem map_token_placed : (placed vantage place tokens).map Placed.token = tokens := by
  fun_induction placed vantage place tokens with
  | case1 => rfl
  | case2 place token rest inner =>
    rw [List.map_append, Placed.map_token_ofItem, inner, Item.taken_append]

theorem map_place_placed :
    (placed vantage place tokens).map Placed.place = List.range' place tokens.length := by
  fun_induction placed vantage place tokens with
  | case1 => rfl
  | case2 place token rest inner =>
    rw [List.map_append, Placed.map_place_ofItem, inner, List.range'_append_1, ← List.length_append,
      Item.taken_append]

/-- The places are those of the tokens, from left to right. -/
theorem placed_ascending : (placed vantage place tokens).Pairwise (·.place < ·.place) := by
  have places : ((placed vantage place tokens).map Placed.place).Pairwise (· < ·) := by
    rw [map_place_placed]
    exact List.pairwise_lt_range' 1
  exact List.pairwise_map.mp places

/-- A space stands between what it parts. -/
theorem placed_append_space (more : List Token) :
    placed vantage place (tokens ++ .space :: more) =
      placed vantage place tokens ++ ⟨place + tokens.length, .space, .space⟩ ::
        placed vantage (place + tokens.length + 1) more := by
  fun_induction placed vantage place tokens with
  | case1 =>
    have alone : Item.next vantage .space more = (.space, more) := rfl
    rw [List.nil_append, placed, Item.taken_of_alone vantage more alone]
    rfl
  | case2 place token rest inner =>
    have length := congrArg List.length (Item.taken_append vantage rest token)
    rw [List.length_append] at length
    rw [List.cons_append, placed, Item.taken_append_space, Item.next_append]
    dsimp only
    rw [inner, List.append_assoc, Nat.add_assoc place, length]

variable {vantage place tokens}

/-- The first item takes a free token only by itself. -/
theorem filter_isFree_ofItem (token : Token) (rest : List Token) :
    (Placed.ofItem (Item.next vantage token rest).1 place (Item.taken vantage rest token)).filter
        Placed.isFree =
      if (Item.next vantage token rest).1.isWord then
        [⟨place, token, .word token.decoded⟩]
      else [] := by
  by_cases isWord : (Item.next vantage token rest).1.isWord = true
  · have alone := Item.next_of_isWord isWord
    rw [if_pos isWord, Item.taken_of_alone vantage rest alone, alone]
    rfl
  · rw [if_neg isWord]
    refine List.filter_eq_nil_iff.mpr fun found member => ?_
    obtain ⟨_, _, rfl⟩ := List.mem_map.mp member
    exact isWord

/-- No space is free. -/
theorem isSpace_eq_false_of_isFree : ∀ found ∈ placed vantage place tokens, found.isFree = true →
    found.isSpace = false := by
  fun_induction placed vantage place tokens with
  | case1 => exact fun found none => absurd none List.not_mem_nil
  | case2 place token rest inner =>
    refine List.forall_mem_append.mpr ⟨fun found member isFree => ?_, inner⟩
    have kept := List.mem_filter.mpr ⟨member, isFree⟩
    rw [filter_isFree_ofItem] at kept
    split at kept
    · next isWord =>
      obtain rfl := List.mem_singleton.mp kept
      refine beq_eq_false_iff_ne.mpr ?_
      rintro rfl
      cases isWord
    · exact absurd kept List.not_mem_nil

/-- The free tokens spell what the items add to a word. -/
theorem spelled_filter_isFree :
    Placed.spelled ((placed vantage place tokens).filter Placed.isFree) =
      (items vantage tokens).flatMap Item.part := by
  fun_induction placed vantage place tokens with
  | case1 => rw [items]; rfl
  | case2 place token rest inner =>
    rw [List.filter_append, Placed.spelled_append, inner, items, List.flatMap_cons,
      filter_isFree_ofItem]
    congr 1
    by_cases isWord : (Item.next vantage token rest).1.isWord = true
    · rw [if_pos isWord, Item.next_of_isWord isWord]
      exact List.append_nil _
    · rw [if_neg isWord]
      cases found : (Item.next vantage token rest).1 with
      | word text => exact absurd (found ▸ rfl) isWord
      | _ => rfl

end Placing

/-! ### The words of the tokens -/

namespace Placed

variable {tokens : List Placed}

/-- No token spells nothing. -/
theorem isEmpty_spelled {word : List Placed} (written : ∀ found ∈ word, found.token.text ≠ []) :
    (spelled word).isEmpty = word.isEmpty := by
  cases word with
  | nil => rfl
  | cons found word =>
    have here := Token.decoded_ne_nil (written found List.mem_cons_self)
    exact List.isEmpty_eq_false_iff.mpr (List.append_ne_nil_of_left_ne_nil here _)

/-- Tokens without a space are one word, if any of them is free. -/
theorem words_of_not_isSpace (whole : ∀ found ∈ tokens, found.isSpace = false) :
    words tokens =
      if (tokens.filter isFree).isEmpty then [] else [tokens.filter isFree] := by
  rw [words, List.splitOnP_eq_singleton whole, List.map_singleton]
  cases empty : (tokens.filter isFree).isEmpty <;> simp [empty]

/-- A space ends a word. -/
theorem words_append {sep : Placed} {more : List Placed}
    (whole : ∀ found ∈ tokens, found.isSpace = false) (isSpace : sep.isSpace = true) :
    words (tokens ++ sep :: more) = words tokens ++ words more := by
  rw [words, words, words, List.splitOnP_append_cons_of_forall_mem whole sep isSpace,
    List.splitOnP_eq_singleton whole, List.map_cons, ← List.singleton_append, List.filter_append,
    List.map_singleton]

/-- Every free token is in one word, in the order of the query. -/
theorem flatten_words (visible : ∀ found ∈ tokens, found.isFree = true → found.isSpace = false) :
    (words tokens).flatten = tokens.filter isFree := by
  rw [words, List.flatten_filter_not_isEmpty, ← List.filter_flatten,
    filter_flatten_splitOnP visible]

theorem mem_words {word : List Placed} : word ∈ words tokens ↔
    (∃ piece ∈ tokens.splitOnP isSpace, piece.filter isFree = word) ∧ word ≠ [] := by
  rw [words, List.mem_filter, List.mem_map, Bool.not_eq_true', List.isEmpty_eq_false_iff]

/-- Two free tokens are in one word exactly if they are in one piece. -/
theorem exists_word_iff {one other : Placed} (isFree : one.isFree = true)
    (isFree' : other.isFree = true) :
    (∃ word ∈ words tokens, one ∈ word ∧ other ∈ word) ↔
      ∃ piece ∈ tokens.splitOnP isSpace, one ∈ piece ∧ other ∈ piece := by
  constructor
  · rintro ⟨word, isWord, member, member'⟩
    obtain ⟨⟨piece, isPiece, rfl⟩, _⟩ := mem_words.mp isWord
    exact ⟨piece, isPiece, List.mem_of_mem_filter member, List.mem_of_mem_filter member'⟩
  · rintro ⟨piece, isPiece, member, member'⟩
    have kept := List.mem_filter.mpr ⟨member, isFree⟩
    exact ⟨_, mem_words.mpr ⟨⟨piece, isPiece, rfl⟩, List.ne_nil_of_mem kept⟩, kept,
      List.mem_filter.mpr ⟨member', isFree'⟩⟩

end Placed

section Spelling

variable {vantage : Vantage} {place : Nat} {tokens : List Token}

/-- Tokens without a space have none at their places. -/
theorem isSpace_eq_false_of_ne_space (noSpace : ∀ token ∈ tokens, token ≠ .space) :
    ∀ found ∈ placed vantage place tokens, found.isSpace = false := by
  rw [← map_token_placed vantage place tokens] at noSpace
  exact fun found member => beq_eq_false_iff_ne.mpr (noSpace _ (List.mem_map_of_mem member))

/-- Tokens without a space spell the word of their items. -/
theorem map_spelled_words_of_ne_space (written : ∀ token ∈ tokens, token.text ≠ [])
    (noSpace : ∀ token ∈ tokens, token ≠ .space) :
    (Placed.words (placed vantage place tokens)).map Placed.spelled =
      Item.words (items vantage tokens) := by
  have texts : ∀ found ∈ (placed vantage place tokens).filter Placed.isFree,
      found.token.text ≠ [] := by
    rw [← map_token_placed vantage place tokens, List.forall_mem_map] at written
    exact fun found member => written found (List.mem_of_mem_filter member)
  rw [Placed.words_of_not_isSpace (isSpace_eq_false_of_ne_space noSpace), Item.words,
    Item.wordsFrom_of_ne_space (Item.items_ne_space vantage noSpace), List.nil_append,
    ← @spelled_filter_isFree vantage place tokens, Item.keepWord, Placed.isEmpty_spelled texts]
  split <;> rfl

/-- **The words of the tokens spell the words of the items.** The induction is on the first
space. -/
theorem map_spelled_words (written : ∀ token ∈ tokens, token.text ≠ []) :
    (Placed.words (placed vantage place tokens)).map Placed.spelled =
      Item.words (items vantage tokens) := by
  induction tokens using split_induction (p := (· == Token.space)) generalizing place with
  | last tokens whole =>
    exact map_spelled_words_of_ne_space written fun token member =>
      beq_eq_false_iff_ne.mp (whole token member)
  | more before sep after whole isSep inner =>
    obtain rfl := beq_iff_eq.mp isSep
    have noSpace : ∀ token ∈ before, token ≠ .space :=
      fun token member => beq_eq_false_iff_ne.mp (whole token member)
    obtain ⟨here, later⟩ := List.forall_mem_append.mp written
    rw [placed_append_space, Placed.words_append (isSpace_eq_false_of_ne_space noSpace) rfl,
      List.map_append,
      map_spelled_words_of_ne_space here noSpace, inner (List.forall_mem_cons.mp later).2,
      items_append]
    exact (Item.wordsFrom_append [] _ _).symm

end Spelling

/-! ### Tokens next to each other -/

namespace Lexer

theorem text_of_spells {token : Token} {stretch following : List Char}
    (spells : token.Spells stretch following) (visible : token ≠ .space) :
    token.text = stretch := by
  cases spells with
  | space => exact absurd rfl visible
  | _ => rfl

/-- A step adds one token, which is written there if it is no space, or comes to the end. -/
theorem filterMap_lexemes_cons (c : Char) (rest : List Char) :
    (∃ token, (lexemes (c :: rest)).filterMap Lexeme.token? =
        token :: (lexemes (scan c rest).2).filterMap Lexeme.token? ∧
      (token ≠ .space → c :: rest = token.text ++ (scan c rest).2)) ∨
    (lexemes (c :: rest)).filterMap Lexeme.token? = [] := by
  rw [lexemes_cons]
  rcases scan_cases c rest with ⟨token, following, scanned⟩ | ⟨written, rfl, scanned⟩ |
    ⟨written, rfl, scanned⟩
  · obtain ⟨stretch, split, spells⟩ := spells_of_scan scanned
    rw [scanned]
    refine .inl ⟨token, rfl, fun visible => ?_⟩
    rw [text_of_spells spells visible, split]
    rfl
  · rw [scanned]
    exact .inl ⟨.space, rfl, fun visible => absurd rfl visible⟩
  · rw [scanned, lexemes]
    exact .inr rfl

theorem flatMap_text_isPrefix {text : List Char} {run : List Token}
    (noSpace : ∀ token ∈ run, token ≠ .space)
    (starts : run <+: (lexemes text).filterMap Lexeme.token?) :
    run.flatMap Token.text <+: text := by
  induction run generalizing text with
  | nil => exact List.nil_prefix
  | cons token run inner =>
    obtain ⟨visible, later⟩ := List.forall_mem_cons.mp noSpace
    cases text with
    | nil =>
      rw [lexemes] at starts
      exact absurd (List.prefix_nil.mp starts) (List.cons_ne_nil token run)
    | cons c rest =>
      rcases filterMap_lexemes_cons c rest with ⟨first, tokens, written⟩ | ended
      · rw [tokens] at starts
        obtain ⟨rfl, others⟩ := List.cons_prefix_cons.mp starts
        rw [written visible, List.flatMap_cons]
        exact (List.prefix_append_right_inj _).mpr (inner later others)
      · rw [ended] at starts
        exact absurd (List.prefix_nil.mp starts) (List.cons_ne_nil token run)

/-- **Tokens without a space stand next to each other in the text.** -/
theorem flatMap_text_isInfix {text : List Char} {run : List Token}
    (noSpace : ∀ token ∈ run, token ≠ .space)
    (within : run <:+: (lexemes text).filterMap Lexeme.token?) :
    run.flatMap Token.text <:+: text := by
  fun_induction lexemes text with
  | case1 =>
    rw [List.infix_nil.mp within]
    exact List.infix_refl []
  | case2 c rest inner =>
    rw [← lexemes_cons] at within
    rcases filterMap_lexemes_cons c rest with ⟨first, tokens, _⟩ | ended
    · rw [tokens] at within
      rcases List.infix_cons_iff.mp within with starts | within
      · rw [← tokens] at starts
        exact (flatMap_text_isPrefix noSpace starts).isInfix
      · exact (inner within).trans ((scan_suffix c rest).trans (List.suffix_cons c rest)).isInfix
    · rw [ended] at within
      rw [List.infix_nil.mp within]
      exact List.nil_infix

end Lexer

/-! ### The words of a free text -/

/-- The words of a text are those that it was put together from. -/
theorem splitOn_intercalate_words {words : List (List Char)}
    (written : ∀ word ∈ words, word ≠ []) (noSpace : ∀ word ∈ words, ' ' ∉ word) :
    (([' '].intercalate words).splitOn ' ').filter (!·.isEmpty) = words := by
  by_cases none : words = []
  · rw [none]
    rfl
  · rw [List.splitOn_intercalate ' ' noSpace none]
    refine List.filter_eq_self.mpr fun word member => ?_
    rw [List.isEmpty_eq_false_iff.mpr (written word member)]
    rfl

namespace Query

/-- The tokens of a text at their places. -/
def placed (vantage : Vantage) (text : String) : List Placed :=
  TaskQuery.placed vantage 0 (tokenize text).tokens

/-- The free text is what the words of the tokens spell, with one space between any two. -/
theorem text_read (vantage : Vantage) (text : String) : (read vantage text).text =
    String.ofList ([' '].intercalate
      ((Placed.words (placed vantage text)).map Placed.spelled)) := by
  have written : ∀ token ∈ (tokenize text).tokens, token.text ≠ [] :=
    fun token member => Lexer.text_ne_nil_of_mem member
  rw [placed, map_spelled_words written]
  rfl

/-- So the words of the free text are those that the tokens spell. -/
theorem splitOn_text_read (vantage : Vantage) (text : String) :
    ((read vantage text).text.toList.splitOn ' ').filter (!·.isEmpty) =
      (Placed.words (placed vantage text)).map Placed.spelled := by
  have spelled : ∀ token ∈ (tokenize text).tokens, token.IsSpelled :=
    fun token member => Lexer.exists_spells_of_mem member
  have written : ∀ token ∈ (tokenize text).tokens, token.text ≠ [] :=
    fun token member => Lexer.text_ne_nil_of_mem member
  have searchable : ∀ word ∈ Item.words (items vantage (tokenize text).tokens), ∀ c ∈ word,
      IsWordChar c :=
    Item.wordsFrom_isSearchable (fun c none => absurd none List.not_mem_nil)
      (items_isSearchable vantage spelled)
  rw [text_read, String.toList_ofList, placed, map_spelled_words written]
  exact splitOn_intercalate_words (fun _ => Item.ne_nil_of_mem_wordsFrom)
    fun word member hasSpace => (searchable word member ' ' hasSpace).ne_space rfl

/-- How some words come from the tokens of a text. -/
structure AreWords (text : List Char) (tokens : List Placed) (words : List (List Placed)) :
    Prop where
  /-- Every free token is in one of them, in the order of the text. -/
  whole : words.flatten = tokens.filter Placed.isFree
  /-- Two free tokens are in the same word exactly if no space stands between them. -/
  together : ∀ one ∈ tokens, ∀ other ∈ tokens, one.isFree = true → other.isFree = true →
    one.place < other.place →
    ((∃ word ∈ words, one ∈ word ∧ other ∈ word) ↔
      ∀ between ∈ tokens, one.place < between.place → between.place < other.place →
        between.token ≠ .space)
  /-- Each is what is free of some tokens without a space, which stand next to each other in the
  text. -/
  contiguous : ∀ word ∈ words, ∃ stretch, stretch <:+: tokens ∧
    word = stretch.filter Placed.isFree ∧ (∀ found ∈ stretch, found.token ≠ .space) ∧
    stretch.flatMap (·.token.text) <:+: text

theorem areWords_placed (vantage : Vantage) (text : String) :
    AreWords text.toList (placed vantage text) (Placed.words (placed vantage text)) where
  whole := Placed.flatten_words isSpace_eq_false_of_isFree
  together one member other member' isFree isFree' before := by
    have between := exists_piece_iff (placed_ascending vantage 0 _) member member'
      (isSpace_eq_false_of_isFree one member isFree)
      (isSpace_eq_false_of_isFree other member' isFree') before
    simp only [Placed.isSpace, beq_eq_false_iff_ne] at between
    exact (Placed.exists_word_iff isFree isFree').trans between
  contiguous word isWord := by
    obtain ⟨⟨stretch, isPiece, rfl⟩, _⟩ := Placed.mem_words.mp isWord
    obtain ⟨within, whole⟩ := isInfix_of_mem_splitOnP stretch isPiece
    have visible : ∀ found ∈ stretch, found.token ≠ .space :=
      fun found member => beq_eq_false_iff_ne.mp (whole found member)
    refine ⟨stretch, within, rfl, visible, ?_⟩
    have tokens : stretch.map Placed.token <:+: (tokenize text).tokens := by
      rw [← map_token_placed vantage 0 (tokenize text).tokens]
      exact within.map Placed.token
    rw [← List.flatMap_map]
    exact Lexer.flatMap_text_isInfix (List.forall_mem_map.mpr visible) tokens

end Query

/-- **The words of the free text of every query** are spelled by its free tokens, parted at the
spaces and nowhere else: two of them are in the same word exactly if no space stands between them,
whatever else does, and a word was written in one stretch of the query, but for its doubled signs
and for what belongs to no word. -/
theorem ofText_words (hours : Int) (now : Instant) (text : String)
    (valid : -25 ≤ hours ∧ hours ≤ 25) :
    ∃ vantage query, Vantage.ofOffset hours now = .ok vantage ∧
      Query.ofText hours now text = .ok query ∧
      (Query.placed vantage text).map Placed.token = (tokenize text).tokens ∧
      (query.text.toList.splitOn ' ').filter (!·.isEmpty) =
        (Placed.words (Query.placed vantage text)).map Placed.spelled ∧
      Query.AreWords text.toList (Query.placed vantage text)
        (Placed.words (Query.placed vantage text)) := by
  have here : Vantage.ofOffset hours now = .ok { zone := ⟨hours, valid⟩, now } :=
    Vantage.ofOffset_eq_ok.mpr ⟨rfl, rfl⟩
  exact ⟨_, _, here, Query.ofText_eq here text, map_token_placed _ 0 _,
    Query.splitOn_text_read _ text, Query.areWords_placed _ text⟩

/-- Stray comparisons and terminators, a shown tag, a doubled sign and a space: two words, one of
which lies across what belongs to none. -/
theorem ofText_words_crowded :
    let text := "x=y#p!z ?##w"
    (-25 ≤ (0 : Int) ∧ (0 : Int) ≤ 25) ∧
      ∃ vantage query, Vantage.ofOffset 0 Instant.unixEpoch = .ok vantage ∧
        Query.ofText 0 Instant.unixEpoch text = .ok query ∧ query.text = "xyz #w" ∧
        (Placed.words (Query.placed vantage text)).map (fun word =>
          word.map fun found => (found.place, String.ofList found.token.decoded)) =
            [[(0, "x"), (2, "y"), (6, "z")], [(9, "#"), (10, "w")]] ∧
        (Query.placed vantage text).map Placed.token = (tokenize text).tokens ∧
        (query.text.toList.splitOn ' ').filter (!·.isEmpty) =
          (Placed.words (Query.placed vantage text)).map Placed.spelled ∧
        Query.AreWords text.toList (Query.placed vantage text)
          (Placed.words (Query.placed vantage text)) := by
  intro text
  have valid : -25 ≤ (0 : Int) ∧ (0 : Int) ≤ 25 := by decide
  have free : (Query.ofText 0 Instant.unixEpoch text).toOption.map Query.text =
      some "xyz #w" := by
    decide +kernel
  obtain ⟨vantage, query, here, isQuery, areWords⟩ :=
    ofText_words 0 Instant.unixEpoch text valid
  rw [isQuery] at free
  cases here
  exact ⟨valid, _, query, rfl, isQuery, Option.some.inj free, by decide +kernel, areWords⟩

theorem placed_comparison (vantage : Vantage) : Query.placed vantage "a=b" =
    [⟨0, .name ['a'], .word ['a']⟩, ⟨1, .comparison .eq, .stray⟩,
      ⟨2, .name ['b'], .word ['b']⟩] := by
  have tokens : (tokenize "a=b").tokens = [.name ['a'], .comparison .eq, .name ['b']] := by
    decide +kernel
  rw [Query.placed, tokens]
  simp [placed, Item.taken, Item.next, Item.ofToken, Placed.ofItem, Token.text]

/-- A stray comparison between two free tokens does not part them: the word that they make was not
written in the text. -/
theorem words_across_comparison :
    ∃ vantage query, Vantage.ofOffset 0 Instant.unixEpoch = .ok vantage ∧
      Query.ofText 0 Instant.unixEpoch "a=b" = .ok query ∧
      (∃ one ∈ Query.placed vantage "a=b", ∃ between ∈ Query.placed vantage "a=b",
        ∃ other ∈ Query.placed vantage "a=b",
          one.isFree = true ∧ between.isFree = false ∧ other.isFree = true ∧
          one.place < between.place ∧ between.place < other.place ∧
          ∃ word ∈ Placed.words (Query.placed vantage "a=b"), one ∈ word ∧ other ∈ word) ∧
      query.text = "ab" ∧ ¬"ab".toList <:+: "a=b".toList := by
  have here : Vantage.ofOffset 0 Instant.unixEpoch =
      .ok { zone := ⟨0, by decide⟩, now := Instant.unixEpoch } :=
    Vantage.ofOffset_eq_ok.mpr ⟨rfl, rfl⟩
  refine ⟨_, _, here, Query.ofText_eq here "a=b", ?_, ?_, by decide⟩
  · rw [placed_comparison]
    decide
  · rw [Query.text_read, placed_comparison]
    decide

end TaskQuery
