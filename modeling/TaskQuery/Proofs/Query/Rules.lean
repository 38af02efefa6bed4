/-
**Reading a query always comes to an end.**

The items of a query are read by rules tried in a fixed order, too. The last of them takes any token
as free text, so that a rule matches wherever the tokens have not ended; and each takes one token at
least. Together with the rules of the lexer this makes every text a query at every offset that is one.

* `Item.rules`: the rules of the items in their order.
* `Item.firstMatch_rules`: the first that matches finds the next item.
* `ofText_progresses`: lexing and reading of a text from the beginning to the end.
-/

import TaskQuery.Proofs.Query.Seam
import TaskQuery.Proofs.Token.Rules
import TaskQuery.Query.Reading

namespace TaskQuery

open Calendar (Instant Vantage)

namespace Item

/-! ### The rules of the items -/

def takeSpace : Rule Token Item
  | .space :: rest => some (.space, rest)
  | _ => none

def takeSavedSearch : Rule Token Item
  | .savedMark _ :: .name name :: rest => some (.savedSearch (String.ofList name), rest)
  | _ => none

/-- An option, or a field with a comparison. -/
def takeOption (vantage : Vantage) : Rule Token Item
  | .optionMark _ :: .name name :: rest => some (afterOptionMark vantage (String.ofList name) rest)
  | _ => none

def takeColumn : Rule Token Item
  | .tagMark _ :: .name name :: .ask :: rest => some (.column (String.ofList name), rest)
  | _ => none

def takeExclusion : Rule Token Item
  | .name ['-'] :: .tagMark _ :: .name name :: rest =>
    if opensTag name then some (excluded name rest) else none
  | _ => none

/-- A name that stands for a condition, where a shorthand may end. -/
def takeShorthand (means : List Char → Option Condition) : Rule Token Item
  | .tagMark _ :: .name name :: rest =>
    (if atBoundary rest then means name else none).map
      fun condition => (.require condition false, rest)
  | _ => none

def takeTag : Rule Token Item
  | .tagMark _ :: .name name :: rest =>
    if opensTag name then
      let (condition, shown, after) := tagged name rest
      some (.require condition shown, after)
    else none
  | _ => none

/-- Any token as free text. -/
def takeText : Rule Token Item
  | token :: rest => some (ofToken token, rest)
  | [] => none

/-- The rules in the order in which they are tried. A column comes before the shorthands, which come
before the tags, and free text takes whatever is left. -/
def rules (vantage : Vantage) : List (Rule Token Item) :=
  [takeSpace, takeSavedSearch, takeOption vantage, takeColumn, takeExclusion,
    takeShorthand fun name => priority? (String.ofList name),
    takeShorthand (due? vantage), takeTag, takeText]

variable {vantage : Vantage}

/-- The two rules of shorthands together find what a name stands for. -/
theorem firstMatch_shorthand (sign : Sign) (name : List Char) (rest : List Token) :
    firstMatch ((rules vantage).drop 5) (.tagMark sign :: .name name :: rest) =
      ((if atBoundary rest then shorthand? vantage name else none).map
          fun condition => (.require condition false, rest)).or
        (firstMatch [takeTag, takeText] (.tagMark sign :: .name name :: rest)) := by
  have tries (means : List Char → Option Condition) :
      takeShorthand means (.tagMark sign :: .name name :: rest) =
        (if atBoundary rest then means name else none).map
          fun condition => (.require condition false, rest) := rfl
  have both : (if atBoundary rest then shorthand? vantage name else none) =
      (if atBoundary rest then priority? (String.ofList name) else none).or
        (if atBoundary rest then due? vantage name else none) := by
    cases atBoundary rest <;> rfl
  rw [both, Option.map_or, Option.or_assoc, ← tries (due? vantage), ← firstMatch_cons]
  exact firstMatch_cons

/-- The rules find the next item where a sign and a name begin the tokens. -/
theorem firstMatch_tagMark (sign : Sign) (name : List Char) (rest : List Token) :
    firstMatch (rules vantage) (.tagMark sign :: .name name :: rest) =
      some (afterSign vantage sign name rest) := by
  rw [afterSign]
  split
  · next asked =>
    obtain ⟨after, rfl⟩ := List.head?_eq_some_iff.mp (beq_iff_eq.mp asked)
    rfl
  · next unasked =>
    have noColumn : takeColumn (.tagMark sign :: .name name :: rest) = none := by
      unfold takeColumn
      split
      · next same =>
        cases same
        exact absurd rfl unasked
      · rfl
    have later : firstMatch (rules vantage) (.tagMark sign :: .name name :: rest) =
        firstMatch ((rules vantage).drop 5) (.tagMark sign :: .name name :: rest) :=
      firstMatch_skip noColumn
    rw [later, firstMatch_shorthand]
    cases (if atBoundary rest then shorthand? vantage name else none) with
    | some condition => rfl
    | none =>
      dsimp only
      by_cases opens : opensTag name = true
      · rw [if_pos opens]
        refine firstMatch_take ?_
        rw [takeTag, if_pos opens]
      · have noTag : takeTag (.tagMark sign :: .name name :: rest) = none := by
          rw [takeTag, if_neg opens]
        rw [if_neg opens, firstMatch_skip noTag]
        rfl

/-- The rules find the next item where a hyphen, a sign and a name begin the tokens. -/
theorem firstMatch_exclusion (sign : Sign) (name : List Char) (rest : List Token) :
    firstMatch (rules vantage) (.name ['-'] :: .tagMark sign :: .name name :: rest) =
      some (next vantage (.name ['-']) (.tagMark sign :: .name name :: rest)) := by
  have later : firstMatch (rules vantage) (.name ['-'] :: .tagMark sign :: .name name :: rest) =
      firstMatch ((rules vantage).drop 4) (.name ['-'] :: .tagMark sign :: .name name :: rest) := rfl
  rw [later, next]
  by_cases opens : opensTag name = true
  · rw [if_pos opens]
    refine firstMatch_take ?_
    rw [takeExclusion, if_pos opens]
  · have noExclusion : takeExclusion (.name ['-'] :: .tagMark sign :: .name name :: rest) = none := by
      rw [takeExclusion, if_neg opens]
    rw [if_neg opens]
    exact firstMatch_skip noExclusion

/-- The rules find the next item where a name begins the tokens. -/
theorem firstMatch_name (run : List Char) (rest : List Token) :
    firstMatch (rules vantage) (.name run :: rest) = some (next vantage (.name run) rest) := by
  by_cases dash : run = ['-']
  · subst dash
    cases rest with
    | nil => rfl
    | cons first rest =>
      cases first with
      | tagMark sign =>
        cases rest with
        | nil => rfl
        | cons second rest =>
          cases second with
          | name name => exact firstMatch_exclusion sign name rest
          | _ => rfl
      | _ => rfl
  · have noExclusion : takeExclusion (.name run :: rest) = none := by
      unfold takeExclusion
      split
      · next same =>
        cases same
        exact absurd rfl dash
      · rfl
    rw [next_name vantage dash]
    exact firstMatch_skip noExclusion

/-- **The first rule that matches finds the next item**, and some rule matches wherever the tokens
have not ended. -/
theorem firstMatch_rules (token : Token) (rest : List Token) :
    firstMatch (rules vantage) (token :: rest) = some (next vantage token rest) := by
  cases token with
  | savedMark sign =>
    cases rest with
    | nil => rfl
    | cons first rest => cases first <;> rfl
  | optionMark sign =>
    cases rest with
    | nil => rfl
    | cons first rest => cases first <;> rfl
  | tagMark sign =>
    cases rest with
    | nil => rfl
    | cons first rest =>
      cases first with
      | name name => exact firstMatch_tagMark sign name rest
      | _ => rfl
  | name run => exact firstMatch_name run rest
  | _ => rfl

theorem progresses_rules (vantage : Vantage) : Progresses (rules vantage) :=
  progresses_of_step firstMatch_rules (next_suffix vantage)

theorem isLoop_items (vantage : Vantage) : IsLoop (rules vantage) (items vantage) :=
  isLoop_of_step firstMatch_rules (by rw [items]) fun token rest => by rw [items]

end Item

/-- A piece of a text is a token at most. -/
theorem Lexer.length_tokens_le (text : List Char) :
    ((lexemes text).filterMap Lexeme.token?).length ≤ text.length :=
  (List.length_filterMap_le _ _).trans (isLoop_lexemes.drains progresses_rules text).2

/-- **Lexing and reading make progress and never fail.** At every position of a text some rule of the
lexer matches and takes a character at least, so that the loop over the text ends without a fault and a
drain of the cursor ends at the end of the text, with as many tokens as there are characters at most.
At every offset that is one, some rule of the items matches wherever the tokens have not ended and takes
a token at least, so that the loop over the tokens ends, and the text is a query. -/
theorem ofText_progresses (hours : Int) (now : Instant) (text : String)
    (valid : -25 ≤ hours ∧ hours ≤ 25) :
    (Progresses Lexer.rules ∧
      (∀ pieces fault, Drains Lexer.rules text.toList pieces fault ↔
        pieces = Lexer.lexemes text.toList ∧ fault = none) ∧
      (Cursor.ofText text).readAll.1 = (Lexer.lexemes text.toList).filterMap Lexeme.token? ∧
      (Cursor.ofText text).readAll.2.rest = [] ∧
      (Cursor.ofText text).readAll.1.length ≤ text.length ∧
      ∀ token ∈ (Cursor.ofText text).readAll.1, token.text ≠ []) ∧
    ∃ vantage, Vantage.ofOffset hours now = .ok vantage ∧
      Progresses (Item.rules vantage) ∧
      (∀ found fault, Drains (Item.rules vantage) (Cursor.ofText text).readAll.1 found fault ↔
        found = items vantage (tokenize text).tokens ∧ fault = none) ∧
      (items vantage (tokenize text).tokens).length ≤ (tokenize text).tokens.length ∧
      Query.ofText hours now text = .ok (Query.read vantage text) := by
  have drained := Cursor.readAll_ofText text
  have tokens : (Cursor.ofText text).readAll.1 = (tokenize text).tokens := by rw [drained]
  have ended : (Cursor.ofText text).readAll.2.rest = [] := by
    rw [drained]
    exact (Cursor.drain_ofText text).2.1
  refine ⟨⟨Lexer.progresses_rules, fun pieces fault => ?_, tokens, ended, ?_, ?_⟩, ?_⟩
  · exact Lexer.isLoop_lexemes.drains_iff Lexer.progresses_rules
  · rw [tokens, ← String.length_toList]
    exact Lexer.length_tokens_le text.toList
  · rw [tokens]
    exact fun token member => Lexer.text_ne_nil_of_mem member
  · let vantage : Vantage := { zone := ⟨hours, valid⟩, now }
    have isOffset : Vantage.ofOffset hours now = .ok vantage :=
      Vantage.ofOffset_eq_ok.mpr ⟨rfl, rfl⟩
    have isLoop := Item.isLoop_items vantage
    have progresses := Item.progresses_rules vantage
    rw [tokens]
    exact ⟨vantage, isOffset, progresses, fun found fault => isLoop.drains_iff progresses,
      (isLoop.drains progresses _).2, Query.ofText_eq isOffset text⟩

/-- A text with a stray mark, an escape and both payloads, at the westernmost offset. -/
theorem ofText_progresses_crowded :
    let text := "é\t##<=@?#+ p @!c"
    let pieces : List Lexeme :=
      [.token (.name ['é']), .token .space, .token (.escape .hash), .token (.comparison .le),
        .token (.tagMark .atSign), .token .ask, .extra ['p'], .command ['c']]
    (-25 ≤ (-25 : Int) ∧ (-25 : Int) ≤ 25) ∧ Drains Lexer.rules text.toList pieces none ∧
      (Cursor.ofText text).readAll.1 = pieces.filterMap Lexeme.token? ∧
      ∃ vantage, Vantage.ofOffset (-25) Instant.unixEpoch = .ok vantage ∧
        Drains (Item.rules vantage) (Cursor.ofText text).readAll.1
          [.word ['é'], .space, .word ['#'], .stray, .word ['@'], .stray, .space] none ∧
        Query.ofText (-25) Instant.unixEpoch text = .ok (Query.read vantage text) := by
  intro text pieces
  have valid : -25 ≤ (-25 : Int) ∧ (-25 : Int) ≤ 25 := by decide
  have lexemes : Lexer.lexemes text.toList = pieces := by decide +kernel
  obtain ⟨⟨_, drains, tokens, _⟩, vantage, isOffset, _, reads, _, read⟩ :=
    ofText_progresses (-25) Instant.unixEpoch text valid
  have items : items vantage (tokenize text).tokens =
      [.word ['é'], .space, .word ['#'], .stray, .word ['@'], .stray, .space] := by
    show items vantage ((Lexer.lexemes text.toList).filterMap Lexeme.token?) = _
    rw [lexemes]
    show TaskQuery.items vantage [.name ['é'], .space, .escape .hash, .comparison .le,
      .tagMark .atSign, .ask, .space] = _
    simp [TaskQuery.items, Item.next, Item.ofToken, Sign.char, Token.text]
  rw [lexemes] at tokens
  exact ⟨valid, (drains pieces none).mpr ⟨lexemes.symm, rfl⟩, tokens, vantage, isOffset,
    (reads _ none).mpr ⟨items.symm, rfl⟩, read⟩

end TaskQuery
