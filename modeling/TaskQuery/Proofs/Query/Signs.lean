/-
**The two signs stand for each other.**

A query may be written with either sign. With the two signs exchanged throughout a text, every marker
and escape stays one of its kind, and the payloads begin and end where they did; so the query is the
same one, except that the signs in its free text and in its payloads are exchanged as well.

* `exchangeSigns`: a text with the signs exchanged.
* `Lexer.lexemes_exchange`: the pieces of such a text.
* `Item.next_exchange`, `items_exchange`: its items.
* `ofText_exchangeSigns`: its query.
-/

import Mathlib.Data.List.Basic
import TaskQuery.Proofs.Query.Concatenation
import TaskQuery.Proofs.Query.WellFormed
import TaskQuery.Proofs.Token.Covering

namespace TaskQuery

open Calendar (Instant Vantage)

/-! ### The exchange -/

/-- One sign for the other; any other character stays as it is. -/
def exchangeSign : Char → Char
  | '#' => '@'
  | '@' => '#'
  | c => c

/-- A text with the two signs exchanged. -/
def exchangeSigns (text : String) : String :=
  String.ofList (text.toList.map exchangeSign)

/-- The other sign. -/
def Sign.other : Sign → Sign
  | hash => atSign
  | atSign => hash

theorem Sign.char_other (sign : Sign) : sign.other.char = exchangeSign sign.char := by
  cases sign <;> rfl

theorem exchangeSign_involutive : Function.Involutive exchangeSign := by
  intro c
  fun_cases exchangeSign c with
  | case1 => rfl
  | case2 => rfl
  | case3 hash atSign => simp [exchangeSign]

/-- What holds of both signs or of neither is not changed by the exchange. -/
theorem keeps_exchangeSign (keeps : Char → Bool) (alike : keeps '@' = keeps '#') (c : Char) :
    keeps (exchangeSign c) = keeps c := by
  unfold exchangeSign
  split
  · exact alike
  · exact alike.symm
  · rfl

theorem exchangeSign_of_ordinary {c : Char} (ordinary : isSpecial c = false) :
    exchangeSign c = c := by
  unfold exchangeSign
  split
  · cases ordinary
  · cases ordinary
  · rfl

theorem map_exchangeSign {run : List Char} (ordinary : ∀ c ∈ run, isSpecial c = false) :
    run.map exchangeSign = run :=
  (List.map_congr_left fun c member => exchangeSign_of_ordinary (ordinary c member)).trans
    (List.map_id run)

theorem dropWhile_exchange {keeps : Char → Bool} (alike : keeps '@' = keeps '#')
    (text : List Char) :
    (text.map exchangeSign).dropWhile keeps = (text.dropWhile keeps).map exchangeSign := by
  rw [List.dropWhile_map]
  exact congrArg (fun kept => (text.dropWhile kept).map exchangeSign)
    (funext (keeps_exchangeSign keeps alike))

/-! ### Tokens -/

namespace Token

/-- The token that is written with the other sign. -/
def exchange : Token → Token
  | escape sign => escape sign.other
  | savedMark sign => savedMark sign.other
  | optionMark sign => optionMark sign.other
  | tagMark sign => tagMark sign.other
  | token => token

theorem isSymbol_exchange (token : Token) : token.exchange.isSymbol = token.isSymbol := by
  cases token <;> rfl

theorem text_exchange {token : Token} (isSymbol : token.isSymbol = true) :
    token.exchange.text = token.text.map exchangeSign := by
  cases token with
  | space | name | plain => cases isSymbol
  | escape sign | savedMark sign | optionMark sign | tagMark sign => cases sign <;> rfl
  | comparison relation => cases relation <;> rfl
  | bang | ask => rfl

theorem mem_barred_exchange {token : Token} {c : Char} :
    exchangeSign c ∈ token.exchange.barred ↔ c ∈ token.barred := by
  have exchanged : token.exchange.barred = token.barred.map exchangeSign := by
    cases token with
    | tagMark sign => cases sign <;> rfl
    | comparison relation => cases relation <;> rfl
    | _ => rfl
  rw [exchanged]
  exact List.mem_map_of_injective exchangeSign_involutive.injective

/-- A run stays one. -/
theorem isRun_exchange {keeps : Char → Bool} (alike : keeps '@' = keeps '#')
    {stretch following : List Char} (run : IsRun keeps stretch following) :
    IsRun keeps (stretch.map exchangeSign) (following.map exchangeSign) where
  written := by simpa using run.written
  only := by
    intro c member
    obtain ⟨d, isOld, rfl⟩ := List.mem_map.mp member
    rw [keeps_exchangeSign _ alike]
    exact run.only d isOld
  ends := by
    intro c begins
    rw [List.head?_map] at begins
    obtain ⟨d, isOld, rfl⟩ := Option.map_eq_some_iff.mp begins
    rw [keeps_exchangeSign _ alike]
    exact run.ends d isOld

/-- A token is spelled as the token with the other sign is, with the signs exchanged. -/
theorem Spells.exchange {token : Token} {stretch following : List Char}
    (spells : token.Spells stretch following) :
    token.exchange.Spells (stretch.map exchangeSign) (following.map exchangeSign) := by
  cases spells with
  | space run => exact .space (isRun_exchange (by decide) run)
  | name run =>
    have same : stretch.map exchangeSign = stretch :=
      map_exchangeSign fun c member => (Lexer.visible_of_isTagChar (run.only c member)).2
    have exchanged := isRun_exchange (by decide +kernel) run
    rw [same] at exchanged ⊢
    exact .name exchanged
  | plain run =>
    have same : stretch.map exchangeSign = stretch :=
      map_exchangeSign fun c member => (Lexer.visible_of_isPlainChar (run.only c member)).2.2
    have exchanged := isRun_exchange (by decide +kernel) run
    rw [same] at exchanged ⊢
    exact .plain exchanged
  | symbol isSymbol apart =>
    rw [← text_exchange isSymbol]
    refine .symbol (by rwa [isSymbol_exchange]) fun c begins prolongs => ?_
    rw [List.head?_map] at begins
    obtain ⟨d, isOld, rfl⟩ := Option.map_eq_some_iff.mp begins
    exact apart d isOld (mem_barred_exchange.mp prolongs)

end Token

/-! ### Pieces -/

/-- The piece that is written with the other sign; a payload has its signs exchanged. -/
def Lexeme.exchange : Lexeme → Lexeme
  | token found => token found.exchange
  | extra text => extra (text.map exchangeSign)
  | command text => command (text.map exchangeSign)

namespace Lexer

theorem trim_exchange (text : List Char) :
    Text.trim (text.map exchangeSign) = (Text.trim text).map exchangeSign := by
  have alike : Text.isBlank '@' = Text.isBlank '#' := by decide
  rw [Text.trim, Text.trimLeft, Text.trimRight, dropWhile_exchange alike, ← List.map_reverse,
    dropWhile_exchange alike, ← List.map_reverse]
  rfl

theorem startsCommand_exchange (text : List Char) :
    startsCommand (text.map exchangeSign) = startsCommand text := by
  match text with
  | [] => rfl
  | [c] => rfl
  | c :: d :: rest =>
    have isBang := keeps_exchangeSign (fun d => decide (d = '!')) (by decide) d
    have isSign := keeps_exchangeSign (fun c => (Sign.ofChar? c).isSome) (by decide) c
    rw [List.map_cons, List.map_cons, startsCommand_cons_cons, startsCommand_cons_cons]
    exact congrArg₂ and isBang isSign

theorem splitAtCommand_exchange (text : List Char) :
    splitAtCommand (text.map exchangeSign) =
      ((splitAtCommand text).1.map exchangeSign, (splitAtCommand text).2.map exchangeSign) := by
  induction text with
  | nil => rfl
  | cons c rest inner =>
    have starts := startsCommand_exchange (c :: rest)
    rw [List.map_cons] at starts
    rw [List.map_cons, splitAtCommand, splitAtCommand, starts, inner]
    split <;> rfl

theorem scan_extraMark (sign : Sign) (written : List Char) :
    scan sign.char ('+' :: written) =
      (.extra (Text.trim (splitAtCommand written).1), (splitAtCommand written).2) := by
  cases sign <;> rfl

/-- One step in a text with the signs exchanged. -/
theorem scan_exchange (c : Char) (rest : List Char) :
    scan (exchangeSign c) (rest.map exchangeSign) =
      ((scan c rest).1.exchange, (scan c rest).2.map exchangeSign) := by
  rcases scan_cases c rest with ⟨token, following, scanned⟩ | ⟨written, rfl, scanned⟩ |
    ⟨written, rfl, scanned⟩
  · obtain ⟨stretch, rfl, spells⟩ := spells_of_scan scanned
    rw [scanned, List.map_append]
    exact scan_of_spells spells.exchange
  · obtain ⟨sign, rfl⟩ := exists_sign_of_scan c ('+' :: written) (by simp [scanned])
    rw [scanned, ← Sign.char_other]
    show scan sign.other.char ('+' :: written.map exchangeSign) = _
    rw [scan_extraMark, splitAtCommand_exchange, trim_exchange]
    rfl
  · obtain ⟨sign, rfl⟩ := exists_sign_of_scan c ('!' :: written) (by simp [scanned])
    rw [scanned, ← Sign.char_other]
    show scan sign.other.char ('!' :: written.map exchangeSign) = _
    rw [scan_commandMark, trim_exchange]
    rfl

/-- The pieces of a text with the signs exchanged. -/
theorem lexemes_exchange (text : List Char) :
    lexemes (text.map exchangeSign) = (lexemes text).map Lexeme.exchange := by
  fun_induction lexemes text with
  | case1 => rw [List.map_nil, lexemes, List.map_nil]
  | case2 c rest inner =>
    rw [List.map_cons, lexemes_cons, scan_exchange, List.map_cons]
    exact congrArg (_ :: ·) inner

end Lexer

/-! ### Items -/

namespace Item

/-- The item that is written with the other sign: only words hold signs. -/
def exchange : Item → Item
  | word text => word (text.map exchangeSign)
  | item => item

section Exchange

variable {tokens : List Token}

theorem joinRuns_exchange (tokens : List Token) :
    joinRuns (tokens.map Token.exchange) =
      ((joinRuns tokens).1, (joinRuns tokens).2.map Token.exchange) := by
  induction tokens with
  | nil => rfl
  | cons token tokens inner =>
    have run : token.exchange.run? = token.run? := by cases token <;> rfl
    rw [List.map_cons, joinRuns, joinRuns, run]
    cases token.run? with
    | none => rfl
    | some run => rw [inner]

theorem comparison?_exchange (tokens : List Token) :
    comparison? (tokens.map Token.exchange) =
      (comparison? tokens).map fun found =>
        (found.1, found.2.1, found.2.2.map Token.exchange) := by
  cases tokens with
  | nil => rfl
  | cons token tokens =>
    cases token with
    | comparison relation =>
      show comparison? (.comparison relation :: tokens.map Token.exchange) = _
      rw [comparison?, comparison?, joinRuns_exchange]
      split <;> rfl
    | _ => rfl

/-- A terminator is not written with a sign. -/
theorem head?_exchange {token : Token} (unsigned : ∀ other : Token, other.exchange = token ↔
    other = token) (tokens : List Token) :
    ((tokens.map Token.exchange).head? == some token) = (tokens.head? == some token) := by
  cases tokens with
  | nil => rfl
  | cons first tokens =>
    refine Bool.eq_iff_iff.mpr ?_
    simp [unsigned]

theorem exchange_eq_bang (token : Token) : token.exchange = .bang ↔ token = .bang := by
  cases token <;> simp [Token.exchange]

theorem exchange_eq_ask (token : Token) : token.exchange = .ask ↔ token = .ask := by
  cases token <;> simp [Token.exchange]

theorem atBoundary_exchange (tokens : List Token) :
    atBoundary (tokens.map Token.exchange) = atBoundary tokens := by
  cases tokens with
  | nil => rfl
  | cons first tokens => cases first <;> rfl

theorem tagged_exchange (name : List Char) (tokens : List Token) :
    tagged name (tokens.map Token.exchange) =
      ((tagged name tokens).1, (tagged name tokens).2.1,
        (tagged name tokens).2.2.map Token.exchange) := by
  unfold tagged
  rw [head?_exchange exchange_eq_bang]
  by_cases shown : (tokens.head? == some Token.bang) = true
  · simp only [if_pos shown, ← List.map_tail, comparison?_exchange]
    cases comparison? tokens.tail <;> rfl
  · simp only [if_neg shown, comparison?_exchange]
    cases comparison? tokens <;> rfl

theorem excluded_exchange (name : List Char) (tokens : List Token) :
    excluded name (tokens.map Token.exchange) =
      ((excluded name tokens).1.exchange, (excluded name tokens).2.map Token.exchange) := by
  unfold excluded
  rw [tagged_exchange]
  dsimp only
  rw [head?_exchange exchange_eq_ask, ← List.map_tail]
  split <;> rfl

theorem afterOptionMark_exchange (vantage : Vantage) (name : String) (tokens : List Token) :
    afterOptionMark vantage name (tokens.map Token.exchange) =
      ((afterOptionMark vantage name tokens).1.exchange,
        (afterOptionMark vantage name tokens).2.map Token.exchange) := by
  unfold afterOptionMark
  rw [comparison?_exchange]
  cases comparison? tokens <;> rfl

theorem afterSign_exchange (vantage : Vantage) (sign : Sign) (name : List Char)
    (tokens : List Token) :
    afterSign vantage sign.other name (tokens.map Token.exchange) =
      ((afterSign vantage sign name tokens).1.exchange,
        (afterSign vantage sign name tokens).2.map Token.exchange) := by
  unfold afterSign
  rw [head?_exchange exchange_eq_ask, atBoundary_exchange, ← List.map_tail]
  by_cases asks : (tokens.head? == some Token.ask) = true
  · rw [if_pos asks, if_pos asks]
    rfl
  rw [if_neg asks, if_neg asks]
  cases (if atBoundary tokens then shorthand? vantage name else none) with
  | some condition => rfl
  | none =>
    dsimp only
    by_cases opens : opensTag name = true
    · rw [if_pos opens, if_pos opens, tagged_exchange]
      rfl
    · rw [if_neg opens, if_neg opens, Sign.char_other]
      rfl

theorem ofToken_exchange {token : Token} (spelled : token.IsSpelled) :
    ofToken token.exchange = (ofToken token).exchange := by
  have run {run : List Char} (isRun : token.run? = some run) : run.map exchangeSign = run :=
    map_exchangeSign fun c member => (spelled.ordinary isRun c member).2
  cases token with
  | name name => exact congrArg word (run rfl).symm
  | plain name => exact congrArg word (run rfl).symm
  | escape sign | savedMark sign | optionMark sign | tagMark sign => cases sign <;> rfl
  | _ => rfl

/-- The first item of tokens that are written with the other signs. -/
theorem next_exchange (vantage : Vantage) {token : Token} (spelled : token.IsSpelled)
    (tokens : List Token) :
    next vantage token.exchange (tokens.map Token.exchange) =
      ((next vantage token tokens).1.exchange, (next vantage token tokens).2.map Token.exchange) := by
  -- Where a token begins nothing else, it is a word, a space or stray in both texts.
  have single := ofToken_exchange spelled
  cases token with
  | savedMark sign =>
    cases tokens with
    | nil => exact Prod.ext single rfl
    | cons first tokens =>
      cases first with
      | name name => rfl
      | _ => exact Prod.ext single rfl
  | optionMark sign =>
    cases tokens with
    | nil => exact Prod.ext single rfl
    | cons first tokens =>
      cases first with
      | name name => exact afterOptionMark_exchange vantage (String.ofList name) tokens
      | _ => exact Prod.ext single rfl
  | tagMark sign =>
    cases tokens with
    | nil => exact Prod.ext single rfl
    | cons first tokens =>
      cases first with
      | name name => exact afterSign_exchange vantage sign name tokens
      | _ => exact Prod.ext single rfl
  | name run =>
    by_cases dash : run = ['-']
    · subst dash
      cases tokens with
      | nil => exact Prod.ext single rfl
      | cons first tokens =>
        cases first with
        | tagMark sign =>
          cases tokens with
          | nil => exact Prod.ext single rfl
          | cons second tokens =>
            cases second with
            | name name =>
              show (if opensTag name then excluded name (tokens.map Token.exchange) else _) = _
              rw [excluded_exchange]
              show _ = ((if opensTag name then excluded name tokens else _).1.exchange,
                (if opensTag name then excluded name tokens else _).2.map Token.exchange)
              split <;> rfl
            | _ => exact Prod.ext single rfl
        | _ => exact Prod.ext single rfl
    · rw [next_name vantage dash]
      show next vantage (.name run) (tokens.map Token.exchange) = _
      rw [next_name vantage dash]
      exact Prod.ext single rfl
  | _ => exact Prod.ext single rfl

end Exchange

end Item

/-- The items of tokens that are written with the other signs. -/
theorem items_exchange (vantage : Vantage) {tokens : List Token}
    (spelled : ∀ token ∈ tokens, token.IsSpelled) :
    items vantage (tokens.map Token.exchange) = (items vantage tokens).map Item.exchange := by
  fun_induction items vantage tokens with
  | case1 => rw [List.map_nil, items, List.map_nil]
  | case2 token rest inner =>
    have within := Item.next_suffix vantage token rest
    have later : ∀ other ∈ (Item.next vantage token rest).2, other.IsSpelled :=
      fun other member => spelled other (.tail _ (within.subset member))
    rw [List.map_cons, items, Item.next_exchange vantage (spelled token List.mem_cons_self),
      List.map_cons]
    exact congrArg (_ :: ·) (inner later)

/-! ### Queries -/

namespace Item

theorem keepWord_exchange (begun : List Char) :
    keepWord (begun.map exchangeSign) = (keepWord begun).map (List.map exchangeSign) := by
  unfold keepWord
  rw [List.isEmpty_map]
  split <;> rfl

theorem wordsFrom_exchange (begun : List Char) (items : List Item) :
    wordsFrom (begun.map exchangeSign) (items.map exchange) =
      (wordsFrom begun items).map (List.map exchangeSign) := by
  induction items generalizing begun with
  | nil => exact keepWord_exchange begun
  | cons item items inner =>
    cases item with
    | space =>
      have later := inner []
      rw [wordsFrom, List.map_append, ← keepWord_exchange, ← later]
      rfl
    | word text =>
      have later := inner (begun ++ text)
      rw [List.map_append] at later
      exact later
    | _ => exact inner begun

end Item

theorem map_intercalate (words : List (List Char)) :
    ([' '].intercalate words).map exchangeSign =
      [' '].intercalate (words.map (List.map exchangeSign)) := by
  induction words with
  | nil => rfl
  | cons word words inner =>
    cases words with
    | nil => rw [List.map_singleton, List.intercalate_singleton, List.intercalate_singleton]
    | cons next words =>
      rw [List.map_cons] at inner
      rw [List.map_cons, List.map_cons, List.intercalate_cons_cons, List.intercalate_cons_cons,
        List.map_append, List.map_append, inner]
      rfl

namespace Query

/-- What items with the other signs add up to: only the free text holds signs. -/
theorem ofItems_exchange (items : List Item) :
    ofItems (items.map Item.exchange) =
      { ofItems items with text := exchangeSigns (ofItems items).text } := by
  have kept {α : Type} (adds : Item → Option α)
      (same : ∀ item : Item, adds item.exchange = adds item) :
      (items.map Item.exchange).filterMap adds = items.filterMap adds := by
    rw [List.filterMap_map]
    exact congrArg (items.filterMap ·) (funext same)
  have required := kept Item.required? fun item => by cases item <;> rfl
  have excluded := kept Item.excluded? fun item => by cases item <;> rfl
  have options := kept Item.option? fun item => by cases item <;> rfl
  have searches := kept Item.savedSearch? fun item => by cases item <;> rfl
  have columns := kept Item.column? fun item => by cases item <;> rfl
  have words : Item.words (items.map Item.exchange) = (Item.words items).map (List.map exchangeSign) :=
    Item.wordsFrom_exchange [] items
  unfold ofItems exchangeSigns
  rw [words, ← map_intercalate, required, excluded, options, searches, columns,
    String.toList_ofList]

/-- The query of a text with the signs exchanged. -/
theorem read_exchangeSigns (vantage : Vantage) (text : String) :
    read vantage (exchangeSigns text) =
      { read vantage text with
        text := exchangeSigns (read vantage text).text
        extra := (read vantage text).extra.map exchangeSigns
        command := (read vantage text).command.map exchangeSigns } := by
  have spelled : ∀ token ∈ (Lexer.lexemes text.toList).filterMap Lexeme.token?, token.IsSpelled :=
    fun token member => Lexer.exists_spells_of_mem member
  have tokens (pieces : List Lexeme) : (pieces.map Lexeme.exchange).filterMap Lexeme.token? =
      (pieces.filterMap Lexeme.token?).map Token.exchange := by
    rw [List.filterMap_map, List.map_filterMap]
    exact congrArg (pieces.filterMap ·) (funext fun piece => by cases piece <;> rfl)
  have payload (payload? : Lexeme → Option (List Char)) (same : ∀ piece : Lexeme,
      payload? piece.exchange = (payload? piece).map (List.map exchangeSign))
      (pieces : List Lexeme) : ((pieces.map Lexeme.exchange).findSome? payload?).map String.ofList =
        ((pieces.findSome? payload?).map String.ofList).map exchangeSigns := by
    have exchanged : payload? ∘ Lexeme.exchange = Option.map (List.map exchangeSign) ∘ payload? :=
      funext same
    rw [List.findSome?_map, exchanged, ← List.map_findSome?, Option.map_map, Option.map_map]
    refine congrArg (fun step => Option.map step _) (funext fun payload => ?_)
    simp [exchangeSigns]
  have written : (exchangeSigns text).toList = text.toList.map exchangeSign := String.toList_ofList
  rw [read_eq_ofLexemes, read_eq_ofLexemes, written, Lexer.lexemes_exchange]
  unfold ofLexemes
  rw [tokens, items_exchange vantage spelled, ofItems_exchange,
    payload Lexeme.extra? fun piece => by cases piece <;> rfl,
    payload Lexeme.command? fun piece => by cases piece <;> rfl]

end Query

/-- **A text with the two signs exchanged is read as the same query**, with the signs exchanged in
its free text and its payloads, at every offset and clock. -/
theorem ofText_exchangeSigns (hours : Int) (now : Instant) (text : String) :
    Query.ofText hours now (exchangeSigns text) =
      (Query.ofText hours now text).map fun query =>
        { query with
          text := exchangeSigns query.text
          extra := query.extra.map exchangeSigns
          command := query.command.map exchangeSigns } := by
  unfold Query.ofText
  cases Vantage.ofOffset hours now with
  | error refusal => rfl
  | ok vantage => exact congrArg Except.ok (Query.read_exchangeSigns vantage text)

end TaskQuery
