/-
**A cursor reads like a list.**

Whatever is read and however often a cursor goes back, the token at a position is the one that a
reading without going back finds there, and how much of the text has been lexed depends on the
furthest position that was asked for and on nothing else.

* `lexed`: the lexing alone, a step at a time.
* `next_lexed`: what one reading answers and how far it makes the lexing go.
* `readAll_ofText`: a reading from the first token to the last.
* `run_lexed`: the cursor after any moves.
* `run_replays`: a cursor after any moves against a reading from the first token to the last.
-/

import Mathlib.Logic.Function.Iterate
import TaskQuery.Proofs.Token.Spelling
import TaskQuery.Token.Cursor

namespace TaskQuery

namespace Lexer

/-- The tokens of a text have texts of their own. -/
theorem text_ne_nil_of_mem {text : List Char} {token : Token}
    (member : token ∈ (lexemes text).filterMap Lexeme.token?) : token.text ≠ [] := by
  obtain ⟨_, _, spells⟩ := exists_spells_of_mem member
  exact spells.text_ne_nil

theorem splitAtCommand_snd (text : List Char) :
    (splitAtCommand text).2 = [] ∨ startsCommand (splitAtCommand text).2 = true := by
  induction text with
  | nil => exact Or.inl rfl
  | cons c rest inner =>
    rw [splitAtCommand]
    split
    · next starts => exact Or.inr starts
    · exact inner

theorem exists_sign_of_startsCommand {text : List Char} (starts : startsCommand text = true) :
    ∃ sign : Sign, ∃ written, text = sign.char :: '!' :: written := by
  unfold startsCommand at starts
  split at starts
  · next c written =>
    obtain ⟨sign, signed⟩ := Option.isSome_iff_exists.mp starts
    exact ⟨sign, written, by rw [Sign.char_of_ofChar? signed]⟩
  · cases starts

/-- A command takes all that is left of a text. -/
theorem scan_commandMark (sign : Sign) (written : List Char) :
    scan sign.char ('!' :: written) = (.command (Text.trim written), []) := by
  cases sign <;> rfl

theorem scan_command {c : Char} {rest : List Char} (starts : startsCommand (c :: rest) = true) :
    ∃ written, scan c rest = (.command (Text.trim written), []) := by
  obtain ⟨sign, written, same⟩ := exists_sign_of_startsCommand starts
  obtain ⟨rfl, rfl⟩ := List.cons.inj same
  exact ⟨written, scan_commandMark sign written⟩

end Lexer

namespace Cursor

open Lexer (lexemes lexemes_cons scan scan_cases)

/-! ### Lexing alone -/

/-- The cursor after some steps of lexing and no reading. -/
def lexed (query : String) (steps : Nat) : Cursor :=
  advance^[steps] (ofText query)

theorem lexed_succ (query : String) (steps : Nat) :
    lexed query (steps + 1) = (lexed query steps).advance :=
  Function.iterate_succ_apply' advance steps (ofText query)

theorem advance_of_nil {cursor : Cursor} (ended : cursor.rest = []) : cursor.advance = cursor := by
  rw [advance, ended]

theorem advance_of_cons {cursor : Cursor} {c : Char} {rest : List Char}
    (written : cursor.rest = c :: rest) :
    cursor.advance =
      { tokens := cursor.tokens ++ (scan c rest).1.token?.toArray
        position := cursor.position
        rest := (scan c rest).2
        extra := ((scan c rest).1.extra?.map (extended cursor.extra)).getD cursor.extra
        command := (scan c rest).1.command?.or cursor.command } := by
  rw [advance, written]

/-- A step finds one token more, unless it finds a command or the text has ended. -/
theorem advance_tokens_size (cursor : Cursor) :
    cursor.advance.tokens.size = cursor.tokens.size + 1 ∨
      cursor.advance.tokens.size = cursor.tokens.size ∧ cursor.advance.rest = [] := by
  cases written : cursor.rest with
  | nil =>
    rw [advance_of_nil written]
    exact Or.inr ⟨rfl, written⟩
  | cons c rest =>
    rw [advance_of_cons written]
    rcases scan_cases c rest with ⟨token, following, scanned⟩ | ⟨_, rfl, scanned⟩ |
      ⟨_, rfl, scanned⟩
    · rw [scanned]
      exact Or.inl (Array.size_append)
    · rw [scanned]
      exact Or.inl (Array.size_append)
    · rw [scanned]
      exact Or.inr ⟨Array.size_append, rfl⟩

/-- Each step finds a token until the text has ended. -/
theorem size_lexed (query : String) (steps : Nat) :
    (lexed query steps).tokens.size = steps ∨
      (lexed query steps).tokens.size < steps ∧ (lexed query steps).rest = [] := by
  induction steps with
  | zero => exact Or.inl rfl
  | succ steps before =>
    rw [lexed_succ]
    rcases before with same | ⟨fewer, ended⟩
    · rcases advance_tokens_size (lexed query steps) with more | ⟨none, ended⟩
      · exact Or.inl (by rw [more, same])
      · exact Or.inr ⟨by omega, ended⟩
    · rw [advance_of_nil ended]
      exact Or.inr ⟨by omega, ended⟩

theorem size_lexed_le (query : String) (steps : Nat) :
    (lexed query steps).tokens.size ≤ steps := by
  rcases size_lexed query steps with same | ⟨fewer, _⟩ <;> omega

/-! ### What is lexed -/

/-- What has been lexed and what is left are the tokens of the whole query. -/
theorem tokens_lexed (query : String) (steps : Nat) :
    (lexed query steps).tokens.toList ++
        (lexemes (lexed query steps).rest).filterMap Lexeme.token? =
      (tokenize query).tokens := by
  induction steps with
  | zero => rfl
  | succ steps before =>
    rw [lexed_succ, ← before]
    cases written : (lexed query steps).rest with
    | nil => rw [advance_of_nil written, written]
    | cons c rest =>
      rw [advance_of_cons written, lexemes_cons, List.filterMap_cons]
      cases (scan c rest).1.token? with
      | none => simp
      | some token => simp

theorem getElem?_lexed (query : String) (steps position : Nat) (within : position < steps) :
    (lexed query steps).tokens[position]? = (tokenize query).tokens[position]? := by
  have whole := tokens_lexed query steps
  rw [← Array.getElem?_toList, ← whole]
  rcases size_lexed query steps with same | ⟨_, ended⟩
  · rw [List.getElem?_append_left]
    rw [Array.length_toList, same]
    exact within
  · rw [ended, lexemes, List.filterMap_nil, List.append_nil]

theorem size_lexed_le_length (query : String) (steps : Nat) :
    (lexed query steps).tokens.size ≤ (tokenize query).tokens.length := by
  rw [← tokens_lexed query steps, List.length_append, Array.length_toList]
  exact Nat.le_add_right _ _

theorem lt_size_lexed {query : String} {steps position : Nat} (within : position < steps)
    (inside : position < (tokenize query).tokens.length) :
    position < (lexed query steps).tokens.size := by
  have token := getElem?_lexed query steps position within
  rw [List.getElem?_eq_getElem inside] at token
  exact (Array.getElem?_eq_some_iff.mp token).1

/-- The text has ended after more steps than there are tokens. -/
theorem rest_of_length_lt {query : String} {steps : Nat}
    (more : (tokenize query).tokens.length < steps) : (lexed query steps).rest = [] := by
  have bound := size_lexed_le_length query steps
  rcases size_lexed query steps with same | ⟨_, ended⟩
  · omega
  · exact ended

theorem tokens_of_ended {query : String} {steps : Nat} (ended : (lexed query steps).rest = []) :
    (lexed query steps).tokens.toList = (tokenize query).tokens := by
  have whole := tokens_lexed query steps
  rwa [ended, lexemes, List.filterMap_nil, List.append_nil] at whole

/-- Once an extra payload is known, at most a command is left. -/
theorem rest_of_extra (query : String) (steps : Nat) (known : (lexed query steps).extra ≠ none) :
    (lexed query steps).rest = [] ∨ Lexer.startsCommand (lexed query steps).rest = true := by
  induction steps with
  | zero => exact absurd rfl known
  | succ steps before =>
    rw [lexed_succ] at known ⊢
    cases written : (lexed query steps).rest with
    | nil =>
      rw [advance_of_nil written]
      exact Or.inl written
    | cons c rest =>
      rw [advance_of_cons written] at known ⊢
      rcases scan_cases c rest with ⟨token, following, scanned⟩ | ⟨_, rfl, scanned⟩ |
        ⟨_, rfl, scanned⟩
      · rw [scanned] at known ⊢
        rcases before known with ended | starts
        · cases written.symm.trans ended
        · rw [written] at starts
          obtain ⟨_, command⟩ := Lexer.scan_command starts
          cases scanned.symm.trans command
      · rw [scanned]
        exact Lexer.splitAtCommand_snd _
      · rw [scanned]
        exact Or.inl rfl

/-- A second extra payload is never met. -/
theorem extra_eq_none {query : String} {steps : Nat} {c : Char} {rest text : List Char}
    (written : (lexed query steps).rest = c :: rest) (found : (scan c rest).1 = .extra text) :
    (lexed query steps).extra = none := by
  by_contra known
  rcases rest_of_extra query steps known with ended | starts
  · cases written.symm.trans ended
  · rw [written] at starts
    obtain ⟨_, command⟩ := Lexer.scan_command starts
    rw [command] at found
    cases found

theorem extra_lexed (query : String) (steps : Nat) :
    (lexed query steps).extra.or ((lexemes (lexed query steps).rest).findSome? Lexeme.extra?) =
      (tokenize query).extra := by
  induction steps with
  | zero => rfl
  | succ steps before =>
    rw [lexed_succ, ← before]
    cases written : (lexed query steps).rest with
    | nil => rw [advance_of_nil written, written]
    | cons c rest =>
      rw [advance_of_cons written, lexemes_cons, List.findSome?_cons]
      cases piece : (scan c rest).1 with
      | token found => rfl
      | command text => rfl
      | extra text =>
        rw [extra_eq_none written piece]
        rfl

/-- Once a command is known, nothing is left. -/
theorem rest_of_command (query : String) (steps : Nat) (known : (lexed query steps).command ≠ none) :
    (lexed query steps).rest = [] := by
  induction steps with
  | zero => exact absurd rfl known
  | succ steps before =>
    rw [lexed_succ] at known ⊢
    cases written : (lexed query steps).rest with
    | nil => rw [advance_of_nil written, written]
    | cons c rest =>
      rw [advance_of_cons written] at known ⊢
      rcases scan_cases c rest with ⟨token, following, scanned⟩ | ⟨_, rfl, scanned⟩ |
        ⟨_, rfl, scanned⟩
      · rw [scanned] at known
        cases written.symm.trans (before known)
      · rw [scanned] at known
        cases written.symm.trans (before known)
      · rw [scanned]

theorem command_lexed (query : String) (steps : Nat) :
    (lexed query steps).command.or
        ((lexemes (lexed query steps).rest).findSome? Lexeme.command?) =
      (tokenize query).command := by
  induction steps with
  | zero => rfl
  | succ steps before =>
    rw [lexed_succ, ← before]
    cases written : (lexed query steps).rest with
    | nil => rw [advance_of_nil written, written]
    | cons c rest =>
      have unknown : (lexed query steps).command = none := by
        by_contra known
        cases written.symm.trans (rest_of_command query steps known)
      rw [advance_of_cons written, lexemes_cons, List.findSome?_cons, unknown]
      cases (scan c rest).1 <;> rfl

theorem payloads_of_ended {query : String} {steps : Nat} (ended : (lexed query steps).rest = []) :
    (lexed query steps).extra = (tokenize query).extra ∧
      (lexed query steps).command = (tokenize query).command := by
  have extra := extra_lexed query steps
  have command := command_lexed query steps
  rw [ended, lexemes, List.findSome?_nil, Option.or_none] at extra command
  exact ⟨extra, command⟩

/-! ### Reading -/

theorem advance_seek (cursor : Cursor) (position : Nat) :
    (cursor.seek position).advance = cursor.advance.seek position := by
  obtain ⟨tokens, start, rest, extra, command⟩ := cursor
  cases rest <;> rfl

/-- The lexing goes no further than a reading at a position makes it go. -/
theorem lexed_max {query : String} {steps position : Nat}
    (asked : position = (lexed query steps).tokens.size) :
    lexed query (max steps (position + 1)) = lexed query (steps + 1) := by
  rcases size_lexed query steps with same | ⟨fewer, ended⟩
  · rw [asked, same, Nat.max_eq_right (Nat.le_succ steps)]
  · rw [asked, Nat.max_eq_left fewer, lexed_succ, advance_of_nil ended]

/-- One reading after any lexing that has gone at least as far as the position: it answers the
token of the whole query at that position, and lexes no further than it has to. -/
theorem next_lexed (query : String) {steps position : Nat}
    (within : position ≤ (lexed query steps).tokens.size) :
    ((lexed query steps).seek position).next =
      ((tokenize query).tokens[position]?,
        (lexed query (max steps (position + 1))).seek
          (if position < (tokenize query).tokens.length then position + 1 else position)) := by
  have bound := size_lexed_le query steps
  unfold next
  by_cases known : position < (lexed query steps).tokens.size
  · have token := getElem?_lexed query steps position (known.trans_le bound)
    rw [Array.getElem?_eq_getElem known] at token
    have inside : position < (tokenize query).tokens.length :=
      (List.getElem?_eq_some_iff.mp token.symm).1
    have stored : ((lexed query steps).seek position).tokens[position]? =
        some (lexed query steps).tokens[position] := Array.getElem?_eq_getElem known
    dsimp only [seek] at stored ⊢
    rw [stored, ← token, if_pos inside, Nat.max_eq_left (known.trans_le bound)]
  · have asked : position = (lexed query steps).tokens.size := by omega
    have token := getElem?_lexed query (steps + 1) position (by omega)
    have missing : ((lexed query steps).seek position).tokens[position]? = none :=
      Array.getElem?_eq_none (Nat.le_of_not_lt known)
    have advanced : ((lexed query steps).seek position).advance =
        (lexed query (steps + 1)).seek position := by rw [advance_seek, lexed_succ]
    rw [lexed_max asked, advanced]
    dsimp only [seek] at missing ⊢
    rw [missing, token]
    cases found : (tokenize query).tokens[position]? with
    | none => rw [if_neg (Nat.not_lt.mpr (List.getElem?_eq_none_iff.mp found))]
    | some read => rw [if_pos (List.getElem?_eq_some_iff.mp found).1]

/-! ### From the first token to the last -/

/-- A reading that finds a token leaves less to be lexed or less to be read. -/
theorem next_shortens {cursor after : Cursor} {token : Token}
    (read : cursor.next = (some token, after)) :
    after.rest.length < cursor.rest.length ∨
      after.rest.length = cursor.rest.length ∧
        after.tokens.size - after.position < cursor.tokens.size - cursor.position := by
  unfold next at read
  dsimp only at read
  split at read
  · next found =>
    have inside := (Array.getElem?_eq_some_iff.mp found).1
    cases read
    refine Or.inr ⟨rfl, ?_⟩
    show cursor.tokens.size - (cursor.position + 1) < cursor.tokens.size - cursor.position
    omega
  · next missing =>
    split at read
    · next found =>
      cases read
      refine Or.inl (advance_rest_length fun ended => ?_)
      rw [advance_of_nil ended, missing] at found
      cases found
    · cases read

/-- The tokens that a cursor answers until there is none, and the cursor then. -/
def readAll (cursor : Cursor) : List Token × Cursor :=
  match _ : cursor.next with
  | (none, after) => ([], after)
  | (some token, after) => (token :: after.readAll.1, after.readAll.2)
termination_by (cursor.rest.length, cursor.tokens.size - cursor.position)
decreasing_by
  all_goals
    rcases next_shortens (by assumption) with shorter | ⟨same, fewer⟩
    · exact Prod.Lex.left _ _ shorter
    · rw [same]
      exact Prod.Lex.right _ fewer

theorem drain_advance (cursor : Cursor) : cursor.advance.drain = cursor.drain := by
  by_cases ended : cursor.rest = []
  · rw [advance_of_nil ended]
  · rw [drain.eq_def cursor, if_neg ended]

theorem drain_lexed (query : String) (steps : Nat) :
    (lexed query steps).drain = (ofText query).drain := by
  induction steps with
  | zero => rfl
  | succ steps same => rw [lexed_succ, drain_advance, same]

theorem drain_of_ended {query : String} {steps : Nat} (ended : (lexed query steps).rest = []) :
    (ofText query).drain = lexed query steps := by
  rw [← drain_lexed query steps, drain, if_pos ended]

/-- A reading to the end answers the tokens that are left and leaves nothing to be lexed. -/
theorem readAll_lexed (query : String) (steps position : Nat)
    (within : position ≤ (lexed query steps).tokens.size) :
    ((lexed query steps).seek position).readAll =
      ((tokenize query).tokens.drop position,
        (ofText query).drain.seek (tokenize query).tokens.length) := by
  induction left : (tokenize query).tokens.length - position generalizing steps position with
  | zero =>
    have bound := size_lexed_le_length query steps
    have last : position = (tokenize query).tokens.length := by omega
    have ended : (lexed query (max steps (position + 1))).rest = [] :=
      rest_of_length_lt (by omega)
    rw [readAll, next_lexed query within, List.getElem?_eq_none (by omega), if_neg (by omega),
      List.drop_eq_nil_of_le (by omega), drain_of_ended ended]
    dsimp only
    rw [last]
  | succ left shorter =>
    have inside : position < (tokenize query).tokens.length := by omega
    have further : position < max steps (position + 1) := by omega
    rw [readAll, next_lexed query within, List.getElem?_eq_getElem inside, if_pos inside,
      List.drop_eq_getElem_cons inside]
    dsimp only
    rw [shorter _ _ (lt_size_lexed further inside) (by omega)]

/-- **A reading of a whole query** answers its tokens and ends where the lexing ends. -/
theorem readAll_ofText (query : String) :
    (ofText query).readAll =
      ((tokenize query).tokens, (ofText query).drain.seek (tokenize query).tokens.length) :=
  readAll_lexed query 0 0 (Nat.zero_le _)

theorem drain_ofText (query : String) :
    (ofText query).drain.tokens.toList = (tokenize query).tokens ∧
      (ofText query).drain.rest = [] ∧
      (ofText query).drain.extra = (tokenize query).extra ∧
      (ofText query).drain.command = (tokenize query).command := by
  have ended := rest_of_length_lt (Nat.lt_succ_self (tokenize query).tokens.length)
  rw [drain_of_ended ended]
  exact ⟨tokens_of_ended ended, ended, payloads_of_ended ended⟩

/-! ### Moves -/

/-- What a reader does with a cursor. -/
inductive Move where
  /-- Read the token at the position. -/
  | next
  /-- Go to a position. -/
  | rewind (mark : Nat)
  deriving DecidableEq, Repr

/-- The cursor after a move. -/
def after (cursor : Cursor) : Move → Cursor
  | .next => cursor.next.2
  | .rewind mark => cursor.seek mark

/-- Whether a move is allowed: a cursor may go to the positions of the tokens lexed so far, and to
the one after the last of them. -/
def Allows (cursor : Cursor) : Move → Prop
  | .next => True
  | .rewind mark => mark ≤ cursor.tokens.size

/-- The number of leading tokens that a move asks for. -/
def asks (cursor : Cursor) : Move → Nat
  | .next => cursor.position + 1
  | .rewind _ => 0

/-- The cursor after some moves. -/
def run (cursor : Cursor) : List Move → Cursor
  | [] => cursor
  | move :: moves => (cursor.after move).run moves

/-- Whether some moves are allowed one after the other. -/
def AllowsAll (cursor : Cursor) : List Move → Prop
  | [] => True
  | move :: moves => cursor.Allows move ∧ (cursor.after move).AllowsAll moves

instance (cursor : Cursor) (move : Move) : Decidable (cursor.Allows move) :=
  match move with
  | .next => inferInstanceAs (Decidable True)
  | .rewind mark => inferInstanceAs (Decidable (mark ≤ cursor.tokens.size))

instance decidableAllowsAll (cursor : Cursor) :
    (moves : List Move) → Decidable (cursor.AllowsAll moves)
  | [] => inferInstanceAs (Decidable True)
  | move :: moves =>
    have := decidableAllowsAll (cursor.after move) moves
    inferInstanceAs (Decidable (cursor.Allows move ∧ (cursor.after move).AllowsAll moves))

/-- The largest number of leading tokens that one of some moves asks for. -/
def furthest (cursor : Cursor) : List Move → Nat
  | [] => 0
  | move :: moves => max (cursor.asks move) ((cursor.after move).furthest moves)

/-- A move keeps the cursor at a position among the tokens lexed so far, and lexes further only if it
asks for more than the moves before it. -/
theorem after_lexed (query : String) {steps position : Nat} {move : Move}
    (within : position ≤ (lexed query steps).tokens.size)
    (allowed : ((lexed query steps).seek position).Allows move) :
    ∃ position', ((lexed query steps).seek position).after move =
        (lexed query (max steps (((lexed query steps).seek position).asks move))).seek position' ∧
      position' ≤ (lexed query
        (max steps (((lexed query steps).seek position).asks move))).tokens.size := by
  cases move with
  | rewind mark =>
    rw [asks, Nat.max_eq_left (Nat.zero_le steps)]
    exact ⟨mark, rfl, allowed⟩
  | next =>
    refine ⟨_, congrArg Prod.snd (next_lexed query within), ?_⟩
    show _ ≤ (lexed query (max steps (position + 1))).tokens.size
    split
    · next inside => exact lt_size_lexed (by omega) inside
    · next outside =>
      have bound := size_lexed_le_length query steps
      have ended : (lexed query (max steps (position + 1))).rest = [] :=
        rest_of_length_lt (by omega)
      have whole := congrArg List.length (tokens_of_ended ended)
      rw [Array.length_toList] at whole
      omega

/-- The cursor after any moves is the lexing up to the furthest position asked for, read at some
position. -/
theorem run_lexed (query : String) (moves : List Move) (steps position : Nat)
    (within : position ≤ (lexed query steps).tokens.size)
    (allowed : ((lexed query steps).seek position).AllowsAll moves) :
    ∃ position', ((lexed query steps).seek position).run moves =
        (lexed query (max steps (((lexed query steps).seek position).furthest moves))).seek
          position' ∧
      position' ≤ (lexed query
        (max steps (((lexed query steps).seek position).furthest moves))).tokens.size := by
  induction moves generalizing steps position with
  | nil =>
    rw [furthest, Nat.max_eq_left (Nat.zero_le steps)]
    exact ⟨position, rfl, within⟩
  | cons move moves inner =>
    obtain ⟨here, later⟩ := allowed
    obtain ⟨position', moved, within'⟩ := after_lexed query within here
    rw [moved] at later
    rw [run, furthest, moved, ← Nat.max_assoc]
    exact inner _ _ within' later

/-- The text that a reading answers, which is empty if there is no token at the position. -/
def answer (cursor : Cursor) : List Char :=
  (cursor.next.1.map Token.text).getD []

/-- **A cursor after any allowed moves against a reading of the whole query**: it reads the token at
its position, and its rest and payloads are those of the lexing as far as it was ever asked for,
which are those of the whole query once the end has been asked for. -/
theorem run_replays (query : String) (moves : List Move)
    (allowed : (ofText query).AllowsAll moves) :
    let cursor := (ofText query).run moves
    let drained := (ofText query).readAll
    let reached := lexed query ((ofText query).furthest moves)
    (cursor.position ≤ drained.1.length ∧
      cursor.next.1 = drained.1[cursor.position]? ∧
      (cursor.answer = [] ↔ cursor.position = drained.1.length) ∧
      cursor.next.2.position =
        if cursor.position < drained.1.length then cursor.position + 1 else cursor.position) ∧
    (cursor.rest = reached.rest ∧ cursor.extra = reached.extra ∧
      cursor.command = reached.command) ∧
    (drained.1.length < (ofText query).furthest moves → cursor.rest = []) ∧
    (cursor.rest = [] → cursor.rest = drained.2.rest ∧ cursor.extra = drained.2.extra ∧
      cursor.command = drained.2.command) := by
  intro cursor drained reached
  obtain ⟨position, moved, within⟩ :=
    run_lexed query moves 0 0 (Nat.zero_le _) allowed
  rw [Nat.zero_max] at moved within
  have isCursor : cursor = reached.seek position := moved
  have isDrained : drained = _ := readAll_ofText query
  have bound : position ≤ (tokenize query).tokens.length :=
    within.trans (size_lexed_le_length query _)
  have read : (reached.seek position).next = _ := next_lexed query within
  rw [isCursor, isDrained]
  refine ⟨⟨bound, ?_, ?_, ?_⟩, ⟨rfl, rfl, rfl⟩, rest_of_length_lt, fun ended => ?_⟩
  · rw [read]
    rfl
  · rw [answer, read]
    constructor
    · intro empty
      refine Nat.le_antisymm bound (Nat.not_lt.mp fun inside => ?_)
      have inside : position < (tokenize query).tokens.length := inside
      dsimp only at empty
      rw [List.getElem?_eq_getElem inside] at empty
      exact Lexer.text_ne_nil_of_mem (List.getElem_mem inside) empty
    · intro last
      have last : position = (tokenize query).tokens.length := last
      rw [List.getElem?_eq_none last.ge]
      rfl
  · rw [read]
    rfl
  · obtain ⟨_, rest, extra, command⟩ := drain_ofText query
    obtain ⟨extra', command'⟩ := payloads_of_ended ended
    exact ⟨ended.trans rest.symm, extra'.trans extra.symm, command'.trans command.symm⟩

/-- A query with both payloads, whose end is asked for before the reader goes back. -/
theorem run_replays_payloads :
    let query := "tea #+ now #! go"
    let moves : List Move := [.next, .next, .rewind 0, .next, .next, .next, .next, .next, .rewind 1,
      .next, .rewind 3]
    (ofText query).AllowsAll moves ∧
      let cursor := (ofText query).run moves
      let drained := (ofText query).readAll
      let reached := lexed query ((ofText query).furthest moves)
      (cursor.position ≤ drained.1.length ∧
        cursor.next.1 = drained.1[cursor.position]? ∧
        (cursor.answer = [] ↔ cursor.position = drained.1.length) ∧
        cursor.next.2.position =
          if cursor.position < drained.1.length then cursor.position + 1 else cursor.position) ∧
      (cursor.rest = reached.rest ∧ cursor.extra = reached.extra ∧
        cursor.command = reached.command) ∧
      (drained.1.length < (ofText query).furthest moves → cursor.rest = []) ∧
      (cursor.rest = [] → cursor.rest = drained.2.rest ∧ cursor.extra = drained.2.extra ∧
        cursor.command = drained.2.command) := by
  intro query moves
  have allowed : (ofText query).AllowsAll moves := by decide +kernel
  exact ⟨allowed, run_replays query moves allowed⟩

end Cursor

end TaskQuery
