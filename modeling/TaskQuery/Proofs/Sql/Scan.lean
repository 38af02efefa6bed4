/-
**The pieces of a written condition.**

A database reads the text of a condition from left to right: blanks separate, a literal lasts from
one quote to the next that is not doubled, and whatever stands in a literal is content. Texts that
leave no literal open can be put one after the other with a blank, or between parentheses, without
any piece changing.

* `pieces_blank`, `pieces_enclosed`: how the pieces of a text follow from the pieces of its parts.
* `pieces_quote`: a standard literal is one piece, whatever it quotes.
-/

import TaskQuery.Sql.Template

namespace TaskQuery.Sql

/-- A piece of a written condition. -/
inductive Piece where
  | opening
  | closing
  | and
  | or
  | not
  /-- The keyword of memberships. -/
  | within
  /-- Another keyword, an identifier or a number. -/
  | word (run : List Char)
  /-- A sign such as a comparison. -/
  | symbol (run : List Char)
  /-- What a literal holds, without its quotes. -/
  | literal (content : List Char)
  /-- A character that no condition holds outside its literals, or the quote of a literal that is
  never closed. -/
  | stray (c : Char)
  deriving DecidableEq, Repr

namespace Scan

/-! ### Characters -/

/-- The characters of identifiers and numbers. -/
def isWordChar (c : Char) : Bool :=
  c.isAlphanum || c == '_' || 128 ≤ c.toNat

/-- The characters of signs. -/
def isSymbolChar : Char → Bool
  | '=' | '<' | '>' | '!' | '-' => true
  | _ => false

/-- The piece of a run of word characters: keywords count in any letter case. -/
def ofRun (run : List Char) : Piece :=
  match run.map Char.toUpper with
  | ['A', 'N', 'D'] => .and
  | ['O', 'R'] => .or
  | ['N', 'O', 'T'] => .not
  | ['I', 'N'] => .within
  | _ => .word run

/-! ### One character at a time -/

/-- What has been begun and not yet ended. -/
inductive Pending where
  | nothing
  | word (run : List Char)
  | symbol (run : List Char)
  | literal (content : List Char)
  /-- A quote within a literal: its end, or the first half of a doubled quote. -/
  | quote (content : List Char)

/-- The pieces that end with the text. -/
def finish : Pending → List Piece
  | .nothing => []
  | .word run => [ofRun run]
  | .symbol run => [.symbol run]
  | .literal _ => [.stray '\'']
  | .quote content => [.literal content]

/-- The piece that a character is by itself, and what it begins. -/
def begin (c : Char) : List Piece × Pending :=
  if isWordChar c then ([], .word [c])
  else if isSymbolChar c then ([], .symbol [c])
  else
    match c with
    | ' ' => ([], .nothing)
    | '(' => ([.opening], .nothing)
    | ')' => ([.closing], .nothing)
    | '\'' => ([], .literal [])
    | c => ([.stray c], .nothing)

/-- The pieces that end before a character or with it, and what goes on after it. -/
def step (pending : Pending) (c : Char) : List Piece × Pending :=
  match pending with
  | .literal content => ([], if c = '\'' then .quote content else .literal (content ++ [c]))
  | .quote content =>
    if c = '\'' then ([], .literal (content ++ [c]))
    else (.literal content :: (begin c).1, (begin c).2)
  | .word run =>
    if isWordChar c then ([], .word (run ++ [c])) else (ofRun run :: (begin c).1, (begin c).2)
  | .symbol run =>
    if isSymbolChar c then ([], .symbol (run ++ [c])) else (.symbol run :: (begin c).1, (begin c).2)
  | .nothing => begin c

/-- The pieces of a text after what has been begun. -/
def piecesFrom (pending : Pending) : List Char → List Piece
  | [] => finish pending
  | c :: rest => (step pending c).1 ++ piecesFrom (step pending c).2 rest

end Scan

open Scan

/-- The pieces of a text. -/
def pieces (text : List Char) : List Piece :=
  piecesFrom .nothing text

/-- No piece of a text is stray; in particular every literal is closed. -/
def Closed (pieces : List Piece) : Prop :=
  ∀ c, Piece.stray c ∉ pieces

namespace Closed

theorem nil : Closed [] := fun _ member => absurd member List.not_mem_nil

theorem cons {piece : Piece} {rest : List Piece} (here : ∀ c, piece ≠ .stray c)
    (later : Closed rest) : Closed (piece :: rest) := by
  intro c member
  rcases List.mem_cons.mp member with same | member
  · exact here c same.symm
  · exact later c member

theorem of_append {first second : List Piece} (closed : Closed (first ++ second)) :
    Closed first ∧ Closed second :=
  ⟨fun c member => closed c (List.mem_append_left _ member),
    fun c member => closed c (List.mem_append_right _ member)⟩

theorem append {first second : List Piece} (left : Closed first) (right : Closed second) :
    Closed (first ++ second) := by
  intro c member
  rcases List.mem_append.mp member with member | member
  · exact left c member
  · exact right c member

end Closed

/-! ### Texts side by side -/

/-- A blank or a parenthesis ends whatever is not an open literal. -/
theorem step_delimiter {pending : Pending} (closed : Closed (finish pending)) {d : Char}
    (delimits : d = ' ' ∨ d = '(' ∨ d = ')') :
    step pending d = (finish pending ++ (begin d).1, (begin d).2) := by
  cases pending with
  | literal content => exact absurd List.mem_cons_self (closed '\'')
  | nothing => rcases delimits with rfl | rfl | rfl <;> rfl
  | word run => rcases delimits with rfl | rfl | rfl <;> rfl
  | symbol run => rcases delimits with rfl | rfl | rfl <;> rfl
  | quote content => rcases delimits with rfl | rfl | rfl <;> rfl

/-- A text that leaves no literal open keeps its pieces before a blank or a parenthesis. -/
theorem piecesFrom_append {pending : Pending} {text : List Char} (rest : List Char) {d : Char}
    (closed : Closed (piecesFrom pending text)) (delimits : d = ' ' ∨ d = '(' ∨ d = ')') :
    piecesFrom pending (text ++ d :: rest) = piecesFrom pending text ++ pieces (d :: rest) := by
  induction text generalizing pending with
  | nil =>
    have ended := step_delimiter closed delimits
    show (step pending d).1 ++ piecesFrom (step pending d).2 rest = _
    rw [ended, List.append_assoc]
    rfl
  | cons c text inner =>
    rw [piecesFrom] at closed
    rw [List.cons_append, piecesFrom, piecesFrom, inner closed.of_append.2, List.append_assoc]

/-- A blank between two texts separates their pieces. -/
theorem pieces_blank {first second : List Char} (closed : Closed (pieces first)) :
    pieces (first ++ ' ' :: second) = pieces first ++ pieces second :=
  piecesFrom_append second closed (Or.inl rfl)

theorem pieces_enclosed {text : List Char} (closed : Closed (pieces text)) :
    pieces ('(' :: text ++ [')']) = .opening :: pieces text ++ [.closing] := by
  have ended := piecesFrom_append [] closed (Or.inr (Or.inr rfl))
  show .opening :: piecesFrom .nothing (text ++ [')']) = _
  rw [ended]
  rfl

/-! ### Words and literals -/

theorem piecesFrom_word (run : List Char) {more : List Char}
    (only : ∀ c ∈ more, isWordChar c = true) :
    piecesFrom (.word run) more = [ofRun (run ++ more)] := by
  induction more generalizing run with
  | nil => simp [piecesFrom, finish]
  | cons c more inner =>
    have here : isWordChar c = true := only c List.mem_cons_self
    have later : ∀ c ∈ more, isWordChar c = true := fun c member =>
      only c (List.mem_cons_of_mem _ member)
    rw [piecesFrom, step, if_pos here, inner _ later]
    simp

theorem pieces_word {run : List Char} (written : run ≠ [])
    (only : ∀ c ∈ run, isWordChar c = true) : pieces run = [ofRun run] := by
  cases run with
  | nil => exact absurd rfl written
  | cons c more =>
    have here : isWordChar c = true := only c List.mem_cons_self
    have later : ∀ c ∈ more, isWordChar c = true := fun c member =>
      only c (List.mem_cons_of_mem _ member)
    have rest := piecesFrom_word [c] later
    simp only [pieces, piecesFrom, step, begin, here, if_true, List.nil_append, rest]
    rfl

/-- The spelling of a text in a standard literal only adds to the content of the literal. -/
theorem piecesFrom_spell (content text rest : List Char) :
    piecesFrom (.literal content) (text.flatMap Quoter.spell ++ rest) =
      piecesFrom (.literal (content ++ text.filter (· != '\x00'))) rest := by
  induction text generalizing content with
  | nil => simp
  | cons c text inner =>
    rw [List.flatMap_cons, List.append_assoc]
    by_cases quote : c = '\''
    · subst quote
      have doubled : piecesFrom (.literal content)
          (Quoter.spell '\'' ++ (text.flatMap Quoter.spell ++ rest)) =
            piecesFrom (.literal (content ++ ['\''])) (text.flatMap Quoter.spell ++ rest) := rfl
      rw [doubled, inner]
      simp
    · by_cases nul : c = '\x00'
      · subst nul
        have dropped : Quoter.spell '\x00' = [] := rfl
        rw [dropped, List.nil_append, inner]
        simp
      · have itself : Quoter.spell c = [c] := by simp [Quoter.spell]
        have kept : (c != '\x00') = true := bne_iff_ne.mpr nul
        rw [itself, List.singleton_append, piecesFrom, step, if_neg quote, inner]
        simp [kept]

theorem pieces_quote (text : String) :
    pieces (Quoter.standard.quote text).toList =
      [.literal (text.toList.filter (· != '\x00'))] := by
  have spelled := piecesFrom_spell [] text.toList ['\'']
  simp only [Quoter.standard, String.toList_ofList]
  show piecesFrom (.literal []) (text.toList.flatMap Quoter.spell ++ ['\'']) = _
  rw [spelled]
  rfl

theorem pieces_spaced {texts : List String} (closed : ∀ text ∈ texts, Closed (pieces text.toList)) :
    pieces (String.intercalate " " texts).toList =
      texts.flatMap fun text => pieces text.toList := by
  induction texts with
  | nil => rfl
  | cons text rest inner =>
    cases rest with
    | nil => simp
    | cons next rest =>
      have later := inner fun text member => closed text (List.mem_cons_of_mem _ member)
      have spelled : (String.intercalate " " (text :: next :: rest)).toList =
          text.toList ++ ' ' :: (String.intercalate " " (next :: rest)).toList := by
        rw [String.intercalate_cons_cons]
        simp
      rw [spelled, pieces_blank (closed text List.mem_cons_self), later]
      rfl

end TaskQuery.Sql
