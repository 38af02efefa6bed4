/-
**Reading tokens one at a time.**

A cursor lexes its query only as far as it has been read, keeps every token it has met, and may go
back to any position it has passed; a token is lexed once however often it is read.

* `next`: the token at the position, and the cursor after it.
* `seek`: the cursor at an earlier position.
* `drain`: the cursor after the whole text has been lexed.
-/

import TaskQuery.Token.Lexer

namespace TaskQuery

/-- A reader of the tokens of a query. -/
structure Cursor where
  /-- The tokens lexed so far. -/
  tokens : Array Token
  /-- How many of them have been read. -/
  position : Nat
  /-- The text not lexed yet. -/
  rest : List Char
  extra : Option (List Char)
  command : Option (List Char)
  deriving Repr

namespace Cursor

/-- A cursor that has read nothing. -/
def ofText (query : String) : Cursor :=
  { tokens := #[], position := 0, rest := query.toList, extra := none, command := none }

/-- The extra payload after one more marker of it has been met: a second payload follows the first
after a space, unless it is empty. -/
def extended : Option (List Char) → List Char → Option (List Char)
  | none, found => some found
  | some known, [] => some known
  | some known, found => some (known ++ ' ' :: found)

/-- The cursor after one more piece of the text has been lexed. -/
def advance (cursor : Cursor) : Cursor :=
  match cursor.rest with
  | [] => cursor
  | c :: rest =>
    let piece := (Lexer.scan c rest).1
    { cursor with
      tokens := cursor.tokens ++ piece.token?.toArray
      rest := (Lexer.scan c rest).2
      extra := (piece.extra?.map (extended cursor.extra)).getD cursor.extra
      command := piece.command?.or cursor.command }

/-- The token at the position, if there is one, and the cursor after it. -/
def next (cursor : Cursor) : Option Token × Cursor :=
  match cursor.tokens[cursor.position]? with
  | some token => (some token, { cursor with position := cursor.position + 1 })
  | none =>
    let advanced := cursor.advance
    match advanced.tokens[cursor.position]? with
    | some token => (some token, { advanced with position := cursor.position + 1 })
    | none => (none, advanced)

/-- The cursor at another position among the tokens lexed so far. -/
def seek (cursor : Cursor) (position : Nat) : Cursor :=
  { cursor with position }

/-- Lexing leaves less text. -/
theorem advance_rest_length {cursor : Cursor} (unread : cursor.rest ≠ []) :
    cursor.advance.rest.length < cursor.rest.length := by
  unfold advance
  split
  · contradiction
  · next c rest written =>
    have shorter := Lexer.scan_rest_length c rest
    simp only [written, List.length_cons]; omega

/-- The cursor after the whole text has been lexed. -/
def drain (cursor : Cursor) : Cursor :=
  if cursor.rest = [] then cursor else cursor.advance.drain
termination_by cursor.rest.length
decreasing_by exact advance_rest_length (by assumption)

end Cursor

end TaskQuery
