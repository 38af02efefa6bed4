/-
**Statement text with holes.**

The text of a statement is kept as fixed text and holes. A hole holds a text of the user, which
reaches the statement only through a quoter.

* `Template.render_append`: rendering goes piece by piece.
* `Quoter.standard`: the string literals of SQL, with the quote doubled and NUL left out.
-/

namespace TaskQuery.Sql

/-! ### Quoters -/

/-- A way to write a text as a literal. -/
structure Quoter where
  quote : String → String

namespace Quoter

/-- The spelling of a character between the quotes of a standard literal. -/
def spell : Char → List Char
  | '\'' => ['\'', '\'']
  | '\x00' => []
  | c => [c]

/-- String literals between single quotes: a quote is doubled, NUL is left out. -/
def standard : Quoter where
  quote text := String.ofList ('\'' :: text.toList.flatMap spell ++ ['\''])

end Quoter

/-! ### Templates -/

/-- A part of a template. -/
inductive Part where
  /-- Text of the statement itself. -/
  | fixed (text : String)
  /-- A text of the user, to be quoted. -/
  | hole (raw : String)
  deriving DecidableEq, Repr

/-- A part written out by a quoter. -/
def Part.render (quoter : Quoter) : Part → String
  | fixed text => text
  | hole raw => quoter.quote raw

/-- Statement text with holes. -/
abbrev Template := List Part

namespace Template

/-- A template written out by a quoter. -/
def render (quoter : Quoter) (template : Template) : String :=
  String.join (template.map (Part.render quoter))

theorem foldl_append (texts : List String) (start : String) :
    texts.foldl (· ++ ·) start = start ++ texts.foldl (· ++ ·) "" := by
  induction texts generalizing start with
  | nil => simp
  | cons text rest inner =>
    rw [List.foldl_cons, List.foldl_cons, inner (start ++ text), inner ("" ++ text)]
    simp [String.append_assoc]

/-- Rendering goes piece by piece. -/
theorem render_append (quoter : Quoter) (first second : Template) :
    render quoter (first ++ second) = render quoter first ++ render quoter second := by
  unfold render String.join
  rw [List.map_append, List.foldl_append, foldl_append]

/-- Templates one after the other with a fixed text between any two. -/
def joinWith (between : String) : List Template → Template
  | [] => []
  | [template] => template
  | template :: rest => template ++ .fixed between :: joinWith between rest

theorem joinWith_cons_cons (between : String) (template next : Template) (rest : List Template) :
    joinWith between (template :: next :: rest) =
      template ++ .fixed between :: joinWith between (next :: rest) :=
  rfl

end Template

end TaskQuery.Sql
