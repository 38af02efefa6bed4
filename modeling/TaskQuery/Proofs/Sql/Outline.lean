/-
**The outline of a template.**

What is left of a template when its holes are emptied is its outline: the fixed texts, and the places
of the holes. A template is written out by filling its outline with its texts as the quoter writes
them.

* `Template.fill?_outline`: a rendered template is its outline, filled with quoted texts.
* `Template.Quotes`: what is in the holes of a template and what is outside of them.
* `Quotes.joinClauses`: joining clauses leaves what is in their holes as it is.
* `joinClauses_sameOutline`: joining clauses of the same outlines gives clauses of the same outline.
-/

import Mathlib.Data.List.Forall2
import TaskQuery.Proofs.Sql.Fragment

namespace TaskQuery.Sql

/-! ### Outlines -/

/-- A part of an outline. -/
inductive Slot where
  | fixed (text : String)
  | hole
  deriving DecidableEq, Repr

/-- Fixed texts with holes between them. -/
abbrev Outline := List Slot

/-- The text of an outline with some contents in its holes, if there is one for each hole. -/
def Outline.fill? : Outline → List String → Option String
  | [], [] => some ""
  | [], _ :: _ => none
  | .fixed text :: rest, contents => (Outline.fill? rest contents).map (text ++ ·)
  | .hole :: _, [] => none
  | .hole :: rest, content :: contents => (Outline.fill? rest contents).map (content ++ ·)

/-- A hole for a part that has one. -/
def Part.slot : Part → Slot
  | fixed text => .fixed text
  | hole _ => .hole

/-- The text in the hole of a part that has one. -/
def Part.raw? : Part → Option String
  | fixed _ => none
  | hole raw => some raw

namespace Template

/-- A template with its holes emptied. -/
def outline (template : Template) : Outline :=
  template.map Part.slot

/-- The texts in the holes of a template. -/
def holes (template : Template) : List String :=
  template.filterMap Part.raw?

theorem outline_append (first second : Template) :
    outline (first ++ second) = first.outline ++ second.outline :=
  List.map_append

theorem holes_append (first second : Template) :
    holes (first ++ second) = first.holes ++ second.holes :=
  List.filterMap_append

theorem fixed_mem_outline {template : Template} {text : String}
    (member : Slot.fixed text ∈ template.outline) : Part.fixed text ∈ template := by
  obtain ⟨part, found, slot⟩ := List.mem_map.mp member
  cases part with
  | fixed other =>
    cases slot
    exact found
  | hole raw => cases slot

/-- A template is written out by filling its outline. -/
theorem fill?_outline (quoter : Quoter) (template : Template) :
    template.outline.fill? (template.holes.map quoter.quote) = some (render quoter template) := by
  have first (part : Part) (rest : Template) :
      render quoter (part :: rest) = part.render quoter ++ render quoter rest := by
    rw [← List.singleton_append, render_append]
    simp [render]
  induction template with
  | nil => rfl
  | cons part rest inner =>
    rw [first]
    cases part <;> exact congrArg (Option.map _) inner

/-! ### Joined templates -/

theorem outline_joinWith (between : String) (templates : List Template) :
    outline (joinWith between templates) =
      List.intercalate [.fixed between] (templates.map outline) := by
  induction templates with
  | nil => rfl
  | cons template rest inner =>
    cases rest with
    | nil => simp [joinWith, List.intercalate]
    | cons next rest =>
      have later : outline (.fixed between :: joinWith between (next :: rest)) =
          .fixed between :: List.intercalate [.fixed between] ((next :: rest).map outline) :=
        congrArg (List.cons _) inner
      rw [joinWith_cons_cons, outline_append, later]
      simp [List.intercalate]

theorem holes_joinWith (between : String) (templates : List Template) :
    holes (joinWith between templates) = holes templates.flatten := by
  induction templates with
  | nil => rfl
  | cons template rest inner =>
    cases rest with
    | nil => simp [joinWith]
    | cons next rest =>
      have later : holes (.fixed between :: joinWith between (next :: rest)) =
          holes (next :: rest).flatten := inner
      have whole : (template :: next :: rest).flatten = template ++ (next :: rest).flatten := rfl
      rw [joinWith_cons_cons, holes_append, later, whole, holes_append]

theorem mem_joinWith {between : String} {templates : List Template} {part : Part}
    (member : part ∈ joinWith between templates) :
    part = .fixed between ∨ part ∈ templates.flatten := by
  induction templates with
  | nil => exact absurd member List.not_mem_nil
  | cons template rest inner =>
    cases rest with
    | nil => exact Or.inr (by simpa [joinWith] using member)
    | cons next rest =>
      rw [joinWith_cons_cons, List.mem_append, List.mem_cons] at member
      rw [List.flatten_cons, List.mem_append]
      rcases member with here | separates | later
      · exact Or.inr (Or.inl here)
      · exact Or.inl separates
      · exact (inner later).imp_right Or.inr

end Template

/-! ### Texts outside holes -/

/-- The texts that the condition of a statement has of its own: keywords, the names of tables and
columns, operators and priorities. -/
inductive OwnText (schema : Schema) : String → Prop where
  | start : OwnText schema "WHERE "
  | tagged (keyword : String) (known : keyword ∈ ["IN", "NOT IN"]) :
    OwnText schema ("id " ++ keyword ++ " (SELECT id FROM " ++ schema.tags ++ " WHERE name = ")
  | value (operator : Operator) : OwnText schema (" AND value " ++ operator.keyword ++ " ")
  | priority (relation : Comparison) (level : Priority) :
    OwnText schema ("priority " ++ comparisonKeyword relation ++ " " ++ toString level.rank)
  | due (relation : Comparison) :
    OwnText schema ("trigger_at_field " ++ comparisonKeyword relation ++ " ")
  | scheduled : OwnText schema "trigger_at_field IS NOT NULL"
  | column (subject : Column) (operator : Operator) :
    OwnText schema (subject.name ++ " " ++ operator.keyword ++ " ")
  | found (subject : Column) :
    OwnText schema
      ("id IN (SELECT id FROM " ++ schema.search ++ " WHERE " ++ subject.name ++ " MATCH ")
  | opening : OwnText schema "("
  | complement : OwnText schema "NOT ("
  | closing : OwnText schema ")"
  | connective (connective : Connective) : OwnText schema (" " ++ connective.keyword ++ " ")

/-- A template whose holes hold some texts, one after the other, and whose fixed texts are the
statement's own or one of some numbers. -/
structure Template.Quotes (schema : Schema) (template : Template) (texts : List String)
    (numbers : List Int) : Prop where
  holes : template.holes = texts
  fixed : ∀ text, Part.fixed text ∈ template →
    OwnText schema text ∨ ∃ value ∈ numbers, text = toString value

/-- The parts of some clauses, one after the other. -/
def Clause.parts (schema : Schema) (clauses : List Clause) : Template :=
  (Clause.templates schema clauses).flatten

namespace Template.Quotes

variable {schema : Schema} {template template' : Template} {texts texts' : List String}
  {numbers numbers' : List Int}

theorem nil : Quotes schema [] [] [] :=
  ⟨rfl, fun _ member => absurd member List.not_mem_nil⟩

theorem own {text : String} (own : OwnText schema text) : Quotes schema [.fixed text] [] [] where
  holes := rfl
  fixed other member := by
    cases List.mem_singleton.mp member
    exact Or.inl own

theorem hole (raw : String) : Quotes schema [.hole raw] [raw] [] where
  holes := rfl
  fixed other member := by cases List.mem_singleton.mp member

theorem number (value : Int) : Quotes schema [.fixed (toString value)] [] [value] where
  holes := rfl
  fixed other member := by
    cases List.mem_singleton.mp member
    exact Or.inr ⟨value, List.mem_singleton_self value, rfl⟩

theorem append (first : Quotes schema template texts numbers)
    (second : Quotes schema template' texts' numbers') :
    Quotes schema (template ++ template') (texts ++ texts') (numbers ++ numbers') where
  holes := by rw [holes_append, first.holes, second.holes]
  fixed text member := by
    rcases List.mem_append.mp member with member | member
    · refine (first.fixed text member).imp_right ?_
      rintro ⟨value, known, same⟩
      exact ⟨value, List.mem_append_left _ known, same⟩
    · refine (second.fixed text member).imp_right ?_
      rintro ⟨value, known, same⟩
      exact ⟨value, List.mem_append_right _ known, same⟩

/-- A text of the statement's own on either side. -/
theorem between {before after : String} (ownBefore : OwnText schema before)
    (ownAfter : OwnText schema after) (inner : Quotes schema template texts numbers) :
    Quotes schema (.fixed before :: template ++ [.fixed after]) texts numbers := by
  have whole := ((own ownBefore).append inner).append (own ownAfter)
  rwa [List.append_nil, List.append_nil] at whole

theorem joinWith {separator : String} {templates : List Template}
    (ownSeparator : OwnText schema separator)
    (parts : Quotes schema templates.flatten texts numbers) :
    Quotes schema (Template.joinWith separator templates) texts numbers where
  holes := (holes_joinWith separator templates).trans parts.holes
  fixed text member := by
    rcases mem_joinWith member with separates | inside
    · cases separates
      exact Or.inl ownSeparator
    · exact parts.fixed text inside

/-! #### Clauses -/

theorem single {clause : Clause} (quotes : Quotes schema (clause.template schema) texts numbers) :
    Quotes schema (Clause.parts schema [clause]) texts numbers := by
  have alone : Clause.parts schema [clause] = clause.template schema := List.append_nil _
  rwa [alone]

theorem of_single {clause : Clause}
    (quotes : Quotes schema (Clause.parts schema [clause]) texts numbers) :
    Quotes schema (clause.template schema) texts numbers := by
  have alone : Clause.parts schema [clause] = clause.template schema := List.append_nil _
  rwa [alone] at quotes

theorem appendClauses {clauses clauses' : List Clause}
    (first : Quotes schema (Clause.parts schema clauses) texts numbers)
    (second : Quotes schema (Clause.parts schema clauses') texts' numbers') :
    Quotes schema (Clause.parts schema (clauses ++ clauses')) (texts ++ texts')
      (numbers ++ numbers') := by
  have split : Clause.parts schema (clauses ++ clauses') =
      Clause.parts schema clauses ++ Clause.parts schema clauses' := by
    simp only [Clause.parts, Clause.templates_eq_map, List.map_append, List.flatten_append]
  rw [split]
  exact first.append second

theorem complement {clause : Clause}
    (quotes : Quotes schema (clause.template schema) texts numbers) :
    Quotes schema ((Clause.complement clause).template schema) texts numbers :=
  quotes.between .complement .closing

theorem enclosed {clause : Clause} (quotes : Quotes schema (clause.template schema) texts numbers) :
    Quotes schema ((Clause.enclosed clause).template schema) texts numbers :=
  quotes.between .opening .closing

/-- What is in the holes of some clauses is in the holes of the clause that joins them. -/
theorem joinClauses (connective : Connective) (inside : Bool) {clauses : List Clause}
    (parts : Quotes schema (Clause.parts schema clauses) texts numbers) :
    Quotes schema (Clause.parts schema (Clause.join connective inside clauses).toList) texts
      numbers := by
  match clauses with
  | [] => exact parts
  | [clause] => exact parts
  | first :: second :: rest =>
    have chain : Quotes schema ((Clause.chain connective (first :: second :: rest)).template schema)
        texts numbers := parts.joinWith (.connective connective)
    cases inside with
    | false => exact chain.single
    | true => exact chain.enclosed.single

end Template.Quotes

/-! ### Clauses of the same outline -/

/-- Two clauses that differ in nothing but the texts in their holes. -/
def Clause.SameOutline (schema : Schema) (clause clause' : Clause) : Prop :=
  (clause.template schema).outline = (clause'.template schema).outline

namespace Clause.SameOutline

variable {schema : Schema} {clause clause' : Clause} {clauses clauses' : List Clause}

theorem map_outline (same : List.Forall₂ (SameOutline schema) clauses clauses') :
    (Clause.templates schema clauses).map Template.outline =
      (Clause.templates schema clauses').map Template.outline := by
  induction same with
  | nil => rfl
  | cons head _ inner =>
    rw [templates, templates, List.map_cons, List.map_cons, inner]
    exact congrArg (· :: _) head

/-- Clauses of the same outlines with one text between any two. -/
theorem outline_joinWith (same : List.Forall₂ (SameOutline schema) clauses clauses')
    (between : String) :
    (Template.joinWith between (Clause.templates schema clauses)).outline =
      (Template.joinWith between (Clause.templates schema clauses')).outline := by
  rw [Template.outline_joinWith, Template.outline_joinWith, map_outline same]

theorem between (same : SameOutline schema clause clause') (before after : String) :
    Template.outline (.fixed before :: clause.template schema ++ [.fixed after]) =
      Template.outline (.fixed before :: clause'.template schema ++ [.fixed after]) := by
  rw [Template.outline_append, Template.outline_append]
  exact congrArg (fun inner => .fixed before :: inner ++ [.fixed after]) same

theorem complement (same : SameOutline schema clause clause') :
    SameOutline schema (.complement clause) (.complement clause') :=
  same.between "NOT (" ")"

theorem enclosed (same : SameOutline schema clause clause') :
    SameOutline schema (.enclosed clause) (.enclosed clause') :=
  same.between "(" ")"

end Clause.SameOutline

/-- Clauses of the same outlines are joined to a clause of the same outline. -/
theorem joinClauses_sameOutline {schema : Schema} (connective : Connective) (inside : Bool)
    {clauses clauses' : List Clause}
    (same : List.Forall₂ (Clause.SameOutline schema) clauses clauses') :
    List.Forall₂ (Clause.SameOutline schema) (Clause.join connective inside clauses).toList
      (Clause.join connective inside clauses').toList := by
  match clauses, clauses', same with
  | [], [], _ => exact .nil
  | [clause], [clause'], same => exact same
  | first :: second :: rest, first' :: second' :: rest', same =>
    have chain : Clause.SameOutline schema (.chain connective (first :: second :: rest))
        (.chain connective (first' :: second' :: rest')) :=
      Clause.SameOutline.outline_joinWith same _
    cases inside with
    | false => exact .cons chain .nil
    | true => exact .cons chain.enclosed .nil

end TaskQuery.Sql
