/-
**A statement is on one line.**

The quoter keeps a line break of a text as it stands, but no text that a query quotes has one: names
and values are made of characters that are not blank, a trigger time is digits and marks, and all
that is blank in the free text is spaces. So a line break could come only from the names of the
tables.

* `Quoter.standard_keepsLine`: a literal of a text on one line is on one line.
* `Template.Quotes.isOneLine`: a template whose texts are on one line.
* `Query.isOneLine_userTexts`: the texts of a query that was read.
* `Engine.plan_eq_ok`: what a plan is made of.
* `Engine.isOneLine_sql`: the statement of a plan.
-/

import TaskQuery.Proofs.Calendar.Written
import TaskQuery.Proofs.Cli.Dialogue
import TaskQuery.Proofs.Plan
import TaskQuery.Proofs.Query.FreeText
import TaskQuery.Proofs.Sql.Quoting

namespace TaskQuery

open Calendar (Instant Vantage Zone stamp)
open Outcome (bind_eq_ok map_eq_ok)

/-! ### Texts -/

namespace Text

theorem isOneLine_join {texts : List String} (each : ∀ text ∈ texts, IsOneLine text) :
    IsOneLine (String.join texts) := by
  rw [IsOneLine, String.toList_join]
  intro member
  obtain ⟨text, isText, within⟩ := List.mem_flatMap.mp member
  exact each text isText within

theorem isOneLine_intercalate {between : String} {texts : List String}
    (separator : IsOneLine between) (each : ∀ text ∈ texts, IsOneLine text) :
    IsOneLine (String.intercalate between texts) := by
  induction texts with
  | nil => exact List.not_mem_nil
  | cons text texts inner =>
    obtain ⟨here, later⟩ := List.forall_mem_cons.mp each
    cases texts with
    | nil =>
      rw [String.intercalate_singleton]
      exact here
    | cons next texts =>
      rw [String.intercalate_cons_cons]
      exact (here.append separator).append (inner later)

/-- A line break is a blank. -/
theorem isOneLine_of_visible {text : String} (visible : ∀ c ∈ text.toList, isBlank c = false) :
    IsOneLine text :=
  fun member => Bool.false_ne_true ((visible '\n' member).symm.trans rfl)

end Text

open Text (IsOneLine isOneLine_append_iff isOneLine_ofList isOneLine_join isOneLine_intercalate
  isOneLine_of_visible)

/-! ### Templates -/

namespace Sql

/-- The names of the tables have no line break. -/
structure Schema.IsOneLine (schema : Schema) : Prop where
  tasks : Text.IsOneLine schema.tasks
  tags : Text.IsOneLine schema.tags
  search : Text.IsOneLine schema.search

/-- A quoter adds no line break. -/
def Quoter.KeepsLine (quoter : Quoter) : Prop :=
  ∀ text, IsOneLine text → IsOneLine (quoter.quote text)

/-- A literal of a text on one line is on one line. -/
theorem Quoter.standard_keepsLine : Quoter.standard.KeepsLine := by
  have spelled (c : Char) (other : c ≠ '\n') : '\n' ∉ spell c := by
    unfold spell
    split
    · decide
    · exact List.not_mem_nil
    · exact fun member => other (List.mem_singleton.mp member).symm
  intro text unbroken
  refine isOneLine_ofList.mpr (List.not_mem_append ?_ (by decide))
  refine List.not_mem_cons_of_ne_of_not_mem (by decide) fun member => ?_
  obtain ⟨c, isChar, within⟩ := List.mem_flatMap.mp member
  exact spelled c (fun same => unbroken (same ▸ isChar)) within

section

variable {schema : Schema} (unbroken : schema.IsOneLine)

include unbroken

theorem OwnText.isOneLine {text : String} (own : OwnText schema text) : IsOneLine text := by
  have comparisons (relation : Comparison) : IsOneLine (comparisonKeyword relation) := by
    cases relation <;> decide
  have operators (operator : Operator) : IsOneLine operator.keyword := by
    cases operator with
    | comparison relation => exact comparisons relation
    | _ => decide
  have columns (subject : Column) : IsOneLine subject.name := by
    cases subject <;> decide
  have ranks (level : Priority) : IsOneLine (toString level.rank) := by
    cases level <;> decide
  cases own with
  | start | scheduled | opening | complement | closing => decide
  | tagged keyword known =>
    have known : IsOneLine keyword := by
      have listed : ∀ keyword ∈ ["IN", "NOT IN"], IsOneLine keyword := by decide
      exact listed keyword known
    simp only [isOneLine_append_iff]
    exact ⟨⟨⟨⟨by decide, known⟩, by decide⟩, unbroken.tags⟩, by decide⟩
  | value operator =>
    simp only [isOneLine_append_iff]
    exact ⟨⟨by decide, operators operator⟩, by decide⟩
  | priority relation level =>
    simp only [isOneLine_append_iff]
    exact ⟨⟨⟨by decide, comparisons relation⟩, by decide⟩, ranks level⟩
  | due relation =>
    simp only [isOneLine_append_iff]
    exact ⟨⟨by decide, comparisons relation⟩, by decide⟩
  | column subject operator =>
    simp only [isOneLine_append_iff]
    exact ⟨⟨⟨columns subject, by decide⟩, operators operator⟩, by decide⟩
  | found subject =>
    simp only [isOneLine_append_iff]
    exact ⟨⟨⟨⟨by decide, unbroken.search⟩, by decide⟩, columns subject⟩, by decide⟩
  | connective connective => cases connective <;> decide

/-- **A template whose texts are on one line is written on one line.** -/
theorem Template.Quotes.isOneLine {quoter : Quoter} {template : Template} {texts : List String}
    {numbers : List Int} (quotes : template.Quotes schema texts numbers) (keeps : quoter.KeepsLine)
    (each : ∀ text ∈ texts, IsOneLine text) : IsOneLine (template.render quoter) := by
  refine isOneLine_join (List.forall_mem_map.mpr fun part member => ?_)
  cases part with
  | fixed text =>
    rcases quotes.fixed text member with own | ⟨value, _, rfl⟩
    · exact own.isOneLine unbroken
    · exact Text.isOneLine_integer value
  | hole raw =>
    have quoted : raw ∈ texts :=
      quotes.holes ▸ List.mem_filterMap.mpr ⟨.hole raw, member, rfl⟩
    exact keeps raw (each raw quoted)

end

end Sql

/-! ### The texts of a query -/

namespace Calendar

/-- A field is digits, or a sign and digits. -/
theorem Field.newline_notMem_write (part : Field) (time : LocalTime) : '\n' ∉ part.write time := by
  have digits (width value : Nat) : '\n' ∉ digitsOfWidth width value := fun member =>
    absurd (List.all_eq_true.mp (all_isDigit_digitsOfWidth width value) '\n' member) (by decide)
  obtain ⟨width, value, _, _, _, ⟨written, _⟩ | ⟨_, written, _⟩⟩ := part.exists_digitsOfWidth time
  · rw [written]
    exact digits width value
  · rw [written]
    exact List.not_mem_cons_of_ne_of_not_mem (by decide) (digits width value)

/-- A stored trigger time is on one line. -/
theorem isOneLine_stamp (time : Instant) (zone : Zone) : IsOneLine (stamp time zone) := by
  refine isOneLine_ofList.mpr fun member => ?_
  obtain ⟨piece, isPiece, within⟩ := List.mem_flatMap.mp member
  have noBreak : .literal '\n' ∉ Pattern.trigger := by decide
  cases piece with
  | field part => exact part.newline_notMem_write _ within
  | literal c => exact noBreak (List.mem_singleton.mp within ▸ isPiece)
  | gap =>
    have isSpace : '\n' = ' ' := List.mem_singleton.mp within
    exact absurd isSpace (by decide)

end Calendar

namespace Condition

variable {condition : Condition} {vantage : Vantage} {text : String}

/-- What a condition quotes is its name, unless it tests a field, its value, or a trigger time. -/
theorem mem_userTexts (member : text ∈ condition.userTexts vantage) :
    (condition.isField = false ∧ text = condition.name) ∨ text = condition.value ∨
      ∃ time, text = stamp time vantage.zone := by
  by_cases onField : condition.isField = true
  · rw [userTexts, if_pos onField] at member
    right
    split at member
    · -- A trigger time is quoted as a stamp.
      split at member
      · exact absurd member List.not_mem_nil
      · obtain ⟨time, _, rfl⟩ := Option.map_eq_some_iff.mp (Option.mem_toList.mp member)
        exact .inr ⟨time, rfl⟩
    · split at member
      · exact absurd member List.not_mem_nil
      · exact .inl (List.mem_singleton.mp member)
    · exact .inl (List.mem_singleton.mp member)
    · exact .inl (List.mem_singleton.mp member)
    · rcases List.mem_cons.mp member with rfl | member
      · exact .inl rfl
      · exact .inl (List.mem_singleton.mp member)
    · exact absurd member List.not_mem_nil
  · rw [userTexts, if_neg onField] at member
    rcases List.mem_cons.mp member with rfl | member
    · exact .inl ⟨Bool.eq_false_iff.mpr onField, rfl⟩
    · split at member
      · exact absurd member List.not_mem_nil
      · exact .inr (.inl (List.mem_singleton.mp member))

theorem WellFormed.isOneLine_userTexts (wellFormed : condition.WellFormed) :
    ∀ text ∈ condition.userTexts vantage, IsOneLine text := by
  intro text member
  rcases mem_userTexts member with ⟨onTag, rfl⟩ | rfl | ⟨time, rfl⟩
  · rcases wellFormed.name with isTag | ⟨field, name, _⟩
    · exact isOneLine_of_visible fun c member => (ordinary_of_isTagName isTag.isName c member).1
    · rw [isField, name, String.toList_append] at onTag
      exact absurd onTag Bool.noConfusion
  · exact isOneLine_of_visible fun c member => (wellFormed.value c member).1
  · exact Calendar.isOneLine_stamp time vantage.zone

end Condition

namespace Query

/-- The texts of a query that was read are on one line. -/
theorem isOneLine_userTexts (vantage : Vantage) (written : String) :
    ∀ text ∈ (read vantage written).userTexts vantage none, IsOneLine text := by
  have normal := isNormalText_read vantage written
  have wellFormed := read_wellFormed vantage written
  generalize read vantage written = query at normal wellFormed
  obtain ⟨included, isIncluded, all⟩ := wellFormed.included
  obtain ⟨excluded, isExcluded, none⟩ := wellFormed.excluded
  have texts {conditions : List Condition} (each : ∀ condition ∈ conditions, condition.WellFormed) :
      ∀ text ∈ Condition.allTexts vantage conditions, IsOneLine text := by
    intro text member
    obtain ⟨condition, isCondition, within⟩ := List.mem_flatMap.mp member
    exact (each condition isCondition).isOneLine_userTexts text within
  have found : IsOneLine query.text := fun member =>
    absurd (normal.spaces '\n' member rfl) (by decide)
  rw [userTexts, isIncluded, isExcluded, Junction.conditions_all, Junction.conditions_all]
  refine List.forall_mem_append.mpr ⟨List.forall_mem_append.mpr
    ⟨List.forall_mem_append.mpr ⟨texts all, ?_⟩, texts fun condition member =>
      (none condition member).1⟩, fun text none => absurd none List.not_mem_nil⟩
  split
  · exact fun text none => absurd none List.not_mem_nil
  · exact List.forall_mem_cons.mpr ⟨found, List.forall_mem_singleton.mpr found⟩

end Query

/-! ### Statements -/

/-- A statement is on one line if the texts of its clauses are. -/
theorem Statement.isOneLine_text {statement : Statement} {database : Database}
    {texts : List String} {numbers : List Int} (unbroken : database.schema.IsOneLine)
    (keeps : database.quoter.KeepsLine)
    (quotes : (Sql.Clause.parts database.schema statement.clauses).Quotes database.schema texts
      numbers)
    (each : ∀ text ∈ texts, IsOneLine text) : IsOneLine (statement.text database) := by
  have selected : IsOneLine (selectText database) :=
    IsOneLine.append (by decide +kernel) unbroken.tasks
  have condition : IsOneLine (statement.whereText database) := by
    rw [← statement.render_whereTemplate database.schema database.quoter]
    exact (whereTemplate_quotes quotes).isOneLine unbroken keeps each
  have order : IsOneLine statement.orderText := by
    unfold orderText
    split <;> decide +kernel
  refine isOneLine_intercalate (by decide) fun part member => ?_
  have parts : ∀ part ∈ [selectText database, statement.whereText database, groupText,
      statement.orderText], IsOneLine part := by
    simp only [List.forall_mem_cons]
    exact ⟨selected, condition, by decide, order, fun part none => absurd none List.not_mem_nil⟩
  exact parts part (List.mem_of_mem_filter member)

namespace Engine

variable {engine : Engine} {now : Instant} {text : String} {plan : Plan}

/-- A plan is made of the query of its text and of the one that takes effect, which is read from the
text itself or from a stored one. -/
theorem plan_eq_ok (planned : engine.plan now text none = .ok plan) :
    ∃ (written : String) (statement : Statement),
      (written = text ∨ ∃ name, engine.store.get? name = some written) ∧
      (engine.read now written).clauses (engine.vantage now) none = .ok statement.clauses ∧
      plan.sql = statement.text engine.database ∧
      plan.command = (engine.read now text).command ∧
      plan.shownColumns = (engine.read now written).shownColumns := by
  obtain ⟨statement, compiled, rfl⟩ := map_eq_ok.mp planned
  obtain ⟨⟨effective, first⟩, resolved, compiled⟩ := bind_eq_ok.mp compiled
  obtain ⟨written, source, rfl⟩ := exists_written resolved
  have valid : Vantage.ofOffset (engine.read now written).offset now = .ok (engine.vantage now) :=
    Vantage.ofOffset_eq_ok.mpr ⟨rfl, rfl⟩
  unfold Query.compileResolved at compiled
  rw [valid] at compiled
  obtain ⟨clauses, lowered, rfl⟩ := map_eq_ok.mp compiled
  exact ⟨written, _, source, lowered, rfl, rfl, rfl⟩

/-- **The statement of a plan is on one line**, whatever the text of its query, if the names of the
tables are. -/
theorem isOneLine_sql (unbroken : engine.database.schema.IsOneLine)
    (keeps : engine.database.quoter.KeepsLine) (planned : engine.plan now text none = .ok plan) :
    IsOneLine plan.sql := by
  obtain ⟨written, statement, _, lowered, sql, _, _⟩ := plan_eq_ok planned
  have quotes : (Sql.Clause.parts engine.database.schema statement.clauses).Quotes
      engine.database.schema ((engine.read now written).userTexts (engine.vantage now) none)
      ((engine.read now written).idNumbers none) := Query.clauses_quote lowered
  rw [sql]
  exact statement.isOneLine_text unbroken keeps quotes
    (Query.isOneLine_userTexts (engine.vantage now) written)

end Engine

end TaskQuery
