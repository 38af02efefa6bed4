/-
**Queries of the same shape have statements of the same outline.**

Two queries are of the same shape if they differ in no more than what their users write. Their
conditions are lowered in step, so the conditions of their statements have one outline, and differ
only in the texts that the quoter writes into its holes.

* `Condition.SameShape`, `Expr.SameShape`, `Query.SameShape`: what may differ is what users write.
* `Expr.lower_sameOutline`: expressions of the same shape have clauses of the same outline.
* `compile_outline_of_sameShape`: the conditions of their statements are one outline with the texts
  of each query.
-/

import Mathlib.Data.Option.Basic
import TaskQuery.Proofs.Sql.Quoting
import TaskQuery.Proofs.Sql.Selection

namespace TaskQuery

open Calendar (Instant Vantage stamp)
open Sql
open Outcome (bind_eq_ok map_eq_ok)

/-! ### Shapes -/

/-- Two conditions that differ in no more than what users write: the names of tags, and values that
mean the same priority and the same number of an id. Times may differ, since they are written into
holes. -/
structure Condition.SameShape (condition condition' : Condition) : Prop where
  name : condition.name = condition'.name ∨
    condition.isField = false ∧ condition'.isField = false
  op : condition.op = condition'.op
  level : condition.name = ":priority" → condition.level? = condition'.level?
  number : condition.idNumber? = condition'.idNumber?

/-- Two expressions of the same form, with conditions of the same shape at the same places. -/
inductive Expr.SameShape : Expr → Expr → Prop where
  | test {condition condition' : Condition} (same : condition.SameShape condition') :
    SameShape (.test condition) (.test condition')
  | junction (connective : Connective) {parts parts' : List Expr}
    (same : List.Forall₂ SameShape parts parts') :
    SameShape (.junction connective parts) (.junction connective parts')
  | not {inner inner' : Expr} (same : SameShape inner inner') :
    SameShape (.not inner) (.not inner')

theorem Expr.sameShape_junction_iff {connective connective' : Connective}
    {parts parts' : List Expr} :
    (Expr.junction connective parts).SameShape (.junction connective' parts') ↔
      connective = connective' ∧ List.Forall₂ Expr.SameShape parts parts' := by
  constructor
  · intro same
    cases same with
    | junction _ same => exact ⟨rfl, same⟩
  · rintro ⟨rfl, same⟩
    exact .junction connective same

/-- Two queries that differ in no more than what users write. -/
structure Query.SameShape (query query' : Query) : Prop where
  included : query.included.toExpr.SameShape query'.included.toExpr
  excluded : query.excluded.toExpr.SameShape query'.excluded.toExpr
  options : query.options = query'.options
  text : query.text = "" ↔ query'.text = ""

namespace Condition.SameShape

variable {condition condition' : Condition} {vantage vantage' : Vantage} {clause clause' : Clause}
  {schema : Schema}

theorem comparison {relation relation' : Comparison} (same : condition.SameShape condition')
    (compares : condition.comparison = .ok relation)
    (compares' : condition'.comparison = .ok relation') : relation = relation' := by
  unfold Condition.comparison at compares compares'
  rw [← same.op] at compares'
  split at compares
  · next empty =>
    rw [if_pos empty] at compares'
    exact Except.ok.inj (compares.symm.trans compares')
  · next written =>
    rw [if_neg written] at compares'
    cases known : Comparison.ofText? condition.op with
    | none =>
      rw [known] at compares
      cases compares
    | some other =>
      rw [known] at compares compares'
      exact Except.ok.inj (compares.symm.trans compares')

theorem operator {operator operator' : Operator} (same : condition.SameShape condition')
    (operates : condition.operator = .ok operator)
    (operates' : condition'.operator = .ok operator') : operator = operator' := by
  unfold Condition.operator at operates operates'
  rw [← same.op] at operates'
  cases known : Operator.ofText? condition.op with
  | none =>
    rw [known] at operates
    cases operates
  | some other =>
    rw [known] at operates operates'
    exact Except.ok.inj (operates.symm.trans operates')

theorem isField (same : condition.SameShape condition') :
    condition.isField = condition'.isField := by
  rcases same.name with name | ⟨onTag, onTag'⟩
  · rw [Condition.isField, Condition.isField, name]
  · rw [onTag, onTag']

theorem lowerTag {negated : Bool} (same : condition.SameShape condition')
    (lowered : condition.lowerTag negated = .ok clause)
    (lowered' : condition'.lowerTag negated = .ok clause') :
    clause.SameOutline schema clause' := by
  rcases lowerTag_clause lowered with ⟨empty, rfl⟩ | ⟨written, operator, operates, rfl⟩ <;>
    rcases lowerTag_clause lowered' with ⟨empty', rfl⟩ | ⟨written', operator', operates', rfl⟩
  · cases negated <;> rfl
  · exact absurd (same.op.symm.trans empty) written'
  · exact absurd (same.op.trans empty') written
  · cases same.operator operates operates'
    cases negated <;> rfl

theorem lowerPriority (same : condition.SameShape condition') (name : condition.name = ":priority")
    (lowered : condition.lowerPriority = .ok clause)
    (lowered' : condition'.lowerPriority = .ok clause') : clause.SameOutline schema clause' := by
  obtain ⟨relation, level, compares, resolved, rfl⟩ := lowerPriority_clause lowered
  obtain ⟨relation', level', compares', resolved', rfl⟩ := lowerPriority_clause lowered'
  cases same.comparison compares compares'
  cases resolved.symm.trans ((same.level name).trans resolved')
  rfl

theorem lowerWhen (same : condition.SameShape condition')
    (lowered : condition.lowerWhen vantage = .ok clause)
    (lowered' : condition'.lowerWhen vantage' = .ok clause') : clause.SameOutline schema clause' := by
  rcases lowerWhen_clause lowered with ⟨asks, rfl⟩ | ⟨compared, relation, _, compares, _, rfl⟩ <;>
    rcases lowerWhen_clause lowered' with ⟨asks', rfl⟩ | ⟨compared', relation', _, compares', _, rfl⟩
  · rfl
  · exact absurd (same.op.symm.trans asks) compared'
  · exact absurd (same.op.trans asks') compared
  · cases same.comparison compares compares'
    rfl

/-- A number stays outside holes, so it has to be the same. -/
theorem operand {column : Column} (same : condition.SameShape condition')
    (name : column = .id → condition.name = ":id") (compared : condition.op ≠ "match") :
    (condition.operand column).part.slot = (condition'.operand column).part.slot := by
  cases column with
  | id =>
    have name := name rfl
    have name' : condition'.name = ":id" := by
      rcases same.name with same | ⟨onTag, _⟩
      · exact same.symm.trans name
      · rw [Condition.isField, name] at onTag
        cases onTag
    have number : Text.int64? condition.value = Text.int64? condition'.value := by
      have numbers := same.number
      rwa [idNumber?, if_pos ⟨name, compared⟩, idNumber?, if_pos ⟨name', same.op ▸ compared⟩]
        at numbers
    rw [Condition.operand, Condition.operand, ← number]
    cases Text.int64? condition.value <;> rfl
  | title => rfl
  | body => rfl

theorem lowerColumn {column : Column} (same : condition.SameShape condition')
    (lowered : condition.lowerColumn column = .ok clause)
    (lowered' : condition'.lowerColumn column = .ok clause')
    (name : column = .id → condition.name = ":id") : clause.SameOutline schema clause' := by
  rcases lowerColumn_clause lowered with ⟨matched, rfl⟩ | ⟨compared, operator, operates, rfl⟩ <;>
    rcases lowerColumn_clause lowered' with ⟨matched', rfl⟩ | ⟨compared', operator', operates', rfl⟩
  · rfl
  · exact absurd (same.op.symm.trans matched) compared'
  · exact absurd (same.op.trans matched') compared
  · cases same.operator operates operates'
    exact congrArg (fun slot => [_, slot]) (same.operand name compared)

theorem lowerField (same : condition.SameShape condition') (name : condition.name = condition'.name)
    (lowered : condition.lowerField vantage = .ok clause)
    (lowered' : condition'.lowerField vantage' = .ok clause') :
    clause.SameOutline schema clause' := by
  unfold Condition.lowerField at lowered lowered'
  rw [← name] at lowered'
  split at lowered
  · next name =>
    rw [name] at lowered'
    exact same.lowerPriority name lowered lowered'
  · next name =>
    rw [name] at lowered'
    exact same.lowerWhen lowered lowered'
  · next name =>
    rw [name] at lowered'
    exact same.lowerColumn lowered lowered' fun _ => name
  · next name =>
    rw [name] at lowered'
    exact same.lowerColumn lowered lowered' fun isId => nomatch isId
  · next name =>
    rw [name] at lowered'
    exact same.lowerColumn lowered lowered' fun isId => nomatch isId
  · next name =>
    rw [name] at lowered'
    cases lowerSearch_clause lowered
    cases lowerSearch_clause lowered'
    rfl
  · cases lowered

/-- **Conditions of the same shape have clauses of the same outline.** -/
theorem lower {negated : Bool} (same : condition.SameShape condition')
    (lowered : condition.lower vantage negated = .ok clause)
    (lowered' : condition'.lower vantage' negated = .ok clause') :
    clause.SameOutline schema clause' := by
  by_cases onField : condition.isField = true
  · have name : condition.name = condition'.name := by
      rcases same.name with name | ⟨onTag, _⟩
      · exact name
      · cases onTag.symm.trans onField
    rw [Condition.lower, if_pos onField] at lowered
    rw [Condition.lower, if_pos (same.isField ▸ onField)] at lowered'
    obtain ⟨positive, field, rfl⟩ := map_eq_ok.mp lowered
    obtain ⟨positive', field', rfl⟩ := map_eq_ok.mp lowered'
    have outline : positive.SameOutline schema positive' := same.lowerField name field field'
    cases negated with
    | false => exact outline
    | true => exact outline.complement
  · rw [Condition.lower, if_neg onField] at lowered
    rw [Condition.lower, if_neg (same.isField ▸ onField)] at lowered'
    exact same.lowerTag lowered lowered'

end Condition.SameShape

/-! ### Expressions -/

section Expressions

variable {schema : Schema} {vantage vantage' : Vantage}

mutual

/-- **Expressions of the same shape have clauses of the same outline**, whatever their users wrote.
The induction is on both expressions, together with the parts of junctions. -/
theorem Expr.lower_sameOutline {found found' : Option Clause} {negated : Bool} {depth : Nat} :
    ∀ expr expr' : Expr, expr.SameShape expr' →
      expr.lower vantage negated depth = .ok found →
      expr'.lower vantage' negated depth = .ok found' →
      List.Forall₂ (Clause.SameOutline schema) found.toList found'.toList
  | .test condition, expr', same, lowered, lowered' => by
    cases same with
    | test same =>
      obtain ⟨clause, single, rfl⟩ := map_eq_ok.mp lowered
      obtain ⟨clause', single', rfl⟩ := map_eq_ok.mp lowered'
      exact .cons (same.lower single single') .nil
  | .junction connective parts, expr', same, lowered, lowered' => by
    cases same with
    | junction _ same =>
      obtain ⟨clauses, several, rfl⟩ := map_eq_ok.mp lowered
      obtain ⟨clauses', several', rfl⟩ := map_eq_ok.mp lowered'
      exact joinClauses_sameOutline _ _ (Expr.lowerParts_sameOutline parts _ same several several')
  | .not inner, expr', same, lowered, lowered' => by
    cases same with
    | not same =>
      rw [Expr.lower] at lowered lowered'
      cases negated with
      | true => exact Expr.lower_sameOutline inner _ same lowered lowered'
      | false =>
        obtain ⟨positive, within, rfl⟩ := map_eq_ok.mp lowered
        obtain ⟨positive', within', rfl⟩ := map_eq_ok.mp lowered'
        have outlines := Expr.lower_sameOutline inner _ same within within'
        cases positive <;> cases positive' <;> cases outlines
        · exact .nil
        · next outline _ => exact .cons outline.complement .nil

theorem Expr.lowerParts_sameOutline {clauses clauses' : List Clause} {negated : Bool}
    {depth : Nat} :
    ∀ parts parts' : List Expr, List.Forall₂ Expr.SameShape parts parts' →
      Expr.lowerParts vantage negated depth parts = .ok clauses →
      Expr.lowerParts vantage' negated depth parts' = .ok clauses' →
      List.Forall₂ (Clause.SameOutline schema) clauses clauses'
  | [], _, .nil, lowered, lowered' => by
    cases lowered
    cases lowered'
    exact .nil
  | part :: rest, _, .cons same others, lowered, lowered' => by
    obtain ⟨found, head, remaining⟩ := bind_eq_ok.mp lowered
    obtain ⟨found', head', remaining'⟩ := bind_eq_ok.mp lowered'
    obtain ⟨clauses, tail, rfl⟩ := map_eq_ok.mp remaining
    obtain ⟨clauses', tail', rfl⟩ := map_eq_ok.mp remaining'
    exact List.rel_append (Expr.lower_sameOutline part _ same head head')
      (Expr.lowerParts_sameOutline rest _ others tail tail')

end

end Expressions

/-! ### Queries -/

/-- Conditions of the same shape constrain the priority together. -/
theorem Condition.SameShape.constrainsPriority {condition condition' : Condition}
    (same : condition.SameShape condition') :
    condition.constrainsPriority = condition'.constrainsPriority := by
  have onTag (condition : Condition) (notField : condition.isField = false) :
      condition.constrainsPriority = false := by
    rw [Condition.constrainsPriority, beq_eq_false_iff_ne]
    intro name
    rw [Condition.isField, name] at notField
    cases notField
  rcases same.name with name | ⟨notField, notField'⟩
  · rw [Condition.constrainsPriority, Condition.constrainsPriority, name]
  · rw [onTag condition notField, onTag condition' notField']

mutual

theorem Expr.SameShape.constrainsPriority : ∀ {expr expr' : Expr}, expr.SameShape expr' →
    expr.constrainsPriority = expr'.constrainsPriority
  | .test condition, expr', same => by
    cases same with
    | test same => exact same.constrainsPriority
  | .junction connective parts, expr', same => by
    cases same with
    | junction _ same => exact Expr.SameShape.anyConstrainsPriority same
  | .not inner, expr', same => by
    cases same with
    | not same => rfl

theorem Expr.SameShape.anyConstrainsPriority : ∀ {parts parts' : List Expr},
    List.Forall₂ Expr.SameShape parts parts' →
    Expr.anyConstrainsPriority parts = Expr.anyConstrainsPriority parts'
  | [], _, .nil => rfl
  | part :: rest, _, .cons same others => by
    rw [Expr.anyConstrainsPriority, Expr.anyConstrainsPriority,
      Expr.SameShape.constrainsPriority same, Expr.SameShape.anyConstrainsPriority others]

end

section Queries

variable {schema : Schema} {query query' : Query} {vantage vantage' : Vantage}
  {filter filter' : Option Expr} {clauses clauses' : List Clause}

theorem Query.SameShape.hidesDone (same : query.SameShape query')
    (sameFilter : Option.Rel Expr.SameShape filter filter') :
    query.hidesDone (filter.map Expr.toFilter) = query'.hidesDone (filter'.map Expr.toFilter) := by
  have asked : query.hasOption withDoneOption = query'.hasOption withDoneOption := by
    rw [hasOption, hasOption, same.options]
  have included : query.included.constrainsPriority = query'.included.constrainsPriority :=
    same.included.constrainsPriority
  have added : ((filter.map Expr.toFilter).map Filter.constrainsPriority).getD false =
      ((filter'.map Expr.toFilter).map Filter.constrainsPriority).getD false := by
    cases sameFilter with
    | none => rfl
    | some same => exact same.constrainsPriority
  rw [Query.hidesDone, Query.hidesDone, asked, included, added]

/-- **Queries of the same shape have clauses of the same outlines.** -/
theorem Query.clauses_sameOutline (same : query.SameShape query')
    (sameFilter : Option.Rel Expr.SameShape filter filter')
    (lowered : query.clauses vantage (filter.map Expr.toFilter) = .ok clauses)
    (lowered' : query'.clauses vantage' (filter'.map Expr.toFilter) = .ok clauses') :
    List.Forall₂ (Clause.SameOutline schema) clauses clauses' := by
  obtain ⟨included, readIncluded, lowered⟩ := bind_eq_ok.mp lowered
  obtain ⟨excluded, readExcluded, lowered⟩ := bind_eq_ok.mp lowered
  obtain ⟨added, readAdded, lowered⟩ := bind_eq_ok.mp lowered
  obtain ⟨included', readIncluded', lowered'⟩ := bind_eq_ok.mp lowered'
  obtain ⟨excluded', readExcluded', lowered'⟩ := bind_eq_ok.mp lowered'
  obtain ⟨added', readAdded', lowered'⟩ := bind_eq_ok.mp lowered'
  cases lowered
  cases lowered'
  obtain ⟨connective, _⟩ := Expr.sameShape_junction_iff.mp same.included
  obtain ⟨_, sameExcluded⟩ := Expr.sameShape_junction_iff.mp same.excluded
  have first : List.Forall₂ (Clause.SameOutline schema) included.toList included'.toList :=
    Expr.lower_sameOutline _ _ same.included (connective ▸ readIncluded) readIncluded'
  have found : List.Forall₂ (Clause.SameOutline schema)
      (if query.text.isEmpty then [] else [Condition.foundAnywhere query.text])
      (if query'.text.isEmpty then [] else [Condition.foundAnywhere query'.text]) := by
    by_cases empty : query.text = ""
    · rw [empty, same.text.mp empty]
      exact .nil
    · have empty' : query'.text ≠ "" := empty ∘ same.text.mpr
      rw [if_neg (by simpa using empty), if_neg (by simpa using empty')]
      exact .cons rfl .nil
  have hidden : List.Forall₂ (Clause.SameOutline schema)
      (if query.hidesDone (filter.map Expr.toFilter) then [.test (.priority .ne .done)] else [])
      (if query'.hidesDone (filter'.map Expr.toFilter) then [.test (.priority .ne .done)]
        else []) := by
    rw [same.hidesDone sameFilter]
    split
    · exact .cons rfl .nil
    · exact .nil
  have complements : List.Forall₂ (Clause.SameOutline schema) excluded excluded' :=
    Expr.lowerParts_sameOutline _ _ sameExcluded readExcluded readExcluded'
  have last : List.Forall₂ (Clause.SameOutline schema) added.toList added'.toList := by
    cases sameFilter with
    | none =>
      cases readAdded
      cases readAdded'
      exact .nil
    | some same => exact Expr.lower_sameOutline _ _ same readAdded readAdded'
  exact List.rel_append (List.rel_append (List.rel_append (List.rel_append first found) hidden)
    complements) last

theorem Statement.whereTemplate_outline {statement statement' : Statement}
    (same : List.Forall₂ (Clause.SameOutline schema) statement.clauses statement'.clauses) :
    (statement.whereTemplate schema).outline = (statement'.whereTemplate schema).outline := by
  unfold whereTemplate
  generalize statement.clauses = clauses at same ⊢
  generalize statement'.clauses = clauses' at same ⊢
  cases same with
  | nil => rfl
  | cons head tail =>
    exact congrArg (Slot.fixed "WHERE " :: ·)
      (Clause.SameOutline.outline_joinWith (.cons head tail) " AND ")

end Queries

/-- **The conditions of two statements of the same shape are one outline.** Its holes hold the
quoted texts of each query, and outside of them there is nothing that a user wrote but the numbers
with which ids are compared. -/
theorem compile_outline_of_sameShape (schema : Schema) (query query' : Query)
    (store store' : Store) (now now' : Instant) (filter filter' : Option Expr)
    (statement statement' : Statement) (same : query.SameShape query')
    (sameFilter : Option.Rel Expr.SameShape filter filter')
    (direct : query.savedSearch = none) (direct' : query'.savedSearch = none)
    (compiled : query.compile store now (filter.map Expr.toFilter) = .ok statement)
    (compiled' : query'.compile store' now' (filter'.map Expr.toFilter) = .ok statement') :
    ∃ (outline : Outline) (vantage vantage' : Vantage),
      Vantage.ofOffset query.offset now = .ok vantage ∧
      Vantage.ofOffset query'.offset now' = .ok vantage' ∧
      (∀ quoter,
        outline.fill? ((query.userTexts vantage filter).map quoter.quote) =
          some (statement.whereText { schema, quoter }) ∧
        outline.fill? ((query'.userTexts vantage' filter').map quoter.quote) =
          some (statement'.whereText { schema, quoter })) ∧
      ∀ text, Slot.fixed text ∈ outline → OwnText schema text ∨
        ∃ value ∈ query.idNumbers filter, Text.isInt64 value = true ∧ text = toString value := by
  obtain ⟨vantage, clock, lowered⟩ := query.compile_direct direct compiled
  obtain ⟨vantage', clock', lowered'⟩ := query'.compile_direct direct' compiled'
  have quotes : (Clause.parts schema statement.clauses).Quotes schema _ _ :=
    Query.clauses_quote lowered
  have quotes' : (Clause.parts schema statement'.clauses).Quotes schema _ _ :=
    Query.clauses_quote lowered'
  have outlines : (statement.whereTemplate schema).outline =
      (statement'.whereTemplate schema).outline :=
    Statement.whereTemplate_outline (Query.clauses_sameOutline same sameFilter lowered lowered')
  refine ⟨(statement.whereTemplate schema).outline, vantage, vantage', clock, clock', ?_, ?_⟩
  · intro quoter
    have filled := Statement.fill?_whereOutline quotes quoter
    have filled' := Statement.fill?_whereOutline quotes' quoter
    exact ⟨filled, outlines ▸ filled'⟩
  · intro text member
    have outside := (Statement.whereTemplate_quotes quotes).fixed text
      (Template.fixed_mem_outline member)
    refine outside.imp_right ?_
    rintro ⟨value, known, written⟩
    exact ⟨value, known, Query.isInt64_of_mem_idNumbers known, written⟩

/-- A disjunction with a tag and an id, a search text, an exclusion, and a filter on the priority and
the trigger time, each written in two ways, one of them with quotes and parentheses. -/
theorem compile_outline_of_sameShape_hostile :
    let query : Query :=
      { text := "milk"
        included := { connective := .or, parts := [.test (.compare "shop" "=" "tea"),
          .not (.test (.compare ":id" "=" "+42"))] }
        excluded := { parts := [.test (.tag "done")] } }
    let query' : Query :=
      { text := "' OR '1'='1"
        included := { connective := .or, parts := [.test (.compare "x') OR (" "=" "--"),
          .not (.test (.compare ":id" "=" "042"))] }
        excluded := { parts := [.test (.tag "'")] }
        offset := 2 }
    let filter : Option Expr := some (.junction .and [.test (.compare ":priority" "=" "5"),
      .test { name := ":when", op := "<=", time := some Instant.unixEpoch }])
    let filter' : Option Expr := some (.junction .and [.test (.compare ":priority" "=" "done"),
      .test { name := ":when", op := "<=", value := "then", time := some Instant.unixEpoch }])
    let statement : Statement :=
      { clauses := [.enclosed (.chain .or [
            .test (.tagged "shop" (some (.comparison .eq, "tea"))),
            .complement (.test (.column .id (.comparison .eq) (.number 42)))]),
          Condition.foundAnywhere "milk", .untagged "done" none,
          .enclosed (.chain .and [.test (.priority .eq .done),
            .test (.due .le (stamp Instant.unixEpoch ⟨0, by decide⟩))])]
        savedSearch := none, options := NameSet.empty, shownColumns := [], isEmpty := false }
    let statement' : Statement :=
      { clauses := [.enclosed (.chain .or [
            .test (.tagged "x') OR (" (some (.comparison .eq, "--"))),
            .complement (.test (.column .id (.comparison .eq) (.number 42)))]),
          Condition.foundAnywhere "' OR '1'='1", .untagged "'" none,
          .enclosed (.chain .and [.test (.priority .eq .done),
            .test (.due .le (stamp Instant.unixEpoch ⟨2, by decide⟩))])]
        savedSearch := none, options := NameSet.empty, shownColumns := [], isEmpty := false }
    query.SameShape query' ∧ Option.Rel Expr.SameShape filter filter' ∧
      query.savedSearch = none ∧ query'.savedSearch = none ∧
      query.compile Store.empty Instant.unixEpoch (filter.map Expr.toFilter) = .ok statement ∧
      query'.compile Store.empty Instant.unixEpoch (filter'.map Expr.toFilter) = .ok statement' ∧
      ∃ (outline : Outline) (vantage vantage' : Vantage),
        Vantage.ofOffset query.offset Instant.unixEpoch = .ok vantage ∧
        Vantage.ofOffset query'.offset Instant.unixEpoch = .ok vantage' ∧
        (∀ quoter,
          outline.fill? ((query.userTexts vantage filter).map quoter.quote) =
            some (statement.whereText { schema := {}, quoter }) ∧
          outline.fill? ((query'.userTexts vantage' filter').map quoter.quote) =
            some (statement'.whereText { schema := {}, quoter })) ∧
        ∀ text, Slot.fixed text ∈ outline → OwnText {} text ∨
          ∃ value ∈ query.idNumbers filter, Text.isInt64 value = true ∧ text = toString value := by
  intro query query' filter filter' statement statement'
  have same : query.SameShape query' :=
    { included := .junction .or (.cons (.test ⟨Or.inr ⟨rfl, rfl⟩, rfl, by decide, rfl⟩)
        (.cons (.not (.test ⟨Or.inl rfl, rfl, by decide, by decide⟩)) .nil))
      excluded := .junction .and (.cons (.test ⟨Or.inr ⟨rfl, rfl⟩, rfl, by decide, rfl⟩) .nil)
      options := rfl
      text := by decide }
  have sameFilter : Option.Rel Expr.SameShape filter filter' :=
    .some (.junction .and (.cons (.test ⟨Or.inl rfl, rfl, by decide, rfl⟩)
      (.cons (.test ⟨Or.inl rfl, rfl, by decide, rfl⟩) .nil)))
  have compiled : query.compile Store.empty Instant.unixEpoch (filter.map Expr.toFilter) =
      .ok statement := by
    rw [Query.compile, Saved.resolve, Saved.follow_direct rfl]
    rfl
  have compiled' : query'.compile Store.empty Instant.unixEpoch (filter'.map Expr.toFilter) =
      .ok statement' := by
    rw [Query.compile, Saved.resolve, Saved.follow_direct rfl]
    rfl
  exact ⟨same, sameFilter, rfl, rfl, compiled, compiled', compile_outline_of_sameShape {} query
    query' Store.empty Store.empty Instant.unixEpoch Instant.unixEpoch filter filter' statement
    statement' same sameFilter rfl rfl compiled compiled'⟩

end TaskQuery
