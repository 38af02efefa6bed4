/-
**A statement selects the rows for which all its requirements hold.**

The clauses of a statement are written one after the other with `AND` between them. A database reads
them as one conjunction, which holds of a row as the requirements of the query do: what is included,
the search text, the default that hides completed tasks, what is excluded, and the filter.

* `Query.wanted`, `Query.notDone`, `Query.narrowed`: what a query and a filter require of a row.
* `Statement.whereText_selects`: clauses under `AND` are read as one conjunction.
* `Query.clauses_split`: the clauses of a query, one requirement after the other.
* `compile_selects_required`: a statement without saved searches selects what is required.
-/

import TaskQuery.Proofs.Sql.Meaning
import TaskQuery.Statement

namespace TaskQuery

open Calendar (Instant Vantage)
open Sql
open Outcome (bind_eq_ok map_eq_ok)

/-! ### Conditions outside negations -/

mutual

/-- The conditions of an expression outside every negation. -/
def Expr.openConditions : Expr → List Condition
  | .test condition => [condition]
  | .junction _ parts => Expr.openConditionsOfParts parts
  | .not _ => []

def Expr.openConditionsOfParts : List Expr → List Condition
  | [] => []
  | part :: rest => part.openConditions ++ Expr.openConditionsOfParts rest

end

mutual

theorem Expr.constrainsPriority_iff : ∀ expr : Expr,
    expr.constrainsPriority = true ↔
      ∃ condition ∈ expr.openConditions, condition.name = ":priority"
  | .test condition => by
    rw [constrainsPriority, openConditions, Condition.constrainsPriority, beq_iff_eq]
    exact ⟨fun same => ⟨condition, List.mem_singleton_self _, same⟩,
      fun ⟨_, member, same⟩ => List.mem_singleton.mp member ▸ same⟩
  | .junction _ parts => by
    rw [constrainsPriority, openConditions]
    exact Expr.anyConstrainsPriority_iff parts
  | .not _ => by
    rw [constrainsPriority, openConditions]
    constructor
    · intro holds
      exact absurd holds Bool.false_ne_true
    · rintro ⟨_, member, _⟩
      exact absurd member List.not_mem_nil

theorem Expr.anyConstrainsPriority_iff : ∀ parts : List Expr,
    Expr.anyConstrainsPriority parts = true ↔
      ∃ condition ∈ Expr.openConditionsOfParts parts, condition.name = ":priority"
  | [] => by
    constructor
    · intro holds
      exact absurd holds Bool.false_ne_true
    · rintro ⟨_, member, _⟩
      exact absurd member List.not_mem_nil
  | part :: rest => by
    have head := Expr.constrainsPriority_iff part
    have tail := Expr.anyConstrainsPriority_iff rest
    rw [anyConstrainsPriority, Bool.or_eq_true, head, tail, openConditionsOfParts]
    constructor
    · rintro (⟨condition, member, named⟩ | ⟨condition, member, named⟩)
      · exact ⟨condition, List.mem_append_left _ member, named⟩
      · exact ⟨condition, List.mem_append_right _ member, named⟩
    · rintro ⟨condition, member, named⟩
      rcases List.mem_append.mp member with member | member
      · exact Or.inl ⟨condition, member, named⟩
      · exact Or.inr ⟨condition, member, named⟩

end

/-! ### Requirements -/

namespace Query

/-- The conditions outside negations of what a query includes and of a filter. -/
def openConditions (query : Query) (filter : Option Expr) : List Condition :=
  query.included.toExpr.openConditions ++ (filter.map Expr.openConditions).getD []

/-- Whether completed tasks are to be left out by default: they were not asked for, and no condition
outside a negation is on the priority. -/
def LeavesOutDone (query : Query) (filter : Option Expr) : Prop :=
  "w/done" ∉ query.options.names ∧
    ∀ condition ∈ query.openConditions filter, condition.name ≠ ":priority"

instance (query : Query) (filter : Option Expr) : Decidable (query.LeavesOutDone filter) :=
  inferInstanceAs (Decidable (_ ∧ _))

theorem hidesDone_iff (query : Query) (filter : Option Expr) :
    query.hidesDone (filter.map Expr.toFilter) = true ↔ query.LeavesOutDone filter := by
  have asked : query.hasOption withDoneOption = true ↔ "w/done" ∈ query.options.names := by
    rw [hasOption, NameSet.contains, List.contains_iff_mem]
    rfl
  have included : query.included.constrainsPriority = true ↔
      ∃ condition ∈ query.included.toExpr.openConditions, condition.name = ":priority" :=
    Expr.constrainsPriority_iff _
  have added : ((filter.map Expr.toFilter).map Filter.constrainsPriority).getD false = true ↔
      ∃ condition ∈ (filter.map Expr.openConditions).getD [], condition.name = ":priority" := by
    cases filter with
    | none => simp
    | some expr => exact Expr.constrainsPriority_iff expr
  rw [hidesDone, Bool.and_eq_true, Bool.and_eq_true, Bool.not_eq_true', Bool.not_eq_true',
    Bool.not_eq_true', ← Bool.not_eq_true, ← Bool.not_eq_true, ← Bool.not_eq_true, asked, included,
    added]
  constructor
  · rintro ⟨⟨notAsked, noneIncluded⟩, noneAdded⟩
    refine ⟨notAsked, fun condition member named => ?_⟩
    rcases List.mem_append.mp member with member | member
    · exact noneIncluded ⟨condition, member, named⟩
    · exact noneAdded ⟨condition, member, named⟩
  · rintro ⟨notAsked, noneNamed⟩
    refine ⟨⟨notAsked, ?_⟩, ?_⟩
    · rintro ⟨condition, member, named⟩
      exact noneNamed condition (List.mem_append_left _ member) named
    · rintro ⟨condition, member, named⟩
      exact noneNamed condition (List.mem_append_right _ member) named

variable (schema : Schema) (vantage : Vantage) (assigned : List Piece → Truth)

/-- What a query asks for: what it includes and a match of its text, if there is one. -/
def wanted (query : Query) : List Truth :=
  (query.included.toExpr.value (Condition.truth schema vantage assigned)).toList ++
    if query.text = "" then []
    else [(assigned ((Test.found .title query.text).written schema)).or
      (assigned ((Test.found .body query.text).written schema))]

/-- What else has to hold: the complement of each part that a query excludes, and the filter. -/
def narrowed (query : Query) (filter : Option Expr) : List Truth :=
  (Expr.values (Condition.truth schema vantage assigned) query.excluded.parts).map Truth.not ++
    (filter.bind (Expr.value (Condition.truth schema vantage assigned))).toList

/-- The default, where it applies: the task is not completed. -/
def notDone (query : Query) (filter : Option Expr) : List (List Piece) :=
  if query.LeavesOutDone filter then [pieces "priority <> 5".toList] else []

end Query

/-! ### Clauses under `AND` -/

/-- How the condition of a statement is read, if it has one. -/
def SelectsAs (text : String) : Option Formula → Prop
  | none => text = ""
  | some formula =>
    ∃ condition, text = "WHERE " ++ condition ∧ ReadsAs .condition condition formula

namespace Sql.Formula

/-- What the condition of a statement says of a row; without one every row is selected. -/
def selection (assigned : List Piece → Truth) (formula : Option Formula) : Truth :=
  (formula.map (value assigned)).getD .holds

/-- What the condition of a statement is a conjunction of. -/
def requirements (formula : Option Formula) : List Formula :=
  (formula.map conjuncts).getD []

theorem all_requirements (assigned : List Piece → Truth) (formula : Option Formula) :
    Truth.all ((requirements formula).map (value assigned)) = selection assigned formula := by
  cases formula with
  | none => rfl
  | some formula => exact value_conjuncts assigned formula

theorem all_flatMap_conjuncts (assigned : List Piece → Truth) (formulas : List Formula) :
    Truth.all ((formulas.flatMap conjuncts).map (value assigned)) =
      Truth.all (formulas.map (value assigned)) := by
  induction formulas with
  | nil => rfl
  | cons formula rest inner =>
    rw [List.flatMap_cons, List.map_append, Truth.all_append, value_conjuncts, inner, List.map_cons,
      Truth.all_cons]

end Sql.Formula

/-- Clauses that hold together are read as one conjunction. -/
theorem Statement.whereText_selects {schema : Schema} {statement : Statement}
    {formulas : List Formula}
    (reads : List.Forall₂ (ReadsAs .conjunction)
      (statement.clauses.map (Clause.render schema .standard)) formulas) :
    ∃ formula, SelectsAs (statement.whereText { schema }) formula ∧
      Formula.requirements formula = formulas.flatMap Formula.conjuncts := by
  unfold whereText
  cases clauses : statement.clauses with
  | nil =>
    rw [clauses] at reads
    cases reads
    exact ⟨none, rfl, rfl⟩
  | cons clause rest =>
    rw [clauses] at reads
    cases reads with
    | cons head tail =>
      obtain ⟨whole, readsWhole, conjuncts⟩ := exists_readsAs_intercalate head tail
      exact ⟨some whole, ⟨_, rfl, readsWhole.conjunction⟩, conjuncts⟩

/-! ### The clauses of a query -/

section Requirements

variable {schema : Schema} {vantage : Vantage}

/-- What a query includes is a conjunction: a disjunction of several parts stands in parentheses. -/
theorem Junction.lower_meets (plain : schema.IsPlain) {junction : Junction} {found : Option Clause}
    (lowered : junction.toExpr.lower vantage false (if junction.connective = .or then 1 else 0) =
      .ok found) :
    Meets schema .conjunction
      (fun assigned => junction.toExpr.value (Condition.truth schema vantage assigned)) found := by
  obtain ⟨clauses, several, rfl⟩ := map_eq_ok.mp lowered
  have parts : MeetsAll schema .operand (fun assigned =>
      Expr.values (Condition.truth schema vantage assigned) junction.parts) clauses :=
    (Expr.lowerParts_meets plain junction.parts several).congr fun _ => List.map_id' _
  cases connective : junction.connective with
  | and =>
    have joined := join_meets .and false parts
    rw [if_neg Bool.false_ne_true] at joined
    rw [toExpr, connective]
    exact joined
  | or =>
    have joined := join_meets .or true parts
    rw [if_pos rfl] at joined
    rw [toExpr, connective]
    exact joined.of_operand _

/-- The text of a query is matched against titles and bodies, unless it is empty. -/
theorem Query.found_meets (plain : schema.IsPlain) (query : Query) :
    MeetsAll schema .operand
      (fun assigned => if query.text = "" then []
        else [(assigned ((Test.found .title query.text).written schema)).or
          (assigned ((Test.found .body query.text).written schema))])
      (if query.text.isEmpty then [] else [Condition.foundAnywhere query.text]) := by
  by_cases empty : query.text = ""
  · simp only [empty, if_true]
    exact MeetsAll.nil fun _ => rfl
  · have notEmpty : ¬query.text.isEmpty = true := fun isEmpty => empty (by simpa using isEmpty)
    simp only [if_neg empty, if_neg notEmpty]
    exact ⟨_, .cons (foundAnywhere_readsAs plain query.text) .nil, fun _ => rfl⟩

/-- The clauses of a query are those of what it asks for, the default, those of what it excludes, and
the clause of a filter. -/
theorem Query.clauses_split (plain : schema.IsPlain) {query : Query} {filter : Option Filter}
    {clauses : List Clause} (lowered : query.clauses vantage filter = .ok clauses) :
    ∃ asked excluded added, clauses =
        asked ++ (if query.hidesDone filter then [.test (.priority .ne .done)] else []) ++
          excluded ++ added.toList ∧
      Query.added vantage filter = .ok added ∧
      MeetsAll schema .conjunction (fun assigned => query.wanted schema vantage assigned) asked ∧
      MeetsAll schema .operand (fun assigned =>
        (Expr.values (Condition.truth schema vantage assigned) query.excluded.parts).map Truth.not)
        excluded := by
  obtain ⟨included, readIncluded, lowered⟩ := bind_eq_ok.mp lowered
  obtain ⟨excluded, readExcluded, lowered⟩ := bind_eq_ok.mp lowered
  obtain ⟨added, readAdded, lowered⟩ := bind_eq_ok.mp lowered
  cases lowered
  refine ⟨_, excluded, added, rfl, readAdded, ?_, ?_⟩
  · exact (Junction.lower_meets plain readIncluded).toList.append
      ((query.found_meets plain).of_operand _)
  · exact Expr.lowerParts_meets plain query.excluded.parts readExcluded

/-- The clauses of a query are those of what it asks for, the default, and those of what else has to
hold. -/
theorem Query.clauses_meet (plain : schema.IsPlain) {query : Query} {filter : Option Expr}
    {clauses : List Clause}
    (lowered : query.clauses vantage (filter.map Expr.toFilter) = .ok clauses) :
    ∃ before after, clauses =
        before ++
          (if query.hidesDone (filter.map Expr.toFilter) then [.test (.priority .ne .done)]
            else []) ++
          after ∧
      MeetsAll schema .conjunction (fun assigned => query.wanted schema vantage assigned) before ∧
      MeetsAll schema .conjunction (fun assigned => query.narrowed schema vantage assigned filter)
        after := by
  obtain ⟨asked, excluded, added, split, readAdded, meets, complements⟩ :=
    Query.clauses_split plain lowered
  refine ⟨asked, excluded ++ added.toList, split.trans (List.append_assoc _ _ _), meets, ?_⟩
  have filtered : Meets schema .operand (fun assigned =>
      filter.bind (Expr.value (Condition.truth schema vantage assigned))) added := by
    cases filter with
    | none =>
      cases readAdded
      exact fun _ => rfl
    | some expr =>
      exact (Expr.lower_meets plain expr readAdded).congr fun _ => Option.map_id'
  exact (complements.append filtered.toList).of_operand _

/-- The default is one test, where it applies. -/
theorem Query.notDone_readsAs (plain : schema.IsPlain) (query : Query) (filter : Option Expr) :
    List.Forall₂ (ReadsAs .conjunction)
      ((if query.hidesDone (filter.map Expr.toFilter) then [.test (.priority .ne .done)]
        else []).map (Clause.render schema .standard))
      ((query.notDone filter).map Formula.test) := by
  by_cases applies : query.LeavesOutDone filter
  · have own := Test.readsAs plain (.priority .ne .done) (fun _ same => by cases same)
    rw [if_pos ((query.hidesDone_iff filter).mpr applies), notDone, if_pos applies]
    exact .cons own.single .nil
  · rw [if_neg (applies ∘ (query.hidesDone_iff filter).mp), notDone, if_neg applies]
    exact .nil

end Requirements

theorem Query.compile_direct {query : Query} {store : Store} {now : Instant}
    {filter : Option Filter} {statement : Statement} (direct : query.savedSearch = none)
    (compiled : query.compile store now filter = .ok statement) :
    ∃ vantage, Vantage.ofOffset query.offset now = .ok vantage ∧
      query.clauses vantage filter = .ok statement.clauses := by
  rw [compile, Saved.resolve, Saved.follow_direct direct] at compiled
  have resolved : query.compileResolved none now filter = .ok statement := compiled
  unfold compileResolved at resolved
  cases clock : Vantage.ofOffset query.offset now with
  | error refusal =>
    rw [clock] at resolved
    cases resolved
  | ok vantage =>
    rw [clock] at resolved
    obtain ⟨clauses, lowered, rfl⟩ := map_eq_ok.mp resolved
    exact ⟨vantage, rfl, lowered⟩

/-- **A statement selects the rows for which all that a query requires holds.** -/
theorem compile_selects_required (schema : Schema) (plain : schema.IsPlain) (query : Query)
    (store : Store) (now : Instant) (filter : Option Expr) (statement : Statement)
    (direct : query.savedSearch = none)
    (compiled : query.compile store now (filter.map Expr.toFilter) = .ok statement) :
    ∃ vantage formula, Vantage.ofOffset query.offset now = .ok vantage ∧
      SelectsAs (statement.whereText { schema }) formula ∧
      (∀ assigned, Formula.selection assigned formula =
        Truth.all (query.wanted schema vantage assigned ++ (query.notDone filter).map assigned ++
          query.narrowed schema vantage assigned filter)) ∧
      (∃ before after, Formula.requirements formula =
          before ++ (query.notDone filter).map Formula.test ++ after ∧
        ∀ assigned,
          Truth.all (before.map (Formula.value assigned)) =
            Truth.all (query.wanted schema vantage assigned) ∧
          Truth.all (after.map (Formula.value assigned)) =
            Truth.all (query.narrowed schema vantage assigned filter)) ∧
      ∀ assigned (expr : Expr), expr.value (Condition.truth schema vantage assigned) = none ↔
        expr.conditions = [] := by
  obtain ⟨vantage, clock, lowered⟩ := query.compile_direct direct compiled
  obtain ⟨before, after, split, meetsBefore, meetsAfter⟩ := Query.clauses_meet plain lowered
  obtain ⟨wanted, readsWanted, valuesWanted⟩ := meetsBefore
  obtain ⟨narrowed, readsNarrowed, valuesNarrowed⟩ := meetsAfter
  have reads : List.Forall₂ (ReadsAs .conjunction)
      (statement.clauses.map (Clause.render schema .standard))
      (wanted ++ (query.notDone filter).map Formula.test ++ narrowed) := by
    rw [split, List.map_append, List.map_append]
    exact List.rel_append (List.rel_append readsWanted (query.notDone_readsAs plain filter))
      readsNarrowed
  obtain ⟨formula, selects, requirements⟩ := Statement.whereText_selects reads
  have conjuncts : Formula.requirements formula = wanted.flatMap Formula.conjuncts ++
      (query.notDone filter).map Formula.test ++ narrowed.flatMap Formula.conjuncts := by
    rw [requirements, List.flatMap_append, List.flatMap_append, List.flatMap_map]
    exact congrArg (_ ++ · ++ _) (List.flatMap_pure_eq_map _ _)
  refine ⟨vantage, formula, clock, selects, ?_, ⟨_, _, conjuncts, ?_⟩, ?_⟩
  · intro assigned
    rw [← Formula.all_requirements, requirements, Formula.all_flatMap_conjuncts, List.map_append,
      List.map_append, ← valuesWanted, ← valuesNarrowed, List.map_map]
    rfl
  · intro assigned
    rw [Formula.all_flatMap_conjuncts, Formula.all_flatMap_conjuncts, ← valuesWanted,
      ← valuesNarrowed]
    exact ⟨rfl, rfl⟩
  · intro assigned expr
    exact Expr.value_eq_none_iff _ expr

/-- A disjunction with a vacuous part, a search text, an excluded conjunction, and a filter whose
test of the priority stands inside a negation. -/
theorem compile_selects_required_nested :
    let query : Query :=
      { text := "milk"
        included := { connective := .or, parts := [.test (.tag "home"), .junction .or [],
          .not (.test (.tag "work"))] }
        excluded := { parts := [.junction .and [.test (.tag "done"), .test (.tag "old")]] } }
    let filter : Option Expr := some (.not (.test (.compare ":priority" "=" "5")))
    let statement : Statement :=
      { clauses := [.enclosed (.chain .or [.test (.tagged "home" none),
            .complement (.test (.tagged "work" none))]),
          Condition.foundAnywhere "milk", .test (.priority .ne .done),
          .enclosed (.chain .or [.untagged "done" none, .untagged "old" none]),
          .complement (.test (.priority .eq .done))]
        savedSearch := none, options := NameSet.empty, shownColumns := [], isEmpty := false }
    Schema.IsPlain {} ∧ query.savedSearch = none ∧
      query.compile Store.empty Instant.unixEpoch (filter.map Expr.toFilter) = .ok statement ∧
      ∃ vantage formula, Vantage.ofOffset query.offset Instant.unixEpoch = .ok vantage ∧
        SelectsAs (statement.whereText { schema := {} }) formula ∧
        (∀ assigned, Formula.selection assigned formula =
          Truth.all (query.wanted {} vantage assigned ++ (query.notDone filter).map assigned ++
            query.narrowed {} vantage assigned filter)) ∧
        (∃ before after, Formula.requirements formula =
            before ++ (query.notDone filter).map Formula.test ++ after ∧
          ∀ assigned,
            Truth.all (before.map (Formula.value assigned)) =
              Truth.all (query.wanted {} vantage assigned) ∧
            Truth.all (after.map (Formula.value assigned)) =
              Truth.all (query.narrowed {} vantage assigned filter)) ∧
        ∀ assigned (expr : Expr), expr.value (Condition.truth {} vantage assigned) = none ↔
          expr.conditions = [] := by
  intro query filter statement
  have plain : Schema.IsPlain {} := Schema.default_isPlain
  have compiled : query.compile Store.empty Instant.unixEpoch (filter.map Expr.toFilter) =
      .ok statement := by
    rw [Query.compile, Saved.resolve, Saved.follow_direct rfl]
    rfl
  exact ⟨plain, rfl, compiled, compile_selects_required {} plain query Store.empty
    Instant.unixEpoch filter statement rfl compiled⟩

end TaskQuery
