/-
**Two negations around a part of a query change nothing but the default.**

A part that a query includes, or a whole filter, may be put under two negations: the query is refused
for the same reasons as before, and what it requires has the same truth values. Only the default
that hides completed tasks looks at where tests of the priority stand. It counts those outside every
negation, so it comes back where the part held the last of them.

* `Place`: where a part stands, and the query and filter with a part put there.
* `Place.IsDecisive`: a part without which nothing would keep the default away.
* `Place.selection_twiceNegated`: what the condition of the statement says with both negations.
* `compile_twiceNegated`: queries that compile, before and after.
* `twiceNegated_hides_done`: the default that comes back.
-/

import TaskQuery.Proofs.Narrowing

namespace TaskQuery

open Calendar (Instant Vantage)
open Sql
open Outcome

/-! ### Two negations -/

namespace Expr

/-- An expression under two negations. -/
def twiceNegated (expr : Expr) : Expr :=
  .not (.not expr)

theorem value_twiceNegated (truth : Condition → Truth) (expr : Expr) :
    expr.twiceNegated.value truth = expr.value truth := by
  rw [twiceNegated, value, value, Option.map_map]
  exact (congrArg (Option.map · _) (funext Truth.not_not)).trans Option.map_id'

theorem leaves_twiceNegated (expr : Expr) : expr.twiceNegated.leaves false = expr.leaves false :=
  rfl

/-- No condition of an expression under negations is outside them. -/
theorem openConditions_twiceNegated (expr : Expr) : expr.twiceNegated.openConditions = [] :=
  rfl

theorem openConditionsOfParts_append (first second : List Expr) :
    openConditionsOfParts (first ++ second) =
      openConditionsOfParts first ++ openConditionsOfParts second := by
  induction first with
  | nil => rfl
  | cons part rest inner =>
    rw [List.cons_append, openConditionsOfParts, inner, openConditionsOfParts, List.append_assoc]

end Expr

/-! ### Places -/

/-- Where a part stands: among the parts that a query includes, between some others, or as the
filter. -/
inductive Place where
  | included (before after : List Expr)
  | filter

namespace Place

/-- A query with a part at a place. -/
def query (place : Place) (query : Query) (part : Expr) : Query :=
  match place with
  | included before after =>
    { query with included := { query.included with parts := before ++ part :: after } }
  | filter => query

/-- A filter with a part at a place. -/
def filtered (place : Place) (filter : Option Expr) (part : Expr) : Option Expr :=
  match place with
  | included _ _ => filter
  | .filter => some part

/-- The conditions outside negations that stand at no place but this one. -/
def elsewhere (place : Place) (query : Query) (filter : Option Expr) : List Condition :=
  match place with
  | included before after =>
    Expr.openConditionsOfParts (before ++ after) ++ (filter.map Expr.openConditions).getD []
  | .filter => query.included.toExpr.openConditions

/-- A part at a place is all that keeps the default away: completed tasks were not asked for, and of
the tests of the priority outside negations the part holds one and nothing else does. -/
structure IsDecisive (place : Place) (query : Query) (filter : Option Expr) (part : Expr) :
    Prop where
  unasked : "w/done" ∉ query.options.names
  holds : ∃ condition ∈ part.openConditions, condition.name = ":priority"
  alone : ∀ condition ∈ place.elsewhere query filter, condition.name ≠ ":priority"

variable {place : Place} {query : Query} {filter : Option Expr} {part : Expr}

/-- The default looks at the part and at all other places. -/
theorem leavesOutDone_iff : (place.query query part).LeavesOutDone (place.filtered filter part) ↔
    "w/done" ∉ query.options.names ∧
      (∀ condition ∈ place.elsewhere query filter, condition.name ≠ ":priority") ∧
      ∀ condition ∈ part.openConditions, condition.name ≠ ":priority" := by
  have options : (place.query query part).options = query.options := by cases place <;> rfl
  have listed (condition : Condition) :
      condition ∈ (place.query query part).openConditions (place.filtered filter part) ↔
        condition ∈ place.elsewhere query filter ∨ condition ∈ part.openConditions := by
    cases place with
    | included before after =>
      have parts : (Place.query (.included before after) query part).included.toExpr.openConditions =
          Expr.openConditionsOfParts (before ++ part :: after) := rfl
      rw [Query.openConditions, parts, elsewhere, filtered, Expr.openConditionsOfParts_append,
        Expr.openConditionsOfParts, Expr.openConditionsOfParts_append]
      simp only [List.mem_append]
      tauto
    | filter => exact List.mem_append
  rw [Query.LeavesOutDone, options]
  simp only [listed, or_imp, forall_and]

/-! ### What is required -/

section Requirements

variable (schema : Schema) (vantage : Vantage) (assigned : List Piece → Truth)

theorem wanted_twiceNegated (place : Place) (query : Query) (part : Expr) :
    (place.query query part.twiceNegated).wanted schema vantage assigned =
      (place.query query part).wanted schema vantage assigned := by
  cases place with
  | included before after =>
    have values : Expr.values (Condition.truth schema vantage assigned)
          (before ++ part.twiceNegated :: after) =
        Expr.values (Condition.truth schema vantage assigned) (before ++ part :: after) := by
      rw [Expr.values_append, Expr.values, Expr.value_twiceNegated, Expr.values_append, Expr.values]
    have included : (Place.query (.included before after) query part.twiceNegated).included.toExpr.value
          (Condition.truth schema vantage assigned) =
        (Place.query (.included before after) query part).included.toExpr.value
          (Condition.truth schema vantage assigned) :=
      congrArg (Truth.combine query.included.connective) values
    rw [Query.wanted, included]
    rfl
  | filter => rfl

theorem narrowed_twiceNegated (place : Place) (query : Query) (filter : Option Expr) (part : Expr) :
    (place.query query part.twiceNegated).narrowed schema vantage assigned
        (place.filtered filter part.twiceNegated) =
      (place.query query part).narrowed schema vantage assigned (place.filtered filter part) := by
  cases place with
  | included before after => rfl
  | filter =>
    have value := Expr.value_twiceNegated (Condition.truth schema vantage assigned) part
    exact congrArg (fun added => _ ++ Option.toList added) value

end Requirements

/-! ### The default -/

/-- Nothing but the default changes, and it only where the part was decisive. -/
theorem notDone_twiceNegated (other : ¬place.IsDecisive query filter part) :
    (place.query query part.twiceNegated).notDone (place.filtered filter part.twiceNegated) =
      (place.query query part).notDone (place.filtered filter part) := by
  have same : (place.query query part.twiceNegated).LeavesOutDone
        (place.filtered filter part.twiceNegated) ↔
      (place.query query part).LeavesOutDone (place.filtered filter part) := by
    rw [leavesOutDone_iff, leavesOutDone_iff, Expr.openConditions_twiceNegated]
    refine and_congr_right fun unasked => and_congr_right fun alone => ?_
    refine iff_of_true (fun condition none => absurd none List.not_mem_nil) ?_
    exact fun condition member named => other ⟨unasked, ⟨condition, member, named⟩, alone⟩
  rw [Query.notDone, Query.notDone]
  simp only [same]

/-- Where a part was decisive, the default comes back. -/
theorem notDone_of_isDecisive (decisive : place.IsDecisive query filter part) :
    (place.query query part.twiceNegated).notDone (place.filtered filter part.twiceNegated) =
        [pieces "priority <> 5".toList] ∧
      (place.query query part).notDone (place.filtered filter part) = [] := by
  obtain ⟨condition, member, named⟩ := decisive.holds
  constructor
  · refine if_pos (leavesOutDone_iff.mpr ⟨decisive.unasked, decisive.alone, ?_⟩)
    exact fun condition none => absurd none List.not_mem_nil
  · exact if_neg fun leaves => (leavesOutDone_iff.mp leaves).2.2 condition member named

end Place

/-! ### Statements -/

namespace Query

variable {schema : Schema} {vantage : Vantage} {store : Store} {now : Instant}

/-- The condition of a statement says that all that its query requires holds. -/
theorem exists_selection (plain : schema.IsPlain) {query : Query} (filter : Option Expr)
    {statement : Statement}
    (lowered : query.clauses vantage (filter.map Expr.toFilter) = .ok statement.clauses) :
    ∃ formula, SelectsAs (statement.whereText { schema }) formula ∧ ∀ assigned,
      Formula.selection assigned formula =
        Truth.all (query.wanted schema vantage assigned ++ (query.notDone filter).map assigned ++
          query.narrowed schema vantage assigned filter) := by
  obtain ⟨before, after, split, wanted, narrowed⟩ := clauses_meet plain lowered
  have notDone : MeetsAll schema .conjunction
      (fun assigned => (query.notDone filter).map assigned)
      (if query.hidesDone (filter.map Expr.toFilter) then [.test (.priority .ne .done)] else []) :=
    ⟨_, query.notDone_readsAs plain filter, fun assigned => by rw [List.map_map]; rfl⟩
  have meets := (wanted.append notDone).append narrowed
  rw [← split] at meets
  obtain ⟨formulas, reads, values⟩ := meets
  obtain ⟨formula, selects, requirements⟩ := Statement.whereText_selects reads
  refine ⟨formula, selects, fun assigned => ?_⟩
  rw [← Formula.all_requirements, requirements, Formula.all_flatMap_conjuncts, ← values]

/-- A query without a reference is refused for its offset or as its clauses are. -/
theorem compile_refusal?_direct {query : Query} (filter : Option Filter)
    (direct : query.savedSearch = none) :
    refusal? (query.compile store now filter) =
      match Vantage.ofOffset query.offset now with
      | .error _ => some (.query (.offsetOutOfRange query.offset))
      | .ok vantage => refusal? (query.clauses vantage filter) := by
  have resolved : Saved.resolve (readAt query.offset now) store query = .ok (query, none) := by
    rw [Saved.resolve, Saved.follow_direct direct]
    rfl
  cases clock : Vantage.ofOffset query.offset now with
  | ok vantage => exact compile_refusal? filter resolved clock
  | error refusal =>
    rw [compile, resolved]
    show refusal? (query.compileResolved none now filter) = _
    rw [compileResolved, clock]
    rfl

end Query

namespace Place

variable (place : Place) (query : Query) (filter : Option Expr) (part : Expr)

/-- A part under two negations is refused for the same reasons: its leaves are the same. -/
theorem refusal?_twiceNegated (vantage : Vantage) :
    refusal? ((place.query query part.twiceNegated).clauses vantage
        ((place.filtered filter part.twiceNegated).map Expr.toFilter)) =
      refusal? ((place.query query part).clauses vantage
        ((place.filtered filter part).map Expr.toFilter)) := by
  have leaves : (place.query query part.twiceNegated).leaves none =
      (place.query query part).leaves none := by
    cases place with
    | included before after =>
      have parts : Expr.leavesOfParts false (before ++ part.twiceNegated :: after) =
          Expr.leavesOfParts false (before ++ part :: after) := by
        rw [Expr.leavesOfParts_append, Expr.leavesOfParts, Expr.leaves_twiceNegated,
          Expr.leavesOfParts_append, Expr.leavesOfParts]
      exact congrArg (fun included => included ++ _ ++ _) parts
    | filter => rfl
  have added : refusal? (Query.added vantage
        ((place.filtered filter part.twiceNegated).map Expr.toFilter)) =
      refusal? (Query.added vantage ((place.filtered filter part).map Expr.toFilter)) := by
    cases place with
    | included before after => rfl
    | filter =>
      have inner := Expr.lower_refusal? vantage false 1 part.twiceNegated
      rw [Expr.leaves_twiceNegated, ← Expr.lower_refusal? vantage false 1 part] at inner
      exact inner
  rw [Query.clauses_refusal?, leaves, added, Query.clauses_refusal?]

theorem savedSearch_query : (place.query query part).savedSearch = query.savedSearch := by
  cases place <;> rfl

theorem offset_query : (place.query query part).offset = query.offset := by
  cases place <;> rfl

/-- What the conditions of two statements say, the second with a part under two negations: the same,
or the same with the default that comes back. -/
theorem selection_twiceNegated {schema : Schema} (vantage : Vantage) {formula formula' : Option Formula}
    (selects : ∀ assigned, Formula.selection assigned formula =
      Truth.all ((place.query query part).wanted schema vantage assigned ++
        ((place.query query part).notDone (place.filtered filter part)).map assigned ++
        (place.query query part).narrowed schema vantage assigned (place.filtered filter part)))
    (selects' : ∀ assigned, Formula.selection assigned formula' =
      Truth.all ((place.query query part.twiceNegated).wanted schema vantage assigned ++
        ((place.query query part.twiceNegated).notDone
          (place.filtered filter part.twiceNegated)).map assigned ++
        (place.query query part.twiceNegated).narrowed schema vantage assigned
          (place.filtered filter part.twiceNegated))) :
    (¬place.IsDecisive query filter part → ∀ assigned,
      Formula.selection assigned formula' = Formula.selection assigned formula) ∧
    (place.IsDecisive query filter part → ∀ assigned,
      Formula.selection assigned formula' =
        (Formula.selection assigned formula).and (assigned (pieces "priority <> 5".toList))) := by
  constructor
  · intro other assigned
    rw [selects', selects, wanted_twiceNegated, narrowed_twiceNegated, notDone_twiceNegated other]
  · intro decisive assigned
    obtain ⟨back, away⟩ := notDone_of_isDecisive decisive
    rw [selects', selects, wanted_twiceNegated, narrowed_twiceNegated, back, away, List.map_nil,
      List.append_nil, List.map_singleton, Truth.all_append, Truth.all_append, Truth.all_append,
      Truth.all_cons, Truth.all_nil, Truth.and_holds, Truth.and_assoc, Truth.and_assoc]
    exact congrArg _ (Truth.and_comm _ _)

end Place

/-- **Two negations around a part of a query change nothing but the default.** The query is refused
for the same reasons; where it compiles, the condition of its statement says the same of every row
unless the part was all that kept the default away, and then the default comes back and holds
together with what the condition said before. -/
theorem compile_twiceNegated (schema : Schema) (plain : schema.IsPlain) (place : Place)
    (query : Query) (store : Store) (now : Instant) (filter : Option Expr) (part : Expr)
    (direct : query.savedSearch = none) :
    (∀ refusal,
      (place.query query part.twiceNegated).compile store now
          ((place.filtered filter part.twiceNegated).map Expr.toFilter) = .error refusal ↔
        (place.query query part).compile store now
          ((place.filtered filter part).map Expr.toFilter) = .error refusal) ∧
    ∀ statement, (place.query query part).compile store now
        ((place.filtered filter part).map Expr.toFilter) = .ok statement →
      ∃ statement' formula formula',
        (place.query query part.twiceNegated).compile store now
          ((place.filtered filter part.twiceNegated).map Expr.toFilter) = .ok statement' ∧
        SelectsAs (statement.whereText { schema }) formula ∧
        SelectsAs (statement'.whereText { schema }) formula' ∧
        (¬place.IsDecisive query filter part → ∀ assigned,
          Formula.selection assigned formula' = Formula.selection assigned formula) ∧
        (place.IsDecisive query filter part → ∀ assigned,
          Formula.selection assigned formula' =
            (Formula.selection assigned formula).and
              (assigned (pieces "priority <> 5".toList))) := by
  have direct' (part : Expr) : (place.query query part).savedSearch = none :=
    (place.savedSearch_query query part).trans direct
  have refusals : refusal? ((place.query query part.twiceNegated).compile store now
        ((place.filtered filter part.twiceNegated).map Expr.toFilter)) =
      refusal? ((place.query query part).compile store now
        ((place.filtered filter part).map Expr.toFilter)) := by
    rw [Query.compile_refusal?_direct _ (direct' _), Query.compile_refusal?_direct _ (direct' _),
      place.offset_query, place.offset_query]
    cases Vantage.ofOffset query.offset now with
    | error refusal => rfl
    | ok vantage => exact place.refusal?_twiceNegated query filter part vantage
  constructor
  · intro refusal
    rw [← refusal?_eq_some, refusals, refusal?_eq_some]
  · intro statement compiled
    obtain ⟨vantage, clock, lowered⟩ := Query.compile_direct (direct' part) compiled
    obtain ⟨statement', compiled'⟩ :=
      refusal?_eq_none.mp (refusals.trans (refusal?_eq_none.mpr ⟨statement, compiled⟩))
    obtain ⟨vantage', clock', lowered'⟩ := Query.compile_direct (direct' _) compiled'
    rw [place.offset_query] at clock clock'
    cases clock.symm.trans clock'
    obtain ⟨formula, reads, selects⟩ := Query.exists_selection plain _ lowered
    obtain ⟨formula', reads', selects'⟩ := Query.exists_selection plain _ lowered'
    exact ⟨statement', formula, formula', compiled', reads, reads',
      place.selection_twiceNegated query filter part vantage selects selects'⟩

/-- A part with a test of the priority between two others, under a filter with another such test that
keeps the default away. -/
theorem compile_twiceNegated_filtered :
    let place : Place := .included [.test (.tag "home")] [.junction .or []]
    let part : Expr := .junction .or [.test (.compare ":priority" "<" "4"), .not (.test (.tag "work"))]
    let filter : Option Expr := some (.junction .and [.test (.compare ":priority" "!=" "0")])
    let query : Query := { text := "milk", excluded := { parts := [.test (.tag "old")] } }
    let statement : Statement :=
      { clauses := [.chain .and [.test (.tagged "home" none),
            .enclosed (.chain .or [.test (.priority .lt .notes),
              .complement (.test (.tagged "work" none))])],
          Condition.foundAnywhere "milk", .untagged "old" none, .test (.priority .ne .sticky)]
        savedSearch := none, options := NameSet.empty, shownColumns := [], isEmpty := false }
    Schema.IsPlain {} ∧ query.savedSearch = none ∧
      (place.query query part).compile Store.empty Instant.unixEpoch (filter.map Expr.toFilter) =
        .ok statement ∧
      ∃ statement' formula formula',
        (place.query query part.twiceNegated).compile Store.empty Instant.unixEpoch
          (filter.map Expr.toFilter) = .ok statement' ∧
        SelectsAs (statement.whereText { schema := {} }) formula ∧
        SelectsAs (statement'.whereText { schema := {} }) formula' ∧
        ∀ assigned, Formula.selection assigned formula' = Formula.selection assigned formula := by
  intro place part filter query statement
  have plain : Schema.IsPlain {} := Schema.default_isPlain
  have compiled : (place.query query part).compile Store.empty Instant.unixEpoch
      (filter.map Expr.toFilter) = .ok statement := by
    rw [Query.compile, Saved.resolve, Saved.follow_direct rfl]
    rfl
  have notDecisive : ¬place.IsDecisive query filter part := fun decisive =>
    decisive.alone (.compare ":priority" "!=" "0") (by decide) rfl
  obtain ⟨_, compiles⟩ := compile_twiceNegated {} plain place query Store.empty Instant.unixEpoch
    filter part rfl
  obtain ⟨statement', formula, formula', compiled', reads, reads', same, _⟩ :=
    compiles statement compiled
  exact ⟨plain, rfl, compiled, statement', formula, formula', compiled', reads, reads',
    same notDecisive⟩

/-- The only test of the priority that a query has lets completed tasks be found; under two negations
the default leaves them out. -/
theorem twiceNegated_hides_done :
    let isDone : Expr := .test (.compare ":priority" "=" "5")
    let query : Expr → Query := fun part => { included := { parts := [part] } }
    ∃ statement statement' formula formula',
      (query isDone).compile Store.empty Instant.unixEpoch none = .ok statement ∧
      (query (.not (.not isDone))).compile Store.empty Instant.unixEpoch none = .ok statement' ∧
      statement.whereText {} = "WHERE priority = 5" ∧
      statement'.whereText {} = "WHERE NOT (NOT (priority = 5)) AND priority <> 5" ∧
      SelectsAs (statement.whereText {}) formula ∧ SelectsAs (statement'.whereText {}) formula' ∧
      ∃ assigned, Formula.selection assigned formula = .holds ∧
        Formula.selection assigned formula' = .fails := by
  intro isDone query
  let vantage : Vantage := { now := Instant.unixEpoch, zone := ⟨0, by decide⟩ }
  let clauses : List Clause := [.test (.priority .eq .done)]
  let clauses' : List Clause :=
    [.complement (.complement (.test (.priority .eq .done))), .test (.priority .ne .done)]
  let assigned : List Piece → Truth := fun test =>
    if test = pieces "priority <> 5".toList then .fails else .holds
  have lowered : (query isDone).clauses vantage none = .ok clauses := by rfl
  have lowered' : (query (.not (.not isDone))).clauses vantage none = .ok clauses' := by rfl
  have ⟨statement, compiled, same⟩ : ∃ statement, (query isDone).compile Store.empty
      Instant.unixEpoch none = .ok statement ∧ statement.clauses = clauses :=
    Query.exists_compiled rfl (by rfl) lowered
  have ⟨statement', compiled', same'⟩ : ∃ statement, (query (.not (.not isDone))).compile Store.empty
      Instant.unixEpoch none = .ok statement ∧ statement.clauses = clauses' :=
    Query.exists_compiled rfl (by rfl) lowered'
  rw [← same] at lowered
  rw [← same'] at lowered'
  have plain : Schema.IsPlain {} := Schema.default_isPlain
  obtain ⟨formula, reads, selects⟩ := Query.exists_selection plain none lowered
  obtain ⟨formula', reads', selects'⟩ := Query.exists_selection plain none lowered'
  refine ⟨statement, statement', formula, formula', compiled, compiled', ?_, ?_, reads, reads',
    assigned, (selects assigned).trans ?_, (selects' assigned).trans ?_⟩
  · rw [Statement.whereText, same]
    rfl
  · rw [Statement.whereText, same']
    rfl
  · decide +kernel
  · decide +kernel

end TaskQuery
