/-
**A condition that is added to a query never widens its result.**

A query followed by a tag, a comparison of a tag, an exclusion or a date compiles if the query
itself does, and its statement selects no row that the statement of the query does not select. The
added text is read by itself and leaves the free text and the options alone, it constrains no
priority, so the default stays as it is, and what it says holds together with everything else that
is required, wherever its clause comes to stand.

* `ReadsAs.exists_under_and`: how a condition after an `AND` bears on what stands before it.
* `Query.clauses_required`: the clauses of a query are those of what it requires, and a filter's.
* `Query.AddsConditions.compile_append`: a query with conditions added selects no other rows.
* `Query.IsNarrowing`, `compileText_narrowed`: the same of a text and one item after it.
-/

import TaskQuery.Proofs.Query.Concatenation
import TaskQuery.Proofs.Query.Fields

namespace TaskQuery

open Calendar (Instant Vantage)
open Sql
open Outcome

/-! ### A condition after an `AND` -/

namespace Sql

/-- Two conjunctions under `AND` hold together. -/
theorem Reads.exists_and_value {left right : List Piece} {first second : Formula}
    (head : Reads .conjunction left first) (tail : Reads .conjunction right second) :
    ∃ both, Reads .conjunction (left ++ .and :: right) both ∧
      ∀ assigned, both.value assigned = (first.value assigned).and (second.value assigned) := by
  obtain ⟨both, reads, listed⟩ := head.exists_and tail
  refine ⟨both, reads, fun assigned => ?_⟩
  rw [← Formula.value_conjuncts, listed, List.map_append, Truth.all_append,
    Formula.value_conjuncts, Formula.value_conjuncts]

/-- Of a condition after an `AND`, only what stands before its first `OR` holds together with what
precedes it. -/
theorem Reads.exists_under_and {right : List Piece} {last : Formula}
    (tail : Reads .condition right last) :
    ∃ near far : (List Piece → Truth) → Truth,
      (∀ assigned, last.value assigned = (near assigned).or (far assigned)) ∧
      ∀ {left : List Piece} {first : Formula}, Reads .conjunction left first →
        ∃ both, Reads .condition (left ++ .and :: right) both ∧ ∀ assigned,
          both.value assigned =
            ((first.value assigned).and (near assigned)).or (far assigned) := by
  cases tail with
  | conjunction inner =>
    refine ⟨last.value, fun _ => .fails, fun assigned => (Truth.or_fails _).symm, fun head => ?_⟩
    obtain ⟨both, reads, value⟩ := head.exists_and_value inner
    exact ⟨both, .conjunction reads, fun assigned => by rw [value, Truth.or_fails]⟩
  | @or _ _ near far head tail =>
    refine ⟨near.value, far.value, fun _ => rfl, fun before => ?_⟩
    obtain ⟨both, reads, value⟩ := before.exists_and_value head
    refine ⟨.or both far, ?_, fun assigned => by rw [Formula.value, value]⟩
    have whole := Reads.or reads tail
    rwa [List.append_assoc] at whole

theorem ReadsAs.exists_under_and {right : String} {last : Formula}
    (tail : ReadsAs .condition right last) :
    ∃ near far : (List Piece → Truth) → Truth,
      (∀ assigned, last.value assigned = (near assigned).or (far assigned)) ∧
      ∀ {left : String} {first : Formula}, ReadsAs .conjunction left first →
        ∃ both, ReadsAs .condition (left ++ " AND " ++ right) both ∧ ∀ assigned,
          both.value assigned =
            ((first.value assigned).and (near assigned)).or (far assigned) := by
  obtain ⟨near, far, alone, joined⟩ := (readsAs_iff.mp tail).exists_under_and
  refine ⟨near, far, alone, fun head => ?_⟩
  obtain ⟨both, reads, value⟩ := joined (readsAs_iff.mp head)
  have spelled := pieces_connective .and right head.closed
  exact ⟨both, readsAs_iff.mpr (spelled ▸ reads), value⟩

end Sql

/-! ### Filters -/

variable {schema : Schema} {vantage : Vantage}

/-- What a filter adds is a condition of some kind, which need not hold together as an operand
does. -/
def Filter.IsCondition (schema : Schema) (filter : Filter) : Prop :=
  ∀ vantage clause, filter.lower vantage false 1 = .ok (some clause) →
    ∃ formula, ReadsAs .condition (clause.render schema .standard) formula

/-- What an expression adds is a condition. -/
theorem Expr.toFilter_isCondition (plain : schema.IsPlain) (expr : Expr) :
    expr.toFilter.IsCondition schema := by
  intro vantage clause lowered
  obtain ⟨formula, reads, _⟩ := Expr.lower_meets plain expr lowered
  exact ⟨formula, reads.condition⟩

theorem Query.added_isCondition {filter : Option Filter} {added : Option Clause}
    (conditional : ∀ filter' ∈ filter, filter'.IsCondition schema)
    (read : Query.added vantage filter = .ok added) :
    ∀ clause ∈ added, ∃ formula, ReadsAs .condition (clause.render schema .standard) formula := by
  intro clause member
  cases filter with
  | none =>
    cases read
    cases member
  | some filter =>
    cases member
    exact conditional filter rfl vantage clause read

/-- The condition of a statement whose clauses are some that hold together and at most one of a
filter: the filter decides how the others bear on it. -/
theorem Statement.exists_selects {added : Option Clause}
    (condition : ∀ clause ∈ added,
      ∃ formula, ReadsAs .condition (clause.render schema .standard) formula) :
    ∃ near far : (List Piece → Truth) → Truth, ∀ (statement : Statement) front truths,
      statement.clauses = front ++ added.toList → MeetsAll schema .conjunction truths front →
        ∃ formula, SelectsAs (statement.whereText { schema }) formula ∧ ∀ assigned,
          Formula.selection assigned formula =
            ((Truth.all (truths assigned)).and (near assigned)).or (far assigned) := by
  cases added with
  | none =>
    refine ⟨fun _ => .holds, fun _ => .fails, fun statement front truths split meets => ?_⟩
    obtain ⟨formulas, reads, values⟩ := meets
    rw [Option.toList_none, List.append_nil] at split
    obtain ⟨formula, selects, requirements⟩ := Statement.whereText_selects (split ▸ reads)
    refine ⟨formula, selects, fun assigned => ?_⟩
    rw [← Formula.all_requirements, requirements, Formula.all_flatMap_conjuncts, ← values,
      Truth.and_holds, Truth.or_fails]
  | some clause =>
    obtain ⟨last, readsLast⟩ := condition clause rfl
    obtain ⟨near, far, alone, joined⟩ := readsLast.exists_under_and
    refine ⟨near, far, fun statement front truths split meets => ?_⟩
    obtain ⟨formulas, reads, values⟩ := meets
    have written : statement.whereText { schema } = "WHERE " ++ String.intercalate " AND "
        (front.map (Clause.render schema .standard) ++ [clause.render schema .standard]) := by
      have some : ¬statement.clauses.isEmpty = true := by simp [split]
      rw [Statement.whereText, if_neg some, split, List.map_append]
      rfl
    cases front with
    | nil =>
      cases reads
      refine ⟨some last, ⟨_, written, ?_⟩, fun assigned => ?_⟩
      · rw [List.map_nil, List.nil_append, String.intercalate_singleton]
        exact readsLast
      · rw [values, List.map_nil, Truth.all_nil, Truth.holds_and]
        exact alone assigned
    | cons first rest =>
      cases reads with
      | cons head tail =>
        obtain ⟨whole, readsWhole, conjuncts⟩ := exists_readsAs_intercalate head tail
        obtain ⟨both, readsBoth, value⟩ := joined readsWhole
        refine ⟨some both, ⟨_, written, ?_⟩, fun assigned => ?_⟩
        · rw [List.map_cons, String.intercalate_append_of_ne_nil (List.cons_ne_nil _ _)
            (List.cons_ne_nil _ _), String.intercalate_singleton]
          exact readsBoth
        · have together : Truth.all (truths assigned) = whole.value assigned := by
            rw [values, ← Formula.all_flatMap_conjuncts, ← conjuncts, Formula.value_conjuncts]
          rw [together]
          exact value assigned

/-! ### What a query requires besides a filter -/

namespace Query

/-- What a query requires of a row besides a filter: what it asks for, the default if it applies
with the filter, and the complement of what it excludes. -/
def required (query : Query) (schema : Schema) (vantage : Vantage) (filter : Option Filter)
    (assigned : List Piece → Truth) : List Truth :=
  query.wanted schema vantage assigned ++
    (if query.hidesDone filter then [assigned ((Test.priority .ne .done).written schema)] else []) ++
    query.narrowed schema vantage assigned none

/-- The clauses of a query are those of what it requires and the clause of a filter. -/
theorem clauses_required (plain : schema.IsPlain) {query : Query} {filter : Option Filter}
    {clauses : List Clause} (lowered : query.clauses vantage filter = .ok clauses) :
    ∃ front added, clauses = front ++ added.toList ∧ Query.added vantage filter = .ok added ∧
      MeetsAll schema .conjunction (query.required schema vantage filter) front := by
  obtain ⟨asked, excluded, added, rfl, readAdded, meets, complements⟩ := clauses_split plain lowered
  have hidden : MeetsAll schema .conjunction
      (fun assigned => if query.hidesDone filter then
        [assigned ((Test.priority .ne .done).written schema)] else [])
      (if query.hidesDone filter then [.test (.priority .ne .done)] else []) := by
    split
    · have own := Test.readsAs plain (.priority .ne .done) (fun _ same => by cases same)
      exact ⟨_, .cons own.single .nil, fun _ => rfl⟩
    · exact .nil fun _ => rfl
  refine ⟨_, added, rfl, readAdded, ?_⟩
  refine ((meets.append hidden).append (complements.of_operand _)).congr fun assigned => ?_
  rw [required, narrowed, Option.bind_none, Option.toList_none, List.append_nil]

/-- A row is as a query requires exactly if every part that the query includes holds, its text is
found, the default holds where it applies, and every part that it excludes fails. -/
theorem all_required_iff {query : Query} {filter : Option Filter} {assigned : List Piece → Truth}
    (conjunction : query.included.connective = .and) :
    Truth.all (query.required schema vantage filter assigned) = .holds ↔
      (∀ truth ∈ Expr.values (Condition.truth schema vantage assigned) query.included.parts,
        truth = .holds) ∧
      (query.text ≠ "" → (assigned ((Test.found .title query.text).written schema)).or
        (assigned ((Test.found .body query.text).written schema)) = .holds) ∧
      (query.hidesDone filter = true →
        assigned ((Test.priority .ne .done).written schema) = .holds) ∧
      ∀ truth ∈ Expr.values (Condition.truth schema vantage assigned) query.excluded.parts,
        truth.not = .holds := by
  have included : Truth.all (query.included.toExpr.value
      (Condition.truth schema vantage assigned)).toList =
        Truth.all (Expr.values (Condition.truth schema vantage assigned) query.included.parts) := by
    rw [Junction.toExpr, conjunction, Expr.value]
    cases Expr.values (Condition.truth schema vantage assigned) query.included.parts with
    | nil => rfl
    | cons truth rest => exact Truth.and_holds _
  rw [required, wanted, narrowed, Truth.all_append, Truth.all_append, Truth.all_append,
    Truth.all_append, included]
  simp only [Truth.and_eq_holds_iff, Truth.all_eq_holds_iff, and_assoc]
  refine and_congr_right fun _ => and_congr ?_ (and_congr ?_ ?_)
  · by_cases empty : query.text = "" <;> simp [empty]
  · by_cases hides : query.hidesDone filter = true <;> simp [hides]
  · simp

end Query

/-! ### Adding conditions -/

theorem Expr.values_append (truth : Condition → Truth) (first second : List Expr) :
    Expr.values truth (first ++ second) = Expr.values truth first ++ Expr.values truth second := by
  induction first with
  | nil => rfl
  | cons part rest inner => rw [List.cons_append, Expr.values, inner, Expr.values, List.append_assoc]

theorem Expr.leavesOfParts_append (negated : Bool) (first second : List Expr) :
    Expr.leavesOfParts negated (first ++ second) =
      Expr.leavesOfParts negated first ++ Expr.leavesOfParts negated second := by
  induction first with
  | nil => rfl
  | cons part rest inner =>
    rw [List.cons_append, Expr.leavesOfParts, inner, Expr.leavesOfParts, List.append_assoc]

namespace Query

/-- A query that adds conditions to another one, none of them on the priority, and nothing else that
changes which tasks are selected. -/
structure AddsConditions (query : Query) : Prop where
  text : query.text = ""
  options : query.options = NameSet.empty
  savedSearch : query.savedSearch = none
  priority : query.included.constrainsPriority = false

variable {query more : Query} {filter : Option Filter}

namespace AddsConditions

theorem text_append (adds : more.AddsConditions) (query : Query) :
    (query.append more).text = query.text := by
  rw [append, adds.text]
  exact joinText_empty query.text

theorem hidesDone_append (adds : more.AddsConditions) (query : Query) (filter : Option Filter) :
    (query.append more).hidesDone filter = query.hidesDone filter := by
  have options : (query.append more).options = query.options := by
    refine NameSet.eq_of_mem_iff fun name => NameSet.mem_union.trans ?_
    rw [adds.options]
    exact or_iff_left List.not_mem_nil
  have included : (query.append more).included.constrainsPriority =
      query.included.constrainsPriority := by
    have own : Expr.anyConstrainsPriority more.included.parts = false := adds.priority
    show Expr.anyConstrainsPriority (query.included.parts ++ more.included.parts) =
      Expr.anyConstrainsPriority query.included.parts
    rw [Expr.anyConstrainsPriority_eq] at own ⊢
    rw [List.any_append, own, Bool.or_false, Expr.anyConstrainsPriority_eq]
  rw [hidesDone, hidesDone, included, hasOption, hasOption, options]

/-- The leaves of a query with conditions added are its own and the added ones. -/
theorem mem_leaves_append (adds : more.AddsConditions) {leaf : Leaf}
    (member : leaf ∈ (query.append more).leaves none) :
    leaf ∈ query.leaves none ∨ leaf ∈ more.leaves none := by
  have included : (query.append more).included.toExpr.leaves false =
      query.included.toExpr.leaves false ++ more.included.toExpr.leaves false :=
    Expr.leavesOfParts_append false _ _
  have excluded : Expr.leavesOfParts true (query.append more).excluded.parts =
      Expr.leavesOfParts true query.excluded.parts ++ Expr.leavesOfParts true more.excluded.parts :=
    Expr.leavesOfParts_append true _ _
  rw [leaves, wantedLeaves, narrowedLeaves, included, excluded, adds.text_append] at member
  simp only [leaves, wantedLeaves, narrowedLeaves, List.mem_append] at member ⊢
  tauto

/-- A query with conditions added is not refused if neither it nor an added condition is. -/
theorem clauses_append (adds : more.AddsConditions)
    (unrefused : (more.leaves none).findSome? (fun leaf => refusal? (leaf.lower vantage)) = none)
    {clauses : List Clause} (lowered : query.clauses vantage filter = .ok clauses) :
    ∃ both, (query.append more).clauses vantage filter = .ok both := by
  have own := refusal?_eq_none.mpr ⟨clauses, lowered⟩
  rw [clauses_refusal?, Option.or_eq_none_iff] at own
  refine refusal?_eq_none.mp ?_
  rw [clauses_refusal?, Option.or_eq_none_iff]
  refine ⟨List.findSome?_eq_none_iff.mpr fun leaf member => ?_, own.2⟩
  rcases adds.mem_leaves_append member with member | member
  · exact List.findSome?_eq_none_iff.mp own.1 leaf member
  · exact List.findSome?_eq_none_iff.mp unrefused leaf member

/-- What a query with conditions added requires, the query requires. -/
theorem required_append (adds : more.AddsConditions)
    (conjunction : query.included.connective = .and) {assigned : List Piece → Truth}
    (holds : Truth.all ((query.append more).required schema vantage filter assigned) = .holds) :
    Truth.all (query.required schema vantage filter assigned) = .holds := by
  have whole : (query.append more).included.connective = .and := conjunction
  obtain ⟨included, found, hidden, excluded⟩ := (all_required_iff whole).mp holds
  rw [adds.text_append] at found
  rw [adds.hidesDone_append] at hidden
  refine (all_required_iff conjunction).mpr ⟨fun truth member => ?_, found, hidden,
    fun truth member => ?_⟩
  · refine included truth ?_
    show truth ∈ Expr.values _ (query.included.parts ++ more.included.parts)
    rw [Expr.values_append]
    exact List.mem_append_left _ member
  · refine excluded truth ?_
    show truth ∈ Expr.values _ (query.excluded.parts ++ more.excluded.parts)
    rw [Expr.values_append]
    exact List.mem_append_left _ member

/-- A query that compiles still does with conditions added, and then selects no other rows. -/
theorem compile_append (plain : schema.IsPlain) (adds : more.AddsConditions)
    (unrefused : ∀ vantage, (more.leaves none).findSome? (fun leaf =>
      refusal? (leaf.lower vantage)) = none)
    {store : Store} {now : Instant} {statement : Statement}
    (conjunction : query.included.connective = .and) (direct : query.savedSearch = none)
    (offset : more.offset = query.offset)
    (conditional : ∀ added ∈ filter, added.IsCondition schema)
    (compiled : query.compile store now filter = .ok statement) :
    ∃ narrowed formula formula', (query.append more).compile store now filter = .ok narrowed ∧
      SelectsAs (statement.whereText { schema }) formula ∧
      SelectsAs (narrowed.whereText { schema }) formula' ∧
      ∀ assigned, Formula.selection assigned formula' = .holds →
        Formula.selection assigned formula = .holds := by
  obtain ⟨vantage, clock, lowered⟩ := compile_direct direct compiled
  obtain ⟨clauses, lowered'⟩ := adds.clauses_append (unrefused vantage) lowered
  have direct' : (query.append more).savedSearch = none := by
    rw [append, direct, adds.savedSearch]
    rfl
  have clock' : Vantage.ofOffset (query.append more).offset now = .ok vantage := by
    rw [append, offset, clock]
  obtain ⟨narrowed, compiled', rfl⟩ := exists_compiled direct' clock' lowered'
  -- Both statements end in the clause of the filter.
  obtain ⟨front, added, split, readAdded, meets⟩ := clauses_required plain lowered
  obtain ⟨front', added', split', readAdded', meets'⟩ := clauses_required plain lowered'
  cases readAdded.symm.trans readAdded'
  obtain ⟨near, far, selects⟩ := Statement.exists_selects (added_isCondition conditional readAdded)
  obtain ⟨formula, selected, value⟩ := selects statement front _ split meets
  obtain ⟨formula', selected', value'⟩ := selects narrowed front' _ split' meets'
  refine ⟨narrowed, formula, formula', compiled', selected, selected', fun assigned holds => ?_⟩
  rw [value', Truth.or_eq_holds_iff, Truth.and_eq_holds_iff] at holds
  rw [value, Truth.or_eq_holds_iff, Truth.and_eq_holds_iff]
  exact holds.imp_left (And.imp_left (adds.required_append conjunction))

end AddsConditions

end Query

/-! ### Items that narrow a query -/

/-- The conditions that a narrowing item requires and excludes: a tag with or without a comparison,
a date, or an excluded tag. -/
inductive Narrows : List Condition → List Condition → Prop where
  | tag {condition : Condition} (onTag : condition.isField = false) : Narrows [condition] []
  | date (written : String) (time : Instant) (frequency : Option Frequency) :
      Narrows [.isDue written time frequency] []
  | exclusion (condition : Condition) : Narrows [] [condition]

/-- No condition of a narrowing item is on the priority. -/
theorem Narrows.constrainsPriority {included excluded : List Condition}
    (narrows : Narrows included excluded) : (Junction.all included).constrainsPriority = false := by
  cases narrows with
  | @tag condition onTag =>
    have other : condition.constrainsPriority = false := by
      refine beq_eq_false_iff_ne.mpr fun named => ?_
      cases onTag.symm.trans (Condition.isField_of_colon (show _ = ":" ++ "priority" from named))
    exact (Bool.or_false _).trans other
  | date written time frequency => rfl
  | exclusion condition => rfl

theorem Condition.WellFormed.isTag {condition : Condition} (wellFormed : condition.WellFormed)
    (onTag : condition.isField = false) : IsTag condition.name := by
  rcases wellFormed.name with isTag | ⟨field, named, _⟩
  · exact isTag
  · cases onTag.symm.trans (Condition.isField_of_colon named)

/-- A query that consists of one narrowing item. -/
structure Query.IsNarrowing (query : Query) : Prop where
  text : query.text = ""
  options : query.options = NameSet.empty
  savedSearch : query.savedSearch = none
  conditions : ∃ included excluded, Narrows included excluded ∧
    query.included = .all included ∧ query.excluded = .all excluded

namespace Query.IsNarrowing

variable {query : Query}

theorem addsConditions (narrowing : query.IsNarrowing) : query.AddsConditions where
  text := narrowing.text
  options := narrowing.options
  savedSearch := narrowing.savedSearch
  priority := by
    obtain ⟨included, _, narrows, same, _⟩ := narrowing.conditions
    rw [same]
    exact narrows.constrainsPriority

/-- The condition of a narrowing item that has been read is not refused. -/
theorem unrefused (narrowing : query.IsNarrowing) (wellFormed : query.WellFormed)
    (vantage : Vantage) :
    (query.leaves none).findSome? (fun leaf => refusal? (leaf.lower vantage)) = none := by
  obtain ⟨included, excluded, narrows, required, denied⟩ := narrowing.conditions
  obtain ⟨conditions, same, areIncluded⟩ := wellFormed.included
  obtain ⟨conditions', same', areExcluded⟩ := wellFormed.excluded
  obtain rfl : conditions = included := by
    rw [← Junction.conditions_all conditions, ← same, required, Junction.conditions_all]
  obtain rfl : conditions' = excluded := by
    rw [← Junction.conditions_all conditions', ← same', denied, Junction.conditions_all]
  have split : query.leaves none = Expr.leavesOfParts false (conditions.map .test) ++
      Expr.leavesOfParts true (conditions'.map .test) := by
    rw [leaves, wantedLeaves, narrowedLeaves, narrowing.text, required, denied, if_pos rfl,
      List.append_nil]
    exact congrArg (_ ++ ·) (List.append_nil _)
  rw [split, Expr.leavesOfParts_test, Expr.leavesOfParts_test]
  cases narrows with
  | @tag condition onTag =>
    have tested := areIncluded condition (List.mem_singleton_self _)
    exact List.findSome?_singleton.trans (tested.lower_tag (tested.isTag onTag) vantage false)
  | date written time frequency =>
    have lowered := Condition.lower_isDue vantage time frequency written
    exact List.findSome?_singleton.trans (congrArg refusal? lowered)
  | exclusion condition =>
    obtain ⟨tested, isTag⟩ := areExcluded condition (List.mem_singleton_self _)
    exact List.findSome?_singleton.trans (tested.lower_tag isTag vantage true)

end Query.IsNarrowing

/-! ### Texts -/

namespace Query

variable {hours : Int} {now : Instant} {text : String} {query : Query}

/-- A text that is read is read from a vantage. -/
theorem ofText_eq_ok (reads : ofText hours now text = .ok query) :
    ∃ vantage, Vantage.ofOffset hours now = .ok vantage ∧ query = read vantage text := by
  cases clock : Vantage.ofOffset hours now with
  | error refusal =>
    rw [ofText, clock] at reads
    cases reads
  | ok vantage =>
    rw [ofText_eq clock] at reads
    exact ⟨vantage, rfl, (Except.ok.inj reads).symm⟩

/-- A text compiles as the query that it writes. -/
theorem compileText_of_reads (reads : ofText hours now text = .ok query) (store : Store)
    (filter : Option Filter) : compileText hours text store now filter =
      query.compile store now filter := by
  rw [compileText, readAt, reads]
  rfl

end Query

/-- **A condition that is added to a query never widens its result.** Where a query without payloads
and without a reference compiles, it still compiles with a space and a narrowing item after it, and
the row for which the longer statement holds is a row for which the shorter one does. -/
theorem compileText_narrowed (schema : Schema) (plain : schema.IsPlain) (hours : Int)
    (now : Instant) (text item : String) (store : Store) (filter : Option Filter)
    (query one : Query) (statement : Statement)
    (conditional : ∀ added ∈ filter, added.IsCondition schema)
    (reads : Query.ofText hours now text = .ok query) (noExtra : query.extra = none)
    (noCommand : query.command = none) (direct : query.savedSearch = none)
    (readsItem : Query.ofText hours now item = .ok one) (narrowing : one.IsNarrowing)
    (compiled : Query.compileText hours text store now filter = .ok statement) :
    ∃ narrowed formula formula',
      Query.compileText hours (text ++ " " ++ item) store now filter = .ok narrowed ∧
      SelectsAs (statement.whereText { schema }) formula ∧
      SelectsAs (narrowed.whereText { schema }) formula' ∧
      ∀ assigned, Formula.selection assigned formula' = .holds →
        Formula.selection assigned formula = .holds := by
  obtain ⟨vantage, here, rfl⟩ := Query.ofText_eq_ok reads
  obtain rfl : one = Query.read vantage item :=
    (Except.ok.inj ((Query.ofText_eq here item).symm.trans readsItem)).symm
  have blank : ∀ c ∈ " ".toList, Text.isBlank c = true := by simpa using Text.isBlank_space
  -- The longer text is read as the query with the condition added.
  have readsWhole : Query.ofText hours now (text ++ " " ++ item) =
      .ok ((Query.read vantage text).append (Query.read vantage item)) := by
    rw [Query.ofText_eq here, Query.read_append vantage item (Option.map_eq_none_iff.mp noExtra)
      (Option.map_eq_none_iff.mp noCommand) (by decide) blank]
  rw [Query.compileText_of_reads reads] at compiled
  rw [Query.compileText_of_reads readsWhole]
  exact narrowing.addsConditions.compile_append plain
    (narrowing.unrefused (Query.read_wellFormed vantage item)) rfl direct rfl conditional compiled

/-- A comparison after a shown tag and an exclusion, under a filter that is a disjunction. -/
theorem compileText_narrowed_disjunction :
    let filter : Filter := (Expr.junction .or [.test (.tag "a"), .test (.tag "b")]).toFilter
    Schema.IsPlain {} ∧ (∀ added ∈ some filter, added.IsCondition {}) ∧
      ∃ query one statement, Query.ofText 2 Instant.unixEpoch "milk #home! -#work" = .ok query ∧
        query.extra = none ∧ query.command = none ∧ query.savedSearch = none ∧
        Query.ofText 2 Instant.unixEpoch "@size>=2" = .ok one ∧ one.IsNarrowing ∧
        Query.compileText 2 "milk #home! -#work" Store.empty Instant.unixEpoch (some filter) =
          .ok statement ∧
        ∃ narrowed formula formula',
          Query.compileText 2 ("milk #home! -#work" ++ " " ++ "@size>=2") Store.empty
            Instant.unixEpoch (some filter) = .ok narrowed ∧
          SelectsAs (statement.whereText { schema := {} }) formula ∧
          SelectsAs (narrowed.whereText { schema := {} }) formula' ∧
          ∀ assigned, Formula.selection assigned formula' = .holds →
            Formula.selection assigned formula = .holds := by
  intro filter
  let vantage : Vantage := { now := Instant.unixEpoch, zone := ⟨2, by decide⟩ }
  let query := Query.read vantage "milk #home! -#work"
  let one := Query.read vantage "@size>=2"
  have plain : Schema.IsPlain {} := Schema.default_isPlain
  have here : Vantage.ofOffset 2 Instant.unixEpoch = .ok vantage := by rfl
  have conditional : ∀ added ∈ some filter, added.IsCondition {} := by
    rintro _ ⟨⟩
    exact Expr.toFilter_isCondition plain _
  have reads : Query.ofText 2 Instant.unixEpoch "milk #home! -#work" = .ok query :=
    Query.ofText_eq here _
  have readsItem : Query.ofText 2 Instant.unixEpoch "@size>=2" = .ok one := Query.ofText_eq here _
  have noExtra : query.extra = none := by decide +kernel
  have noCommand : query.command = none := by decide +kernel
  have direct : query.savedSearch = none := by decide +kernel
  have single : items vantage (tokenize "@size>=2").tokens =
      [.require (.compare "size" ">=" "2") false] := by decide +kernel
  have included : one.included = .all [.compare "size" ">=" "2"] :=
    congrArg (fun found : List Item => Junction.all (found.filterMap Item.required?)) single
  have excluded : one.excluded = .all [] :=
    congrArg (fun found : List Item => Junction.all (found.filterMap Item.excluded?)) single
  have narrowing : one.IsNarrowing := {
    text := by decide +kernel
    options := by decide +kernel
    savedSearch := by decide +kernel
    conditions := ⟨_, _, .tag (by rfl), included, excluded⟩ }
  obtain ⟨clauses, lowered⟩ : ∃ clauses, query.clauses vantage (some filter) = .ok clauses :=
    refusal?_eq_none.mp (by decide +kernel)
  have ⟨statement, compiled, _⟩ : ∃ statement, query.compile Store.empty Instant.unixEpoch
      (some filter) = .ok statement ∧ statement.clauses = clauses :=
    Query.exists_compiled direct here lowered
  have compiledText := (Query.compileText_of_reads reads Store.empty (some filter)).trans compiled
  exact ⟨plain, conditional, query, one, statement, reads, noExtra, noCommand, direct, readsItem,
    narrowing, compiledText, compileText_narrowed {} plain 2 Instant.unixEpoch "milk #home! -#work"
      "@size>=2" Store.empty (some filter) query one statement conditional reads noExtra noCommand
      direct readsItem narrowing compiledText⟩

end TaskQuery
