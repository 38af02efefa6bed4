/-
**Lowering is all or nothing.**

The leaves of an expression are its conditions from left to right, each with whether its complement
is asked for. The first refused leaf refuses the whole expression. An expression without leaves puts
no constraint, and any other one is lowered to one clause, whose text is put together from the texts
of its leaves: each of them once, in order, with nothing but connectives and parentheses around
them. The clauses of a statement are put together from the leaves of its query in the same way.

* `Expr.leaves`, `Query.wantedLeaves`, `Query.narrowedLeaves`: the leaves.
* `Expr.lower_refusal?`: the first refused leaf decides the refusal.
* `Expr.lower_assembled`: the clause of an expression is put together from its leaves.
* `lowered_leaf_by_leaf`: both of expressions and of statements.
-/

import TaskQuery.Proofs.Sql.Selection

namespace TaskQuery

open Calendar (Instant Vantage)
open Sql
open Outcome

/-! ### Leaves -/

/-- A condition of an expression, and whether its complement is asked for. -/
structure Leaf where
  condition : Condition
  negated : Bool := false

namespace Leaf

/-- The clause of a leaf by itself. -/
def lower (leaf : Leaf) (vantage : Vantage) : Except CompileError Clause :=
  leaf.condition.lower vantage leaf.negated

/-- A leaf is refused for a reason. -/
def Refused (vantage : Vantage) (leaf : Leaf) (refusal : CompileError) : Prop :=
  leaf.lower vantage = .error refusal

end Leaf

mutual

/-- The leaves of an expression, or of its complement, from left to right. A complement reaches the
parts of a junction; within a negation nothing is left of it. -/
def Expr.leaves (negated : Bool) : Expr → List Leaf
  | .test condition => [{ condition, negated }]
  | .junction _ parts => Expr.leavesOfParts negated parts
  | .not inner => inner.leaves false

def Expr.leavesOfParts (negated : Bool) : List Expr → List Leaf
  | [] => []
  | part :: rest => part.leaves negated ++ Expr.leavesOfParts negated rest

end

mutual

/-- The leaves are the conditions of the expression, whichever complements are asked for. -/
theorem Expr.map_leaves (negated : Bool) : ∀ expr : Expr,
    (expr.leaves negated).map Leaf.condition = expr.conditions
  | .test _ => rfl
  | .junction _ parts => Expr.map_leavesOfParts negated parts
  | .not inner => Expr.map_leaves false inner

theorem Expr.map_leavesOfParts (negated : Bool) : ∀ parts : List Expr,
    (Expr.leavesOfParts negated parts).map Leaf.condition = Expr.conditionsOfParts parts
  | [] => rfl
  | part :: rest => by
    rw [Expr.leavesOfParts, Expr.conditionsOfParts, List.map_append, Expr.map_leaves negated part,
      Expr.map_leavesOfParts negated rest]

end

/-! ### Refusals -/

namespace Condition

variable {condition : Condition} {vantage : Vantage}

/-- A condition and its complement are refused for the same reasons. -/
theorem lower_refusal? (condition : Condition) (vantage : Vantage) (negated : Bool) :
    refusal? (condition.lower vantage negated) = refusal? (condition.lower vantage false) := by
  unfold lower
  split
  · rw [refusal?_map, refusal?_map]
  · unfold lowerTag
    dsimp only
    split
    · rfl
    · rw [refusal?_map, refusal?_map]

end Condition

theorem Leaf.firstRefused_iff {vantage : Vantage} {leaves : List Leaf} {refusal : CompileError} :
    FirstRefused (Leaf.Refused vantage) leaves refusal ↔
      leaves.findSome? (fun leaf => refusal? (leaf.lower vantage)) = some refusal :=
  Outcome.firstRefused_iff fun _ _ => refusal?_eq_some

theorem Leaf.unrefused_iff {vantage : Vantage} {leaves : List Leaf} :
    (∀ leaf ∈ leaves, ∀ other, ¬leaf.Refused vantage other) ↔
      leaves.findSome? (fun leaf => refusal? (leaf.lower vantage)) = none :=
  Outcome.unrefused_iff fun _ _ => refusal?_eq_some

mutual

/-- The first refused leaf of an expression decides its refusal, at every depth. -/
theorem Expr.lower_refusal? (vantage : Vantage) (negated : Bool) (depth : Nat) : ∀ expr : Expr,
    refusal? (expr.lower vantage negated depth) =
      (expr.leaves negated).findSome? fun leaf => refusal? (leaf.lower vantage)
  | .test condition => by
    rw [Expr.lower, refusal?_map, Expr.leaves, List.findSome?_singleton]
    rfl
  | .junction connective parts => by
    rw [Expr.lower, refusal?_map, Expr.leaves]
    exact Expr.lowerParts_refusal? vantage negated (depth + 1) parts
  | .not inner => by
    -- The inner expression is lowered unnegated in either case, only the depth differs.
    rw [Expr.lower, Expr.leaves]
    split
    · exact Expr.lower_refusal? vantage false depth inner
    · rw [refusal?_map]
      exact Expr.lower_refusal? vantage false 0 inner

theorem Expr.lowerParts_refusal? (vantage : Vantage) (negated : Bool) (depth : Nat) :
    ∀ parts : List Expr, refusal? (Expr.lowerParts vantage negated depth parts) =
      (Expr.leavesOfParts negated parts).findSome? fun leaf => refusal? (leaf.lower vantage)
  | [] => rfl
  | part :: rest => by
    have later := Expr.lowerParts_refusal? vantage negated depth rest
    rw [Expr.lowerParts, Expr.leavesOfParts, List.findSome?_append,
      ← Expr.lower_refusal? vantage negated depth part, ← later]
    exact refusal?_bind fun _ _ => refusal?_map _ _

end

/-! ### Fragments -/

/-- A text is put together from some fragments: they stand in it in order, each once, and all else
are connectives and parentheses. -/
inductive Assembled : List String → String → Prop where
  | fragment (text : String) : Assembled [text] text
  | chain (connective : Connective) {first : List String} {text : String}
      {later : List (List String)} {texts : List String} (head : Assembled first text)
      (tail : List.Forall₂ Assembled later texts) :
      Assembled (first ++ later.flatten)
        (String.intercalate (" " ++ connective.keyword ++ " ") (text :: texts))
  | enclosed {fragments : List String} {text : String} (inner : Assembled fragments text) :
      Assembled fragments ("(" ++ text ++ ")")
  | complement {fragments : List String} {text : String} (inner : Assembled fragments text) :
      Assembled fragments ("NOT (" ++ text ++ ")")

theorem Assembled.ne_nil {fragments : List String} {text : String} :
    Assembled fragments text → fragments ≠ []
  | .fragment _ => List.cons_ne_nil _ _
  | .chain _ head _ => fun none => head.ne_nil (List.append_eq_nil_iff.mp none).1
  | .enclosed inner => inner.ne_nil
  | .complement inner => inner.ne_nil

/-- The text of a clause is put together from the texts of some other clauses, for every schema and
quoter. -/
def Sql.Clause.IsAssembled (owns : List Clause) (clause : Clause) : Prop :=
  ∀ schema quoter, Assembled (owns.map (Clause.render schema quoter)) (clause.render schema quoter)

namespace Sql.Clause.IsAssembled

variable {owns : List Clause} {clause : Clause}

theorem own (clause : Clause) : IsAssembled [clause] clause :=
  fun _ _ => .fragment _

theorem enclosed (inner : IsAssembled owns clause) : IsAssembled owns (.enclosed clause) := by
  intro schema quoter
  rw [render_enclosed]
  exact (inner schema quoter).enclosed

theorem complement (inner : IsAssembled owns clause) : IsAssembled owns (.complement clause) := by
  intro schema quoter
  rw [render_complement]
  exact (inner schema quoter).complement

theorem chain (connective : Connective) {later : List (List Clause)} {clauses : List Clause}
    (head : IsAssembled owns clause) (tail : List.Forall₂ IsAssembled later clauses) :
    IsAssembled (owns ++ later.flatten) (.chain connective (clause :: clauses)) := by
  intro schema quoter
  have texts : List.Forall₂ Assembled (later.map (List.map (Clause.render schema quoter)))
      (clauses.map (Clause.render schema quoter)) := by
    rw [List.forall₂_map_left_iff, List.forall₂_map_right_iff]
    exact tail.imp fun _ _ assembled => assembled schema quoter
  rw [render_chain, List.map_append, List.map_flatten]
  exact .chain connective (head schema quoter) texts

theorem ne_nil (assembled : IsAssembled owns clause) : owns ≠ [] := by
  rintro rfl
  exact (assembled {} .standard).ne_nil rfl

end Sql.Clause.IsAssembled

/-- Some clauses are put together, one after the other, from the clauses of some leaves. -/
def AreAssembled (vantage : Vantage) (leaves : List Leaf) (clauses : List Clause) : Prop :=
  ∃ owns : List (List Clause),
    List.Forall₂ (fun leaf own => leaf.lower vantage = .ok own) leaves owns.flatten ∧
      List.Forall₂ Clause.IsAssembled owns clauses

namespace AreAssembled

variable {vantage : Vantage} {leaves more : List Leaf} {clauses others : List Clause}

theorem nil : AreAssembled vantage [] [] :=
  ⟨[], .nil, .nil⟩

theorem single {leaf : Leaf} {clause : Clause} (lowered : leaf.lower vantage = .ok clause) :
    AreAssembled vantage [leaf] [clause] :=
  ⟨[[clause]], .cons lowered .nil, .cons (.own clause) .nil⟩

theorem append (first : AreAssembled vantage leaves clauses)
    (second : AreAssembled vantage more others) :
    AreAssembled vantage (leaves ++ more) (clauses ++ others) := by
  obtain ⟨owns, lowered, assembled⟩ := first
  obtain ⟨owns', lowered', assembled'⟩ := second
  refine ⟨owns ++ owns', ?_, List.rel_append assembled assembled'⟩
  rw [List.flatten_append]
  exact List.rel_append lowered lowered'

/-- The complement of a clause is put together from the same leaves. -/
theorem complement {found : Option Clause} (inner : AreAssembled vantage leaves found.toList) :
    AreAssembled vantage leaves (found.map Clause.complement).toList := by
  obtain ⟨owns, lowered, assembled⟩ := inner
  cases found with
  | none => exact ⟨owns, lowered, assembled⟩
  | some clause =>
    cases assembled with
    | cons head tail => exact ⟨_, lowered, .cons head.complement tail⟩

/-- A junction of clauses is put together from all their leaves. -/
theorem join (connective : Connective) (inside : Bool)
    (parts : AreAssembled vantage leaves clauses) :
    AreAssembled vantage leaves (Clause.join connective inside clauses).toList := by
  obtain ⟨owns, lowered, assembled⟩ := parts
  match owns, clauses, assembled with
  | [], [], _ => exact ⟨[], lowered, .nil⟩
  | [own], [clause], assembled => exact ⟨[own], lowered, assembled⟩
  | own :: next :: later, clause :: other :: clauses, .cons head tail =>
    have chained := head.chain connective tail
    have kept : [(own :: next :: later).flatten].flatten = (own :: next :: later).flatten :=
      List.append_nil _
    refine ⟨[(own :: next :: later).flatten], kept.symm ▸ lowered, .cons ?_ .nil⟩
    cases inside with
    | false => exact chained
    | true => exact chained.enclosed

/-- Clauses without leaves are none. -/
theorem eq_nil_iff (assembled : AreAssembled vantage leaves clauses) :
    leaves = [] ↔ clauses = [] := by
  obtain ⟨owns, lowered, assembled⟩ := assembled
  constructor
  · rintro rfl
    cases assembled with
    | nil => rfl
    | cons head tail =>
      have none := List.append_eq_nil_iff.mp (List.forall₂_nil_left_iff.mp lowered)
      exact absurd none.1 head.ne_nil
  · rintro rfl
    cases assembled
    exact List.forall₂_nil_right_iff.mp lowered

end AreAssembled

mutual

/-- The clause of an expression is put together from its leaves, at every depth. -/
theorem Expr.lower_assembled {vantage : Vantage} {negated : Bool} {depth : Nat}
    {found : Option Clause} : ∀ expr : Expr, expr.lower vantage negated depth = .ok found →
      AreAssembled vantage (expr.leaves negated) found.toList
  | .test condition, lowered => by
    obtain ⟨clause, single, rfl⟩ := map_eq_ok.mp lowered
    exact AreAssembled.single single
  | .junction connective parts, lowered => by
    obtain ⟨clauses, several, rfl⟩ := map_eq_ok.mp lowered
    exact (Expr.lowerParts_assembled parts several).join _ _
  | .not inner, lowered => by
    rw [Expr.lower] at lowered
    cases negated with
    | true => exact Expr.lower_assembled inner lowered
    | false =>
      obtain ⟨positive, within, rfl⟩ := map_eq_ok.mp lowered
      exact (Expr.lower_assembled inner within).complement

theorem Expr.lowerParts_assembled {vantage : Vantage} {negated : Bool} {depth : Nat}
    {clauses : List Clause} : ∀ parts : List Expr,
      Expr.lowerParts vantage negated depth parts = .ok clauses →
        AreAssembled vantage (Expr.leavesOfParts negated parts) clauses
  | [], lowered => by
    cases lowered
    exact .nil
  | part :: rest, lowered => by
    obtain ⟨found, head, remaining⟩ := bind_eq_ok.mp lowered
    obtain ⟨clauses, tail, rfl⟩ := map_eq_ok.mp remaining
    exact (Expr.lower_assembled part head).append (Expr.lowerParts_assembled rest tail)

end

/-- An expression is lowered leaf by leaf: the first refused leaf refuses it, without leaves it is no
clause, and otherwise its clause is put together from its leaves. -/
structure Expr.LowersLeaves (vantage : Vantage) (negated : Bool) (depth : Nat) (expr : Expr) :
    Prop where
  /-- The leaves are the conditions of the expression from left to right. -/
  conditions : (expr.leaves negated).map Leaf.condition = expr.conditions
  refused : ∀ refusal, expr.lower vantage negated depth = .error refusal ↔
    FirstRefused (Leaf.Refused vantage) (expr.leaves negated) refusal
  vacuous : expr.lower vantage negated depth = .ok none ↔ expr.conditions = []
  assembled : ∀ clause, expr.lower vantage negated depth = .ok (some clause) →
    AreAssembled vantage (expr.leaves negated) [clause]
  /-- Neither a complement nor the depth makes a difference to a refusal. -/
  alike : ∀ other deeper refusal, expr.lower vantage other deeper = .error refusal ↔
    expr.lower vantage negated depth = .error refusal

theorem Expr.leaves_eq_nil_iff (negated : Bool) (expr : Expr) :
    expr.leaves negated = [] ↔ expr.conditions = [] := by
  rw [← Expr.map_leaves negated expr, List.map_eq_nil_iff]

/-- The refusal of an expression, by its conditions. -/
theorem Expr.lower_refusal?_conditions (vantage : Vantage) (negated : Bool) (depth : Nat)
    (expr : Expr) : refusal? (expr.lower vantage negated depth) =
      expr.conditions.findSome? fun condition => refusal? (condition.lower vantage false) := by
  rw [Expr.lower_refusal?, ← Expr.map_leaves negated expr, List.findSome?_map]
  exact congrArg (List.findSome? · _) (funext fun leaf =>
    leaf.condition.lower_refusal? vantage leaf.negated)

theorem Expr.lowersLeaves (vantage : Vantage) (negated : Bool) (depth : Nat) (expr : Expr) :
    expr.LowersLeaves vantage negated depth where
  conditions := Expr.map_leaves negated expr
  refused refusal := by
    rw [Leaf.firstRefused_iff, ← Expr.lower_refusal? vantage negated depth, refusal?_eq_some]
  vacuous := by
    rw [← Expr.leaves_eq_nil_iff negated]
    constructor
    · intro lowered
      exact (Expr.lower_assembled expr lowered).eq_nil_iff.mpr rfl
    · intro none
      have unrefused := Expr.lower_refusal? vantage negated depth expr
      rw [none, List.findSome?_nil] at unrefused
      obtain ⟨found, lowered⟩ := refusal?_eq_none.mp unrefused
      have vacuous := (Expr.lower_assembled expr lowered).eq_nil_iff.mp none
      rw [lowered, Option.toList_eq_nil_iff.mp vacuous]
  assembled clause lowered := Expr.lower_assembled expr lowered
  alike other deeper refusal := by
    rw [← refusal?_eq_some, ← refusal?_eq_some, Expr.lower_refusal?_conditions,
      Expr.lower_refusal?_conditions]

/-! ### Statements -/

namespace Query

variable {vantage : Vantage}

/-- The leaves of what a query asks for: of its conditions, and the search for its text. -/
def wantedLeaves (query : Query) : List Leaf :=
  query.included.toExpr.leaves false ++
    if query.text = "" then [] else [{ condition := .compare ":search" "match" query.text }]

/-- The leaves of what else has to hold: of the complements of what a query excludes, and of a
filter. -/
def narrowedLeaves (query : Query) (filter : Option Expr) : List Leaf :=
  Expr.leavesOfParts true query.excluded.parts ++ (filter.map (Expr.leaves false)).getD []

/-- All leaves of a query and a filter in the order in which they are lowered. -/
def leaves (query : Query) (filter : Option Expr) : List Leaf :=
  query.wantedLeaves ++ query.narrowedLeaves filter

theorem leaves_none_append (query : Query) (filter : Option Expr) :
    query.leaves none ++ (filter.map (Expr.leaves false)).getD [] = query.leaves filter := by
  simp [leaves, narrowedLeaves]

theorem lower_search (vantage : Vantage) (text : String) :
    Leaf.lower { condition := .compare ":search" "match" text } vantage =
      .ok (Condition.foundAnywhere text) := by
  have onField : (":search".toList.head? == some ':') = true := by rfl
  have known : "match" ∈ ["", "=", "match"] := by decide
  have found : (Condition.compare ":search" "match" text).lowerSearch =
      .ok (Condition.foundAnywhere text) := if_pos known
  exact (if_pos onField).trans (congrArg (Except.map _) found)

/-- The leaves of what a query asks for are refused as its conditions are. -/
theorem wantedLeaves_refusal? (query : Query) (vantage : Vantage) (depth : Nat) :
    query.wantedLeaves.findSome? (fun leaf => refusal? (leaf.lower vantage)) =
      refusal? (query.included.toExpr.lower vantage false depth) := by
  rw [wantedLeaves, List.findSome?_append, Expr.lower_refusal?]
  split
  · exact Option.or_none
  · rw [List.findSome?_singleton, lower_search]
    exact Option.or_none

/-- The first refused leaf decides the refusal of a query, and the filter if no leaf is refused. -/
theorem clauses_refusal? (query : Query) (vantage : Vantage) (filter : Option Filter) :
    refusal? (query.clauses vantage filter) =
      ((query.leaves none).findSome? fun leaf => refusal? (leaf.lower vantage)).or
        (refusal? (added vantage filter)) := by
  have excluded := Expr.lowerParts_refusal? vantage true 1 query.excluded.parts
  have own : (query.leaves none).findSome? (fun leaf => refusal? (leaf.lower vantage)) =
      (refusal? (query.included.toExpr.lower vantage false
        (if query.included.connective = .or then 1 else 0))).or
          (refusal? (Expr.lowerParts vantage true 1 query.excluded.parts)) := by
    rw [leaves, narrowedLeaves, List.findSome?_append, query.wantedLeaves_refusal? vantage _,
      excluded]
    exact congrArg (Option.or _ <| List.findSome? _ ·) (List.append_nil _)
  rw [own, Option.or_assoc]
  -- The search for the text and the default stand between the steps and are never refused.
  refine refusal?_bind fun _ _ => refusal?_bind fun _ _ => ?_
  cases added vantage filter <;> rfl

/-- The clauses of a query are put together from its leaves, with the default between them. -/
theorem clauses_assembled {query : Query} {filter : Option Expr} {clauses : List Clause}
    (lowered : query.clauses vantage (filter.map Expr.toFilter) = .ok clauses) :
    ∃ before after, clauses =
        before ++
          (if query.hidesDone (filter.map Expr.toFilter) then [.test (.priority .ne .done)]
            else []) ++
          after ∧
      AreAssembled vantage query.wantedLeaves before ∧
      AreAssembled vantage (query.narrowedLeaves filter) after := by
  obtain ⟨included, readIncluded, lowered⟩ := bind_eq_ok.mp lowered
  obtain ⟨excluded, readExcluded, lowered⟩ := bind_eq_ok.mp lowered
  obtain ⟨added, readAdded, lowered⟩ := bind_eq_ok.mp lowered
  cases lowered
  refine ⟨_, excluded ++ added.toList, List.append_assoc _ _ _, ?_, ?_⟩
  · refine (Expr.lower_assembled _ readIncluded).append ?_
    by_cases empty : query.text = ""
    · simp only [empty, if_true]
      exact .nil
    · have notEmpty : ¬query.text.isEmpty = true := fun isEmpty => empty (by simpa using isEmpty)
      simp only [if_neg empty, if_neg notEmpty]
      exact .single (lower_search vantage query.text)
  · refine (Expr.lowerParts_assembled _ readExcluded).append ?_
    cases filter with
    | none =>
      cases readAdded
      exact .nil
    | some expr => exact Expr.lower_assembled expr readAdded

section Resolved

variable {query effective : Query} {store : Store} {now : Instant} {first : Option String}
  (filter : Option Filter)

/-- Once its saved searches are resolved, a query compiles as its clauses are lowered. -/
theorem compile_of_resolved
    (resolved : Saved.resolve (readAt query.offset now) store query = .ok (effective, first))
    (valid : Vantage.ofOffset effective.offset now = .ok vantage) :
    query.compile store now filter = (effective.clauses vantage filter).map fun clauses =>
      { clauses
        savedSearch := first
        options := effective.options
        shownColumns := effective.shownColumns
        isEmpty := effective.isUnconstrained } := by
  rw [compile, resolved]
  show effective.compileResolved first now filter = _
  rw [compileResolved, valid]

/-- A query without a reference compiles as its clauses are lowered. -/
theorem compile_of_direct (direct : query.savedSearch = none)
    (valid : Vantage.ofOffset query.offset now = .ok vantage) :
    query.compile store now filter = (query.clauses vantage filter).map fun clauses =>
      { clauses
        savedSearch := none
        options := query.options
        shownColumns := query.shownColumns
        isEmpty := query.isUnconstrained } := by
  refine compile_of_resolved filter ?_ valid
  rw [Saved.resolve, Saved.follow_direct direct]
  rfl

theorem exists_compiled {filter : Option Filter} {clauses : List Clause}
    (direct : query.savedSearch = none) (valid : Vantage.ofOffset query.offset now = .ok vantage)
    (lowered : query.clauses vantage filter = .ok clauses) :
    ∃ statement, query.compile store now filter = .ok statement ∧ statement.clauses = clauses := by
  rw [compile_of_direct filter direct valid, lowered]
  exact ⟨_, rfl, rfl⟩

theorem compile_refusal?
    (resolved : Saved.resolve (readAt query.offset now) store query = .ok (effective, first))
    (valid : Vantage.ofOffset effective.offset now = .ok vantage) :
    refusal? (query.compile store now filter) = refusal? (effective.clauses vantage filter) := by
  rw [compile_of_resolved filter resolved valid]
  exact refusal?_map _ _

end Resolved

end Query

/-- **Expressions and statements are lowered leaf by leaf.** The first refused leaf, in the order in
which the leaves were written, refuses the whole; otherwise no leaf is left out and none stands
twice. A filter that is no expression comes after all leaves of the query. -/
theorem lowered_leaf_by_leaf (query effective : Query) (store : Store) (now : Instant)
    (first : Option String) (here : Vantage)
    (resolved : Saved.resolve (Query.readAt query.offset now) store query = .ok (effective, first))
    (valid : Vantage.ofOffset effective.offset now = .ok here) :
    (∀ (vantage : Vantage) (expr : Expr) (negated : Bool) (depth : Nat),
      expr.LowersLeaves vantage negated depth) ∧
    (∀ (filter : Option Expr) refusal,
      query.compile store now (filter.map Expr.toFilter) = .error refusal ↔
        FirstRefused (Leaf.Refused here) (effective.leaves filter) refusal) ∧
    (∀ (filter : Filter) refusal, query.compile store now (some filter) = .error refusal ↔
      FirstRefused (Leaf.Refused here) (effective.leaves none) refusal ∨
        (∀ leaf ∈ effective.leaves none, ∀ other, ¬leaf.Refused here other) ∧
          filter.lower here false 1 = .error refusal) ∧
    ∀ (filter : Option Expr) statement,
      query.compile store now (filter.map Expr.toFilter) = .ok statement →
        ∃ before after, statement.clauses =
            before ++
              (if effective.hidesDone (filter.map Expr.toFilter) then [.test (.priority .ne .done)]
                else []) ++
              after ∧
          AreAssembled here effective.wantedLeaves before ∧
          AreAssembled here (effective.narrowedLeaves filter) after := by
  refine ⟨fun vantage expr negated depth => expr.lowersLeaves vantage negated depth, ?_, ?_, ?_⟩
  · intro filter refusal
    have added : refusal? (Query.added here (filter.map Expr.toFilter)) =
        ((filter.map (Expr.leaves false)).getD []).findSome? fun leaf =>
          refusal? (leaf.lower here) := by
      cases filter with
      | none => rfl
      | some expr => exact Expr.lower_refusal? here false 1 expr
    rw [Leaf.firstRefused_iff, ← refusal?_eq_some, Query.compile_refusal? _ resolved valid,
      Query.clauses_refusal?, added, ← List.findSome?_append, Query.leaves_none_append]
  · intro filter refusal
    rw [Leaf.firstRefused_iff, Leaf.unrefused_iff, ← refusal?_eq_some, ← refusal?_eq_some,
      Query.compile_refusal? _ resolved valid, Query.clauses_refusal?, Option.or_eq_some_iff]
    rfl
  · intro filter statement compiled
    rw [Query.compile_of_resolved _ resolved valid] at compiled
    obtain ⟨clauses, lowered, rfl⟩ := map_eq_ok.mp compiled
    exact Query.clauses_assembled lowered

/-- Of an unknown priority inside two negations and an unknown field that is excluded, the first one
decides; with a priority and a field that are known, five leaves make four of the clauses. -/
theorem lowered_leaf_by_leaf_nested :
    let now := Instant.unixEpoch
    let priority (value : String) : Expr := .not (.junction .or [.junction .and [],
      .not (.test (.compare ":priority" "=" value))])
    let query (value field : String) : Query :=
      { text := "milk"
        included := { connective := .or, parts := [.test (.tag "home"), priority value] }
        excluded := { parts := [.test (.compare field "=" "1")] } }
    let refused := query "9" ":size"
    let accepted := query "4" ":id"
    let waiting : Expr := .not (.test (.tag "waiting"))
    let clauses :=
      ["(id IN (SELECT id FROM columns WHERE name = 'home') OR NOT (NOT (priority = 4)))",
        "(id IN (SELECT id FROM ridx WHERE title_field MATCH 'milk') OR "
          ++ "id IN (SELECT id FROM ridx WHERE text_field MATCH 'milk'))",
        "priority <> 5", "NOT (id = 1)",
        "NOT (id IN (SELECT id FROM columns WHERE name = 'waiting'))"]
    let here : Vantage := { now, zone := ⟨0, by decide⟩ }
    Saved.resolve (Query.readAt refused.offset now) Store.empty refused = .ok (refused, none) ∧
      Saved.resolve (Query.readAt accepted.offset now) Store.empty accepted =
        .ok (accepted, none) ∧
      Vantage.ofOffset refused.offset now = .ok here ∧
      Vantage.ofOffset accepted.offset now = .ok here ∧
      (priority "9").LowersLeaves here true 3 ∧
      refused.compile Store.empty now none = .error (.invalidPriority "9") ∧
      ∃ statement before after,
        accepted.compile Store.empty now (some waiting.toFilter) = .ok statement ∧
        statement.clauses.map (Clause.render {} Quoter.standard) = clauses ∧
        statement.clauses = before ++ [.test (.priority .ne .done)] ++ after ∧
        AreAssembled here
          [{ condition := .tag "home" }, { condition := .compare ":priority" "=" "4" },
            { condition := .compare ":search" "match" "milk" }] before ∧
        AreAssembled here
          [{ condition := .compare ":id" "=" "1", negated := true },
            { condition := .tag "waiting" }] after := by
  intro now priority query refused accepted waiting clauses here
  have direct (value field : String) : Saved.resolve (Query.readAt (query value field).offset now)
      Store.empty (query value field) = .ok (query value field, none) := by
    rw [Saved.resolve, Saved.follow_direct rfl]
    rfl
  have valid : Vantage.ofOffset 0 now = .ok here := by rfl
  obtain ⟨expressions, isRefused, -, -⟩ :=
    lowered_leaf_by_leaf refused refused Store.empty now none here (direct _ _) valid
  obtain ⟨-, -, -, assembled⟩ :=
    lowered_leaf_by_leaf accepted accepted Store.empty now none here (direct _ _) valid
  have home : Leaf.lower { condition := .tag "home" } here = .ok (.test (.tagged "home" none)) := by
    rfl
  have first : FirstRefused (Leaf.Refused here) (refused.leaves none) (.invalidPriority "9") := by
    refine ⟨[{ condition := .tag "home" }], { condition := .compare ":priority" "=" "9" }, _,
      by rfl, fun leaf member other refused => ?_, by rfl⟩
    rw [List.mem_singleton.mp member] at refused
    cases home.symm.trans refused
  have written : (accepted.compile Store.empty now (some waiting.toFilter)).toOption.map
      (fun statement => statement.clauses.map (Clause.render {} Quoter.standard)) =
        some clauses := by
    decide +kernel
  obtain ⟨statement, compiled, written⟩ := Option.map_eq_some_iff.mp written
  have compiled := Outcome.toOption_eq_some.mp compiled
  obtain ⟨before, after, whole, fromWanted, fromNarrowed⟩ :=
    assembled (some waiting) statement compiled
  exact ⟨direct _ _, direct _ _, valid, valid, expressions here (priority "9") true 3,
    (isRefused none _).mpr first, statement, before, after, compiled, written, whole, fromWanted,
    fromNarrowed⟩

end TaskQuery
