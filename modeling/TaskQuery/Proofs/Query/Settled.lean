/-
**What a value means may be settled early or late.**

The value of a trigger time or a priority is settled where a query is read, if it means something
there, and otherwise where its condition is lowered. Both read the same text from the same vantage,
so a query from which everything that was settled early is removed still compiles to the same
statement, or is refused for the same reason.

* `Condition.unsettled`, `Query.unsettled`: what is written, without what it means.
* `Condition.IsSettled`, `Query.IsSettled`: what is settled is what the values mean.
* `Query.IsSettled.compile_eq`: a settled query compiles as what is written in it.
* `Query.read_isSettled`: the query that a text writes is settled.
* `compile_unsettled`: both together.
-/

import TaskQuery.Proofs.Query.WellFormed
import TaskQuery.Proofs.Saved.Indirection
import TaskQuery.Proofs.Sql.Leaves

namespace TaskQuery

open Calendar (Instant Vantage Zone)
open Sql

/-! ### What is written -/

/-- A condition as it is written, without what its value means. -/
def Condition.unsettled (condition : Condition) : Condition :=
  { condition with time := none, priority := none }

mutual

/-- An expression with every condition as it is written. -/
def Expr.unsettled : Expr → Expr
  | .test condition => .test condition.unsettled
  | .junction connective parts => .junction connective (Expr.unsettledParts parts)
  | .not inner => .not inner.unsettled

def Expr.unsettledParts : List Expr → List Expr
  | [] => []
  | part :: rest => part.unsettled :: Expr.unsettledParts rest

end

/-- A junction with every condition as it is written. -/
def Junction.unsettled (junction : Junction) : Junction :=
  { junction with parts := Expr.unsettledParts junction.parts }

/-- A query with every condition as it is written. -/
def Query.unsettled (query : Query) : Query :=
  { query with included := query.included.unsettled, excluded := query.excluded.unsettled }

mutual

theorem Expr.constrainsPriority_unsettled : ∀ expr : Expr,
    expr.unsettled.constrainsPriority = expr.constrainsPriority
  | .test _ => rfl
  | .junction _ parts => Expr.anyConstrainsPriority_unsettled parts
  | .not _ => rfl

theorem Expr.anyConstrainsPriority_unsettled : ∀ parts : List Expr,
    Expr.anyConstrainsPriority (Expr.unsettledParts parts) = Expr.anyConstrainsPriority parts
  | [] => rfl
  | part :: rest => by
    rw [Expr.unsettledParts, Expr.anyConstrainsPriority, Expr.anyConstrainsPriority,
      Expr.constrainsPriority_unsettled part, Expr.anyConstrainsPriority_unsettled rest]

end

theorem Junction.isEmpty_unsettled (junction : Junction) :
    junction.unsettled.isEmpty = junction.isEmpty := by
  unfold Junction.isEmpty Junction.unsettled
  cases junction.parts <;> rfl

/-! ### Settled conditions -/

/-- What is settled of a condition is what its value means. -/
structure Condition.IsSettled (vantage : Vantage) (condition : Condition) : Prop where
  time : ∀ time ∈ condition.time, vantage.read? condition.value = some time
  priority : ∀ priority ∈ condition.priority, Priority.ofText? condition.value = some priority

/-- What is settled of a query is what its values mean. -/
structure Query.IsSettled (vantage : Vantage) (query : Query) : Prop where
  included : ∀ condition ∈ query.included.toExpr.conditions, condition.IsSettled vantage
  excluded : ∀ condition ∈ query.excluded.toExpr.conditions, condition.IsSettled vantage

namespace Condition.IsSettled

variable {vantage : Vantage} {condition : Condition}

theorem lowerPriority_unsettled (settled : condition.IsSettled vantage) :
    condition.unsettled.lowerPriority = condition.lowerPriority := by
  have meaning : condition.priority.or (Priority.ofText? condition.value) =
      Priority.ofText? condition.value := by
    cases known : condition.priority with
    | none => rfl
    | some priority => exact (settled.priority priority known).symm
  rw [lowerPriority, lowerPriority, meaning]
  rfl

theorem lowerWhen_unsettled (settled : condition.IsSettled vantage) :
    condition.unsettled.lowerWhen vantage = condition.lowerWhen vantage := by
  unfold lowerWhen
  cases known : condition.time with
  | none => rfl
  | some time =>
    have reads : vantage.read condition.unsettled.value = .ok time :=
      Vantage.read?_eq_some.mp (settled.time time known)
    have none : condition.unsettled.time = none := rfl
    rw [none, reads]
    rfl

/-- A settled condition is lowered as what is written. -/
theorem lower_unsettled (settled : condition.IsSettled vantage) (negated : Bool) :
    condition.unsettled.lower vantage negated = condition.lower vantage negated := by
  have field : condition.unsettled.lowerField vantage = condition.lowerField vantage := by
    unfold lowerField
    rw [show condition.unsettled.name = condition.name from rfl]
    split
    · exact settled.lowerPriority_unsettled
    · exact settled.lowerWhen_unsettled
    all_goals rfl
  rw [lower, lower, field]
  rfl

end Condition.IsSettled

/-! ### Expressions -/

mutual

/-- Settled conditions are lowered as what is written, wherever they stand. -/
theorem Expr.lower_unsettled {vantage : Vantage} (negated : Bool) (depth : Nat) : ∀ expr : Expr,
    (∀ condition ∈ expr.conditions, condition.IsSettled vantage) →
      expr.unsettled.lower vantage negated depth = expr.lower vantage negated depth
  | .test condition, settled => by
    rw [Expr.unsettled, Expr.lower, Expr.lower,
      (settled condition (List.mem_singleton_self _)).lower_unsettled]
  | .junction connective parts, settled => by
    rw [Expr.unsettled, Expr.lower, Expr.lower,
      Expr.lowerParts_unsettled negated (depth + 1) parts settled]
  | .not inner, settled => by
    rw [Expr.unsettled, Expr.lower, Expr.lower, Expr.lower_unsettled false depth inner settled,
      Expr.lower_unsettled false 0 inner settled]

theorem Expr.lowerParts_unsettled {vantage : Vantage} (negated : Bool) (depth : Nat) :
    ∀ parts : List Expr,
      (∀ condition ∈ Expr.conditionsOfParts parts, condition.IsSettled vantage) →
        Expr.lowerParts vantage negated depth (Expr.unsettledParts parts) =
          Expr.lowerParts vantage negated depth parts
  | [], _ => rfl
  | part :: rest, settled => by
    have first := Expr.lower_unsettled negated depth part fun condition member =>
      settled condition (List.mem_append_left _ member)
    have later := Expr.lowerParts_unsettled negated depth rest fun condition member =>
      settled condition (List.mem_append_right _ member)
    rw [Expr.unsettledParts, Expr.lowerParts, Expr.lowerParts, first, later]

end

/-! ### Settled queries -/

namespace Query.IsSettled

variable {vantage : Vantage} {query : Query}

theorem clauses_unsettled (settled : query.IsSettled vantage) (filter : Option Filter) :
    query.unsettled.clauses vantage filter = query.clauses vantage filter := by
  have included (depth : Nat) : query.unsettled.included.toExpr.lower vantage false depth =
      query.included.toExpr.lower vantage false depth :=
    Expr.lower_unsettled false depth query.included.toExpr settled.included
  have excluded : Expr.lowerParts vantage true 1 query.unsettled.excluded.parts =
      Expr.lowerParts vantage true 1 query.excluded.parts :=
    Expr.lowerParts_unsettled true 1 query.excluded.parts settled.excluded
  have hidden : query.unsettled.hidesDone filter = query.hidesDone filter :=
    congrArg (fun constrains => !query.hasOption withDoneOption && !constrains && _)
      (Expr.constrainsPriority_unsettled query.included.toExpr)
  unfold clauses
  dsimp only
  rw [included, excluded, hidden]
  rfl

/-- A settled query compiles as what is written in it. -/
theorem compile_eq (settled : query.IsSettled vantage) {now : Instant}
    (clock : Vantage.ofOffset query.offset now = .ok vantage) (store : Store)
    (filter : Option Filter) :
    query.unsettled.compile store now filter = query.compile store now filter := by
  cases reference : query.savedSearch with
  | some name =>
    -- Nothing that the query asks for itself takes effect.
    exact compile_congr reference reference rfl
  | none =>
    have direct : query.unsettled.savedSearch = none := reference
    have unconstrained : query.unsettled.isUnconstrained = query.isUnconstrained :=
      congrArg₂ (fun included excluded => included && excluded && query.text.isEmpty)
        query.included.isEmpty_unsettled query.excluded.isEmpty_unsettled
    have clock' : Vantage.ofOffset query.unsettled.offset now = .ok vantage := clock
    rw [compile_of_direct filter direct clock', compile_of_direct filter reference clock,
      settled.clauses_unsettled filter, unconstrained]
    rfl

end Query.IsSettled

/-! ### Items -/

namespace Item

variable {vantage : Vantage}

/-- What is settled of the condition of an item is what its value means. -/
def IsSettled (vantage : Vantage) : Item → Prop
  | require condition _ | exclude condition _ => condition.IsSettled vantage
  | _ => True

/-- Nothing is settled of a tag. -/
theorem tagged_isSettled (vantage : Vantage) (name : List Char) (rest : List Token) :
    (tagged name rest).1.IsSettled vantage := by
  have unsettled : (tagged name rest).1.time = none ∧ (tagged name rest).1.priority = none := by
    unfold tagged
    dsimp only
    split <;> exact ⟨rfl, rfl⟩
  constructor
  · intro time known
    cases unsettled.1.symm.trans known
  · intro priority known
    cases unsettled.2.symm.trans known

/-- A shorthand is settled as the name of which it is read. -/
theorem shorthand?_isSettled {name : List Char} {condition : Condition}
    (found : shorthand? vantage name = some condition) : condition.IsSettled vantage := by
  rcases Option.or_eq_some_iff.mp found with found | ⟨_, found⟩
  · obtain ⟨priority, written, rfl⟩ := Option.map_eq_some_iff.mp found
    have noTime : (Condition.hasPriority priority (String.ofList name)).time = none := rfl
    constructor
    · intro time known
      cases noTime.symm.trans known
    · intro other known
      cases known
      show (Priority.ofShorthand? (String.ofList name)).or _ = some priority
      rw [written]
      rfl
  · obtain ⟨date, time, frequency, reads, rfl, _⟩ := due?_eq_some found
    have noPriority : (Condition.isDue date time frequency).priority = none := rfl
    constructor
    · intro other known
      cases known
      exact reads
    · intro priority known
      cases noPriority.symm.trans known

theorem field_isSettled (vantage : Vantage) (name : String) (relation : Comparison)
    (value : String) : (field vantage name relation value).IsSettled vantage := by
  rw [field_eq]
  constructor
  · intro time known
    dsimp only at known
    split at known
    · exact known
    · cases known
  · intro priority known
    dsimp only at known
    split at known
    · exact known
    · cases known

theorem afterSign_isSettled (vantage : Vantage) (sign : Sign) (name : List Char)
    (rest : List Token) : (afterSign vantage sign name rest).1.IsSettled vantage := by
  unfold afterSign
  split
  · trivial
  · split
    · next condition found =>
      split at found
      · exact shorthand?_isSettled found
      · cases found
    · split
      · exact tagged_isSettled vantage name rest
      · trivial

/-- The condition of the first item is settled. -/
theorem next_isSettled (vantage : Vantage) (token : Token) (rest : List Token) :
    (next vantage token rest).1.IsSettled vantage := by
  unfold next
  split
  · trivial
  · unfold afterOptionMark
    split
    · exact field_isSettled vantage _ _ _
    · trivial
  · exact afterSign_isSettled vantage _ _ _
  · split
    · next name rest _ =>
      have settled := tagged_isSettled vantage name rest
      unfold excluded
      dsimp only
      split
      · exact settled
      · exact settled
    · trivial
  · cases token <;> trivial

end Item

/-- The conditions of all items are settled. -/
theorem items_isSettled (vantage : Vantage) (tokens : List Token) :
    ∀ item ∈ items vantage tokens, item.IsSettled vantage := by
  fun_induction items vantage tokens with
  | case1 => exact fun item member => by cases member
  | case2 token rest inner =>
    intro item member
    rcases List.mem_cons.mp member with rfl | member
    · exact Item.next_isSettled vantage token rest
    · exact inner item member

/-! ### Queries -/

/-- The query that a text writes is settled. -/
theorem Query.read_isSettled (vantage : Vantage) (text : String) :
    (read vantage text).IsSettled vantage := by
  have settled := items_isSettled vantage (tokenize text).tokens
  have all (asked? : Item → Option Condition) (kept : ∀ item : Item, item.IsSettled vantage →
      ∀ condition, asked? item = some condition → condition.IsSettled vantage) :
      ∀ condition ∈ (Junction.all
        ((items vantage (tokenize text).tokens).filterMap asked?)).toExpr.conditions,
        condition.IsSettled vantage := by
    intro condition member
    rw [Junction.conditions_all] at member
    obtain ⟨item, isItem, found⟩ := List.mem_filterMap.mp member
    exact kept item (settled item isItem) condition found
  constructor
  · refine all Item.required? fun item isSettled condition found => ?_
    cases item with
    | require asked shown =>
      cases found
      exact isSettled
    | _ => cases found
  · refine all Item.excluded? fun item isSettled condition found => ?_
    cases item with
    | exclude asked shown =>
      cases found
      exact isSettled
    | _ => cases found

/-- **A query compiles alike whether the meaning of its values is settled early or late**: to the
same statement, or to the same refusal. -/
theorem compile_unsettled (hours : Int) (now : Instant) (text : String)
    (valid : -25 ≤ hours ∧ hours ≤ 25) :
    ∃ query, Query.ofText hours now text = .ok query ∧ ∀ store filter,
      query.unsettled.compile store now filter = query.compile store now filter := by
  obtain ⟨vantage, here⟩ : ∃ vantage, Vantage.ofOffset hours now = .ok vantage :=
    ⟨{ zone := ⟨hours, valid⟩, now }, Vantage.ofOffset_eq_ok.mpr ⟨rfl, rfl⟩⟩
  obtain ⟨same, _⟩ := Vantage.ofOffset_eq_ok.mp here
  have clock : Vantage.ofOffset (Query.read vantage text).offset now = .ok vantage := by
    rw [← here, ← same]
    rfl
  exact ⟨_, Query.ofText_eq here text, (Query.read_isSettled vantage text).compile_eq clock⟩

/-- Shorthands with and without a repetition, a rank with a sign and a full date, whose meaning is
settled early for all of them; and a date that means nothing at either time. -/
theorem compile_unsettled_mixed :
    let now := Instant.unixEpoch
    let text := "#fri+daily #n #:priority>=+3 #:when<1/1/2027"
    let settled (query : Query) :=
      query.included.toExpr.conditions.map fun condition =>
        (condition.time.isSome, condition.priority.isSome)
    (-25 ≤ (-3 : Int) ∧ (-3 : Int) ≤ 25) ∧
      (∃ query statement, Query.ofText (-3) now text = .ok query ∧
        settled query = [(true, false), (false, true), (false, true), (true, false)] ∧
        settled query.unsettled = List.replicate 4 (false, false) ∧
        query.compile Store.empty now none = .ok statement ∧
        query.unsettled.compile Store.empty now none = .ok statement ∧
        statement.whereText {} =
          "WHERE trigger_at_field = '1970-01-02 00:00:00' AND priority = 1 AND priority >= 3 AND "
            ++ "trigger_at_field < '2027-01-01 00:00:00'" ∧
        ∀ store filter,
          query.unsettled.compile store now filter = query.compile store now filter) ∧
      ∃ query refusal, Query.ofText (-3) now "#:when<soon" = .ok query ∧
        query.compile Store.empty now none = .error refusal ∧
        query.unsettled.compile Store.empty now none = .error refusal ∧
        refusal.message = "invalid date \"soon\"" := by
  intro now text settled
  have valid : -25 ≤ (-3 : Int) ∧ (-3 : Int) ≤ 25 := by decide
  have asked : (Query.ofText (-3) now text).toOption.map (fun query =>
      (settled query, settled query.unsettled,
        (query.compile Store.empty now none).toOption.map fun statement =>
          statement.whereText {})) =
      some ([(true, false), (false, true), (false, true), (true, false)],
        List.replicate 4 (false, false),
        some ("WHERE trigger_at_field = '1970-01-02 00:00:00' AND priority = 1 AND "
          ++ "priority >= 3 AND trigger_at_field < '2027-01-01 00:00:00'")) := by
    decide +kernel
  have refused : (Query.ofText (-3) now "#:when<soon").toOption.map (fun query =>
      (Outcome.refusal? (query.compile Store.empty now none)).map CompileError.message) =
      some (some "invalid date \"soon\"") := by
    decide +kernel
  obtain ⟨query, isQuery, same⟩ := compile_unsettled (-3) now text valid
  obtain ⟨query', isQuery', same'⟩ := compile_unsettled (-3) now "#:when<soon" valid
  rw [isQuery] at asked
  rw [isQuery'] at refused
  obtain ⟨early, asked⟩ := Prod.mk.inj (Option.some.inj asked)
  obtain ⟨late, asked⟩ := Prod.mk.inj asked
  obtain ⟨statement, compiled, written⟩ := Option.map_eq_some_iff.mp asked
  obtain ⟨refusal, isRefusal, message⟩ := Option.map_eq_some_iff.mp (Option.some.inj refused)
  have compiled := Outcome.toOption_eq_some.mp compiled
  have isRefusal := Outcome.refusal?_eq_some.mp isRefusal
  exact ⟨valid, ⟨query, statement, isQuery, early, late, compiled,
    (same Store.empty none).trans compiled, written, same⟩,
    query', refusal, isQuery', isRefusal, (same' Store.empty none).trans isRefusal, message⟩

end TaskQuery
