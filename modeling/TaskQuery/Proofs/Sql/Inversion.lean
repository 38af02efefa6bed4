/-
**What conditions are lowered to.**

Wherever a condition is lowered, its clause is one of a few, and what decides which one is the name,
the operator and what the value means. Whatever else is shown of lowered conditions follows from
these lemmas.

* `level?`, `instant?`, `idNumber?`: what the value of a condition means.
* `lowerTag_clause`, `lowerPriority_clause`, `lowerWhen_clause`, `lowerColumn_clause`,
  `lowerSearch_clause`: the clauses.
-/

import TaskQuery.Proofs.Outcome
import TaskQuery.Sql.Lowering

namespace TaskQuery

open Calendar (Instant Vantage stamp)
open Sql
open Outcome (bind_eq_ok map_eq_ok)

namespace Condition

variable {condition : Condition} {vantage : Vantage} {clause : Clause}

/-- The priority that a condition on the priority means. -/
def level? (condition : Condition) : Option Priority :=
  condition.priority.or (Priority.ofText? condition.value)

/-- The instant that a condition on the trigger time means. -/
def instant? (condition : Condition) (vantage : Vantage) : Option Instant :=
  condition.time.or (vantage.read condition.value).toOption

/-- The number with which a condition compares an id. -/
def idNumber? (condition : Condition) : Option Int :=
  if condition.name = ":id" ∧ condition.op ≠ "match" then Text.int64? condition.value else none

/-- The test that a task has a tag, or its complement. -/
def tagClause (condition : Condition) (negated : Bool) (value : Option (Operator × String)) :
    Clause :=
  if negated then .untagged condition.name value else .test (.tagged condition.name value)

theorem lowerTag_clause {negated : Bool} (lowered : condition.lowerTag negated = .ok clause) :
    (condition.op = "" ∧ clause = condition.tagClause negated none) ∨
      (condition.op ≠ "" ∧ ∃ operator, condition.operator = .ok operator ∧
        clause = condition.tagClause negated (some (operator, condition.value))) := by
  by_cases empty : condition.op.isEmpty = true
  · rw [lowerTag, if_pos empty] at lowered
    cases lowered
    exact Or.inl ⟨by simpa using empty, rfl⟩
  · rw [lowerTag, if_neg empty] at lowered
    obtain ⟨operator, operates, rfl⟩ := map_eq_ok.mp lowered
    exact Or.inr ⟨by simpa using empty, operator, operates, rfl⟩

theorem lowerPriority_clause (lowered : condition.lowerPriority = .ok clause) :
    ∃ relation level, condition.comparison = .ok relation ∧ condition.level? = some level ∧
      clause = .test (.priority relation level) := by
  obtain ⟨relation, compares, lowered⟩ := bind_eq_ok.mp lowered
  split at lowered
  · next level found =>
    cases lowered
    exact ⟨relation, level, compares, found, rfl⟩
  · cases lowered

theorem lowerWhen_clause (lowered : condition.lowerWhen vantage = .ok clause) :
    (condition.op = "notnull" ∧ clause = .test .scheduled) ∨
      (condition.op ≠ "notnull" ∧ ∃ relation time, condition.comparison = .ok relation ∧
        condition.instant? vantage = some time ∧
        clause = .test (.due relation (stamp time vantage.zone))) := by
  unfold lowerWhen at lowered
  split at lowered
  · next asks =>
    cases lowered
    exact Or.inl ⟨asks, rfl⟩
  · next compared =>
    obtain ⟨relation, compares, lowered⟩ := bind_eq_ok.mp lowered
    refine Or.inr ⟨compared, relation, ?_⟩
    split at lowered
    · next time cached =>
      cases lowered
      exact ⟨time, compares, by rw [instant?, cached, Option.some_or], rfl⟩
    · next uncached =>
      split at lowered
      · next time reads =>
        cases lowered
        refine ⟨time, compares, ?_, rfl⟩
        rw [instant?, uncached, Option.none_or, reads]
        rfl
      · cases lowered

theorem lowerColumn_clause {column : Column} (lowered : condition.lowerColumn column = .ok clause) :
    (condition.op = "match" ∧ clause = .test (.found column condition.value)) ∨
      (condition.op ≠ "match" ∧ ∃ operator, condition.operator = .ok operator ∧
        clause = .test (.column column operator (condition.operand column))) := by
  unfold lowerColumn at lowered
  split at lowered
  · next matched =>
    cases lowered
    exact Or.inl ⟨matched, rfl⟩
  · next compared =>
    obtain ⟨operator, operates, rfl⟩ := map_eq_ok.mp lowered
    exact Or.inr ⟨compared, operator, operates, rfl⟩

theorem lowerSearch_clause (lowered : condition.lowerSearch = .ok clause) :
    clause = foundAnywhere condition.value := by
  unfold lowerSearch at lowered
  split at lowered
  · cases lowered
    rfl
  · cases lowered

end Condition

end TaskQuery
