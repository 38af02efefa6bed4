/-
**Three-valued truth.**

A test of a row holds, fails or is unknown, because a column may be without a value. Conjunction
takes the least of its parts in this order, disjunction the greatest, and negation leaves the
unknown as it is.

* `Truth.not_all`, `Truth.not_any`: negation turns a conjunction into a disjunction and back.
-/

namespace TaskQuery.Sql

/-- What a condition says of a row. -/
inductive Truth where
  | fails
  | unknown
  | holds
  deriving DecidableEq, Repr

namespace Truth

def not : Truth → Truth
  | fails => holds
  | unknown => unknown
  | holds => fails

def and : Truth → Truth → Truth
  | fails, _ => fails
  | _, fails => fails
  | unknown, _ => unknown
  | _, unknown => unknown
  | holds, holds => holds

def or : Truth → Truth → Truth
  | holds, _ => holds
  | _, holds => holds
  | unknown, _ => unknown
  | _, unknown => unknown
  | fails, fails => fails

@[simp] theorem not_not (truth : Truth) : truth.not.not = truth := by
  cases truth <;> rfl

@[simp] theorem holds_and (truth : Truth) : holds.and truth = truth := by
  cases truth <;> rfl

@[simp] theorem and_holds (truth : Truth) : truth.and holds = truth := by
  cases truth <;> rfl

@[simp] theorem fails_or (truth : Truth) : fails.or truth = truth := by
  cases truth <;> rfl

@[simp] theorem or_fails (truth : Truth) : truth.or fails = truth := by
  cases truth <;> rfl

theorem and_comm (first second : Truth) : first.and second = second.and first := by
  cases first <;> cases second <;> rfl

theorem and_assoc (first second third : Truth) :
    (first.and second).and third = first.and (second.and third) := by
  cases first <;> cases second <;> cases third <;> rfl

theorem and_eq_holds_iff {first second : Truth} :
    first.and second = holds ↔ first = holds ∧ second = holds := by
  cases first <;> cases second <;> decide

theorem or_eq_holds_iff {first second : Truth} :
    first.or second = holds ↔ first = holds ∨ second = holds := by
  cases first <;> cases second <;> decide

theorem not_and (first second : Truth) : (first.and second).not = first.not.or second.not := by
  cases first <;> cases second <;> rfl

theorem not_or (first second : Truth) : (first.or second).not = first.not.and second.not := by
  cases first <;> cases second <;> rfl

/-! ### Lists -/

def all (truths : List Truth) : Truth :=
  truths.foldr and holds

def any (truths : List Truth) : Truth :=
  truths.foldr or fails

@[simp] theorem all_nil : all [] = holds := rfl

@[simp] theorem all_cons (truth : Truth) (truths : List Truth) :
    all (truth :: truths) = truth.and (all truths) := rfl

@[simp] theorem any_nil : any [] = fails := rfl

@[simp] theorem any_cons (truth : Truth) (truths : List Truth) :
    any (truth :: truths) = truth.or (any truths) := rfl

theorem all_append (first second : List Truth) :
    all (first ++ second) = (all first).and (all second) := by
  induction first with
  | nil => simp
  | cons truth rest inner => rw [List.cons_append, all_cons, inner, all_cons, and_assoc]

/-- A conjunction holds exactly if all of its parts do. -/
theorem all_eq_holds_iff {truths : List Truth} :
    all truths = holds ↔ ∀ truth ∈ truths, truth = holds := by
  induction truths with
  | nil => simp
  | cons truth rest inner => rw [all_cons, and_eq_holds_iff, inner, List.forall_mem_cons]

/-- The complement of a conjunction is the disjunction of the complements. -/
theorem not_all (truths : List Truth) : (all truths).not = any (truths.map not) := by
  induction truths with
  | nil => rfl
  | cons truth rest inner => rw [all_cons, not_and, inner, List.map_cons, any_cons]

/-- The complement of a disjunction is the conjunction of the complements. -/
theorem not_any (truths : List Truth) : (any truths).not = all (truths.map not) := by
  induction truths with
  | nil => rfl
  | cons truth rest inner => rw [any_cons, not_or, inner, List.map_cons, all_cons]

end Truth

end TaskQuery.Sql
