/-
**Computations that may be refused.**

A computation in steps succeeds exactly when each of its steps does, and otherwise the first refused
step decides the refusal.

* `refusal?_bind`: the refusal of two steps.
* `FirstRefused`: the first refused element of a list, with the reason for its refusal.
-/

import Mathlib.Logic.Basic

namespace TaskQuery.Outcome

variable {ε α β : Type}

theorem bind_eq_ok {first : Except ε α} {next : α → Except ε β} {result : β} :
    first.bind next = .ok result ↔ ∃ value, first = .ok value ∧ next value = .ok result := by
  cases first with
  | error refusal =>
    constructor
    · intro same
      cases same
    · rintro ⟨_, same, _⟩
      cases same
  | ok value =>
    constructor
    · intro same
      exact ⟨value, rfl, same⟩
    · rintro ⟨_, same, result⟩
      cases same
      exact result

theorem map_eq_ok {first : Except ε α} {step : α → β} {result : β} :
    first.map step = .ok result ↔ ∃ value, first = .ok value ∧ step value = result := by
  cases first with
  | error refusal =>
    constructor
    · intro same
      cases same
    · rintro ⟨_, same, _⟩
      cases same
  | ok value =>
    constructor
    · intro same
      exact ⟨value, rfl, Except.ok.inj same⟩
    · rintro ⟨_, same, result⟩
      cases same
      exact congrArg Except.ok result

theorem map_eq_error {first : Except ε α} {step : α → β} {refusal : ε} :
    first.map step = .error refusal ↔ first = .error refusal := by
  cases first with
  | error other =>
    constructor <;>
      · intro same
        cases same
        rfl
  | ok value =>
    constructor <;>
      · intro same
        cases same

theorem toOption_eq_some {result : Except ε α} {value : α} :
    result.toOption = some value ↔ result = .ok value := by
  cases result <;> simp [Except.toOption]

theorem map_id (result : Except ε α) : result.map (fun value => value) = result := by
  cases result <;> rfl

/-! ### The first refusal -/

/-- Why a computation is refused, if it is. -/
def refusal? : Except ε α → Option ε
  | .error refusal => some refusal
  | .ok _ => none

theorem refusal?_eq_some {result : Except ε α} {refusal : ε} :
    refusal? result = some refusal ↔ result = .error refusal := by
  cases result <;> simp [refusal?]

theorem refusal?_eq_none {result : Except ε α} :
    refusal? result = none ↔ ∃ value, result = .ok value := by
  cases result <;> simp [refusal?]

theorem refusal?_map (first : Except ε α) (step : α → β) :
    refusal? (first.map step) = refusal? first := by
  cases first <;> rfl

/-- Two steps, of which the second one is refused for the same reason whatever the first one gives. -/
theorem refusal?_bind {first : Except ε α} {next : α → Except ε β} {later : Option ε}
    (same : ∀ value, first = .ok value → refusal? (next value) = later) :
    refusal? (first.bind next) = (refusal? first).or later := by
  cases first with
  | error refusal => rfl
  | ok value => exact same value rfl

/-- The first refused element of a list is refused for a reason. -/
def FirstRefused (refused : α → ε → Prop) (elements : List α) (refusal : ε) : Prop :=
  ∃ before element after, elements = before ++ element :: after ∧
    (∀ earlier ∈ before, ∀ other, ¬refused earlier other) ∧ refused element refusal

/-- The first refusal is what a search for it finds. -/
theorem firstRefused_iff {refused : α → ε → Prop} {refusedFor? : α → Option ε} {elements : List α}
    {refusal : ε} (decides : ∀ element other, refusedFor? element = some other ↔
      refused element other) :
    FirstRefused refused elements refusal ↔ elements.findSome? refusedFor? = some refusal := by
  rw [List.findSome?_eq_some_iff]
  constructor
  · rintro ⟨before, element, after, split, earlier, isRefused⟩
    refine ⟨before, element, after, split, (decides _ _).mpr isRefused, fun other member => ?_⟩
    refine Option.eq_none_iff_forall_ne_some.mpr fun cause found => ?_
    exact earlier other member cause ((decides _ _).mp found)
  · rintro ⟨before, element, after, split, isRefused, earlier⟩
    refine ⟨before, element, after, split, fun other member cause refused => ?_,
      (decides _ _).mp isRefused⟩
    cases (earlier other member).symm.trans ((decides _ _).mpr refused)

/-- No element is refused where the search finds no refusal. -/
theorem unrefused_iff {refused : α → ε → Prop} {refusedFor? : α → Option ε} {elements : List α}
    (decides : ∀ element other, refusedFor? element = some other ↔ refused element other) :
    (∀ element ∈ elements, ∀ other, ¬refused element other) ↔
      elements.findSome? refusedFor? = none := by
  rw [List.findSome?_eq_none_iff]
  refine forall₂_congr fun element _ => ?_
  rw [Option.eq_none_iff_forall_ne_some]
  exact forall_congr' fun other => not_congr (decides element other).symm

end TaskQuery.Outcome
