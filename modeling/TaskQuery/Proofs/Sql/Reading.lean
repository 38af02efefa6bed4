/-
**How the text of a condition is read.**

The rules for pieces carry over to texts: what is read as an operand may be joined to its neighbours
by a keyword, or put into parentheses, and neither it nor its neighbours group in another way.

* `ReadsAs.and`, `ReadsAs.or`, `ReadsAs.enclosed`, `ReadsAs.complement`: texts put together.
* `readsAs_intercalate`: operands with one keyword between any two.
* `exists_readsAs_intercalate`: conjunctions under `AND` are read as one conjunction.
-/

import Mathlib.Data.List.Forall2
import TaskQuery.Expr
import TaskQuery.Proofs.Sql.Grammar

namespace TaskQuery.Sql

/-- A text is read as a formula, and as no other. -/
def ReadsAs (level : Level) (text : String) (formula : Formula) : Prop :=
  ∀ other, Reads level (pieces text.toList) other ↔ other = formula

theorem readsAs_iff {level : Level} {text : String} {formula : Formula} :
    ReadsAs level text formula ↔ Reads level (pieces text.toList) formula := by
  constructor
  · intro readsAs
    exact (readsAs formula).mpr rfl
  · intro reads other
    constructor
    · intro reads'
      exact reads'.unique reads
    · rintro rfl
      exact reads

/-! ### What is read has no stray piece -/

theorem closed_of_balanced {depth : Nat} {pieces : List Piece}
    (balances : balanced depth pieces = true) : Closed pieces := by
  induction pieces generalizing depth with
  | nil => exact Closed.nil
  | cons piece rest inner =>
    intro c member
    rcases List.mem_cons.mp member with rfl | member
    · cases depth <;> exact absurd balances Bool.false_ne_true
    · rcases balanced_cons depth piece with ends | ⟨deeper, moves⟩
      · rw [ends] at balances
        exact absurd balances Bool.false_ne_true
      · rw [moves] at balances
        exact inner balances c member

/-- Pieces that are read as a formula hold no stray piece. -/
theorem Reads.closed {level : Level} {pieces : List Piece} {formula : Formula}
    (reads : Reads level pieces formula) : Closed pieces := by
  induction reads with
  | test isTest => exact closed_of_balanced isTest.balances
  | not _ inner => exact inner.cons (by simp)
  | enclosed _ inner =>
    exact (inner.append (Closed.nil.cons (by simp))).cons (by simp)
  | single _ inner => exact inner
  | and _ _ head tail => exact head.append (tail.cons (by simp))
  | conjunction _ inner => exact inner
  | or _ _ head tail => exact head.append (tail.cons (by simp))

theorem ReadsAs.closed {level : Level} {text : String} {formula : Formula}
    (readsAs : ReadsAs level text formula) : Closed (pieces text.toList) :=
  (readsAs_iff.mp readsAs).closed

/-! ### Texts put together -/

def Connective.piece : Connective → Piece
  | .and => .and
  | .or => .or

theorem pieces_connective {first : String} (connective : Connective) (second : String)
    (closed : Closed (pieces first.toList)) :
    pieces (first ++ (" " ++ connective.keyword ++ " ") ++ second).toList =
      pieces first.toList ++ Connective.piece connective :: pieces second.toList := by
  have spaced : (first ++ (" " ++ connective.keyword ++ " ") ++ second).toList =
      first.toList ++ ' ' :: (connective.keyword.toList ++ ' ' :: second.toList) := by simp
  have keyword : pieces connective.keyword.toList = [Connective.piece connective] := by
    cases connective <;> rfl
  have whole : Closed (pieces connective.keyword.toList) := by
    rw [keyword]
    exact Closed.nil.cons (by cases connective <;> simp [Connective.piece])
  rw [spaced, pieces_blank closed, pieces_blank whole, keyword, List.singleton_append]

namespace ReadsAs

variable {first second text : String} {formula other : Formula}

theorem single (operand : ReadsAs .operand text formula) : ReadsAs .conjunction text formula :=
  readsAs_iff.mpr (.single (readsAs_iff.mp operand))

theorem conjunction (conjunction : ReadsAs .conjunction text formula) :
    ReadsAs .condition text formula :=
  readsAs_iff.mpr (.conjunction (readsAs_iff.mp conjunction))

theorem of_operand (operand : ReadsAs .operand text formula) :
    ∀ level, ReadsAs level text formula
  | .operand => operand
  | .conjunction => operand.single
  | .condition => operand.single.conjunction

theorem condition : ∀ {level : Level}, ReadsAs level text formula → ReadsAs .condition text formula
  | .operand, operand => operand.single.conjunction
  | .conjunction, conjunction => conjunction.conjunction
  | .condition, condition => condition

theorem and (head : ReadsAs .operand first formula) (tail : ReadsAs .conjunction second other) :
    ReadsAs .conjunction (first ++ " AND " ++ second) (.and formula other) := by
  have joined := pieces_connective .and second head.closed
  refine readsAs_iff.mpr ?_
  show Reads _ (pieces (first ++ (" " ++ Connective.keyword .and ++ " ") ++ second).toList) _
  rw [joined]
  exact .and (readsAs_iff.mp head) (readsAs_iff.mp tail)

theorem or (head : ReadsAs .conjunction first formula) (tail : ReadsAs .condition second other) :
    ReadsAs .condition (first ++ " OR " ++ second) (.or formula other) := by
  have joined := pieces_connective .or second head.closed
  refine readsAs_iff.mpr ?_
  show Reads _ (pieces (first ++ (" " ++ Connective.keyword .or ++ " ") ++ second).toList) _
  rw [joined]
  exact .or (readsAs_iff.mp head) (readsAs_iff.mp tail)

theorem enclosed (inner : ReadsAs .condition text formula) :
    ReadsAs .operand ("(" ++ text ++ ")") formula := by
  have spelled : ("(" ++ text ++ ")").toList = '(' :: text.toList ++ [')'] := by simp
  refine readsAs_iff.mpr ?_
  rw [spelled, pieces_enclosed inner.closed]
  exact .enclosed (readsAs_iff.mp inner)

theorem complement (inner : ReadsAs .condition text formula) :
    ReadsAs .operand ("NOT (" ++ text ++ ")") (.not formula) := by
  have spelled : ("NOT (" ++ text ++ ")").toList =
      "NOT".toList ++ ' ' :: ("(" ++ text ++ ")").toList := by simp
  have keyword : pieces "NOT".toList = [.not] := rfl
  have whole : Closed (pieces "NOT".toList) := by
    rw [keyword]
    exact Closed.nil.cons (by simp)
  refine readsAs_iff.mpr ?_
  rw [spelled, pieces_blank whole, keyword]
  exact .not (readsAs_iff.mp inner.enclosed)

end ReadsAs

/-! ### Chains -/

namespace Formula

/-- Some formulas under one connective. -/
def chain (connective : Connective) (first : Formula) : List Formula → Formula
  | [] => first
  | second :: rest =>
    match connective with
    | .and => and first (chain .and second rest)
    | .or => or first (chain .or second rest)

/-- The formulas that a formula is a conjunction of. -/
def conjuncts : Formula → List Formula
  | and first second => first.conjuncts ++ second.conjuncts
  | formula => [formula]

/-- A formula holds of a row as the conjunction of its conjuncts does. -/
theorem value_conjuncts (assigned : List Piece → Truth) (formula : Formula) :
    Truth.all (formula.conjuncts.map (value assigned)) = formula.value assigned := by
  induction formula with
  | and first second left right =>
    rw [conjuncts, List.map_append, Truth.all_append, left, right, value]
  | _ => simp [conjuncts]

theorem value_chain_and (assigned : List Piece → Truth) (first : Formula) (rest : List Formula) :
    (chain .and first rest).value assigned = Truth.all ((first :: rest).map (value assigned)) := by
  induction rest generalizing first with
  | nil => simp [chain]
  | cons second rest inner => exact congrArg (Truth.and _) (inner second)

theorem value_chain_or (assigned : List Piece → Truth) (first : Formula) (rest : List Formula) :
    (chain .or first rest).value assigned = Truth.any ((first :: rest).map (value assigned)) := by
  induction rest generalizing first with
  | nil => simp [chain]
  | cons second rest inner => exact congrArg (Truth.or _) (inner second)

end Formula

def Level.ofConnective : Connective → Level
  | .and => .conjunction
  | .or => .condition

/-- Operands with one keyword between any two. -/
theorem readsAs_intercalate (connective : Connective) {text : String} {formula : Formula}
    {texts : List String} {formulas : List Formula} (head : ReadsAs .operand text formula)
    (tail : List.Forall₂ (ReadsAs .operand) texts formulas) :
    ReadsAs (.ofConnective connective)
      (String.intercalate (" " ++ connective.keyword ++ " ") (text :: texts))
      (Formula.chain connective formula formulas) := by
  induction tail generalizing text formula with
  | nil => exact String.intercalate_singleton ▸ head.of_operand _
  | cons next _ inner =>
    rw [String.intercalate_cons_cons]
    cases connective with
    | and => exact head.and (inner next)
    | or => exact head.single.or (inner next)

/-- Two conjunctions under `AND` are read as one: the conjuncts of both, in order. -/
theorem Reads.exists_and {left right : List Piece} {first second : Formula}
    (head : Reads .conjunction left first) (tail : Reads .conjunction right second) :
    ∃ both, Reads .conjunction (left ++ .and :: right) both ∧
      both.conjuncts = first.conjuncts ++ second.conjuncts := by
  generalize isConjunction : Level.conjunction = level at head
  induction head with
  | single operand => exact ⟨_, .and operand tail, rfl⟩
  | @and _ _ leading _ operand _ _ inner =>
    obtain ⟨both, reads, listed⟩ := inner isConjunction
    refine ⟨.and leading both, ?_, ?_⟩
    · rw [List.append_assoc]
      exact .and operand reads
    · rw [Formula.conjuncts, listed, Formula.conjuncts, List.append_assoc]
  | _ => cases isConjunction

theorem ReadsAs.exists_and {left right : String} {first second : Formula}
    (head : ReadsAs .conjunction left first) (tail : ReadsAs .conjunction right second) :
    ∃ both, ReadsAs .conjunction (left ++ " AND " ++ right) both ∧
      both.conjuncts = first.conjuncts ++ second.conjuncts := by
  obtain ⟨both, reads, listed⟩ := (readsAs_iff.mp head).exists_and (readsAs_iff.mp tail)
  have joined := pieces_connective .and right head.closed
  exact ⟨both, readsAs_iff.mpr (joined ▸ reads), listed⟩

/-- Conjunctions with `AND` between any two are read as one conjunction. -/
theorem exists_readsAs_intercalate {text : String} {formula : Formula} {texts : List String}
    {formulas : List Formula} (head : ReadsAs .conjunction text formula)
    (tail : List.Forall₂ (ReadsAs .conjunction) texts formulas) :
    ∃ whole, ReadsAs .conjunction (String.intercalate " AND " (text :: texts)) whole ∧
      whole.conjuncts = (formula :: formulas).flatMap Formula.conjuncts := by
  induction tail generalizing text formula with
  | nil =>
    refine ⟨formula, ?_, ?_⟩
    · exact String.intercalate_singleton ▸ head
    · simp
  | cons next _ inner =>
    obtain ⟨rest, reads, listed⟩ := inner next
    obtain ⟨whole, readsWhole, conjuncts⟩ := head.exists_and reads
    refine ⟨whole, ?_, ?_⟩
    · rw [String.intercalate_cons_cons]
      exact readsWhole
    · rw [conjuncts, listed, ← List.flatMap_cons]

/-! ### Surroundings -/

/-- The text before and after a place where an operand may stand, and the formula around it. The
neighbours of the place are read on their own. -/
inductive Surrounds : Level → String → String → (Formula → Formula) → Prop where
  | here : Surrounds .operand "" "" id
  | enclosed {before after : String} {put : Formula → Formula}
      (inner : Surrounds .condition before after put) :
      Surrounds .operand ("(" ++ before) (after ++ ")") put
  | complement {before after : String} {put : Formula → Formula}
      (inner : Surrounds .condition before after put) :
      Surrounds .operand ("NOT (" ++ before) (after ++ ")") fun formula => .not (put formula)
  | single {before after : String} {put : Formula → Formula}
      (inner : Surrounds .operand before after put) : Surrounds .conjunction before after put
  | andNext {before after next : String} {put : Formula → Formula} {other : Formula}
      (inner : Surrounds .operand before after put) (neighbour : ReadsAs .conjunction next other) :
      Surrounds .conjunction before (after ++ " AND " ++ next) fun formula =>
        .and (put formula) other
  | andPrevious {before after previous : String} {put : Formula → Formula} {other : Formula}
      (neighbour : ReadsAs .operand previous other)
      (inner : Surrounds .conjunction before after put) :
      Surrounds .conjunction (previous ++ " AND " ++ before) after fun formula =>
        .and other (put formula)
  | conjunction {before after : String} {put : Formula → Formula}
      (inner : Surrounds .conjunction before after put) : Surrounds .condition before after put
  | orNext {before after next : String} {put : Formula → Formula} {other : Formula}
      (inner : Surrounds .conjunction before after put)
      (neighbour : ReadsAs .condition next other) :
      Surrounds .condition before (after ++ " OR " ++ next) fun formula => .or (put formula) other
  | orPrevious {before after previous : String} {put : Formula → Formula} {other : Formula}
      (neighbour : ReadsAs .conjunction previous other)
      (inner : Surrounds .condition before after put) :
      Surrounds .condition (previous ++ " OR " ++ before) after fun formula =>
        .or other (put formula)

/-- **An operand is read in its place as it is read by itself**, and what surrounds it is read as it
is around any other operand. -/
theorem Surrounds.readsAs {level : Level} {before after text : String}
    {put : Formula → Formula} {formula : Formula} (surrounds : Surrounds level before after put)
    (operand : ReadsAs .operand text formula) :
    ReadsAs level (before ++ text ++ after) (put formula) := by
  induction surrounds with
  | here => simpa using operand
  | enclosed _ inner => simpa [String.append_assoc] using inner.enclosed
  | complement _ inner => simpa [String.append_assoc] using inner.complement
  | single _ inner => exact inner.single
  | andNext _ neighbour inner => simpa [String.append_assoc] using inner.and neighbour
  | andPrevious neighbour _ inner => simpa [String.append_assoc] using neighbour.and inner
  | conjunction _ inner => exact inner.conjunction
  | orNext _ neighbour inner => simpa [String.append_assoc] using inner.or neighbour
  | orPrevious neighbour _ inner => simpa [String.append_assoc] using neighbour.or inner

end TaskQuery.Sql
