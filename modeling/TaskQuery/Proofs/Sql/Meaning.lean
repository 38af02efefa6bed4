/-
**A clause means what its expression means.**

An expression has a truth value on a row once every atomic test has one; parts without any condition
put no constraint. Whatever clause an expression is lowered to, negated or not and at whatever
depth, a database reads it as the value of the expression or as its complement.

* `Expr.value`: the truth value of an expression.
* `Expr.lower_meets`: the clause of an expression has this value.
* `lowered_reads_as_value`: the same as a reading of the written clause, in any surroundings.
-/

import TaskQuery.Proofs.Sql.Fragment
import TaskQuery.Proofs.Sql.Inversion

namespace TaskQuery

open Calendar (Instant Vantage)
open Sql
open Outcome (bind_eq_ok map_eq_ok)

/-! ### The value of an expression -/

namespace Sql.Truth

/-- A truth value or its complement. -/
def negateIf (negated : Bool) (truth : Truth) : Truth :=
  if negated then truth.not else truth

/-- Some truth values under a connective: none of none. -/
def combine (connective : Connective) : List Truth → Option Truth
  | [] => none
  | truths =>
    some (match connective with
      | .and => all truths
      | .or => any truths)

/-- The complement of a junction is the dual junction of the complements. -/
theorem combine_negateIf (connective : Connective) (negated : Bool) (truths : List Truth) :
    combine (if negated then connective.dual else connective) (truths.map (negateIf negated)) =
      (combine connective truths).map (negateIf negated) := by
  cases truths with
  | nil => rfl
  | cons truth rest =>
    cases negated with
    | false =>
      have same : (truth :: rest).map (negateIf false) = truth :: rest := List.map_id' _
      rw [same]
      exact Option.map_id'.symm
    | true =>
      cases connective with
      | and => exact congrArg some (not_all (truth :: rest)).symm
      | or => exact congrArg some (not_any (truth :: rest)).symm

end Sql.Truth

/-- What a condition says of a row on which each written test has a truth value: a search has to
find its text in the title or in the body, and any other condition is one test. -/
def Condition.truth (schema : Schema) (vantage : Vantage) (assigned : List Piece → Truth)
    (condition : Condition) : Truth :=
  if condition.name = ":search" then
    (assigned ((Test.found .title condition.value).written schema)).or
      (assigned ((Test.found .body condition.value).written schema))
  else
    match condition.lower vantage false with
    | .ok (.test test) => assigned (test.written schema)
    | _ => .unknown

mutual

/-- The truth value of an expression, if any condition is in it. -/
def Expr.value (truth : Condition → Truth) : Expr → Option Truth
  | .test condition => some (truth condition)
  | .junction connective parts => Truth.combine connective (Expr.values truth parts)
  | .not inner => (inner.value truth).map Truth.not

/-- The truth values of those of some expressions that have one. -/
def Expr.values (truth : Condition → Truth) : List Expr → List Truth
  | [] => []
  | part :: rest => (part.value truth).toList ++ Expr.values truth rest

end

mutual

/-- The conditions of an expression from left to right. -/
def Expr.conditions : Expr → List Condition
  | .test condition => [condition]
  | .junction _ parts => Expr.conditionsOfParts parts
  | .not inner => inner.conditions

def Expr.conditionsOfParts : List Expr → List Condition
  | [] => []
  | part :: rest => part.conditions ++ Expr.conditionsOfParts rest

end

theorem Junction.conditions_all (conditions : List Condition) :
    (all conditions).toExpr.conditions = conditions := by
  show Expr.conditionsOfParts (conditions.map Expr.test) = conditions
  induction conditions with
  | nil => rfl
  | cons condition rest inner =>
    rw [List.map_cons, Expr.conditionsOfParts, inner]
    rfl

mutual

/-- An expression says nothing of a row exactly if it has no condition. -/
theorem Expr.value_eq_none_iff (truth : Condition → Truth) :
    ∀ expr : Expr, expr.value truth = none ↔ expr.conditions = []
  | .test condition => by
    rw [Expr.value, Expr.conditions]
    constructor
    · intro none
      cases none
    · intro none
      cases none
  | .junction connective parts => by
    rw [Expr.value, Expr.conditions, ← Expr.values_eq_nil_iff truth parts]
    cases Expr.values truth parts with
    | nil => exact ⟨fun _ => rfl, fun _ => rfl⟩
    | cons first rest =>
      constructor
      · intro none
        cases none
      · intro none
        cases none
  | .not inner => by
    rw [Expr.value, Expr.conditions, Option.map_eq_none_iff]
    exact Expr.value_eq_none_iff truth inner

theorem Expr.values_eq_nil_iff (truth : Condition → Truth) :
    ∀ parts : List Expr, Expr.values truth parts = [] ↔ Expr.conditionsOfParts parts = []
  | [] => ⟨fun _ => rfl, fun _ => rfl⟩
  | part :: rest => by
    rw [Expr.values, Expr.conditionsOfParts, List.append_eq_nil_iff, List.append_eq_nil_iff,
      Option.toList_eq_nil_iff, Expr.value_eq_none_iff truth part,
      Expr.values_eq_nil_iff truth rest]

end

/-! ### Conditions -/

namespace Condition

variable {condition : Condition} {vantage : Vantage} {clause : Clause}

/-- A test that no caller supplied. -/
def IsOwnTest (clause : Clause) : Prop :=
  ∃ test, clause = .test test ∧ ∀ text, test ≠ .custom text

theorem lowerPriority_test (lowered : condition.lowerPriority = .ok clause) : IsOwnTest clause := by
  obtain ⟨_, _, _, _, rfl⟩ := lowerPriority_clause lowered
  exact ⟨_, rfl, fun _ same => by cases same⟩

theorem lowerWhen_test (lowered : condition.lowerWhen vantage = .ok clause) :
    IsOwnTest clause := by
  rcases lowerWhen_clause lowered with ⟨_, rfl⟩ | ⟨_, _, _, _, _, rfl⟩
  · exact ⟨_, rfl, fun _ same => by cases same⟩
  · exact ⟨_, rfl, fun _ same => by cases same⟩

theorem lowerColumn_test {column : Column} (lowered : condition.lowerColumn column = .ok clause) :
    IsOwnTest clause := by
  rcases lowerColumn_clause lowered with ⟨_, rfl⟩ | ⟨_, _, _, rfl⟩
  · exact ⟨_, rfl, fun _ same => by cases same⟩
  · exact ⟨_, rfl, fun _ same => by cases same⟩

/-- A search is lowered to two tests and every other condition on a field to one. -/
theorem lowerField_cases (lowered : condition.lowerField vantage = .ok clause) :
    (condition.name = ":search" ∧ clause = foundAnywhere condition.value) ∨
      (condition.name ≠ ":search" ∧ IsOwnTest clause) := by
  unfold lowerField at lowered
  split at lowered
  · next name => exact Or.inr ⟨by simp [name], lowerPriority_test lowered⟩
  · next name => exact Or.inr ⟨by simp [name], lowerWhen_test lowered⟩
  · next name => exact Or.inr ⟨by simp [name], lowerColumn_test lowered⟩
  · next name => exact Or.inr ⟨by simp [name], lowerColumn_test lowered⟩
  · next name => exact Or.inr ⟨by simp [name], lowerColumn_test lowered⟩
  · next name => exact Or.inl ⟨name, lowerSearch_clause lowered⟩
  · cases lowered

/-- A tag is lowered to one test, and its complement to the complement of this test. -/
theorem lowerTag_cases {negated : Bool} (lowered : condition.lowerTag negated = .ok clause) :
    ∃ value, clause =
        (if negated then .untagged condition.name value else .test (.tagged condition.name value)) ∧
      condition.lowerTag false = .ok (.test (.tagged condition.name value)) := by
  unfold lowerTag at lowered
  dsimp only at lowered
  by_cases absent : condition.op.isEmpty = true
  · rw [if_pos absent] at lowered
    cases lowered
    refine ⟨none, rfl, ?_⟩
    rw [lowerTag, if_pos absent]
    rfl
  · rw [if_neg absent] at lowered
    obtain ⟨operator, known, rfl⟩ := map_eq_ok.mp lowered
    refine ⟨some (operator, condition.value), rfl, ?_⟩
    rw [lowerTag, if_neg absent, known]
    rfl

end Condition

/-! ### Clauses and truth values -/

section Meeting

variable {schema : Schema}

/-- A clause, or none, says of every row what it should: it is read as a formula of this value. -/
def Meets (schema : Schema) (level : Level) (truth : (List Piece → Truth) → Option Truth) :
    Option Clause → Prop
  | none => ∀ assigned, truth assigned = none
  | some clause => ∃ formula, ReadsAs level (clause.render schema .standard) formula ∧
      ∀ assigned, truth assigned = some (formula.value assigned)

/-- The same for each of some clauses. -/
def MeetsAll (schema : Schema) (level : Level) (truths : (List Piece → Truth) → List Truth)
    (clauses : List Clause) : Prop :=
  ∃ formulas, List.Forall₂ (ReadsAs level) (clauses.map (Clause.render schema .standard))
      formulas ∧
    ∀ assigned, truths assigned = formulas.map (Formula.value assigned)

theorem foundAnywhere_readsAs (plain : schema.IsPlain) (search : String) :
    ReadsAs .operand ((Condition.foundAnywhere search).render schema .standard)
      (.or (.test ((Test.found .title search).written schema))
        (.test ((Test.found .body search).written schema))) := by
  have title := Test.readsAs plain (.found .title search) (fun _ same => by cases same)
  have body := Test.readsAs plain (.found .body search) (fun _ same => by cases same)
  rw [Condition.foundAnywhere, render_enclosed, render_chain]
  exact (readsAs_intercalate .or title (.cons body .nil)).enclosed

/-- A condition is lowered to its truth value, or to the complement. -/
theorem Condition.lower_meets (plain : schema.IsPlain) {condition : Condition} {vantage : Vantage}
    {negated : Bool} {clause : Clause} (lowered : condition.lower vantage negated = .ok clause) :
    Meets schema .operand
      (fun assigned => some ((condition.truth schema vantage assigned).negateIf negated))
      (some clause) := by
  by_cases onField : condition.isField = true
  · rw [Condition.lower, if_pos onField] at lowered
    obtain ⟨positive, field, rfl⟩ := map_eq_ok.mp lowered
    have whole : condition.lower vantage false = .ok positive := by
      rw [Condition.lower, if_pos onField, field]
      rfl
    -- What the field itself is read as; a negation adds a complement.
    have ⟨formula, reads, value⟩ : Meets schema .operand
        (fun assigned => some (condition.truth schema vantage assigned)) (some positive) := by
      rcases lowerField_cases field with ⟨search, rfl⟩ | ⟨notSearch, test, rfl, own⟩
      · refine ⟨_, foundAnywhere_readsAs plain condition.value, fun assigned => ?_⟩
        simp only [Condition.truth, if_pos search]
        rfl
      · refine ⟨_, Test.readsAs plain test own, fun assigned => ?_⟩
        simp only [Condition.truth, if_neg notSearch, whole]
        rfl
    cases negated with
    | false => exact ⟨formula, reads, value⟩
    | true =>
      refine ⟨.not formula, ?_, fun assigned => ?_⟩
      · rw [if_pos rfl, render_complement]
        exact reads.condition.complement
      · exact congrArg (Option.map Truth.not) (value assigned)
  · rw [Condition.lower, if_neg onField] at lowered
    obtain ⟨tagValue, rfl, positive⟩ := lowerTag_cases lowered
    have whole : condition.lower vantage false = .ok (.test (.tagged condition.name tagValue)) := by
      rw [Condition.lower, if_neg onField, positive]
    have notSearch : condition.name ≠ ":search" := by
      intro search
      exact onField (by rw [Condition.isField, search]; rfl)
    have value (assigned : List Piece → Truth) : condition.truth schema vantage assigned =
        assigned ((Test.tagged condition.name tagValue).written schema) := by
      rw [truth, if_neg notSearch, whole]
    cases negated with
    | false =>
      refine ⟨_, Test.readsAs plain (.tagged condition.name tagValue)
        (fun _ same => by cases same), fun assigned => ?_⟩
      exact congrArg some (value assigned)
    | true =>
      refine ⟨_, readsAs_untagged plain condition.name tagValue, fun assigned => ?_⟩
      exact congrArg (fun truth => some (Truth.not truth)) (value assigned)

/-! ### Expressions -/

/-- A junction of operands: a chain of several holds together as its connective does, and within
parentheses as an operand. -/
theorem join_meets (connective : Connective) (inside : Bool) {clauses : List Clause}
    {truths : (List Piece → Truth) → List Truth} (parts : MeetsAll schema .operand truths clauses) :
    Meets schema (if inside then .operand else .ofConnective connective)
      (fun assigned => Truth.combine connective (truths assigned))
      (Clause.join connective inside clauses) := by
  obtain ⟨formulas, reads, values⟩ := parts
  simp only [values]
  match clauses, formulas, reads with
  | [], [], _ => exact fun _ => rfl
  | [clause], [formula], .cons operand .nil =>
    refine ⟨formula, operand.of_operand _, fun assigned => ?_⟩
    cases connective <;> simp [Truth.combine]
  | first :: second :: rest, formula :: other :: formulas, .cons head tail =>
    have chained := render_chain schema .standard connective (first :: second :: rest) ▸
      readsAs_intercalate connective head tail
    have value (assigned : List Piece → Truth) :
        Truth.combine connective ((formula :: other :: formulas).map (Formula.value assigned)) =
          some ((Formula.chain connective formula (other :: formulas)).value assigned) := by
      cases connective with
      | and => exact congrArg some (Formula.value_chain_and assigned _ _).symm
      | or => exact congrArg some (Formula.value_chain_or assigned _ _).symm
    refine ⟨Formula.chain connective formula (other :: formulas), ?_, value⟩
    cases inside with
    | false => exact chained
    | true =>
      show ReadsAs .operand (Clause.render schema .standard (.enclosed _)) _
      rw [render_enclosed]
      exact chained.condition.enclosed

theorem Meets.congr {level : Level} {truth truth' : (List Piece → Truth) → Option Truth}
    {found : Option Clause} (meets : Meets schema level truth found)
    (same : ∀ assigned, truth assigned = truth' assigned) : Meets schema level truth' found := by
  rw [← funext same]
  exact meets

theorem MeetsAll.congr {level : Level} {truths truths' : (List Piece → Truth) → List Truth}
    {clauses : List Clause} (meets : MeetsAll schema level truths clauses)
    (same : ∀ assigned, truths assigned = truths' assigned) :
    MeetsAll schema level truths' clauses := by
  rw [← funext same]
  exact meets

theorem Meets.of_operand {truth : (List Piece → Truth) → Option Truth} {found : Option Clause}
    (meets : Meets schema .operand truth found) (level : Level) :
    Meets schema level truth found := by
  cases found with
  | none => exact meets
  | some clause =>
    obtain ⟨formula, reads, value⟩ := meets
    exact ⟨formula, reads.of_operand level, value⟩

theorem Meets.condition {level : Level} {truth : (List Piece → Truth) → Option Truth}
    {found : Option Clause} (meets : Meets schema level truth found) :
    Meets schema .condition truth found := by
  cases found with
  | none => exact meets
  | some clause =>
    obtain ⟨formula, reads, value⟩ := meets
    exact ⟨formula, reads.condition, value⟩

/-- The level of a clause at a depth: at depth zero it stands by itself. -/
def levelAt (depth : Nat) : Level :=
  if depth = 0 then .condition else .operand

theorem Meets.levelAt {connective : Connective} {depth : Nat}
    {truth : (List Piece → Truth) → Option Truth} {found : Option Clause}
    (meets : Meets schema (if depth != 0 then .operand else .ofConnective connective) truth found) :
    Meets schema (levelAt depth) truth found := by
  cases depth with
  | zero => exact meets.condition
  | succ depth => exact meets

/-- The complement of what a clause says. -/
theorem Meets.complement {level : Level} {truth : (List Piece → Truth) → Option Truth}
    {found : Option Clause} (meets : Meets schema level truth found) :
    Meets schema .operand (fun assigned => (truth assigned).map Truth.not)
      (found.map Clause.complement) := by
  cases found with
  | none => exact fun assigned => congrArg (Option.map Truth.not) (meets assigned)
  | some clause =>
    obtain ⟨formula, reads, value⟩ := meets
    refine ⟨.not formula, ?_, fun assigned => congrArg (Option.map Truth.not) (value assigned)⟩
    rw [render_complement]
    exact reads.condition.complement

theorem MeetsAll.nil {level : Level} {truths : (List Piece → Truth) → List Truth}
    (none : ∀ assigned, truths assigned = []) : MeetsAll schema level truths [] :=
  ⟨[], .nil, none⟩

theorem MeetsAll.append {level : Level} {truths truths' : (List Piece → Truth) → List Truth}
    {clauses clauses' : List Clause} (meets : MeetsAll schema level truths clauses)
    (meets' : MeetsAll schema level truths' clauses') :
    MeetsAll schema level (fun assigned => truths assigned ++ truths' assigned)
      (clauses ++ clauses') := by
  obtain ⟨formulas, reads, values⟩ := meets
  obtain ⟨formulas', reads', values'⟩ := meets'
  refine ⟨formulas ++ formulas', ?_, fun assigned => ?_⟩
  · rw [List.map_append]
    exact List.rel_append reads reads'
  · show truths assigned ++ truths' assigned = _
    rw [values, values', List.map_append]

/-- One clause, or none. -/
theorem Meets.toList {level : Level} {truth : (List Piece → Truth) → Option Truth}
    {found : Option Clause} (meets : Meets schema level truth found) :
    MeetsAll schema level (fun assigned => (truth assigned).toList) found.toList := by
  cases found with
  | none => exact MeetsAll.nil fun assigned => congrArg Option.toList (meets assigned)
  | some clause =>
    obtain ⟨formula, reads, value⟩ := meets
    exact ⟨[formula], .cons reads .nil, fun assigned => congrArg Option.toList (value assigned)⟩

theorem MeetsAll.of_operand {truths : (List Piece → Truth) → List Truth} {clauses : List Clause}
    (meets : MeetsAll schema .operand truths clauses) (level : Level) :
    MeetsAll schema level truths clauses := by
  obtain ⟨formulas, reads, values⟩ := meets
  exact ⟨formulas, reads.imp fun _ _ operand => operand.of_operand level, values⟩

mutual

/-- **A clause means what its expression means.** The induction is on the expression, together with
the parts of a junction, for any negation and any depth. -/
theorem Expr.lower_meets (plain : schema.IsPlain) {vantage : Vantage} {negated : Bool}
    {depth : Nat} {found : Option Clause} :
    ∀ expr : Expr, expr.lower vantage negated depth = .ok found →
      Meets schema (levelAt depth)
        (fun assigned => (expr.value (Condition.truth schema vantage assigned)).map
          (Truth.negateIf negated)) found
  | .test condition, lowered => by
    obtain ⟨clause, single, rfl⟩ := map_eq_ok.mp lowered
    exact (condition.lower_meets plain single).of_operand _
  | .junction connective parts, lowered => by
    obtain ⟨clauses, several, rfl⟩ := map_eq_ok.mp lowered
    have joined := join_meets (if negated then connective.dual else connective) (depth != 0)
      (Expr.lowerParts_meets plain parts several)
    simp only [Truth.combine_negateIf] at joined
    exact joined.levelAt
  | .not inner, lowered => by
    rw [Expr.lower] at lowered
    cases negated with
    | true =>
      -- The two complements cancel, and the depth stays as it is.
      have cancelled := Expr.lower_meets plain inner lowered
      refine cancelled.congr fun assigned => ?_
      rw [Expr.value, Option.map_map]
      refine congrArg (fun step => Option.map step _) (funext fun truth => ?_)
      exact (Truth.not_not truth).symm
    | false =>
      obtain ⟨positive, within, rfl⟩ := map_eq_ok.mp lowered
      have complement := (Expr.lower_meets plain inner within).complement
      refine (complement.of_operand _).congr fun assigned => ?_
      rw [Expr.value, Option.map_map, Option.map_map]
      rfl

theorem Expr.lowerParts_meets (plain : schema.IsPlain) {vantage : Vantage} {negated : Bool}
    {depth : Nat} {clauses : List Clause} :
    ∀ parts : List Expr, Expr.lowerParts vantage negated (depth + 1) parts = .ok clauses →
      MeetsAll schema .operand
        (fun assigned => (Expr.values (Condition.truth schema vantage assigned) parts).map
          (Truth.negateIf negated)) clauses
  | [], lowered => by
    cases lowered
    exact MeetsAll.nil fun _ => rfl
  | part :: rest, lowered => by
    obtain ⟨found, head, remaining⟩ := bind_eq_ok.mp lowered
    obtain ⟨clauses, tail, rfl⟩ := map_eq_ok.mp remaining
    have first := (Expr.lower_meets plain part head).toList
    refine (first.append (Expr.lowerParts_meets plain rest tail)).congr fun assigned => ?_
    rw [Expr.values, List.map_append, Option.toList_map]

end

/-- **A clause is read as the value of its expression**, or as the complement. Above depth zero it
may stand in any surroundings of an operand, and neither it nor its neighbours group in another
way. -/
theorem lowered_reads_as_value (schema : Schema) (plain : schema.IsPlain) (vantage : Vantage)
    (negated : Bool) (depth : Nat) (expr : Expr) (clause : Clause)
    (lowered : expr.lower vantage negated depth = .ok (some clause)) :
    ∃ formula,
      ReadsAs .condition (clause.render schema .standard) formula ∧
      (∀ assigned, ∃ truth, expr.value (Condition.truth schema vantage assigned) = some truth ∧
        formula.value assigned = if negated then truth.not else truth) ∧
      (0 < depth → ∀ level before after put, Surrounds level before after put →
        ReadsAs level (before ++ clause.render schema .standard ++ after) (put formula)) := by
  obtain ⟨formula, reads, value⟩ := Expr.lower_meets plain expr lowered
  refine ⟨formula, reads.condition, fun assigned => ?_,
    fun positive level before after put around => ?_⟩
  · obtain ⟨truth, has, signed⟩ := Option.map_eq_some_iff.mp (value assigned)
    exact ⟨truth, has, signed.symm⟩
  · rw [levelAt, if_neg (Nat.ne_of_gt positive)] at reads
    exact around.readsAs reads

/-- A negated disjunction of a tag, of a complement of which one part is vacuous, and of a search
for a text that holds a keyword and a parenthesis. -/
theorem lowered_reads_as_value_nested :
    let expr : Expr := .junction .or [.test (.tag "home"),
      .not (.junction .and [.junction .or [], .test (.compare ":id" "=" "7")]),
      .test (.compare ":search" "match" "') OR (")]
    let vantage : Vantage := { now := Instant.unixEpoch, zone := ⟨0, by decide⟩ }
    let clause : Clause := .enclosed (.chain .and [.untagged "home" none,
      .test (.column .id (.comparison .eq) (.number 7)),
      .complement (Condition.foundAnywhere "') OR (")])
    Schema.IsPlain {} ∧ expr.lower vantage true 1 = .ok (some clause) ∧ 0 < 1 ∧
      ∃ formula,
        ReadsAs .condition (clause.render {} .standard) formula ∧
        (∀ assigned, ∃ truth, expr.value (Condition.truth {} vantage assigned) = some truth ∧
          formula.value assigned = truth.not) ∧
        (∀ level before after put, Surrounds level before after put →
          ReadsAs level (before ++ clause.render {} .standard ++ after) (put formula)) := by
  intro expr vantage clause
  have plain : Schema.IsPlain {} := Schema.default_isPlain
  have lowered : expr.lower vantage true 1 = .ok (some clause) := by rfl
  obtain ⟨formula, reads, value, placed⟩ :=
    lowered_reads_as_value {} plain vantage true 1 expr clause lowered
  exact ⟨plain, lowered, Nat.one_pos, formula, reads, value, placed Nat.one_pos⟩

end Meeting

end TaskQuery
