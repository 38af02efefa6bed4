/-
**The fields that a query tests decide whether it is refused.**

A query tests a field where an option marker, a name, a comparison and a value stand in it. Such a
test is refused for one of four reasons, which its name, comparison and value decide. Nothing else
that is read from a text is refused: tags and their comparisons, exclusions, the shorthands of dates
and priorities, options without a value, and free text.

* `FieldTest.Refused`: the reasons.
* `fieldTests`: the tests of fields of some tokens.
* `Item.next_refusal?`: an item is refused as the field test with which it begins.
* `Query.read_refused_iff`: the first refused field test of a text refuses its query.
-/

import TaskQuery.Proofs.Query.WellFormed
import TaskQuery.Proofs.Sql.Leaves

namespace TaskQuery

open Calendar (DateError Instant Vantage)
open Sql
open Outcome

/-! ### Tests of fields -/

/-- The test of a field as it is written: a name, a comparison and a value. -/
structure FieldTest where
  field : String
  relation : Comparison
  value : String
  deriving DecidableEq, Repr

/-- The fields that a query may test. -/
def fieldNames : List String :=
  ["priority", "when", "id", "title_field", "text_field", "search"]

namespace FieldTest

/-- The condition that a test of a field says. -/
def condition (vantage : Vantage) (test : FieldTest) : Condition :=
  Item.field vantage test.field test.relation test.value

/-- Why a test of a field is refused. -/
inductive Refused (vantage : Vantage) (test : FieldTest) : CompileError → Prop where
  | unknownField (unknown : test.field ∉ fieldNames) :
      Refused vantage test (.unknownField (":" ++ test.field))
  | invalidDate {cause : DateError} (isWhen : test.field = "when")
      (unread : vantage.read test.value = .error cause) :
      Refused vantage test (.invalidDate test.value cause)
  | invalidPriority (isPriority : test.field = "priority")
      (noShorthand : Priority.ofShorthand? test.value = none)
      (noRank : ∀ rank, Text.int64? test.value = some rank → ¬(0 ≤ rank ∧ rank ≤ 5)) :
      Refused vantage test (.invalidPriority test.value)
  | unknownOperator (isSearch : test.field = "search") (unequal : test.relation ≠ .eq) :
      Refused vantage test (.unknownOperator ":search" test.relation.text)

end FieldTest

/-- The test of a field with which some tokens begin. -/
def fieldTest? : Token → List Token → Option FieldTest
  | .optionMark _, .name name :: rest =>
    (Item.comparison? rest).map fun (relation, value, _) =>
      { field := String.ofList name, relation, value := String.ofList value }
  | _, _ => none

/-- The tests of fields among the items of some tokens. -/
def fieldTestsOf (vantage : Vantage) : List Token → List FieldTest
  | [] => []
  | token :: rest =>
    (fieldTest? token rest).toList ++ fieldTestsOf vantage (Item.next vantage token rest).2
termination_by tokens => tokens.length
decreasing_by
  have shorter := (Item.next_suffix vantage token rest).length_le
  simp only [List.length_cons]; omega

/-- The tests of fields that a text writes, from left to right. -/
def fieldTests (vantage : Vantage) (text : String) : List FieldTest :=
  fieldTestsOf vantage (tokenize text).tokens

/-! ### Conditions that are never refused -/

namespace Condition

variable {condition : Condition}

theorem comparison_of_relation {relation : Comparison} (written : condition.op = relation.text) :
    condition.comparison = .ok relation := by
  have notEmpty : ¬condition.op.isEmpty = true := by
    rw [written]
    cases relation <;> decide
  rw [comparison, if_neg notEmpty, written, Comparison.ofText?_text]

theorem operator_of_relation {relation : Comparison} (written : condition.op = relation.text) :
    condition.operator = .ok (.comparison relation) := by
  rw [operator, Operator.ofText?, written, Comparison.ofText?_text]

/-- A test of a tag is never refused. -/
theorem WellFormed.lower_tag (wellFormed : condition.WellFormed) (isTag : IsTag condition.name)
    (vantage : Vantage) (negated : Bool) : refusal? (condition.lower vantage negated) = none := by
  have onTag : ¬condition.isField = true := by rw [isTag.isField]; exact Bool.false_ne_true
  rw [lower, if_neg onTag, lowerTag]
  dsimp only
  split
  · rfl
  · next written =>
    obtain ⟨relation, same⟩ := wellFormed.relation fun empty => written (by rw [empty]; rfl)
    rw [operator_of_relation same]
    rfl

/-- A condition whose name begins with a colon is on a field. -/
theorem isField_of_colon {field : String} (named : condition.name = ":" ++ field) :
    condition.isField = true := by
  rw [isField, named, String.toList_append]
  rfl

theorem lower_of_colon {field : String} (named : condition.name = ":" ++ field)
    (vantage : Vantage) : condition.lower vantage false = condition.lowerField vantage := by
  rw [lower, if_pos (isField_of_colon named)]
  exact map_id _

/-- A shorthand of a priority is never refused. -/
theorem lower_hasPriority (vantage : Vantage) (priority : Priority) (written : String) :
    (hasPriority priority written).lower vantage false = .ok (.test (.priority .eq priority)) := by
  have named : (hasPriority priority written).name = ":" ++ "priority" := by rfl
  exact lower_of_colon named vantage

/-- A shorthand of a date is never refused. -/
theorem lower_isDue (vantage : Vantage) (time : Instant) (frequency : Option Frequency)
    (written : String) : (isDue written time frequency).lower vantage false =
      .ok (.test (.due .eq (Calendar.stamp time vantage.zone))) := by
  have named : (isDue written time frequency).name = ":" ++ "when" := by rfl
  exact lower_of_colon named vantage

end Condition

/-! ### Tests of fields that are refused -/

namespace FieldTest

variable {vantage : Vantage} {test : FieldTest} {refusal : CompileError}

theorem name_condition (vantage : Vantage) (test : FieldTest) :
    (test.condition vantage).name = ":" ++ test.field := by
  rw [condition, Item.field_eq]
  rfl

theorem op_condition (vantage : Vantage) (test : FieldTest) :
    (test.condition vantage).op = test.relation.text := by
  rw [condition, Item.field_eq]
  rfl

theorem value_condition (vantage : Vantage) (test : FieldTest) :
    (test.condition vantage).value = test.value := by
  rw [condition, Item.field_eq]
  rfl

theorem lowerPriority_condition (vantage : Vantage) (isPriority : test.field = "priority") :
    (test.condition vantage).lowerPriority =
      match Priority.ofText? test.value with
      | some priority => .ok (.test (.priority test.relation priority))
      | none => .error (.invalidPriority test.value) := by
  have priority : (test.condition vantage).priority = Priority.ofText? test.value := by
    rw [condition, Item.field_eq]
    exact if_pos isPriority
  rw [Condition.lowerPriority, Condition.comparison_of_relation (test.op_condition vantage),
    priority, value_condition, Option.or_self]
  rfl

theorem lowerWhen_condition (isWhen : test.field = "when") :
    (test.condition vantage).lowerWhen vantage =
      match vantage.read test.value with
      | .ok time => .ok (.test (.due test.relation (Calendar.stamp time vantage.zone)))
      | .error cause => .error (.invalidDate test.value cause) := by
  have time : (test.condition vantage).time = vantage.read? test.value := by
    rw [condition, Item.field_eq]
    exact if_pos isWhen
  have compared : (test.condition vantage).op ≠ "notnull" := by
    rw [op_condition]
    cases test.relation <;> decide
  rw [Condition.lowerWhen, if_neg compared,
    Condition.comparison_of_relation (test.op_condition vantage), time, value_condition,
    Vantage.read?]
  cases vantage.read test.value <;> rfl

theorem lowerColumn_condition (vantage : Vantage) (test : FieldTest) (column : Column) :
    (test.condition vantage).lowerColumn column =
      .ok (.test (.column column (.comparison test.relation)
        ((test.condition vantage).operand column))) := by
  have unmatched : (test.condition vantage).op ≠ "match" := by
    rw [op_condition]
    cases test.relation <;> decide
  rw [Condition.lowerColumn, if_neg unmatched,
    Condition.operator_of_relation (test.op_condition vantage)]
  rfl

theorem lowerSearch_condition (vantage : Vantage) (test : FieldTest) :
    (test.condition vantage).lowerSearch =
      if test.relation = .eq then .ok (Condition.foundAnywhere test.value)
      else .error (.unknownOperator (":" ++ test.field) test.relation.text) := by
  have supported : test.relation.text ∈ ["", "=", "match"] ↔ test.relation = .eq := by
    cases test.relation <;> decide
  rw [Condition.lowerSearch, op_condition, value_condition, name_condition]
  simp only [supported]

theorem name_of_field {field : String} (same : test.field = field) :
    (test.condition vantage).name = ":" ++ field := by
  rw [name_condition, same]

theorem field_of_name {field : String} (named : (test.condition vantage).name = ":" ++ field) :
    test.field = field := by
  rw [name_condition] at named
  exact (String.append_right_inj ":").mp named

theorem Refused.of_lowerField (refused : (test.condition vantage).lowerField vantage =
    .error refusal) : test.Refused vantage refusal := by
  unfold Condition.lowerField at refused
  split at refused
  · next named =>
    have isPriority : test.field = "priority" := field_of_name named
    rw [lowerPriority_condition vantage isPriority] at refused
    split at refused
    · cases refused
    · next none =>
      cases refused
      obtain ⟨noShorthand, noRank⟩ := Priority.ofText?_eq_none.mp none
      exact .invalidPriority isPriority noShorthand noRank
  · next named =>
    have isWhen : test.field = "when" := field_of_name named
    rw [lowerWhen_condition isWhen] at refused
    split at refused
    · cases refused
    · next unread =>
      cases refused
      exact .invalidDate isWhen unread
  · rw [lowerColumn_condition] at refused
    cases refused
  · rw [lowerColumn_condition] at refused
    cases refused
  · rw [lowerColumn_condition] at refused
    cases refused
  · next named =>
    have isSearch : test.field = "search" := field_of_name named
    rw [lowerSearch_condition] at refused
    split at refused
    · cases refused
    · next unequal =>
      rw [isSearch] at refused
      cases refused
      exact .unknownOperator isSearch unequal
  · next noPriority noWhen noId noTitle noText noSearch =>
    cases refused
    rw [name_condition] at noPriority noWhen noId noTitle noText noSearch ⊢
    refine .unknownField fun member => ?_
    simp only [fieldNames, List.mem_cons, List.not_mem_nil, or_false] at member
    rcases member with same | same | same | same | same | same
    · exact noPriority (congrArg (":" ++ ·) same)
    · exact noWhen (congrArg (":" ++ ·) same)
    · exact noId (congrArg (":" ++ ·) same)
    · exact noTitle (congrArg (":" ++ ·) same)
    · exact noText (congrArg (":" ++ ·) same)
    · exact noSearch (congrArg (":" ++ ·) same)

theorem Refused.lowerField (refused : test.Refused vantage refusal) :
    (test.condition vantage).lowerField vantage = .error refusal := by
  cases refused with
  | unknownField unknown =>
    have other (field : String) (known : field ∈ fieldNames) :
        (test.condition vantage).name ≠ ":" ++ field :=
      fun named => unknown (field_of_name named ▸ known)
    unfold Condition.lowerField
    split
    · next named => exact absurd named (other "priority" (by decide))
    · next named => exact absurd named (other "when" (by decide))
    · next named => exact absurd named (other "id" (by decide))
    · next named => exact absurd named (other "title_field" (by decide))
    · next named => exact absurd named (other "text_field" (by decide))
    · next named => exact absurd named (other "search" (by decide))
    · rw [name_condition]
  | invalidDate isWhen unread =>
    have named : (test.condition vantage).name = ":when" := name_of_field isWhen
    rw [Condition.lowerField, named]
    show (test.condition vantage).lowerWhen vantage = _
    rw [lowerWhen_condition isWhen, unread]
  | invalidPriority isPriority noShorthand noRank =>
    have named : (test.condition vantage).name = ":priority" := name_of_field isPriority
    rw [Condition.lowerField, named]
    show (test.condition vantage).lowerPriority = _
    rw [lowerPriority_condition vantage isPriority,
      Priority.ofText?_eq_none.mpr ⟨noShorthand, noRank⟩]
  | unknownOperator isSearch unequal =>
    have named : (test.condition vantage).name = ":search" := name_of_field isSearch
    rw [Condition.lowerField, named]
    show (test.condition vantage).lowerSearch = _
    rw [lowerSearch_condition, if_neg unequal, isSearch]
    rfl

/-- A test of a field is refused for the reasons that its name, comparison and value decide. -/
theorem refused_iff : (test.condition vantage).lower vantage false = .error refusal ↔
    test.Refused vantage refusal := by
  rw [Condition.lower_of_colon (name_condition vantage test)]
  exact ⟨Refused.of_lowerField, Refused.lowerField⟩

end FieldTest

/-! ### Items -/

namespace Item

variable {tokens : List Token}

/-- Why the condition that an item requires is refused, if it is. -/
def refusal? (vantage : Vantage) (item : Item) : Option CompileError :=
  item.required?.bind fun condition => Outcome.refusal? (condition.lower vantage false)

theorem shorthand?_refusal? {vantage : Vantage} {name : List Char} {condition : Condition}
    (found : shorthand? vantage name = some condition) :
    Outcome.refusal? (condition.lower vantage false) = none := by
  rcases Option.or_eq_some_iff.mp found with found | ⟨_, found⟩
  · obtain ⟨priority, _, rfl⟩ := Option.map_eq_some_iff.mp found
    rw [Condition.lower_hasPriority]
    rfl
  · obtain ⟨date, time, frequency, _, rfl, _⟩ := due?_eq_some found
    rw [Condition.lower_isDue]
    rfl

/-- A tag, a shorthand and a column are never refused. -/
theorem afterSign_refusal? (vantage : Vantage) (sign : Sign) {name : List Char}
    (isName : isTagName name = true) (spelled : ∀ token ∈ tokens, token.IsSpelled) :
    (afterSign vantage sign name tokens).1.refusal? vantage = none := by
  unfold afterSign
  split
  · rfl
  · split
    · next condition found =>
      split at found
      · exact shorthand?_refusal? found
      · cases found
    · split
      · next opens =>
        have isTag := IsTag.ofList isName opens
        obtain ⟨wellFormed, named⟩ := tagged_wellFormed isTag spelled
        exact wellFormed.lower_tag (named ▸ isTag) vantage false
      · rfl

/-- An item is refused as the test of a field with which it begins. -/
theorem next_refusal? (vantage : Vantage) {token : Token}
    (spelled : ∀ other ∈ token :: tokens, other.IsSpelled) :
    (next vantage token tokens).1.refusal? vantage = (fieldTest? token tokens).bind fun test =>
      Outcome.refusal? ((test.condition vantage).lower vantage false) := by
  have later : ∀ other ∈ tokens, other.IsSpelled :=
    fun other member => spelled other (.tail _ member)
  unfold next
  split
  · rfl
  · next name rest =>
    rw [afterOptionMark, fieldTest?]
    cases comparison? rest <;> rfl
  · next name rest =>
    exact afterSign_refusal? vantage _ (later (.name name) List.mem_cons_self).isTagName
      fun other member => later other (.tail _ member)
  · split
    · unfold excluded
      dsimp only
      split <;> rfl
    · rfl
  · next noOption _ _ =>
    have noTest : fieldTest? token tokens = none := by
      unfold fieldTest?
      split
      · exact (noOption _ _ _ rfl rfl).elim
      · rfl
    rw [noTest]
    cases token <;> rfl

end Item

/-- The first refused item is the first refused test of a field. -/
theorem items_refusal? (vantage : Vantage) {tokens : List Token}
    (spelled : ∀ token ∈ tokens, token.IsSpelled) :
    (items vantage tokens).findSome? (Item.refusal? vantage) =
      (fieldTestsOf vantage tokens).findSome? fun test =>
        refusal? ((test.condition vantage).lower vantage false) := by
  fun_induction items vantage tokens with
  | case1 => 
    rw [fieldTestsOf]
    rfl
  | case2 token rest inner =>
    have within := Item.next_suffix vantage token rest
    have later : ∀ other ∈ (Item.next vantage token rest).2, other.IsSpelled :=
      fun other member => spelled other (.tail _ (within.subset member))
    rw [fieldTestsOf, List.findSome?_append, ← inner later, List.findSome?_cons,
      Item.next_refusal? vantage spelled]
    cases fieldTest? token rest with
    | none => rfl
    | some test => 
      rw [Option.toList_some, List.findSome?_singleton, Option.bind_some]
      cases refusal? ((test.condition vantage).lower vantage false) <;> rfl

/-! ### Queries -/

theorem Expr.leavesOfParts_test (negated : Bool) (conditions : List Condition) :
    Expr.leavesOfParts negated (conditions.map Expr.test) =
      conditions.map fun condition => { condition, negated } := by
  induction conditions with
  | nil => rfl
  | cons condition rest inner =>
    rw [List.map_cons, Expr.leavesOfParts, inner]
    rfl

namespace Query

/-- The first refused condition of a text that is read is its first refused test of a field. -/
theorem read_refusal? (vantage : Vantage) (text : String) :
    ((read vantage text).leaves none).findSome? (fun leaf => refusal? (leaf.lower vantage)) =
      (fieldTests vantage text).findSome? fun test =>
        refusal? ((test.condition vantage).lower vantage false) := by
  have spelled : ∀ token ∈ (tokenize text).tokens, token.IsSpelled :=
    fun token member => Lexer.exists_spells_of_mem member
  -- The required conditions of a text are those of its items, and what it excludes are tags.
  have wanted : (read vantage text).wantedLeaves.findSome?
      (fun leaf => refusal? (leaf.lower vantage)) =
        (items vantage (tokenize text).tokens).findSome? (Item.refusal? vantage) := by
    rw [wantedLeaves_refusal? _ vantage 0, Expr.lower_refusal?]
    show (Expr.leavesOfParts false (((items vantage (tokenize text).tokens).filterMap
      Item.required?).map Expr.test)).findSome? _ = _
    rw [Expr.leavesOfParts_test, List.findSome?_map, ← List.head?_filterMap,
      List.filterMap_filterMap, List.head?_filterMap]
    rfl
  have narrowed : ((read vantage text).narrowedLeaves none).findSome?
      (fun leaf => refusal? (leaf.lower vantage)) = none := by
    obtain ⟨conditions, excluded, areTags⟩ := (read_wellFormed vantage text).excluded
    rw [narrowedLeaves, excluded]
    show (Expr.leavesOfParts true (conditions.map Expr.test) ++ []).findSome? _ = none
    rw [List.append_nil, Expr.leavesOfParts_test, List.findSome?_eq_none_iff]
    intro leaf member
    obtain ⟨condition, isPart, rfl⟩ := List.mem_map.mp member
    obtain ⟨wellFormed, isTag⟩ := areTags condition isPart
    exact wellFormed.lower_tag isTag vantage true
  rw [leaves, List.findSome?_append, wanted, narrowed, Option.or_none,
    items_refusal? vantage spelled]
  rfl

/-- **A text that is read is refused for its first refused test of a field.** -/
theorem read_refused_iff {vantage : Vantage} {text : String} {refusal : CompileError} :
    refusal? ((read vantage text).clauses vantage none) = some refusal ↔
      FirstRefused (FieldTest.Refused vantage) (fieldTests vantage text) refusal := by
  have decides (test : FieldTest) (other : CompileError) :
      refusal? ((test.condition vantage).lower vantage false) = some other ↔
        test.Refused vantage other := refusal?_eq_some.trans FieldTest.refused_iff
  rw [Outcome.firstRefused_iff decides, clauses_refusal?, read_refusal?]
  exact iff_of_eq (congrArg (· = some refusal) Option.or_none)

end Query

end TaskQuery
