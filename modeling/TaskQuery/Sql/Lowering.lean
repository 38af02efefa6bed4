/-
**From conditions to clauses.**

Every condition becomes one clause or is refused; a junction chains the clauses of its parts, and a
negation is pushed through junctions to the conditions, where tags have a complement of their own.

* `Condition.lower`: the clause of a condition.
* `Expr.lower`: the clause of an expression, if it constrains anything.
-/

import TaskQuery.Calendar.Literal
import TaskQuery.Query.Reading
import TaskQuery.Sql.Clause

namespace TaskQuery

open Calendar (DateError Vantage stamp)
open Sql

/-! ### Refusals -/

/-- Why a query has no statement. -/
inductive CompileError where
  | unknownField (field : String)
  | unknownOperator (field op : String)
  | invalidDate (fragment : String) (cause : DateError)
  | invalidPriority (fragment : String)
  | unknownSearch (name : String)
  | searchCycle (name : String)
  | query (cause : QueryError)
  deriving DecidableEq, Repr

namespace CompileError

/-- The wording of a refusal. -/
def message : CompileError → String
  | unknownField field => "unknown pseudo-field " ++ Text.quoted field
  | unknownOperator field op =>
    "operator " ++ Text.quoted op ++ " is not supported for " ++ Text.quoted field
  | invalidDate fragment _ => "invalid date " ++ Text.quoted fragment
  | invalidPriority fragment => "invalid priority " ++ Text.quoted fragment
  | unknownSearch name => "saved search " ++ Text.quoted name ++ " does not exist"
  | searchCycle name => "saved search " ++ Text.quoted name ++ " refers back to itself"
  | query cause => cause.message

end CompileError

namespace Condition

/-! ### Operators -/

/-- The comparison of a condition; an empty operator means equality. -/
def comparison (condition : Condition) : Except CompileError Comparison :=
  if condition.op.isEmpty then .ok .eq
  else
    match Comparison.ofText? condition.op with
    | some relation => .ok relation
    | none => .error (.unknownOperator condition.name condition.op)

/-- The operator of a condition on a value. -/
def operator (condition : Condition) : Except CompileError Operator :=
  match Operator.ofText? condition.op with
  | some operator => .ok operator
  | none => .error (.unknownOperator condition.name condition.op)

/-! ### Tags and fields -/

/-- The clause of a condition on a tag, or its complement. -/
def lowerTag (condition : Condition) (negated : Bool) : Except CompileError Clause :=
  let clause (value : Option (Operator × String)) : Clause :=
    if negated then .untagged condition.name value else .test (.tagged condition.name value)
  if condition.op.isEmpty then .ok (clause none)
  else condition.operator.map fun operator => clause (some (operator, condition.value))

/-- The clause of a condition on the priority. -/
def lowerPriority (condition : Condition) : Except CompileError Clause :=
  condition.comparison.bind fun relation =>
    match condition.priority.or (Priority.ofText? condition.value) with
    | some priority => .ok (.test (.priority relation priority))
    | none => .error (.invalidPriority condition.value)

/-- The clause of a condition on the trigger time, which is compared as a stamp in the zone of the
vantage. -/
def lowerWhen (condition : Condition) (vantage : Vantage) : Except CompileError Clause :=
  if condition.op = "notnull" then .ok (.test .scheduled)
  else
    condition.comparison.bind fun relation =>
      match condition.time with
      | some time => .ok (.test (.due relation (stamp time vantage.zone)))
      | none =>
        match vantage.read condition.value with
        | .ok time => .ok (.test (.due relation (stamp time vantage.zone)))
        | .error cause => .error (.invalidDate condition.value cause)

/-- What a column is compared with: an id with a number if the value is one. -/
def operand (condition : Condition) : Column → Operand
  | .id =>
    match Text.int64? condition.value with
    | some value => .number value
    | none => .text condition.value
  | _ => .text condition.value

/-- The clause of a condition on a column. -/
def lowerColumn (condition : Condition) (column : Column) : Except CompileError Clause :=
  if condition.op = "match" then .ok (.test (.found column condition.value))
  else
    condition.operator.map fun operator =>
      .test (.column column operator (condition.operand column))

/-- The clause that the title or the body holds a search text. -/
def foundAnywhere (search : String) : Clause :=
  .enclosed (.chain .or [.test (.found .title search), .test (.found .body search)])

/-- The clause of a full-text search. -/
def lowerSearch (condition : Condition) : Except CompileError Clause :=
  if condition.op ∈ ["", "=", "match"] then .ok (foundAnywhere condition.value)
  else .error (.unknownOperator condition.name condition.op)

/-- The clause of a condition on a field. -/
def lowerField (condition : Condition) (vantage : Vantage) : Except CompileError Clause :=
  match condition.name with
  | ":priority" => condition.lowerPriority
  | ":when" => condition.lowerWhen vantage
  | ":id" => condition.lowerColumn .id
  | ":title_field" => condition.lowerColumn .title
  | ":text_field" => condition.lowerColumn .body
  | ":search" => condition.lowerSearch
  | name => .error (.unknownField name)

/-- The clause of a condition, or of its complement. -/
def lower (condition : Condition) (vantage : Vantage) (negated : Bool) :
    Except CompileError Clause :=
  if condition.isField then
    (condition.lowerField vantage).map fun clause =>
      if negated then .complement clause else clause
  else condition.lowerTag negated

end Condition

/-! ### Expressions -/

mutual

/-- The clause of an expression, or of its complement. The depth is zero for a clause that stands by
itself. -/
def Expr.lower (vantage : Vantage) (negated : Bool) (depth : Nat) :
    Expr → Except CompileError (Option Clause)
  | .test condition => (condition.lower vantage negated).map some
  | .junction connective parts =>
    (Expr.lowerParts vantage negated (depth + 1) parts).map fun clauses =>
      Clause.join (if negated then connective.dual else connective) (depth != 0) clauses
  | .not inner =>
    if negated then inner.lower vantage false depth
    else (inner.lower vantage false 0).map fun clause => clause.map Clause.complement

/-- The clauses of the parts of a junction. -/
def Expr.lowerParts (vantage : Vantage) (negated : Bool) (depth : Nat) :
    List Expr → Except CompileError (List Clause)
  | [] => .ok []
  | part :: rest =>
    (part.lower vantage negated depth).bind fun clause =>
      (Expr.lowerParts vantage negated depth rest).map fun clauses => clause.toList ++ clauses

end

/-! ### Filters -/

/-- A condition that a caller adds to a query: the clause for a vantage, a negation and a depth, and
whether it constrains the priority. -/
structure Filter where
  lower : Vantage → Bool → Nat → Except CompileError (Option Clause)
  constrainsPriority : Bool := false

/-- An expression as a filter. -/
def Expr.toFilter (expr : Expr) : Filter where
  lower vantage negated depth := expr.lower vantage negated depth
  constrainsPriority := expr.constrainsPriority

end TaskQuery
