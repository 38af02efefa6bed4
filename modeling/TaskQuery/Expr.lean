/-
**Conditions on tasks.**

A condition tests a tag or, if its name begins with a colon, a field of the task. An expression
combines conditions with and, or and not; a junction without parts puts no constraint.

* `Condition`: one test, with what its value means if that is known.
* `Expr.constrainsPriority`: whether some condition outside every negation is on the priority.
-/

import TaskQuery.Calendar.Instant
import TaskQuery.Frequency
import TaskQuery.Priority

namespace TaskQuery

open Calendar (Instant)

/-! ### Conditions -/

/-- The field name of the priority. -/
def priorityName : String := ":priority"

/-- The field name of the trigger time. -/
def whenName : String := ":when"

/-- A test of a tag or a field. An empty operator asks only for the tag to be there. -/
structure Condition where
  name : String
  op : String := ""
  value : String := ""
  /-- The instant that the value of a trigger time means. -/
  time : Option Instant := none
  /-- The priority that the value means. -/
  priority : Option Priority := none
  /-- The repetition written after a trigger time. -/
  frequency : Option Frequency := none
  deriving DecidableEq, Repr

namespace Condition

/-- The condition that a task has a tag. -/
def tag (name : String) : Condition :=
  { name }

/-- The condition that a tag or field compares with a value. -/
def compare (name op value : String) : Condition :=
  { name, op, value }

/-- The condition that a task has a priority, which was written in some way. -/
def hasPriority (priority : Priority) (written : String) : Condition :=
  { name := priorityName, op := "=", value := written, priority := some priority }

/-- The condition that a task is due at an instant, which was written in some way. -/
def isDue (written : String) (time : Instant) (frequency : Option Frequency) : Condition :=
  { name := whenName, op := "=", value := written, time := some time, frequency }

/-- Whether a condition is on a field of the task rather than on a tag. -/
def isField (condition : Condition) : Bool :=
  condition.name.toList.head? == some ':'

/-- Whether a condition is on the priority. -/
def constrainsPriority (condition : Condition) : Bool :=
  condition.name == priorityName

end Condition

/-! ### Expressions -/

/-- How the parts of a junction are combined. -/
inductive Connective where
  | and
  | or
  deriving DecidableEq, Repr

namespace Connective

/-- The keyword of a connective. -/
def keyword : Connective → String
  | and => "AND"
  | or => "OR"

/-- The connective of the complements. -/
def dual : Connective → Connective
  | and => or
  | or => and

theorem dual_dual (connective : Connective) : connective.dual.dual = connective := by
  cases connective <;> rfl

end Connective

/-- A combination of conditions. -/
inductive Expr where
  | test (condition : Condition)
  | junction (connective : Connective) (parts : List Expr)
  | not (inner : Expr)
  deriving Repr

mutual

/-- Whether some condition outside every negation is on the priority. -/
def Expr.constrainsPriority : Expr → Bool
  | .test condition => condition.constrainsPriority
  | .junction _ parts => Expr.anyConstrainsPriority parts
  | .not _ => false

/-- Whether one of some expressions constrains the priority. -/
def Expr.anyConstrainsPriority : List Expr → Bool
  | [] => false
  | part :: rest => part.constrainsPriority || Expr.anyConstrainsPriority rest

end

theorem Expr.anyConstrainsPriority_eq (parts : List Expr) :
    Expr.anyConstrainsPriority parts = parts.any Expr.constrainsPriority := by
  induction parts with
  | nil => rfl
  | cons part rest inner => rw [Expr.anyConstrainsPriority, inner, List.any_cons]

/-- The outermost junction of a query. -/
structure Junction where
  connective : Connective := .and
  parts : List Expr := []
  deriving Repr

namespace Junction

/-- A junction as an expression. -/
def toExpr (junction : Junction) : Expr :=
  .junction junction.connective junction.parts

/-- The junction in which all of some conditions have to hold. -/
def all (conditions : List Condition) : Junction :=
  { connective := .and, parts := conditions.map Expr.test }

/-- Whether a junction has no parts. -/
def isEmpty (junction : Junction) : Bool :=
  junction.parts.isEmpty

/-- Whether a junction constrains the priority. -/
def constrainsPriority (junction : Junction) : Bool :=
  junction.toExpr.constrainsPriority

end Junction

end TaskQuery
