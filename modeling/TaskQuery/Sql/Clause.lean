/-
**Conditions of a statement.**

A clause is a condition as a statement writes it: atomic tests, chains of clauses with one keyword
between them, parentheses, and complements. Tables are named by a schema only when a clause is
written.

* `Test.template`: the atomic tests.
* `Clause.template`: a whole clause.
-/

import TaskQuery.Expr
import TaskQuery.Sql.Template
import TaskQuery.Token

namespace TaskQuery.Sql

/-- The tables that a statement reads. -/
structure Schema where
  /-- The tasks. -/
  tasks : String := "tasks"
  /-- The tags of tasks: rows of an id, a name and a value. -/
  tags : String := "columns"
  /-- The full-text index of titles and bodies. -/
  search : String := "ridx"
  deriving DecidableEq, Repr

/-! ### Operators -/

/-- The spelling of a comparison in a statement. -/
def comparisonKeyword : Comparison → String
  | .ne => "<>"
  | comparison => comparison.text

/-- The operators between a column and a value. -/
inductive Operator where
  | comparison (relation : Comparison)
  | like
  | notLike
  deriving DecidableEq, Repr

namespace Operator

/-- The spelling of an operator in a statement. -/
def keyword : Operator → String
  | comparison relation => comparisonKeyword relation
  | like => "LIKE"
  | notLike => "NOT LIKE"

/-- The operator that a text names, in any letter case. -/
def ofText? (written : String) : Option Operator :=
  match Comparison.ofText? written with
  | some relation => some (comparison relation)
  | none =>
    match written.toLower with
    | "like" => some like
    | "not like" => some notLike
    | _ => none

end Operator

/-! ### Atomic tests -/

/-- The columns of a task that may be compared with a text. -/
inductive Column where
  | id
  | title
  | body
  deriving DecidableEq, Repr

/-- The name of a column. -/
def Column.name : Column → String
  | id => "id"
  | title => "title_field"
  | body => "text_field"

/-- What a column is compared with: ids with numbers, so that the index serves them. -/
inductive Operand where
  | number (value : Int)
  | text (raw : String)
  deriving DecidableEq, Repr

/-- An operand as a part of a template. -/
def Operand.part : Operand → Part
  | number value => .fixed (toString value)
  | text raw => .hole raw

/-- An atomic test of a row. -/
inductive Test where
  /-- The task has a tag, with a value that compares as said if a comparison is given. -/
  | tagged (name : String) (value : Option (Operator × String))
  | priority (relation : Comparison) (level : Priority)
  /-- The trigger time compares with a stamp. -/
  | due (relation : Comparison) (stamp : String)
  /-- There is a trigger time. -/
  | scheduled
  | column (subject : Column) (operator : Operator) (operand : Operand)
  /-- The full-text index finds a search text in a column. -/
  | found (subject : Column) (search : String)
  /-- A test supplied by the caller. -/
  | custom (text : Template)
  deriving DecidableEq, Repr

/-- The membership of a task in the tasks with a tag. -/
def membership (schema : Schema) (keyword : String) (name : String)
    (value : Option (Operator × String)) : Template :=
  let compared :=
    match value with
    | none => []
    | some (operator, raw) => [.fixed (" AND value " ++ operator.keyword ++ " "), .hole raw]
  [.fixed ("id " ++ keyword ++ " (SELECT id FROM " ++ schema.tags ++ " WHERE name = "), .hole name]
    ++ compared ++ [.fixed ")"]

/-- The text of an atomic test. -/
def Test.template (schema : Schema) : Test → Template
  | tagged name value => membership schema "IN" name value
  | priority relation level =>
    [.fixed ("priority " ++ comparisonKeyword relation ++ " " ++ toString level.rank)]
  | due relation stamp =>
    [.fixed ("trigger_at_field " ++ comparisonKeyword relation ++ " "), .hole stamp]
  | scheduled => [.fixed "trigger_at_field IS NOT NULL"]
  | column subject operator operand =>
    [.fixed (subject.name ++ " " ++ operator.keyword ++ " "), operand.part]
  | found subject search =>
    [.fixed ("id IN (SELECT id FROM " ++ schema.search ++ " WHERE " ++ subject.name ++ " MATCH "),
      .hole search, .fixed ")"]
  | custom text => text

/-! ### Clauses -/

/-- A condition as a statement writes it. -/
inductive Clause where
  | test (atom : Test)
  /-- The complement of a tag test, for which statements have a form of its own. -/
  | untagged (name : String) (value : Option (Operator × String))
  | chain (connective : Connective) (clauses : List Clause)
  | enclosed (inner : Clause)
  | complement (inner : Clause)
  deriving Repr

mutual

/-- The text of a clause. -/
def Clause.template (schema : Schema) : Clause → Template
  | .test atom => atom.template schema
  | .untagged name value => membership schema "NOT IN" name value
  | .chain connective clauses =>
    Template.joinWith (" " ++ connective.keyword ++ " ") (Clause.templates schema clauses)
  | .enclosed inner => .fixed "(" :: inner.template schema ++ [.fixed ")"]
  | .complement inner => .fixed "NOT (" :: inner.template schema ++ [.fixed ")"]

/-- The texts of some clauses. -/
def Clause.templates (schema : Schema) : List Clause → List Template
  | [] => []
  | clause :: rest => clause.template schema :: Clause.templates schema rest

end

namespace Clause

theorem templates_eq_map (schema : Schema) (clauses : List Clause) :
    templates schema clauses = clauses.map (template schema) := by
  induction clauses with
  | nil => rfl
  | cons clause rest inner => rw [templates, inner, List.map_cons]

/-- A clause written out. -/
def render (schema : Schema) (quoter : Quoter) (clause : Clause) : String :=
  Template.render quoter (clause.template schema)

/-- The clause of some clauses under a connective: none of none, the clause itself of one. A chain
of several is enclosed if it stands inside another clause. -/
def join (connective : Connective) (inside : Bool) : List Clause → Option Clause
  | [] => none
  | [clause] => some clause
  | clauses =>
    let chain := Clause.chain connective clauses
    some (if inside then .enclosed chain else chain)

end Clause

end TaskQuery.Sql
