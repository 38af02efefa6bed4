/-
**Statements.**

A query compiles to one statement that selects tasks: the clauses of its conditions and of its free
text, the clause that hides completed tasks unless they are asked for, and the clauses of its
exclusions and of the caller's filter, all of which have to hold.

* `Query.compile`: the statement of a query, with saved searches followed.
* `Query.compileText`: the same for a query text.
* `Statement.text`: the statement written out for a database.
-/

import TaskQuery.Saved.Resolution

namespace TaskQuery

open Calendar (Instant Vantage)
open Sql

/-! ### Databases -/

/-- What a statement is written for. -/
structure Database where
  schema : Schema := {}
  quoter : Quoter := Quoter.standard

/-! ### Statements -/

/-- The columns that every statement selects. -/
def selectedColumns : String :=
  "id, title_field, text_field, priority, repeat_field, trigger_at_field, sort"

/-- The option that keeps completed tasks in the result. -/
def withDoneOption : String := "w/done"

/-- The option that orders by the manual sort key alone. -/
def sortOption : String := "ssort"

/-- A compiled query. -/
structure Statement where
  /-- The clauses that have to hold. -/
  clauses : List Clause
  /-- The first saved search that took the place of the query. -/
  savedSearch : Option String
  options : NameSet
  shownColumns : List String
  /-- Whether the query had neither conditions nor free text. -/
  isEmpty : Bool

namespace Statement

/-- The selection. -/
def selectText (database : Database) : String :=
  "SELECT " ++ selectedColumns ++ " FROM " ++ database.schema.tasks

/-- The condition, if there is one. -/
def whereText (statement : Statement) (database : Database) : String :=
  if statement.clauses.isEmpty then ""
  else
    "WHERE " ++ String.intercalate " AND "
      (statement.clauses.map (Clause.render database.schema database.quoter))

/-- The grouping, which gives one row for each task. -/
def groupText : String :=
  "GROUP BY id"

/-- The order of the result. -/
def orderText (statement : Statement) : String :=
  if statement.options.contains sortOption then "ORDER BY sort ASC"
  else "ORDER BY priority ASC, trigger_at_field ASC, sort DESC"

/-- The statement written out; a part without text is left out. -/
def text (statement : Statement) (database : Database) : String :=
  String.intercalate " "
    ([selectText database, statement.whereText database, groupText, statement.orderText].filter
      fun part => !part.isEmpty)

end Statement

/-! ### Compilation -/

namespace Query

/-- Whether completed tasks are hidden: not if they were asked for, and not if the query or the
filter constrains the priority. -/
def hidesDone (query : Query) (filter : Option Filter) : Bool :=
  !query.hasOption withDoneOption && !query.included.constrainsPriority
    && !(filter.map Filter.constrainsPriority).getD false

/-- The clause that a filter adds, if there is a filter. -/
def added (vantage : Vantage) : Option Filter → Except CompileError (Option Clause)
  | none => .ok none
  | some filter => filter.lower vantage false 1

/-- The clauses of a query that refers to no saved search, read from a vantage. -/
def clauses (query : Query) (vantage : Vantage) (filter : Option Filter) :
    Except CompileError (List Clause) := do
  let depth := if query.included.connective = .or then 1 else 0
  let included ← query.included.toExpr.lower vantage false depth
  let found := if query.text.isEmpty then [] else [Condition.foundAnywhere query.text]
  let hidden :=
    if query.hidesDone filter then [Clause.test (.priority .ne .done)] else []
  let excluded ← Expr.lowerParts vantage true 1 query.excluded.parts
  let added ← added vantage filter
  return included.toList ++ found ++ hidden ++ excluded ++ added.toList

/-- The query that a text writes at an offset and a clock. -/
def readAt (offset : Int) (now : Instant) (text : String) : Except CompileError Query :=
  (Query.ofText offset now text).mapError .query

/-- The statement of a query that refers to no saved search, with the saved search that it took the
place of. -/
def compileResolved (query : Query) (savedSearch : Option String) (now : Instant)
    (filter : Option Filter) : Except CompileError Statement :=
  match Vantage.ofOffset query.offset now with
  | .error _ => .error (.query (.offsetOutOfRange query.offset))
  | .ok vantage =>
    (query.clauses vantage filter).map fun clauses =>
      { clauses
        savedSearch
        options := query.options
        shownColumns := query.shownColumns
        isEmpty := query.isUnconstrained }

/-- The statement of a query, with its saved searches taken from a store and its times read at a
clock. -/
def compile (query : Query) (store : Store) (now : Instant) (filter : Option Filter) :
    Except CompileError Statement :=
  (Saved.resolve (readAt query.offset now) store query).bind fun reached =>
    reached.1.compileResolved reached.2 now filter

/-- The statement of the query that a text writes. -/
def compileText (offset : Int) (text : String) (store : Store) (now : Instant)
    (filter : Option Filter) : Except CompileError Statement :=
  (readAt offset now text).bind fun query => query.compile store now filter

end Query

end TaskQuery
