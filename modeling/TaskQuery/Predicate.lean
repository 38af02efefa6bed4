/-
**Predicates built by callers.**

A caller may narrow a query by an expression of its own, put together from the tests, junctions and
negation of this module.
-/

import TaskQuery.Expr

namespace TaskQuery

namespace Predicate

/-- The task has an id. -/
def idEquals (id : Int) : Expr :=
  .test (.compare ":id" "=" (toString id))

/-- The full-text index finds a search text in the title. -/
def titleMatches (search : String) : Expr :=
  .test (.compare ":title_field" "match" search)

/-- The full-text index finds a search text in the body. -/
def bodyMatches (search : String) : Expr :=
  .test (.compare ":text_field" "match" search)

/-- The full-text index finds a search text in the title or the body. -/
def matchesAnywhere (search : String) : Expr :=
  .test (.compare ":search" "match" search)

/-- The task has a tag. -/
def hasTag (name : String) : Expr :=
  .test (.tag name)

/-- A tag or a field compares with a value. -/
def compares (name op value : String) : Expr :=
  .test (.compare name op value)

/-- The task has a priority. -/
def hasPriority (priority : Priority) : Expr :=
  .test (.hasPriority priority (toString priority.rank))

/-- The task has a trigger time. -/
def isScheduled : Expr :=
  .test { name := whenName, op := "notnull" }

/-- All of some predicates hold. -/
def all (parts : List Expr) : Expr :=
  .junction .and parts

/-- One of some predicates holds. -/
def any (parts : List Expr) : Expr :=
  .junction .or parts

/-- A predicate does not hold. -/
def not (inner : Expr) : Expr :=
  .not inner

end Predicate

end TaskQuery
