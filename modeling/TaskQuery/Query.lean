/-
**Queries.**

What a search box holds: free text, conditions that must and must not hold, options, a reference
to a saved search, two payloads for the caller, and the tags to show as columns.

* `Query.isUnconstrained`: neither a condition nor free text.
-/

import TaskQuery.Expr
import TaskQuery.NameSet

namespace TaskQuery

/-- A query after its items have been read. -/
structure Query where
  /-- The words to search for. -/
  text : String := ""
  /-- What has to hold. -/
  included : Junction := {}
  /-- What must not hold, part by part. -/
  excluded : Junction := {}
  /-- The options without a value. -/
  options : NameSet := NameSet.empty
  /-- The saved search that takes the place of the query. -/
  savedSearch : Option String := none
  /-- The payload after `#+`. -/
  extra : Option String := none
  /-- The payload after `#!`. -/
  command : Option String := none
  /-- The tags to show as columns, as often as they were asked for. -/
  shownColumns : List String := []
  /-- The hours from UTC in which the times of the query were written. -/
  offset : Int := 0

namespace Query

/-- Whether an option was given. -/
def hasOption (query : Query) (name : String) : Bool :=
  query.options.contains name

/-- Whether a query has neither conditions nor free text. -/
def isUnconstrained (query : Query) : Bool :=
  query.included.isEmpty && query.excluded.isEmpty && query.text.isEmpty

end Query

end TaskQuery
