/-
**Following saved searches.**

A query that refers to a saved search stands for the query stored under that name, which may refer
to another one. The chain is followed until a query without a reference is reached; a name without
a text and a name met twice end it with a refusal.

* `follow`: the end of the chain and the names on it.
* `resolve`: the query that takes effect and the first name on the chain.
-/

import TaskQuery.Saved.Store
import TaskQuery.Sql.Lowering

namespace TaskQuery

namespace Saved

/-- The end of the chain of references that starts at a query, and the names passed. Each name is
looked up in what the names before it have left of the store. -/
def follow (read : String → Except CompileError Query) (remaining : Store) (passed : List String)
    (query : Query) : Except CompileError (Query × List String) :=
  match query.savedSearch with
  | none => .ok (query, passed)
  | some name =>
    if name ∈ passed then .error (.searchCycle name)
    else
      match _ : remaining.get? name with
      | none => .error (.unknownSearch name)
      | some text =>
        match read text with
        | .error error => .error error
        | .ok next => follow read (remaining.remove name) (passed ++ [name]) next
termination_by remaining.size
decreasing_by exact Store.remove_size_lt (by assumption)

theorem follow_direct {read : String → Except CompileError Query} {remaining : Store}
    {passed : List String} {query : Query} (direct : query.savedSearch = none) :
    follow read remaining passed query = .ok (query, passed) := by
  rw [follow, direct]

theorem follow_reference {read : String → Except CompileError Query} {remaining : Store}
    {passed : List String} {query : Query} {name : String}
    (reference : query.savedSearch = some name) :
    follow read remaining passed query =
      if name ∈ passed then .error (.searchCycle name)
      else
        match remaining.get? name with
        | none => .error (.unknownSearch name)
        | some text =>
          (read text).bind fun next => follow read (remaining.remove name) (passed ++ [name]) next := by
  rw [follow, reference]
  dsimp only
  split
  · rfl
  · split
    · next absent => rw [absent]
    · next text found =>
      rw [found]
      dsimp only
      cases read text <;> rfl

/-- The query that takes effect, and the first saved search that took its place. -/
def resolve (read : String → Except CompileError Query) (store : Store) (query : Query) :
    Except CompileError (Query × Option String) :=
  (follow read store [] query).map fun reached => (reached.1, reached.2.head?)

end Saved

end TaskQuery
