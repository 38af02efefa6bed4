/-
**Task priorities.**

Six priorities, stored as their rank from 0 to 5 and written by shorthands.

* `ofRank?_rank`, `rank_ofRank?`: ranks and priorities correspond.
* `ofText?`: what a written priority means.
-/

import TaskQuery.Text.Numeral

namespace TaskQuery

/-- How urgent a task is, in the order in which result lists are sorted. -/
inductive Priority where
  | sticky
  | now
  | later
  | timed
  | notes
  | done
  deriving DecidableEq, Repr

namespace Priority

/-- The number that stands for a priority in a task's row. -/
def rank : Priority → Nat
  | sticky => 0
  | now => 1
  | later => 2
  | timed => 3
  | notes => 4
  | done => 5

/-- The priority of a rank. -/
def ofRank? : Int → Option Priority
  | 0 => some sticky
  | 1 => some now
  | 2 => some later
  | 3 => some timed
  | 4 => some notes
  | 5 => some done
  | _ => none

theorem ofRank?_rank (priority : Priority) : ofRank? priority.rank = some priority := by
  cases priority <;> rfl

theorem rank_ofRank? {rank : Int} {priority : Priority} (found : ofRank? rank = some priority) :
    (priority.rank : Int) = rank := by
  unfold ofRank? at found
  split at found <;> cases found <;> rfl

theorem ofRank?_eq_none {rank : Int} : ofRank? rank = none ↔ ¬(0 ≤ rank ∧ rank ≤ 5) := by
  constructor
  · rintro none ⟨low, high⟩
    obtain rfl | rfl | rfl | rfl | rfl | rfl : rank = 0 ∨ rank = 1 ∨ rank = 2 ∨ rank = 3 ∨
      rank = 4 ∨ rank = 5 := by omega
    all_goals cases none
  · intro outside
    cases found : ofRank? rank with
    | none => rfl
    | some priority =>
      have same := rank_ofRank? found
      have least : priority.rank ≤ 5 := by cases priority <;> decide
      exact absurd ⟨by omega, by omega⟩ outside

/-- The name of a priority. -/
def label : Priority → String
  | sticky => "Sticky"
  | now => "Now"
  | later => "Later"
  | timed => "Timed"
  | notes => "Notes"
  | done => "Done"

/-! ### Shorthands -/

/-- The tag names that stand for a priority; `n` and `N` differ. -/
def shorthands : List (String × Priority) :=
  [("s", sticky), ("sticky", sticky), ("n", now), ("now", now), ("l", later), ("later", later),
    ("t", timed), ("timed", timed), ("N", notes), ("notes", notes), ("d", done), ("done", done)]

/-- The priority that a tag name stands for. -/
def ofShorthand? (name : String) : Option Priority :=
  shorthands.lookup name

/-- The priority that a text writes: a shorthand or a rank. -/
def ofText? (written : String) : Option Priority :=
  (ofShorthand? written).or ((Text.int64? written).bind ofRank?)

/-- A text writes no priority if it is neither a shorthand nor a rank. -/
theorem ofText?_eq_none {written : String} : ofText? written = none ↔
    ofShorthand? written = none ∧
      ∀ rank, Text.int64? written = some rank → ¬(0 ≤ rank ∧ rank ≤ 5) := by
  rw [ofText?, Option.or_eq_none_iff, Option.bind_eq_none_iff]
  simp only [ofRank?_eq_none]

end Priority

end TaskQuery
