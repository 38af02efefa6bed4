/-
**The chain of references that starts at a query.**

Each query on the chain is what is stored under the name to which the one before it refers. Whatever
following the chain answers is settled by the chain itself: by the names on it, all different, and
by the query where it ends.

* `Leads.split`, `Leads.comparable`: a chain has one course.
* `follow_eq`: the answer of a chain with a known end.
* `exists_ends`: every query has such a chain.
-/

import TaskQuery.Saved.Resolution

namespace TaskQuery.Saved

variable {read : String → Except CompileError Query} {store : Store}

/-- From a query some names lead to another query, one reference after the other. -/
inductive Leads (read : String → Except CompileError Query) (store : Store) :
    Query → List String → Query → Prop where
  | here {query : Query} : Leads read store query [] query
  | step {query next last : Query} {name text : String} {names : List String}
      (reference : query.savedSearch = some name) (stored : store.get? name = some text)
      (reads : read text = .ok next) (rest : Leads read store next names last) :
      Leads read store query (name :: names) last

/-- What a chain answers that has passed some names and ends at a query. -/
inductive Ends (read : String → Except CompileError Query) (store : Store) (names : List String)
    (last : Query) : Except CompileError (Query × List String) → Prop where
  | direct (direct : last.savedSearch = none) : Ends read store names last (.ok (last, names))
  | repeated {name : String} (reference : last.savedSearch = some name) (passed : name ∈ names) :
      Ends read store names last (.error (.searchCycle name))
  | unknown {name : String} (reference : last.savedSearch = some name) (fresh : name ∉ names)
      (absent : store.get? name = none) : Ends read store names last (.error (.unknownSearch name))
  | refused {name text : String} {refusal : CompileError}
      (reference : last.savedSearch = some name) (fresh : name ∉ names)
      (stored : store.get? name = some text) (refuses : read text = .error refusal) :
      Ends read store names last (.error refusal)

theorem Ends.eq_repeated {names : List String} {last : Query} {name : String}
    {answer : Except CompileError (Query × List String)} (ends : Ends read store names last answer)
    (reference : last.savedSearch = some name) (passed : name ∈ names) :
    answer = .error (.searchCycle name) := by
  cases ends with
  | direct direct => cases direct.symm.trans reference
  | repeated reference' _ => cases reference'.symm.trans reference; rfl
  | unknown reference' fresh _ =>
    cases reference'.symm.trans reference
    exact absurd passed fresh
  | refused reference' fresh _ _ =>
    cases reference'.symm.trans reference
    exact absurd passed fresh

/-! ### One course -/

namespace Leads

theorem append {first middle last : Query} {names more : List String}
    (leads : Leads read store first names middle) (further : Leads read store middle more last) :
    Leads read store first (names ++ more) last := by
  induction leads with
  | here => exact further
  | step reference stored reads _ inner => exact .step reference stored reads (inner further)

/-- A chain passes through a query after each of its names. -/
theorem split {first last : Query} {names more : List String}
    (leads : Leads read store first (names ++ more) last) :
    ∃ middle, Leads read store first names middle ∧ Leads read store middle more last := by
  induction names generalizing first with
  | nil => exact ⟨first, .here, leads⟩
  | cons name names inner =>
    cases leads with
    | step reference stored reads rest =>
      obtain ⟨middle, before, after⟩ := inner rest
      exact ⟨middle, .step reference stored reads before, after⟩

/-- The next query on a chain is the one stored under the name. -/
theorem of_cons {query next last : Query} {name text : String} {names : List String}
    (leads : Leads read store query (name :: names) last) (stored : store.get? name = some text)
    (reads : read text = .ok next) :
    query.savedSearch = some name ∧ Leads read store next names last := by
  cases leads with
  | step reference stored' reads' rest =>
    obtain rfl : _ = text := Option.some.inj (stored'.symm.trans stored)
    obtain rfl : _ = next := Except.ok.inj (reads'.symm.trans reads)
    exact ⟨reference, rest⟩

/-- Of two chains from one query the longer one goes on from the end of the other. -/
theorem comparable {first last last' : Query} {names names' : List String}
    (leads : Leads read store first names last) (leads' : Leads read store first names' last') :
    (∃ more, names' = names ++ more ∧ Leads read store last more last') ∨
      ∃ more, names = names' ++ more ∧ Leads read store last' more last := by
  induction leads generalizing names' with
  | here => exact Or.inl ⟨names', rfl, leads'⟩
  | @step query next last name text names reference stored reads rest inner =>
    cases leads' with
    | here => exact Or.inr ⟨name :: names, rfl, .step reference stored reads rest⟩
    | step reference' stored' reads' rest' =>
      obtain rfl := Option.some.inj (reference.symm.trans reference')
      obtain rfl := Option.some.inj (stored.symm.trans stored')
      obtain rfl := Except.ok.inj (reads.symm.trans reads')
      rcases inner rest' with ⟨more, rfl, further⟩ | ⟨more, rfl, further⟩
      · exact Or.inl ⟨more, rfl, further⟩
      · exact Or.inr ⟨more, rfl, further⟩

end Leads

/-! ### What following answers -/

/-- The stores that are left after some names hold the texts of all other names. -/
def Remains (store remaining : Store) (passed : List String) : Prop :=
  ∀ name, name ∉ passed → remaining.get? name = store.get? name

theorem Remains.remove {remaining : Store} {passed : List String}
    (remains : Remains store remaining passed) (name : String) :
    Remains store (remaining.remove name) (passed ++ [name]) := by
  intro other fresh
  have different : other ≠ name := by
    rintro rfl
    exact fresh (List.mem_append_right _ (List.mem_singleton_self _))
  rw [Store.get?_remove, if_neg different]
  exact remains other fun member => fresh (List.mem_append_left _ member)

/-- **A chain whose names are all different answers what its end does.** -/
theorem follow_eq {first last : Query} {names passed : List String} {remaining : Store}
    {answer : Except CompileError (Query × List String)}
    (leads : Leads read store first names last) (different : (passed ++ names).Nodup)
    (remains : Remains store remaining passed)
    (ends : Ends read store (passed ++ names) last answer) :
    follow read remaining passed first = answer := by
  induction leads generalizing passed remaining with
  | here =>
    rw [List.append_nil] at ends
    cases ends with
    | direct direct => exact follow_direct direct
    | repeated reference member => rw [follow_reference reference, if_pos member]
    | unknown reference fresh absent =>
      rw [follow_reference reference, if_neg fresh, remains _ fresh, absent]
    | refused reference fresh stored refuses =>
      rw [follow_reference reference, if_neg fresh, remains _ fresh, stored]
      dsimp only
      rw [refuses]
      rfl
  | @step query next last name text names reference stored reads _ inner =>
    rw [List.append_cons] at different ends
    have fresh : name ∉ passed := by
      intro member
      have distinct := (List.nodup_append.mp (List.nodup_append.mp different).1).2.2
      exact distinct name member name (List.mem_singleton_self _) rfl
    rw [follow_reference reference, if_neg fresh, remains _ fresh, stored]
    dsimp only
    rw [reads]
    exact inner different (remains.remove name) ends

theorem exists_ends_after {remaining : Store} {passed : List String} {query : Query}
    (different : passed.Nodup) (remains : Remains store remaining passed) :
    ∃ names last, Leads read store query names last ∧ (passed ++ names).Nodup ∧
      Ends read store (passed ++ names) last (follow read remaining passed query) := by
  fun_induction follow read remaining passed query with
  | case1 remaining passed query direct =>
    refine ⟨[], query, .here, ?_, ?_⟩
    · rwa [List.append_nil]
    · rw [List.append_nil]
      exact .direct direct
  | case2 remaining passed query name reference member =>
    refine ⟨[], query, .here, ?_, ?_⟩
    · rwa [List.append_nil]
    · rw [List.append_nil]
      exact .repeated reference member
  | case3 remaining passed query name reference fresh absent =>
    refine ⟨[], query, .here, ?_, ?_⟩
    · rwa [List.append_nil]
    · rw [List.append_nil]
      exact .unknown reference fresh (remains name fresh ▸ absent)
  | case4 remaining passed query name reference fresh text stored refusal refuses =>
    refine ⟨[], query, .here, ?_, ?_⟩
    · rwa [List.append_nil]
    · rw [List.append_nil]
      exact .refused reference fresh (remains name fresh ▸ stored) refuses
  | case5 remaining passed query name reference fresh text stored next reads inner =>
    have longer : (passed ++ [name]).Nodup := by
      rw [List.nodup_append]
      refine ⟨different, List.pairwise_singleton _ name, ?_⟩
      rintro other member _ single rfl
      exact fresh (List.mem_singleton.mp single ▸ member)
    obtain ⟨names, last, leads, distinct, ends⟩ := inner longer (remains.remove name)
    rw [← List.append_cons] at distinct ends
    exact ⟨name :: names, last, .step reference (remains name fresh ▸ stored) reads leads, distinct,
      ends⟩

/-- Every query has a chain of different names whose end gives the answer. -/
theorem exists_ends (read : String → Except CompileError Query) (store : Store) (query : Query) :
    ∃ names last, Leads read store query names last ∧ names.Nodup ∧
      Ends read store names last (follow read store [] query) := by
  have whole : Remains store store [] := fun _ _ => rfl
  exact exists_ends_after List.nodup_nil whole

end TaskQuery.Saved
