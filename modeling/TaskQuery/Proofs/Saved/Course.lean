/-
**What a chain of references is decided by.**

The names on the chain of a query are the references met one after the other, each in the text stored
under the name before it. Resolving the query answers by the first of them that is not stored, by the
first that occurs a second time, or by the first query without a reference, and it looks up no more
names than are stored and one.

* `reached`, `nameAt`: the queries and the names on a chain.
* `followWithin`: a chain followed with a bounded number of look-ups.
* `followWithin_eq_follow`: one look-up more than there are stored names is enough.
* `resolve_decided_by_chain`: the answer.
-/

import TaskQuery.Proofs.Outcome
import TaskQuery.Proofs.Saved.Indirection

namespace TaskQuery

open Calendar (Instant Vantage Zone)

namespace Saved

variable {read : String → Except CompileError Query} {store : Store} {query last : Query}

/-! ### Look-ups -/

/-- The end of a chain and the names passed, with no more than some look-ups in the store; nothing if
one more is needed. -/
def followWithin (read : String → Except CompileError Query) (store : Store) (lookups : Nat)
    (passed : List String) (query : Query) : Option (Except CompileError (Query × List String)) :=
  match query.savedSearch with
  | none => some (.ok (query, passed))
  | some name =>
    if name ∈ passed then some (.error (.searchCycle name))
    else
      match lookups with
      | 0 => none
      | lookups + 1 =>
        match store.get? name with
        | none => some (.error (.unknownSearch name))
        | some text =>
          match read text with
          | .error refusal => some (.error refusal)
          | .ok next => followWithin read store lookups (passed ++ [name]) next

/-- What a chain is resolved to with no more than some look-ups. -/
def resolveWithin (read : String → Except CompileError Query) (store : Store) (lookups : Nat)
    (query : Query) : Option (Except CompileError (Query × Option String)) :=
  (followWithin read store lookups [] query).map fun answer =>
    answer.map fun reached => (reached.1, reached.2.head?)

/-- One look-up more than there are names left is enough: every name that is looked up is left no
longer. -/
theorem followWithin_eq_follow {remaining : Store} {passed : List String} {query : Query}
    {lookups : Nat} (remains : Remains store remaining passed) (enough : remaining.size < lookups) :
    followWithin read store lookups passed query = some (follow read remaining passed query) := by
  obtain ⟨fewer, rfl⟩ := Nat.exists_eq_succ_of_ne_zero (Nat.ne_zero_of_lt enough)
  fun_induction follow read remaining passed query generalizing fewer with
  | case1 remaining passed query direct => rw [followWithin, direct]
  | case2 remaining passed query name reference member =>
    rw [followWithin, reference]
    dsimp only
    rw [if_pos member]
  | case3 remaining passed query name reference fresh absent =>
    rw [followWithin, reference]
    dsimp only
    rw [if_neg fresh, ← remains name fresh, absent]
  | case4 remaining passed query name reference fresh text stored refusal refuses =>
    rw [followWithin, reference]
    dsimp only
    rw [if_neg fresh, ← remains name fresh, stored]
    dsimp only
    rw [refuses]
  | case5 remaining passed query name reference fresh text stored next reads inner =>
    have smaller := Store.remove_size_lt stored
    rw [followWithin, reference]
    dsimp only
    rw [if_neg fresh, ← remains name fresh, stored]
    dsimp only
    rw [reads]
    dsimp only
    obtain ⟨fewest, rfl⟩ := Nat.exists_eq_succ_of_ne_zero (show fewer ≠ 0 by omega)
    exact inner (remains.remove name) fewest (by omega)

theorem resolveWithin_size (read : String → Except CompileError Query) (store : Store)
    (query : Query) : resolveWithin read store (store.size + 1) query =
      some (resolve read store query) := by
  have whole : Remains store store [] := fun _ _ => rfl
  rw [resolveWithin, followWithin_eq_follow whole (Nat.lt_succ_self _)]
  rfl

/-! ### The course of a chain -/

/-- The query to which a query refers, if it refers to a text that is stored. -/
def successor (read : String → Except CompileError Query) (store : Store) (query : Query) :
    Option Query :=
  query.savedSearch.bind fun name => (store.get? name).bind fun text => (read text).toOption

/-- The query that a chain has reached after some references. -/
def reached (read : String → Except CompileError Query) (store : Store) (query : Query) :
    Nat → Option Query
  | 0 => some query
  | steps + 1 => (reached read store query steps).bind (successor read store)

/-- The name at a place of a chain: the reference of the query reached there. -/
def nameAt (read : String → Except CompileError Query) (store : Store) (query : Query)
    (place : Nat) : Option String :=
  (reached read store query place).bind Query.savedSearch

theorem reached_add (steps more : Nat) :
    reached read store query (steps + more) =
      (reached read store query steps).bind fun middle => reached read store middle more := by
  induction more with
  | zero => cases reached read store query steps <;> rfl
  | succ more inner =>
    rw [← Nat.add_assoc, reached, inner]
    cases reached read store query steps <;> rfl

theorem successor_of_reference {next : Query} {name text : String}
    (reference : query.savedSearch = some name) (stored : store.get? name = some text)
    (reads : read text = .ok next) : successor read store query = some next := by
  rw [successor, reference, Option.bind_some, stored, Option.bind_some, reads]
  rfl

/-- The chain of a query goes on as the chain of the query to which it refers. -/
theorem reached_succ_of_reference {next : Query} {name text : String}
    (reference : query.savedSearch = some name) (stored : store.get? name = some text)
    (reads : read text = .ok next) (more : Nat) :
    reached read store query (more + 1) = reached read store next more := by
  rw [Nat.add_comm, reached_add, reached, reached, Option.bind_some,
    successor_of_reference reference stored reads, Option.bind_some]

/-- A query on a chain is the first one, or is read from a stored text. -/
theorem reached_cases {place : Nat} (here : reached read store query place = some last) :
    last = query ∨ ∃ name text, store.get? name = some text ∧ read text = .ok last := by
  cases place with
  | zero => exact Or.inl (Option.some.inj here).symm
  | succ place =>
    obtain ⟨_, _, follows⟩ := Option.bind_eq_some_iff.mp here
    obtain ⟨name, _, follows⟩ := Option.bind_eq_some_iff.mp follows
    obtain ⟨text, stored, reads⟩ := Option.bind_eq_some_iff.mp follows
    exact Or.inr ⟨name, text, stored, Outcome.toOption_eq_some.mp reads⟩

/-- A chain goes on by the name at its last place. -/
theorem reached_succ (steps : Nat) :
    reached read store query (steps + 1) = (nameAt read store query steps).bind fun name =>
      (store.get? name).bind fun text => (read text).toOption := by
  rw [nameAt, Option.bind_assoc]
  rfl

/-- A chain ends at a query without a reference. -/
theorem reached_eq_none {steps more : Nat} (here : reached read store query steps = some last)
    (ends : successor read store last = none) (later : steps < more) :
    reached read store query more = none := by
  obtain ⟨extra, rfl⟩ := Nat.exists_eq_add_of_lt later
  have next : reached read store query (steps + 1) = none := by
    rw [reached, here, Option.bind_some, ends]
  rw [Nat.add_right_comm, reached_add, next, Option.bind_none]

/-- The queries and the names on a chain are those to which its references lead. -/
theorem Leads.reached {names : List String} (leads : Leads read store query names last) :
    reached read store query names.length = some last ∧
      ∀ place < names.length, nameAt read store query place = names[place]? := by
  induction leads with
  | here => exact ⟨rfl, fun _ below => absurd below (Nat.not_lt_zero _)⟩
  | @step query next last name text names reference stored reads rest inner =>
    have first := reached_succ_of_reference reference stored reads
    refine ⟨(first names.length).trans inner.1, ?_⟩
    intro place below
    cases place with
    | zero => exact reference
    | succ place =>
      rw [nameAt, first, List.getElem?_cons_succ]
      exact inner.2 place (Nat.lt_of_succ_lt_succ below)

theorem exists_leads {steps : Nat} (here : reached read store query steps = some last) :
    ∃ names, names.length = steps ∧ Leads read store query names last := by
  induction steps generalizing last with
  | zero =>
    cases here
    exact ⟨[], rfl, .here⟩
  | succ steps inner =>
    obtain ⟨middle, before, next⟩ := Option.bind_eq_some_iff.mp here
    obtain ⟨names, length, leads⟩ := inner before
    obtain ⟨name, reference, found⟩ := Option.bind_eq_some_iff.mp next
    obtain ⟨text, stored, reads⟩ := Option.bind_eq_some_iff.mp found
    have reads : read text = .ok last := by
      cases answer : read text with
      | error refusal =>
        rw [answer] at reads
        cases reads
      | ok query =>
        rw [answer] at reads
        cases reads
        rfl
    refine ⟨names ++ [name], ?_, leads.append (.step reference stored reads .here)⟩
    rw [List.length_append, length]
    rfl

/-! ### What the names decide -/

/-- Whether the names at the first places of a chain are all different. -/
def DifferentBefore (read : String → Except CompileError Query) (store : Store) (query : Query)
    (count : Nat) : Prop :=
  ∀ earlier later, earlier < later → later < count →
    nameAt read store query earlier ≠ nameAt read store query later

theorem Leads.nodup_iff {names : List String} (leads : Leads read store query names last) :
    names.Nodup ↔ DifferentBefore read store query names.length := by
  have named := leads.reached.2
  rw [List.nodup_iff_getElem?_ne_getElem?]
  constructor
  · intro different earlier later before below
    rw [named earlier (Nat.lt_trans before below), named later below]
    exact different earlier later before below
  · intro different earlier later before below
    have apart := different earlier later before below
    rwa [named earlier (Nat.lt_trans before below), named later below] at apart

theorem Leads.nameAt_length {names : List String} (leads : Leads read store query names last) :
    nameAt read store query names.length = last.savedSearch := by
  rw [nameAt, leads.reached.1]
  rfl

/-- A name is passed if it stands at an earlier place. -/
theorem Leads.mem_iff {names : List String} {name : String}
    (leads : Leads read store query names last) :
    name ∈ names ↔ ∃ place < names.length, nameAt read store query place = some name := by
  rw [List.mem_iff_getElem?]
  constructor
  · rintro ⟨place, found⟩
    have below := (List.getElem?_eq_some_iff.mp found).1
    exact ⟨place, below, (leads.reached.2 place below).trans found⟩
  · rintro ⟨place, below, found⟩
    exact ⟨place, (leads.reached.2 place below).symm.trans found⟩

/-- Every name passed is stored. -/
theorem Leads.stored {names : List String} (leads : Leads read store query names last) :
    ∀ place < names.length, ∃ name text, nameAt read store query place = some name ∧
      store.get? name = some text := by
  induction leads with
  | here => exact fun _ below => absurd below (Nat.not_lt_zero _)
  | @step query next last name text names reference stored reads rest inner =>
    intro place below
    cases place with
    | zero => exact ⟨name, text, reference, stored⟩
    | succ place =>
      rw [nameAt, reached_succ_of_reference reference stored reads]
      exact inner place (Nat.lt_of_succ_lt_succ below)

/-- A chain that comes to a query without a reference has no name twice. -/
theorem differentBefore_of_direct {place : Nat} (here : reached read store query place = some last)
    (direct : last.savedSearch = none) : DifferentBefore read store query place := by
  intro earlier later before below same
  have ends : successor read store last = none := by rw [successor, direct, Option.bind_none]
  have turns : reached read store query (later + 1) = reached read store query (earlier + 1) := by
    rw [reached_succ, reached_succ, same]
  -- What comes after the name's second place has come before, after its first one.
  obtain ⟨more, rfl⟩ := Nat.exists_eq_add_of_le (Nat.succ_le_of_lt below)
  have sooner : reached read store query (earlier + 1 + more) = some last := by
    rw [← here, reached_add, ← turns, ← reached_add]
  cases here.symm.trans (reached_eq_none sooner ends (by omega))

theorem follow_of_leads {names : List String} {answer : Except CompileError (Query × List String)}
    (leads : Leads read store query names last)
    (different : DifferentBefore read store query names.length)
    (ends : Ends read store names last answer) : follow read store [] query = answer := by
  have whole : Remains store store [] := fun _ _ => rfl
  exact follow_eq leads (leads.nodup_iff.mpr different) whole ends

theorem exists_reached {place : Nat} {name : String}
    (named : nameAt read store query place = some name) :
    ∃ last, reached read store query place = some last ∧ last.savedSearch = some name :=
  Option.bind_eq_some_iff.mp named

section Answers

variable (reads : ∀ text, ∃ next, read text = .ok next)

include reads

/-- A chain is refused for a name that is not stored where it comes to such a name. -/
theorem follow_unknown_iff {name : String} :
    follow read store [] query = .error (.unknownSearch name) ↔
      ∃ place, nameAt read store query place = some name ∧ store.get? name = none ∧
        (∀ earlier < place, ∃ other text, nameAt read store query earlier = some other ∧
          store.get? other = some text) ∧
        DifferentBefore read store query (place + 1) := by
  constructor
  · intro answer
    obtain ⟨names, last, leads, different, ends⟩ := exists_ends read store query
    rw [answer] at ends
    cases ends with
    | refused _ _ _ refuses =>
      obtain ⟨next, success⟩ := reads _
      cases refuses.symm.trans success
    | unknown reference fresh absent =>
      refine ⟨names.length, leads.nameAt_length.trans reference, absent, leads.stored, ?_⟩
      intro earlier later before below
      rcases Nat.lt_succ_iff_lt_or_eq.mp below with below | rfl
      · exact leads.nodup_iff.mp different earlier later before below
      · rw [leads.nameAt_length, reference]
        exact fun found => fresh (leads.mem_iff.mpr ⟨earlier, before, found⟩)
  · rintro ⟨place, named, absent, _, different⟩
    obtain ⟨last, here, reference⟩ := exists_reached named
    obtain ⟨names, rfl, leads⟩ := exists_leads here
    have fresh : name ∉ names := by
      intro member
      obtain ⟨earlier, before, found⟩ := leads.mem_iff.mp member
      exact different earlier names.length before (Nat.lt_succ_self _) (found.trans named.symm)
    exact follow_of_leads leads
      (fun earlier later before below => different earlier later before (Nat.lt_succ_of_lt below))
      (.unknown reference fresh absent)

/-- A chain is refused as a cycle where it comes to a name for the second time. -/
theorem follow_cycle_iff {name : String} :
    follow read store [] query = .error (.searchCycle name) ↔
      ∃ place, nameAt read store query place = some name ∧
        (∃ earlier < place, nameAt read store query earlier = some name) ∧
        DifferentBefore read store query place := by
  constructor
  · intro answer
    obtain ⟨names, last, leads, different, ends⟩ := exists_ends read store query
    rw [answer] at ends
    cases ends with
    | refused _ _ _ refuses =>
      obtain ⟨next, success⟩ := reads _
      cases refuses.symm.trans success
    | repeated reference passed =>
      exact ⟨names.length, leads.nameAt_length.trans reference, leads.mem_iff.mp passed,
        leads.nodup_iff.mp different⟩
  · rintro ⟨place, named, again, different⟩
    obtain ⟨last, here, reference⟩ := exists_reached named
    obtain ⟨names, rfl, leads⟩ := exists_leads here
    exact follow_of_leads leads different (.repeated reference (leads.mem_iff.mpr again))

/-- No other refusal comes from a chain of texts that can be read. -/
theorem follow_refusal {refusal : CompileError}
    (answer : follow read store [] query = .error refusal) :
    (∃ name, refusal = .unknownSearch name) ∨ ∃ name, refusal = .searchCycle name := by
  obtain ⟨names, last, leads, different, ends⟩ := exists_ends read store query
  rw [answer] at ends
  cases ends with
  | refused _ _ _ refuses =>
    obtain ⟨next, success⟩ := reads _
    cases refuses.symm.trans success
  | repeated => exact Or.inr ⟨_, rfl⟩
  | unknown => exact Or.inl ⟨_, rfl⟩

end Answers

/-- A chain is resolved to its first query without a reference, and its first name. -/
theorem resolve_ok_iff {first : Option String} :
    resolve read store query = .ok (last, first) ↔
      ∃ place, reached read store query place = some last ∧ last.savedSearch = none ∧
        first = nameAt read store query 0 := by
  constructor
  · intro answer
    obtain ⟨names, last', leads, _, ends⟩ := exists_ends read store query
    obtain ⟨⟨_, _⟩, followed, same⟩ := Outcome.map_eq_ok.mp answer
    rw [followed] at ends
    cases ends with
    | direct direct =>
      cases same
      refine ⟨names.length, leads.reached.1, direct, ?_⟩
      cases names with
      | nil =>
        have none := leads.nameAt_length
        rw [direct] at none
        exact none.symm
      | cons name names => exact (leads.reached.2 0 (Nat.succ_pos _)).symm
  · rintro ⟨place, here, direct, rfl⟩
    obtain ⟨names, rfl, leads⟩ := exists_leads here
    have followed := follow_of_leads leads (differentBefore_of_direct here direct) (.direct direct)
    rw [resolve, followed]
    refine congrArg (fun first => Except.ok (last, first)) ?_
    cases names with
    | nil => exact (leads.nameAt_length.trans direct).symm
    | cons name names => exact (leads.reached.2 0 (Nat.succ_pos _)).symm

theorem resolve_error_iff {refusal : CompileError} :
    resolve read store query = .error refusal ↔
      follow read store [] query = .error refusal :=
  Outcome.map_eq_error

end Saved

open Saved

/-- Every text can be read at an offset in the range of offsets. -/
theorem Query.exists_readAt {offset : Int} (valid : -25 ≤ offset ∧ offset ≤ 25) (now : Instant)
    (text : String) : ∃ next, Query.readAt offset now text = .ok next := by
  rw [Query.readAt, Query.ofText, Vantage.ofOffset, Zone.ofHours?, dif_pos valid]
  exact ⟨_, rfl⟩

/-- **What a query is resolved to is decided by the chain that starts at its reference**, and is
found with one look-up more than there are stored names. -/
theorem resolve_decided_by_chain (store : Store) (query : Query) (now : Instant)
    (valid : -25 ≤ query.offset ∧ query.offset ≤ 25) :
    let read := Query.readAt query.offset now
    resolveWithin read store (store.size + 1) query = some (resolve read store query) ∧
    (∀ name, resolve read store query = .error (.unknownSearch name) ↔
      ∃ place, nameAt read store query place = some name ∧ store.get? name = none ∧
        (∀ earlier < place, ∃ other text, nameAt read store query earlier = some other ∧
          store.get? other = some text) ∧
        DifferentBefore read store query (place + 1)) ∧
    (∀ name, resolve read store query = .error (.searchCycle name) ↔
      ∃ place, nameAt read store query place = some name ∧
        (∃ earlier < place, nameAt read store query earlier = some name) ∧
        DifferentBefore read store query place) ∧
    (∀ last first, resolve read store query = .ok (last, first) ↔
      ∃ place, reached read store query place = some last ∧ last.savedSearch = none ∧
        first = nameAt read store query 0) ∧
    ∀ refusal, resolve read store query = .error refusal →
      (∃ name, refusal = .unknownSearch name) ∨ ∃ name, refusal = .searchCycle name := by
  intro read
  have reads : ∀ text, ∃ next, read text = .ok next := Query.exists_readAt valid now
  exact ⟨resolveWithin_size read store query,
    fun _ => resolve_error_iff.trans (follow_unknown_iff reads),
    fun _ => resolve_error_iff.trans (follow_cycle_iff reads),
    fun _ _ => resolve_ok_iff,
    fun _ answer => follow_refusal reads (resolve_error_iff.mp answer)⟩

/-- A chain that turns back to a name after its first one, read two hours to the east. -/
theorem resolve_decided_by_chain_turning :
    let store := Store.ofList [("home", "#%work milk"), ("work", "#%shop"), ("shop", "tea #%work")]
    let query : Query := { savedSearch := some "home", offset := 2 }
    (-25 ≤ query.offset ∧ query.offset ≤ 25) ∧
    let read := Query.readAt query.offset Instant.unixEpoch
    resolveWithin read store (store.size + 1) query = some (resolve read store query) ∧
    (∀ name, resolve read store query = .error (.unknownSearch name) ↔
      ∃ place, nameAt read store query place = some name ∧ store.get? name = none ∧
        (∀ earlier < place, ∃ other text, nameAt read store query earlier = some other ∧
          store.get? other = some text) ∧
        DifferentBefore read store query (place + 1)) ∧
    (∀ name, resolve read store query = .error (.searchCycle name) ↔
      ∃ place, nameAt read store query place = some name ∧
        (∃ earlier < place, nameAt read store query earlier = some name) ∧
        DifferentBefore read store query place) ∧
    (∀ last first, resolve read store query = .ok (last, first) ↔
      ∃ place, reached read store query place = some last ∧ last.savedSearch = none ∧
        first = nameAt read store query 0) ∧
    ∀ refusal, resolve read store query = .error refusal →
      (∃ name, refusal = .unknownSearch name) ∨ ∃ name, refusal = .searchCycle name := by
  intro store query
  have valid : -25 ≤ query.offset ∧ query.offset ≤ 25 := by decide
  exact ⟨valid, resolve_decided_by_chain store query Instant.unixEpoch valid⟩

end TaskQuery
