/-
**Sessions with a store.**

A store that begins empty is changed by inserts and removals. An insert is refused exactly where a
reference to its name would not be read, so whatever such a session stores can be referred to, and
a reference is planned like the text that the session stored last.

* `savedSearch_reference_iff`: the names that can be read back after the marker.
* `Store.get?_after_iff`: the texts that a session has stored.
* `Engine.plan_reference_cases`: a plan of a reference, beside the plan of the stored text.
* `session_plans_references`: inserts, stored texts and plans over a whole session.
-/

import Mathlib.Data.List.Induction
import TaskQuery.Proofs.Plan
import TaskQuery.Proofs.Query.Writing

namespace TaskQuery

open Calendar (Instant Vantage)
open Outcome

/-! ### Edits -/

/-- A change that is asked of a store. -/
inductive Edit where
  | insert (name text : String)
  | remove (name : String)
  deriving DecidableEq, Repr

/-- The name whose text is changed. -/
def Edit.name : Edit → String
  | insert name _ => name
  | remove name => name

namespace Store

/-- The store after an edit. A refused insert leaves it as it was. -/
def apply (store : Store) : Edit → Store
  | .insert name text =>
    match store.insert name text with
    | .ok stored => stored
    | .error _ => store
  | .remove name => store.remove name

/-- The store that a session leaves behind which began with the empty one. -/
def after (edits : List Edit) : Store :=
  edits.foldl apply empty

theorem after_concat (edits : List Edit) (edit : Edit) :
    after (edits ++ [edit]) = (after edits).apply edit :=
  List.foldl_concat ..

/-- The latest accepted insert of a name stored a text, and the name was not removed since. A name
that is accepted once is always accepted, so no later edit is about the name at all. -/
def IsCurrent (edits : List Edit) (name text : String) : Prop :=
  ∃ before later, edits = before ++ Edit.insert name text :: later ∧
    (∃ stored, (after before).insert name text = .ok stored) ∧ ∀ edit ∈ later, edit.name ≠ name

/-! ### Accepted names -/

section

variable {store : Store} {name text : String} {edits : List Edit} {edit : Edit}

theorem insert_eq_ok_iff {stored : Store} :
    store.insert name text = .ok stored ↔
      isTagName name.toList = true ∧ store.put name text = stored := by
  unfold insert
  split
  · next isName => simp [isName]
  · next notName => simp [notName]

theorem insert_eq_error_iff {refused : UnusableName} :
    store.insert name text = .error refused ↔
      isTagName name.toList = false ∧ refused = ⟨name⟩ := by
  unfold insert
  split
  · next isName => simp [isName]
  · next notName => simp [notName, eq_comm]

theorem apply_of_accepted (isName : isTagName name.toList = true) :
    store.apply (.insert name text) = store.put name text := by
  rw [apply, insert_eq_ok_iff.mpr ⟨isName, rfl⟩]

theorem apply_of_refused (notName : isTagName name.toList = false) :
    store.apply (.insert name text) = store := by
  rw [apply, insert_eq_error_iff.mpr ⟨notName, rfl⟩]

/-! ### One edit -/

/-- An edit of one name leaves the texts of the others alone. -/
theorem get?_apply_of_ne (different : edit.name ≠ name) :
    (store.apply edit).get? name = store.get? name := by
  cases edit with
  | insert other content =>
    have different : name ≠ other := Ne.symm different
    cases isName : isTagName other.toList with
    | true => rw [apply_of_accepted isName, get?_put, if_neg different]
    | false => rw [apply_of_refused isName]
  | remove other =>
    have different : name ≠ other := Ne.symm different
    rw [apply, get?_remove, if_neg different]

/-- All stored names are names to which queries can refer. -/
def IsReferable (store : Store) : Prop :=
  ∀ name text, store.get? name = some text → isTagName name.toList = true

/-- What a name has after an edit: the text that the edit stores, or the text from before. -/
theorem get?_apply_iff (referable : store.IsReferable) :
    (store.apply edit).get? name = some text ↔
      (edit = .insert name text ∧ isTagName name.toList = true) ∨
        edit.name ≠ name ∧ store.get? name = some text := by
  by_cases same : edit.name = name
  · subst same
    cases edit with
    | insert name content =>
      cases isName : isTagName name.toList with
      | true => simp [apply_of_accepted isName, get?_put, Edit.name, isName]
      | false =>
        rw [apply_of_refused isName]
        have absent : store.get? name ≠ some text := fun stored => by
          cases isName.symm.trans (referable name text stored)
        simp [absent, Edit.name, isName]
    | remove name => simp [apply, get?_remove, Edit.name]
  · have other : edit ≠ .insert name text := fun equal => same (equal ▸ rfl)
    simp [get?_apply_of_ne same, same, other]

theorem IsReferable.apply (referable : store.IsReferable) (edit : Edit) :
    (store.apply edit).IsReferable := by
  intro name text stored
  rcases (get?_apply_iff referable).mp stored with ⟨_, isName⟩ | ⟨_, before⟩
  · exact isName
  · exact referable name text before

/-! ### Whole sessions -/

theorem isReferable_after (edits : List Edit) : (after edits).IsReferable := by
  induction edits using List.reverseRecOn with
  | nil =>
    intro name text stored
    cases stored
  | append_singleton edits edit inner =>
    rw [after_concat]
    exact inner.apply edit

theorem IsCurrent.isTagName (current : IsCurrent edits name text) :
    isTagName name.toList = true := by
  obtain ⟨_, _, _, ⟨_, accepted⟩, _⟩ := current
  exact (insert_eq_ok_iff.mp accepted).1

theorem isCurrent_concat_iff :
    IsCurrent (edits ++ [edit]) name text ↔
      (edit = .insert name text ∧ isTagName name.toList = true) ∨
        edit.name ≠ name ∧ IsCurrent edits name text := by
  constructor
  · intro current
    have isName := current.isTagName
    obtain ⟨before, later, split, accepted, untouched⟩ := current
    rcases List.eq_nil_or_concat later with rfl | ⟨later, last, rfl⟩
    · have same : [edit] = [Edit.insert name text] := (List.append_inj' split rfl).2
      exact Or.inl ⟨List.singleton_inj.mp same, isName⟩
    · rw [List.concat_eq_append, ← List.cons_append, ← List.append_assoc] at split
      obtain ⟨rfl, same⟩ := List.append_inj' split rfl
      cases same
      refine Or.inr ⟨untouched _ (by simp), before, later, rfl, accepted, fun other member => ?_⟩
      exact untouched other (by simp [member])
  · rintro (⟨rfl, isName⟩ | ⟨different, before, later, rfl, accepted, untouched⟩)
    · exact ⟨edits, [], rfl, ⟨_, insert_eq_ok_iff.mpr ⟨isName, rfl⟩⟩, fun _ none => by cases none⟩
    · refine ⟨before, later ++ [edit], by simp, accepted, fun other member => ?_⟩
      rcases List.mem_append.mp member with member | member
      · exact untouched other member
      · rw [List.mem_singleton.mp member]
        exact different

/-- **A session has stored under each name what its latest accepted insert said**, unless the name
was removed since. -/
theorem get?_after_iff : (after edits).get? name = some text ↔ IsCurrent edits name text := by
  induction edits using List.reverseRecOn with
  | nil =>
    constructor
    · intro stored
      cases stored
    · rintro ⟨before, later, split, _⟩
      simp at split
  | append_singleton edits edit inner =>
    rw [after_concat, get?_apply_iff (isReferable_after edits), isCurrent_concat_iff, inner]

end

end Store

/-! ### References -/

section

variable {name text : String}

/-- What a reference to a saved search is read as. -/
theorem read_reference (vantage : Vantage) (isName : isTagName name.toList = true) :
    Query.read vantage ("#%" ++ name) =
      { savedSearch := some name, offset := vantage.zone.hours } := by
  have written : (Writing.savedSearch name).text .hash = "#%" ++ name :=
    congrArg (· ++ name) (show Sign.hash.char.toString ++ "%" = "#%" by decide)
  rw [← written, Writing.read_of_isSingle (Writing.isSingle_savedSearch .hash isName)]
  rfl

/-- **The store and the reader agree on names**: a name is read back after the marker exactly if it
is one that the store accepts. -/
theorem savedSearch_reference_iff (vantage : Vantage) :
    (Query.read vantage ("#%" ++ name)).savedSearch = some name ↔
      isTagName name.toList = true := by
  constructor
  · intro readBack
    exact (Query.read_wellFormed vantage _).savedSearch name (Option.mem_def.mpr readBack)
  · intro isName
    rw [read_reference vantage isName]

namespace Engine

variable {engine : Engine} {now : Instant} {filter : Option Filter}

/-- The statement of a text that an engine plans. -/
theorem compile_read (engine : Engine) (now : Instant) (text : String) (filter : Option Filter) :
    (engine.read now text).compile engine.store now filter =
      Query.compileText engine.zone.hours text engine.store now filter := by
  rw [Query.compileText, engine.readAt_eq]
  rfl

/-- A reference is planned where the stored text is, with the same result; only the payloads of the
stored text are not those of the reference. -/
theorem plan_reference_cases (now : Instant) (filter : Option Filter)
    (stored : engine.store.get? name = some text) (isName : isTagName name.toList = true) :
    (∃ direct, engine.plan now text filter = .ok direct ∧
      engine.plan now ("#%" ++ name) filter =
        .ok { direct with command := none, extra := none, savedSearch := some name }) ∨
    ∃ refusal refusal', engine.plan now ("#%" ++ name) filter = .error refusal ∧
      engine.plan now text filter = .error refusal' := by
  have reads : engine.read now ("#%" ++ name) =
      { savedSearch := some name, offset := engine.zone.hours } := read_reference _ isName
  have reference : (engine.read now ("#%" ++ name)).savedSearch = some name := by rw [reads]
  rcases Query.compile_reference_cases now filter stored reference with
    ⟨statement, direct, compiled⟩ | ⟨refusal, refusal', compiled, direct, _⟩
  · have direct' : (engine.read now text).compile engine.store now filter = .ok statement :=
      (engine.compile_read now text filter).trans direct
    refine Or.inl ⟨_, map_eq_ok.mpr ⟨statement, direct', rfl⟩, ?_⟩
    refine map_eq_ok.mpr ⟨_, compiled, ?_⟩
    rw [reads]
    rfl
  · have direct' : (engine.read now text).compile engine.store now filter = .error refusal' :=
      (engine.compile_read now text filter).trans direct
    exact Or.inr ⟨refusal, refusal', map_eq_error.mpr compiled, map_eq_error.mpr direct'⟩

/-- A reference to nothing is refused with its name. -/
theorem plan_unknown (now : Instant) (filter : Option Filter)
    (absent : engine.store.get? name = none) (isName : isTagName name.toList = true) :
    engine.plan now ("#%" ++ name) filter = .error (.unknownSearch name) := by
  have reference : (engine.read now ("#%" ++ name)).savedSearch = some name :=
    (savedSearch_reference_iff _).mpr isName
  have unresolved : engine.resolve now ("#%" ++ name) = .error (.unknownSearch name) := by
    rw [resolve, Saved.resolve, Saved.follow_reference reference, if_neg List.not_mem_nil, absent]
    rfl
  exact plan_of_unresolved filter unresolved

end Engine

end

/-- **Store and reader agree over whole sessions.** After any edits of an empty store, an insert is
refused, and then changes nothing, exactly where a reference to its name would not be read as one;
the text of each name is that of its latest accepted insert; and whatever engine has the store, a
reference to a stored name is planned exactly where its text is, and alike, while a reference to
another name is refused with that name. -/
theorem session_plans_references (edits : List Edit) :
    (∀ name text vantage, (∃ refused, (Store.after edits).insert name text = .error refused) ↔
      (Query.read vantage ("#%" ++ name)).savedSearch ≠ some name) ∧
    (∀ name text refused, (Store.after edits).insert name text = .error refused →
      Store.after (edits ++ [.insert name text]) = Store.after edits) ∧
    (∀ name text, (Store.after edits).get? name = some text ↔ Store.IsCurrent edits name text) ∧
    ∀ (engine : Engine) (now : Instant) (filter : Option Filter),
      engine.store = Store.after edits →
      (∀ name text, Store.IsCurrent edits name text →
        ((∃ plan, engine.plan now ("#%" ++ name) filter = .ok plan) ↔
          ∃ direct, engine.plan now text filter = .ok direct) ∧
        ∀ plan direct, engine.plan now ("#%" ++ name) filter = .ok plan →
          engine.plan now text filter = .ok direct →
            plan.sql = direct.sql ∧ plan.options = direct.options ∧
              plan.shownColumns = direct.shownColumns ∧ plan.isEmpty = direct.isEmpty) ∧
      ∀ name, (Query.read (engine.vantage now) ("#%" ++ name)).savedSearch = some name →
        (∀ text, ¬Store.IsCurrent edits name text) →
          engine.plan now ("#%" ++ name) filter = .error (.unknownSearch name) := by
  refine ⟨fun name text vantage => ?_, fun name text refused rejected => ?_,
    fun name text => Store.get?_after_iff, fun engine now filter sameStore =>
      ⟨fun name text current => ?_, fun name readBack absent => ?_⟩⟩
  · rw [ne_eq, savedSearch_reference_iff, Bool.not_eq_true]
    constructor
    · rintro ⟨_, rejected⟩
      exact (Store.insert_eq_error_iff.mp rejected).1
    · intro notName
      exact ⟨_, Store.insert_eq_error_iff.mpr ⟨notName, rfl⟩⟩
  · rw [Store.after_concat, Store.apply_of_refused (Store.insert_eq_error_iff.mp rejected).1]
  · have stored : engine.store.get? name = some text :=
      sameStore ▸ Store.get?_after_iff.mpr current
    rcases Engine.plan_reference_cases now filter stored current.isTagName with
      ⟨direct, planned, referred⟩ | ⟨refusal, refusal', unplanned', unplanned⟩
    · refine ⟨⟨fun _ => ⟨_, planned⟩, fun _ => ⟨_, referred⟩⟩, ?_⟩
      intro plan direct' success success'
      cases referred.symm.trans success
      cases planned.symm.trans success'
      exact ⟨rfl, rfl, rfl, rfl⟩
    · constructor
      · constructor
        · rintro ⟨_, success⟩
          cases unplanned'.symm.trans success
        · rintro ⟨_, success⟩
          cases unplanned.symm.trans success
      · intro plan direct success
        cases unplanned'.symm.trans success
  · have missing : engine.store.get? name = none := by
      refine Option.eq_none_iff_forall_ne_some.mpr fun text stored => absent text ?_
      exact Store.get?_after_iff.mp (sameStore ▸ stored)
    exact Engine.plan_unknown now filter missing ((savedSearch_reference_iff _).mp readBack)

/-- A name replaced, another one removed, one refused, and one whose text leads to itself. -/
theorem session_plans_references_mixed :
    let edits : List Edit :=
      [.insert "home" "#a", .insert "two words" "#x", .insert "home" "#b #!go", .insert "work" "#c",
        .remove "work", .insert "1/2,+-:" "#%1/2,+-:"]
    let engine : Engine := { zone := ⟨2, by decide⟩, store := Store.after edits }
    let now := Instant.unixEpoch
    Store.after (edits ++ [.insert "two words" "#b"]) = Store.after edits ∧
      ((∃ plan, engine.plan now "#%home" none = .ok plan) ↔
        ∃ direct, engine.plan now "#b #!go" none = .ok direct) ∧
      ((∃ plan, engine.plan now "#%1/2,+-:" none = .ok plan) ↔
        ∃ direct, engine.plan now "#%1/2,+-:" none = .ok direct) ∧
      engine.plan now "#%work" none = .error (.unknownSearch "work") := by
  intro edits engine now
  have session := session_plans_references edits
  have plans := session.2.2.2 engine now none rfl
  have refused : (Store.after edits).insert "two words" "#b" = .error ⟨"two words"⟩ :=
    Store.insert_eq_error_iff.mpr ⟨by decide +kernel, rfl⟩
  have home : Store.IsCurrent edits "home" "#b #!go" :=
    Store.get?_after_iff.mp (by decide +kernel)
  have round : Store.IsCurrent edits "1/2,+-:" "#%1/2,+-:" :=
    Store.get?_after_iff.mp (by decide +kernel)
  have gone : ∀ text, ¬Store.IsCurrent edits "work" text := fun text current => by
    have absent : (Store.after edits).get? "work" = none := by decide +kernel
    cases absent.symm.trans (Store.get?_after_iff.mpr current)
  have readable : (Query.read (engine.vantage now) ("#%" ++ "work")).savedSearch = some "work" :=
    (savedSearch_reference_iff _).mpr (by decide +kernel)
  exact ⟨session.2.1 _ _ _ refused, (plans.1 _ _ home).1, (plans.1 _ _ round).1,
    plans.2 "work" readable gone⟩

end TaskQuery
