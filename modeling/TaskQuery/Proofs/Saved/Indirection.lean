/-
**A reference to a saved search stands for the stored text.**

The chain of a query that refers to a saved search is the chain of the stored query with one name
more in front. Both end in the same way; where they end at a name met twice, the name may be another
one, because the longer chain meets the first name again before the shorter one does.

* `Alike`: one answer for both chains.
* `follow_alike`: both chains end alike.
* `compile_reference_transparent`: a reference compiles like the text stored under its name.
-/

import Mathlib.Data.List.Nodup
import TaskQuery.Proofs.Outcome
import TaskQuery.Proofs.Saved.Chain
import TaskQuery.Statement

namespace TaskQuery

open Calendar (Instant Vantage Zone)

namespace Saved

variable {read : String → Except CompileError Query} {store : Store}

/-! ### One more name in front -/

/-- A chain that comes back to the name under which its first query is stored goes on from there as
it began. -/
theorem Leads.around {first last : Query} {name text : String} {names : List String}
    (leads : Leads read store first names last) (stored : store.get? name = some text)
    (reads : read text = .ok first) (back : name ∈ names) :
    ∃ before after middle, names = before ++ name :: after ∧
      Leads read store first before middle ∧ middle.savedSearch = some name ∧
      Leads read store first after last := by
  obtain ⟨before, after, rfl⟩ := List.append_of_mem back
  obtain ⟨middle, loop, further⟩ := leads.split
  obtain ⟨reference, rest⟩ := further.of_cons stored reads
  exact ⟨before, after, middle, rfl, loop, reference, rest⟩

/-- Such a chain meets a name twice. -/
theorem Ends.repeated_of_mem {first last : Query} {name text : String} {names : List String}
    {answer : Except CompileError (Query × List String)} (stored : store.get? name = some text)
    (reads : read text = .ok first) (leads : Leads read store first names last)
    (different : names.Nodup) (back : name ∈ names) (ends : Ends read store names last answer) :
    ∃ again, answer = .error (.searchCycle again) := by
  obtain ⟨before, after, middle, rfl, loop, reference, rest⟩ := leads.around stored reads back
  -- The way around and what follows it are two chains from the first query.
  have round : Leads read store first (before ++ [name]) first :=
    loop.append (.step reference stored reads .here)
  have once : name ∉ after := (List.nodup_cons.mp (List.nodup_append.mp different).2.1).1
  rcases round.comparable rest with ⟨more, rfl, _⟩ | ⟨more, turn, onward⟩
  · have member : name ∈ before ++ [name] ++ more :=
      List.mem_append_left _ (List.mem_append_right _ (List.mem_singleton_self _))
    exact absurd member once
  · cases onward with
    | here =>
      rw [List.append_nil] at turn
      have member : name ∈ before ++ [name] := List.mem_append_right _ (List.mem_singleton_self _)
      exact absurd (turn ▸ member) once
    | @step _ _ _ again _ later reference' _ _ _ =>
      have met : again ∈ before ++ [name] := turn ▸ List.mem_append_right _ List.mem_cons_self
      have passed : again ∈ before ++ name :: after := by
        rw [List.append_cons]
        exact List.mem_append_left _ met
      exact ⟨again, ends.eq_repeated reference' passed⟩

/-- The answers of a chain and of the same chain with one name more in front. -/
inductive Alike (name : String) : Except CompileError (Query × List String) →
    Except CompileError (Query × List String) → Prop where
  | reached (last : Query) (names : List String) :
      Alike name (.ok (last, names)) (.ok (last, name :: names))
  | repeated (again again' : String) :
      Alike name (.error (.searchCycle again)) (.error (.searchCycle again'))
  | refused (refusal : CompileError) : Alike name (.error refusal) (.error refusal)

/-- **A query that refers to a stored one ends as the stored one does.** -/
theorem follow_alike {query next : Query} {name text : String}
    (reference : query.savedSearch = some name) (stored : store.get? name = some text)
    (reads : read text = .ok next) :
    Alike name (follow read store [] next) (follow read store [] query) := by
  obtain ⟨names, last, leads, different, ends⟩ := exists_ends read store next
  have whole : Remains store store [] := fun _ _ => rfl
  by_cases back : name ∈ names
  · -- The longer chain is cut where it meets the name again.
    obtain ⟨again, answer⟩ := ends.repeated_of_mem stored reads leads different back
    obtain ⟨before, after, middle, rfl, loop, reference', _⟩ := leads.around stored reads back
    have distinct : (name :: before).Nodup := by
      have apart := List.nodup_middle.mp different
      exact apart.sublist (List.sublist_append_left (name :: before) after)
    have cut : follow read store [] query = .error (.searchCycle name) :=
      follow_eq (.step reference stored reads loop) distinct whole
        (.repeated reference' List.mem_cons_self)
    rw [answer, cut]
    exact .repeated again name
  · have distinct : (name :: names).Nodup := List.nodup_cons.mpr ⟨back, different⟩
    have longer : Leads read store query (name :: names) last := .step reference stored reads leads
    generalize follow read store [] next = answer at ends
    cases ends with
    | direct direct =>
      rw [follow_eq longer distinct whole (.direct direct)]
      exact .reached last names
    | repeated reference' passed =>
      rw [follow_eq longer distinct whole
        (.repeated reference' (List.mem_cons_of_mem name passed))]
      exact .repeated _ _
    | @unknown missing reference' fresh absent =>
      have other : missing ≠ name := by
        rintro rfl
        cases stored.symm.trans absent
      have fresh' := List.not_mem_cons_of_ne_of_not_mem other fresh
      rw [follow_eq longer distinct whole (.unknown reference' fresh' absent)]
      exact .refused _
    | @refused unread text' refusal reference' fresh stored' refuses =>
      have other : unread ≠ name := by
        rintro rfl
        cases stored.symm.trans stored'
        cases reads.symm.trans refuses
      have fresh' := List.not_mem_cons_of_ne_of_not_mem other fresh
      rw [follow_eq longer distinct whole (.refused reference' fresh' stored' refuses)]
      exact .refused _

end Saved

/-! ### Statements -/

namespace Query

variable {query next : Query} {store : Store} {now : Instant} {filter : Option Filter}

theorem readAt_offset {offset : Int} {text : String} (reads : readAt offset now text = .ok next) :
    next.offset = offset := by
  unfold readAt ofText Vantage.ofOffset at reads
  cases zone : Zone.ofHours? offset with
  | none =>
    rw [zone] at reads
    cases reads
  | some zone' =>
    rw [zone] at reads
    cases reads
    unfold Zone.ofHours? at zone
    split at zone
    · cases zone
      rfl
    · cases zone

/-- The saved search that took the place of a query is only named in the statement. -/
theorem compileResolved_savedSearch (savedSearch savedSearch' : Option String) :
    query.compileResolved savedSearch' now filter =
      (query.compileResolved savedSearch now filter).map fun statement =>
        { statement with savedSearch := savedSearch' } := by
  unfold compileResolved
  cases Vantage.ofOffset query.offset now with
  | error _ => rfl
  | ok vantage =>
    dsimp only
    cases query.clauses vantage filter <;> rfl

/-- What refers to the same saved search at the same offset compiles alike. -/
theorem compile_congr {other : Query} {name : String} (reference : query.savedSearch = some name)
    (reference' : other.savedSearch = some name) (offset : other.offset = query.offset) :
    other.compile store now filter = query.compile store now filter := by
  rw [compile, compile, Saved.resolve, Saved.resolve, Saved.follow_reference reference,
    Saved.follow_reference reference', offset]

/-- Refusals that differ at most in the name that a chain meets twice. -/
def SameRefusal (refusal refusal' : CompileError) : Prop :=
  refusal = refusal' ∨ ∃ again again', refusal = .searchCycle again ∧ refusal' = .searchCycle again'

theorem compile_reference_cases (now : Instant) (filter : Option Filter) {name text : String}
    (stored : store.get? name = some text) (reference : query.savedSearch = some name) :
    (∃ direct, compileText query.offset text store now filter = .ok direct ∧
      query.compile store now filter = .ok { direct with savedSearch := some name }) ∨
    ∃ refusal refusal', query.compile store now filter = .error refusal ∧
      compileText query.offset text store now filter = .error refusal' ∧
      SameRefusal refusal refusal' := by
  cases reads : readAt query.offset now text with
  | error refusal =>
    refine Or.inr ⟨refusal, refusal, ?_, ?_, Or.inl rfl⟩
    · rw [compile, Saved.resolve, Saved.follow_reference reference, if_neg List.not_mem_nil, stored]
      dsimp only
      rw [reads]
      rfl
    · rw [compileText, reads]
      rfl
  | ok next =>
    have alike := Saved.follow_alike reference stored reads
    have direct : compileText query.offset text store now filter =
        ((Saved.follow (readAt query.offset now) store [] next).map fun reached =>
          (reached.1, reached.2.head?)).bind fun reached =>
            reached.1.compileResolved reached.2 now filter := by
      rw [compileText, reads]
      show next.compile store now filter = _
      rw [compile, Saved.resolve, readAt_offset reads]
    rw [direct, compile, Saved.resolve]
    generalize Saved.follow (readAt query.offset now) store [] next = answer at alike
    generalize Saved.follow (readAt query.offset now) store [] query = answer' at alike
    cases alike with
    | reached last names =>
      have named : last.compileResolved (some name) now filter = _ :=
        compileResolved_savedSearch names.head? _
      show (∃ direct, last.compileResolved names.head? now filter = .ok direct ∧
          last.compileResolved (some name) now filter = .ok _) ∨
        ∃ refusal refusal', last.compileResolved (some name) now filter = .error refusal ∧
          last.compileResolved names.head? now filter = .error refusal' ∧ _
      rw [named]
      cases last.compileResolved names.head? now filter with
      | error refusal => exact Or.inr ⟨refusal, refusal, rfl, rfl, Or.inl rfl⟩
      | ok statement => exact Or.inl ⟨statement, rfl, rfl⟩
    | repeated again again' => exact Or.inr ⟨_, _, rfl, rfl, Or.inr ⟨again', again, rfl, rfl⟩⟩
    | refused refusal => exact Or.inr ⟨refusal, refusal, rfl, rfl, Or.inl rfl⟩

end Query

/-- **A reference to a saved search compiles like the stored text**, whatever else the query holds:
to the same statement, or to the same refusal up to the name that the chain meets twice. -/
theorem compile_reference_transparent (store : Store) (name text : String) (query : Query)
    (now : Instant) (filter : Option Filter) (stored : store.get? name = some text)
    (reference : query.savedSearch = some name) :
    ((∃ statement, query.compile store now filter = .ok statement) ↔
      ∃ direct, Query.compileText query.offset text store now filter = .ok direct) ∧
    (∀ statement direct, query.compile store now filter = .ok statement →
      Query.compileText query.offset text store now filter = .ok direct →
        (∀ database, statement.text database = direct.text database) ∧
        statement.options = direct.options ∧ statement.shownColumns = direct.shownColumns ∧
        statement.isEmpty = direct.isEmpty ∧ statement.savedSearch = some name) ∧
    (∀ refusal refusal', query.compile store now filter = .error refusal →
      Query.compileText query.offset text store now filter = .error refusal' →
        refusal = refusal' ∨
          ∃ again again', refusal = .searchCycle again ∧ refusal' = .searchCycle again') ∧
    ∀ other : Query, other.savedSearch = some name → other.offset = query.offset →
      other.compile store now filter = query.compile store now filter := by
  have outcomes := Query.compile_reference_cases now filter stored reference
  refine ⟨?_, ?_, ?_, ?_⟩
  · rcases outcomes with ⟨direct, answer, answer'⟩ | ⟨refusal, refusal', answer, answer', _⟩
    · exact ⟨fun _ => ⟨direct, answer⟩, fun _ => ⟨_, answer'⟩⟩
    · constructor
      · rintro ⟨_, success⟩
        cases answer.symm.trans success
      · rintro ⟨_, success⟩
        cases answer'.symm.trans success
  · intro statement direct success success'
    rcases outcomes with ⟨direct', answer, answer'⟩ | ⟨refusal, refusal', answer, _, _⟩
    · cases answer'.symm.trans success
      cases answer.symm.trans success'
      exact ⟨fun _ => rfl, rfl, rfl, rfl, rfl⟩
    · cases answer.symm.trans success
  · intro refusal refusal' failure failure'
    rcases outcomes with ⟨direct, answer, _⟩ | ⟨_, _, answer, answer', same⟩
    · cases answer.symm.trans failure'
    · cases answer.symm.trans failure
      cases answer'.symm.trans failure'
      exact same
  · intro other reference' offset
    exact Query.compile_congr reference reference' offset

/-- Two texts that refer to each other, so that the two chains meet different names twice; and a
text that refers to one with a statement, which is that of the query whatever else that holds. -/
theorem compile_reference_transparent_round :
    let store := Store.ofList [("home", "#%work milk"), ("work", "#shop #%home"),
      ("tea", "#%green"), ("green", "#shop -#done tea")]
    let now := Instant.unixEpoch
    let round : Query := { text := "tea", savedSearch := some "home" }
    let query : Query := { text := "milk", savedSearch := some "tea" }
    let sql := "SELECT " ++ selectedColumns ++ " FROM tasks WHERE "
      ++ "id IN (SELECT id FROM columns WHERE name = 'shop') AND "
      ++ "(id IN (SELECT id FROM ridx WHERE title_field MATCH 'tea') OR "
      ++ "id IN (SELECT id FROM ridx WHERE text_field MATCH 'tea')) AND priority <> 5 AND "
      ++ "id NOT IN (SELECT id FROM columns WHERE name = 'done') "
      ++ "GROUP BY id ORDER BY priority ASC, trigger_at_field ASC, sort DESC"
    (store.get? "home" = some "#%work milk" ∧ round.savedSearch = some "home" ∧
      round.compile store now none = .error (.searchCycle "home") ∧
      Query.compileText round.offset "#%work milk" store now none =
        .error (.searchCycle "work")) ∧
    store.get? "tea" = some "#%green" ∧ query.savedSearch = some "tea" ∧
    (∃ statement direct, query.compile store now none = .ok statement ∧
      Query.compileText query.offset "#%green" store now none = .ok direct ∧
      statement.text {} = sql ∧ (∀ database, statement.text database = direct.text database) ∧
      statement.savedSearch = some "tea" ∧ direct.savedSearch = some "green") ∧
    ∀ other : Query, other.savedSearch = some "tea" → other.offset = query.offset →
      other.compile store now none = query.compile store now none := by
  intro store now round query sql
  have cycle : Outcome.refusal? (round.compile store now none) = some (.searchCycle "home") ∧
      Outcome.refusal? (Query.compileText round.offset "#%work milk" store now none) =
        some (.searchCycle "work") := by
    decide +kernel
  have written : ((query.compile store now none).toOption.map fun statement =>
      statement.text {}) = some sql := by
    decide +kernel
  have follows : ((Query.compileText query.offset "#%green" store now none).toOption.map
      Statement.savedSearch) = some (some "green") := by
    decide +kernel
  obtain ⟨statement, compiled, isSql⟩ := Option.map_eq_some_iff.mp written
  obtain ⟨direct, compiled', name⟩ := Option.map_eq_some_iff.mp follows
  have compiled := Outcome.toOption_eq_some.mp compiled
  have compiled' := Outcome.toOption_eq_some.mp compiled'
  have stored : store.get? "tea" = some "#%green" := by rfl
  obtain ⟨_, same, _, others⟩ :=
    compile_reference_transparent store "tea" "#%green" query now none stored rfl
  obtain ⟨texts, _, _, _, name'⟩ := same statement direct compiled compiled'
  exact ⟨⟨by rfl, rfl, Outcome.refusal?_eq_some.mp cycle.1, Outcome.refusal?_eq_some.mp cycle.2⟩,
    stored, rfl, ⟨statement, direct, compiled, compiled', isSql, texts, name', name⟩, others⟩

end TaskQuery
