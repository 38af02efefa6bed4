/-
**Which texts an engine plans.**

An engine reads every text, so a plan is refused for two reasons only: a saved search that is not
stored or leads back to itself, or a test of a field in the text that takes effect, the text itself
or the stored one to which it leads.

* `Engine.resolve`: the query that takes effect.
* `plan_refused_iff`: the refusals of plans.
-/

import TaskQuery.Engine
import TaskQuery.Proofs.Query.Fields
import TaskQuery.Proofs.Saved.Course

namespace TaskQuery

open Calendar (Instant Vantage)
open Outcome

namespace Engine

variable {engine : Engine} {now : Instant} {text : String}

/-- Where and when the texts of an engine are read. -/
def vantage (engine : Engine) (now : Instant) : Vantage :=
  { zone := engine.zone, now }

/-- The query that takes effect for a text, and the first saved search that took its place. -/
def resolve (engine : Engine) (now : Instant) (text : String) :
    Except CompileError (Query × Option String) :=
  Saved.resolve (Query.readAt engine.zone.hours now) engine.store (engine.read now text)

/-- An engine reads every text. -/
theorem readAt_eq (engine : Engine) (now : Instant) (text : String) :
    Query.readAt engine.zone.hours now text = .ok (engine.read now text) := by
  have valid : Vantage.ofOffset engine.zone.hours now = .ok (engine.vantage now) :=
    Vantage.ofOffset_eq_ok.mpr ⟨rfl, rfl⟩
  rw [Query.readAt, Query.ofText_eq valid]
  rfl

/-- The query that takes effect is read from the text itself or from a stored one. -/
theorem exists_written {effective : Query} {first : Option String}
    (resolved : engine.resolve now text = .ok (effective, first)) :
    ∃ written, (written = text ∨ ∃ name, engine.store.get? name = some written) ∧
      effective = engine.read now written := by
  obtain ⟨place, here, _, _⟩ := Saved.resolve_ok_iff.mp resolved
  rcases Saved.reached_cases here with rfl | ⟨name, written, stored, reads⟩
  · exact ⟨text, Or.inl rfl, rfl⟩
  · rw [engine.readAt_eq] at reads
    exact ⟨written, Or.inr ⟨name, stored⟩, (Except.ok.inj reads).symm⟩

theorem resolve_refusal {refusal : CompileError}
    (refused : engine.resolve now text = .error refusal) :
    (∃ name, refusal = .unknownSearch name) ∨ ∃ name, refusal = .searchCycle name :=
  Saved.follow_refusal (fun written => ⟨_, engine.readAt_eq now written⟩)
    (Saved.resolve_error_iff.mp refused)

/-- A plan is refused where its text leads to no query. -/
theorem plan_of_unresolved {refusal : CompileError} (filter : Option Filter)
    (refused : engine.resolve now text = .error refusal) :
    engine.plan now text filter = .error refusal := by
  have same : Saved.resolve (Query.readAt (engine.read now text).offset now) engine.store
      (engine.read now text) = .error refusal := refused
  rw [plan, map_eq_error, Query.compile, same]
  rfl

/-- A plan is refused for the first refused test of a field in the text that takes effect. -/
theorem plan_of_resolved {written : String} {first : Option String} {refusal : CompileError}
    (resolved : engine.resolve now text = .ok (engine.read now written, first)) :
    engine.plan now text none = .error refusal ↔
      FirstRefused (FieldTest.Refused (engine.vantage now))
        (fieldTests (engine.vantage now) written) refusal := by
  have valid : Vantage.ofOffset (engine.read now written).offset now = .ok (engine.vantage now) :=
    Vantage.ofOffset_eq_ok.mpr ⟨rfl, rfl⟩
  have compiled : refusal? ((engine.read now text).compile engine.store now none) =
      refusal? ((engine.read now written).clauses (engine.vantage now) none) :=
    Query.compile_refusal? none resolved valid
  rw [plan, map_eq_error, ← refusal?_eq_some, compiled]
  exact Query.read_refused_iff

end Engine

/-- **The refusals of plans.** A plan without a filter is refused where saved searches are, and for
the first refused test of a field in the text that takes effect; and saved searches are refused for
two reasons, so nothing that is read from a text is ever the reason. -/
theorem plan_refused_iff (engine : Engine) (now : Instant) (text : String) :
    (∀ refusal, engine.plan now text none = .error refusal ↔
      engine.resolve now text = .error refusal ∨
        ∃ written first, (written = text ∨ ∃ name, engine.store.get? name = some written) ∧
          engine.resolve now text = .ok (engine.read now written, first) ∧
          FirstRefused (FieldTest.Refused (engine.vantage now))
            (fieldTests (engine.vantage now) written) refusal) ∧
    (∀ refusal, engine.resolve now text = .error refusal →
      (∃ name, refusal = .unknownSearch name) ∨ ∃ name, refusal = .searchCycle name) ∧
    ∀ cause, engine.plan now text none ≠ .error (.query cause) := by
  have refused (refusal : CompileError) : engine.plan now text none = .error refusal ↔
      engine.resolve now text = .error refusal ∨
        ∃ written first, (written = text ∨ ∃ name, engine.store.get? name = some written) ∧
          engine.resolve now text = .ok (engine.read now written, first) ∧
          FirstRefused (FieldTest.Refused (engine.vantage now))
            (fieldTests (engine.vantage now) written) refusal := by
    constructor
    · intro failed
      cases resolved : engine.resolve now text with
      | error other =>
        cases (Engine.plan_of_unresolved none resolved).symm.trans failed
        exact Or.inl rfl
      | ok reached =>
        obtain ⟨effective, first⟩ := reached
        obtain ⟨written, source, rfl⟩ := Engine.exists_written resolved
        exact Or.inr ⟨written, first, source, rfl, (Engine.plan_of_resolved resolved).mp failed⟩
    · rintro (unresolved | ⟨written, first, _, resolved, isRefused⟩)
      · exact Engine.plan_of_unresolved none unresolved
      · exact (Engine.plan_of_resolved resolved).mpr isRefused
  refine ⟨refused, fun _ => Engine.resolve_refusal, fun cause failed => ?_⟩
  rcases (refused _).mp failed with unresolved | ⟨_, _, _, _, _, test, _, _, _, isRefused⟩
  · rcases Engine.resolve_refusal unresolved with ⟨_, same⟩ | ⟨_, same⟩
    · cases same
    · cases same
  · cases isRefused

/-- A stored text in which an unknown field stands after a shorthand and an excluded comparison, and
before a date that is none. -/
theorem plan_refused_iff_stored :
    let engine : Engine :=
      { zone := ⟨2, by decide⟩
        store := Store.ofList [("home", "#now -#a!=2 #:size=1 #:when=soon")] }
    engine.plan Instant.unixEpoch "milk #%home" none = .error (.unknownField ":size") := by
  intro engine
  let now := Instant.unixEpoch
  let written := "#now -#a!=2 #:size=1 #:when=soon"
  have stored : engine.store.get? "home" = some written := by rfl
  have reference : (engine.read now "milk #%home").savedSearch = some "home" := by decide +kernel
  have direct : (engine.read now written).savedSearch = none := by decide +kernel
  have here : Saved.reached (Query.readAt engine.zone.hours now) engine.store
      (engine.read now "milk #%home") 1 = some (engine.read now written) :=
    Saved.successor_of_reference reference stored (engine.readAt_eq now written)
  have resolved : engine.resolve now "milk #%home" =
      .ok (engine.read now written, some "home") :=
    Saved.resolve_ok_iff.mpr ⟨1, here, direct, reference.symm⟩
  have tests : fieldTests (engine.vantage now) written =
      [⟨"size", .eq, "1"⟩, ⟨"when", .eq, "soon"⟩] := by decide +kernel
  have isRefused : FirstRefused (FieldTest.Refused (engine.vantage now))
      (fieldTests (engine.vantage now) written) (.unknownField ":size") := by
    refine ⟨[], _, _, tests, fun _ none => absurd none List.not_mem_nil, ?_⟩
    exact FieldTest.Refused.unknownField (by decide)
  exact ((plan_refused_iff engine now "milk #%home").1 _).mpr
    (Or.inr ⟨written, _, Or.inr ⟨"home", stored⟩, resolved, isRefused⟩)

end TaskQuery
