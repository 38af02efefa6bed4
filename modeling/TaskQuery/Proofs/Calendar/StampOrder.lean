/-
**Stamps sort like the instants they stand for.**

From year 0 on a field has as many digits as its width says, so two local times written in one
pattern compare as the lists of their fields do. The fields of a stamp stand in the order in which
local times compare, from the year down to the second; so a statement that compares trigger times as
texts compares the instants.

* `digitsOfWidth_lt_iff`: numbers of one width compare as their digits do.
* `Pattern.write_lt_iff`: local times in one pattern compare as their fields do.
* `stamp_lt_iff`, `stamp_eq_iff`: the order of stamps.
* `stamps_order_as_instants`: the order of stamps, and what a test of the trigger time says.
-/

import TaskQuery.Proofs.Calendar.RoundTrip
import TaskQuery.Proofs.Query.Fields

namespace TaskQuery

namespace Calendar

/-! ### Digits -/

theorem digitChar_lt_iff {first second : Nat} (single : first < 10) (single' : second < 10) :
    Nat.digitChar first < Nat.digitChar second ↔ first < second := by
  have code := Nat.toNat_digitChar_of_lt_ten single
  have code' := Nat.toNat_digitChar_of_lt_ten single'
  show (Nat.digitChar first).toNat < (Nat.digitChar second).toNat ↔ first < second
  rw [code, code']
  omega

/-- Texts that begin with equally many characters compare by these first. -/
theorem append_lt_append_iff {first second rest rest' : List Char}
    (same : first.length = second.length) :
    first ++ rest < second ++ rest' ↔ first < second ∨ first = second ∧ rest < rest' := by
  induction first generalizing second with
  | nil =>
    obtain rfl : second = [] := List.length_eq_zero_iff.mp same.symm
    simp
  | cons c first inner =>
    cases second with
    | nil => cases same
    | cons c' second =>
      have later := inner (Nat.succ.inj same)
      rw [List.cons_append, List.cons_append, List.cons_lt_cons_iff, List.cons_lt_cons_iff, later,
        List.cons.injEq, and_or_left, or_assoc, and_assoc]

theorem digitsOfWidth_inj {width first second : Nat} (fits : FitsWidth width first)
    (fits' : FitsWidth width second) :
    digitsOfWidth width first = digitsOfWidth width second ↔ first = second := by
  refine ⟨fun same => ?_, congrArg _⟩
  rw [← digitsValue_digitsOfWidth fits, same, digitsValue_digitsOfWidth fits']

/-- **Numbers of one width compare as their digits do.** -/
theorem digitsOfWidth_lt_iff {width first second : Nat} (fits : FitsWidth width first)
    (fits' : FitsWidth width second) :
    digitsOfWidth width first < digitsOfWidth width second ↔ first < second := by
  induction width generalizing first second with
  | zero =>
    obtain rfl : first = 0 := fits
    obtain rfl : second = 0 := fits'
    simp [digitsOfWidth]
  | succ width inner =>
    have lengths : (digitsOfWidth width (first / 10)).length =
        (digitsOfWidth width (second / 10)).length := by
      rw [digitsOfWidth_length, digitsOfWidth_length]
    have last : [Nat.digitChar (first % 10)] < [Nat.digitChar (second % 10)] ↔
        first % 10 < second % 10 := by
      rw [List.cons_lt_cons_iff,
        digitChar_lt_iff (Nat.mod_lt _ (by decide)) (Nat.mod_lt _ (by decide))]
      simp
    have equal : digitsOfWidth width (first / 10) = digitsOfWidth width (second / 10) ↔
        first / 10 = second / 10 := digitsOfWidth_inj fits fits'
    rw [digitsOfWidth, digitsOfWidth, append_lt_append_iff lengths, inner fits fits', equal, last]
    omega

/-! ### Fields -/

namespace Field

variable (part : Field) {first second : LocalTime}
variable (era : 0 ≤ first.date.year) (era' : 0 ≤ second.date.year)

include era era'

theorem length_write_eq : (part.write first).length = (part.write second).length := by
  obtain ⟨_, _, spelled, _⟩ := part.write_of_era era
  obtain ⟨_, _, spelled', _⟩ := part.write_of_era era'
  rw [spelled, spelled', digitsOfWidth_length, digitsOfWidth_length]

theorem write_lt_iff : part.write first < part.write second ↔
    part.valueIn first < part.valueIn second := by
  obtain ⟨_, fits, spelled, value⟩ := part.write_of_era era
  obtain ⟨_, fits', spelled', value'⟩ := part.write_of_era era'
  rw [spelled, spelled', digitsOfWidth_lt_iff fits fits', value, value', Int.ofNat_lt]

theorem write_eq_iff : part.write first = part.write second ↔
    part.valueIn first = part.valueIn second := by
  obtain ⟨_, fits, spelled, value⟩ := part.write_of_era era
  obtain ⟨_, fits', spelled', value'⟩ := part.write_of_era era'
  rw [spelled, spelled', digitsOfWidth_inj fits fits', value, value', Int.ofNat_inj]

end Field

/-! ### Patterns -/

/-- The values of the fields of a pattern, in the order of the pattern. -/
def Pattern.values (time : LocalTime) : Pattern → List Int
  | [] => []
  | .field part :: rest => part.valueIn time :: values time rest
  | .literal _ :: rest => values time rest
  | .gap :: rest => values time rest

/-- **Local times in one pattern compare as their fields do.** -/
theorem Pattern.write_lt_iff (pattern : Pattern) {first second : LocalTime}
    (era : 0 ≤ first.date.year) (era' : 0 ≤ second.date.year) :
    pattern.write first < pattern.write second ↔ pattern.values first < pattern.values second := by
  rw [String.lt_iff, write, write, String.toList_ofList, String.toList_ofList]
  induction pattern with
  | nil => simp [values]
  | cons piece rest inner =>
    rw [List.flatMap_cons, List.flatMap_cons]
    cases piece with
    | field part =>
      have length : (part.write first).length = (part.write second).length :=
        part.length_write_eq era era'
      rw [values, values, List.cons_lt_cons_iff, ← inner, ← part.write_lt_iff era era',
        ← part.write_eq_iff era era']
      exact append_lt_append_iff length
    | literal c => simpa [Piece.write, values] using inner
    | gap => simpa [Piece.write, values] using inner

/-! ### Stamps -/

theorem Date.eq_iff {first second : Date} :
    first = second ↔
      first.year = second.year ∧ first.month = second.month ∧ first.day = second.day := by
  refine ⟨fun same => same ▸ ⟨rfl, rfl, rfl⟩, fun ⟨year, month, day⟩ => ?_⟩
  exact (eq_iff_of_year_eq year).mpr ⟨month, day⟩

theorem Clock.nanoseconds_lt_iff {first second : Clock} (whole : first.nanosecond = 0)
    (whole' : second.nanosecond = 0) :
    first.nanoseconds < second.nanoseconds ↔
      first.hour < second.hour ∨ first.hour = second.hour ∧
        (first.minute < second.minute ∨ first.minute = second.minute ∧
          first.second < second.second) := by
  have minutes := first.minute_range
  have minutes' := second.minute_range
  have seconds := first.second_range
  have seconds' := second.second_range
  unfold nanoseconds secondLength
  omega

/-- The fields of a stamp stand in the order in which local times compare. -/
theorem values_trigger_lt_iff {first second : LocalTime} (whole : first.clock.nanosecond = 0)
    (whole' : second.clock.nanosecond = 0) :
    Pattern.trigger.values first < Pattern.trigger.values second ↔
      first.position < second.position := by
  show [(first.date.year : Int), first.date.month, first.date.day, first.clock.hour,
      first.clock.minute, first.clock.second] < [(second.date.year : Int), second.date.month,
      second.date.day, second.clock.hour, second.clock.minute, second.clock.second] ↔ _
  rw [LocalTime.position_lt_iff, Date.dayNumber_lt_iff, Date.eq_iff,
    Clock.nanoseconds_lt_iff whole whole']
  simp only [List.cons_lt_cons_iff, List.not_lt_nil, and_false, or_false]
  omega

section Order

variable {zone : Zone} {first second : Instant} (whole : first.IsWhole) (whole' : second.IsWhole)

include whole whole'

theorem stamp_eq_iff : stamp first zone = stamp second zone ↔ first = second := by
  refine ⟨fun same => ?_, fun same => same ▸ rfl⟩
  have reads : Vantage.read { zone, now := first } (stamp first zone) = .ok first :=
    read_stamp first whole
  rw [same, read_stamp first whole'] at reads
  exact (Except.ok.inj reads).symm

theorem stamp_lt_iff (era : 0 ≤ (LocalTime.inZone first zone).date.year)
    (era' : 0 ≤ (LocalTime.inZone second zone).date.year) :
    stamp first zone < stamp second zone ↔ first.nanoseconds < second.nanoseconds := by
  have fraction := LocalTime.nanosecond_inZone whole zone
  have fraction' := LocalTime.nanosecond_inZone whole' zone
  rw [stamp, stamp, Pattern.write_lt_iff _ era era', values_trigger_lt_iff fraction fraction',
    LocalTime.position_inZone, LocalTime.position_inZone]
  omega

end Order

end Calendar

/-! ### Tests of the trigger time -/

open Calendar (Instant LocalTime Vantage Zone stamp)
open Sql

/-- What a comparison says of two numbers. -/
def Comparison.Relates (first second : Int) : Comparison → Prop
  | le => first ≤ second
  | ge => second ≤ first
  | ne => first ≠ second
  | eq => first = second
  | lt => first < second
  | gt => second < first

/-- What a keyword of statements says of two texts, which are compared character by character. -/
def Sql.KeywordRelates (first second : String) : String → Prop
  | "<=" => ¬second < first
  | ">=" => ¬first < second
  | "<>" => first ≠ second
  | "=" => first = second
  | "<" => first < second
  | ">" => second < first
  | _ => False

/-- The keyword of a comparison says of texts in the order of numbers what the comparison says of
the numbers. -/
theorem keywordRelates_iff {text text' : String} {first second : Int}
    (before : text < text' ↔ first < second) (same : text = text' ↔ first = second)
    (after : text' < text ↔ second < first) (relation : Comparison) :
    KeywordRelates text text' (comparisonKeyword relation) ↔ relation.Relates first second := by
  cases relation with
  | le => exact (not_congr after).trans Int.not_lt
  | ge => exact (not_congr before).trans Int.not_lt
  | ne => exact not_congr same
  | eq => exact same
  | lt => exact before
  | gt => exact after

namespace Condition

variable {condition : Condition} {vantage : Vantage} {relation : Comparison} {time : Instant}

/-- The instant that a condition on the trigger time is about. -/
def dueTime? (condition : Condition) (vantage : Vantage) : Option Instant :=
  condition.time.or (vantage.read? condition.value)

/-- A comparison of the trigger time is lowered to a test against a stamp. -/
theorem lower_due (named : condition.name = whenName) (written : condition.op = relation.text)
    (about : condition.dueTime? vantage = some time) :
    condition.lower vantage false = .ok (.test (.due relation (stamp time vantage.zone))) := by
  have compared : ¬condition.op = "notnull" := by
    rw [written]
    cases relation <;> decide
  have field : condition.lowerField vantage = condition.lowerWhen vantage := by
    rw [lowerField, named]
    rfl
  have colon : condition.name = ":" ++ "when" := named
  rw [lower_of_colon colon, field, lowerWhen, if_neg compared, comparison_of_relation written]
  rcases Option.or_eq_some_iff.mp about with cached | ⟨uncached, read⟩
  · simp only [cached]
    rfl
  · simp only [uncached, Vantage.read?_eq_some.mp read]
    rfl

end Condition

theorem render_due (relation : Comparison) (stamp : String) (schema : Schema) (quoter : Quoter) :
    Clause.render schema quoter (.test (.due relation stamp)) =
      "trigger_at_field " ++ comparisonKeyword relation ++ " " ++ quoter.quote stamp := by
  simp [Clause.render, Clause.template, Test.template, Template.render, Part.render, String.join]

/-- **Stamps sort like the instants they stand for.** Of whole seconds from year 0 on, the stamps in
a zone come in the order of the instants; so the comparison of texts into which a test of the trigger
time is lowered says of the stamp of a task what was asked of its instant. -/
theorem stamps_order_as_instants (zone : Zone) {first second : Instant} (whole : first.IsWhole)
    (whole' : second.IsWhole) (era : 0 ≤ (LocalTime.inZone first zone).date.year)
    (era' : 0 ≤ (LocalTime.inZone second zone).date.year) :
    (stamp first zone < stamp second zone ↔ first.nanoseconds < second.nanoseconds) ∧
    (stamp first zone = stamp second zone ↔ first.nanoseconds = second.nanoseconds) ∧
    (stamp second zone < stamp first zone ↔ second.nanoseconds < first.nanoseconds) ∧
    ∀ (condition : Condition) (now : Instant) (relation : Comparison),
      condition.name = whenName → condition.op = relation.text →
      condition.dueTime? { zone, now } = some second →
        ∃ clause keyword, condition.lower { zone, now } false = .ok clause ∧
          (∀ schema quoter, clause.render schema quoter =
            "trigger_at_field " ++ keyword ++ " " ++ quoter.quote (stamp second zone)) ∧
          (KeywordRelates (stamp first zone) (stamp second zone) keyword ↔
            relation.Relates first.nanoseconds second.nanoseconds) := by
  have before : stamp first zone < stamp second zone ↔ first.nanoseconds < second.nanoseconds :=
    Calendar.stamp_lt_iff whole whole' era era'
  have after : stamp second zone < stamp first zone ↔ second.nanoseconds < first.nanoseconds :=
    Calendar.stamp_lt_iff whole' whole era' era
  have same : stamp first zone = stamp second zone ↔ first.nanoseconds = second.nanoseconds := by
    rw [Calendar.stamp_eq_iff whole whole', Instant.mk.injEq]
  refine ⟨before, same, after, fun condition now relation named written about => ?_⟩
  refine ⟨_, comparisonKeyword relation, Condition.lower_due named written about, ?_, ?_⟩
  · exact render_due relation (stamp second zone)
  · exact keywordRelates_iff before same after relation

/-- The last second of year 0 and the first one of year 1, three hours west of UTC. -/
theorem stamps_order_as_instants_newYear :
    let zone : Zone := ⟨-3, by decide⟩
    let eve : Instant := ⟨-62135586001000000000, by decide⟩
    let newYear : Instant := ⟨-62135586000000000000, by decide⟩
    let condition : Condition := { name := ":when", op := "!=", value := "0001-01-01" }
    eve.IsWhole ∧ newYear.IsWhole ∧ 0 ≤ (LocalTime.inZone eve zone).date.year ∧
      0 ≤ (LocalTime.inZone newYear zone).date.year ∧
      condition.dueTime? { zone, now := Instant.unixEpoch } = some newYear ∧
      stamp eve zone < stamp newYear zone ∧
      ∃ clause keyword, condition.lower { zone, now := Instant.unixEpoch } false = .ok clause ∧
        (∀ schema quoter, clause.render schema quoter =
          "trigger_at_field " ++ keyword ++ " " ++ quoter.quote (stamp newYear zone)) ∧
        KeywordRelates (stamp eve zone) (stamp newYear zone) keyword := by
  intro zone eve newYear condition
  have whole : eve.IsWhole := ⟨-62135586001, by decide⟩
  have whole' : newYear.IsWhole := ⟨-62135586000, by decide⟩
  have era : 0 ≤ (LocalTime.inZone eve zone).date.year := by decide +kernel
  have era' : 0 ≤ (LocalTime.inZone newYear zone).date.year := by decide +kernel
  have about : condition.dueTime? { zone, now := Instant.unixEpoch } = some newYear := by
    decide +kernel
  obtain ⟨before, _, _, tests⟩ := stamps_order_as_instants zone whole whole' era era'
  have different : Comparison.ne.Relates eve.nanoseconds newYear.nanoseconds := by
    show eve.nanoseconds ≠ newYear.nanoseconds
    decide
  obtain ⟨clause, keyword, lowers, renders, relates⟩ :=
    tests condition Instant.unixEpoch .ne rfl rfl about
  exact ⟨whole, whole', era, era', about, before.mpr (by decide), clause, keyword, lowers, renders,
    relates.mpr different⟩

end TaskQuery
