/-
**What is written in a pattern of literals is read in this pattern.**

Most patterns are told apart by their marks. Year, month and day between slashes have the marks of
day, month and year, but a field takes no more digits than its width, so the four digits of a year
never pass for a day.

* `Pattern.readInto?_between`: a field that reads a written one is at least as wide.
* `read?_written_eq_none`: no other pattern reads what is written in a pattern.
* `read_written`: what a literal written in a pattern means.
-/

import TaskQuery.Proofs.Calendar.RoundTrip

namespace TaskQuery.Calendar

/-! ### Widths -/

/-- All fields. -/
def Field.all : List Field :=
  [year, month, day, hour, minute, second]

/-- A field takes as many digits of a run as its width says. -/
theorem Field.after_of_read? {part : Field} {digits rest after : List Char} {value : Int}
    (written : digits ≠ []) (numeral : digits.all Char.isDigit = true)
    (ends : ∀ c ∈ rest.head?, c.isDigit = false)
    (reads : part.read? (digits ++ rest) = some (value, after)) :
    after = digits.drop part.width ++ rest := by
  obtain ⟨c, others, rfl⟩ := List.exists_cons_of_ne_nil written
  have digit : c.isDigit = true := List.all_eq_true.mp numeral c List.mem_cons_self
  have signed := (Option.filter_eq_some_iff.mp reads).1
  rw [List.cons_append, readSigned?_of_digit digit, ← List.cons_append,
    readDigits?_run part.width_pos written numeral ends, Option.map_some] at signed
  cases signed
  rfl

namespace Pattern

variable {time : LocalTime} {part other : Field} {rest : Pattern} {fields found : Fields}
  {text : List Char}

/-- Whether a pattern ends, or begins with a character that is no digit. -/
def StopsDigits (rest : Pattern) : Prop :=
  ∀ piece ∈ rest.head?, ∃ mark, piece = .literal mark ∧ mark.isDigit = false

theorem stopsDigits_nil : StopsDigits [] := nofun

theorem stopsDigits_literal {mark : Char} (noDigit : mark.isDigit = false) :
    StopsDigits (.literal mark :: rest) := fun _ begins =>
  ⟨mark, (Option.some.inj begins).symm, noDigit⟩

theorem readInto?_digit_eq_none {c : Char} (digit : c.isDigit = true) (apart : StopsDigits rest) :
    readInto? rest fields (c :: text) = none := by
  cases rest with
  | nil => rfl
  | cons piece rest =>
    obtain ⟨mark, rfl, noDigit⟩ := apart piece rfl
    have different : c ≠ mark := by
      rintro rfl
      rw [digit] at noDigit
      cases noDigit
    rw [readInto?, if_neg different]

/-- **A field that reads a written one is at least as wide**, and what follows the one is read after
the other. -/
theorem readInto?_field_write (era : 0 ≤ time.date.year)
    (ends : ∀ c ∈ text.head?, c.isDigit = false) (apart : StopsDigits rest)
    (reads : readInto? (.field other :: rest) fields (part.write time ++ text) = some found) :
    part.width ≤ other.width ∧ ∃ fields, readInto? rest fields text = some found := by
  obtain ⟨number, _, spelled, _⟩ := part.write_of_era era
  rw [spelled, readInto?] at reads
  split at reads
  · next value after field =>
    have length := digitsOfWidth_length part.width number
    have numeral := all_isDigit_digitsOfWidth part.width number
    generalize digitsOfWidth part.width number = digits at *
    have written : digits ≠ [] := by
      rw [← List.length_pos_iff, length]
      exact part.width_pos
    have left := Field.after_of_read? written numeral ends field
    by_cases enough : part.width ≤ other.width
    · rw [List.drop_of_length_le (length.symm ▸ enough), List.nil_append] at left
      exact ⟨enough, _, left ▸ reads⟩
    · have more : digits.drop other.width ≠ [] := by
        rw [ne_eq, List.drop_eq_nil_iff, length]
        exact enough
      obtain ⟨c, others, same⟩ := List.exists_cons_of_ne_nil more
      have digit : c.isDigit = true := List.all_eq_true.mp numeral c
        (List.mem_of_mem_drop (same.symm ▸ List.mem_cons_self))
      rw [left, same, List.cons_append, readInto?_digit_eq_none digit apart] at reads
      cases reads
  · cases reads

/-- The same where one mark follows both fields. -/
theorem readInto?_between {mark : Char} {mine : Pattern} (era : 0 ≤ time.date.year)
    (noDigit : mark.isDigit = false)
    (reads : readInto? (.field other :: .literal mark :: rest) fields
      ((.field part :: .literal mark :: mine : Pattern).flatMap (Piece.write time)) = some found) :
    part.width ≤ other.width ∧
      ∃ fields, readInto? rest fields (mine.flatMap (Piece.write time)) = some found := by
  have ends : ∀ c ∈ (mark :: mine.flatMap (Piece.write time)).head?, c.isDigit = false :=
    fun c begins => Option.some.inj begins ▸ noDigit
  obtain ⟨enough, fields, later⟩ :=
    readInto?_field_write era ends (stopsDigits_literal noDigit) reads
  rw [readInto?, if_pos rfl] at later
  exact ⟨enough, fields, later⟩

/-- A field that reads a written one at the end of a text is at least as wide. -/
theorem readInto?_last (era : 0 ≤ time.date.year)
    (reads : readInto? [.field other] fields
      ([.field part].flatMap (Piece.write time)) = some found) : part.width ≤ other.width := by
  have ends : ∀ c ∈ ([] : List Char).head?, c.isDigit = false := nofun
  exact (readInto?_field_write era ends stopsDigits_nil reads).1

/-! ### Dates between slashes -/

/-- What may follow a date between slashes. -/
def slashSuffixes : List Pattern :=
  [[], [.literal ','] ++ toMinutes]

/-- A year does not pass for a day at the start of a date. -/
theorem readInto?_yearFirst_eq_none (era : 0 ≤ time.date.year) (suffix rest : Pattern) :
    readInto? (yearLast ++ rest) fields
      ((yearFirst '/' ++ suffix).flatMap (Piece.write time)) = none := by
  refine Option.eq_none_iff_forall_ne_some.mpr fun found reads => ?_
  have narrow : Field.width .year ≤ Field.width .day :=
    (readInto?_between era (by decide : '/'.isDigit = false) reads).1
  exact absurd narrow (by decide)

/-- A year does not pass for a day at the end of a date. -/
theorem readInto?_yearLast_eq_none (era : 0 ≤ time.date.year) {suffix : Pattern}
    (listed : suffix ∈ slashSuffixes) :
    readInto? (yearFirst '/' ++ suffix) fields
      ((yearLast ++ suffix).flatMap (Piece.write time)) = none := by
  have slash : '/'.isDigit = false := by decide
  refine Option.eq_none_iff_forall_ne_some.mpr fun found reads => ?_
  obtain ⟨_, fields, reads⟩ := readInto?_between era slash reads
  obtain ⟨_, fields, reads⟩ := readInto?_between era slash reads
  have narrow : Field.width .year ≤ Field.width .day := by
    simp only [slashSuffixes, List.mem_cons, List.not_mem_nil, or_false] at listed
    rcases listed with rfl | rfl
    · exact readInto?_last era reads
    · exact (readInto?_between era (by decide : ','.isDigit = false) reads).1
  exact absurd narrow (by decide)

end Pattern

/-! ### Literals in patterns -/

namespace Vantage

/-- Two patterns of literals have some marks in common only if they are one, or write a date between
slashes in the two orders. -/
theorem eq_or_slashed_of_markings : ∀ pattern ∈ patterns, ∀ other ∈ patterns,
    (∃ marks ∈ other.markings, marks ∈ pattern.markings) → other = pattern ∨
      ∃ suffix ∈ Pattern.slashSuffixes,
        pattern = Pattern.yearFirst '/' ++ suffix ∧ other = Pattern.yearLast ++ suffix ∨
        pattern = Pattern.yearLast ++ suffix ∧ other = Pattern.yearFirst '/' ++ suffix := by
  decide

variable {pattern other : Pattern} {time : LocalTime}

theorem isSeparated_of_mem_patterns : ∀ pattern ∈ patterns, pattern.isSeparated = true := by
  decide

/-- **No other pattern reads what is written in a pattern.** -/
theorem read?_written_eq_none (listed : pattern ∈ patterns) (era : 0 ≤ time.date.year)
    (listed' : other ∈ patterns) (different : other ≠ pattern) :
    other.read? (pattern.write time).toList = none := by
  have separated := isSeparated_of_mem_patterns pattern listed
  have marked := Pattern.marksOf_mem_markings (Pattern.read?_write time separated)
  refine Option.eq_none_iff_forall_ne_some.mpr fun fields reads => ?_
  have shared := eq_or_slashed_of_markings pattern listed other listed'
    ⟨_, Pattern.marksOf_mem_markings reads, marked⟩
  rw [Pattern.read?, Pattern.write, String.toList_ofList] at reads
  rcases shared with same | ⟨suffix, member, ⟨rfl, rfl⟩ | ⟨rfl, rfl⟩⟩
  · exact different same
  · rw [Pattern.readInto?_yearFirst_eq_none era] at reads
    cases reads
  · rw [Pattern.readInto?_yearLast_eq_none era member] at reads
    cases reads

/-- A time written in a pattern of literals has no blanks at its ends. -/
theorem trim_written (listed : pattern ∈ patterns) (time : LocalTime) :
    Text.trim (pattern.write time).toList = (pattern.write time).toList := by
  have fields : ∀ pattern ∈ patterns, (∃ part ∈ Field.all, pattern.head? = some (.field part)) ∧
      ∃ part ∈ Field.all, pattern.getLast? = some (.field part) := by decide
  obtain ⟨⟨first, _, begins⟩, last, _, ends⟩ := fields pattern listed
  obtain ⟨after, begins⟩ := List.head?_eq_some_iff.mp begins
  obtain ⟨before, ends⟩ := List.getLast?_eq_some_iff.mp ends
  exact Pattern.trim_write time begins ends

/-- A literal written in a pattern means what its fields mean. -/
theorem read?_write_eq (vantage : Vantage) (listed : pattern ∈ patterns)
    (era : 0 ≤ time.date.year) :
    vantage.read? (pattern.write time) =
      (vantage.resolve? (pattern.record time {})).bind fun time =>
        time.toInstant? vantage.zone := by
  have trimmed := trim_written listed time
  have separated := isSeparated_of_mem_patterns pattern listed
  refine read?_of_only listed ?_ fun other listed' different => ?_
  · rw [trimmed, Pattern.read?_write time separated]
  · rw [trimmed, read?_written_eq_none listed era listed' different]

end Vantage

/-- **What is written in a pattern of literals is read in this pattern.** From year 0 on, no other
pattern reads a time that is written in one of them. With a year, the literal means the date that was
written; with a month and a day only, one of this year or the next; and with neither, the next
occurrence of the clock time. The clock time is the one that the pattern shows. -/
theorem read_written (vantage : Vantage) {pattern : Pattern} (listed : pattern ∈ Vantage.patterns)
    {time : LocalTime} (era : 0 ≤ time.date.year) :
    (∀ other ∈ Vantage.patterns,
      (other.read? (pattern.write time).toList).isSome = true ↔ other = pattern) ∧
    (.field .year ∈ pattern → vantage.read? (pattern.write time) =
      LocalTime.toInstant? { date := time.date, clock := pattern.shownClock time.clock }
        vantage.zone) ∧
    (.field .year ∉ pattern → .field .month ∈ pattern → vantage.read? (pattern.write time) =
      (vantage.inferYear? time.date.month time.date.day (pattern.shownClock time.clock)
        (decide (.field .hour ∈ pattern))).bind fun meant => meant.toInstant? vantage.zone) ∧
    (.field .month ∉ pattern → vantage.read? (pattern.write time) =
      (vantage.nextOccurrence? (pattern.shownClock time.clock)).bind fun meant =>
        meant.toInstant? vantage.zone) := by
  have means := vantage.read?_write_eq listed era
  refine ⟨fun other listed' => ⟨fun reads => ?_, ?_⟩, fun year => ?_, fun noYear month => ?_,
    fun undated => ?_⟩
  · refine Decidable.byContradiction fun different => ?_
    rw [Vantage.read?_written_eq_none listed era listed' different] at reads
    cases reads
  · rintro rfl
    rw [Pattern.read?_write time (Vantage.isSeparated_of_mem_patterns other listed')]
    rfl
  · rw [means, Vantage.resolve?_dated listed time vantage year, Option.bind_some]
  · rw [means, Vantage.resolve?_undated listed time vantage noYear month]
  · rw [means, Vantage.resolve?_timeOnly listed time vantage undated]

/-- The leap day of year 12 with the day first: with the year first this would be a day of year 29,
two digits of which are left over. -/
theorem read_written_slashes :
    let pattern : Pattern := Pattern.yearLast ++ [.literal ','] ++ Pattern.toMinutes
    let clock : Clock := ⟨20, 12, 31, 0, by decide, by decide, by decide, by decide⟩
    let time : LocalTime := { date := ⟨12, 2, 29, by decide, by decide⟩, clock }
    let vantage : Vantage := { zone := ⟨11, by decide⟩, now := Instant.unixEpoch }
    pattern ∈ Vantage.patterns ∧ 0 ≤ time.date.year ∧
      pattern.write time = "29/02/0012,20:12" ∧
      vantage.read? "29/02/0012,20:12" = some ⟨-61783397280000000000, by decide⟩ := by
  intro pattern clock time vantage
  have listed : pattern ∈ Vantage.patterns := by decide
  have era : 0 ≤ time.date.year := by decide
  have text : pattern.write time = "29/02/0012,20:12" := by decide +kernel
  have means := (read_written vantage listed era).2.1 (by decide)
  have instant : LocalTime.toInstant?
      { date := time.date, clock := pattern.shownClock time.clock } vantage.zone =
        some ⟨-61783397280000000000, by decide⟩ := by decide +kernel
  rw [text, instant] at means
  exact ⟨listed, era, text, means⟩

end TaskQuery.Calendar
