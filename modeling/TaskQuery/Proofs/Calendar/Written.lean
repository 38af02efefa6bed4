/-
**Written times are read back.**

A field is written with digits enough for its values, so it is read back from any text that goes on
with something other than a digit. A pattern keeps its fields apart, so all its fields are read back.

* `digitsValue_digitsOfWidth`: the digits of a number have its value.
* `Field.read?_write`: a written field, and the text after it.
* `Pattern.read?_write`: a local time written in a pattern gives the fields of the pattern their
  values.
-/

import TaskQuery.Calendar.Literal
import TaskQuery.Proofs.Calendar.Order

namespace TaskQuery.Calendar

/-! ### Digits -/

theorem all_isDigit_digitsOfWidth (width value : Nat) :
    (digitsOfWidth width value).all Char.isDigit = true := by
  induction width generalizing value with
  | zero => rfl
  | succ width inner =>
    have last : value % 10 < 10 := Nat.mod_lt _ (by decide)
    simp [digitsOfWidth, inner, Nat.isDigit_digitChar, last]

theorem digitsValue_append_singleton (digits : List Char) (digit : Char) :
    Text.digitsValue (digits ++ [digit]) =
      10 * Text.digitsValue digits + Text.digitValue digit := by
  unfold Text.digitsValue
  rw [List.foldl_append]
  rfl

theorem digitValue_digitChar {digit : Nat} (single : digit < 10) :
    Text.digitValue (Nat.digitChar digit) = digit := by
  have code := Nat.toNat_digitChar_of_lt_ten single
  unfold Text.digitValue
  rw [code, show '0'.toNat = 48 from rfl, Nat.add_sub_cancel_left]

/-- Whether a number can be written with so many digits. -/
def FitsWidth : Nat → Nat → Prop
  | 0, value => value = 0
  | width + 1, value => FitsWidth width (value / 10)

/-- The digits of a number have its value if there are enough of them. -/
theorem digitsValue_digitsOfWidth {width value : Nat} (fits : FitsWidth width value) :
    Text.digitsValue (digitsOfWidth width value) = value := by
  induction width generalizing value with
  | zero =>
    obtain rfl : value = 0 := fits
    rfl
  | succ width inner =>
    rw [digitsOfWidth, digitsValue_append_singleton, inner fits,
      digitValue_digitChar (Nat.mod_lt _ (by decide))]
    omega

theorem isAsciiBlank_false_of_isDigit {c : Char} (digit : c.isDigit = true) :
    isAsciiBlank c = false := by
  unfold isAsciiBlank
  split
  all_goals first | rfl | cases digit

theorem isBlank_false_of_isDigit {c : Char} (digit : c.isDigit = true) :
    Text.isBlank c = false := by
  have listed : ∀ code ∈ Text.blankCodes, (Char.ofNat code).isDigit = false := by decide
  refine Bool.eq_false_iff.mpr fun blank => ?_
  have other := listed c.toNat (Text.mem_blankCodes blank)
  rw [Char.ofNat_toNat, digit] at other
  cases other

theorem dropWhile_digit {c : Char} {rest : List Char} (digit : c.isDigit = true) :
    (c :: rest).dropWhile isAsciiBlank = c :: rest := by
  rw [List.dropWhile_cons, if_neg (Bool.eq_false_iff.mp (isAsciiBlank_false_of_isDigit digit))]

/-- A number is written with a digit first. -/
theorem exists_cons_digitsOfWidth {width : Nat} (positive : 0 < width) (value : Nat) :
    ∃ c digits, digitsOfWidth width value = c :: digits ∧ c.isDigit = true := by
  have written : digitsOfWidth width value ≠ [] := by
    rw [← List.length_pos_iff, digitsOfWidth_length]
    exact positive
  obtain ⟨c, digits, spelled⟩ := List.exists_cons_of_ne_nil written
  have numeral := all_isDigit_digitsOfWidth width value
  rw [spelled] at numeral
  exact ⟨c, digits, spelled, List.all_eq_true.mp numeral c List.mem_cons_self⟩

/-- Of a run of digits as many are read as the width says. -/
theorem readDigits?_run {width : Nat} {digits rest : List Char} (positive : 0 < width)
    (written : digits ≠ []) (numeral : digits.all Char.isDigit = true)
    (ends : ∀ c ∈ rest.head?, c.isDigit = false) :
    readDigits? width (digits ++ rest) =
      some (Text.digitsValue (digits.take width), digits.drop width ++ rest) := by
  have each := List.all_eq_true.mp numeral
  have start : (digits ++ rest).dropWhile isAsciiBlank = digits ++ rest := by
    obtain ⟨c, digits, rfl⟩ := List.exists_cons_of_ne_nil written
    exact dropWhile_digit (each c List.mem_cons_self)
  have stop : (rest.take (width - digits.length)).takeWhile Char.isDigit = [] := by
    cases rest with
    | nil => simp
    | cons c rest =>
      have other : ¬ c.isDigit = true := Bool.eq_false_iff.mp (ends c rfl)
      cases width - digits.length with
      | zero => rfl
      | succ more => rw [List.take_succ_cons, List.takeWhile_cons, if_neg other]
  have taken : ((digits ++ rest).take width).takeWhile Char.isDigit = digits.take width := by
    rw [List.take_append, List.takeWhile_append_of_pos
      fun c member => each c (List.mem_of_mem_take member), stop, List.append_nil]
  have some : digits.take width ≠ [] := by
    rw [← List.length_pos_iff, List.length_take]
    have := List.length_pos_iff.mpr written
    omega
  have reads : Text.digits? (digits.take width) = _ :=
    Text.digits?_eq_some_iff.mpr
      ⟨some, List.all_eq_true.mpr fun c member => each c (List.mem_of_mem_take member), rfl⟩
  have left : (digits ++ rest).drop (digits.take width).length = digits.drop width ++ rest := by
    rw [List.length_take]
    rcases Nat.le_total width digits.length with short | enough
    · rw [Nat.min_eq_left short, List.drop_append_of_le_length short]
    · rw [Nat.min_eq_right enough, List.drop_left, List.drop_of_length_le enough, List.nil_append]
  unfold readDigits?
  dsimp only
  rw [start, taken, reads, Option.map_some, left]

/-- The digits of a number are read up to the first character that is none. -/
theorem readDigits?_digitsOfWidth {width most value : Nat} {rest : List Char}
    (positive : 0 < width) (enough : width ≤ most) (fits : FitsWidth width value)
    (ends : ∀ c ∈ rest.head?, c.isDigit = false) :
    readDigits? most (digitsOfWidth width value ++ rest) = some (value, rest) := by
  have length : (digitsOfWidth width value).length ≤ most :=
    (digitsOfWidth_length width value).symm ▸ enough
  obtain ⟨first, digits, spelled, _⟩ := exists_cons_digitsOfWidth positive value
  have written : digitsOfWidth width value ≠ [] := spelled ▸ List.cons_ne_nil first digits
  rw [readDigits?_run (Nat.lt_of_lt_of_le positive enough) written
    (all_isDigit_digitsOfWidth width value) ends, List.take_of_length_le length,
    List.drop_of_length_le length, digitsValue_digitsOfWidth fits, List.nil_append]

/-! ### Fields -/

namespace Field

/-- The value of a field in a local time. -/
def valueIn (time : LocalTime) : Field → Int
  | year => time.date.year
  | month => time.date.month
  | day => time.date.day
  | hour => time.clock.hour
  | minute => time.clock.minute
  | second => time.clock.second

/-- A field admits the values that it has. -/
theorem admits_valueIn (part : Field) (time : LocalTime) :
    part.admits (part.valueIn time) = true := by
  have years := time.date.year_range
  have months := time.date.month_range
  have first := time.date.day_range.1
  have last := time.date.day_le
  have hours := time.clock.hour_range
  have minutes := time.clock.minute_range
  have seconds := time.clock.second_range
  cases part <;> simp only [admits, valueIn, Bool.and_eq_true] <;>
    exact ⟨decide_eq_true (by omega), decide_eq_true (by omega)⟩

theorem width_pos (part : Field) : 0 < part.width := by
  cases part <;> decide

/-- A field whose value is not negative is written with all the digits of its width. -/
theorem write_of_nonneg (part : Field) {time : LocalTime} (nonneg : 0 ≤ part.valueIn time) :
    ∃ value, FitsWidth part.width value ∧ part.write time = digitsOfWidth part.width value ∧
      part.valueIn time = value := by
  have years := time.date.year_range
  have months := time.date.month_range.2
  have days := time.date.day_le
  have hours := time.clock.hour_range
  have minutes := time.clock.minute_range
  have seconds := time.clock.second_range
  refine ⟨(part.valueIn time).toNat, ?_, ?_, (Int.toNat_of_nonneg nonneg).symm⟩
  · cases part <;> simp only [FitsWidth, valueIn, width] <;> omega
  · cases part with
    | year => exact if_pos nonneg
    | _ => rfl

/-- From year 0 on every field is written so. -/
theorem write_of_era (part : Field) {time : LocalTime} (era : 0 ≤ time.date.year) :
    ∃ value, FitsWidth part.width value ∧ part.write time = digitsOfWidth part.width value ∧
      part.valueIn time = value := by
  refine part.write_of_nonneg ?_
  cases part with
  | year => exact era
  | _ => exact Int.natCast_nonneg _

/-- A field is written with digits that fit its width, after a sign in years before year 0. -/
theorem exists_digitsOfWidth (part : Field) (time : LocalTime) :
    ∃ width value, 0 < width ∧ width ≤ part.width ∧ FitsWidth width value ∧
      (part.write time = digitsOfWidth width value ∧ part.valueIn time = value ∨
        part = year ∧ part.write time = '-' :: digitsOfWidth width value ∧
          part.valueIn time = -value) := by
  by_cases nonneg : 0 ≤ part.valueIn time
  · obtain ⟨value, fits, written⟩ := part.write_of_nonneg nonneg
    exact ⟨part.width, value, part.width_pos, Nat.le_refl _, fits, Or.inl written⟩
  · have years := time.date.year_range.1
    obtain rfl : part = year := by
      cases part with
      | year => rfl
      | _ => exact absurd (Int.natCast_nonneg _) nonneg
    have negative : ¬0 ≤ time.date.year := nonneg
    have value : time.date.year = -(time.date.year.natAbs : Int) := by omega
    refine ⟨if time.date.year.natAbs < 1000 then 3 else 4, time.date.year.natAbs, ?_, ?_, ?_,
      Or.inr ⟨rfl, if_neg negative, value⟩⟩
    · split <;> decide
    · split <;> decide
    · split <;> simp only [FitsWidth] <;> omega

theorem readSigned?_of_digit {part : Field} {c : Char} {rest : List Char}
    (digit : c.isDigit = true) :
    part.readSigned? (c :: rest) =
      (readDigits? part.width (c :: rest)).map fun found => ((found.1 : Int), found.2) := by
  unfold readSigned?
  split
  · next rest spelled =>
    cases spelled
    cases digit
  · next rest spelled =>
    cases spelled
    cases digit
  · rfl

/-- A written field is read back before anything but a digit. -/
theorem read?_write (part : Field) (time : LocalTime) {rest : List Char}
    (ends : ∀ c ∈ rest.head?, c.isDigit = false) :
    part.read? (part.write time ++ rest) = some (part.valueIn time, rest) := by
  have signed : part.readSigned? (part.write time ++ rest) = some (part.valueIn time, rest) := by
    obtain ⟨width, value, positive, enough, fits, ⟨spelled, same⟩ | ⟨rfl, spelled, same⟩⟩ :=
      part.exists_digitsOfWidth time
    · have reads := readDigits?_digitsOfWidth positive enough fits ends
      obtain ⟨c, digits, begins, digit⟩ := exists_cons_digitsOfWidth positive value
      rw [begins, List.cons_append] at reads
      rw [spelled, same, begins, List.cons_append, readSigned?_of_digit digit, reads]
      rfl
    · have reads : readDigits? 4 (digitsOfWidth width value ++ rest) = _ :=
        readDigits?_digitsOfWidth positive enough fits ends
      rw [spelled, same, List.cons_append, readSigned?, reads]
      rfl
  rw [read?, signed, Option.filter_some, if_pos (part.admits_valueIn time)]

/-- A written field begins with a digit or a sign. -/
theorem isDigit_or_of_mem_head? {part : Field} {time : LocalTime} {rest : List Char} {c : Char}
    (begins : c ∈ (part.write time ++ rest).head?) : c.isDigit = true ∨ c = '-' := by
  obtain ⟨width, value, positive, _, _, ⟨spelled, _⟩ | ⟨_, spelled, _⟩⟩ :=
    part.exists_digitsOfWidth time
  · obtain ⟨first, digits, same, digit⟩ := exists_cons_digitsOfWidth positive value
    rw [spelled, same, List.cons_append, List.head?_cons, Option.mem_some_iff] at begins
    exact Or.inl (begins ▸ digit)
  · rw [spelled, List.cons_append, List.head?_cons, Option.mem_some_iff] at begins
    exact Or.inr begins.symm

/-- A written field ends with a digit. -/
theorem isDigit_of_mem_getLast? {part : Field} {time : LocalTime} {before : List Char} {c : Char}
    (ends : c ∈ (before ++ part.write time).getLast?) : c.isDigit = true := by
  have numeral (before : List Char) {width : Nat} (positive : 0 < width) (value : Nat)
      (ends : c ∈ (before ++ digitsOfWidth width value).getLast?) : c.isDigit = true := by
    obtain ⟨first, digits, same, _⟩ := exists_cons_digitsOfWidth positive value
    have written : digitsOfWidth width value ≠ [] := same ▸ List.cons_ne_nil first digits
    rw [List.getLast?_append, Option.or_of_isSome (List.getLast?_isSome.mpr written)] at ends
    exact List.all_eq_true.mp (all_isDigit_digitsOfWidth width value) c (List.mem_of_getLast? ends)
  obtain ⟨width, value, positive, _, _, ⟨spelled, _⟩ | ⟨_, spelled, _⟩⟩ :=
    part.exists_digitsOfWidth time
  · exact numeral before positive value (spelled ▸ ends)
  · rw [spelled, List.append_cons] at ends
    exact numeral (before ++ ['-']) positive value ends

end Field

/-! ### What is read -/

namespace Fields

/-- Whether a field has a value. -/
def has (fields : Fields) : Field → Bool
  | .year => fields.year.isSome
  | .month => fields.month.isSome
  | .day => fields.day.isSome
  | .hour => fields.hour.isSome
  | .minute => fields.minute.isSome
  | .second => fields.second.isSome

theorem has_set (fields : Fields) (part other : Field) (value : Int) :
    (fields.set part value).has other = (part == other || fields.has other) := by
  cases part <;> cases other <;> rfl

/-- The fields of a time of day have the values that clocks show. -/
structure AreTimely (fields : Fields) : Prop where
  hour : ∀ value ∈ fields.hour, value < 24
  minute : ∀ value ∈ fields.minute, value < 60
  second : ∀ value ∈ fields.second, value < 60

theorem AreTimely.set {fields : Fields} (timely : fields.AreTimely) {part : Field} {value : Int}
    (admitted : part.admits value = true) : (fields.set part value).AreTimely := by
  obtain ⟨hour, minute, second⟩ := timely
  cases part with
  | hour =>
    have range : 0 ≤ value ∧ value ≤ 23 := by simpa [Field.admits] using admitted
    have below : value.toNat < 24 := by omega
    exact ⟨fun other given => Option.some.inj given ▸ below, minute, second⟩
  | minute =>
    have range : 0 ≤ value ∧ value ≤ 59 := by simpa [Field.admits] using admitted
    have below : value.toNat < 60 := by omega
    exact ⟨hour, fun other given => Option.some.inj given ▸ below, second⟩
  | second =>
    have below : min value.toNat 59 < 60 := by omega
    exact ⟨hour, minute, fun other given => Option.some.inj given ▸ below⟩
  | _ => exact ⟨hour, minute, second⟩

end Fields

namespace Pattern

variable {pattern : Pattern} {fields found : Fields} {text : List Char}

/-- A pattern gives values to its fields and to no other ones. -/
theorem has_of_readInto? (reads : pattern.readInto? fields text = some found) (part : Field) :
    found.has part = true ↔ .field part ∈ pattern ∨ fields.has part = true := by
  fun_induction readInto? pattern fields text with
  | case1 =>
    cases reads
    simp
  | case3 other rest fields text value after _ inner =>
    rw [inner reads, Fields.has_set, List.mem_cons, Bool.or_eq_true, beq_iff_eq,
      Piece.field.injEq, or_left_comm, or_assoc, eq_comm]
  | case5 rest fields expected after inner => simpa using inner reads
  | case8 rest fields text inner => simpa using inner reads
  | case2 | case4 | case6 | case7 => cases reads

theorem areTimely_of_readInto? (reads : pattern.readInto? fields text = some found)
    (timely : fields.AreTimely) : found.AreTimely := by
  fun_induction readInto? pattern fields text with
  | case1 =>
    cases reads
    exact timely
  | case3 part rest fields text value after field inner =>
    exact inner reads (timely.set (Option.filter_eq_some_iff.mp field).2)
  | case5 rest fields expected after inner => exact inner reads timely
  | case8 rest fields text inner => exact inner reads timely
  | case2 | case4 | case6 | case7 => cases reads

end Pattern

/-! ### Patterns -/

/-- Whether a character is neither a digit nor an ASCII blank. -/
def isMark (c : Char) : Bool :=
  !c.isDigit && !isAsciiBlank c

namespace Pattern

/-- Whether a pattern keeps its parts apart: no two fields and no two gaps stand side by side, and
no literal character could be taken for a part of a field or of a gap. -/
def isSeparated : Pattern → Bool
  | [] => true
  | .field _ :: rest => !rest.head?.any (fun piece => piece matches .field _) && isSeparated rest
  | .literal c :: rest => isMark c && isSeparated rest
  | .gap :: rest => rest.head? != some .gap && isSeparated rest

/-- Fields with the values of a local time for those of a pattern. -/
def record (time : LocalTime) : Pattern → Fields → Fields
  | [], fields => fields
  | .field part :: rest, fields => record time rest (fields.set part (part.valueIn time))
  | .literal _ :: rest, fields => record time rest fields
  | .gap :: rest, fields => record time rest fields

variable {pattern : Pattern} (time : LocalTime)

/-- What a field of a separated pattern is followed by. -/
theorem isDigit_false_of_mem_head? {part : Field}
    (separated : isSeparated (.field part :: pattern) = true) {c : Char}
    (begins : c ∈ (pattern.flatMap (Piece.write time)).head?) : c.isDigit = false := by
  cases pattern with
  | nil => cases begins
  | cons piece rest =>
    cases piece with
    | field _ => simp [isSeparated] at separated
    | literal mark =>
      have kept : isMark mark = true := by simp_all [isSeparated]
      obtain rfl : mark = c := by simpa [Piece.write] using begins
      simp_all [isMark]
    | gap =>
      obtain rfl : ' ' = c := by simpa [Piece.write] using begins
      rfl

/-- What a gap of a separated pattern is followed by. -/
theorem isAsciiBlank_false_of_mem_head? (separated : isSeparated (.gap :: pattern) = true)
    {c : Char} (begins : c ∈ (pattern.flatMap (Piece.write time)).head?) :
    isAsciiBlank c = false := by
  cases pattern with
  | nil => cases begins
  | cons piece rest =>
    cases piece with
    | field part =>
      rcases Field.isDigit_or_of_mem_head? begins with digit | rfl
      · exact isAsciiBlank_false_of_isDigit digit
      · rfl
    | literal mark =>
      have kept : isMark mark = true := by simp_all [isSeparated]
      obtain rfl : mark = c := by simpa [Piece.write] using begins
      simp_all [isMark]
    | gap => simp [isSeparated] at separated

theorem readInto?_write (separated : pattern.isSeparated = true) (fields : Fields) :
    readInto? pattern fields (pattern.flatMap (Piece.write time)) =
      some (pattern.record time fields) := by
  induction pattern generalizing fields with
  | nil => rfl
  | cons piece rest inner =>
    have later : isSeparated rest = true := by cases piece <;> simp_all [isSeparated]
    cases piece with
    | field part =>
      have reads := part.read?_write time fun c begins =>
        isDigit_false_of_mem_head? time separated begins
      rw [List.flatMap_cons, Piece.write, readInto?, reads]
      exact inner later _
    | literal mark =>
      rw [List.flatMap_cons, Piece.write, List.singleton_append, readInto?, if_pos rfl]
      exact inner later fields
    | gap =>
      have kept : (rest.flatMap (Piece.write time)).dropWhile isAsciiBlank =
          rest.flatMap (Piece.write time) := by
        cases written : rest.flatMap (Piece.write time) with
        | nil => rfl
        | cons c text =>
          have visible := isAsciiBlank_false_of_mem_head? time separated (written ▸ rfl : c ∈ _)
          rw [List.dropWhile_cons, if_neg (Bool.eq_false_iff.mp visible)]
      have blank : ∀ c ∈ [' '], isAsciiBlank c = true := List.forall_mem_singleton.mpr rfl
      rw [List.flatMap_cons, Piece.write, readInto?, List.dropWhile_append_of_pos blank, kept]
      exact inner later fields

/-- A time written in a pattern that begins and ends with a field has no blanks at its ends. -/
theorem trim_write {first last : Field} {before after : Pattern}
    (begins : pattern = .field first :: after) (ends : pattern = before ++ [.field last]) :
    Text.trim (pattern.write time).toList = (pattern.write time).toList := by
  rw [write, String.toList_ofList]
  refine Text.trim_of_ends (fun c start => ?_) fun c stop => ?_
  · rw [begins, List.flatMap_cons] at start
    rcases Field.isDigit_or_of_mem_head? start with digit | rfl
    · exact isBlank_false_of_isDigit digit
    · decide
  · rw [ends, List.flatMap_append, List.flatMap_singleton] at stop
    exact isBlank_false_of_isDigit (Field.isDigit_of_mem_getLast? stop)

/-- **A local time written in a pattern is read back.** -/
theorem read?_write (separated : pattern.isSeparated = true) :
    pattern.read? (pattern.write time).toList = some (pattern.record time {}) := by
  rw [read?, write, String.toList_ofList]
  exact readInto?_write time separated {}

end Pattern

end TaskQuery.Calendar
