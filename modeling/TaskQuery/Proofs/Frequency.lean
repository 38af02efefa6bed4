/-
**The texts of a frequency.**

What is written for a frequency is read back, for all counts of 32 bits. A number of days is also
read where zeros, and before them a plus sign, stand before its digits. No other text is read as a
frequency.

* `Text.digits?_eq_some_iff_zeros`: the runs of digits of a positive number.
* `Frequency.IsWritten`: the texts that write a frequency.
* `Frequency.ofText?_eq_some_iff`: these are read as the frequency and no others.
-/

import TaskQuery.Frequency

namespace TaskQuery

namespace Text

/-! ### Runs of digits -/

theorem digit_of_isDigit {c : Char} (digit : c.isDigit = true) :
    digitValue c < 10 ∧ Nat.digitChar (digitValue c) = c := by
  obtain ⟨low, high⟩ := Char.isDigit_iff_toNat.mp digit
  have codes : '0'.toNat = 48 ∧ '9'.toNat = 57 := ⟨rfl, rfl⟩
  have single : digitValue c < 10 := by unfold digitValue; omega
  refine ⟨single, Char.toNat_inj.mp ?_⟩
  rw [Nat.toNat_digitChar_of_lt_ten single]
  unfold digitValue
  omega

/-- Digits after the digits of a positive number. -/
theorem toDigits_ofDigitChars {digits : List Char} (numeral : ∀ c ∈ digits, c.isDigit = true)
    {value : Nat} (positive : 0 < value) :
    Nat.toDigits 10 (Nat.ofDigitChars 10 digits value) = Nat.toDigits 10 value ++ digits := by
  induction digits generalizing value with
  | nil => exact (List.append_nil _).symm
  | cons c rest inner =>
    obtain ⟨single, spelled⟩ := digit_of_isDigit (numeral c List.mem_cons_self)
    have positive' : 0 < 10 * value + digitValue c := by omega
    calc Nat.toDigits 10 (Nat.ofDigitChars 10 (c :: rest) value)
        = Nat.toDigits 10 (10 * value + digitValue c) ++ rest :=
          inner (fun d member => numeral d (List.mem_cons_of_mem c member)) positive'
      _ = Nat.toDigits 10 value ++ Nat.toDigits 10 (digitValue c) ++ rest := by
        rw [Nat.toDigits_append_toDigits (by decide) positive single]
      _ = Nat.toDigits 10 value ++ c :: rest := by
        rw [Nat.toDigits_of_lt_base single, spelled, List.append_assoc, List.singleton_append]

theorem digitsValue_zeros (zeros : Nat) (digits : List Char) :
    digitsValue (List.replicate zeros '0' ++ digits) = digitsValue digits := by
  induction zeros with
  | zero => rfl
  | succ zeros inner => exact inner

/-- The digits of a positive number, which may follow zeros. -/
theorem exists_zeros {digits : List Char} (numeral : ∀ c ∈ digits, c.isDigit = true)
    (positive : 0 < digitsValue digits) :
    ∃ zeros, digits = List.replicate zeros '0' ++ Nat.toDigits 10 (digitsValue digits) := by
  induction digits with
  | nil => cases positive
  | cons c rest inner =>
    have later : ∀ d ∈ rest, d.isDigit = true := fun d member => numeral d (.tail c member)
    by_cases zero : c = '0'
    · subst zero
      obtain ⟨zeros, split⟩ := inner later positive
      exact ⟨zeros + 1, congrArg ('0' :: ·) split⟩
    · obtain ⟨single, spelled⟩ := digit_of_isDigit (numeral c List.mem_cons_self)
      have first : 0 < digitValue c := by
        refine Nat.pos_of_ne_zero fun none => zero ?_
        rw [← spelled, none]
        rfl
      have start : digitsValue (c :: rest) = Nat.ofDigitChars 10 rest (digitValue c) := by
        rw [← Nat.zero_add (digitValue c)]
        rfl
      refine ⟨0, ?_⟩
      rw [start, toDigits_ofDigitChars later first, Nat.toDigits_of_lt_base single, spelled]
      rfl

/-- **The runs of digits of a positive number** are its digits, which may follow zeros. -/
theorem digits?_eq_some_iff_zeros {digits : List Char} {value : Nat} (positive : 0 < value) :
    digits? digits = some value ↔
      ∃ zeros, digits = List.replicate zeros '0' ++ Nat.toDigits 10 value := by
  rw [digits?_eq_some_iff]
  constructor
  · rintro ⟨-, numeral, rfl⟩
    exact exists_zeros (List.all_eq_true.mp numeral) positive
  · rintro ⟨zeros, rfl⟩
    refine ⟨List.append_ne_nil_of_right_ne_nil _ Nat.toDigits_ne_nil, ?_, ?_⟩
    · refine List.all_eq_true.mpr fun c member => ?_
      rcases List.mem_append.mp member with zero | digit
      · rw [List.eq_of_mem_replicate zero]
        rfl
      · exact Nat.isDigit_of_mem_toDigits (by decide) (by decide) digit
    · rw [digitsValue_zeros]
      exact Nat.ofDigitChars_toDigits (by decide) (by decide)

/-- The numerals whose only sign is a plus are the runs of digits, which may follow a plus. -/
theorem natural?_eq_some_iff {text : List Char} {value : Nat} :
    natural? text = some value ↔
      ∃ plus ∈ [[], ['+']], ∃ digits, text = plus ++ digits ∧ digits? digits = some value := by
  unfold natural?
  split
  · next digits =>
    have unsigned : digits? ('+' :: digits) = none := by simp [digits?]
    simp [unsigned]
  · next other =>
    have signed : ∀ digits, text = '+' :: digits → digits? digits = some value →
        digits? text = some value := fun digits same => (other digits same).elim
    simpa using signed

end Text

namespace Frequency

/-! ### Texts of frequencies -/

/-- A text writes a frequency: it is its written form, and where the frequency counts days, a plus
sign and zeros may stand before the digits. -/
def IsWritten (frequency : Frequency) (text : String) : Prop :=
  text = frequency.text ∨
    frequency.dayCount?.isSome = true ∧ ∃ plus ∈ [[], ['+']], ∃ zeros,
      text.toList = plus ++ (List.replicate zeros '0' ++ frequency.text.toList)

theorem isWritten_text (frequency : Frequency) : frequency.IsWritten frequency.text :=
  Or.inl rfl

/-- A numeral is none of the words. -/
theorem ofText?_of_natural? {text : String} {count : Nat}
    (numeral : Text.natural? text.toList = some count) :
    ofText? text = (Text.word32? text).bind ofDays? := by
  unfold ofText?
  split
  case h_6 => rfl
  all_goals cases (show Text.natural? _ = none by decide).symm.trans numeral

theorem ofText?_days_iff {text : String} {count : Nat} {positive : 0 < count}
    {fits : count < Text.wordCount} :
    ofText? text = some (days count positive fits) ↔ Text.natural? text.toList = some count := by
  constructor
  · intro reads
    unfold ofText? at reads
    split at reads
    case h_6 =>
      obtain ⟨value, numeral, isCount⟩ := Option.bind_eq_some_iff.mp reads
      obtain ⟨numeral, -⟩ := Option.filter_eq_some_iff.mp numeral
      unfold ofDays? at isCount
      split at isCount <;> cases isCount
      exact numeral
    all_goals cases reads
  · intro numeral
    rw [ofText?_of_natural? numeral, Text.word32?, numeral, Option.filter_some,
      if_pos (decide_eq_true fits), Option.bind_some, ofDays?, dif_pos ⟨positive, fits⟩]

/-- **The texts that write a frequency are read as it**, and no other texts are. -/
theorem ofText?_eq_some_iff {frequency : Frequency} {text : String} :
    ofText? text = some frequency ↔ frequency.IsWritten text := by
  cases isDays : frequency with
  | days count positive fits =>
    have digits : (days count positive fits).text.toList = Nat.toDigits 10 count := Nat.toList_repr
    rw [ofText?_days_iff, Text.natural?_eq_some_iff, IsWritten, digits]
    simp only [Text.digits?_eq_some_iff_zeros positive]
    constructor
    · rintro ⟨plus, listed, _, split, zeros, rfl⟩
      exact Or.inr ⟨rfl, plus, listed, zeros, split⟩
    · rintro (rfl | ⟨-, plus, listed, zeros, split⟩)
      · exact ⟨[], List.mem_cons_self, _, rfl, 0, digits⟩
      · exact ⟨plus, listed, _, split, zeros, rfl⟩
  | _ =>
    constructor
    · intro reads
      unfold ofText? at reads
      split at reads
      case h_6 =>
        obtain ⟨count, -, isCount⟩ := Option.bind_eq_some_iff.mp reads
        unfold ofDays? at isCount
        split at isCount <;> cases isCount
      all_goals cases reads
      all_goals exact Or.inl rfl
    · rintro (rfl | ⟨counts, -⟩)
      · exact ofText?_text_word rfl
      · cases counts

/-- What is written for a frequency is read back. -/
theorem ofText?_text (frequency : Frequency) : ofText? frequency.text = some frequency :=
  ofText?_eq_some_iff.mpr frequency.isWritten_text

end Frequency

end TaskQuery
