/-
**What the reads of an input give.**

A line break is one byte in UTF-8, and a byte of no other character. So the reads of an input that
is a text give its lines as they stand, and whatever the input, a line that is read has no line
break but at its end.

* `partedAfter_flatMap`: a list that is written element by element is parted as the elements are.
* `fromUTF8?_encoded`: encoded characters are read back.
* `Input.reads_ofText`: the reads of a text give its lines.
* `Input.notMem_dropLast_of_mem_reads`: the only line break of a line that is read is its last
  character.
-/

import Mathlib.Data.List.Basic
import TaskQuery.Cli.Input

namespace TaskQuery.Cli

/-! ### Parted lists -/

section

variable {α β : Type} {ends : α → Bool} {ends' : β → Bool}

/-- An element that ends a part begins no longer one. -/
theorem partedAfter_cons_of_ends {x : α} (last : ends x = true) (rest : List α) :
    partedAfter ends (x :: rest) = [x] :: partedAfter ends rest := by
  rw [partedAfter, last]

/-- Elements that end no part are put before the first part of the rest. -/
theorem partedAfter_append {run : List α} (inner : ∀ x ∈ run, ends x = false) (nonempty : run ≠ [])
    (rest : List α) :
    partedAfter ends (run ++ rest) =
      (run ++ (partedAfter ends rest).headD []) :: (partedAfter ends rest).tail := by
  induction run with
  | nil => exact absurd rfl nonempty
  | cons x run later =>
    obtain ⟨here, inner⟩ := List.forall_mem_cons.mp inner
    cases run with
    | nil =>
      rw [List.cons_append, List.nil_append, partedAfter, here]
      cases partedAfter ends rest <;> rfl
    | cons y run =>
      rw [List.cons_append, partedAfter, here, later inner (List.cons_ne_nil y run)]
      rfl

/-- **A list that is written element by element is parted as the elements are**, if what is written
for an element ends a part exactly if the element does. -/
theorem partedAfter_flatMap {write : α → List β}
    (last : ∀ x, ends x = true → ∃ y, write x = [y] ∧ ends' y = true)
    (inner : ∀ x, ends x = false → write x ≠ [] ∧ ∀ y ∈ write x, ends' y = false) (xs : List α) :
    partedAfter ends' (xs.flatMap write) = (partedAfter ends xs).map (·.flatMap write) := by
  induction xs with
  | nil => rfl
  | cons x rest later =>
    rw [List.flatMap_cons]
    cases isEnd : ends x with
    | true =>
      obtain ⟨y, written, isEnd'⟩ := last x isEnd
      rw [written, List.singleton_append, partedAfter_cons_of_ends isEnd', later,
        partedAfter_cons_of_ends isEnd, List.map_cons, List.flatMap_singleton, written]
    | false =>
      obtain ⟨nonempty, within⟩ := inner x isEnd
      rw [partedAfter_append within nonempty, later, partedAfter, isEnd]
      cases partedAfter ends rest with
      | nil => simp
      | cons part parts => simp

/-- An element that ends a part is the last of it. -/
theorem ends_eq_false_of_mem_dropLast {xs part : List α} (isPart : part ∈ partedAfter ends xs) :
    ∀ x ∈ part.dropLast, ends x = false := by
  induction xs generalizing part with
  | nil => exact absurd isPart List.not_mem_nil
  | cons x rest later =>
    unfold partedAfter at isPart
    split at isPart
    · next first parts isInner parted =>
      rcases List.mem_cons.mp isPart with rfl | isPart
      · intro y member
        cases first with
        | nil => exact absurd member List.not_mem_nil
        | cons z first =>
          rw [List.dropLast_cons_cons] at member
          rcases List.mem_cons.mp member with rfl | member
          · exact isInner
          · exact later (parted ▸ List.mem_cons_self) y member
      · exact later (parted ▸ List.mem_cons_of_mem _ isPart)
    · rcases List.mem_cons.mp isPart with rfl | isPart
      · exact fun y member => absurd member List.not_mem_nil
      · exact later isPart

/-- The parts of a list are the whole of it. -/
theorem flatten_partedAfter (ends : α → Bool) (xs : List α) :
    (partedAfter ends xs).flatten = xs := by
  induction xs with
  | nil => rfl
  | cons x rest later =>
    unfold partedAfter
    split
    · next parted =>
      rw [parted, List.flatten_cons] at later
      rw [List.flatten_cons, List.cons_append, later]
    · rw [List.flatten_cons, later, List.singleton_append]

end

/-! ### Characters as bytes -/

/-- The byte of a line break is in the encoding of no other character. -/
theorem lineBreak_notMem {c : Char} (different : c ≠ '\n') :
    Input.lineBreak ∉ String.utf8EncodeChar c := by
  have code : c.val.toNat ≠ 10 := fun same => different (Char.toNat_inj.mp same)
  have byte (value : Nat) (other : value % 256 ≠ 10) : Input.lineBreak ≠ UInt8.ofNat value := by
    intro same
    have same := congrArg UInt8.toNat same
    rw [UInt8.toNat_ofNat'] at same
    exact other same.symm
  unfold String.utf8EncodeChar
  dsimp only
  -- All bytes of a character that has several are 128 at least.
  split_ifs
  all_goals simp only [List.mem_cons, List.not_mem_nil, or_false, not_or]
  · exact byte _ (by omega)
  · exact ⟨byte _ (by omega), byte _ (by omega)⟩
  · exact ⟨byte _ (by omega), byte _ (by omega), byte _ (by omega)⟩
  · exact ⟨byte _ (by omega), byte _ (by omega), byte _ (by omega), byte _ (by omega)⟩

/-- Encoded characters are read back. -/
theorem fromUTF8?_encoded (text : List Char) :
    String.fromUTF8? (text.flatMap String.utf8EncodeChar).toByteArray =
      some (String.ofList text) :=
  dif_pos (ByteArray.IsValidUTF8.intro text rfl)

/-- What is read is the text whose encoding the bytes are. -/
theorem eq_encoded_of_fromUTF8? {bytes : List UInt8} {text : String}
    (isText : String.fromUTF8? bytes.toByteArray = some text) :
    bytes = text.toList.flatMap String.utf8EncodeChar := by
  obtain ⟨valid, isText⟩ := Option.dite_none_right_eq_some.mp isText
  cases isText
  have encoded := String.utf8Encode_toList (b := String.fromUTF8 bytes.toByteArray valid)
  exact List.toByteArray_inj.mp encoded.symm

/-! ### Reads -/

namespace Input

/-- The lines of a text as they are read, each with the line break at its end, which the last one
may lack. -/
def linesOf (text : String) : List String :=
  (partedAfter (· == '\n') text.toList).map String.ofList

/-- The lines of a text make up the text. -/
theorem join_linesOf (text : String) : String.join (linesOf text) = text := by
  have whole := flatten_partedAfter (· == '\n') text.toList
  refine String.toList_inj.mp ?_
  rw [linesOf, String.toList_join, List.flatMap_map]
  simpa only [String.toList_ofList, List.flatMap_id'] using whole

/-- **The reads of a text give its lines.** -/
theorem reads_ofText (text : String) : (ofText text).reads = (linesOf text).map some := by
  have last : ∀ c, (c == '\n') = true →
      ∃ byte, String.utf8EncodeChar c = [byte] ∧ (byte == lineBreak) = true := by
    intro c isBreak
    rw [beq_iff_eq.mp isBreak]
    exact ⟨lineBreak, rfl, rfl⟩
  have inner : ∀ c, (c == '\n') = false → String.utf8EncodeChar c ≠ [] ∧
      ∀ byte ∈ String.utf8EncodeChar c, (byte == lineBreak) = false := by
    intro c different
    refine ⟨String.utf8EncodeChar_ne_nil, fun byte member => beq_eq_false_iff_ne.mpr ?_⟩
    rintro rfl
    exact lineBreak_notMem (beq_eq_false_iff_ne.mp different) member
  rw [reads, ofText, linesOf, partedAfter_flatMap last inner, List.map_map, List.map_map]
  exact List.map_congr_left fun line _ => fromUTF8?_encoded line

/-- **The only line break of a line that is read is its last character.** -/
theorem notMem_dropLast_of_mem_reads {input : Input} {line : String}
    (isRead : some line ∈ input.reads) : '\n' ∉ line.toList.dropLast := by
  obtain ⟨bytes, isPart, isText⟩ := List.mem_map.mp isRead
  intro member
  have nonempty : line.toList ≠ [] := by
    rintro none
    rw [none] at member
    exact absurd member List.not_mem_nil
  have whole := List.dropLast_concat_getLast nonempty
  have within : lineBreak ∈ bytes.dropLast := by
    rw [eq_encoded_of_fromUTF8? isText, ← whole, List.flatMap_append, List.flatMap_singleton,
      List.dropLast_append_of_ne_nil String.utf8EncodeChar_ne_nil]
    exact List.mem_append_left _ (List.mem_flatMap.mpr ⟨'\n', member, List.mem_singleton.mpr rfl⟩)
  exact beq_eq_false_iff_ne.mp (ends_eq_false_of_mem_dropLast isPart lineBreak within) rfl

end Input

end TaskQuery.Cli
