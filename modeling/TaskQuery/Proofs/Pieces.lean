/-
**Lists parted at separators.**

The pieces of a list are the longest stretches of it that hold no separator.

* `split_induction`: induction on the first separator of a list.
* `isInfix_of_mem_splitOnP`: a piece is a stretch without a separator.
* `exists_piece`: every stretch without a separator lies within one piece.
* `exists_piece_iff`: when two members of an ascending list are in the same piece.
-/

import Mathlib.Data.List.Infix

namespace TaskQuery

variable {α : Type} {p : α → Bool} {xs run : List α}

/-- What holds of a list without separators, and of any other because it holds after its first
separator, holds of every list. -/
@[elab_as_elim]
theorem split_induction {motive : List α → Prop}
    (last : ∀ xs, (∀ x ∈ xs, p x = false) → motive xs)
    (more : ∀ before sep after, (∀ x ∈ before, p x = false) → p sep = true → motive after →
      motive (before ++ sep :: after)) (xs : List α) : motive xs := by
  match found : xs.find? p with
  | none =>
    exact last xs fun x member =>
      Bool.eq_false_iff.mpr (List.find?_eq_none.mp found x member)
  | some sep =>
    obtain ⟨isSep, before, after, split, whole⟩ := List.find?_eq_some_iff_append.mp found
    have shorter : after.length < xs.length := by
      rw [split, List.length_append, List.length_cons]
      omega
    rw [split]
    exact more before sep after (fun x member => (Bool.not_eq_true' _).mp (whole x member)) isSep
      (split_induction last more after)
termination_by xs.length

/-- The pieces of a list stand in it, and no separator is among them. -/
theorem isInfix_of_mem_splitOnP : ∀ piece ∈ xs.splitOnP p,
    piece <:+: xs ∧ ∀ x ∈ piece, p x = false := by
  induction xs using split_induction (p := p) with
  | last xs whole =>
    rw [List.splitOnP_eq_singleton whole]
    exact List.forall_mem_singleton.mpr ⟨List.infix_refl xs, whole⟩
  | more before sep after whole isSep inner =>
    rw [List.splitOnP_append_cons_of_forall_mem whole sep isSep]
    refine List.forall_mem_cons.mpr ⟨⟨(List.prefix_append before _).isInfix, whole⟩, ?_⟩
    intro piece member
    obtain ⟨within, only⟩ := inner piece member
    exact ⟨within.trans ((List.suffix_cons sep after).trans (List.suffix_append before _)).isInfix,
      only⟩

/-- A stretch without a separator at the start of a list ends before the first separator. -/
theorem isPrefix_of_isPrefix_append {before after : List α} {sep : α} (isSep : p sep = true)
    (only : ∀ x ∈ run, p x = false) (starts : run <+: before ++ sep :: after) : run <+: before := by
  rcases List.prefix_or_prefix_of_prefix starts (List.prefix_append before _) with within | beyond
  · exact within
  · obtain ⟨more, rfl⟩ := beyond
    cases more with
    | nil => exact ⟨[], by rw [List.append_nil, List.append_nil]⟩
    | cons x more =>
      obtain ⟨rfl, _⟩ := List.cons_prefix_cons.mp ((List.prefix_append_right_inj before).mp starts)
      cases (only x (List.mem_append_right _ List.mem_cons_self)).symm.trans isSep

/-- A stretch without a separator lies on one side of any separator. -/
theorem isInfix_or_of_isInfix_append {before after : List α} {sep : α} (isSep : p sep = true)
    (only : ∀ x ∈ run, p x = false) (within : run <:+: before ++ sep :: after) :
    run <:+: before ∨ run <:+: after := by
  induction before with
  | nil =>
    rcases List.infix_cons_iff.mp within with starts | within
    · have none : run <+: [] := isPrefix_of_isPrefix_append isSep only starts
      exact .inl none.isInfix
    · exact .inr within
  | cons x before inner =>
    rcases List.infix_cons_iff.mp within with starts | within
    · have here : run <+: x :: before := isPrefix_of_isPrefix_append isSep only starts
      exact .inl here.isInfix
    · exact (inner within).imp_left fun within => within.trans (List.suffix_cons x before).isInfix

/-- **A stretch without a separator lies within one piece.** -/
theorem exists_piece (only : ∀ x ∈ run, p x = false) (within : run <:+: xs) :
    ∃ piece ∈ xs.splitOnP p, run <:+: piece := by
  induction xs using split_induction (p := p) with
  | last xs whole =>
    rw [List.splitOnP_eq_singleton whole]
    exact ⟨xs, List.mem_singleton_self xs, within⟩
  | more before sep after whole isSep inner =>
    rw [List.splitOnP_append_cons_of_forall_mem whole sep isSep]
    rcases isInfix_or_of_isInfix_append isSep only within with here | later
    · exact ⟨before, List.mem_cons_self, here⟩
    · obtain ⟨piece, member, within⟩ := inner later
      exact ⟨piece, List.mem_cons_of_mem before member, within⟩

section Ascending

variable {key : α → Nat} {one other : α}

/-- Whatever stands between two members of a piece is in it. -/
theorem not_separator_of_between (ascending : xs.Pairwise (key · < key ·)) {piece : List α}
    (isPiece : piece ∈ xs.splitOnP p) (here : one ∈ piece) (here' : other ∈ piece) {between : α}
    (member : between ∈ xs) (after : key one < key between) (before : key between < key other) :
    p between = false := by
  obtain ⟨⟨left, right, rfl⟩, only⟩ := isInfix_of_mem_splitOnP piece isPiece
  obtain ⟨ascendingLeft, _, acrossRight⟩ := List.pairwise_append.mp ascending
  obtain ⟨_, _, acrossLeft⟩ := List.pairwise_append.mp ascendingLeft
  rcases List.mem_append.mp member with earlier | later
  · rcases List.mem_append.mp earlier with earlier | within
    · have turned := acrossLeft between earlier one here
      omega
    · exact only between within
  · have turned := acrossRight other (List.mem_append_right left here') between later
    omega

/-- Two members of an ascending list begin and end a stretch of it. -/
theorem exists_stretch (ascending : xs.Pairwise (key · < key ·)) (member : one ∈ xs)
    (member' : other ∈ xs) (before : key one < key other) :
    ∃ middle, one :: middle ++ [other] <:+: xs ∧
      ∀ between ∈ middle, key one < key between ∧ key between < key other := by
  obtain ⟨left, rest, rfl⟩ := List.append_of_mem member
  obtain ⟨_, ascendingRest, across⟩ := List.pairwise_append.mp ascending
  have later : other ∈ rest := by
    rcases List.mem_append.mp member' with earlier | later
    · have turned := across other earlier one List.mem_cons_self
      omega
    · exact List.mem_of_ne_of_mem (by rintro rfl; omega) later
  obtain ⟨middle, right, rfl⟩ := List.append_of_mem later
  obtain ⟨acrossOne, ascendingRest⟩ := List.pairwise_cons.mp ascendingRest
  obtain ⟨_, _, acrossOther⟩ := List.pairwise_append.mp ascendingRest
  refine ⟨middle, ⟨left, right, by simp⟩, fun between within => ?_⟩
  exact ⟨acrossOne between (List.mem_append_left _ within),
    acrossOther between within other List.mem_cons_self⟩

/-- **Two members of an ascending list are in one piece** exactly if no separator stands between
them. -/
theorem exists_piece_iff (ascending : xs.Pairwise (key · < key ·)) (member : one ∈ xs)
    (member' : other ∈ xs) (kept : p one = false) (kept' : p other = false)
    (before : key one < key other) :
    (∃ piece ∈ xs.splitOnP p, one ∈ piece ∧ other ∈ piece) ↔
      ∀ between ∈ xs, key one < key between → key between < key other → p between = false := by
  constructor
  · rintro ⟨piece, isPiece, here, here'⟩ between within after before
    exact not_separator_of_between ascending isPiece here here' within after before
  · intro only
    obtain ⟨middle, stretch, ordered⟩ := exists_stretch ascending member member' before
    have whole : ∀ x ∈ one :: middle ++ [other], p x = false := by
      refine List.forall_mem_append.mpr ⟨List.forall_mem_cons.mpr ⟨kept, fun x within => ?_⟩,
        List.forall_mem_singleton.mpr kept'⟩
      have member := stretch.subset (List.mem_append_left _ (List.mem_cons_of_mem one within))
      exact only x member (ordered x within).1 (ordered x within).2
    obtain ⟨piece, isPiece, within⟩ := exists_piece whole stretch
    exact ⟨piece, isPiece, within.subset (List.mem_append_left _ List.mem_cons_self),
      within.subset (List.mem_append_right _ (List.mem_singleton_self other))⟩

end Ascending

/-- Members that are no separators stand in the pieces as they do in the list. -/
theorem filter_flatten_splitOnP {q : α → Bool} (apart : ∀ x ∈ xs, q x = true → p x = false) :
    (xs.splitOnP p).flatten.filter q = xs.filter q := by
  induction xs using split_induction (p := p) with
  | last xs whole => rw [List.splitOnP_eq_singleton whole, List.flatten_singleton]
  | more before sep after whole isSep inner =>
    obtain ⟨_, later⟩ := List.forall_mem_append.mp apart
    obtain ⟨here, later⟩ := List.forall_mem_cons.mp later
    have dropped : ¬q sep = true := fun kept => Bool.eq_false_iff.mp (here kept) isSep
    rw [List.splitOnP_append_cons_of_forall_mem whole sep isSep, List.flatten_cons,
      List.filter_append, inner later, List.filter_append, List.filter_cons_of_neg dropped]

end TaskQuery
