/-
**Sets of names in order.**

A set of names is the list of its members in ascending order of their code points, each once.

* `mem_insert`: the members after an insertion.
* `mem_ofList`: the members of the set of a list.
* `eq_of_mem_iff`: sets with the same members are equal.
-/

namespace TaskQuery

theorem string_lt_of_not_lt_of_ne {first second : String} (notAfter : ¬first < second)
    (different : first ≠ second) : second < first :=
  Std.not_le.mp fun le => different (String.le_antisymm le (Std.not_lt.mp notAfter))

/-- A set of names. -/
structure NameSet where
  names : List String
  ascending : names.Pairwise (· < ·)
  deriving DecidableEq

namespace NameSet

/-- The set without members. -/
def empty : NameSet :=
  ⟨[], List.Pairwise.nil⟩

/-- Whether a name is in a set. -/
def contains (set : NameSet) (name : String) : Bool :=
  set.names.contains name

/-- An ascending list with one more name. -/
def insertInto (name : String) : List String → List String
  | [] => [name]
  | first :: rest =>
    if name < first then name :: first :: rest
    else if name = first then first :: rest
    else first :: insertInto name rest

theorem mem_insertInto {name other : String} {names : List String} :
    other ∈ insertInto name names ↔ other = name ∨ other ∈ names := by
  induction names with
  | nil => simp [insertInto]
  | cons first rest inner =>
    unfold insertInto
    split
    · simp
    · split
      · next same => subst same; simp
      · simp only [List.mem_cons, inner]
        constructor
        · rintro (is | is | is) <;> simp [is]
        · rintro (is | is | is) <;> simp [is]

theorem insertInto_ascending {name : String} {names : List String}
    (ascending : names.Pairwise (· < ·)) : (insertInto name names).Pairwise (· < ·) := by
  induction names with
  | nil => simp [insertInto]
  | cons first rest inner =>
    obtain ⟨least, below⟩ := List.pairwise_cons.mp ascending
    unfold insertInto
    split
    · next before =>
      refine List.pairwise_cons.mpr ⟨?_, ascending⟩
      intro other member
      rcases List.mem_cons.mp member with rfl | member
      · exact before
      · exact String.lt_trans before (least other member)
    · split
      · exact ascending
      · next notBefore different =>
        refine List.pairwise_cons.mpr ⟨?_, inner below⟩
        intro other member
        rcases mem_insertInto.mp member with rfl | member
        · exact string_lt_of_not_lt_of_ne notBefore different
        · exact least other member

/-- A set with one more name. -/
def insert (set : NameSet) (name : String) : NameSet :=
  ⟨insertInto name set.names, insertInto_ascending set.ascending⟩

/-- The members after an insertion. -/
theorem mem_insert {set : NameSet} {name other : String} :
    other ∈ (set.insert name).names ↔ other = name ∨ other ∈ set.names :=
  mem_insertInto

/-- The set of the names of a list. -/
def ofList (names : List String) : NameSet :=
  names.foldl insert empty

theorem mem_foldl_insert {names : List String} {set : NameSet} {other : String} :
    other ∈ (names.foldl insert set).names ↔ other ∈ names ∨ other ∈ set.names := by
  induction names generalizing set with
  | nil => simp
  | cons first rest inner =>
    rw [List.foldl_cons, inner, mem_insert, List.mem_cons]
    constructor
    · rintro (is | is | is) <;> simp [is]
    · rintro ((is | is) | is) <;> simp [is]

/-- The members of the set of a list. -/
theorem mem_ofList {names : List String} {other : String} :
    other ∈ (ofList names).names ↔ other ∈ names := by
  simp [ofList, mem_foldl_insert, empty]

/-- A set is settled by its members. -/
theorem eq_of_mem_iff {first second : NameSet}
    (same : ∀ name, name ∈ first.names ↔ name ∈ second.names) : first = second := by
  have distinct (set : NameSet) : set.names.Nodup := by
    refine List.Pairwise.imp ?_ set.ascending
    rintro name _ before rfl
    exact String.lt_irrefl name before
  have permuted := (List.perm_ext_iff_of_nodup (distinct first) (distinct second)).mpr same
  have names : first.names = second.names :=
    permuted.eq_of_pairwise
      (fun _ _ _ _ before after => absurd (String.lt_trans before after) (String.lt_irrefl _))
      first.ascending second.ascending
  cases first
  cases second
  cases names
  rfl

/-- The names that are in one of two sets. -/
def union (first second : NameSet) : NameSet :=
  second.names.foldl insert first

theorem mem_union {first second : NameSet} {name : String} :
    name ∈ (first.union second).names ↔ name ∈ first.names ∨ name ∈ second.names := by
  rw [union, mem_foldl_insert, or_comm]

theorem ofList_append (first second : List String) :
    ofList (first ++ second) = (ofList first).union (ofList second) := by
  refine eq_of_mem_iff fun name => ?_
  rw [mem_ofList, mem_union, mem_ofList, mem_ofList, List.mem_append]

end NameSet

end TaskQuery
