/-
**Saved searches.**

A store keeps query texts under names, in ascending order of the names. Names that queries cannot
refer to are refused on insertion, but a store that is loaded as a whole may hold them.

* `get?_put`, `get?_remove`: a name has the text stored last.
* `remove_size_lt`: removing a stored name makes a store smaller.
-/

import TaskQuery.NameSet
import TaskQuery.Text.Quoted
import TaskQuery.Token

namespace TaskQuery

/-- Query texts under names. -/
structure Store where
  entries : List (String × String)
  ascending : entries.Pairwise fun first second => first.1 < second.1
  deriving DecidableEq

/-- A name that queries cannot refer to. -/
structure UnusableName where
  name : String
  deriving DecidableEq, Repr

namespace UnusableName

/-- The wording of the refusal of a name. -/
def message (refused : UnusableName) : String :=
  Text.quoted refused.name ++ " cannot be used as a saved search name"

end UnusableName

namespace Store

/-- The store without entries. -/
def empty : Store :=
  ⟨[], List.Pairwise.nil⟩

/-- The text of a name. -/
def get? (store : Store) (name : String) : Option String :=
  store.entries.lookup name

/-- The names in order. -/
def names (store : Store) : List String :=
  store.entries.map Prod.fst

/-- The number of entries. -/
def size (store : Store) : Nat :=
  store.entries.length

theorem lookup_cons {stored content name : String} {rest : List (String × String)} :
    ((stored, content) :: rest).lookup name =
      if name = stored then some content else rest.lookup name := by
  rw [List.lookup_cons]
  by_cases same : name = stored
  · simp [same]
  · rw [if_neg same, show (name == stored) = false from beq_eq_false_iff_ne.mpr same]

/-! ### Insertion -/

/-- Ascending entries with a text under one more name, or under a name that is there already. -/
def putInto (name text : String) : List (String × String) → List (String × String)
  | [] => [(name, text)]
  | first :: rest =>
    if name < first.1 then (name, text) :: first :: rest
    else if name = first.1 then (name, text) :: rest
    else first :: putInto name text rest

theorem fst_of_mem_putInto {name text : String} {entries : List (String × String)}
    {entry : String × String} (member : entry ∈ putInto name text entries) :
    entry.1 = name ∨ entry ∈ entries := by
  induction entries with
  | nil => simp_all [putInto]
  | cons first rest inner =>
    unfold putInto at member
    split at member
    · rcases List.mem_cons.mp member with rfl | member
      · exact Or.inl rfl
      · exact Or.inr member
    · split at member
      · rcases List.mem_cons.mp member with rfl | member
        · exact Or.inl rfl
        · exact Or.inr (List.mem_cons_of_mem _ member)
      · rcases List.mem_cons.mp member with rfl | member
        · exact Or.inr List.mem_cons_self
        · rcases inner member with same | member
          · exact Or.inl same
          · exact Or.inr (List.mem_cons_of_mem _ member)

theorem putInto_ascending {name text : String} {entries : List (String × String)}
    (ascending : entries.Pairwise fun first second => first.1 < second.1) :
    (putInto name text entries).Pairwise fun first second => first.1 < second.1 := by
  induction entries with
  | nil => simp [putInto]
  | cons first rest inner =>
    obtain ⟨least, below⟩ := List.pairwise_cons.mp ascending
    unfold putInto
    split
    · next before =>
      refine List.pairwise_cons.mpr ⟨?_, ascending⟩
      intro other member
      rcases List.mem_cons.mp member with rfl | member
      · exact before
      · exact String.lt_trans before (least other member)
    · split
      · next same =>
        refine List.pairwise_cons.mpr ⟨?_, below⟩
        intro other member
        exact same ▸ least other member
      · next notBefore different =>
        refine List.pairwise_cons.mpr ⟨?_, inner below⟩
        intro other member
        rcases fst_of_mem_putInto member with same | member
        · exact same ▸ string_lt_of_not_lt_of_ne notBefore different
        · exact least other member

/-- A store with a text under a name, whatever the name. -/
def put (store : Store) (name text : String) : Store :=
  ⟨putInto name text store.entries, putInto_ascending store.ascending⟩

theorem lookup_putInto {name text other : String} {entries : List (String × String)} :
    (putInto name text entries).lookup other =
      if other = name then some text else entries.lookup other := by
  induction entries with
  | nil => rw [putInto, lookup_cons]
  | cons first rest inner =>
    obtain ⟨stored, content⟩ := first
    unfold putInto
    split
    · rw [lookup_cons]
    · split
      · next here =>
        have here : name = stored := here
        subst here
        by_cases same : other = name <;> simp only [lookup_cons, same, if_true, if_false]
      · next different =>
        have different : name ≠ stored := different
        rw [lookup_cons, lookup_cons, inner]
        by_cases same : other = stored
        · rw [if_pos same, if_pos same, if_neg (same ▸ Ne.symm different)]
        · rw [if_neg same, if_neg same]

/-- A name has the text stored last. -/
theorem get?_put {store : Store} {name text other : String} :
    (store.put name text).get? other = if other = name then some text else store.get? other :=
  lookup_putInto

/-- A store with a text under a name to which queries can refer. -/
def insert (store : Store) (name text : String) : Except UnusableName Store :=
  if isTagName name.toList then .ok (store.put name text) else .error { name }

/-- The store of some entries; of two texts under one name the later one counts. -/
def ofList (entries : List (String × String)) : Store :=
  entries.foldl (fun store entry => store.put entry.1 entry.2) empty

/-! ### Removal -/

/-- A store without a name. -/
def remove (store : Store) (name : String) : Store :=
  ⟨store.entries.filter fun entry => entry.1 != name, store.ascending.filter _⟩

/-- A removed name has no text; the others keep theirs. -/
theorem get?_remove {store : Store} {name other : String} :
    (store.remove name).get? other = if other = name then none else store.get? other := by
  unfold get? remove
  dsimp only
  induction store.entries with
  | nil => simp
  | cons first rest inner =>
    obtain ⟨stored, content⟩ := first
    by_cases kept : stored = name
    · rw [List.filter_cons_of_neg (by simp [kept]), inner, lookup_cons, kept]
      by_cases same : other = name <;> simp only [same, if_true, if_false]
    · rw [List.filter_cons_of_pos (by simp [kept]), lookup_cons, lookup_cons, inner]
      by_cases same : other = stored
      · rw [if_pos same, if_pos same, if_neg (same ▸ kept)]
      · rw [if_neg same, if_neg same]

theorem exists_mem_of_lookup {name text : String} {entries : List (String × String)}
    (found : entries.lookup name = some text) : ∃ entry ∈ entries, entry.1 = name := by
  induction entries with
  | nil => simp at found
  | cons first rest inner =>
    obtain ⟨stored, content⟩ := first
    by_cases same : name = stored
    · exact ⟨(stored, content), List.mem_cons_self, same.symm⟩
    · rw [lookup_cons, if_neg same] at found
      obtain ⟨entry, member, named⟩ := inner found
      exact ⟨entry, List.mem_cons_of_mem _ member, named⟩

/-- Removing a stored name makes a store smaller. -/
theorem remove_size_lt {store : Store} {name text : String} (found : store.get? name = some text) :
    (store.remove name).size < store.size := by
  obtain ⟨entry, member, named⟩ := exists_mem_of_lookup found
  exact List.length_filter_lt_length_iff_exists.mpr ⟨entry, member, by simp [named]⟩

/-! ### Names -/

/-- The first name that queries cannot refer to. -/
def firstUnusable? (store : Store) : Option String :=
  store.names.find? fun name => !isTagName name.toList

end Store

end TaskQuery
