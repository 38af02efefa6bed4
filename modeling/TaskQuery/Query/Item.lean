/-
**The items of a query.**

The tokens of a query group into items: a tag, a shorthand, an exclusion, an option, a request for
a column, a reference to a saved search, a word of free text, or a space. The first tokens decide
which item it is; tokens that begin no item are free text, and stray comparisons and terminators
are dropped.

* `next_suffix`: what an item leaves is the end of the tokens after its first one.
* `items`: the items of a token list from left to right.
-/

import TaskQuery.Calendar.Literal
import TaskQuery.Expr
import TaskQuery.Token

namespace TaskQuery

open Calendar (Vantage)

/-- An item of a query. -/
inductive Item where
  | space
  /-- A condition that has to hold, and whether its tag is shown as a column. -/
  | require (condition : Condition) (shown : Bool)
  /-- A condition that must not hold, and whether its tag is shown as a column. -/
  | exclude (condition : Condition) (shown : Bool)
  | option (name : String)
  | savedSearch (name : String)
  | column (name : String)
  /-- A part of a word of free text. -/
  | word (text : List Char)
  /-- A comparison or terminator that belongs to no item. -/
  | stray
  deriving DecidableEq, Repr

namespace Item

/-! ### Values -/

/-- The runs at the start of a token list joined together, and the tokens after them. -/
def joinRuns : List Token → List Char × List Token
  | [] => ([], [])
  | token :: rest =>
    match token.run? with
    | some run => (run ++ (joinRuns rest).1, (joinRuns rest).2)
    | none => ([], token :: rest)

theorem joinRuns_suffix (tokens : List Token) : (joinRuns tokens).2 <:+ tokens := by
  induction tokens with
  | nil => exact List.suffix_refl _
  | cons token rest inner =>
    unfold joinRuns
    split
    · exact inner.trans (List.suffix_cons token rest)
    · exact List.suffix_refl _

/-- A comparison with a value at the start of a token list, and the tokens after it. -/
def comparison? : List Token → Option (Comparison × List Char × List Token)
  | .comparison relation :: rest =>
    if (joinRuns rest).1.isEmpty then none
    else some (relation, (joinRuns rest).1, (joinRuns rest).2)
  | _ => none

/-- A comparison and the runs of its value stand at the start of the tokens. -/
theorem comparison?_eq_some {tokens after : List Token} {relation : Comparison}
    {value : List Char} (found : comparison? tokens = some (relation, value, after)) :
    value ≠ [] ∧ ∃ rest, tokens = .comparison relation :: rest ∧ joinRuns rest = (value, after) := by
  unfold comparison? at found
  split at found
  · next other rest =>
    split at found
    · contradiction
    · next written =>
      simp only [Option.some.injEq, Prod.mk.injEq] at found
      obtain ⟨rfl, rfl, rfl⟩ := found
      exact ⟨written ∘ List.isEmpty_iff.mpr, rest, rfl, rfl⟩
  · contradiction

theorem comparison?_suffix {tokens after : List Token} {relation : Comparison}
    {value : List Char} (found : comparison? tokens = some (relation, value, after)) :
    after <:+ tokens := by
  obtain ⟨_, rest, rfl, joined⟩ := comparison?_eq_some found
  have within := joinRuns_suffix rest
  rw [joined] at within
  exact within.trans (List.suffix_cons _ rest)

/-! ### Tags and shorthands -/

/-- A sign and a name with an optional request to be shown and an optional comparison: the
condition, whether its tag is shown, and the tokens after it. -/
def tagged (name : List Char) (rest : List Token) : Condition × Bool × List Token :=
  let shown := rest.head? == some .bang
  let rest := if shown then rest.tail else rest
  match comparison? rest with
  | some (relation, value, after) =>
    (.compare (String.ofList name) relation.text (String.ofList value), shown, after)
  | none => (.tag (String.ofList name), shown, rest)

theorem tagged_suffix (name : List Char) (rest : List Token) :
    (tagged name rest).2.2 <:+ rest := by
  have tail : (if rest.head? == some .bang then rest.tail else rest) <:+ rest := by
    split
    · exact List.tail_suffix rest
    · exact List.suffix_refl rest
  unfold tagged
  dsimp only
  split
  · next found => exact (comparison?_suffix found).trans tail
  · exact tail

/-- Whether a shorthand may end before some tokens: a comparison or terminator would make it a
tag. -/
def atBoundary : List Token → Bool
  | .comparison _ :: _ => false
  | .bang :: _ => false
  | .ask :: _ => false
  | _ => true

/-- The condition of a date with an optional repetition after a plus sign. -/
def due? (vantage : Vantage) (name : List Char) : Option Condition :=
  let date := String.ofList (name.takeWhile (· != '+'))
  match name.dropWhile (· != '+') with
  | [] => (vantage.read? date).map fun time => .isDue date time none
  | _ :: repetition =>
    (Frequency.ofText? (String.ofList repetition)).bind fun frequency =>
      (vantage.read? date).map fun time => .isDue date time (some frequency)

/-- A name that means a date is a date literal, or one with a repetition after a plus sign. -/
theorem due?_eq_some {vantage : Vantage} {name : List Char} {condition : Condition}
    (found : due? vantage name = some condition) :
    ∃ date time frequency, vantage.read? date = some time ∧
      condition = .isDue date time frequency ∧
      (name = date.toList ∨ ∃ repetition, name = date.toList ++ '+' :: repetition ∧
        (Frequency.ofText? (String.ofList repetition)).isSome = true) := by
  have whole : name.takeWhile (· != '+') ++ name.dropWhile (· != '+') = name :=
    List.takeWhile_append_dropWhile
  have stops := List.head?_dropWhile_not (· != '+') name
  unfold due? at found
  dsimp only at found
  split at found
  · next noPlus =>
    obtain ⟨time, reads, rfl⟩ := Option.map_eq_some_iff.mp found
    refine ⟨_, time, none, reads, rfl, Or.inl ?_⟩
    rw [noPlus, List.append_nil] at whole
    rw [String.toList_ofList, whole]
  · next plus repetition begins =>
    obtain ⟨frequency, repeats, found⟩ := Option.bind_eq_some_iff.mp found
    obtain ⟨time, reads, rfl⟩ := Option.map_eq_some_iff.mp found
    refine ⟨_, time, some frequency, reads, rfl, Or.inr ⟨repetition, ?_, by rw [repeats]; rfl⟩⟩
    rw [begins] at whole stops
    obtain rfl : plus = '+' := by simpa using stops
    rw [String.toList_ofList, whole]

/-- The condition of a priority shorthand. -/
def priority? (name : String) : Option Condition :=
  (Priority.ofShorthand? name).map fun priority => .hasPriority priority name

/-- The condition that a name stands for by itself. -/
def shorthand? (vantage : Vantage) (name : List Char) : Option Condition :=
  (priority? (String.ofList name)).or (due? vantage name)

/-! ### Fields -/

/-- The condition of a field with a value. What the value means is settled here if it means
something; a value that does not is left for later to refuse. -/
def field (vantage : Vantage) (name : String) (relation : Comparison) (value : String) :
    Condition :=
  let condition := Condition.compare (":" ++ name) relation.text value
  match name with
  | "when" => { condition with time := vantage.read? value }
  | "priority" => { condition with priority := Priority.ofText? value }
  | _ => condition

/-- Of all fields only a trigger time and a priority have a meaning to be settled. -/
theorem field_eq (vantage : Vantage) (name : String) (relation : Comparison) (value : String) :
    field vantage name relation value =
      { Condition.compare (":" ++ name) relation.text value with
        time := if name = "when" then vantage.read? value else none
        priority := if name = "priority" then Priority.ofText? value else none } := by
  unfold field
  split
  · rfl
  · rfl
  · next noTime noPriority => rw [if_neg noTime, if_neg noPriority]; rfl

/-! ### Items -/

/-- The item of a token that begins nothing else. -/
def ofToken : Token → Item
  | .space => .space
  | .comparison _ => .stray
  | .bang => .stray
  | .ask => .stray
  | .escape sign => .word [sign.char]
  | token => .word token.text

/-- The item that begins with a sign and a name, and the tokens after it. -/
def afterSign (vantage : Vantage) (sign : Sign) (name : List Char) (rest : List Token) :
    Item × List Token :=
  if rest.head? == some .ask then (.column (String.ofList name), rest.tail)
  else
    match (if atBoundary rest then shorthand? vantage name else none) with
    | some condition => (.require condition false, rest)
    | none =>
      if opensTag name then
        let (condition, shown, after) := tagged name rest
        (.require condition shown, after)
      else (.word [sign.char], .name name :: rest)

/-- The item that begins with an option marker and a name, and the tokens after it. -/
def afterOptionMark (vantage : Vantage) (name : String) (rest : List Token) : Item × List Token :=
  match comparison? rest with
  | some (relation, value, after) =>
    (.require (field vantage name relation (String.ofList value)) false, after)
  | none => (.option name, rest)

/-- The exclusion of a tag, which may end in a request to show it, and the tokens after it. -/
def excluded (name : List Char) (rest : List Token) : Item × List Token :=
  let (condition, shown, after) := tagged name rest
  if after.head? == some .ask then (.exclude condition true, after.tail)
  else (.exclude condition shown, after)

/-- The first item of a non-empty token list, and the tokens after it. -/
def next (vantage : Vantage) (token : Token) (rest : List Token) : Item × List Token :=
  match token, rest with
  | .savedMark _, .name name :: rest => (.savedSearch (String.ofList name), rest)
  | .optionMark _, .name name :: rest => afterOptionMark vantage (String.ofList name) rest
  | .tagMark sign, .name name :: rest => afterSign vantage sign name rest
  | .name ['-'], .tagMark sign :: .name name :: rest =>
    if opensTag name then excluded name rest
    else (.word ['-'], .tagMark sign :: .name name :: rest)
  | token, rest => (ofToken token, rest)

theorem afterSign_suffix (vantage : Vantage) (sign : Sign) (name : List Char)
    (rest : List Token) : (afterSign vantage sign name rest).2 <:+ .name name :: rest := by
  have later := List.suffix_cons (.name name) rest
  unfold afterSign
  split
  · exact (List.tail_suffix rest).trans later
  · split
    · exact later
    · split
      · exact (tagged_suffix name rest).trans later
      · exact List.suffix_refl _

theorem afterOptionMark_suffix (vantage : Vantage) (name : String) (rest : List Token) :
    (afterOptionMark vantage name rest).2 <:+ rest := by
  unfold afterOptionMark
  split
  · next found => exact comparison?_suffix found
  · exact List.suffix_refl rest

theorem excluded_suffix (name : List Char) (rest : List Token) :
    (excluded name rest).2 <:+ rest := by
  have within := tagged_suffix name rest
  unfold excluded
  dsimp only
  split
  · exact (List.tail_suffix _).trans within
  · exact within

/-- What an item leaves is the end of the tokens after its first one. -/
theorem next_suffix (vantage : Vantage) (token : Token) (rest : List Token) :
    (next vantage token rest).2 <:+ rest := by
  unfold next
  split
  · exact List.suffix_cons _ _
  · exact (afterOptionMark_suffix _ _ _).trans (List.suffix_cons _ _)
  · exact afterSign_suffix _ _ _ _
  · split
    · next sign name rest _ =>
      have later := (List.suffix_cons (.name name) rest).trans (List.suffix_cons (.tagMark sign) _)
      exact (excluded_suffix name rest).trans later
    · exact List.suffix_refl _
  · exact List.suffix_refl _

end Item

/-- The items of a token list from left to right. -/
def items (vantage : Vantage) : List Token → List Item
  | [] => []
  | token :: rest =>
    (Item.next vantage token rest).1 :: items vantage (Item.next vantage token rest).2
termination_by tokens => tokens.length
decreasing_by
  have shorter := (Item.next_suffix vantage token rest).length_le
  simp only [List.length_cons]; omega

end TaskQuery
