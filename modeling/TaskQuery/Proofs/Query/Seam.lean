/-
**A space ends every item of a query.**

Whatever looks ahead in the tokens of a query (for a value, a terminator, or the end of a shorthand)
takes a space as it takes the end of the tokens.

* `Item.next_append`: one item before a space.
* `items_append`: the items of two token lists with a space between them.
-/

import TaskQuery.Query.Item

namespace TaskQuery

open Calendar (Vantage)

namespace Item

section Seam

variable {tokens rest : List Token}

/-! ### Values and terminators -/

theorem joinRuns_append :
    joinRuns (tokens ++ .space :: rest) =
      ((joinRuns tokens).1, (joinRuns tokens).2 ++ .space :: rest) := by
  induction tokens with
  | nil => rfl
  | cons token tokens inner =>
    rw [List.cons_append, joinRuns, joinRuns]
    cases token.run? with
    | none => rfl
    | some run => rw [inner]

theorem comparison?_append :
    comparison? (tokens ++ .space :: rest) =
      (comparison? tokens).map fun found => (found.1, found.2.1, found.2.2 ++ .space :: rest) := by
  cases tokens with
  | nil => rfl
  | cons token tokens =>
    cases token with
    | comparison relation =>
      rw [List.cons_append, comparison?, comparison?, joinRuns_append]
      split <;> rfl
    | _ => rfl

/-- A space is no terminator. -/
theorem head?_append {token : Token} (visible : token ≠ .space) :
    ((tokens ++ .space :: rest).head? == some token) = (tokens.head? == some token) := by
  cases tokens with
  | nil => exact beq_eq_false_iff_ne.mpr fun same => visible (Option.some.inj same).symm
  | cons first tokens => rfl

theorem tail_append {token : Token} (begins : (tokens.head? == some token) = true) :
    (tokens ++ .space :: rest).tail = tokens.tail ++ .space :: rest := by
  cases tokens with
  | nil => cases begins
  | cons first tokens => rfl

theorem atBoundary_append : atBoundary (tokens ++ .space :: rest) = atBoundary tokens := by
  cases tokens with
  | nil => rfl
  | cons first tokens => cases first <;> rfl

/-! ### Items -/

theorem tagged_append (name : List Char) :
    tagged name (tokens ++ .space :: rest) =
      ((tagged name tokens).1, (tagged name tokens).2.1,
        (tagged name tokens).2.2 ++ .space :: rest) := by
  unfold tagged
  rw [head?_append (by decide)]
  by_cases shown : (tokens.head? == some Token.bang) = true
  · simp only [if_pos shown, tail_append shown, comparison?_append]
    cases comparison? tokens.tail <;> rfl
  · simp only [if_neg shown, comparison?_append]
    cases comparison? tokens <;> rfl

theorem excluded_append (name : List Char) :
    excluded name (tokens ++ .space :: rest) =
      ((excluded name tokens).1, (excluded name tokens).2 ++ .space :: rest) := by
  unfold excluded
  rw [tagged_append]
  dsimp only
  rw [head?_append (by decide)]
  by_cases asks : ((tagged name tokens).2.2.head? == some Token.ask) = true
  · rw [if_pos asks, if_pos asks, tail_append asks]
  · rw [if_neg asks, if_neg asks]

theorem afterOptionMark_append (vantage : Vantage) (name : String) :
    afterOptionMark vantage name (tokens ++ .space :: rest) =
      ((afterOptionMark vantage name tokens).1,
        (afterOptionMark vantage name tokens).2 ++ .space :: rest) := by
  unfold afterOptionMark
  rw [comparison?_append]
  cases comparison? tokens <;> rfl

theorem afterSign_append (vantage : Vantage) (sign : Sign) (name : List Char) :
    afterSign vantage sign name (tokens ++ .space :: rest) =
      ((afterSign vantage sign name tokens).1,
        (afterSign vantage sign name tokens).2 ++ .space :: rest) := by
  unfold afterSign
  rw [head?_append (by decide), atBoundary_append]
  by_cases asks : (tokens.head? == some Token.ask) = true
  · rw [if_pos asks, if_pos asks, tail_append asks]
  rw [if_neg asks, if_neg asks]
  cases (if atBoundary tokens then shorthand? vantage name else none) with
  | some condition => rfl
  | none =>
    dsimp only
    by_cases opens : opensTag name = true
    · rw [if_pos opens, if_pos opens, tagged_append]
    · rw [if_neg opens, if_neg opens]
      rfl

theorem next_name (vantage : Vantage) {run : List Char} (notDash : run ≠ ['-']) :
    next vantage (.name run) tokens = (.word run, tokens) := by
  unfold next
  split
  · next same => cases same
  · next same => cases same
  · next same => cases same
  · next same => exact absurd (Token.name.inj same) notDash
  · rfl

/-- An item before a space is the item that it is at the end of the tokens. -/
theorem next_append (vantage : Vantage) (token : Token) :
    next vantage token (tokens ++ .space :: rest) =
      ((next vantage token tokens).1, (next vantage token tokens).2 ++ .space :: rest) := by
  cases token with
  | savedMark sign =>
    cases tokens with
    | nil => rfl
    | cons first tokens => cases first <;> rfl
  | optionMark sign =>
    cases tokens with
    | nil => rfl
    | cons first tokens =>
      cases first with
      | name name => exact afterOptionMark_append vantage (String.ofList name)
      | _ => rfl
  | tagMark sign =>
    cases tokens with
    | nil => rfl
    | cons first tokens =>
      cases first with
      | name name => exact afterSign_append vantage sign name
      | _ => rfl
  | name run =>
    by_cases dash : run = ['-']
    · subst dash
      -- Only a dash looks at two tokens, a sign and a name.
      cases tokens with
      | nil => rfl
      | cons first tokens =>
        cases first with
        | tagMark sign =>
          cases tokens with
          | nil => rfl
          | cons second tokens =>
            cases second with
            | name name =>
              show (if opensTag name then excluded name (tokens ++ .space :: rest) else _) = _
              rw [excluded_append]
              show _ = ((if opensTag name then excluded name tokens else _).1,
                (if opensTag name then excluded name tokens else _).2 ++ .space :: rest)
              split <;> rfl
            | _ => rfl
        | _ => rfl
    · rw [next_name vantage dash, next_name vantage dash]
  | _ => rfl

end Seam

end Item

/-- **The items of two token lists with a space between them.** -/
theorem items_append (vantage : Vantage) (tokens rest : List Token) :
    items vantage (tokens ++ .space :: rest) =
      items vantage tokens ++ .space :: items vantage rest := by
  fun_induction items vantage tokens with
  | case1 =>
    rw [List.nil_append, items]
    rfl
  | case2 token tokens inner =>
    rw [List.cons_append, items, Item.next_append]
    dsimp only
    rw [inner]
    rfl

end TaskQuery
