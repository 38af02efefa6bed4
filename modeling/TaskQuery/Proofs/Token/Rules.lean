/-
**At every position of a text some rule takes a token.**

Rules tried in a fixed order take pieces off the front of an input until it has ended. Such a loop
could be stuck where no rule matches, or go on for ever where a rule takes nothing. The rules of the
lexer do neither: every character that begins a text is taken by one of them, and what the first one
that matches takes off is what a step of the lexer finds.

* `Progresses`: at every input some rule matches and takes something off.
* `Drains`: the loop with its two ends.
* `IsLoop.drains_iff`: rules that progress end in one way only.
* `Lexer.firstMatch_rules`: the rules of the lexer and its steps.
-/

import TaskQuery.Proofs.Token.Covering

namespace TaskQuery

/-! ### Rules in order -/

/-- A rule takes something off the front of an input, or does not match. -/
abbrev Rule (α β : Type) := List α → Option (β × List α)

section Rules

variable {α β : Type} {rules : List (Rule α β)} {rule : Rule α β} {input after : List α}

/-- What the first of some rules that matches takes off, and the input after it. -/
def firstMatch (rules : List (Rule α β)) (input : List α) : Option (β × List α) :=
  rules.findSome? fun rule => rule input

theorem firstMatch_cons :
    firstMatch (rule :: rules) input = (rule input).or (firstMatch rules input) := by
  rw [firstMatch, List.findSome?_cons]
  cases rule input <;> rfl

theorem firstMatch_skip (none : rule input = none) :
    firstMatch (rule :: rules) input = firstMatch rules input := by
  rw [firstMatch_cons, none, Option.none_or]

theorem firstMatch_take {found : β × List α} (matched : rule input = some found) :
    firstMatch (rule :: rules) input = some found := by
  rw [firstMatch_cons, matched, Option.some_or]

/-- Wherever an input has not ended some rule matches, and the first that does takes something off. -/
def Progresses (rules : List (Rule α β)) : Prop :=
  ∀ input, input ≠ [] → ∃ found taken after,
    firstMatch rules input = some (found, after) ∧ taken ≠ [] ∧ taken ++ after = input

/-- The loop that applies rules until its input has ended: what it has found in the end, and where it
got stuck if no rule matched. A loop without an end is not related to anything. -/
inductive Drains (rules : List (Rule α β)) : List α → List β → Option (List α) → Prop where
  | ended : Drains rules [] [] none
  | stuck {input : List α} (unread : input ≠ []) (unmatched : firstMatch rules input = none) :
      Drains rules input [] (some input)
  | round {input after : List α} {found : β} {more : List β} {fault : Option (List α)}
      (unread : input ≠ []) (matched : firstMatch rules input = some (found, after))
      (later : Drains rules after more fault) : Drains rules input (found :: more) fault

/-- A loop has one end at most. -/
theorem Drains.unique {found found' : List β} {fault fault' : Option (List α)}
    (drains : Drains rules input found fault) (drains' : Drains rules input found' fault') :
    found = found' ∧ fault = fault' := by
  induction drains generalizing found' fault' with
  | ended =>
    cases drains' with
    | ended => exact ⟨rfl, rfl⟩
    | stuck unread | round unread => exact absurd rfl unread
  | stuck unread unmatched =>
    cases drains' with
    | ended => exact absurd rfl unread
    | stuck => exact ⟨rfl, rfl⟩
    | round _ matched => cases unmatched.symm.trans matched
  | round unread matched later inner =>
    cases drains' with
    | ended => exact absurd rfl unread
    | stuck _ unmatched => cases unmatched.symm.trans matched
    | round _ matched' later' =>
      cases matched.symm.trans matched'
      obtain ⟨rfl, rfl⟩ := inner later'
      exact ⟨rfl, rfl⟩

/-- A function finds what a loop finds round by round. -/
structure IsLoop (rules : List (Rule α β)) (run : List α → List β) : Prop where
  ended : run [] = []
  round : ∀ {input found after}, input ≠ [] → firstMatch rules input = some (found, after) →
    run input = found :: run after

section Steps

variable {step : α → List α → β × List α}
  (finds : ∀ first rest, firstMatch rules (first :: rest) = some (step first rest))

include finds

/-- Rules whose first match is a step that takes the first element progress. -/
theorem progresses_of_step (takes : ∀ first rest, (step first rest).2 <:+ rest) :
    Progresses rules := by
  intro input unread
  obtain ⟨first, rest, rfl⟩ := List.exists_cons_of_ne_nil unread
  obtain ⟨taken, split⟩ := takes first rest
  exact ⟨_, first :: taken, _, finds first rest, List.cons_ne_nil first taken,
    congrArg (first :: ·) split⟩

theorem isLoop_of_step {run : List α → List β} (ended : run [] = [])
    (goes : ∀ first rest, run (first :: rest) = (step first rest).1 :: run (step first rest).2) :
    IsLoop rules run where
  ended := ended
  round := by
    intro input found after unread matched
    obtain ⟨first, rest, rfl⟩ := List.exists_cons_of_ne_nil unread
    have stepped : step first rest = (found, after) :=
      Option.some.inj ((finds first rest).symm.trans matched)
    rw [goes, stepped]

end Steps

namespace IsLoop

variable {run : List α → List β}

/-- The loop of rules that progress ends, after as many rounds as the input is long at most. -/
theorem drains (isLoop : IsLoop rules run) (progresses : Progresses rules) (input : List α) :
    Drains rules input (run input) none ∧ (run input).length ≤ input.length := by
  match input with
  | [] =>
    rw [isLoop.ended]
    exact ⟨.ended, Nat.le_refl 0⟩
  | first :: rest =>
    have unread : first :: rest ≠ [] := List.cons_ne_nil first rest
    obtain ⟨found, taken, after, matched, taken_ne, whole⟩ := progresses _ unread
    have shorter : after.length < (first :: rest).length := by
      have length := congrArg List.length whole
      have positive := List.length_pos_iff.mpr taken_ne
      rw [List.length_append] at length
      omega
    obtain ⟨later, fewer⟩ := isLoop.drains progresses after
    rw [isLoop.round unread matched]
    refine ⟨.round unread matched later, ?_⟩
    rw [List.length_cons]
    omega
termination_by input.length
decreasing_by exact shorter

/-- **The loop of rules that progress** has this end and no other one. -/
theorem drains_iff (isLoop : IsLoop rules run) (progresses : Progresses rules) {found : List β}
    {fault : Option (List α)} :
    Drains rules input found fault ↔ found = run input ∧ fault = none := by
  have ends := (isLoop.drains progresses input).1
  constructor
  · exact fun drains => drains.unique ends
  · rintro ⟨rfl, rfl⟩
    exact ends

end IsLoop

end Rules

namespace Lexer

/-! ### The rules of the lexer -/

/-- A run of blanks. -/
def takeBlanks : Rule Char Lexeme := fun text =>
  if (text.takeWhile Text.isBlank).isEmpty then none
  else some (.token .space, text.dropWhile Text.isBlank)

/-- The extra payload up to the next marker of a command. -/
def takeExtra : Rule Char Lexeme
  | c :: '+' :: rest =>
    if (Sign.ofChar? c).isSome then
      some (.extra (Text.trim (splitAtCommand rest).1), (splitAtCommand rest).2)
    else none
  | _ => none

/-- The command, which is no token and takes all that is left. -/
def takeCommand : Rule Char Lexeme := fun text =>
  if startsCommand text then some (.command (Text.trim (text.drop 2)), []) else none

/-- The first of some tokens with whose text the text begins. -/
def takeSymbol (tokens : List Token) : Rule Char Lexeme := fun text =>
  (tokens.find? fun token => token.text.isPrefixOf text).map fun token =>
    (.token token, text.drop token.text.length)

/-- A run of tag characters. -/
def takeName : Rule Char Lexeme := fun text =>
  if (text.takeWhile isTagChar).isEmpty then none
  else some (.token (.name (text.takeWhile isTagChar)), text.dropWhile isTagChar)

/-- Any character but a blank, and the plain characters after it. -/
def takePlain : Rule Char Lexeme
  | [] => none
  | c :: rest =>
    if Text.isBlank c then none
    else some (.token (.plain (c :: rest.takeWhile isPlainChar)), rest.dropWhile isPlainChar)

/-- The rules in the order in which they are tried. A bare sign comes after the markers that begin
with one, and plain text takes whatever is left. -/
def rules : List (Rule Char Lexeme) :=
  [takeBlanks, takeExtra, takeCommand,
    takeSymbol ([.atSign, .hash].map .escape),
    takeSymbol ([.hash, .atSign].map .savedMark),
    takeSymbol ([.hash, .atSign].map .optionMark),
    takeSymbol (Comparison.all.map .comparison),
    takeSymbol ([.hash, .atSign].map .tagMark),
    takeSymbol [.bang, .ask],
    takeName, takePlain]

theorem takeBlanks_eq_none {c : Char} (visible : Text.isBlank c = false) (rest : List Char) :
    takeBlanks (c :: rest) = none := by
  rw [takeBlanks, List.takeWhile_cons_of_neg (Bool.eq_false_iff.mp visible)]
  rfl

theorem takeSymbol_eq_none {tokens : List Token} {text : List Char}
    (unspelled : ∀ token ∈ tokens, ¬token.text <+: text) : takeSymbol tokens text = none := by
  have none : (tokens.find? fun token => token.text.isPrefixOf text) = none :=
    List.find?_eq_none.mpr fun token member found =>
      unspelled token member (List.isPrefixOf_iff_prefix.mp found)
  rw [takeSymbol, none]
  rfl

/-- A text whose second character is another one does not begin with a marker of two characters. -/
theorem takeSymbol_eq_none_of_second {mark : Sign → Token} {signs : List Sign} {c d : Char}
    {rest : List Char} (apart : ∀ sign : Sign, ∃ second, (mark sign).text = [sign.char, second] ∧
      (sign.char = c → second ≠ d)) : takeSymbol (signs.map mark) (c :: d :: rest) = none := by
  refine takeSymbol_eq_none fun token member begins => ?_
  obtain ⟨sign, _, rfl⟩ := List.mem_map.mp member
  obtain ⟨second, spelled, other⟩ := apart sign
  rw [spelled] at begins
  obtain ⟨first, begins⟩ := List.cons_prefix_cons.mp begins
  exact other first (List.cons_prefix_cons.mp begins).1

/-- A text that begins with another character than all of some symbols begins with none of them. -/
theorem takeSymbol_eq_none_of_first {tokens : List Token} {firsts : List Char} {c : Char}
    (listed : ∀ token ∈ tokens, token.text.head?.any firsts.contains = true) (other : c ∉ firsts)
    (rest : List Char) : takeSymbol tokens (c :: rest) = none := by
  refine takeSymbol_eq_none fun token member begins => ?_
  obtain ⟨d, first, inside⟩ := (Option.any_eq_true _ _).mp (listed token member)
  obtain ⟨more, spelled⟩ := List.head?_eq_some_iff.mp first
  rw [spelled] at begins
  exact other ((List.cons_prefix_cons.mp begins).1 ▸ List.contains_iff_mem.mp inside)

/-- The rules find what a step finds where a sign begins the text. -/
theorem firstMatch_sign (sign : Sign) (rest : List Char) :
    firstMatch rules (sign.char :: rest) = some (scanSign sign rest) := by
  cases rest with
  | nil => cases sign <;> rfl
  | cons d rest =>
    by_cases plus : d = '+'
    · subst plus
      cases sign <;> rfl
    by_cases bang : d = '!'
    · subst bang
      cases sign <;> rfl
    by_cases percent : d = '%'
    · subst percent
      cases sign <;> rfl
    by_cases colon : d = ':'
    · subst colon
      cases sign <;> rfl
    rw [scanSign_mark plus bang percent colon]
    by_cases doubled : d = sign.char
    · rw [if_pos doubled, doubled]
      cases sign <;> rfl
    have visible : Text.isBlank sign.char = false := by cases sign <;> decide
    have noExtra : takeExtra (sign.char :: d :: rest) = none := by simp [takeExtra, plus]
    have noCommand : takeCommand (sign.char :: d :: rest) = none := by
      simp [takeCommand, startsCommand, bang]
    have noEscape : takeSymbol ([.atSign, .hash].map .escape) (sign.char :: d :: rest) = none :=
      takeSymbol_eq_none_of_second fun other =>
        ⟨other.char, rfl, fun same => same ▸ Ne.symm doubled⟩
    have noSaved : takeSymbol ([.hash, .atSign].map .savedMark) (sign.char :: d :: rest) = none :=
      takeSymbol_eq_none_of_second fun other => ⟨'%', rfl, fun _ => Ne.symm percent⟩
    have noOption : takeSymbol ([.hash, .atSign].map .optionMark) (sign.char :: d :: rest) = none :=
      takeSymbol_eq_none_of_second fun other => ⟨':', rfl, fun _ => Ne.symm colon⟩
    have noComparison : takeSymbol (Comparison.all.map .comparison) (sign.char :: d :: rest) =
        none := by
      have firsts : ∀ token ∈ Comparison.all.map Token.comparison,
          token.text.head?.any ['<', '>', '!', '='].contains = true := by decide
      exact takeSymbol_eq_none_of_first firsts (by cases sign <;> decide) _
    have marked : takeSymbol ([.hash, .atSign].map .tagMark) (sign.char :: d :: rest) =
        some (.token (.tagMark sign), d :: rest) := by
      cases sign <;> rfl
    rw [if_neg doubled, rules, firstMatch_skip (takeBlanks_eq_none visible _),
      firstMatch_skip noExtra, firstMatch_skip noCommand, firstMatch_skip noEscape,
      firstMatch_skip noSaved, firstMatch_skip noOption, firstMatch_skip noComparison,
      firstMatch_take marked]

/-- A text that begins with no sign gets past the rules of payloads and of markers that come before
the comparisons. -/
theorem firstMatch_unsigned {c : Char} (visible : Text.isBlank c = false)
    (unsigned : Sign.ofChar? c = none) (rest : List Char) :
    firstMatch rules (c :: rest) = firstMatch (rules.drop 6) (c :: rest) := by
  have noExtra : takeExtra (c :: rest) = none := by
    unfold takeExtra
    split
    · next same =>
      obtain ⟨rfl, -⟩ := List.cons.inj same
      rw [unsigned]
      rfl
    · rfl
  have noCommand : takeCommand (c :: rest) = none := by
    have others : startsCommand (c :: rest) = false := by
      unfold startsCommand
      split
      · next same =>
        obtain ⟨rfl, -⟩ := List.cons.inj same
        rw [unsigned]
        rfl
      · rfl
    rw [takeCommand, others]
    rfl
  have noSign : c ∉ ['#', '@'] := fun member => by
    have signs : ∀ d ∈ ['#', '@'], (Sign.ofChar? d).isSome = true :=
      List.all_eq_true.mp (by decide)
    cases unsigned ▸ signs c member
  have noEscape : takeSymbol ([.atSign, .hash].map .escape) (c :: rest) = none :=
    takeSymbol_eq_none_of_first (by decide) noSign rest
  have noSaved : takeSymbol ([.hash, .atSign].map .savedMark) (c :: rest) = none :=
    takeSymbol_eq_none_of_first (by decide) noSign rest
  have noOption : takeSymbol ([.hash, .atSign].map .optionMark) (c :: rest) = none :=
    takeSymbol_eq_none_of_first (by decide) noSign rest
  rw [rules, firstMatch_skip (takeBlanks_eq_none visible _), firstMatch_skip noExtra,
    firstMatch_skip noCommand, firstMatch_skip noEscape, firstMatch_skip noSaved,
    firstMatch_skip noOption]
  rfl

/-- A symbol that an equals sign would prolong is taken by itself before any other character. -/
theorem firstMatch_alone {rest : List Char} (alone : ∀ more, rest ≠ '=' :: more) :
    firstMatch (rules.drop 6) ('<' :: rest) = some (.token (.comparison .lt), rest) ∧
      firstMatch (rules.drop 6) ('>' :: rest) = some (.token (.comparison .gt), rest) ∧
        firstMatch (rules.drop 6) ('!' :: rest) = some (.token .bang, rest) := by
  cases rest with
  | nil => exact ⟨rfl, rfl, rfl⟩
  | cons d rest =>
    have unequal : ('=' == d) = false :=
      beq_eq_false_iff_ne.mpr fun same => alone rest (by rw [same])
    refine ⟨?_, ?_, ?_⟩ <;>
      simp [firstMatch, rules, takeSymbol, Comparison.all, Token.text, Comparison.text, Sign.char,
        List.isPrefixOf, unequal]

/-- The rules find what a step finds where a comparison or terminator begins the text. -/
theorem firstMatch_symbol {c : Char} {rest following : List Char} {token : Token}
    (scanned : scanSymbol? c rest = some (token, following)) :
    firstMatch (rules.drop 6) (c :: rest) = some (.token token, following) := by
  unfold scanSymbol? at scanned
  split at scanned <;> cases scanned
  · rfl
  · rfl
  · rfl
  · rfl
  · next alone => exact (firstMatch_alone alone).1
  · next alone => exact (firstMatch_alone alone).2.1
  · next alone => exact (firstMatch_alone alone).2.2
  · rfl

/-- The rules find what a step finds where a run begins the text. -/
theorem firstMatch_run {c : Char} (visible : Text.isBlank c = false)
    (ordinary : isSpecial c = false) (rest : List Char) :
    firstMatch (rules.drop 6) (c :: rest) =
      some (.token (scanRun c rest).1, (scanRun c rest).2) := by
  have other : c ∉ ['#', '@', '!', '?', '<', '>', '='] := fun member => by
    have special : ∀ d ∈ ['#', '@', '!', '?', '<', '>', '='], isSpecial d = true :=
      List.all_eq_true.mp (by decide)
    cases ordinary.symm.trans (special c member)
  have noComparison : takeSymbol (Comparison.all.map .comparison) (c :: rest) = none :=
    takeSymbol_eq_none_of_first (by decide) other rest
  have noSign : takeSymbol ([.hash, .atSign].map .tagMark) (c :: rest) = none :=
    takeSymbol_eq_none_of_first (by decide) other rest
  have noTerminator : takeSymbol [.bang, .ask] (c :: rest) = none :=
    takeSymbol_eq_none_of_first (by decide) other rest
  have ending : firstMatch (rules.drop 6) (c :: rest) = firstMatch [takeName, takePlain] (c :: rest) :=
    (firstMatch_skip noComparison).trans
      ((firstMatch_skip noSign).trans (firstMatch_skip noTerminator))
  rw [ending, scanRun]
  by_cases named : isTagChar c = true
  · rw [if_pos named]
    refine firstMatch_take ?_
    rw [takeName, List.takeWhile_cons_of_pos named, List.dropWhile_cons_of_pos named]
    rfl
  · have noName : takeName (c :: rest) = none := by
      rw [takeName, List.takeWhile_cons_of_neg named]
      rfl
    rw [if_neg named, firstMatch_skip noName]
    refine firstMatch_take ?_
    rw [takePlain, if_neg (Bool.eq_false_iff.mp visible)]

/-- **The first rule that matches finds what a step of the lexer finds**, and some rule matches
wherever a text has not ended. -/
theorem firstMatch_rules (c : Char) (rest : List Char) :
    firstMatch rules (c :: rest) = some (scan c rest) := by
  rw [scan]
  by_cases blank : Text.isBlank c = true
  · rw [if_pos blank]
    refine firstMatch_take ?_
    rw [takeBlanks, List.takeWhile_cons_of_pos blank, List.dropWhile_cons_of_pos blank]
    rfl
  · have visible : Text.isBlank c = false := Bool.eq_false_iff.mpr blank
    rw [if_neg blank]
    cases signed : Sign.ofChar? c with
    | some sign =>
      rw [← Sign.char_of_ofChar? signed]
      exact firstMatch_sign sign rest
    | none =>
      rw [firstMatch_unsigned visible signed]
      dsimp only
      cases scanned : scanSymbol? c rest with
      | some found => exact firstMatch_symbol scanned
      | none =>
        have ordinary : isSpecial c = false := Bool.eq_false_iff.mpr fun special => by
          have found := scanSymbol?_isSome special signed rest
          rw [scanned] at found
          cases found
        exact firstMatch_run visible ordinary rest

/-- A step leaves the end of the text after its first character. -/
theorem scan_suffix (c : Char) (rest : List Char) : (scan c rest).2 <:+ rest := by
  rcases scan_cases c rest with ⟨token, following, scanned⟩ | ⟨written, rfl, scanned⟩ |
    ⟨written, rfl, scanned⟩
  · obtain ⟨stretch, split, _⟩ := spells_of_scan scanned
    rw [scanned, split]
    exact List.suffix_append stretch following
  · have payload : (splitAtCommand written).2 <:+ written :=
      ⟨_, splitAtCommand_append_snd written⟩
    rw [scanned]
    exact payload.trans (List.suffix_cons '+' written)
  · rw [scanned]
    exact List.nil_suffix

theorem progresses_rules : Progresses rules :=
  progresses_of_step firstMatch_rules scan_suffix

theorem isLoop_lexemes : IsLoop rules lexemes :=
  isLoop_of_step firstMatch_rules (by rw [lexemes]) lexemes_cons

end Lexer

end TaskQuery
