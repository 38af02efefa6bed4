/-
**Tokens lose nothing of a query.**

A query is ordinary text, then an extra payload with its marker, then a command with its marker; each
of the three may be missing. The tokens spell the ordinary text from the first character to the last,
up to the length and kind of its blanks, and the payloads are the rest up to blanks at their ends.

* `Covers`: some tokens spell a text from left to right, by runs as long as they can be.
* `covers_lexemes`: the tokens of a text without payloads.
* `exists_parts`: the three parts of any text.
* `readAll_covers`: a reading of a whole query.
-/

import TaskQuery.Proofs.Token.Replay

namespace TaskQuery

/-! ### Kinds of characters -/

/-- The kinds of characters that make runs. -/
inductive CharKind where
  | blank
  | tag
  | plain
  deriving DecidableEq, Repr

/-- Whether a character is of a kind. -/
def CharKind.keeps : CharKind → Char → Bool
  | blank => Text.isBlank
  | tag => isTagChar
  | plain => isPlainChar

/-- A character is of one kind only. -/
theorem CharKind.eq_of_keeps {kind other : CharKind} {c : Char} (keeps : kind.keeps c = true)
    (keeps' : other.keeps c = true) : kind = other := by
  have apart {c : Char} (blank : Text.isBlank c = true) : isTagChar c ≠ true :=
    Bool.eq_false_iff.mp (isTagChar_false_of_isBlank blank)
  have apart' {c : Char} (plain : isPlainChar c = true) :
      Text.isBlank c ≠ true ∧ isTagChar c ≠ true := by
    obtain ⟨visible, unnamed, _⟩ := Lexer.visible_of_isPlainChar plain
    exact ⟨Bool.eq_false_iff.mp visible, Bool.eq_false_iff.mp unnamed⟩
  cases kind <;> cases other
  · rfl
  · exact absurd keeps' (apart keeps)
  · exact absurd keeps (apart' keeps').1
  · exact absurd keeps (apart keeps')
  · rfl
  · exact absurd keeps (apart' keeps').2
  · exact absurd keeps' (apart' keeps).1
  · exact absurd keeps' (apart' keeps).2
  · rfl

/-- No special character is of a kind. -/
theorem CharKind.keeps_false_of_isSpecial {c : Char} (special : isSpecial c = true)
    (kind : CharKind) : kind.keeps c = false := by
  refine Bool.eq_false_iff.mpr fun keeps => ?_
  cases kind with
  | blank => cases special.symm.trans (isSpecial_false_of_isBlank keeps)
  | tag => cases keeps.symm.trans (isTagChar_false_of_isSpecial special)
  | plain => cases special.symm.trans (Lexer.visible_of_isPlainChar keeps).2.2

namespace Token

/-- The kind of the characters of a run. -/
def kind? : Token → Option CharKind
  | space => some .blank
  | name _ => some .tag
  | plain _ => some .plain
  | _ => none

/-- Whether a token is a marker. -/
def isMark : Token → Bool
  | savedMark _ | optionMark _ | tagMark _ => true
  | _ => false

/-- A run has characters of its kind only, and the text that follows does not prolong it. -/
theorem Spells.of_kind? {token : Token} {stretch following : List Char} {kind : CharKind}
    (spells : token.Spells stretch following) (isRun : token.kind? = some kind) :
    IsRun kind.keeps stretch following := by
  cases spells with
  | space run => cases isRun; exact run
  | name run => cases isRun; exact run
  | plain run => cases isRun; exact run
  | symbol isSymbol =>
    cases token with
    | space | name | plain => cases isSymbol
    | _ => cases isRun

/-- Any other token that is no marker has special characters only. -/
theorem Spells.of_kind?_none {token : Token} {stretch following : List Char}
    (spells : token.Spells stretch following) (isSymbol : token.kind? = none)
    (unmarked : token.isMark = false) : ∀ c ∈ stretch, isSpecial c = true := by
  cases spells with
  | space | name | plain => cases isSymbol
  | symbol =>
    refine List.all_eq_true.mp ?_
    cases token with
    | space | name | plain => cases isSymbol
    | savedMark | optionMark | tagMark => cases unmarked
    | escape sign => cases sign <;> decide
    | comparison relation => cases relation <;> decide
    | bang | ask => decide

end Token

/-! ### Coverings -/

/-- Some tokens spell a text from left to right, after some other text. No run could begin earlier:
the character before it is of another kind, unless that character belongs to a marker. -/
inductive Covers : List Char → List Char → List Token → Prop where
  | nothing {left : List Char} : Covers left [] []
  | token {left stretch following : List Char} {token : Token} {tokens : List Token}
      (spells : token.Spells stretch following)
      (begins : ∀ kind ∈ token.kind?, ∀ c ∈ left.getLast?, kind.keeps c = false)
      (later : Covers (if token.isMark then [] else left ++ stretch) following tokens) :
      Covers left (stretch ++ following) (token :: tokens)

/-- A text with one space for each of its longest runs of blanks. -/
def collapse : List Char → List Char
  | [] => []
  | c :: rest =>
    if Text.isBlank c then
      if rest.head?.any Text.isBlank then collapse rest else ' ' :: collapse rest
    else c :: collapse rest

theorem collapse_visible {stretch : List Char} (visible : ∀ c ∈ stretch, Text.isBlank c = false)
    (following : List Char) : collapse (stretch ++ following) = stretch ++ collapse following := by
  induction stretch with
  | nil => rfl
  | cons c stretch inner =>
    have later := inner fun d member => visible d (List.mem_cons_of_mem c member)
    rw [List.cons_append, collapse, if_neg (Bool.eq_false_iff.mp (visible c List.mem_cons_self)),
      later, List.cons_append]

theorem collapse_blanks {c : Char} {stretch following : List Char}
    (run : IsRun Text.isBlank (c :: stretch) following) :
    collapse (c :: stretch ++ following) = ' ' :: collapse following := by
  induction stretch generalizing c with
  | nil =>
    have ends : following.head?.any Text.isBlank = false := by
      cases following with
      | nil => rfl
      | cons d following => exact run.ends d rfl
    rw [List.cons_append, List.nil_append, collapse, if_pos (run.only c List.mem_cons_self), ends]
    rfl
  | cons d stretch inner =>
    have only : ∀ e ∈ d :: stretch, Text.isBlank e = true :=
      fun e member => run.only e (List.mem_cons_of_mem c member)
    have goes : (d :: stretch ++ following).head?.any Text.isBlank = true :=
      only d List.mem_cons_self
    rw [List.cons_append, collapse, if_pos (run.only c List.mem_cons_self), if_pos goes]
    exact inner ⟨List.cons_ne_nil _ _, only, run.ends⟩

theorem Token.visible_of_isSymbol {token : Token} (isSymbol : token.isSymbol = true) :
    ∀ c ∈ token.text, Text.isBlank c = false := by
  have none : token.text.any Text.isBlank = false := by
    cases token with
    | space | name | plain => cases isSymbol
    | escape sign | savedMark sign | optionMark sign | tagMark sign => cases sign <;> decide
    | comparison relation => cases relation <;> decide
    | bang | ask => decide
  exact fun c member => Bool.eq_false_iff.mpr (List.any_eq_false.mp none c member)

/-- A token of a text is the stretch that spells it, or a space for a run of blanks. -/
theorem collapse_spells {token : Token} {stretch following : List Char}
    (spells : token.Spells stretch following) :
    collapse (stretch ++ following) = token.text ++ collapse following := by
  cases spells with
  | space run =>
    obtain ⟨c, stretch, rfl⟩ := List.exists_cons_of_ne_nil run.written
    exact collapse_blanks run
  | name run =>
    exact collapse_visible (fun c member => (Lexer.visible_of_isTagChar (run.only c member)).1) _
  | plain run =>
    exact collapse_visible (fun c member => (Lexer.visible_of_isPlainChar (run.only c member)).1) _
  | symbol isSymbol => exact collapse_visible (Token.visible_of_isSymbol isSymbol) _

/-- The texts of tokens that cover a text are the text with its blanks collapsed. -/
theorem Covers.flatMap_text {left text : List Char} {tokens : List Token}
    (covers : Covers left text tokens) : tokens.flatMap Token.text = collapse text := by
  induction covers with
  | nothing => rfl
  | token spells _ _ inner => rw [List.flatMap_cons, inner, collapse_spells spells]

namespace Lexer

/-- No run of a text goes on from the text to its left. -/
def Apart (left text : List Char) : Prop :=
  ∀ kind : CharKind, (∀ c ∈ left.getLast?, kind.keeps c = false) ∨
    ∀ c ∈ text.head?, kind.keeps c = false

/-- After a token a run may begin that the token does not prolong. -/
theorem apart_of_spells {token : Token} {left stretch following : List Char} {c : Char}
    (spells : token.Spells (c :: stretch) following) :
    Apart (if token.isMark then [] else left ++ c :: stretch) following := by
  intro kind
  by_cases marks : token.isMark = true
  · rw [if_pos marks]
    exact Or.inl fun _ found => by cases found
  by_cases same : token.kind? = some kind
  · exact Or.inr (spells.of_kind? same).ends
  rw [if_neg marks]
  refine Or.inl fun d found => ?_
  have member : d ∈ c :: stretch := by
    rw [List.getLast?_append, List.getLast?_eq_some_getLast (List.cons_ne_nil c stretch)] at found
    obtain rfl : _ = d := Option.some.inj found
    exact List.getLast_mem _
  cases isRun : token.kind? with
  | none =>
    have special := spells.of_kind?_none isRun (Bool.eq_false_iff.mpr marks) d member
    exact CharKind.keeps_false_of_isSpecial special kind
  | some other =>
    refine Bool.eq_false_iff.mpr fun keeps => same ?_
    rw [isRun, CharKind.eq_of_keeps keeps ((spells.of_kind? isRun).only d member)]

/-- **The tokens of a text without payloads cover it.** -/
theorem covers_lexemes {left text : List Char} (apart : Apart left text)
    (ordinary : ∀ piece ∈ lexemes text, ∃ token, piece = .token token) :
    Covers left text ((lexemes text).filterMap Lexeme.token?) := by
  fun_induction lexemes text generalizing left with
  | case1 => exact .nothing
  | case2 c rest inner =>
    obtain ⟨token, isToken⟩ := ordinary _ List.mem_cons_self
    have later : ∀ piece ∈ lexemes (scan c rest).2, ∃ token, piece = .token token :=
      fun piece member => ordinary piece (List.mem_cons_of_mem _ member)
    have scanned : scan c rest = (.token token, (scan c rest).2) := by rw [← isToken]
    obtain ⟨stretch, split, spells⟩ := spells_of_scan scanned
    generalize (scan c rest).2 = following at *
    subst split
    rw [isToken]
    rw [← List.cons_append]
    refine .token spells ?_ (inner ?_ later)
    · intro kind isRun
      have kept := (spells.of_kind? isRun).only c List.mem_cons_self
      rcases apart kind with begins | others
      · exact begins
      · cases kept.symm.trans (others c rfl)
    · exact apart_of_spells spells

/-! ### The parts of a text -/

theorem splitAtCommand_append_snd (text : List Char) :
    (splitAtCommand text).1 ++ (splitAtCommand text).2 = text := by
  induction text with
  | nil => rfl
  | cons c rest inner =>
    rw [splitAtCommand]
    split
    · rfl
    · rw [List.cons_append, inner]

/-- No marker of a command stands before the first one. -/
theorem not_isInfix_splitAtCommand (sign : Sign) (text : List Char) :
    ¬[sign.char, '!'] <:+: (splitAtCommand text).1 := by
  induction text with
  | nil => exact fun within => by cases List.infix_nil.mp within
  | cons c rest inner =>
    rw [splitAtCommand]
    split
    · exact fun within => by cases List.infix_nil.mp within
    · next notHere =>
      intro within
      rcases List.infix_cons_iff.mp within with starts | later
      · obtain ⟨more, written⟩ := starts
        obtain ⟨rfl, taken⟩ := List.cons.inj written
        have whole := splitAtCommand_append_snd rest
        rw [← taken] at whole
        refine notHere ?_
        rw [← whole]
        cases sign <;> rfl
      · exact inner later

theorem lexemes_command (sign : Sign) (written : List Char) :
    lexemes (sign.char :: '!' :: written) = [.command (Text.trim written)] := by
  rw [lexemes_cons, scan_commandMark, lexemes]

/-- A character that begins a payload with the next one is a sign. -/
theorem exists_sign_of_scan (c : Char) (rest : List Char)
    (payload : ∀ token, (scan c rest).1 ≠ .token token) : ∃ sign : Sign, sign.char = c := by
  cases signed : Sign.ofChar? c with
  | some sign => exact ⟨sign, Sign.char_of_ofChar? signed⟩
  | none =>
    unfold scan at payload
    split at payload
    · exact absurd rfl (payload .space)
    · rw [signed] at payload
      dsimp only at payload
      split at payload <;> exact absurd rfl (payload _)

/-- What a text consists of: ordinary text, an extra payload and a command, each with its marker
unless it is missing. -/
structure IsParts (text plain extra command : List Char) : Prop where
  whole : text = plain ++ extra ++ command
  ordinary : ∀ piece ∈ lexemes plain, ∃ token, piece = .token token
  extra_marked : extra ≠ [] → ∃ sign : Sign, [sign.char, '+'] <+: extra
  extra_free : ∀ sign : Sign, ¬[sign.char, '!'] <:+: extra.drop 2
  command_marked : command ≠ [] → ∃ sign : Sign, [sign.char, '!'] <+: command
  pieces : lexemes text = lexemes plain ++
    (if extra = [] then [] else [.extra (Text.trim (extra.drop 2))]) ++
    (if command = [] then [] else [.command (Text.trim (command.drop 2))])

/-- A text that is empty or begins with the marker of a command has one piece at most. -/
theorem lexemes_of_command {text : List Char} (starts : text = [] ∨ startsCommand text = true) :
    lexemes text = if text = [] then [] else [.command (Text.trim (text.drop 2))] := by
  rcases starts with rfl | starts
  · rw [lexemes, if_pos rfl]
  · obtain ⟨sign, written, rfl⟩ := exists_sign_of_startsCommand starts
    rw [lexemes_command, if_neg (List.cons_ne_nil _ _)]
    rfl

theorem IsParts.cons {c : Char} {stretch following plain extra command : List Char} {token : Token}
    (spells : token.Spells (c :: stretch) following)
    (parts : IsParts following plain extra command) :
    IsParts (c :: stretch ++ following) (c :: stretch ++ plain) extra command := by
  have cut : plain.head? = following.head? ∨ plain = [] := by
    cases written : plain with
    | nil => exact Or.inr rfl
    | cons d more =>
      rw [parts.whole, written]
      exact Or.inl rfl
  have begins := lexemes_of_spells (spells.before cut)
  refine ⟨?_, ?_, parts.extra_marked, parts.extra_free, parts.command_marked, ?_⟩
  · rw [parts.whole, List.append_assoc, List.append_assoc, List.append_assoc]
  · intro piece member
    rw [begins] at member
    rcases List.mem_cons.mp member with rfl | member
    · exact ⟨token, rfl⟩
    · exact parts.ordinary piece member
  · rw [begins, lexemes_of_spells spells, parts.pieces]
    rfl

/-- **Every text has its three parts**, and its pieces are those of the parts. -/
theorem exists_parts (text : List Char) :
    ∃ plain extra command, IsParts text plain extra command := by
  fun_induction lexemes text with
  | case1 => exact ⟨[], [], [], by constructor <;> simp [lexemes]⟩
  | case2 c rest inner =>
    have none : ∀ piece ∈ lexemes [], ∃ token, piece = .token token := by
      rw [lexemes]
      exact fun _ member => absurd member List.not_mem_nil
    rcases scan_cases c rest with ⟨token, following, scanned⟩ | ⟨written, rfl, scanned⟩ |
      ⟨written, rfl, scanned⟩
    · rw [scanned] at inner
      obtain ⟨plain, extra, command, parts⟩ := inner
      obtain ⟨stretch, rfl, spells⟩ := spells_of_scan scanned
      exact ⟨_, extra, command, parts.cons spells⟩
    · obtain ⟨sign, rfl⟩ := exists_sign_of_scan c ('+' :: written) (by simp [scanned])
      have whole := splitAtCommand_append_snd written
      have starts := splitAtCommand_snd written
      refine ⟨[], sign.char :: '+' :: (splitAtCommand written).1, (splitAtCommand written).2,
        ?_, none, fun _ => ⟨sign, _, rfl⟩, fun other => not_isInfix_splitAtCommand other written,
        ?_, ?_⟩
      · rw [List.nil_append, List.cons_append, List.cons_append, whole]
      · intro present
        obtain ⟨other, more, same⟩ :=
          exists_sign_of_startsCommand (starts.resolve_left present)
        exact ⟨other, more, same.symm⟩
      · rw [lexemes_cons, scanned, lexemes_of_command starts, lexemes,
          if_neg (List.cons_ne_nil _ _)]
        rfl
    · obtain ⟨sign, rfl⟩ := exists_sign_of_scan c ('!' :: written) (by simp [scanned])
      refine ⟨[], [], sign.char :: '!' :: written, rfl, none, fun present => absurd rfl present,
        fun _ within => ?_, fun _ => ⟨sign, written, rfl⟩, ?_⟩
      · cases List.infix_nil.mp within
      · rw [lexemes_command, lexemes, if_pos rfl, if_neg (List.cons_ne_nil _ _)]
        rfl

/-! ### A reading of a whole query -/

namespace IsParts

variable {text plain extra command : List Char}

theorem filterMap_ordinary {α : Type} (parts : IsParts text plain extra command)
    (payload? : Lexeme → Option α) (none : ∀ token, payload? (.token token) = none) :
    (lexemes plain).filterMap payload? = [] := by
  refine List.filterMap_eq_nil_iff.mpr fun piece member => ?_
  obtain ⟨token, rfl⟩ := parts.ordinary piece member
  exact none token

theorem findSome?_ordinary {α : Type} (parts : IsParts text plain extra command)
    (payload? : Lexeme → Option α) (none : ∀ token, payload? (.token token) = none) :
    (lexemes plain).findSome? payload? = Option.none := by
  refine List.findSome?_eq_none_iff.mpr fun piece member => ?_
  obtain ⟨token, rfl⟩ := parts.ordinary piece member
  exact none token

/-- The tokens of a text are those of its ordinary part, and a space for the extra payload. -/
theorem tokens (parts : IsParts text plain extra command) :
    (lexemes text).filterMap Lexeme.token? =
      (lexemes plain).filterMap Lexeme.token? ++ if extra = [] then [] else [.space] := by
  rw [parts.pieces, List.append_assoc, List.filterMap_append]
  refine congrArg _ ?_
  split_ifs <;> rfl

/-- At most one extra payload is met. -/
theorem length_extras (parts : IsParts text plain extra command) :
    ((lexemes text).filterMap Lexeme.extra?).length ≤ 1 := by
  rw [parts.pieces, List.append_assoc, List.filterMap_append,
    parts.filterMap_ordinary Lexeme.extra? fun _ => rfl, List.nil_append]
  split_ifs
  exacts [Nat.zero_le 1, Nat.zero_le 1, Nat.le_refl 1, Nat.le_refl 1]

theorem findSome?_extra (parts : IsParts text plain extra command) :
    (lexemes text).findSome? Lexeme.extra? =
      if extra = [] then none else some (Text.trim (extra.drop 2)) := by
  rw [parts.pieces, List.append_assoc, List.findSome?_append,
    parts.findSome?_ordinary Lexeme.extra? fun _ => rfl, Option.none_or]
  split_ifs <;> rfl

theorem findSome?_command (parts : IsParts text plain extra command) :
    (lexemes text).findSome? Lexeme.command? =
      if command = [] then none else some (Text.trim (command.drop 2)) := by
  rw [parts.pieces, List.append_assoc, List.findSome?_append,
    parts.findSome?_ordinary Lexeme.command? fun _ => rfl, Option.none_or]
  split_ifs <;> rfl

end IsParts

end Lexer

namespace Cursor

open Lexer (lexemes scan IsParts exists_parts)

/-- **A reading loses nothing of a query.** It answers the tokens of the ordinary text, which cover
that text, and a space for the extra payload; the payloads are the rest without their markers and the
blanks at their ends. No second extra payload is ever met. -/
theorem readAll_covers (query : String) :
    (∃ plain extra command : List Char, query.toList = plain ++ extra ++ command ∧
      (ofText (String.ofList plain)).readAll.2.extra = none ∧
      (ofText (String.ofList plain)).readAll.2.command = none ∧
      (extra = [] ∨ (∃ sign : Sign, [sign.char, '+'] <+: extra) ∧
        ∀ sign : Sign, ¬[sign.char, '!'] <:+: extra.drop 2) ∧
      (command = [] ∨ ∃ sign : Sign, [sign.char, '!'] <+: command) ∧
      (ofText query).readAll.1 = (ofText (String.ofList plain)).readAll.1 ++
        (if extra = [] then [] else [.space]) ∧
      (ofText query).readAll.2.extra =
        (if extra = [] then none else some (Text.trim (extra.drop 2))) ∧
      (ofText query).readAll.2.command =
        (if command = [] then none else some (Text.trim (command.drop 2))) ∧
      (ofText (String.ofList plain)).readAll.1.flatMap Token.text = collapse plain ∧
      Covers [] plain (ofText (String.ofList plain)).readAll.1) ∧
    ((lexemes query.toList).filterMap Lexeme.extra?).length ≤ 1 ∧
    ∀ steps c rest text, (lexed query steps).rest = c :: rest →
      (scan c rest).1 = .extra text → (lexed query steps).extra = none := by
  obtain ⟨plain, extra, command, parts⟩ := exists_parts query.toList
  have read : ∀ text : String, (ofText text).readAll.1 =
        (lexemes text.toList).filterMap Lexeme.token? ∧
      (ofText text).readAll.2.extra = (lexemes text.toList).findSome? Lexeme.extra? ∧
      (ofText text).readAll.2.command = (lexemes text.toList).findSome? Lexeme.command? := by
    intro text
    obtain ⟨_, _, extra, command⟩ := drain_ofText text
    rw [readAll_ofText]
    exact ⟨rfl, extra, command⟩
  obtain ⟨tokens, extras, commands⟩ := read query
  obtain ⟨tokens', extras', commands'⟩ := read (String.ofList plain)
  rw [String.toList_ofList] at tokens' extras' commands'
  have covers : Covers [] plain ((lexemes plain).filterMap Lexeme.token?) :=
    Lexer.covers_lexemes (fun _ => Or.inl fun _ found => by cases found) parts.ordinary
  refine ⟨⟨plain, extra, command, parts.whole, ?_⟩, parts.length_extras,
    fun _ _ _ _ => extra_eq_none⟩
  rw [tokens, extras, commands, tokens', extras', commands']
  exact ⟨parts.findSome?_ordinary _ fun _ => rfl, parts.findSome?_ordinary _ fun _ => rfl,
    or_iff_not_imp_left.mpr fun present => ⟨parts.extra_marked present, parts.extra_free⟩,
    or_iff_not_imp_left.mpr parts.command_marked, parts.tokens, parts.findSome?_extra,
    parts.findSome?_command, covers.flatMap_text, covers⟩

end Cursor

end TaskQuery
