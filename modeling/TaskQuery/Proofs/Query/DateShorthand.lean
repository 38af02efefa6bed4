/-
**Dates behind a sign.**

A sign and a date literal require that a task is due at that time, and after a plus sign the literal
may go on with a frequency. Where something other than a frequency follows the plus sign, the name is
a tag or free text; and a comparison or terminator right after the literal keeps it from being a date,
so that it is a column, a tag or free text, whatever else the query says.

* `Vantage.ofShorthand?_eq_none`: no priority shorthand is a date.
* `Item.due?_date`, `Item.due?_repeated`: the names that mean a date.
* `Item.items_unfinished`: a name before a comparison or terminator is no date.
* `ofText_date`: a text of a sign and a date, alone and with what may follow.
-/

import TaskQuery.Proofs.Calendar.Marks
import TaskQuery.Proofs.Frequency
import TaskQuery.Proofs.Query.Writing

namespace TaskQuery

open Calendar (Instant Vantage)

/-! ### Shorthands of priorities are no dates -/

namespace Calendar.Vantage

variable {vantage : Vantage}

/-- A literal with a letter is a weekday or nothing. -/
theorem readTrimmed?_of_letter {literal : List Char} (lettered : literal.any Char.isAlpha = true) :
    vantage.readTrimmed? literal = vantage.readWeekday? literal := by
  obtain ⟨c, inside, letter⟩ := List.any_eq_true.mp lettered
  have none : patterns.findSome? (vantage.readPattern? literal) = none := by
    refine List.findSome?_eq_none_iff.mpr fun pattern listed => ?_
    have unread : pattern.read? literal = none := by
      refine Option.eq_none_iff_forall_ne_some.mpr fun fields reads => ?_
      have marked : c ∈ marksOf literal := List.mem_filter.mpr ⟨inside, isMark_of_isAlpha letter⟩
      have digits :=
        isAlpha_false_of_mem_markings listed (Pattern.marksOf_mem_markings reads) marked
      cases letter.symm.trans digits
    rw [readPattern?, unread]
    rfl
  rw [readTrimmed?, none, Option.none_or]

/-- A date is no shorthand of a priority. -/
theorem ofShorthand?_eq_none {literal : String} {time : Instant}
    (reads : vantage.read literal = .ok time) : Priority.ofShorthand? literal = none := by
  have apart : ∀ entry ∈ Priority.shorthands, entry.1.toList.any Char.isAlpha = true ∧
      Text.trim entry.1.toList = entry.1.toList ∧
      Weekday.ofName? (Text.trim (splitAtComma entry.1.toList).1) = none := by decide +kernel
  refine Option.eq_none_iff_forall_ne_some.mpr fun priority found => ?_
  obtain ⟨before, after, split, _⟩ := List.lookup_eq_some_iff.mp found
  have listed : (literal, priority) ∈ Priority.shorthands :=
    split ▸ List.mem_append_right before List.mem_cons_self
  obtain ⟨lettered, trimmed, unnamed⟩ := apart _ listed
  have unread : vantage.readTrimmed? literal.toList = none := by
    rw [readTrimmed?_of_letter lettered, readWeekday?, unnamed, Option.bind_none]
  rw [read, trimmed] at reads
  dsimp only at reads
  rw [unread] at reads
  split at reads <;> cases reads

/-- A date is written with some character. -/
theorem ne_nil_of_read {literal : String} {time : Instant}
    (reads : vantage.read literal = .ok time) : literal.toList ≠ [] := by
  intro none
  rw [read, none] at reads
  cases reads

end Calendar.Vantage

/-- No shorthand of a priority has a plus sign. -/
theorem Priority.ofShorthand?_eq_none_of_plus {name : String} (plus : '+' ∈ name.toList) :
    ofShorthand? name = none := by
  have plain : ∀ entry ∈ shorthands, '+' ∉ entry.1.toList := by decide
  refine Option.eq_none_iff_forall_ne_some.mpr fun priority found => ?_
  obtain ⟨before, after, split, _⟩ := List.lookup_eq_some_iff.mp found
  exact plain (name, priority) (split ▸ List.mem_append_right before List.mem_cons_self) plus

/-! ### Names that mean a date -/

namespace Item

variable {vantage : Vantage} {date : String} {time : Instant}

/-- A date without a plus sign means itself. -/
theorem due?_date (noPlus : '+' ∉ date.toList) (reads : vantage.read date = .ok time) :
    due? vantage date.toList = some (.isDue date time none) := by
  have whole : ∀ c ∈ date.toList, (c != '+') = true := fun c member =>
    bne_iff_ne.mpr (ne_of_mem_of_not_mem member noPlus)
  rw [due?, List.dropWhile_eq_nil_iff.mpr whole, List.takeWhile_eq_self_iff.mpr whole,
    String.ofList_toList, Vantage.read?_eq_some.mpr reads]
  rfl

/-- A date and a plus sign mean a date if a frequency follows, and nothing otherwise. -/
theorem due?_repeated (noPlus : '+' ∉ date.toList) (reads : vantage.read date = .ok time)
    (repetition : String) :
    due? vantage (date ++ "+" ++ repetition).toList =
      (Frequency.ofText? repetition).map fun frequency => .isDue date time (some frequency) := by
  have whole : ∀ c ∈ date.toList, (c != '+') = true := fun c member =>
    bne_iff_ne.mpr (ne_of_mem_of_not_mem member noPlus)
  have spelled : (date ++ "+" ++ repetition).toList = date.toList ++ '+' :: repetition.toList := by
    simp
  have before : (date.toList ++ '+' :: repetition.toList).takeWhile (· != '+') = date.toList := by
    rw [List.takeWhile_append_of_pos whole]
    exact List.append_nil _
  have after : (date.toList ++ '+' :: repetition.toList).dropWhile (· != '+') =
      '+' :: repetition.toList := by
    rw [List.dropWhile_append_of_pos whole]
    rfl
  rw [due?, spelled, before, after, String.ofList_toList, Vantage.read?_eq_some.mpr reads]
  dsimp only
  rw [String.ofList_toList]
  cases Frequency.ofText? repetition <;> rfl

/-- A date stands for itself and for no priority. -/
theorem shorthand?_date (noPlus : '+' ∉ date.toList) (reads : vantage.read date = .ok time) :
    shorthand? vantage date.toList = some (.isDue date time none) := by
  rw [shorthand?, priority?, String.ofList_toList, Vantage.ofShorthand?_eq_none reads,
    due?_date noPlus reads]
  rfl

theorem shorthand?_repeated (noPlus : '+' ∉ date.toList) (reads : vantage.read date = .ok time)
    (repetition : String) :
    shorthand? vantage (date ++ "+" ++ repetition).toList =
      (Frequency.ofText? repetition).map fun frequency => .isDue date time (some frequency) := by
  have plus : '+' ∈ (date ++ "+" ++ repetition).toList := by simp
  rw [shorthand?, priority?, String.ofList_toList, Priority.ofShorthand?_eq_none_of_plus plus,
    due?_repeated noPlus reads]
  rfl

/-! ### A sign and a name -/

/-- A name with no sign after it is free text. -/
theorem next_unmarked (name : List Char) {rest : List Token}
    (unmarked : ∀ sign, rest.head? ≠ some (.tagMark sign)) :
    next vantage (.name name) rest = (.word name, rest) := by
  unfold next
  split
  · next same => cases same
  · next same => cases same
  · next same => cases same
  · next sign _ _ _ => exact absurd rfl (unmarked sign)
  · rfl

/-- A name that stands for a condition is the only item of its tokens. -/
theorem items_shorthand (sign : Sign) {name : List Char} {condition : Condition}
    (found : shorthand? vantage name = some condition) :
    items vantage [.tagMark sign, .name name] = [.require condition false] := by
  have next : next vantage (.tagMark sign) [.name name] = (.require condition false, []) := by
    show afterSign vantage sign name [] = _
    have ended : atBoundary [] = true := rfl
    rw [afterSign, if_neg (by decide), if_pos ended, found]
  rw [items, next, items]

/-- A name that stands for nothing is a tag, or free text if it cannot open a tag. -/
theorem items_name (sign : Sign) {name : List Char} (unknown : shorthand? vantage name = none) :
    items vantage [.tagMark sign, .name name] =
      if opensTag name then [.require (.tag (String.ofList name)) false]
      else [.word [sign.char], .word name] := by
  have next : next vantage (.tagMark sign) [.name name] =
      if opensTag name then (.require (.tag (String.ofList name)) false, [])
      else (.word [sign.char], [.name name]) := by
    show afterSign vantage sign name [] = _
    have ended : atBoundary [] = true := rfl
    rw [afterSign, if_neg (by decide), if_pos ended, unknown]
    rfl
  have word : Item.next vantage (.name name) [] = (.word name, []) :=
    next_unmarked name fun sign none => by cases none
  rw [items, next]
  split
  · rw [items]
  · rw [items, word, items]

/-! ### Names that something keeps from being a date -/

theorem tagged_name (name : List Char) (rest : List Token) :
    (tagged name rest).1.name = String.ofList name := by
  unfold tagged
  dsimp only
  split <;> rfl

/-- Some items begin with a sign and a name that were read as no date: as a column, a tag of that name
or free text. Other items follow. -/
def BeginsUndated (sign : Sign) (name : String) (found later : List Item) : Prop :=
  found = .column name :: later ∨
    (∃ condition shown, condition.name = name ∧ found = .require condition shown :: later) ∨
      found = .word [sign.char] :: .word name.toList :: later

/-- **A name before a comparison or terminator** is no date. -/
theorem items_unfinished (vantage : Vantage) (sign : Sign) (name : String) {token : Token}
    (ends : atBoundary [token] = false) (rest : List Token) :
    ∃ after, after <:+ token :: rest ∧
      BeginsUndated sign name
        (items vantage (.tagMark sign :: .name name.toList :: token :: rest))
        (items vantage after) := by
  have unfinished : atBoundary (token :: rest) = false := by
    cases token <;> first | rfl | cases ends
  have next : next vantage (.tagMark sign) (.name name.toList :: token :: rest) =
      afterSign vantage sign name.toList (token :: rest) := rfl
  rw [items, next, afterSign, unfinished, if_neg Bool.false_ne_true, String.ofList_toList]
  split
  · exact ⟨rest, List.suffix_cons token rest, Or.inl rfl⟩
  · dsimp only
    split
    · have named := tagged_name name.toList (token :: rest)
      rw [String.ofList_toList] at named
      exact ⟨_, tagged_suffix name.toList (token :: rest), Or.inr (Or.inl ⟨_, _, named, rfl⟩)⟩
    · -- The sign is free text, and the name after it is a word of its own.
      have word : Item.next vantage (.name name.toList) (token :: rest) =
          (.word name.toList, token :: rest) :=
        next_unmarked name.toList fun sign marked => by
          cases marked
          cases ends
      refine ⟨token :: rest, List.suffix_refl _, Or.inr (Or.inr ?_)⟩
      rw [items, word]

end Item

/-! ### Texts of a sign and a date -/

/-- A date can stand after a sign: its characters are those of a name and no plus signs, and it does
not begin with the colon that would make the sign the marker of an option. -/
structure FollowsSign (date : String) : Prop where
  named : ∀ c ∈ date.toList, isTagChar c = true
  noPlus : '+' ∉ date.toList
  noColon : date.toList.head? ≠ some ':'

theorem isTagChar_of_isDigit {c : Char} (digit : c.isDigit = true) : isTagChar c = true := by
  have listed : ∀ value < 10, isTagChar (Nat.digitChar value) = true := by decide +kernel
  obtain ⟨single, spelled⟩ := Text.digit_of_isDigit digit
  exact spelled ▸ listed _ single

/-- A frequency is written in characters of names. -/
theorem Frequency.isTagChar_text (frequency : Frequency) :
    ∀ c ∈ frequency.text.toList, isTagChar c = true := by
  have words : ∀ word ∈ ["daily", "weekly", "biweekly", "monthly", "yearly"],
      word.toList.all isTagChar = true := by decide +kernel
  cases frequency with
  | days count positive fits =>
    intro c member
    have digit : c ∈ Nat.toDigits 10 count := Nat.toList_repr ▸ member
    exact isTagChar_of_isDigit (Nat.isDigit_of_mem_toDigits (by decide) (by decide) digit)
  | _ => exact List.all_eq_true.mp (words _ (by decide))

namespace FollowsSign

variable {date : String} (follows : FollowsSign date) (written : date.toList ≠ []) (sign : Sign)

include follows written

/-- A date does not begin as the name of the field of trigger times. -/
theorem append_ne_when (more : String) : date ++ more ≠ ":when" := by
  intro same
  obtain ⟨c, rest, spelled⟩ := List.exists_cons_of_ne_nil written
  have first : (date ++ more).toList.head? = some ':' := by rw [same]; rfl
  rw [String.toList_append, spelled] at first
  exact follows.noColon (by rw [spelled]; exact first)

/-- A sign and a name that begins with a date are two tokens. -/
theorem isLexed (more : String) (named : ∀ c ∈ more.toList, isTagChar c = true)
    {following : List Char} (ends : ∀ c ∈ following.head?, isSpecial c = true) :
    Lexer.IsLexed (sign.char.toString ++ (date ++ more)).toList following
      [.tagMark sign, .name (date ++ more).toList] := by
  have spelled : (sign.char.toString ++ (date ++ more)).toList =
      (Token.tagMark sign).text ++ (date ++ more).toList := by simp [Token.text]
  obtain ⟨c, rest, begins⟩ := List.exists_cons_of_ne_nil written
  have whole : (date ++ more).toList = c :: (rest ++ more.toList) := by
    rw [String.toList_append, begins, List.cons_append]
  have isName : isTagName (date ++ more).toList = true := by
    refine Bool.and_eq_true_iff.mpr ⟨by rw [whole]; rfl, List.all_eq_true.mpr fun d member => ?_⟩
    rw [String.toList_append] at member
    exact (List.mem_append.mp member).elim (follows.named d) (named d)
  have apart : ∀ d ∈ (date ++ more).toList.head?, d ≠ ':' ∧ d ≠ '+' := by
    intro d first
    rw [whole] at first
    obtain rfl : c = d := Option.some.inj first
    refine ⟨fun colon => follows.noColon (by rw [begins, colon]; rfl), ?_⟩
    exact fun plus => follows.noPlus (by rw [begins, plus]; exact List.mem_cons_self)
  rw [spelled]
  exact Lexer.isLexed_name (Token.spells_tagMark sign isName apart) isName ends

end FollowsSign

namespace Lexer

theorem atBoundary_of_scanSymbol? {c : Char} {rest following : List Char} {token : Token}
    (scanned : scanSymbol? c rest = some (token, following)) : Item.atBoundary [token] = false := by
  unfold scanSymbol? at scanned
  split at scanned <;> cases scanned <;> rfl

theorem isSpecial_of_stop {c : Char} (stops : c ∈ ['<', '>', '=', '!', '?']) :
    isSpecial c = true :=
  List.all_eq_true.mp (show ['<', '>', '=', '!', '?'].all isSpecial = true by decide) c stops

/-- A text that begins as a comparison or terminator has one as its first token. -/
theorem exists_tokens_of_stop {c : Char} (stops : c ∈ ['<', '>', '=', '!', '?'])
    (rest : List Char) :
    ∃ token later, (lexemes (c :: rest)).filterMap Lexeme.token? = token :: later ∧
      Item.atBoundary [token] = false := by
  have special : isSpecial c = true := isSpecial_of_stop stops
  have visible : Text.isBlank c = false := Bool.eq_false_iff.mpr fun blank => by
    cases special.symm.trans (isSpecial_false_of_isBlank blank)
  have unsigned : Sign.ofChar? c = none := by
    have signs : ['<', '>', '=', '!', '?'].all (fun c => Sign.ofChar? c == none) = true := by decide
    exact beq_iff_eq.mp (List.all_eq_true.mp signs c stops)
  obtain ⟨⟨token, following⟩, scanned⟩ :=
    Option.isSome_iff_exists.mp (scanSymbol?_isSome special unsigned rest)
  have first : (lexemes (c :: rest)).filterMap Lexeme.token? =
      token :: (lexemes following).filterMap Lexeme.token? := by
    rw [lexemes_cons, scan_of_scanSymbol? visible unsigned scanned, List.filterMap_cons]
    rfl
  exact ⟨token, _, first, atBoundary_of_scanSymbol? scanned⟩

end Lexer

section Readings

variable {vantage : Vantage} {date : String} {time : Instant} (follows : FollowsSign date)
  (reads : vantage.read date = .ok time) (sign : Sign)

include follows reads

/-- A sign and a date require that a task is due at the date. -/
theorem read_date :
    Query.read vantage (sign.char.toString ++ date) =
      { included := .all [.isDue date time none], offset := vantage.zone.hours } := by
  have lexed := follows.isLexed (Vantage.ne_nil_of_read reads) sign ""
    (fun c member => by cases member) Writing.isSpecial_unfollowed
  rw [String.append_empty] at lexed
  rw [Query.read_of_isLexed lexed,
    Item.items_shorthand sign (Item.shorthand?_date follows.noPlus reads)]
  rfl

/-- A sign, a date, a plus sign and a frequency require the date with the repetition; a name with
something else after the plus sign is a tag or free text. -/
theorem read_repeated {repetition : String}
    (named : ∀ c ∈ repetition.toList, isTagChar c = true) :
    Query.read vantage (sign.char.toString ++ (date ++ "+" ++ repetition)) =
      match Frequency.ofText? repetition with
      | some frequency =>
        { included := .all [.isDue date time (some frequency)], offset := vantage.zone.hours }
      | none =>
        if opensTag date.toList then
          { included := .all [.tag (date ++ "+" ++ repetition)], offset := vantage.zone.hours }
        else
          { text := sign.char.toString ++ (date ++ "+" ++ repetition)
            offset := vantage.zone.hours } := by
  have written := Vantage.ne_nil_of_read reads
  have named' : ∀ c ∈ ("+" ++ repetition).toList, isTagChar c = true := by
    intro c member
    rw [String.toList_append] at member
    rcases List.mem_append.mp member with plus | member
    · obtain rfl : c = '+' := List.mem_singleton.mp plus
      decide +kernel
    · exact named c member
  have lexed := follows.isLexed written sign ("+" ++ repetition) named' Writing.isSpecial_unfollowed
  have means := Item.shorthand?_repeated follows.noPlus reads repetition
  have joined : date ++ ("+" ++ repetition) = date ++ "+" ++ repetition := String.append_assoc.symm
  rw [joined] at lexed
  rw [Query.read_of_isLexed lexed]
  cases repeats : Frequency.ofText? repetition with
  | some frequency =>
    rw [repeats] at means
    rw [Item.items_shorthand sign means]
    rfl
  | none =>
    rw [repeats] at means
    have opens : opensTag (date ++ "+" ++ repetition).toList = opensTag date.toList := by
      obtain ⟨c, rest, spelled⟩ := List.exists_cons_of_ne_nil written
      simp [spelled, opensTag]
    rw [Item.items_name sign means, opens, String.ofList_toList]
    dsimp only
    split
    · rfl
    · have words : Item.words [.word [sign.char], .word (date ++ "+" ++ repetition).toList] =
          [(sign.char.toString ++ (date ++ "+" ++ repetition)).toList] := by
        simp [Item.words, Item.wordsFrom, Item.keepWord]
      rw [Query.ofItems, words, List.intercalate_singleton, String.ofList_toList]
      rfl

end Readings

/-- **A sign and a date require that a task is due at the date**, with a repetition if a plus sign
and a frequency follow, and nothing else. A date with something other than a frequency after the plus
sign is a tag or free text. A date that a comparison or terminator follows at once is a column, a tag
or free text, whatever comes after. -/
theorem ofText_date (hours : Int) (now : Instant) (vantage : Vantage) (sign : Sign) (date : String)
    (time : Instant) (valid : Vantage.ofOffset hours now = .ok vantage) (follows : FollowsSign date)
    (reads : vantage.read date = .ok time) :
    Query.ofText hours now (sign.char.toString ++ date) =
        .ok { included := .all [.isDue date time none], offset := hours } ∧
      (∀ frequency : Frequency,
        Query.ofText hours now (sign.char.toString ++ (date ++ "+" ++ frequency.text)) =
          .ok { included := .all [.isDue date time (some frequency)], offset := hours }) ∧
      (∀ repetition : String, (∀ c ∈ repetition.toList, isTagChar c = true) →
        (∀ frequency : Frequency, ¬frequency.IsWritten repetition) →
        date ++ "+" ++ repetition ≠ ":when" ∧
          Query.ofText hours now (sign.char.toString ++ (date ++ "+" ++ repetition)) =
            .ok (if opensTag date.toList then
                { included := .all [.tag (date ++ "+" ++ repetition)], offset := hours }
              else
                { text := sign.char.toString ++ (date ++ "+" ++ repetition), offset := hours })) ∧
      date ≠ ":when" ∧
      ∀ c ∈ ['<', '>', '=', '!', '?'], ∀ rest : String,
        let tokens := (tokenize (sign.char.toString ++ date ++ c.toString ++ rest)).tokens
        ∃ later after, tokens = .tagMark sign :: .name date.toList :: later ∧ after <:+ later ∧
          Item.BeginsUndated sign date (items vantage tokens) (items vantage after) := by
  have written := Vantage.ne_nil_of_read reads
  have offset : vantage.zone.hours = hours := (Vantage.ofOffset_eq_ok.mp valid).1
  have noDate : ∀ c ∈ "".toList, isTagChar c = true := fun c member => by cases member
  refine ⟨?_, fun frequency => ?_, fun repetition named other => ⟨?_, ?_⟩, ?_, ?_⟩
  · rw [Query.ofText_eq valid, read_date follows reads, offset]
  · rw [Query.ofText_eq valid, read_repeated follows reads sign frequency.isTagChar_text,
      Frequency.ofText?_text, offset]
  · rw [String.append_assoc]
    exact follows.append_ne_when written _
  · have unread : Frequency.ofText? repetition = none :=
      Option.eq_none_iff_forall_ne_some.mpr fun frequency found =>
        other frequency (Frequency.ofText?_eq_some_iff.mp found)
    rw [Query.ofText_eq valid, read_repeated follows reads sign named, unread, offset]
  · simpa using follows.append_ne_when written ""
  · intro c stops rest tokens
    obtain ⟨token, later, found, ends⟩ := Lexer.exists_tokens_of_stop stops rest.toList
    have special : ∀ d ∈ (c :: rest.toList).head?, isSpecial d = true :=
      fun d first => Option.some.inj first ▸ Lexer.isSpecial_of_stop stops
    have lexed := follows.isLexed written sign "" noDate special
    have split : tokens = .tagMark sign :: .name date.toList :: token :: later := by
      have whole : (sign.char.toString ++ date ++ c.toString ++ rest).toList =
          (sign.char.toString ++ date).toList ++ c :: rest.toList := by simp
      rw [String.append_empty] at lexed
      show (Lexer.lexemes _).filterMap _ = _
      rw [whole, lexed, List.filterMap_append, found]
      rfl
    obtain ⟨after, within, undated⟩ := Item.items_unfinished vantage sign date ends later
    exact ⟨token :: later, after, split, within, split ▸ undated⟩

/-- A Friday morning, once, every fourteen days, with a number of days that is none, and compared with
a day that is a date of its own. -/
theorem ofText_date_friday :
    let vantage : Vantage := { now := Instant.unixEpoch, zone := ⟨2, by decide⟩ }
    let friday : Instant := ⟨115200000000000, by decide⟩
    let fortnight : Frequency := .days 14 (by decide) (by decide)
    let tokens := (tokenize "#fri,10:00>#sat").tokens
    Vantage.ofOffset 2 Instant.unixEpoch = .ok vantage ∧ FollowsSign "fri,10:00" ∧
      vantage.read "fri,10:00" = .ok friday ∧
      Query.ofText 2 Instant.unixEpoch "#fri,10:00" =
        .ok { included := .all [.isDue "fri,10:00" friday none], offset := 2 } ∧
      Query.ofText 2 Instant.unixEpoch "#fri,10:00+14" =
        .ok { included := .all [.isDue "fri,10:00" friday (some fortnight)], offset := 2 } ∧
      Query.ofText 2 Instant.unixEpoch "#fri,10:00+0" =
        .ok { included := .all [.tag "fri,10:00+0"], offset := 2 } ∧
      ∃ later after, tokens = .tagMark .hash :: .name "fri,10:00".toList :: later ∧
        after <:+ later ∧
        Item.BeginsUndated .hash "fri,10:00" (items vantage tokens) (items vantage after) := by
  intro vantage friday fortnight tokens
  have valid : Vantage.ofOffset 2 Instant.unixEpoch = .ok vantage := by rfl
  have follows : FollowsSign "fri,10:00" :=
    ⟨List.all_eq_true.mp (by decide +kernel), by decide, by decide⟩
  have reads : vantage.read "fri,10:00" = .ok friday := by decide +kernel
  have unwritten (frequency : Frequency) : ¬frequency.IsWritten "0" := fun isWritten => by
    have none : Frequency.ofText? "0" = none := by decide
    cases none.symm.trans (Frequency.ofText?_eq_some_iff.mpr isWritten)
  obtain ⟨alone, repeated, other, _, stopped⟩ :=
    ofText_date 2 Instant.unixEpoch vantage .hash "fri,10:00" friday valid follows reads
  exact ⟨valid, follows, reads, alone, repeated fortnight,
    (other "0" (List.all_eq_true.mp (by decide +kernel)) unwritten).2,
    stopped '>' (by decide) "#sat"⟩

end TaskQuery
