/-
**A text with its signs doubled is free text.**

A doubled sign stands for the sign itself and begins no marker, whatever is next to it. So a text
without comparisons and terminators, once its signs are doubled, is read as a query of nothing but
free text: the words of the text, each as it was written, with one space between them.

* `escapeSigns`: a text with its signs doubled.
* `Lexer.exists_free`: its tokens, which begin no item but words and spaces.
* `intercalate_words`: words with one space between them are a text with its blanks collapsed.
* `ofText_escapeSigns`: its query.
-/

import TaskQuery.Proofs.Query.Concatenation
import TaskQuery.Proofs.Token.Covering

namespace TaskQuery

open Calendar (Instant Vantage)

/-! ### Doubled signs -/

/-- A text with each of its signs written twice. -/
def doubleSigns (text : List Char) : List Char :=
  text.flatMap fun c => if c = '#' ∨ c = '@' then [c, c] else [c]

/-- A text in which signs stand for themselves. -/
def escapeSigns (text : String) : String :=
  String.ofList (doubleSigns text.toList)

/-- A special character that begins no comparison and is no terminator is a sign. -/
theorem Sign.isSome_of_isSpecial {c : Char} (special : isSpecial c = true)
    (harmless : c ∉ ['!', '?', '<', '>', '=']) : (Sign.ofChar? c).isSome = true := by
  unfold isSpecial at special
  split at special
  · rfl
  · rfl
  all_goals first | exact absurd (by decide) harmless | cases special

theorem doubleSigns_sign (sign : Sign) (rest : List Char) :
    doubleSigns (sign.char :: rest) = [sign.char, sign.char] ++ doubleSigns rest := by
  cases sign <;> rfl

theorem doubleSigns_append {stretch : List Char}
    (unsigned : ∀ c ∈ stretch, Sign.ofChar? c = none) (rest : List Char) :
    doubleSigns (stretch ++ rest) = stretch ++ doubleSigns rest := by
  induction stretch with
  | nil => rfl
  | cons c stretch inner =>
    have single : ¬(c = '#' ∨ c = '@') := by
      rintro (rfl | rfl) <;> cases unsigned _ List.mem_cons_self
    rw [List.cons_append, doubleSigns, List.flatMap_cons, if_neg single]
    exact congrArg (c :: ·) (inner fun d member => unsigned d (List.mem_cons_of_mem c member))

/-- Doubling keeps the first character. -/
theorem head?_doubleSigns (text : List Char) : (doubleSigns text).head? = text.head? := by
  cases text with
  | nil => rfl
  | cons c rest =>
    rw [doubleSigns, List.flatMap_cons]
    split <;> rfl

/-! ### Words between blanks -/

namespace Item

/-- A character of free text: a blank ends a word, any other character goes on with it. -/
def ofChar (c : Char) : Item :=
  if Text.isBlank c then space else word [c]

theorem wordsFrom_visible {stretch : List Char}
    (visible : ∀ c ∈ stretch, Text.isBlank c = false) (begun : List Char) (items : List Item) :
    wordsFrom begun (stretch.map ofChar ++ items) = wordsFrom (begun ++ stretch) items := by
  induction stretch generalizing begun with
  | nil => rw [List.map_nil, List.nil_append, List.append_nil]
  | cons c stretch inner =>
    have later := inner (fun d member => visible d (List.mem_cons_of_mem c member)) (begun ++ [c])
    have first : ofChar c = word [c] :=
      if_neg (Bool.eq_false_iff.mp (visible c List.mem_cons_self))
    rw [List.map_cons, List.cons_append, first, wordsFrom, later, List.append_assoc,
      List.singleton_append]

theorem wordsFrom_blanks {stretch : List Char} (written : stretch ≠ [])
    (blank : ∀ c ∈ stretch, Text.isBlank c = true) (begun : List Char) (items : List Item) :
    wordsFrom begun (stretch.map ofChar ++ items) = keepWord begun ++ wordsFrom [] items := by
  induction stretch generalizing begun with
  | nil => exact absurd rfl written
  | cons c stretch inner =>
    have first : ofChar c = space := if_pos (blank c List.mem_cons_self)
    rw [List.map_cons, List.cons_append, first, wordsFrom]
    by_cases last : stretch = []
    · rw [last, List.map_nil, List.nil_append]
    · rw [inner last (fun d member => blank d (List.mem_cons_of_mem c member)) []]
      rfl

end Item

/-! ### Words with one space between them -/

theorem trim_of_visible {text : List Char} (visible : ∀ c ∈ text, Text.isBlank c = false) :
    Text.trim text = text :=
  Text.trim_of_ends (fun c begins => visible c (List.mem_of_head? begins))
    fun c ends => visible c (List.mem_of_getLast? ends)

/-- Blanks on the left of a text are not part of its trimming. -/
theorem trim_blanks_append {blanks : List Char} (blank : ∀ c ∈ blanks, Text.isBlank c = true)
    (text : List Char) : Text.trim (blanks ++ text) = Text.trim text := by
  rw [Text.trim, Text.trimLeft, List.dropWhile_append,
    if_pos (List.isEmpty_iff.mpr (Lexer.dropWhile_blanks blank))]
  rfl

theorem trimRight_cons {c : Char} (visible : Text.isBlank c = false) (rest : List Char) :
    Text.trimRight (c :: rest) = c :: Text.trimRight rest := by
  have last : [c].dropWhile Text.isBlank = [c] := by simp [visible]
  rw [Text.trimRight, Text.trimRight, List.reverse_cons, List.dropWhile_append, last]
  split
  · next none => rw [List.isEmpty_iff.mp none]; rfl
  · exact List.reverse_append

theorem trim_cons {c : Char} (visible : Text.isBlank c = false) (rest : List Char) :
    Text.trim (c :: rest) = c :: Text.trimRight rest := by
  rw [Text.trim, Text.trimLeft, List.dropWhile_cons, if_neg (Bool.eq_false_iff.mp visible),
    trimRight_cons visible]

/-- Only the right end of a text is trimmed if something visible is on the left of it. -/
theorem trimRight_append {text : List Char} (left : Text.trimRight text ≠ [])
    (before : List Char) : Text.trimRight (before ++ text) = before ++ Text.trimRight text := by
  have kept : ¬(text.reverse.dropWhile Text.isBlank).isEmpty = true := fun none =>
    left (by rw [Text.trimRight, List.isEmpty_iff.mp none, List.reverse_nil])
  rw [Text.trimRight, List.reverse_append, List.dropWhile_append, if_neg kept, List.reverse_append,
    List.reverse_reverse]
  rfl

/-- Blanks between a word and a text that begins with something visible are one space. -/
theorem collapse_trim_word {word blanks : List Char} {c : Char} (written : word ≠ [])
    (visible : ∀ d ∈ word, Text.isBlank d = false) (spaced : blanks ≠ [])
    (blank : ∀ d ∈ blanks, Text.isBlank d = true) (begins : Text.isBlank c = false)
    (rest : List Char) :
    collapse (Text.trim (word ++ (blanks ++ c :: rest))) =
      word ++ ' ' :: collapse (Text.trim (c :: rest)) := by
  have right : Text.trimRight (c :: rest) = Text.trim (c :: rest) := by
    rw [trim_cons begins, trimRight_cons begins]
  have trimmed : Text.trim (word ++ (blanks ++ c :: rest)) =
      word ++ (blanks ++ Text.trim (c :: rest)) := by
    obtain ⟨d, word, rfl⟩ := List.exists_cons_of_ne_nil written
    have left : Text.trimRight (c :: rest) ≠ [] := by
      rw [trimRight_cons begins]
      exact List.cons_ne_nil _ _
    rw [List.cons_append, trim_cons (visible d List.mem_cons_self), ← List.append_assoc,
      trimRight_append left, right, List.append_assoc, List.cons_append]
  have run : IsRun Text.isBlank blanks (Text.trim (c :: rest)) := by
    refine ⟨spaced, blank, fun d found => ?_⟩
    rw [trim_cons begins] at found
    cases found
    exact begins
  obtain ⟨b, blanks, rfl⟩ := List.exists_cons_of_ne_nil spaced
  rw [trimmed, collapse_visible visible, collapse_blanks run]

theorem collapse_of_visible {word : List Char} (visible : ∀ c ∈ word, Text.isBlank c = false) :
    collapse word = word := by
  simpa [collapse] using collapse_visible visible []

/-- A text with its blanks collapsed and none at its ends. -/
def squeeze (text : List Char) : String :=
  String.ofList (collapse (Text.trim text))

/-- A word is joined by one space to what follows the blank after it. -/
theorem squeeze_word {word rest : List Char} {c : Char}
    (visible : ∀ d ∈ word, Text.isBlank d = false) (blank : Text.isBlank c = true) :
    squeeze (word ++ c :: rest) = Query.joinText (String.ofList word) (squeeze rest) := by
  unfold squeeze Query.joinText
  by_cases none : word = []
  · have dropped : Text.trim ([c] ++ rest) = Text.trim rest :=
      trim_blanks_append (by simpa using blank) rest
    rw [if_pos (String.ofList_eq_empty_iff.mpr none), none]
    exact congrArg (fun trimmed => String.ofList (collapse trimmed)) dropped
  rw [if_neg (none ∘ String.ofList_eq_empty_iff.mp)]
  have whole : rest.takeWhile Text.isBlank ++ rest.dropWhile Text.isBlank = rest :=
    List.takeWhile_append_dropWhile
  have stops := List.head?_dropWhile_not Text.isBlank rest
  have blanks : ∀ d ∈ c :: rest.takeWhile Text.isBlank, Text.isBlank d = true :=
    List.forall_mem_cons.mpr ⟨blank, fun d member => List.mem_takeWhile_imp member⟩
  generalize rest.takeWhile Text.isBlank = taken at whole blanks
  generalize rest.dropWhile Text.isBlank = left at whole stops
  subst whole
  cases left with
  | nil =>
    have trimmed : Text.trim (taken ++ []) = [] :=
      trim_blanks_append (fun d member => blanks d (.tail c member)) []
    rw [if_pos (by rw [trimmed]; rfl), List.append_nil, Lexer.trim_append_blanks word blanks,
      trim_of_visible visible, collapse_of_visible visible]
  | cons d more =>
    have begins : Text.isBlank d = false := by simpa using stops
    have joined := collapse_trim_word none visible (List.cons_ne_nil c taken) blanks begins more
    have trimmed : Text.trim (taken ++ d :: more) = Text.trim (d :: more) :=
      trim_blanks_append (fun e member => blanks e (.tail c member)) _
    have written : collapse (Text.trim (d :: more)) ≠ [] := by
      rw [trim_cons begins, collapse, if_neg (Bool.eq_false_iff.mp begins)]
      exact List.cons_ne_nil _ _
    rw [List.cons_append] at joined
    rw [trimmed, joined, if_neg (written ∘ String.ofList_eq_empty_iff.mp), String.append_assoc,
      String.ofList_append, String.ofList_cons]
    rfl

/-- **Words with one space between any two are a text with its blanks collapsed.** The induction is
on the text, for any word that has begun before it. -/
theorem intercalate_words {begun : List Char} (visible : ∀ c ∈ begun, Text.isBlank c = false)
    (text : List Char) :
    String.ofList ([' '].intercalate (Item.wordsFrom begun (text.map Item.ofChar))) =
      squeeze (begun ++ text) := by
  have single {word : List Char} (visible : ∀ c ∈ word, Text.isBlank c = false) :
      String.ofList ([' '].intercalate (Item.keepWord word)) = String.ofList word := by
    unfold Item.keepWord
    split
    · next none => rw [List.isEmpty_iff.mp none]; rfl
    · rw [List.intercalate_singleton]
  induction text generalizing begun with
  | nil =>
    rw [List.append_nil, squeeze, trim_of_visible visible, collapse_of_visible visible]
    exact single visible
  | cons c rest inner =>
    rw [List.map_cons, Item.ofChar]
    by_cases blank : Text.isBlank c = true
    · have later : String.ofList ([' '].intercalate (Item.wordsFrom [] (rest.map Item.ofChar))) =
          squeeze rest := inner fun _ none => absurd none List.not_mem_nil
      rw [if_pos blank, Item.wordsFrom, joinText_words (fun _ => Item.ne_nil_of_mem_keepWord)
        (fun _ => Item.ne_nil_of_mem_wordsFrom), later, squeeze_word visible blank, single visible]
    · have grown : ∀ d ∈ begun ++ [c], Text.isBlank d = false := by
        intro d member
        rcases List.mem_append.mp member with member | member
        · exact visible d member
        · rw [List.mem_singleton.mp member]
          exact Bool.eq_false_iff.mpr blank
      rw [if_neg blank, Item.wordsFrom, inner grown, List.append_assoc, List.singleton_append]

/-! ### The tokens of a text with its signs doubled -/

/-- The run of a kind as a token. -/
def CharKind.token : CharKind → List Char → Token
  | blank, _ => .space
  | tag, run => .name run
  | plain, run => .plain run

theorem CharKind.spells {kind : CharKind} {stretch following : List Char}
    (run : IsRun kind.keeps stretch following) : (kind.token stretch).Spells stretch following := by
  cases kind with
  | blank => exact .space run
  | tag => exact .name run
  | plain => exact .plain run

/-- A character that is not special is of some kind. -/
theorem CharKind.exists_keeps {c : Char} (ordinary : isSpecial c = false) :
    ∃ kind : CharKind, kind.keeps c = true := by
  by_cases blank : Text.isBlank c = true
  · exact ⟨.blank, blank⟩
  by_cases named : isTagChar c = true
  · exact ⟨.tag, named⟩
  refine ⟨.plain, ?_⟩
  show isPlainChar c = true
  rw [isPlainChar, Bool.eq_false_iff.mpr blank, Bool.eq_false_iff.mpr named, ordinary]
  rfl

/-- Whether a token begins no item but a word or a space. -/
def Token.isFree : Token → Bool
  | space | escape _ | name _ | plain _ => true
  | _ => false

namespace Item

/-- Free tokens are items one by one, a dash among them as well. -/
theorem items_of_free (vantage : Vantage) {tokens : List Token}
    (free : ∀ token ∈ tokens, token.isFree = true) :
    items vantage tokens = tokens.map ofToken := by
  induction tokens with
  | nil => rw [items, List.map_nil]
  | cons token rest inner =>
    have single : next vantage token rest = (ofToken token, rest) := by
      have here := free token List.mem_cons_self
      cases token with
      | name run =>
        by_cases dash : run = ['-']
        · subst dash
          cases rest with
          | nil => rfl
          | cons first rest =>
            have there := free first (.tail _ List.mem_cons_self)
            cases first with
            | tagMark sign => cases there
            | _ => rfl
        · exact next_name vantage dash
      | savedMark | optionMark | tagMark => cases here
      | _ => rfl
    rw [items, single, inner fun other member => free other (.tail _ member), List.map_cons]

/-- Items with the same words after any word that has begun have the same words after others. -/
theorem wordsFrom_congr {items others : List Item}
    (same : ∀ begun, wordsFrom begun items = wordsFrom begun others) (begun : List Char)
    (before : List Item) : wordsFrom begun (before ++ items) = wordsFrom begun (before ++ others) := by
  induction before generalizing begun with
  | nil => exact same begun
  | cons item before inner =>
    cases item with
    | space => exact congrArg (keepWord begun ++ ·) (inner [])
    | word text => exact inner (begun ++ text)
    | _ => exact inner begun

/-- The words of a run, after a word that has begun. -/
theorem wordsFrom_run {kind : CharKind} {stretch following : List Char}
    (run : IsRun kind.keeps stretch following) (begun : List Char) (items : List Item) :
    wordsFrom begun (ofToken (kind.token stretch) :: items) =
      wordsFrom begun (stretch.map ofChar ++ items) := by
  cases kind with
  | blank => exact (wordsFrom_blanks run.written run.only begun items).symm
  | tag =>
    have visible : ∀ c ∈ stretch, Text.isBlank c = false :=
      fun c member => (Lexer.visible_of_isTagChar (run.only c member)).1
    exact (wordsFrom_visible visible begun items).symm
  | plain =>
    have visible : ∀ c ∈ stretch, Text.isBlank c = false :=
      fun c member => (Lexer.visible_of_isPlainChar (run.only c member)).1
    exact (wordsFrom_visible visible begun items).symm

end Item

namespace Lexer

/-- **The tokens of a text with its signs doubled** are free, and their words are those of the text.
The induction is on what is left of the text after a doubled sign or a run. -/
theorem exists_free {text : List Char}
    (harmless : ∀ c ∈ text, isSpecial c = true → (Sign.ofChar? c).isSome = true) :
    ∃ tokens : List Token, lexemes (doubleSigns text) = tokens.map .token ∧
      (∀ token ∈ tokens, token.isFree = true) ∧
      ∀ begun, Item.wordsFrom begun (tokens.map Item.ofToken) =
        Item.wordsFrom begun (text.map Item.ofChar) := by
  match text with
  | [] => exact ⟨[], by rw [doubleSigns, List.flatMap_nil, lexemes]; rfl, by simp, fun _ => rfl⟩
  | c :: rest =>
    cases signed : Sign.ofChar? c with
    | some sign =>
      obtain rfl := Sign.char_of_ofChar? signed
      obtain ⟨tokens, lexed, free, words⟩ :=
        exists_free fun d member => harmless d (List.mem_cons_of_mem _ member)
      have spells : (Token.escape sign).Spells [sign.char, sign.char] (doubleSigns rest) :=
        .symbol rfl fun _ _ => List.not_mem_nil
      refine ⟨.escape sign :: tokens, ?_, ?_, fun begun => ?_⟩
      · rw [doubleSigns_sign, lexemes_of_spells spells, lexed, List.map_cons]
      · exact List.forall_mem_cons.mpr ⟨rfl, free⟩
      · have visible : Item.ofChar sign.char = .word [sign.char] := by cases sign <;> rfl
        rw [List.map_cons, List.map_cons, visible]
        exact words _
    | none =>
      have ordinary : isSpecial c = false := by
        refine Bool.eq_false_iff.mpr fun special => ?_
        have isSign := harmless c List.mem_cons_self special
        rw [signed] at isSign
        cases isSign
      obtain ⟨kind, kept⟩ := CharKind.exists_keeps ordinary
      have run := isRun_takeWhile kept rest
      have whole : c :: rest.takeWhile kind.keeps ++ rest.dropWhile kind.keeps = c :: rest :=
        congrArg (c :: ·) List.takeWhile_append_dropWhile
      have shorter : (rest.dropWhile kind.keeps).length ≤ rest.length :=
        (List.dropWhile_sublist _).length_le
      have later : ∀ d ∈ rest.dropWhile kind.keeps, isSpecial d = true →
          (Sign.ofChar? d).isSome = true := fun d member =>
        harmless d (List.mem_cons_of_mem _ ((List.dropWhile_suffix _).subset member))
      obtain ⟨tokens, lexed, free, words⟩ := exists_free later
      generalize c :: rest.takeWhile kind.keeps = stretch at run whole
      generalize rest.dropWhile kind.keeps = following at run whole lexed words
      have unsigned : ∀ d ∈ stretch, Sign.ofChar? d = none := fun d member =>
        Option.eq_none_iff_forall_ne_some.mpr fun sign isSign => by
          cases (run.only d member).symm.trans
            (CharKind.keeps_false_of_isSpecial (isSpecial_of_sign isSign) kind)
      have doubled : IsRun kind.keeps stretch (doubleSigns following) :=
        ⟨run.written, run.only, by rw [head?_doubleSigns]; exact run.ends⟩
      refine ⟨kind.token stretch :: tokens, ?_, ?_, fun begun => ?_⟩
      · rw [← whole, doubleSigns_append unsigned, lexemes_of_spells (CharKind.spells doubled), lexed,
          List.map_cons]
      · exact List.forall_mem_cons.mpr ⟨by cases kind <;> rfl, free⟩
      · rw [List.map_cons, Item.wordsFrom_run run, ← whole, List.map_append]
        exact Item.wordsFrom_congr words begun _
termination_by text.length
decreasing_by
  · simp only [List.length_cons]; omega
  · simp only [List.length_cons]; omega

end Lexer

/-! ### Queries -/

namespace Query

/-- What free items add up to is free text. -/
theorem ofItems_ofToken (tokens : List Token) :
    ofItems (tokens.map Item.ofToken) =
      { text := String.ofList ([' '].intercalate (Item.words (tokens.map Item.ofToken))) } := by
  have none {α : Type} (adds : Item → Option α)
      (nothing : ∀ token, adds (Item.ofToken token) = Option.none) :
      (tokens.map Item.ofToken).filterMap adds = [] := by
    rw [List.filterMap_map, List.filterMap_eq_nil_iff]
    exact fun token _ => nothing token
  have required := none Item.required? fun token => by cases token <;> rfl
  have excluded := none Item.excluded? fun token => by cases token <;> rfl
  have options := none Item.option? fun token => by cases token <;> rfl
  have searches := none Item.savedSearch? fun token => by cases token <;> rfl
  have columns := none Item.column? fun token => by cases token <;> rfl
  unfold ofItems
  rw [required, excluded, options, searches, columns]
  rfl

end Query

/-- **A text without comparisons and terminators is read as free text once its signs are doubled**,
at every offset and clock: its blanks are collapsed, and all else is empty. -/
theorem ofText_escapeSigns (hours : Int) (now : Instant) (text : String)
    (valid : -25 ≤ hours ∧ hours ≤ 25)
    (harmless : ∀ c ∈ text.toList, c ∉ ['!', '?', '<', '>', '=']) :
    Query.ofText hours now (escapeSigns text) =
      .ok { text := String.ofList (collapse (Text.trim text.toList)), offset := hours } := by
  have here : Vantage.ofOffset hours now = .ok { zone := ⟨hours, valid⟩, now } :=
    Vantage.ofOffset_eq_ok.mpr ⟨rfl, rfl⟩
  have signs : ∀ c ∈ text.toList, isSpecial c = true → (Sign.ofChar? c).isSome = true :=
    fun c member special => Sign.isSome_of_isSpecial special (harmless c member)
  obtain ⟨tokens, lexed, free, words⟩ := Lexer.exists_free signs
  have pieces : Lexer.lexemes (escapeSigns text).toList = tokens.map .token := by
    rw [escapeSigns, String.toList_ofList, lexed]
  have written : String.ofList ([' '].intercalate (Item.words (tokens.map Item.ofToken))) =
      squeeze text.toList := by
    rw [Item.words, words]
    exact intercalate_words (fun _ none => absurd none List.not_mem_nil) text.toList
  rw [Query.ofText_eq here, Query.read_eq_ofLexemes, pieces, Query.ofLexemes_tokens,
    Item.items_of_free _ free, Query.ofItems_ofToken, written]
  rfl

/-- Signs before everything that makes a marker of one of them, after a dash, and in a row. -/
theorem ofText_escapeSigns_crowded :
    let text := " -#home\t##:x  @+1 #%@ "
    (-25 ≤ (2 : Int) ∧ (2 : Int) ≤ 25) ∧ (∀ c ∈ text.toList, c ∉ ['!', '?', '<', '>', '=']) ∧
      escapeSigns text = " -##home\t####:x  @@+1 ##%@@ " ∧
      Query.ofText 2 Instant.unixEpoch (escapeSigns text) =
        .ok { text := "-#home ##:x @+1 #%@", offset := 2 } := by
  intro text
  have valid : -25 ≤ (2 : Int) ∧ (2 : Int) ≤ 25 := by decide
  have harmless : ∀ c ∈ text.toList, c ∉ ['!', '?', '<', '>', '='] := by simp [text]
  have squeezed : String.ofList (collapse (Text.trim text.toList)) = "-#home ##:x @+1 #%@" := by
    decide +kernel
  have read := ofText_escapeSigns 2 Instant.unixEpoch text valid harmless
  rw [squeezed] at read
  exact ⟨valid, harmless, by decide +kernel, read⟩

end TaskQuery
