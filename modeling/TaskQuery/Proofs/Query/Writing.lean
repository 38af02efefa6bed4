/-
**Written items are read as what they say.**

An item is written as a sign or a marker, a name, and what may follow the name: a request to be
shown, a comparison with a value, a question mark. Read by itself it gives exactly the condition,
option, column or reference that it says, under the sign `#` as under `@`; everything else in the
query is empty.

* `Writing`: the items that can be written, with their texts and what they say.
* `Lexer.exists_runs`: the tokens of a value.
* `WrittenTag.exists_ending`: what follows the name of a tag, in tokens that are read as that.
* `Writing.isSingle_of_isReadable`: a written item is the only item of its text.
* `ofText_writing`: a written item is read as what it says.
-/

import TaskQuery.Proofs.Query.Concatenation
import TaskQuery.Proofs.Query.WellFormed

namespace TaskQuery

open Calendar (Instant Vantage)

/-! ### Written items -/

/-- A tag as it is written after its sign. -/
structure WrittenTag where
  name : String
  /-- Whether the tag asks to be shown. -/
  shown : Bool := false
  comparison : Option (Comparison × String) := none

namespace WrittenTag

/-- What follows the name of a tag. -/
def ending (tag : WrittenTag) : String :=
  (if tag.shown then "!" else "") ++
    match tag.comparison with
    | none => ""
    | some (relation, value) => relation.text ++ value

/-- Whether nothing follows the name of a tag. -/
def isBare (tag : WrittenTag) : Bool :=
  !tag.shown && tag.comparison.isNone

/-- What a tag says. -/
def condition (tag : WrittenTag) : Condition :=
  match tag.comparison with
  | none => .tag tag.name
  | some (relation, value) => .compare tag.name relation.text value

theorem condition_name (tag : WrittenTag) : tag.condition.name = tag.name := by
  unfold condition
  split <;> rfl

/-- A tag can be written: its name is the name of a tag, and its value is a value. An equals sign
right after the request to be shown would make both an inequality. -/
structure IsWritable (tag : WrittenTag) : Prop where
  isTag : IsTag tag.name
  isValue : ∀ relation value, tag.comparison = some (relation, value) → IsValue value
  apart : tag.shown = true → ∀ value, tag.comparison ≠ some (.eq, value)

end WrittenTag

/-- A name stands for a priority or a date: it is a shorthand, or a date literal, or a date literal
with a frequency after a plus sign. -/
def IsShorthand (vantage : Vantage) (name : String) : Prop :=
  (∃ priority, Priority.ofShorthand? name = some priority) ∨
    (∃ time, vantage.read name = .ok time) ∨
    ∃ date repetition time frequency, name = date ++ "+" ++ repetition ∧
      vantage.read date = .ok time ∧ Frequency.ofText? repetition = some frequency

/-- The items that can be written. -/
inductive Writing where
  /-- A tag that a task has to have. -/
  | required (tag : WrittenTag)
  /-- A tag that a task must not have, which may end in a question mark. -/
  | excluded (tag : WrittenTag) (asked : Bool)
  | column (name : String)
  | option (name : String)
  | field (name : String) (relation : Comparison) (value : String)
  | savedSearch (name : String)

namespace Writing

/-- An item as it is written under a sign. -/
def text (sign : Sign) : Writing → String
  | required tag => sign.char.toString ++ (tag.name ++ tag.ending)
  | excluded tag asked =>
    "-" ++ sign.char.toString ++ (tag.name ++ tag.ending) ++ (if asked then "?" else "")
  | column name => sign.char.toString ++ name ++ "?"
  | option name => sign.char.toString ++ ":" ++ name
  | field name relation value => sign.char.toString ++ ":" ++ name ++ relation.text ++ value
  | savedSearch name => sign.char.toString ++ "%" ++ name

/-- An item can be read back: its names and values are names and values, a bare tag is no
shorthand, and a column does not begin with what would make the sign another marker. -/
def IsReadable (vantage : Vantage) : Writing → Prop
  | required tag => tag.IsWritable ∧ (tag.isBare = true → ¬IsShorthand vantage tag.name)
  | excluded tag _ => tag.IsWritable
  | column name => isTagName name.toList = true ∧ ∀ c ∈ name.toList.head?, c ≠ ':' ∧ c ≠ '+'
  | option name => isTagName name.toList = true
  | field name _ value => isTagName name.toList = true ∧ IsValue value
  | savedSearch name => isTagName name.toList = true

/-- The query that an item says. -/
def query (vantage : Vantage) : Writing → Query
  | required tag =>
    { included := .all [tag.condition], shownColumns := if tag.shown then [tag.name] else [] }
  | excluded tag asked =>
    { excluded := .all [tag.condition]
      shownColumns := if tag.shown || asked then [tag.name] else [] }
  | column name => { shownColumns := [name] }
  | option name => { options := .ofList [name] }
  | field name relation value =>
    { included := .all [{ Condition.compare (":" ++ name) relation.text value with
        time := if name = "when" then vantage.read? value else none
        priority := if name = "priority" then Priority.ofText? value else none }] }
  | savedSearch name => { savedSearch := some name }

end Writing

/-! ### Texts that are lexed into tokens -/

namespace Lexer

/-- A text is lexed into some tokens where another text follows it. -/
def IsLexed (text following : List Char) (tokens : List Token) : Prop :=
  lexemes (text ++ following) = tokens.map .token ++ lexemes following

namespace IsLexed

variable {text other following : List Char} {tokens more : List Token}

theorem nil : IsLexed [] following [] :=
  Eq.refl (lexemes following)

theorem of_spells {token : Token} (spells : token.Spells text following) :
    IsLexed text following [token] :=
  lexemes_of_spells spells

theorem append (first : IsLexed text (other ++ following) tokens)
    (second : IsLexed other following more) :
    IsLexed (text ++ other) following (tokens ++ more) := by
  unfold IsLexed at first second ⊢
  rw [List.append_assoc, first, second, List.map_append, List.append_assoc]

end IsLexed

end Lexer

/-! ### The tokens of a value -/

/-- Some tokens are runs, which are a text when joined. -/
structure AreRunsOf (runs : List Token) (text : List Char) : Prop where
  isRun : ∀ token ∈ runs, token.run? = some token.text
  joined : runs.flatMap Token.text = text

namespace Lexer

theorem scanRun_run (c : Char) (rest : List Char) :
    (scanRun c rest).1.run? = some (scanRun c rest).1.text ∧
      (scanRun c rest).1.text ++ (scanRun c rest).2 = c :: rest := by
  unfold scanRun
  split
  · exact ⟨rfl, congrArg (c :: ·) List.takeWhile_append_dropWhile⟩
  · exact ⟨rfl, congrArg (c :: ·) List.takeWhile_append_dropWhile⟩

/-- A text without blanks and special characters is lexed into runs up to the next special
character. -/
theorem exists_runs {text following : List Char} (ordinary : ∀ c ∈ text, IsOrdinary c)
    (ends : ∀ c ∈ following.head?, isSpecial c = true) :
    ∃ runs, AreRunsOf runs text ∧ IsLexed text following runs := by
  match text with
  | [] => exact ⟨[], ⟨fun _ member => (List.not_mem_nil member).elim, rfl⟩, .nil⟩
  | c :: rest =>
    obtain ⟨visible, common⟩ := ordinary c List.mem_cons_self
    obtain ⟨isRun, whole⟩ := scanRun_run c rest
    have shorter := scanRun_length c rest
    have apart (d : Char) (begins : d ∈ following.head?) : isPlainChar d = false := by
      rw [isPlainChar, ends d begins, Bool.not_true, Bool.and_false]
    -- A run ends where its kind of characters does, so a value may take several of them.
    have later : ∀ d ∈ (scanRun c rest).2, IsOrdinary d := fun d member =>
      ordinary d (whole ▸ List.mem_append_right _ member)
    obtain ⟨runs, areRuns, lexed⟩ := exists_runs later ends
    refine ⟨(scanRun c rest).1 :: runs, ⟨?_, ?_⟩, ?_⟩
    · intro token member
      rcases List.mem_cons.mp member with rfl | member
      · exact isRun
      · exact areRuns.isRun token member
    · rw [List.flatMap_cons, areRuns.joined, whole]
    · unfold IsLexed at lexed ⊢
      rw [List.cons_append, lexemes_cons, scan_run visible common,
        scanRun_append (fun d begins => isTagChar_false_of_isSpecial (ends d begins)) apart, lexed]
      rfl
termination_by text.length
decreasing_by simp only [List.length_cons]; omega

end Lexer

namespace Item

variable {runs following : List Token} {value : List Char}

theorem joinRuns_stops (ends : ∀ token ∈ following.head?, token.run? = none) :
    joinRuns following = ([], following) := by
  cases following with
  | nil => rfl
  | cons token rest => rw [joinRuns, ends token rfl]

theorem joinRuns_runs (areRuns : AreRunsOf runs value)
    (ends : ∀ token ∈ following.head?, token.run? = none) :
    joinRuns (runs ++ following) = (value, following) := by
  obtain ⟨areRuns, rfl⟩ := areRuns
  induction runs with
  | nil => exact joinRuns_stops ends
  | cons token runs inner =>
    have later := inner fun other member => areRuns other (.tail _ member)
    rw [List.cons_append, joinRuns, areRuns token List.mem_cons_self]
    dsimp only
    rw [later, List.flatMap_cons]

theorem comparison?_runs (relation : Comparison) (areRuns : AreRunsOf runs value)
    (written : value ≠ []) (ends : ∀ token ∈ following.head?, token.run? = none) :
    comparison? (.comparison relation :: (runs ++ following)) =
      some (relation, value, following) := by
  rw [comparison?, joinRuns_runs areRuns ends, if_neg (written ∘ List.isEmpty_iff.mp)]

end Item

/-! ### The tokens of a tag -/

namespace Token

/-- A sign before a name is the marker of a tag, unless the name begins as another marker goes
on. -/
theorem spells_tagMark (sign : Sign) {name following : List Char} (isName : isTagName name = true)
    (apart : ∀ c ∈ name.head?, c ≠ ':' ∧ c ≠ '+') :
    (tagMark sign).Spells [sign.char] (name ++ following) := by
  obtain ⟨c, rest, rfl⟩ := List.exists_cons_of_ne_nil (ne_nil_of_isTagName isName)
  have named : isTagChar c = true :=
    List.all_eq_true.mp (Bool.and_eq_true_iff.mp isName).2 c List.mem_cons_self
  have others : (['!', '%', sign.char].all fun d => !isTagChar d) = true := by
    cases sign <;> decide +kernel
  refine .symbol rfl fun d begins prolongs => ?_
  obtain rfl : c = d := Option.some.inj begins
  obtain ⟨noColon, noPlus⟩ := apart c rfl
  have other : c ∉ ['!', '%', sign.char] := fun member => by
    have unnamed := List.all_eq_true.mp others c member
    rw [named] at unnamed
    cases unnamed
  simp_all [barred]

theorem spells_name {name following : List Char} (isName : isTagName name = true)
    (ends : ∀ c ∈ following.head?, isSpecial c = true) :
    (Token.name name).Spells name following := by
  obtain ⟨written, only⟩ := Bool.and_eq_true_iff.mp isName
  exact .name ⟨ne_nil_of_isTagName isName, List.all_eq_true.mp only,
    fun c begins => isTagChar_false_of_isSpecial (ends c begins)⟩

end Token

/-- The name of a tag does not begin as a marker goes on. -/
theorem IsTag.apart {name : String} (isTag : IsTag name) :
    ∀ c ∈ name.toList.head?, c ≠ ':' ∧ c ≠ '+' := by
  intro c begins
  obtain ⟨rest, spelled⟩ := List.head?_eq_some_iff.mp begins
  have opens := isTag.opens
  rw [spelled] at opens
  have noLetters : opensTag [':'] = false ∧ opensTag ['+'] = false := by decide +kernel
  constructor
  · rintro rfl
    cases noLetters.1.symm.trans opens
  · rintro rfl
    cases noLetters.2.symm.trans opens

namespace Lexer

/-- The tokens of a marker and a name. -/
theorem isLexed_name {mark : Token} {name following : List Char}
    (spells : mark.Spells mark.text (name ++ following)) (isName : isTagName name = true)
    (ends : ∀ c ∈ following.head?, isSpecial c = true) :
    IsLexed (mark.text ++ name) following [mark, .name name] :=
  (IsLexed.of_spells spells).append (.of_spells (Token.spells_name isName ends))

/-- The tokens of a sign and the name of a tag. -/
theorem isLexed_tag (sign : Sign) {name : String} {following : List Char} (isTag : IsTag name)
    (ends : ∀ c ∈ following.head?, isSpecial c = true) :
    IsLexed (sign.char :: name.toList) following [.tagMark sign, .name name.toList] :=
  isLexed_name (Token.spells_tagMark sign isTag.isName isTag.apart) isTag.isName ends

/-- The tokens of a comparison with a value. -/
theorem exists_comparison (relation : Comparison) {value : String} {following : List Char}
    (isValue : IsValue value) (ends : ∀ c ∈ following.head?, isSpecial c = true) :
    ∃ runs, AreRunsOf runs value.toList ∧
      IsLexed (relation.text ++ value).toList following (.comparison relation :: runs) := by
  obtain ⟨runs, areRuns, lexed⟩ := exists_runs isValue.ordinary ends
  have spells : (Token.comparison relation).Spells relation.text.toList
      (value.toList ++ following) := by
    refine .symbol rfl fun c begins prolongs => ?_
    obtain ⟨d, rest, spelled⟩ :=
      List.exists_cons_of_ne_nil (isValue.written ∘ String.toList_eq_nil_iff.mp)
    rw [spelled] at begins
    obtain rfl : d = c := Option.some.inj begins
    have common : isSpecial d = false := (isValue.ordinary d (spelled ▸ List.mem_cons_self)).2
    have equals : d = '=' := by cases relation <;> simp_all [Token.barred]
    cases (equals ▸ common : isSpecial '=' = false)
  rw [String.toList_append]
  exact ⟨runs, areRuns, (IsLexed.of_spells spells).append lexed⟩

end Lexer

/-- A tag with or without the request to be shown, and then with a comparison or without one. -/
theorem Item.tagged_eq (name : List Char) (shown : Bool) {tokens : List Token}
    (unmarked : tokens.head? ≠ some .bang) :
    tagged name ((if shown then [.bang] else []) ++ tokens) =
      match comparison? tokens with
      | some (relation, value, after) =>
        (.compare (String.ofList name) relation.text (String.ofList value), shown, after)
      | none => (.tag (String.ofList name), shown, tokens) := by
  unfold tagged
  cases shown with
  | true => rfl
  | false =>
    have none : (tokens.head? == some .bang) = false := beq_eq_false_iff_ne.mpr unmarked
    rw [if_neg Bool.false_ne_true, List.nil_append, none]
    rfl

namespace WrittenTag

variable {tag : WrittenTag} {following : List Char}

/-- Some tokens are read as what follows the name of a tag. -/
structure AreEndingOf (tag : WrittenTag) (tokens : List Token) : Prop where
  tagged : ∀ rest, (∀ token ∈ rest.head?, token = .ask) →
    Item.tagged tag.name.toList (tokens ++ rest) = (tag.condition, tag.shown, rest)
  bare : tag.isBare = true → tokens = []
  begins : tag.isBare = false → ∃ first later, tokens = first :: later ∧
    (first = .bang ∨ ∃ relation, first = .comparison relation)

theorem areEndingOf_none (name : String) (shown : Bool) :
    AreEndingOf { name, shown } (if shown then [.bang] else []) where
  tagged rest ends := by
    have unmarked : rest.head? ≠ some .bang := fun bang => by cases ends _ bang
    have none : Item.comparison? rest = none := by
      cases rest with
      | nil => rfl
      | cons token rest =>
        obtain rfl : token = .ask := ends token rfl
        rfl
    rw [Item.tagged_eq _ _ unmarked, none, String.ofList_toList]
    rfl
  bare bare := by
    cases shown with
    | true => cases bare
    | false => rfl
  begins ending := by
    cases shown with
    | true => exact ⟨.bang, [], rfl, Or.inl rfl⟩
    | false => cases ending

theorem areEndingOf_some (name : String) (shown : Bool) (relation : Comparison) {value : String}
    {runs : List Token} (isValue : IsValue value) (areRuns : AreRunsOf runs value.toList) :
    AreEndingOf { name, shown, comparison := some (relation, value) }
      ((if shown then [.bang] else []) ++ .comparison relation :: runs) where
  tagged rest ends := by
    have ends : ∀ token ∈ rest.head?, token.run? = none := fun token first => by
      rw [ends token first]
      rfl
    have written : value.toList ≠ [] := isValue.written ∘ String.toList_eq_nil_iff.mp
    have unmarked : (Token.comparison relation :: (runs ++ rest)).head? ≠ some .bang := by simp
    rw [List.append_assoc, List.cons_append, Item.tagged_eq _ _ unmarked,
      Item.comparison?_runs relation areRuns written ends]
    simp only [String.ofList_toList]
    rfl
  bare bare := by cases shown <;> cases bare
  begins _ := by
    cases shown with
    | true => exact ⟨.bang, _, rfl, Or.inl rfl⟩
    | false => exact ⟨_, _, rfl, Or.inr ⟨relation, rfl⟩⟩

theorem isLexed_shown (shown : Bool) {following : List Char}
    (apart : shown = true → ∀ c ∈ following.head?, c ≠ '=') :
    Lexer.IsLexed (if shown then "!" else "").toList following (if shown then [.bang] else []) := by
  cases shown with
  | false => exact .nil
  | true =>
    have spells : Token.bang.Spells ['!'] following :=
      .symbol rfl fun c begins => by simpa [Token.barred] using apart rfl c begins
    exact .of_spells spells

/-- What follows the name of a tag is lexed into tokens that are read as that. -/
theorem exists_ending (writable : tag.IsWritable) (ends : ∀ c ∈ following.head?, c = '?') :
    ∃ tokens, tag.AreEndingOf tokens ∧ Lexer.IsLexed tag.ending.toList following tokens := by
  obtain ⟨name, shown, comparison⟩ := tag
  cases comparison with
  | none =>
    have apart : shown = true → ∀ c ∈ following.head?, c ≠ '=' := fun _ c begins => by
      rw [ends c begins]
      decide
    exact ⟨_, areEndingOf_none name shown, by simpa [ending] using isLexed_shown shown apart⟩
  | some test =>
    obtain ⟨relation, value⟩ := test
    have isValue := writable.isValue relation value rfl
    have special : ∀ c ∈ following.head?, isSpecial c = true := fun c begins => by
      rw [ends c begins]
      rfl
    obtain ⟨runs, areRuns, lexed⟩ := Lexer.exists_comparison relation isValue special
    have apart : shown = true → ∀ c ∈ ((relation.text ++ value).toList ++ following).head?,
        c ≠ '=' := by
      intro asks c begins
      have unequal : relation ≠ .eq := fun same => writable.apart asks value (by rw [same])
      rintro rfl
      cases relation <;> simp_all [Comparison.text]
    refine ⟨_, areEndingOf_some name shown relation isValue areRuns, ?_⟩
    rw [ending, String.toList_append]
    exact (isLexed_shown shown apart).append lexed

end WrittenTag

/-! ### Shorthands -/

namespace Item

theorem isShorthand_of_due? {vantage : Vantage} {name : String} {condition : Condition}
    (found : due? vantage name.toList = some condition) : IsShorthand vantage name := by
  obtain ⟨date, time, _, reads, _, split⟩ := due?_eq_some found
  have reads := Vantage.read?_eq_some.mp reads
  rcases split with same | ⟨repetition, split, repeats⟩
  · exact .inr (.inl ⟨time, String.toList_inj.mp same ▸ reads⟩)
  · obtain ⟨frequency, repeats⟩ := Option.isSome_iff_exists.mp repeats
    refine .inr (.inr ⟨date, String.ofList repetition, time, frequency, ?_, reads, repeats⟩)
    simpa [← String.toList_inj] using split

/-- A name that stands for neither a priority nor a date means nothing by itself. -/
theorem shorthand?_eq_none {vantage : Vantage} {name : String}
    (ordinary : ¬IsShorthand vantage name) : shorthand? vantage name.toList = none := by
  refine Option.eq_none_iff_forall_ne_some.mpr fun condition found => ordinary ?_
  rcases Option.or_eq_some_iff.mp found with found | ⟨_, found⟩
  · obtain ⟨priority, isPriority, _⟩ := Option.map_eq_some_iff.mp found
    exact .inl ⟨priority, by rwa [String.ofList_toList] at isPriority⟩
  · exact isShorthand_of_due? found

end Item

/-! ### The item of a text -/

/-- The query of a text that is lexed into tokens. -/
theorem Query.read_of_isLexed {vantage : Vantage} {text : String} {tokens : List Token}
    (lexed : Lexer.IsLexed text.toList [] tokens) :
    read vantage text = { ofItems (items vantage tokens) with offset := vantage.zone.hours } := by
  have pieces : Lexer.lexemes text.toList = tokens.map .token := by
    simpa [Lexer.IsLexed, Lexer.lexemes] using lexed
  rw [read_eq_ofLexemes, pieces, ofLexemes_tokens]

/-- What follows the name of a tag begins with a special character. -/
theorem WrittenTag.isSpecial_ending (tag : WrittenTag) {following : List Char}
    (ends : ∀ c ∈ following.head?, isSpecial c = true) :
    ∀ c ∈ (tag.ending.toList ++ following).head?, isSpecial c = true := by
  obtain ⟨name, shown, comparison⟩ := tag
  have bang : isSpecial '!' = true := rfl
  cases shown with
  | true => simp [ending, bang]
  | false =>
    cases comparison with
    | none => simpa [ending] using ends
    | some test =>
      obtain ⟨relation, value⟩ := test
      cases relation <;> simp [ending, Comparison.text, isSpecial]

namespace Writing

variable {vantage : Vantage}

/-- The item that is written. -/
def item (vantage : Vantage) : Writing → Item
  | required tag => .require tag.condition tag.shown
  | excluded tag asked => .exclude tag.condition (tag.shown || asked)
  | column name => .column name
  | option name => .option name
  | field name relation value => .require (Item.field vantage name relation value) false
  | savedSearch name => .savedSearch name

/-- What an item adds up to by itself. -/
theorem ofItems_item (vantage : Vantage) (writing : Writing) :
    Query.ofItems [writing.item vantage] = writing.query vantage := by
  cases writing with
  | required tag =>
    simp only [item, query, ← WrittenTag.condition_name]
    cases tag.shown <;> rfl
  | excluded tag asked =>
    simp only [item, query, ← WrittenTag.condition_name]
    cases tag.shown || asked <;> rfl
  | field name relation value =>
    rw [item, Item.field_eq]
    rfl
  | column name => rfl
  | option name => rfl
  | savedSearch name => rfl

/-- A tag that has to hold is read where a sign and its name stand. -/
theorem afterSign_required (sign : Sign) {tag : WrittenTag} {tokens : List Token}
    (writable : tag.IsWritable) (ordinary : tag.isBare = true → ¬IsShorthand vantage tag.name)
    (areEnding : tag.AreEndingOf tokens) :
    Item.afterSign vantage sign tag.name.toList tokens = ((required tag).item vantage, []) := by
  have tagged := areEnding.tagged [] fun token none => by cases none
  rw [List.append_nil] at tagged
  have unasked : tokens.head? ≠ some .ask := by
    cases bare : tag.isBare with
    | true =>
      rw [areEnding.bare bare]
      exact fun none => by cases none
    | false =>
      obtain ⟨first, later, rfl, rfl | ⟨relation, rfl⟩⟩ := areEnding.begins bare
      · exact fun ask => by cases ask
      · exact fun ask => by cases ask
  -- Whatever follows the name keeps a shorthand from ending there; a bare name is none.
  have noShorthand : (if Item.atBoundary tokens then
      Item.shorthand? vantage tag.name.toList else none) = none := by
    cases bare : tag.isBare with
    | true => rw [Item.shorthand?_eq_none (ordinary bare), ite_self]
    | false => obtain ⟨first, later, rfl, rfl | ⟨relation, rfl⟩⟩ := areEnding.begins bare <;> rfl
  have unasked : (tokens.head? == some .ask) = false := beq_eq_false_iff_ne.mpr unasked
  rw [Item.afterSign, unasked, noShorthand, if_neg Bool.false_ne_true]
  dsimp only
  rw [if_pos writable.isTag.opens, tagged]
  rfl

/-- A tag that must not hold is read from its name on. -/
theorem excluded_excluded {tag : WrittenTag} {tokens : List Token} (asked : Bool)
    (areEnding : tag.AreEndingOf tokens) :
    Item.excluded tag.name.toList (tokens ++ if asked then [.ask] else []) =
      ((excluded tag asked).item vantage, []) := by
  have ends : ∀ token ∈ (if asked then [Token.ask] else []).head?, token = .ask := by
    cases asked <;> simp
  rw [Item.excluded, areEnding.tagged _ ends]
  cases asked
  · simp [item]
  · simp [item]

/-- The text of an item is lexed into tokens of which it is the first item and the only one. -/
def IsSingle (vantage : Vantage) (sign : Sign) (writing : Writing) : Prop :=
  ∃ token tokens, Lexer.IsLexed (writing.text sign).toList [] (token :: tokens) ∧
    Item.next vantage token tokens = (writing.item vantage, [])

theorem isSpecial_unfollowed : ∀ c ∈ ([] : List Char).head?, isSpecial c = true :=
  fun _ none => by cases none

theorem isSingle_required (sign : Sign) {tag : WrittenTag} (writable : tag.IsWritable)
    (ordinary : tag.isBare = true → ¬IsShorthand vantage tag.name) :
    IsSingle vantage sign (required tag) := by
  have ends : ∀ c ∈ ([] : List Char).head?, c = '?' := fun c none => by cases none
  obtain ⟨tokens, areEnding, lexed⟩ := tag.exists_ending writable ends
  have named := Lexer.isLexed_tag sign writable.isTag (tag.isSpecial_ending isSpecial_unfollowed)
  have next : Item.next vantage (.tagMark sign) (.name tag.name.toList :: tokens) =
      ((required tag).item vantage, []) := afterSign_required sign writable ordinary areEnding
  exact ⟨_, _, by simpa [text] using named.append lexed, next⟩

theorem isSingle_excluded (sign : Sign) {tag : WrittenTag} (asked : Bool)
    (writable : tag.IsWritable) : IsSingle vantage sign (excluded tag asked) := by
  have asking : Lexer.IsLexed (if asked then "?" else "").toList []
      (if asked then [.ask] else []) := by
    cases asked with
    | false => exact .nil
    | true => exact .of_spells (.symbol rfl fun c _ => List.not_mem_nil)
  have asks : ∀ c ∈ ((if asked then "?" else "").toList ++ []).head?, c = '?' := by
    cases asked <;> simp
  obtain ⟨tokens, areEnding, lexed⟩ := tag.exists_ending writable asks
  have named := Lexer.isLexed_tag sign writable.isTag
    (tag.isSpecial_ending fun c begins => asks c begins ▸ rfl)
  have special : ∀ c ∈ (sign.char :: tag.name.toList ++
      (tag.ending.toList ++ ((if asked then "?" else "").toList ++ []))).head?,
      isSpecial c = true := fun c begins => by
    cases begins
    cases sign <;> rfl
  have isDash : isTagName ['-'] = true := by decide +kernel
  have dash := Lexer.IsLexed.of_spells (Token.spells_name isDash special)
  have whole := ((dash.append named).append lexed).append asking
  have next : Item.next vantage (.name ['-']) (.tagMark sign :: .name tag.name.toList ::
      (tokens ++ if asked then [.ask] else [])) = ((excluded tag asked).item vantage, []) := by
    rw [Item.next, if_pos writable.isTag.opens, excluded_excluded asked areEnding]
  exact ⟨_, _, by simpa [text] using whole, next⟩

theorem isSingle_column (sign : Sign) {name : String} (isName : isTagName name.toList = true)
    (apart : ∀ c ∈ name.toList.head?, c ≠ ':' ∧ c ≠ '+') :
    IsSingle vantage sign (column name) := by
  have ask : Token.ask.Spells ['?'] [] := .symbol rfl fun c _ => List.not_mem_nil
  have special : ∀ c ∈ ['?'].head?, isSpecial c = true := fun c begins => by
    cases begins
    rfl
  have named := Lexer.isLexed_name (Token.spells_tagMark sign isName apart) isName special
  have next : Item.next vantage (.tagMark sign) [.name name.toList, .ask] =
      (.column (String.ofList name.toList), []) := rfl
  rw [String.ofList_toList] at next
  exact ⟨_, _, by simpa [text, Token.text] using named.append (.of_spells ask), next⟩

theorem isSingle_option (sign : Sign) {name : String} (isName : isTagName name.toList = true) :
    IsSingle vantage sign (option name) := by
  have mark : (Token.optionMark sign).Spells [sign.char, ':'] (name.toList ++ []) :=
    .symbol rfl fun c _ => List.not_mem_nil
  have named := Lexer.isLexed_name mark isName isSpecial_unfollowed
  have next : Item.next vantage (.optionMark sign) [.name name.toList] =
      (.option (String.ofList name.toList), []) := rfl
  rw [String.ofList_toList] at next
  exact ⟨_, _, by simpa [text, Token.text] using named, next⟩

theorem isSingle_field (sign : Sign) {name value : String} (relation : Comparison)
    (isName : isTagName name.toList = true) (isValue : IsValue value) :
    IsSingle vantage sign (field name relation value) := by
  obtain ⟨runs, areRuns, lexed⟩ :=
    Lexer.exists_comparison relation isValue isSpecial_unfollowed
  have special : ∀ c ∈ ((relation.text ++ value).toList ++ []).head?, isSpecial c = true := by
    cases relation <;> simp [Comparison.text, isSpecial]
  have mark : (Token.optionMark sign).Spells [sign.char, ':']
      (name.toList ++ ((relation.text ++ value).toList ++ [])) :=
    .symbol rfl fun c _ => List.not_mem_nil
  have named := Lexer.isLexed_name mark isName special
  have written : value.toList ≠ [] := isValue.written ∘ String.toList_eq_nil_iff.mp
  have compared : Item.comparison? (.comparison relation :: (runs ++ [])) =
      some (relation, value.toList, []) :=
    Item.comparison?_runs relation areRuns written fun token none => by cases none
  have next : Item.next vantage (.optionMark sign)
      (.name name.toList :: .comparison relation :: runs) =
        ((field name relation value).item vantage, []) := by
    rw [List.append_nil] at compared
    rw [Item.next, Item.afterOptionMark, compared]
    simp only [String.ofList_toList]
    rfl
  exact ⟨_, _, by simpa [text, Token.text] using named.append lexed, next⟩

theorem isSingle_savedSearch (sign : Sign) {name : String}
    (isName : isTagName name.toList = true) : IsSingle vantage sign (savedSearch name) := by
  have mark : (Token.savedMark sign).Spells [sign.char, '%'] (name.toList ++ []) :=
    .symbol rfl fun c _ => List.not_mem_nil
  have named := Lexer.isLexed_name mark isName isSpecial_unfollowed
  have next : Item.next vantage (.savedMark sign) [.name name.toList] =
      (.savedSearch (String.ofList name.toList), []) := rfl
  rw [String.ofList_toList] at next
  exact ⟨_, _, by simpa [text, Token.text] using named, next⟩

/-- An item that can be read back is the only item of its text. -/
theorem isSingle_of_isReadable (sign : Sign) {writing : Writing}
    (readable : writing.IsReadable vantage) : IsSingle vantage sign writing := by
  cases writing with
  | required tag => exact isSingle_required sign readable.1 readable.2
  | excluded tag asked => exact isSingle_excluded sign asked readable
  | column name => exact isSingle_column sign readable.1 readable.2
  | option name => exact isSingle_option sign readable
  | field name relation value => exact isSingle_field sign relation readable.1 readable.2
  | savedSearch name => exact isSingle_savedSearch sign readable

/-- The query of a text with one item. -/
theorem read_of_isSingle {sign : Sign} {writing : Writing}
    (single : IsSingle vantage sign writing) :
    Query.read vantage (writing.text sign) =
      { writing.query vantage with offset := vantage.zone.hours } := by
  obtain ⟨token, tokens, lexed, next⟩ := single
  have items : items vantage (token :: tokens) = [writing.item vantage] := by
    rw [items, next, items]
  rw [Query.read_of_isLexed lexed, items, ofItems_item]

end Writing

/-- **A written item is read as what it says**, by itself, under each sign, at every offset and
clock. -/
theorem ofText_writing (hours : Int) (now : Instant) (vantage : Vantage) (sign : Sign)
    (writing : Writing) (valid : Vantage.ofOffset hours now = .ok vantage)
    (readable : writing.IsReadable vantage) :
    Query.ofText hours now (writing.text sign) =
      .ok { writing.query vantage with offset := hours } := by
  have single := Writing.isSingle_of_isReadable sign readable
  rw [Query.ofText_eq valid, Writing.read_of_isSingle single, (Vantage.ofOffset_eq_ok.mp valid).1]

/-- A bare tag, and the exclusion of a shorthand that asks twice to be shown and compares. -/
theorem ofText_writing_shown :
    let vantage : Vantage := { now := Instant.unixEpoch, zone := ⟨2, by decide⟩ }
    let bare : Writing := .required { name := "milk" }
    let crowded : Writing :=
      .excluded { name := "now", shown := true, comparison := some (.ne, "2.5h") } true
    Vantage.ofOffset 2 Instant.unixEpoch = .ok vantage ∧ bare.IsReadable vantage ∧
      crowded.IsReadable vantage ∧ bare.text .hash = "#milk" ∧
      crowded.text .atSign = "-@now!!=2.5h?" ∧
      Query.ofText 2 Instant.unixEpoch (bare.text .hash) =
        .ok { bare.query vantage with offset := 2 } ∧
      Query.ofText 2 Instant.unixEpoch (crowded.text .atSign) =
        .ok { crowded.query vantage with offset := 2 } := by
  intro vantage bare crowded
  have valid : Vantage.ofOffset 2 Instant.unixEpoch = .ok vantage := by rfl
  have isMilk : IsTag "milk" := by decide +kernel
  have isNow : IsTag "now" := by decide +kernel
  have isValue : IsValue "2.5h" := by decide +kernel
  have noDate : vantage.read "milk" = .error (.unrecognized "milk") := by decide +kernel
  have ordinary : ¬IsShorthand vantage "milk" := by
    rintro (⟨priority, found⟩ | ⟨time, reads⟩ | ⟨date, repetition, _, _, split, _⟩)
    · cases found
    · cases noDate.symm.trans reads
    · have plus : '+' ∈ (date ++ "+" ++ repetition).toList := by simp
      rw [← split] at plus
      revert plus
      decide
  have bareWritable : WrittenTag.IsWritable { name := "milk" } := {
    isTag := isMilk
    isValue := fun _ _ compared => by cases compared
    apart := fun shown => by cases shown }
  have crowdedReadable : crowded.IsReadable vantage := {
    isTag := isNow
    isValue := fun _ _ same => by cases same; exact isValue
    apart := fun _ _ same => by cases same }
  have bareReadable : bare.IsReadable vantage := ⟨bareWritable, fun _ => ordinary⟩
  exact ⟨valid, bareReadable, crowdedReadable, by rfl, by rfl,
    ofText_writing 2 Instant.unixEpoch vantage .hash bare valid bareReadable,
    ofText_writing 2 Instant.unixEpoch vantage .atSign crowded valid crowdedReadable⟩

end TaskQuery
