/-
**Every query that is read is well-formed.**

The runs of a query have characters of one kind, so the names, values and options of its items do.
A condition tests a tag, with or without a comparison, or compares a field with a value; tag syntax
never reaches a field, whose name begins with a colon. What the compiler relies on without a check
follows from that.

* `Condition.WellFormed`, `Query.WellFormed`: what is promised of conditions and queries.
* `Token.IsSpelled.ordinary`: the characters of a run.
* `Item.next_wellFormed`, `items_wellFormed`: the items of spelled tokens.
* `ofText_wellFormed`: the query of a text.
-/

import TaskQuery.Proofs.Token.Spelling
import TaskQuery.Query.Reading

namespace TaskQuery

open Calendar (Instant Vantage Zone)

/-! ### Names and values -/

/-- A text is the name of an ordinary tag: tag characters, of which the first one is a letter, a
number or an underscore. -/
structure IsTag (name : String) : Prop where
  isName : isTagName name.toList = true
  opens : opensTag name.toList = true

theorem IsTag.ofList {name : List Char} (isName : isTagName name = true)
    (opens : opensTag name = true) : IsTag (String.ofList name) where
  isName := by rwa [String.toList_ofList]
  opens := by rwa [String.toList_ofList]

/-- A character is neither blank nor special. -/
def IsOrdinary (c : Char) : Prop :=
  Text.isBlank c = false ∧ isSpecial c = false

instance (c : Char) : Decidable (IsOrdinary c) :=
  inferInstanceAs (Decidable (_ ∧ _))

/-- A text is a value: one or more characters, none of them blank or special. -/
structure IsValue (value : String) : Prop where
  written : value ≠ ""
  ordinary : ∀ c ∈ value.toList, IsOrdinary c

instance (name : String) : Decidable (IsTag name) :=
  decidable_of_iff (isTagName name.toList = true ∧ opensTag name.toList = true)
    ⟨fun ⟨isName, opens⟩ => ⟨isName, opens⟩, fun isTag => ⟨isTag.isName, isTag.opens⟩⟩

instance (value : String) : Decidable (IsValue value) :=
  decidable_of_iff (value ≠ "" ∧ (value.toList.all fun c => decide (IsOrdinary c)) = true)
    ⟨fun ⟨written, ordinary⟩ => ⟨written, by simpa using ordinary⟩,
      fun isValue => ⟨isValue.written, by simpa using isValue.ordinary⟩⟩

/-- The name of a tag does not begin with a colon. -/
theorem IsTag.isField {condition : Condition} (tag : IsTag condition.name) :
    condition.isField = false := by
  have noLetter : opensTag [':'] = false := by decide
  refine beq_eq_false_iff_ne.mpr fun colon => ?_
  obtain ⟨rest, spelled⟩ := List.head?_eq_some_iff.mp colon
  have opens := tag.opens
  rw [spelled] at opens
  cases noLetter.symm.trans opens

theorem ordinary_of_isTagName {name : List Char} (isName : isTagName name = true) :
    ∀ c ∈ name, IsOrdinary c := by
  intro c member
  exact Lexer.visible_of_isTagChar (List.all_eq_true.mp (Bool.and_eq_true_iff.mp isName).2 c member)

theorem ne_nil_of_isTagName {name : List Char} (isName : isTagName name = true) : name ≠ [] := by
  rintro rfl
  cases isName

theorem IsValue.of_isTagName {name : List Char} (isName : isTagName name = true) :
    IsValue (String.ofList name) where
  written empty := ne_nil_of_isTagName isName (String.ofList_eq_empty_iff.mp empty)
  ordinary c member := ordinary_of_isTagName isName c (by rwa [String.toList_ofList] at member)

theorem Comparison.text_ne_empty (relation : Comparison) : relation.text ≠ "" := by
  cases relation <;> decide

/-! ### What is promised -/

/-- A condition tests an ordinary tag or compares a field with a value, and only the value of a
trigger time or a priority means more than its text. -/
structure Condition.WellFormed (condition : Condition) : Prop where
  name : IsTag condition.name ∨
    ∃ field, condition.name = ":" ++ field ∧ isTagName field.toList = true ∧ condition.op ≠ ""
  op : condition.op = "" ↔ condition.value = ""
  relation : condition.op ≠ "" → ∃ relation : Comparison, condition.op = relation.text
  value : ∀ c ∈ condition.value.toList, IsOrdinary c
  time : condition.time.isSome = true → condition.name = ":when"
  priority : condition.priority.isSome = true → condition.name = ":priority"
  frequency : condition.frequency.isSome = true →
    condition.name = ":when" ∧ condition.op = "=" ∧ condition.time.isSome = true

/-- A query requires some conditions and excludes some tests of tags, each on its own, and all its
names are names of tags. -/
structure Query.WellFormed (query : Query) : Prop where
  included : ∃ conditions, query.included = .all conditions ∧
    ∀ condition ∈ conditions, condition.WellFormed
  excluded : ∃ conditions, query.excluded = .all conditions ∧
    ∀ condition ∈ conditions, condition.WellFormed ∧ IsTag condition.name
  options : ∀ name ∈ query.options.names, isTagName name.toList = true
  savedSearch : ∀ name ∈ query.savedSearch, isTagName name.toList = true
  shownColumns : ∀ name ∈ query.shownColumns, isTagName name.toList = true

/-- The same of an item: what it asks for is well-formed, and its names are names of tags. -/
def Item.WellFormed : Item → Prop
  | require condition shown =>
    condition.WellFormed ∧ (shown = true → isTagName condition.name.toList = true)
  | exclude condition _ => condition.WellFormed ∧ IsTag condition.name
  | option name | savedSearch name | column name => isTagName name.toList = true
  | space | word _ | stray => True

/-! ### Tokens -/

namespace Token

/-- A token has been read from some text. -/
def IsSpelled (token : Token) : Prop :=
  ∃ stretch following, token.Spells stretch following

theorem IsSpelled.isTagName {run : List Char} (spelled : (name run).IsSpelled) :
    isTagName run = true := by
  obtain ⟨_, _, spells⟩ := spelled
  cases spells with
  | name written =>
    exact Bool.and_eq_true_iff.mpr
      ⟨by simpa using written.written, List.all_eq_true.mpr written.only⟩
  | symbol isSymbol => cases isSymbol

/-- The characters of a run are neither blank nor special. -/
theorem IsSpelled.ordinary {token : Token} {run : List Char} (spelled : token.IsSpelled)
    (isRun : token.run? = some run) : ∀ c ∈ run, IsOrdinary c := by
  obtain ⟨_, _, spells⟩ := spelled
  intro c member
  cases spells with
  | space => cases isRun
  | name written =>
    cases isRun
    exact Lexer.visible_of_isTagChar (written.only c member)
  | plain written =>
    cases isRun
    obtain ⟨visible, _, ordinary⟩ := Lexer.visible_of_isPlainChar (written.only c member)
    exact ⟨visible, ordinary⟩
  | symbol isSymbol =>
    cases token with
    | space | name _ | plain _ => cases isSymbol
    | _ => cases isRun

end Token

/-! ### Conditions -/

namespace Condition.WellFormed

theorem tag {name : String} (isTag : IsTag name) : (Condition.tag name).WellFormed where
  name := Or.inl isTag
  op := ⟨fun _ => rfl, fun _ => rfl⟩
  relation compared := absurd rfl compared
  value _ member := by cases member
  time none := by cases none
  priority none := by cases none
  frequency none := by cases none

theorem compare {name value : String} (relation : Comparison)
    (named : IsTag name ∨ ∃ field, name = ":" ++ field ∧ isTagName field.toList = true)
    (isValue : IsValue value) : (Condition.compare name relation.text value).WellFormed where
  name := by
    refine named.imp_right ?_
    rintro ⟨field, same, isName⟩
    exact ⟨field, same, isName, relation.text_ne_empty⟩
  op := ⟨fun none => absurd none relation.text_ne_empty, fun none => absurd none isValue.written⟩
  relation _ := ⟨relation, rfl⟩
  value := isValue.ordinary
  time none := by cases none
  priority none := by cases none
  frequency none := by cases none

theorem field (vantage : Vantage) {name value : String} (relation : Comparison)
    (isName : isTagName name.toList = true) (isValue : IsValue value) :
    (Item.field vantage name relation value).WellFormed := by
  have compared := compare relation (Or.inr ⟨name, rfl, isName⟩) isValue
  rw [Item.field_eq]
  refine ⟨compared.name, compared.op, compared.relation, compared.value, ?_, ?_,
    fun none => by cases none⟩
  · dsimp only
    split
    · next same => exact fun _ => by rw [same]; rfl
    · exact fun none => by cases none
  · dsimp only
    split
    · next same => exact fun _ => by rw [same]; rfl
    · exact fun none => by cases none

theorem hasPriority {name : String} (priority : Priority) (isValue : IsValue name) :
    (Condition.hasPriority priority name).WellFormed := by
  have isName : isTagName "priority".toList = true := by decide +kernel
  have compared := compare .eq (Or.inr ⟨"priority", rfl, isName⟩) isValue
  exact { compared with priority := fun _ => rfl }

theorem isDue {date : String} (time : Instant) (frequency : Option Frequency)
    (isValue : IsValue date) : (Condition.isDue date time frequency).WellFormed := by
  have isName : isTagName "when".toList = true := by decide +kernel
  have compared := compare .eq (Or.inr ⟨"when", rfl, isName⟩) isValue
  exact { compared with time := fun _ => rfl, frequency := fun _ => ⟨rfl, rfl, rfl⟩ }

end Condition.WellFormed

/-! ### Items -/

namespace Item

variable {tokens : List Token}

theorem joinRuns_ordinary (spelled : ∀ token ∈ tokens, token.IsSpelled) :
    ∀ c ∈ (joinRuns tokens).1, IsOrdinary c := by
  induction tokens with
  | nil => exact fun c member => by cases member
  | cons token rest inner =>
    intro c member
    unfold joinRuns at member
    cases isRun : token.run? with
    | none =>
      rw [isRun] at member
      cases member
    | some run =>
      rw [isRun] at member
      rcases List.mem_append.mp member with member | member
      · exact (spelled token List.mem_cons_self).ordinary isRun c member
      · exact inner (fun other later => spelled other (List.mem_cons_of_mem _ later)) c member

theorem comparison?_isValue {relation : Comparison} {value : List Char} {after : List Token}
    (spelled : ∀ token ∈ tokens, token.IsSpelled)
    (found : comparison? tokens = some (relation, value, after)) :
    IsValue (String.ofList value) := by
  obtain ⟨written, rest, rfl, joined⟩ := comparison?_eq_some found
  have ordinary := joinRuns_ordinary fun token later => spelled token (.tail _ later)
  rw [joined] at ordinary
  exact ⟨written ∘ String.ofList_eq_empty_iff.mp, by rwa [String.toList_ofList]⟩

/-- A tag with what follows it is a condition on a tag of its name. -/
theorem tagged_wellFormed {name : List Char} (isTag : IsTag (String.ofList name))
    (spelled : ∀ token ∈ tokens, token.IsSpelled) :
    (tagged name tokens).1.WellFormed ∧ (tagged name tokens).1.name = String.ofList name := by
  have tail : ∀ token ∈ (if tokens.head? == some .bang then tokens.tail else tokens),
      token.IsSpelled := by
    intro token member
    split at member
    · exact spelled token (List.mem_of_mem_tail member)
    · exact spelled token member
  unfold tagged
  dsimp only
  split
  · next found =>
    exact ⟨.compare _ (Or.inl isTag) (comparison?_isValue tail found), rfl⟩
  · exact ⟨.tag isTag, rfl⟩

/-- A literal that is read has some text. -/
theorem ne_empty_of_read? {vantage : Vantage} {literal : String} {time : Instant}
    (reads : vantage.read? literal = some time) : literal ≠ "" := by
  rintro rfl
  cases reads

theorem due?_wellFormed {vantage : Vantage} {name : List Char} {condition : Condition}
    (isName : isTagName name = true) (found : due? vantage name = some condition) :
    condition.WellFormed := by
  obtain ⟨date, time, frequency, reads, rfl, split⟩ := due?_eq_some found
  have begins : ∀ c ∈ date.toList, c ∈ name := by
    rcases split with rfl | ⟨repetition, rfl, _⟩
    · exact fun c member => member
    · exact fun c member => List.mem_append_left _ member
  exact .isDue time frequency
    ⟨ne_empty_of_read? reads, fun c member => ordinary_of_isTagName isName c (begins c member)⟩

theorem shorthand?_wellFormed {vantage : Vantage} {name : List Char} {condition : Condition}
    (isName : isTagName name = true) (found : shorthand? vantage name = some condition) :
    condition.WellFormed := by
  rcases Option.or_eq_some_iff.mp found with found | ⟨_, found⟩
  · obtain ⟨priority, _, rfl⟩ := Option.map_eq_some_iff.mp found
    exact .hasPriority priority (.of_isTagName isName)
  · exact due?_wellFormed isName found

theorem afterSign_wellFormed (vantage : Vantage) (sign : Sign) {name : List Char}
    (isName : isTagName name = true) (spelled : ∀ token ∈ tokens, token.IsSpelled) :
    (afterSign vantage sign name tokens).1.WellFormed := by
  unfold afterSign
  split
  · show isTagName (String.ofList name).toList = true
    rwa [String.toList_ofList]
  · split
    · next condition found =>
      split at found
      · exact ⟨shorthand?_wellFormed isName found, fun shown => by cases shown⟩
      · cases found
    · split
      · next opens =>
        have isTag := IsTag.ofList isName opens
        obtain ⟨wellFormed, named⟩ := tagged_wellFormed isTag spelled
        exact ⟨wellFormed, fun _ => named ▸ isTag.isName⟩
      · trivial

theorem afterOptionMark_wellFormed (vantage : Vantage) {name : String}
    (isName : isTagName name.toList = true) (spelled : ∀ token ∈ tokens, token.IsSpelled) :
    (afterOptionMark vantage name tokens).1.WellFormed := by
  unfold afterOptionMark
  split
  · next found =>
    exact ⟨.field vantage _ isName (comparison?_isValue spelled found),
      fun shown => by cases shown⟩
  · exact isName

theorem excluded_wellFormed {name : List Char} (isTag : IsTag (String.ofList name))
    (spelled : ∀ token ∈ tokens, token.IsSpelled) : (excluded name tokens).1.WellFormed := by
  obtain ⟨wellFormed, named⟩ := tagged_wellFormed isTag spelled
  unfold excluded
  dsimp only
  split
  · exact ⟨wellFormed, named ▸ isTag⟩
  · exact ⟨wellFormed, named ▸ isTag⟩

theorem ofToken_wellFormed (token : Token) : (ofToken token).WellFormed := by
  cases token <;> trivial

/-- The first item of spelled tokens is well-formed. -/
theorem next_wellFormed (vantage : Vantage) {token : Token}
    (spelled : ∀ other ∈ token :: tokens, other.IsSpelled) :
    (next vantage token tokens).1.WellFormed := by
  have later : ∀ other ∈ tokens, other.IsSpelled :=
    fun other member => spelled other (.tail _ member)
  unfold next
  split
  · next name _ =>
    have isName := (later (.name name) List.mem_cons_self).isTagName
    show isTagName (String.ofList name).toList = true
    rwa [String.toList_ofList]
  · next name rest =>
    have isName := (later (.name name) List.mem_cons_self).isTagName
    exact afterOptionMark_wellFormed vantage (by rwa [String.toList_ofList])
      fun other member => later other (.tail _ member)
  · next name rest =>
    exact afterSign_wellFormed vantage _ (later (.name name) List.mem_cons_self).isTagName
      fun other member => later other (.tail _ member)
  · next name rest =>
    split
    · next opens =>
      have isName := (later (.name name) (.tail _ List.mem_cons_self)).isTagName
      exact excluded_wellFormed (.ofList isName opens)
        fun other member => later other (.tail _ (.tail _ member))
    · trivial
  · exact ofToken_wellFormed token

end Item

/-- The items of spelled tokens are well-formed. -/
theorem items_wellFormed (vantage : Vantage) {tokens : List Token}
    (spelled : ∀ token ∈ tokens, token.IsSpelled) :
    ∀ item ∈ items vantage tokens, item.WellFormed := by
  fun_induction items vantage tokens with
  | case1 => exact fun item member => by cases member
  | case2 token rest inner =>
    have within := Item.next_suffix vantage token rest
    have later : ∀ other ∈ (Item.next vantage token rest).2, other.IsSpelled :=
      fun other member => spelled other (.tail _ (within.subset member))
    intro item member
    rcases List.mem_cons.mp member with rfl | member
    · exact Item.next_wellFormed vantage spelled
    · exact inner later item member

/-! ### Queries -/

namespace Query

/-- What well-formed items add up to is well-formed. -/
theorem ofItems_wellFormed {items : List Item} (wellFormed : ∀ item ∈ items, item.WellFormed) :
    (ofItems items).WellFormed where
  included := by
    refine ⟨_, rfl, fun condition member => ?_⟩
    obtain ⟨item, isItem, found⟩ := List.mem_filterMap.mp member
    cases item with
    | require condition shown =>
      cases found
      exact (wellFormed _ isItem).1
    | _ => cases found
  excluded := by
    refine ⟨_, rfl, fun condition member => ?_⟩
    obtain ⟨item, isItem, found⟩ := List.mem_filterMap.mp member
    cases item with
    | exclude condition shown =>
      cases found
      exact wellFormed _ isItem
    | _ => cases found
  options := by
    intro name member
    obtain ⟨item, isItem, found⟩ := List.mem_filterMap.mp (NameSet.mem_ofList.mp member)
    cases item with
    | option name =>
      cases found
      exact wellFormed _ isItem
    | _ => cases found
  savedSearch := by
    intro name last
    obtain ⟨item, isItem, found⟩ := List.mem_filterMap.mp (List.mem_of_getLast? last)
    cases item with
    | savedSearch name =>
      cases found
      exact wellFormed _ isItem
    | _ => cases found
  shownColumns := by
    intro name member
    obtain ⟨item, isItem, found⟩ := List.mem_filterMap.mp member
    have wellFormed := wellFormed item isItem
    cases item with
    | column name =>
      cases found
      exact wellFormed
    | require condition shown =>
      cases shown <;> cases found
      exact wellFormed.2 rfl
    | exclude condition shown =>
      cases shown <;> cases found
      exact wellFormed.2.isName
    | _ => cases found

theorem read_wellFormed (vantage : Vantage) (text : String) : (read vantage text).WellFormed := by
  have spelled : ∀ token ∈ (tokenize text).tokens, token.IsSpelled :=
    fun token member => Lexer.exists_spells_of_mem member
  obtain ⟨included, excluded, options, savedSearch, shownColumns⟩ :=
    ofItems_wellFormed (items_wellFormed vantage spelled)
  exact ⟨included, excluded, options, savedSearch, shownColumns⟩

end Query

/-- **Every text is read as a well-formed query**, at every offset and clock. -/
theorem ofText_wellFormed (hours : Int) (now : Instant) (text : String)
    (valid : -25 ≤ hours ∧ hours ≤ 25) :
    ∃ query, Query.ofText hours now text = .ok query ∧ query.WellFormed := by
  have here : Vantage.ofOffset hours now = .ok { zone := ⟨hours, valid⟩, now } :=
    Vantage.ofOffset_eq_ok.mpr ⟨rfl, rfl⟩
  exact ⟨_, Query.ofText_eq here text, Query.read_wellFormed _ text⟩

/-- A text in which special characters, a colon and a dash stand where names and values could. -/
theorem ofText_wellFormed_crowded :
    (-25 ≤ (2 : Int) ∧ (2 : Int) ≤ 25) ∧
      ∃ query, Query.ofText 2 Instant.unixEpoch "-#:when=fri @fri+daily?#a!!=.5@:priority==3 #-=x" =
        .ok query ∧ query.WellFormed :=
  ⟨by decide, ofText_wellFormed 2 Instant.unixEpoch "-#:when=fri @fri+daily?#a!!=.5@:priority==3 #-=x"
    (by decide)⟩

end TaskQuery
