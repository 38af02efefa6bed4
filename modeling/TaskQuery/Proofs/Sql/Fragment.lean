/-
**The texts of clauses.**

Every atomic test is written as one test, whatever the user's texts in it are, and every other
clause is read as its parts are: a chain under its connective, a complement as a complement.

* `Test.readsAs`: an atomic test.
* `readsAs_untagged`: the complement of a tag test.
* `render_chain`, `render_enclosed`, `render_complement`: the texts of all other clauses.
-/

import TaskQuery.Proofs.Sql.Reading
import TaskQuery.Sql.Clause

namespace TaskQuery.Sql

open Scan

/-! ### Flat and plain texts -/

/-- Whether a piece is neither a parenthesis nor stray. -/
def Piece.isFlat : Piece → Bool
  | opening | closing | stray _ => false
  | _ => true

/-- Whether a piece may stand in a test that has no parentheses. -/
def Piece.isPlain : Piece → Bool
  | opening | closing | stray _ | and | or | within => false
  | _ => true

/-- Whether all pieces of a text are flat. -/
def isFlatText (text : String) : Bool :=
  (pieces text.toList).all Piece.isFlat

/-- Whether all pieces of a text are plain. -/
def isPlainText (text : String) : Bool :=
  (pieces text.toList).all Piece.isPlain

theorem Piece.isFlat_of_isPlain {piece : Piece} (plain : piece.isPlain = true) :
    piece.isFlat = true := by
  cases piece <;> first | rfl | exact absurd plain Bool.false_ne_true

theorem isFlatText_of_isPlainText {text : String} (plain : isPlainText text = true) :
    isFlatText text = true := by
  rw [isPlainText, List.all_eq_true] at plain
  rw [isFlatText, List.all_eq_true]
  exact fun piece member => Piece.isFlat_of_isPlain (plain piece member)

theorem closed_of_flat {text : String} (flat : isFlatText text = true) :
    Closed (pieces text.toList) :=
  fun _ member => absurd (List.all_eq_true.mp flat _ member) Bool.false_ne_true

theorem balanced_flat {depth : Nat} {pieces rest : List Piece}
    (flat : pieces.all Piece.isFlat = true) :
    balanced (depth + 1) (pieces ++ rest) = balanced (depth + 1) rest := by
  induction pieces with
  | nil => rfl
  | cons piece pieces inner =>
    rw [List.all_cons, Bool.and_eq_true] at flat
    have later := inner flat.2
    cases piece <;> first | exact later | exact absurd flat.1 Bool.false_ne_true

theorem balanced_plain {pieces : List Piece} (plain : pieces.all Piece.isPlain = true) :
    balanced 0 pieces = true := by
  induction pieces with
  | nil => rfl
  | cons piece pieces inner =>
    rw [List.all_cons, Bool.and_eq_true] at plain
    have later := inner plain.2
    cases piece <;> first | exact later | exact absurd plain.1 Bool.false_ne_true

theorem all_pieces_spaced {texts : List String} {keeps : Piece → Bool}
    (closed : ∀ text ∈ texts, Closed (pieces text.toList))
    (kept : ∀ text ∈ texts, (pieces text.toList).all keeps = true) :
    (pieces (String.intercalate " " texts).toList).all keeps = true := by
  rw [pieces_spaced closed, List.all_flatMap, List.all_eq_true]
  exact kept

/-- Flat texts with blanks between them. -/
theorem isFlatText_spaced {texts : List String} (flat : texts.all isFlatText = true) :
    isFlatText (String.intercalate " " texts) = true := by
  rw [List.all_eq_true] at flat
  exact all_pieces_spaced (fun text member => closed_of_flat (flat text member)) flat

/-- Plain texts with blanks between them. -/
theorem isPlainText_spaced {texts : List String} (plain : texts.all isPlainText = true) :
    isPlainText (String.intercalate " " texts) = true := by
  rw [List.all_eq_true] at plain
  exact all_pieces_spaced
    (fun text member => closed_of_flat (isFlatText_of_isPlainText (plain text member))) plain

/-! ### Names and numbers -/

/-- A name of one or more word characters. -/
structure IsPlainName (name : String) : Prop where
  written : name.toList ≠ []
  only : ∀ c ∈ name.toList, isWordChar c = true

/-- A schema whose tables are named by identifiers that need no quotes. -/
structure Schema.IsPlain (schema : Schema) : Prop where
  tags : IsPlainName schema.tags
  search : IsPlainName schema.search

/-- The default names are plain. -/
theorem Schema.default_isPlain : Schema.IsPlain {} where
  tags := ⟨by decide, List.all_eq_true.mp (by decide)⟩
  search := ⟨by decide, List.all_eq_true.mp (by decide)⟩

theorem IsPlainName.flat {name : String} (plain : IsPlainName name) : isFlatText name = true := by
  have word (run : List Char) : (ofRun run).isFlat = true := by
    unfold ofRun
    split <;> rfl
  rw [isFlatText, pieces_word plain.written plain.only, List.all_cons, word]
  rfl

theorem toUpper_digit {c : Char} (digit : c.isDigit = true) : c.toUpper = c := by
  have bounds := Char.isDigit_iff_toNat.mp digit
  unfold Char.toUpper
  rw [dif_neg]
  rintro ⟨above, _⟩
  have above : 'a'.toNat ≤ c.toNat := above
  have apart : '9'.toNat < 'a'.toNat := by decide
  omega

/-- A run of digits is no keyword. -/
theorem ofRun_digits {run : List Char} (digits : ∀ c ∈ run, c.isDigit = true) :
    ofRun run = .word run := by
  have upper : run.map Char.toUpper = run := by
    have each : ∀ c ∈ run, c.toUpper = c := fun c member => toUpper_digit (digits c member)
    rw [List.map_congr_left each, List.map_id']
  unfold ofRun
  rw [upper]
  split
  · exact absurd (digits 'A' List.mem_cons_self) (by decide)
  · exact absurd (digits 'O' List.mem_cons_self) (by decide)
  · exact absurd (digits 'N' List.mem_cons_self) (by decide)
  · exact absurd (digits 'I' List.mem_cons_self) (by decide)
  · rfl

theorem isPlainText_natural (value : Nat) : isPlainText value.repr = true := by
  have digits : ∀ c ∈ value.repr.toList, c.isDigit = true := by
    intro c member
    rw [Nat.toList_repr] at member
    exact Nat.isDigit_of_mem_toDigits (by decide) (by decide) member
  have written : value.repr.toList ≠ [] := by
    rw [Nat.toList_repr]
    exact Nat.toDigits_ne_nil
  have only : ∀ c ∈ value.repr.toList, isWordChar c = true := by
    intro c member
    simp [isWordChar, Char.isAlphanum, digits c member]
  rw [isPlainText, pieces_word written only, ofRun_digits digits]
  rfl

theorem isPlainText_integer (value : Int) : isPlainText (toString value) = true := by
  cases value with
  | ofNat value => exact isPlainText_natural value
  | negSucc value =>
    -- The sign and the digits are two pieces, because a digit ends the sign.
    have natural := isPlainText_natural (value + 1)
    have spelled : (toString (Int.negSucc value)).toList = '-' :: (value + 1).repr.toList := by
      show ("-" ++ (value + 1).repr).toList = _
      simp
    cases digits : (value + 1).repr.toList with
    | nil =>
      rw [Nat.toList_repr] at digits
      exact absurd digits Nat.toDigits_ne_nil
    | cons c rest =>
      have digit : c.isDigit = true := by
        have member : c ∈ Nat.toDigits 10 (value + 1) := by
          rw [← Nat.toList_repr, digits]
          exact List.mem_cons_self
        exact Nat.isDigit_of_mem_toDigits (by decide) (by decide) member
      have ends : isSymbolChar c = false := by
        unfold isSymbolChar
        split <;> first | rfl | exact absurd digit (by decide)
      have split : pieces ('-' :: c :: rest) = .symbol ['-'] :: pieces (c :: rest) := by
        show (step (.symbol ['-']) c).1 ++ piecesFrom (step (.symbol ['-']) c).2 rest = _
        rw [step, ends]
        rfl
      rw [isPlainText, spelled, digits, split, List.all_cons, ← digits]
      exact natural

/-! ### Memberships -/

theorem isPlainText_comparison (relation : Comparison) :
    isPlainText (comparisonKeyword relation) = true := by
  cases relation <;> rfl

theorem isPlainText_operator (operator : Operator) : isPlainText operator.keyword = true := by
  cases operator with
  | comparison relation => exact isPlainText_comparison relation
  | like => rfl
  | notLike => rfl

theorem isPlainText_quote (raw : String) : isPlainText (Quoter.standard.quote raw) = true := by
  rw [isPlainText, pieces_quote]
  rfl

/-- The selection of the tasks with a tag, word by word. -/
def taggedRows (schema : Schema) (name : String) : Option (Operator × String) → List String
  | none => ["SELECT", "id", "FROM", schema.tags, "WHERE", "name", "=", Quoter.standard.quote name]
  | some (operator, raw) =>
    ["SELECT", "id", "FROM", schema.tags, "WHERE", "name", "=", Quoter.standard.quote name, "AND",
      "value", operator.keyword, Quoter.standard.quote raw]

/-- The selection of the tasks with a search text in a column, word by word. -/
def foundRows (schema : Schema) (subject : Column) (search : String) : List String :=
  ["SELECT", "id", "FROM", schema.search, "WHERE", subject.name, "MATCH",
    Quoter.standard.quote search]

/-- The membership of an id in some rows. -/
def memberText (keyword : String) (rows : List String) : String :=
  "id " ++ keyword ++ " (" ++ String.intercalate " " rows ++ ")"

theorem render_membership (schema : Schema) (keyword name : String)
    (value : Option (Operator × String)) :
    Template.render .standard (membership schema keyword name value) =
      memberText keyword (taggedRows schema name value) := by
  rw [← String.toList_inj]
  rcases value with _ | ⟨operator, raw⟩ <;>
    simp [Template.render, membership, Part.render, memberText, taggedRows,
      String.intercalate_cons_cons]

theorem render_found (schema : Schema) (subject : Column) (search : String) :
    Template.render .standard ((Test.found subject search).template schema) =
      memberText "IN" (foundRows schema subject search) := by
  rw [← String.toList_inj]
  simp [Template.render, Test.template, Part.render, memberText, foundRows,
    String.intercalate_cons_cons]

theorem flat_taggedRows {schema : Schema} (plain : schema.IsPlain) (name : String)
    (value : Option (Operator × String)) :
    (taggedRows schema name value).all isFlatText = true := by
  have literal (raw : String) := isFlatText_of_isPlainText (isPlainText_quote raw)
  have sign (operator : Operator) := isFlatText_of_isPlainText (isPlainText_operator operator)
  rcases value with _ | ⟨operator, raw⟩ <;>
    simp only [taggedRows, List.all_cons, plain.tags.flat, literal, sign] <;> rfl

theorem flat_foundRows {schema : Schema} (plain : schema.IsPlain) (subject : Column)
    (search : String) : (foundRows schema subject search).all isFlatText = true := by
  have literal := isFlatText_of_isPlainText (isPlainText_quote search)
  cases subject <;> simp only [foundRows, List.all_cons, plain.search.flat, literal] <;> rfl

/-- The pieces of a membership: the rows stand in parentheses. -/
theorem pieces_memberText (keyword : String) (flatKeyword : isFlatText keyword = true)
    {rows : List String} (flat : rows.all isFlatText = true) :
    pieces (memberText keyword rows).toList =
      .word "id".toList :: (pieces keyword.toList ++
        .opening :: (pieces (String.intercalate " " rows).toList ++ [.closing])) := by
  have spelled : (memberText keyword rows).toList = "id".toList ++ ' ' :: (keyword.toList ++
      ' ' :: ('(' :: (String.intercalate " " rows).toList ++ [')'])) := by
    simp [memberText]
  have subject : pieces "id".toList = [.word "id".toList] := rfl
  rw [spelled, pieces_blank (closed_of_flat rfl),
    pieces_blank (closed_of_flat flatKeyword),
    pieces_enclosed (closed_of_flat (isFlatText_spaced flat)), subject]
  rfl

/-! ### Tests -/

/-- The pieces of an atomic test, as a statement writes it. -/
def Test.written (schema : Schema) (test : Test) : List Piece :=
  pieces (Template.render .standard (test.template schema)).toList

theorem ofTest_plain {pieces : List Piece} (plain : pieces.all Piece.isPlain = true) :
    Formula.ofTest pieces = .test pieces := by
  unfold Formula.ofTest
  split
  · rw [List.all_cons, List.all_cons, List.all_cons] at plain
    have within : Piece.isPlain .within = true :=
      (Bool.and_eq_true_iff.mp (Bool.and_eq_true_iff.mp (Bool.and_eq_true_iff.mp plain).2).2).1
    exact absurd within Bool.false_ne_true
  · rfl

/-- Plain words that begin with a name are one test. -/
theorem readsAs_words (first : String) (run : List Char) {rest : List String}
    (begins : pieces first.toList = [.word run]) (plain : rest.all isPlainText = true) :
    ReadsAs .operand (String.intercalate " " (first :: rest))
      (.test (pieces (String.intercalate " " (first :: rest)).toList)) := by
  have whole : (first :: rest).all isPlainText = true := by
    rw [List.all_cons, plain, isPlainText, begins]
    rfl
  have spaced := isPlainText_spaced whole
  have closed : ∀ text ∈ first :: rest, Closed (pieces text.toList) := fun text member =>
    closed_of_flat (isFlatText_of_isPlainText (List.all_eq_true.mp whole text member))
  refine readsAs_iff.mpr ?_
  rw [← ofTest_plain spaced]
  refine .test ⟨?_, balanced_plain spaced⟩
  rw [pieces_spaced closed, List.flatMap_cons, begins]
  rfl

/-- A membership is one test. -/
theorem readsAs_memberText {rows : List String} (flat : rows.all isFlatText = true) :
    ReadsAs .operand (memberText "IN" rows) (.test (pieces (memberText "IN" rows).toList)) := by
  have inner := isFlatText_spaced flat
  have spelled := pieces_memberText "IN" rfl flat
  refine readsAs_iff.mpr ?_
  rw [spelled]
  exact .test ⟨rfl, balanced_flat inner⟩

/-- The complement of a membership is read as the complement of the membership. -/
theorem readsAs_not_memberText {rows : List String} (flat : rows.all isFlatText = true) :
    ReadsAs .operand (memberText "NOT IN" rows)
      (.not (.test (pieces (memberText "IN" rows).toList))) := by
  have inner := isFlatText_spaced flat
  have spelled := pieces_memberText "IN" rfl flat
  have denied := pieces_memberText "NOT IN" rfl flat
  refine readsAs_iff.mpr ?_
  rw [spelled, denied]
  exact .test ⟨rfl, balanced_flat inner⟩

/-- Every atomic test is read as itself. -/
theorem Test.readsAs {schema : Schema} (plain : schema.IsPlain) (test : Test)
    (own : ∀ text, test ≠ .custom text) :
    ReadsAs .operand (Template.render .standard (test.template schema))
      (.test (test.written schema)) := by
  unfold Test.written
  cases test with
  | tagged name value =>
    have text := render_membership schema "IN" name value
    exact text ▸ readsAs_memberText (flat_taggedRows plain name value)
  | priority relation level =>
    have text : Template.render .standard ((Test.priority relation level).template schema) =
        String.intercalate " " ["priority", comparisonKeyword relation, level.rank.repr] := by
      rw [← String.toList_inj]
      simp [Template.render, Test.template, Part.render, String.intercalate_cons_cons]
    rw [text]
    refine readsAs_words "priority" "priority".toList rfl ?_
    simp only [List.all_cons, isPlainText_comparison, isPlainText_natural]
    rfl
  | due relation stamp =>
    have text : Template.render .standard ((Test.due relation stamp).template schema) =
        String.intercalate " "
          ["trigger_at_field", comparisonKeyword relation, Quoter.standard.quote stamp] := by
      rw [← String.toList_inj]
      simp [Template.render, Test.template, Part.render, String.intercalate_cons_cons]
    rw [text]
    refine readsAs_words "trigger_at_field" "trigger_at_field".toList rfl ?_
    simp only [List.all_cons, isPlainText_comparison, isPlainText_quote]
    rfl
  | scheduled =>
    have text : Template.render .standard (Test.scheduled.template schema) =
        String.intercalate " " ["trigger_at_field", "IS", "NOT", "NULL"] := by
      rw [← String.toList_inj]
      simp [Template.render, Test.template, Part.render, String.intercalate_cons_cons]
    have words : ["IS", "NOT", "NULL"].all isPlainText = true := by rfl
    rw [text]
    exact readsAs_words "trigger_at_field" "trigger_at_field".toList rfl words
  | column subject operator operand =>
    have text : Template.render .standard ((Test.column subject operator operand).template schema) =
        String.intercalate " "
          [subject.name, operator.keyword, operand.part.render .standard] := by
      rw [← String.toList_inj]
      simp [Template.render, Test.template, Part.render, String.intercalate_cons_cons]
    have operandPlain : isPlainText (operand.part.render .standard) = true := by
      cases operand with
      | number value => exact isPlainText_integer value
      | text raw => exact isPlainText_quote raw
    rw [text]
    refine readsAs_words subject.name subject.name.toList (by cases subject <;> rfl) ?_
    simp only [List.all_cons, isPlainText_operator, operandPlain]
    rfl
  | found subject search =>
    have text := render_found schema subject search
    exact text ▸ readsAs_memberText (flat_foundRows plain subject search)
  | custom text => exact absurd rfl (own text)

theorem readsAs_untagged {schema : Schema} (plain : schema.IsPlain) (name : String)
    (value : Option (Operator × String)) :
    ReadsAs .operand (Clause.render schema .standard (.untagged name value))
      (.not (.test (Test.written schema (.tagged name value)))) := by
  have text := render_membership schema "NOT IN" name value
  have positive : Template.render .standard ((Test.tagged name value).template schema) = _ :=
    render_membership schema "IN" name value
  rw [Clause.render, Clause.template, text, Test.written, positive]
  exact readsAs_not_memberText (flat_taggedRows plain name value)

/-! ### Other clauses -/

theorem render_joinWith (quoter : Quoter) (between : String) (templates : List Template) :
    Template.render quoter (Template.joinWith between templates) =
      String.intercalate between (templates.map (Template.render quoter)) := by
  induction templates with
  | nil => rfl
  | cons template rest inner =>
    cases rest with
    | nil => simp [Template.joinWith]
    | cons next rest =>
      have separator : Template.render quoter [.fixed between] = between := by
        simp [Template.render, Part.render]
      rw [Template.joinWith_cons_cons, Template.render_append, ← List.singleton_append,
        Template.render_append, separator, inner, List.map_cons, List.map_cons, List.map_cons,
        String.intercalate_cons_cons, String.append_assoc]

/-- A chain is written with its keyword between the clauses. -/
theorem render_chain (schema : Schema) (quoter : Quoter) (connective : Connective)
    (clauses : List Clause) :
    Clause.render schema quoter (.chain connective clauses) =
      String.intercalate (" " ++ connective.keyword ++ " ")
        (clauses.map (Clause.render schema quoter)) := by
  rw [Clause.render, Clause.template, render_joinWith, Clause.templates_eq_map, List.map_map]
  rfl

theorem render_enclosed (schema : Schema) (quoter : Quoter) (inner : Clause) :
    Clause.render schema quoter (.enclosed inner) = "(" ++ inner.render schema quoter ++ ")" := by
  rw [← String.toList_inj]
  simp [Clause.render, Clause.template, Template.render, Part.render]

theorem render_complement (schema : Schema) (quoter : Quoter) (inner : Clause) :
    Clause.render schema quoter (.complement inner) =
      "NOT (" ++ inner.render schema quoter ++ ")" := by
  rw [← String.toList_inj]
  simp [Clause.render, Clause.template, Template.render, Part.render]

end TaskQuery.Sql
