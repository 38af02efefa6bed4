/-
**What is in the holes of a statement.**

The condition of a statement holds, in the order of the conditions of its query, the texts that the
user wrote: each of them stands in a hole, where the quoter writes it. Outside holes there are texts
of the statement's own, and the numbers with which ids are compared.

* `Condition.userTexts`, `Query.userTexts`: the texts that are quoted.
* `Expr.lower_quotes`: what is in the holes of the clause of an expression.
* `Query.clauses_quote`: what is in the holes of the clauses of a query.
* `Statement.fill?_whereOutline`: the condition of a statement is its outline with quoted texts.
-/

import TaskQuery.Proofs.Sql.Meaning
import TaskQuery.Proofs.Sql.Outline
import TaskQuery.Statement

namespace TaskQuery

open Calendar (Instant Vantage stamp)
open Sql
open Outcome (bind_eq_ok map_eq_ok)

/-! ### The texts in holes -/

namespace Condition

variable {condition : Condition} {vantage : Vantage} {clause : Clause} {schema : Schema}

/-- The texts of a condition that have to be quoted: the name and the value of a tag, the rendered
trigger time, what a column is compared with if it is no number, and a search text once for each
column that is searched. -/
def userTexts (vantage : Vantage) (condition : Condition) : List String :=
  if condition.isField then
    match condition.name with
    | ":when" =>
      if condition.op = "notnull" then []
      else ((condition.instant? vantage).map fun time => stamp time vantage.zone).toList
    | ":id" => if condition.idNumber?.isSome then [] else [condition.value]
    | ":title_field" => [condition.value]
    | ":text_field" => [condition.value]
    | ":search" => [condition.value, condition.value]
    -- A priority is written as its rank, and no other field has a clause.
    | _ => []
  else condition.name :: if condition.op = "" then [] else [condition.value]

/-- What is in the holes of a membership in the tasks with a tag. -/
theorem membership_quotes (schema : Schema) {keyword : String} (known : keyword ∈ ["IN", "NOT IN"])
    (name : String) (value : Option (Operator × String)) :
    (membership schema keyword name value).Quotes schema
      (name :: (value.map Prod.snd).toList) [] := by
  have subject : Template.Quotes schema _ [name] [] :=
    (Template.Quotes.own (.tagged keyword known)).append (.hole name)
  match value with
  | none => exact subject.append (.own .closing)
  | some (operator, raw) =>
    have compared : Template.Quotes schema _ [raw] [] :=
      (Template.Quotes.own (.value operator)).append (.hole raw)
    exact (subject.append compared).append (.own .closing)

theorem tagClause_quotes (schema : Schema) (condition : Condition) (negated : Bool)
    (value : Option (Operator × String)) :
    ((condition.tagClause negated value).template schema).Quotes schema
      (condition.name :: (value.map Prod.snd).toList) [] := by
  cases negated with
  | false => exact membership_quotes schema (by decide) condition.name value
  | true => exact membership_quotes schema (by decide) condition.name value

theorem found_quotes (schema : Schema) (subject : Column) (search : String) :
    ((Test.found subject search).template schema).Quotes schema [search] [] :=
  ((Template.Quotes.own (.found subject)).append (.hole search)).append (.own .closing)

theorem foundAnywhere_quotes (schema : Schema) (search : String) :
    ((foundAnywhere search).template schema).Quotes schema [search, search] [] := by
  have parts := (found_quotes schema .title search).append
    ((Template.Quotes.own (.connective .or)).append (found_quotes schema .body search))
  exact parts.between .opening .closing

theorem lowerTag_quotes {negated : Bool} (lowered : condition.lowerTag negated = .ok clause) :
    (clause.template schema).Quotes schema
      (condition.name :: if condition.op = "" then [] else [condition.value]) [] := by
  rcases lowerTag_clause lowered with ⟨empty, rfl⟩ | ⟨written, operator, _, rfl⟩
  · rw [if_pos empty]
    exact tagClause_quotes schema condition negated none
  · rw [if_neg written]
    exact tagClause_quotes schema condition negated (some (operator, condition.value))

theorem lowerPriority_quotes (lowered : condition.lowerPriority = .ok clause) :
    (clause.template schema).Quotes schema [] [] := by
  obtain ⟨relation, level, _, _, rfl⟩ := lowerPriority_clause lowered
  exact .own (.priority relation level)

theorem lowerWhen_quotes (lowered : condition.lowerWhen vantage = .ok clause) :
    (clause.template schema).Quotes schema
      (if condition.op = "notnull" then []
        else ((condition.instant? vantage).map fun time => stamp time vantage.zone).toList) [] := by
  rcases lowerWhen_clause lowered with ⟨asks, rfl⟩ | ⟨compared, relation, time, _, means, rfl⟩
  · rw [if_pos asks]
    exact .own .scheduled
  · rw [if_neg compared, means]
    exact (Template.Quotes.own (.due relation)).append (.hole _)

theorem lowerColumn_quotes {column : Column} (notId : column ≠ .id)
    (lowered : condition.lowerColumn column = .ok clause) :
    (clause.template schema).Quotes schema [condition.value] [] := by
  rcases lowerColumn_clause lowered with ⟨_, rfl⟩ | ⟨_, operator, _, rfl⟩
  · exact found_quotes schema column condition.value
  · have text : condition.operand column = .text condition.value := by
      cases column with
      | id => exact absurd rfl notId
      | title => rfl
      | body => rfl
    rw [text]
    exact (Template.Quotes.own (.column column operator)).append (.hole _)

/-- An id is compared with a number outside holes, if its value is one. -/
theorem lowerId_quotes (name : condition.name = ":id")
    (lowered : condition.lowerColumn .id = .ok clause) :
    (clause.template schema).Quotes schema
      (if condition.idNumber?.isSome then [] else [condition.value])
      condition.idNumber?.toList := by
  rcases lowerColumn_clause lowered with ⟨matched, rfl⟩ | ⟨compared, operator, _, rfl⟩
  · -- A search of ids quotes what it looks for, even a number.
    have none : condition.idNumber? = none := if_neg fun both => both.2 matched
    rw [none]
    exact found_quotes schema .id condition.value
  · have number : condition.idNumber? = Text.int64? condition.value := if_pos ⟨name, compared⟩
    have subject : Template.Quotes schema _ [] [] := .own (.column .id operator)
    rw [number]
    cases reads : Text.int64? condition.value with
    | none =>
      have text : condition.operand .id = .text condition.value := by rw [operand, reads]
      rw [text]
      exact subject.append (.hole condition.value)
    | some value =>
      have numeral : condition.operand .id = .number value := by rw [operand, reads]
      rw [numeral]
      exact subject.append (.number value)

theorem idNumber?_of_ne (other : condition.name ≠ ":id") : condition.idNumber? = none :=
  if_neg fun both => other both.1

/-- What is in the holes of the clause of a condition on a field. -/
theorem lowerField_quotes (onField : condition.isField = true)
    (lowered : condition.lowerField vantage = .ok clause) :
    (clause.template schema).Quotes schema (condition.userTexts vantage)
      condition.idNumber?.toList := by
  rw [userTexts, if_pos onField]
  unfold lowerField at lowered
  split at lowered
  · next name =>
    rw [idNumber?_of_ne (by simp [name]), name]
    exact lowerPriority_quotes lowered
  · next name =>
    rw [idNumber?_of_ne (by simp [name]), name]
    exact lowerWhen_quotes lowered
  · next name =>
    rw [name]
    exact lowerId_quotes name lowered
  · next name =>
    rw [idNumber?_of_ne (by simp [name]), name]
    exact lowerColumn_quotes (by decide) lowered
  · next name =>
    rw [idNumber?_of_ne (by simp [name]), name]
    exact lowerColumn_quotes (by decide) lowered
  · next name =>
    rw [idNumber?_of_ne (by simp [name]), name, lowerSearch_clause lowered]
    exact foundAnywhere_quotes schema condition.value
  · cases lowered

/-- **What is in the holes of the clause of a condition**, or of its complement. -/
theorem lower_quotes {negated : Bool} (lowered : condition.lower vantage negated = .ok clause) :
    (clause.template schema).Quotes schema (condition.userTexts vantage)
      condition.idNumber?.toList := by
  by_cases onField : condition.isField = true
  · rw [lower, if_pos onField] at lowered
    obtain ⟨positive, field, rfl⟩ := map_eq_ok.mp lowered
    have quotes : (positive.template schema).Quotes schema _ _ := lowerField_quotes onField field
    cases negated with
    | false => exact quotes
    | true => exact quotes.complement
  · rw [lower, if_neg onField] at lowered
    have notId : condition.name ≠ ":id" := by
      intro name
      exact onField (by rw [isField, name]; rfl)
    rw [userTexts, if_neg onField, idNumber?_of_ne notId]
    exact lowerTag_quotes lowered

end Condition

/-- The texts of some conditions that have to be quoted, in order. -/
def Condition.allTexts (vantage : Vantage) (conditions : List Condition) : List String :=
  conditions.flatMap (Condition.userTexts vantage)

/-- The numbers with which some conditions compare ids, in order. -/
def Condition.allNumbers (conditions : List Condition) : List Int :=
  conditions.flatMap fun condition => condition.idNumber?.toList

/-- Clauses in whose holes are the texts of some conditions. -/
def QuotesConditions (schema : Schema) (vantage : Vantage) (conditions : List Condition)
    (clauses : List Clause) : Prop :=
  (Clause.parts schema clauses).Quotes schema (Condition.allTexts vantage conditions)
    (Condition.allNumbers conditions)

namespace QuotesConditions

variable {schema : Schema} {vantage : Vantage} {conditions conditions' : List Condition}
  {clauses clauses' : List Clause}

theorem nil : QuotesConditions schema vantage [] [] :=
  Template.Quotes.nil

theorem single {condition : Condition} {clause : Clause}
    (quotes : (clause.template schema).Quotes schema (condition.userTexts vantage)
      condition.idNumber?.toList) : QuotesConditions schema vantage [condition] [clause] := by
  have texts : Condition.allTexts vantage [condition] = condition.userTexts vantage :=
    List.append_nil _
  have numbers : Condition.allNumbers [condition] = condition.idNumber?.toList :=
    List.append_nil _
  rw [QuotesConditions, texts, numbers]
  exact quotes.single

theorem append (first : QuotesConditions schema vantage conditions clauses)
    (second : QuotesConditions schema vantage conditions' clauses') :
    QuotesConditions schema vantage (conditions ++ conditions') (clauses ++ clauses') := by
  have whole := first.appendClauses second
  rwa [Condition.allTexts, Condition.allTexts, Condition.allNumbers, Condition.allNumbers,
    ← List.flatMap_append, ← List.flatMap_append] at whole

end QuotesConditions

section Expressions

variable {schema : Schema} {vantage : Vantage}

mutual

/-- **What is in the holes of the clause of an expression**: the texts of its conditions, in their
order. The induction is on the expression, together with the parts of a junction. -/
theorem Expr.lower_quotes {found : Option Clause} {negated : Bool} {depth : Nat} :
    ∀ expr : Expr, expr.lower vantage negated depth = .ok found →
      QuotesConditions schema vantage expr.conditions found.toList
  | .test condition, lowered => by
    obtain ⟨clause, single, rfl⟩ := map_eq_ok.mp lowered
    exact .single (condition.lower_quotes single)
  | .junction connective parts, lowered => by
    obtain ⟨clauses, several, rfl⟩ := map_eq_ok.mp lowered
    exact Template.Quotes.joinClauses _ _ (Expr.lowerParts_quotes parts several)
  | .not inner, lowered => by
    rw [Expr.lower] at lowered
    cases negated with
    | true => exact Expr.lower_quotes inner lowered -- The two complements cancel.
    | false =>
      obtain ⟨positive, within, rfl⟩ := map_eq_ok.mp lowered
      have quotes := Expr.lower_quotes inner within
      cases positive with
      | none => exact quotes
      | some clause => exact quotes.of_single.complement.single

theorem Expr.lowerParts_quotes {clauses : List Clause} {negated : Bool} {depth : Nat} :
    ∀ parts : List Expr, Expr.lowerParts vantage negated depth parts = .ok clauses →
      QuotesConditions schema vantage (Expr.conditionsOfParts parts) clauses
  | [], lowered => by
    cases lowered
    exact .nil
  | part :: rest, lowered => by
    obtain ⟨found, head, remaining⟩ := bind_eq_ok.mp lowered
    obtain ⟨clauses, tail, rfl⟩ := map_eq_ok.mp remaining
    exact (Expr.lower_quotes part head).append (Expr.lowerParts_quotes rest tail)

end

end Expressions

/-! ### Queries -/

/-- The texts of a query and a filter that have to be quoted: those of what is included, the free
text for each column that is searched, and those of what is excluded and of the filter. -/
def Query.userTexts (query : Query) (vantage : Vantage) (filter : Option Expr) : List String :=
  Condition.allTexts vantage query.included.toExpr.conditions ++
    (if query.text = "" then [] else [query.text, query.text]) ++
    Condition.allTexts vantage query.excluded.toExpr.conditions ++
    Condition.allTexts vantage ((filter.map Expr.conditions).getD [])

/-- The numbers with which a query and a filter compare ids. -/
def Query.idNumbers (query : Query) (filter : Option Expr) : List Int :=
  Condition.allNumbers query.included.toExpr.conditions ++
    Condition.allNumbers query.excluded.toExpr.conditions ++
    Condition.allNumbers ((filter.map Expr.conditions).getD [])

/-- The numbers are signed numbers of 64 bits. -/
theorem Query.isInt64_of_mem_idNumbers {query : Query} {filter : Option Expr} {value : Int}
    (member : value ∈ query.idNumbers filter) : Text.isInt64 value = true := by
  have each (conditions : List Condition) (member : value ∈ Condition.allNumbers conditions) :
      Text.isInt64 value = true := by
    obtain ⟨condition, _, found⟩ := List.mem_flatMap.mp member
    have number : condition.idNumber? = some value := Option.mem_toList.mp found
    rw [Condition.idNumber?] at number
    split at number
    · exact (Option.filter_eq_some_iff.mp number).2
    · cases number
  rcases List.mem_append.mp member with member | member
  · rcases List.mem_append.mp member with member | member
    · exact each _ member
    · exact each _ member
  · exact each _ member

section Clauses

variable {schema : Schema} {vantage : Vantage} {query : Query} {filter : Option Expr}
  {clauses : List Clause}

/-- **What is in the holes of the clauses of a query.** -/
theorem Query.clauses_quote
    (lowered : query.clauses vantage (filter.map Expr.toFilter) = .ok clauses) :
    (Clause.parts schema clauses).Quotes schema (query.userTexts vantage filter)
      (query.idNumbers filter) := by
  obtain ⟨included, readIncluded, lowered⟩ := bind_eq_ok.mp lowered
  obtain ⟨excluded, readExcluded, lowered⟩ := bind_eq_ok.mp lowered
  obtain ⟨added, readAdded, lowered⟩ := bind_eq_ok.mp lowered
  cases lowered
  have first : QuotesConditions schema vantage query.included.toExpr.conditions included.toList :=
    Expr.lower_quotes _ readIncluded
  have found : (Clause.parts schema
      (if query.text.isEmpty then [] else [Condition.foundAnywhere query.text])).Quotes schema
      (if query.text = "" then [] else [query.text, query.text]) [] := by
    by_cases empty : query.text = ""
    · rw [empty]
      exact .nil
    · rw [if_neg (by simpa using empty), if_neg empty]
      exact (Condition.foundAnywhere_quotes schema query.text).single
  have hidden : (Clause.parts schema
      (if query.hidesDone (filter.map Expr.toFilter) then [.test (.priority .ne .done)]
        else [])).Quotes schema [] [] := by
    split
    · exact .own (.priority .ne .done)
    · exact .nil
  have complements : QuotesConditions schema vantage query.excluded.toExpr.conditions excluded :=
    Expr.lowerParts_quotes _ readExcluded
  have last : QuotesConditions schema vantage ((filter.map Expr.conditions).getD [])
      added.toList := by
    cases filter with
    | none =>
      cases readAdded
      exact .nil
    | some expr => exact Expr.lower_quotes expr readAdded
  have whole := (((first.appendClauses found).appendClauses hidden).appendClauses
    complements).appendClauses last
  rwa [List.append_nil, List.append_nil, List.append_nil] at whole

/-- The condition of a statement as a template. -/
def Statement.whereTemplate (statement : Statement) (schema : Schema) : Template :=
  match statement.clauses with
  | [] => []
  | clauses => .fixed "WHERE " :: Template.joinWith " AND " (Clause.templates schema clauses)

theorem Statement.render_whereTemplate (statement : Statement) (schema : Schema)
    (quoter : Quoter) :
    (statement.whereTemplate schema).render quoter = statement.whereText { schema, quoter } := by
  unfold whereTemplate whereText
  cases statement.clauses with
  | nil => rfl
  | cons clause rest =>
    have keyword : Template.render quoter [.fixed "WHERE "] = "WHERE " := rfl
    rw [List.isEmpty_cons, if_neg Bool.false_ne_true]
    dsimp only
    rw [← List.singleton_append, Template.render_append, keyword, render_joinWith,
      Clause.templates_eq_map, List.map_map]
    rfl

/-- Between the clauses of a statement and before them there are texts of its own. -/
theorem Statement.whereTemplate_quotes {statement : Statement} {texts : List String}
    {numbers : List Int}
    (quotes : (Clause.parts schema statement.clauses).Quotes schema texts numbers) :
    (statement.whereTemplate schema).Quotes schema texts numbers := by
  unfold whereTemplate
  cases clauses : statement.clauses with
  | nil =>
    rw [clauses] at quotes
    exact quotes
  | cons clause rest =>
    rw [clauses] at quotes
    exact (Template.Quotes.own .start).append (quotes.joinWith (.connective .and))

/-- The condition of a statement is written by filling its outline with quoted texts. -/
theorem Statement.fill?_whereOutline {statement : Statement} {texts : List String}
    {numbers : List Int}
    (quotes : (Clause.parts schema statement.clauses).Quotes schema texts numbers)
    (quoter : Quoter) :
    (statement.whereTemplate schema).outline.fill? (texts.map quoter.quote) =
      some (statement.whereText { schema, quoter }) := by
  rw [← (whereTemplate_quotes quotes).holes, Template.fill?_outline, render_whereTemplate]

end Clauses

end TaskQuery
