/-
**Reading a query.**

A query is collected from its items: conditions and columns in the order in which they were written,
options as a set, the last reference to a saved search, and the free text with one space between its
words.

* `Query.ofItems`: what the items add up to.
* `Query.read`: the query that a text writes, read from a vantage.
* `Query.ofText`: the same for an offset that may be none.
-/

import TaskQuery.Query
import TaskQuery.Query.Item
import TaskQuery.Token.Lexer

namespace TaskQuery

open Calendar (Instant Vantage)

namespace Item

/-! ### What an item adds -/

/-- The condition that has to hold. -/
def required? : Item → Option Condition
  | require condition _ => some condition
  | _ => none

/-- The condition that must not hold. -/
def excluded? : Item → Option Condition
  | exclude condition _ => some condition
  | _ => none

/-- The option. -/
def option? : Item → Option String
  | option name => some name
  | _ => none

/-- The saved search. -/
def savedSearch? : Item → Option String
  | savedSearch name => some name
  | _ => none

/-- The tag to show as a column. -/
def column? : Item → Option String
  | column name => some name
  | require condition true => some condition.name
  | exclude condition true => some condition.name
  | _ => none

/-! ### Free text -/

/-- A word as a list of words: an empty one is none. -/
def keepWord (word : List Char) : List (List Char) :=
  if word.isEmpty then [] else [word]

/-- The words of the free text, the first of which has begun already. A space ends a word; items
that are no text leave no trace. -/
def wordsFrom (begun : List Char) : List Item → List (List Char)
  | [] => keepWord begun
  | space :: rest => keepWord begun ++ wordsFrom [] rest
  | word text :: rest => wordsFrom (begun ++ text) rest
  | _ :: rest => wordsFrom begun rest

/-- The words of the free text. -/
def words (items : List Item) : List (List Char) :=
  wordsFrom [] items

end Item

/-- Why a text is no query. -/
inductive QueryError where
  | offsetOutOfRange (hours : Int)
  deriving DecidableEq, Repr

namespace QueryError

/-- The wording of a refusal. -/
def message : QueryError → String
  | offsetOutOfRange hours => "timezone offset " ++ toString hours ++ "h is out of range"

end QueryError

namespace Query

/-- What some items add up to. -/
def ofItems (items : List Item) : Query where
  text := String.ofList (List.intercalate [' '] (Item.words items))
  included := Junction.all (items.filterMap Item.required?)
  excluded := Junction.all (items.filterMap Item.excluded?)
  options := NameSet.ofList (items.filterMap Item.option?)
  savedSearch := (items.filterMap Item.savedSearch?).getLast?
  shownColumns := items.filterMap Item.column?

/-- The query that a text writes, read from a vantage. -/
def read (vantage : Vantage) (text : String) : Query :=
  let stream := tokenize text
  { ofItems (items vantage stream.tokens) with
    extra := stream.extra.map String.ofList
    command := stream.command.map String.ofList
    offset := vantage.zone.hours }

/-- The query that a text writes at an offset and a clock, if the offset is one. -/
def ofText (hours : Int) (now : Instant) (text : String) : Except QueryError Query :=
  match Vantage.ofOffset hours now with
  | .ok vantage => .ok (read vantage text)
  | .error _ => .error (.offsetOutOfRange hours)

theorem ofText_eq {hours : Int} {now : Instant} {vantage : Vantage}
    (valid : Vantage.ofOffset hours now = .ok vantage) (text : String) :
    ofText hours now text = .ok (read vantage text) := by
  rw [ofText, valid]

end Query

end TaskQuery
