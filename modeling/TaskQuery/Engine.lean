/-
**The query engine.**

An engine holds a valid zone, a schema, a quoter and saved searches, and plans queries: a plan is
the statement of a query together with what a front end needs to run it and to show the result.

* `Engine.plan`: the plan of a query text at a clock.
* `Engine.ofSettings`: an engine, unless the offset of its settings is no zone.
-/

import TaskQuery.Settings
import TaskQuery.Statement

namespace TaskQuery

open Calendar (Instant Vantage Zone)

/-! ### Refusals -/

/-- Why settings or saved searches could not be used. -/
inductive SetupError where
  /-- A file could not be read. -/
  | unreadable (path : String)
  /-- A file does not hold what it should. -/
  | undecodable (path : String) (fault : Json.Fault)
  | offsetOutOfRange (hours : Int)
  deriving DecidableEq, Repr

namespace SetupError

/-- The wording of a refusal. -/
def message : SetupError → String
  | unreadable path => "failed to read " ++ Text.quoted path
  | undecodable path _ => "failed to decode " ++ Text.quoted path
  | offsetOutOfRange hours => "timezone offset " ++ toString hours ++ "h is out of range"

/-- What lies behind a refusal. The system and the reader of JSON have texts of their own for it, in
place of which a wording stands here. -/
def causes : SetupError → List String
  | unreadable _ => ["the file could not be read"]
  | undecodable _ fault => [fault.message]
  | offsetOutOfRange _ => []

end SetupError

/-! ### Files -/

/-- The text of a file, found by a path. -/
abbrev FileSource := String → Option String

/-- What a file holds. -/
def readFile {α : Type} (files : FileSource) (path : String)
    (decode : String → Except Json.Fault α) : Except SetupError α :=
  match files path with
  | none => .error (.unreadable path)
  | some text => (decode text).mapError (.undecodable path)

/-- Settings whose offset is a zone. -/
def Settings.zone (settings : Settings) : Except SetupError Zone :=
  match Zone.ofHours? settings.offset with
  | some zone => .ok zone
  | none => .error (.offsetOutOfRange settings.offset)

/-- The settings that a file holds; their offset has to be a zone. -/
def Settings.ofFile (files : FileSource) (path : String) : Except SetupError Settings :=
  (readFile files path Settings.ofText).bind fun settings =>
    settings.zone.map fun _ => settings

/-- The store that a file holds. -/
def Store.ofFile (files : FileSource) (path : String) : Except SetupError Store :=
  readFile files path Store.ofText

/-! ### Plans -/

/-- What a front end needs to run a query and to show its result. -/
structure Plan where
  sql : String
  /-- The payload after `#!`. -/
  command : Option String
  /-- The payload after `#+`. -/
  extra : Option String
  savedSearch : Option String
  isEmpty : Bool
  shownColumns : List String
  options : NameSet
  offset : Int

/-- A plan as a JSON value. -/
def Plan.toJson (plan : Plan) : Json.Value :=
  .object
    [("sql", .text plan.sql), ("command", .ofOption plan.command), ("extra", .ofOption plan.extra),
      ("saved_search", .ofOption plan.savedSearch), ("is_empty", .bool plan.isEmpty),
      ("show_cols", .ofTexts plan.shownColumns), ("options", .ofTexts plan.options.names),
      ("timezone", .number plan.offset)]

/-! ### Engines -/

/-- What queries are planned with. -/
structure Engine where
  zone : Zone
  database : Database := {}
  store : Store := Store.empty

namespace Engine

/-- The engine of some settings without saved searches. -/
def ofSettings (settings : Settings) : Except SetupError Engine :=
  settings.zone.map fun zone => { zone, database := { schema := settings.schema } }

/-- The settings of an engine. -/
def settings (engine : Engine) : Settings :=
  { offset := engine.zone.hours, schema := engine.database.schema }

/-- The query that a text writes, read at a clock in the zone of the engine. -/
def read (engine : Engine) (now : Instant) (text : String) : Query :=
  Query.read { zone := engine.zone, now } text

/-- The plan of a query text at a clock, with the filter of the caller added. -/
def plan (engine : Engine) (now : Instant) (text : String) (filter : Option Filter) :
    Except CompileError Plan :=
  let query := engine.read now text
  (query.compile engine.store now filter).map fun statement =>
    { sql := statement.text engine.database
      command := query.command
      extra := query.extra
      savedSearch := statement.savedSearch
      isEmpty := statement.isEmpty
      shownColumns := statement.shownColumns
      options := statement.options
      offset := query.offset }

end Engine

end TaskQuery
