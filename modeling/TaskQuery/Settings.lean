/-
**Settings and stored searches as JSON.**

Settings are an object, or a list with the fields in their order. Fields that are missing have their
defaults and unknown ones are skipped; a known field may stand only once. Stored searches are an
object of texts in which the last of two equal names counts.

* `Settings.ofText`, `Store.ofText`: reading.
* `Settings.toJson`, `Store.toJson`: the values to write.
* `Settings.diagnostic`: settings as a line of the log shows them.
-/

import TaskQuery.Json.Reader
import TaskQuery.Json.Value
import TaskQuery.Saved.Store
import TaskQuery.Sql.Clause

namespace TaskQuery

open Json (Fault Reader Value)
open Sql (Schema)

/-- What an engine is set up with. -/
structure Settings where
  /-- The hours from UTC in which date literals are read. -/
  offset : Int := 0
  schema : Schema := {}
  deriving DecidableEq, Repr

/-! ### Fields in any order -/

/-- Reads the known fields of an object whose brace has been taken: a field that stands twice is
refused at its name, an unknown one is skipped. -/
def readKnownFields {σ : Type} (field? : String → Option (σ → Reader σ)) (start : σ) :
    Reader σ := do
  let entry (name : String) (state : σ × List String) : Reader (σ × List String) :=
    match field? name with
    | none => do
      Reader.fieldValue Reader.skipValue
      pure state
    | some field =>
      if name ∈ state.2 then Reader.fail .mismatched
      else do
        let value ← Reader.fieldValue (field state.1)
        pure (value, name :: state.2)
  return (← Reader.readEntries entry (start, [])).1

/-- Reads the first fields of a list whose bracket has been taken; the list may end early but not go
on. -/
def readFieldsInOrder {σ : Type} (fields : List (σ → Reader σ)) (start : σ) : Reader σ := do
  let state ← go true fields start
  Reader.closeList
  pure state
where
  /-- The fields still to come, of which the first may be the first of the list. -/
  go (first : Bool) : List (σ → Reader σ) → σ → Reader σ
    | [], state => pure state
    | field :: rest, state => do
      match ← Reader.readItem? first (field state) with
      | some state => go false rest state
      | none => pure state

/-- Reads a value with named fields, written as an object or as a list. -/
def readFields {σ : Type} (fields : List (String × (σ → Reader σ))) (start : σ) : Reader σ := do
  match ← Reader.peek with
  | '\x7b' => Reader.drop *> readKnownFields (fun name => fields.lookup name) start
  | '[' => Reader.drop *> readFieldsInOrder (fields.map Prod.snd) start
  | _ => Reader.mismatch

/-! ### Settings -/

namespace Settings

/-- The fields of a schema in their order. -/
def schemaFields : List (String × (Schema → Reader Schema)) :=
  [("tasks_table", fun schema => do pure { schema with tasks := ← Reader.readText }),
    ("tag_table", fun schema => do pure { schema with tags := ← Reader.readText }),
    ("fts_table", fun schema => do pure { schema with search := ← Reader.readText })]

/-- The fields of settings in their order. -/
def fields : List (String × (Settings → Reader Settings)) :=
  [("timezone_offset_hours", fun settings => do
      pure { settings with offset := ← Reader.readInt8 }),
    ("schema", fun settings => do
      pure { settings with schema := ← readFields schemaFields {} })]

/-- The settings that a text holds. -/
def ofText (text : String) : Except Fault Settings :=
  Reader.readDocument (readFields fields {}) text

/-- Settings as a JSON value. -/
def toJson (settings : Settings) : Value :=
  .object
    [("timezone_offset_hours", .number settings.offset),
      ("schema", .object
        [("tasks_table", .text settings.schema.tasks), ("tag_table", .text settings.schema.tags),
          ("fts_table", .text settings.schema.search)])]

/-- Settings as a diagnostic shows them. -/
def diagnostic (settings : Settings) : String :=
  "EngineConfig \x7b timezone_offset_hours: " ++ toString settings.offset
    ++ ", schema: Schema \x7b tasks_table: " ++ Text.quoted settings.schema.tasks
    ++ ", tag_table: " ++ Text.quoted settings.schema.tags
    ++ ", fts_table: " ++ Text.quoted settings.schema.search ++ " \x7d \x7d"

end Settings

/-! ### Stored searches -/

namespace Store

/-- Reads an object of texts. -/
def readEntries : Reader Store := do
  match ← Reader.peek with
  | '\x7b' =>
    Reader.drop
    Reader.readEntries
      (fun name store => do pure (store.put name (← Reader.fieldValue Reader.readText))) empty
  | _ => Reader.mismatch

/-- The store that a text holds. -/
def ofText (text : String) : Except Fault Store :=
  Reader.readDocument readEntries text

/-- A store as a JSON value. -/
def toJson (store : Store) : Value :=
  .object (store.entries.map fun entry => (entry.1, .text entry.2))

end Store

end TaskQuery
