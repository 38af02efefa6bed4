/-
**Which log lines are shown.**

A filter is a comma-separated list of directives: a level for everything, a target for all its
levels, or a target with a level. The directive of the longest target that a line's target begins
with decides, the last of several for one target.

* `LogFilter.ofText`: the filter of a text, and its refusals of directives.
* `LogFilter.shows`: whether lines of a severity and a target are shown.
* `Record.lines`: a record of the log as it is shown.
-/

import TaskQuery.Text.Alphanumeric
import TaskQuery.Text.Blank
import TaskQuery.Text.Numeral

namespace TaskQuery.Cli

/-! ### Levels -/

/-- How much is shown, from nothing to everything. -/
inductive Level where
  | off
  | error
  | warn
  | info
  | debug
  | trace
  deriving DecidableEq, Repr

namespace Level

/-- The names of the levels, each at the place of its number. -/
def named : List (String × Level) :=
  [("off", off), ("error", error), ("warn", warn), ("info", info), ("debug", debug),
    ("trace", trace)]

/-- The level of a number or of a name in any letter case. -/
def ofText? (text : String) : Option Level :=
  match (Text.natural? text.toList).bind fun number => named[number]? with
  | some found => some found.2
  | none => named.lookup text.toLower

/-- The number of a level. -/
def number : Level → Nat
  | off => 0
  | error => 1
  | warn => 2
  | info => 3
  | debug => 4
  | trace => 5

end Level

/-- How grave a line of the log is. -/
inductive Severity where
  | error
  | warn
  | info
  | debug
  deriving DecidableEq, Repr

namespace Severity

/-- The least level whose lines are of a severity. -/
def level : Severity → Level
  | error => .error
  | warn => .warn
  | info => .info
  | debug => .debug

/-- The mark of a severity in the log. -/
def label : Severity → String
  | error => "ERROR"
  | warn => "WARN"
  | info => "INFO"
  | debug => "DEBUG"

end Severity

/-- Whether lines of a severity are among those of a level. -/
def Level.shows (level : Level) (severity : Severity) : Bool :=
  decide (severity.level.number ≤ level.number)

/-! ### Directives -/

/-- A level for the targets that begin with a text. -/
structure Directive where
  target : Option (List Char)
  level : Level
  deriving DecidableEq, Repr

/-- Why a directive is refused. -/
inductive DirectiveError where
  | invalid
  | unknownLevel
  deriving DecidableEq, Repr

/-- The wording of a refusal. -/
def DirectiveError.message : DirectiveError → String
  | invalid => "invalid filter directive"
  | unknownLevel =>
    "error parsing level filter: expected one of \"off\", \"error\", \"warn\", \"info\", "
      ++ "\"debug\", \"trace\", or a number 0-5"

namespace Directive

/-- Whether a character may begin a directive. -/
def begins (c : Char) : Bool :=
  c == '-' || c == ':' || c == '_' || Text.isAlphanumeric c

/-- The level after an equals sign; without a text it is everything. -/
def levelOf (text : List Char) : Except DirectiveError Level :=
  if text.isEmpty then .ok .trace
  else
    match Level.ofText? (String.ofList text) with
    | some level => .ok level
    | none => .error .unknownLevel

/-- What may follow the bracket of a span. -/
def afterSpan (text : List Char) : Except DirectiveError Unit :=
  match text with
  | [] => .ok ()
  | '=' :: rest => (levelOf rest).map fun _ => ()
  | _ => .error .invalid

/-- The rest of a directive from inside the bracket of a span, whose fields stand in braces. -/
def span (text : List Char) : Except DirectiveError Unit :=
  match text.dropWhile fun c => c != ']' && c != '\x7b' with
  | ']' :: rest => afterSpan rest
  | _ :: fields =>
    match fields.takeWhile (· != '\x7d'), fields.dropWhile (· != '\x7d') with
    | _ :: _, '\x7d' :: ']' :: rest => afterSpan rest
    | _, _ => .error .invalid
  | [] => .error .invalid

/-- The directive of a text. Places are found in the text without the blanks at its ends and cut
from the text as it stands. A directive for a span concerns no line of this program. -/
def ofText (text : List Char) : Except DirectiveError (Option Directive) :=
  let trimmed := Text.trim text
  let place := (trimmed.takeWhile fun c => c != '=' && c != '[').length
  match trimmed with
  | [] => .error .invalid
  | '[' :: rest => (span rest).map fun _ => none
  | c :: _ =>
    if !begins c then .error .invalid
    else
      match trimmed.drop place with
      | [] =>
        match Level.ofText? (String.ofList text) with
        | some level => .ok (some { target := none, level })
        | none => .ok (some { target := some text, level := .trace })
      | '=' :: _ =>
        (levelOf (text.drop (place + 1))).map fun level =>
          some { target := some (text.take place), level }
      | _ :: rest => (span rest).map fun _ => none

/-- Whether a directive is for a target. -/
def covers (directive : Directive) (target : List Char) : Bool :=
  match directive.target with
  | none => true
  | some start => start.isPrefixOf target

/-- How specific a directive is. -/
def weight (directive : Directive) : Nat :=
  match directive.target with
  | none => 0
  | some start => start.length + 1

end Directive

/-! ### Filters -/

/-- The directives in force. -/
structure LogFilter where
  directives : List Directive
  deriving DecidableEq, Repr

namespace LogFilter

/-- The parts of a text between commas. -/
def parts (text : List Char) : List (List Char) :=
  text.splitOn ','

/-- The refusal of a directive as a line. -/
def refusal (text : List Char) (error : DirectiveError) : String :=
  "ignoring \x60" ++ String.ofList text ++ "\x60: " ++ error.message

/-- The filter of a text, and the lines that refuse some of its directives. -/
def ofText (text : String) : LogFilter × List String :=
  let written := (parts text.toList).filter fun part => !part.isEmpty
  let read := written.map fun part => (part, Directive.ofText part)
  ({ directives := read.filterMap fun entry => (entry.2.toOption).bind id },
    read.filterMap fun entry =>
      match entry.2 with
      | .ok _ => none
      | .error error => some (refusal entry.1 error))

/-- The more specific of two directives, the second one if they are equally so. -/
def stronger (first : Option Directive) (second : Directive) : Option Directive :=
  match first with
  | none => some second
  | some first => if second.weight < first.weight then some first else some second

/-- Whether lines of a severity and a target are shown. -/
def shows (filter : LogFilter) (severity : Severity) (target : String) : Bool :=
  match (filter.directives.filter fun directive => directive.covers target.toList).foldl stronger
    none with
  | some directive => directive.level.shows severity
  | none => false

end LogFilter

/-! ### Records -/

/-- What a part of the program has for the log. -/
structure Record where
  severity : Severity
  /-- The part of the program. -/
  target : String
  message : String
  deriving DecidableEq, Repr

/-- A record as it is shown by a filter, without its time. -/
def Record.lines (filter : LogFilter) (record : Record) : List String :=
  if filter.shows record.severity record.target then
    [record.severity.label ++ " " ++ record.target ++ ": " ++ record.message]
  else []

end TaskQuery.Cli
