/-
**The command line program.**

With words on the command line the program plans one query and ends; without, it reads queries
line by line behind a prompt until the input ends or a line says goodbye. A query that fails is
reported and the session goes on; a read that fails ends it.

* `Plan.print`: what is written for a plan.
* `answer`: what one line of a session does.
* `run`: a whole run, from the arguments to the exit code.
-/

import TaskQuery.Cli.Input
import TaskQuery.Cli.LogFilter
import TaskQuery.Cli.Options
import TaskQuery.Engine

namespace TaskQuery

open Calendar (Instant)

/-- What is written for a plan: the JSON value, or the statement with the command and the columns in
comment lines. -/
def Plan.print (plan : Plan) (asJson : Bool) : String :=
  if asJson then plan.toJson.pretty ++ "\n"
  else
    let command :=
      match plan.command with
      | some command => "-- command: " ++ command ++ "\n"
      | none => ""
    let columns :=
      if plan.shownColumns.isEmpty then ""
      else "-- columns: " ++ String.intercalate ", " plan.shownColumns ++ "\n"
    plan.sql ++ "\n" ++ command ++ columns

namespace Cli

/-! ### Output -/

/-- What is written to the two output streams. -/
structure Output where
  stdout : String := ""
  /-- Lines. -/
  stderr : List String := []
  deriving DecidableEq, Repr

/-- One output after another. -/
def Output.append (first second : Output) : Output :=
  { stdout := first.stdout ++ second.stdout, stderr := first.stderr ++ second.stderr }

instance : Append Output :=
  ⟨Output.append⟩

/-- A finished run. -/
structure Report where
  output : Output := {}
  code : Nat := 0
  deriving DecidableEq, Repr

/-! ### Records and failures -/

namespace Record

/-- The offset of the arguments replaces the one of the settings. -/
def offsetOverridden (configured given : Int) : Record :=
  { severity := .warn
    target := "tql"
    message := "--tz overrides the config file config=" ++ toString configured ++ " tz="
      ++ toString given }

/-- A stored name is one that queries cannot refer to. -/
def unusableName (name path : String) : Record :=
  { severity := .warn
    target := "taskql::saved"
    message := "saved search name is not referencable name=" ++ name ++ " path=" ++ path }

/-- Settings have been read from a file. -/
def settingsLoaded (path : String) (settings : Settings) : Record :=
  { severity := .info
    target := "taskql::config"
    message := "loaded engine config path=" ++ path ++ " config=" ++ settings.diagnostic }

/-- Saved searches have been read from a file. -/
def searchesLoaded (path : String) (store : Store) : Record :=
  { severity := .info
    target := "taskql::saved"
    message := "loaded saved searches count=" ++ toString store.size ++ " path=" ++ path }

end Record

/-- What is recorded below warnings. -/
structure Journal where
  /-- Of settings that a file holds. -/
  settings : String → Settings → List Record
  /-- Of saved searches that a file holds. -/
  searches : String → Store → List Record
  /-- While an engine plans a text at a clock. -/
  plan : Engine → Instant → String → List Record

namespace Journal

/-- A journal in which nothing is recorded. -/
def silent : Journal :=
  { settings := fun _ _ => [], searches := fun _ _ => [], plan := fun _ _ _ => [] }

/-- The journal of the program. What it records of plans is left open, for those records spell out
all that has been read and compiled. -/
def ofPlans (plan : Engine → Instant → String → List Record) : Journal :=
  { settings := fun path settings => [.settingsLoaded path settings]
    searches := fun path store => [.searchesLoaded path store]
    plan }

end Journal

/-- Why a run ends early: what was attempted, and what went wrong from the outside in. -/
structure Failure where
  context : String
  causes : List String
  deriving DecidableEq, Repr

namespace Failure

/-- The causes as lines, numbered if there are several. -/
def causeLines : List String → List String
  | [cause] => ["    " ++ cause]
  | causes => causes.mapIdx fun index cause => "    " ++ toString index ++ ": " ++ cause

/-- A failure as lines. -/
def lines (failure : Failure) : List String :=
  ("Error: " ++ failure.context) :: "" :: "Caused by:" :: causeLines failure.causes

/-- The failure to set something up. -/
def ofSetup (context : String) (error : SetupError) : Failure :=
  { context, causes := error.message :: error.causes }

/-- The failure to read a line that is no text. -/
def reading : Failure :=
  { context := "Failed to read stdin", causes := ["stream did not contain valid UTF-8"] }

/-- The context of a failure to compile. -/
def compiling : String :=
  "Failed to compile query"

/-- The failure to compile a query. -/
def ofCompile (error : CompileError) : Failure :=
  let cause :=
    match error with
    | .invalidDate _ cause => [cause.message]
    | _ => []
  { context := compiling, causes := error.message :: cause }

end Failure

/-! ### Setting up -/

/-- The settings that a file of the arguments holds, and what is recorded of them. -/
def configured (options : Options) (files : FileSource) (journal : Journal) :
    List Record × Except Failure Settings :=
  match options.config with
  | none => ([], .ok {})
  | some path =>
    match Settings.ofFile files path with
    | .error error => ([], .error (.ofSetup "Failed to load config" error))
    | .ok settings => (journal.settings path settings, .ok settings)

/-- The settings of the command line and what is recorded of them. -/
def settings (options : Options) (files : FileSource) (journal : Journal) :
    List Record × Except Failure Settings :=
  match configured options files journal, options.offset with
  | (records, .ok settings), some given =>
    let warnings :=
      if options.config.isSome && given != settings.offset then
        [Record.offsetOverridden settings.offset given]
      else []
    (records ++ warnings, .ok { settings with offset := given })
  | configured, _ => configured

/-- The saved searches of the command line and what is recorded of them. -/
def savedSearches (options : Options) (files : FileSource) (journal : Journal) :
    List Record × Except Failure Store :=
  match options.saved with
  | none => ([], .ok Store.empty)
  | some path =>
    match Store.ofFile files path with
    | .error error => ([], .error (.ofSetup "Failed to load saved searches" error))
    | .ok store =>
      let warnings := store.firstUnusable?.map fun name => Record.unusableName name path
      (warnings.toList ++ journal.searches path store, .ok store)

/-- The engine of the command line and what is recorded of its parts. -/
def engine (options : Options) (files : FileSource) (journal : Journal) :
    List Record × Except Failure Engine :=
  match settings options files journal with
  | (records, .error failure) => (records, .error failure)
  | (records, .ok settings) =>
    match savedSearches options files journal with
    | (more, .error failure) => (records ++ more, .error failure)
    | (more, .ok store) =>
      (records ++ more,
        ((Engine.ofSettings settings).mapError (Failure.ofSetup "Invalid engine config")).map
          fun engine => { engine with store })

/-! ### Queries -/

/-- What a query on the command line is answered, after the lines of the log for its text. -/
def single (engine : Engine) (now : Instant) (asJson : Bool) (log : String → List String)
    (query : String) : Report :=
  match engine.plan now query none with
  | .ok plan => { output := { stdout := plan.print asJson, stderr := log query } }
  | .error error =>
    { output := { stderr := log query ++ (Failure.ofCompile error).lines }, code := 1 }

/-- What is written before each read of a session. -/
def prompt : String := "> "

/-- The line that ends a session. -/
def goodbye : String := "/bye"

/-- What a line of a session is answered, unless it ends the session. -/
def answer (engine : Engine) (now : Instant) (asJson : Bool) (log : String → List String)
    (line : String) : Option Output :=
  let query := Text.trimText line
  if query.isEmpty then some {}
  else if query = goodbye then none
  else
    match engine.plan now query none with
    | .ok plan => some { stdout := plan.print asJson, stderr := log query }
    | .error error =>
      some { stderr := log query ++ [Failure.compiling ++ ": " ++ error.message] }

/-- A session: a prompt before each read, which gives a line, fails or finds no more input. -/
def converse (engine : Engine) (now : Instant) (asJson : Bool) (log : String → List String) :
    List (Option String) → Report
  | [] => { output := { stdout := prompt } }
  | none :: _ => { output := { stdout := prompt, stderr := Failure.reading.lines }, code := 1 }
  | some line :: rest =>
    match answer engine now asJson log line with
    | none => { output := { stdout := prompt } }
    | some output =>
      let report := converse engine now asJson log rest
      { report with output := { stdout := prompt } ++ output ++ report.output }

/-! ### Runs -/

/-- What is set up before any query is planned. -/
structure Setup where
  asJson : Bool
  words : List String
  filter : LogFilter
  /-- The lines of the log. -/
  log : List String
  engine : Except Failure Engine

/-- The setup of an argument list, unless it is refused. -/
def setup? (arguments : List String) (files : FileSource) (journal : Journal) : Option Setup :=
  (Options.ofArguments? arguments).map fun options =>
    let (filter, refusals) := LogFilter.ofText (options.logLevel.getD "warn")
    let (records, engine) := engine options files journal
    { asJson := options.asJson
      words := options.words
      filter
      log := refusals ++ records.flatMap (Record.lines filter)
      engine }

/-- The lines of the log for a text that an engine plans. -/
def Setup.logOf (setup : Setup) (journal : Journal) (engine : Engine) (now : Instant)
    (text : String) : List String :=
  (journal.plan engine now text).flatMap (Record.lines setup.filter)

/-- A whole run: from arguments, files, input and clock to what is written and the exit code. The
log shows warnings and what the journal records below them. -/
def run (arguments : List String) (files : FileSource) (input : Input) (now : Instant)
    (journal : Journal := Journal.silent) : Report :=
  match setup? arguments files journal with
  | none => { code := 2 }
  | some setup =>
    match setup.engine with
    | .error failure => { output := { stderr := setup.log ++ failure.lines }, code := 1 }
    | .ok engine =>
      let log := setup.logOf journal engine now
      let report :=
        if setup.words.isEmpty then converse engine now setup.asJson log input.reads
        else single engine now setup.asJson log (String.intercalate " " setup.words)
      { report with output := { stderr := setup.log } ++ report.output }

end Cli

end TaskQuery
