/-
**A session answers each line as a single query would be.**

The program reads its input line by line, trims each line and plans it. Trimming changes neither
which lines end the session nor any plan, so the whole session can be told from the lines as they
were read: a prompt and the plan of each, up to the one that says goodbye. A read that fails ends
the session before that; an input that is a text has none.

* `Engine.plan_trimText`: the blanks at the ends of a text have no effect on its plan.
* `Cli.heard`, `Cli.breaksOff`: the lines that a session answers, and whether a read ends it.
* `Cli.converse_eq`: what a session writes for its reads.
* `Cli.Options.exists_ending`: every session has a command line that asks one query.
* `Cli.run_session`: what a whole run without words writes.
-/

import Mathlib.Data.List.DropRight
import TaskQuery.Cli.Session
import TaskQuery.Proofs.Cli.Reads
import TaskQuery.Proofs.Outcome
import TaskQuery.Proofs.Query.Concatenation

namespace TaskQuery

open Calendar (Instant Vantage)

/-! ### Trimmed texts -/

/-- The blanks at the ends of a text have no effect on its query. -/
theorem Query.read_trimText (vantage : Vantage) (text : String) :
    Query.read vantage (Text.trimText text) = Query.read vantage text := by
  let left := Text.trimLeft text.toList
  let blanks := String.ofList (left.rtakeWhile Text.isBlank)
  have blank : ∀ c ∈ blanks.toList, Text.isBlank c = true := fun c member =>
    List.mem_rtakeWhile_imp (String.toList_ofList ▸ member)
  have whole : Text.trimText text ++ blanks = String.ofList left := by
    refine String.toList_inj.mp ?_
    rw [String.toList_append, Text.trimText]
    simp only [blanks, String.toList_ofList]
    exact List.rdropWhile_append_rtakeWhile
  have same := read_append_blanks vantage (Text.trimText text) blank
  calc Query.read vantage (Text.trimText text)
      = Query.read vantage (Text.trimText text ++ blanks) := same.symm
    _ = Query.ofLexemes vantage (Lexer.lexemes left) := by
        rw [whole, read_eq_ofLexemes, String.toList_ofList]
    _ = Query.read vantage text := by
        rw [read_eq_ofLexemes]
        exact read_dropWhile vantage text.toList

/-- The blanks at the ends of a text have no effect on its plan. -/
theorem Engine.plan_trimText (engine : Engine) (now : Instant) (text : String)
    (filter : Option Filter) :
    engine.plan now (Text.trimText text) filter = engine.plan now text filter := by
  have same : engine.read now (Text.trimText text) = engine.read now text :=
    Query.read_trimText _ text
  rw [plan, plan, same]

/-! ### Refusals on one line -/

namespace Text

/-- A text without a line break. -/
def IsOneLine (text : String) : Prop :=
  '\n' ∉ text.toList

instance (text : String) : Decidable (IsOneLine text) :=
  inferInstanceAs (Decidable ('\n' ∉ text.toList))

theorem isOneLine_ofList {text : List Char} : IsOneLine (String.ofList text) ↔ '\n' ∉ text := by
  rw [IsOneLine, String.toList_ofList]

theorem isOneLine_append_iff {first second : String} :
    IsOneLine (first ++ second) ↔ IsOneLine first ∧ IsOneLine second := by
  unfold IsOneLine
  rw [String.toList_append, List.mem_append, not_or]

theorem IsOneLine.append {first second : String} (one : IsOneLine first)
    (other : IsOneLine second) : IsOneLine (first ++ second) :=
  isOneLine_append_iff.mpr ⟨one, other⟩

/-- No digit is a line break. -/
theorem newline_notMem_toDigits {base : Nat} (large : 1 < base) (value : Nat) :
    '\n' ∉ Nat.toDigits base value := by
  induction value using Nat.strongRecOn with
  | ind value inner =>
    rw [Nat.toDigits_eq_if large]
    split
    · simp
    · next big =>
      have smaller : value / base < value := Nat.div_lt_self (by omega) large
      exact List.not_mem_append (inner _ smaller) (by simp)

theorem isOneLine_integer (value : Int) : IsOneLine (toString value) := by
  have digits (value : Nat) : IsOneLine value.repr := by
    rw [IsOneLine, Nat.toList_repr]
    exact newline_notMem_toDigits (by decide) value
  cases value with
  | ofNat value => exact digits value
  | negSucc value =>
    show IsOneLine ("-" ++ (value + 1).repr)
    exact .append (by decide) (digits _)

theorem newline_notMem_escaped (c : Char) : '\n' ∉ escaped c := by
  have digits : '\n' ∉ Nat.toDigits 16 c.toNat := newline_notMem_toDigits (by decide) _
  unfold escaped
  split <;> try decide
  next _ _ different _ _ _ =>
    split
    · simpa using Ne.symm different
    · simpa using digits

/-- The quoted form of a text is on one line. -/
theorem isOneLine_quoted (text : String) : IsOneLine (quoted text) := by
  rw [IsOneLine, quoted, String.toList_ofList]
  simpa using fun c _ => newline_notMem_escaped c

end Text

/-- The wording of a refusal is on one line. -/
theorem CompileError.isOneLine_message (refusal : CompileError) :
    Text.IsOneLine refusal.message := by
  cases refusal with
  | unknownField field => exact .append (by decide) (Text.isOneLine_quoted _)
  | unknownOperator field op =>
    exact .append (.append (.append (by decide) (Text.isOneLine_quoted _)) (by decide))
      (Text.isOneLine_quoted _)
  | invalidDate fragment cause => exact .append (by decide) (Text.isOneLine_quoted _)
  | invalidPriority fragment => exact .append (by decide) (Text.isOneLine_quoted _)
  | unknownSearch name =>
    exact .append (.append (by decide) (Text.isOneLine_quoted _)) (by decide)
  | searchCycle name =>
    exact .append (.append (by decide) (Text.isOneLine_quoted _)) (by decide)
  | query cause =>
    cases cause with
    | offsetOutOfRange hours =>
      exact .append (.append (by decide) (Text.isOneLine_integer _)) (by decide)

namespace Cli

/-! ### Reads -/

/-- The lines that a session answers: those before a goodbye, a read that fails or the end. -/
def heard : List (Option String) → List String
  | some line :: rest => if Text.trimText line = goodbye then [] else line :: heard rest
  | _ => []

/-- Whether a session ends with a read that fails. -/
def breaksOff : List (Option String) → Bool
  | [] => false
  | none :: _ => true
  | some line :: rest => Text.trimText line != goodbye && breaksOff rest

theorem heard_map_some (lines : List String) :
    heard (lines.map some) = lines.takeWhile fun line => Text.trimText line != goodbye := by
  induction lines with
  | nil => rfl
  | cons line rest inner =>
    rw [List.map_cons, heard, inner]
    by_cases ends : Text.trimText line = goodbye <;> simp [ends]

/-- Lines that can all be read do not break a session off. -/
theorem breaksOff_map_some (lines : List String) : breaksOff (lines.map some) = false := by
  induction lines with
  | nil => rfl
  | cons line rest inner => rw [List.map_cons, breaksOff, inner, Bool.and_false]

theorem mem_of_mem_heard {reads : List (Option String)} {line : String}
    (isHeard : line ∈ heard reads) : some line ∈ reads := by
  fun_induction heard reads with
  | case1 => exact absurd isHeard List.not_mem_nil
  | case2 other rest goes inner =>
    rcases List.mem_cons.mp isHeard with rfl | isHeard
    · exact List.mem_cons_self
    · exact List.mem_cons_of_mem _ (inner isHeard)
  | case3 => exact absurd isHeard List.not_mem_nil

/-! ### Answers -/

section

variable {engine : Engine} {now : Instant} {asJson : Bool} {line : String}

/-- What a line makes a session print: nothing if it is blank or has no plan. -/
def shown (engine : Engine) (now : Instant) (asJson : Bool) (line : String) : String :=
  if (Text.trimText line).isEmpty then ""
  else
    match engine.plan now line none with
    | .ok plan => plan.print asJson
    | .error _ => ""

/-- What a session complains of a line, if the line is not blank and has no plan. -/
def complaint? (engine : Engine) (now : Instant) (line : String) : Option String :=
  if (Text.trimText line).isEmpty then none
  else
    match engine.plan now line none with
    | .ok _ => none
    | .error refusal => some (Failure.compiling ++ ": " ++ refusal.message)

/-- The lines of the log for a line of a session: none if the line is blank. -/
def logged (log : String → List String) (line : String) : List String :=
  if (Text.trimText line).isEmpty then [] else log (Text.trimText line)

/-- A line that does not end a session is answered as it was read. -/
theorem answer_eq (engine : Engine) (now : Instant) (asJson : Bool) (log : String → List String)
    (line : String) :
    answer engine now asJson log line =
      if Text.trimText line = goodbye then none
      else some { stdout := shown engine now asJson line
                  stderr := logged log line ++ (complaint? engine now line).toList } := by
  unfold answer shown complaint? logged
  dsimp only
  rw [engine.plan_trimText]
  by_cases blank : Text.trimText line = ""
  · rw [blank]
    rfl
  · have written : ¬(Text.trimText line).isEmpty = true := mt String.isEmpty_iff.mp blank
    simp only [if_neg written]
    split
    · rfl
    · cases engine.plan now line none <;> simp

/-- **What a session writes**: for each line before the end a prompt and the answer, and one prompt
more, after which a read that fails is reported. -/
theorem converse_eq (engine : Engine) (now : Instant) (asJson : Bool) (log : String → List String)
    (reads : List (Option String)) :
    converse engine now asJson log reads =
      { output :=
          { stdout := String.join ((heard reads).map fun line =>
              prompt ++ shown engine now asJson line) ++ prompt
            stderr := ((heard reads).flatMap fun line =>
                logged log line ++ (complaint? engine now line).toList) ++
              if breaksOff reads then Failure.reading.lines else [] }
        code := if breaksOff reads then 1 else 0 } := by
  fun_induction breaksOff reads with
  | case1 => rfl
  | case2 rest => rfl
  | case3 line rest inner =>
    rw [converse, answer_eq, heard]
    by_cases ends : Text.trimText line = goodbye
    · simp only [ends, if_true, bne_self_eq_false, Bool.false_and]
      rfl
    · have goes : (Text.trimText line != goodbye) = true := bne_iff_ne.mpr ends
      simp only [if_neg ends, goes, Bool.true_and, inner, List.map_cons, List.flatMap_cons,
        String.join_cons]
      show Report.mk (Output.append (Output.append _ _) _) _ = _
      unfold Output.append
      simp only [String.append_assoc, List.append_assoc, List.nil_append]

/-- A complaint is one line. -/
theorem isOneLine_of_complaint? {complaint : String}
    (complains : complaint? engine now line = some complaint) : Text.IsOneLine complaint := by
  unfold complaint? at complains
  split at complains
  · cases complains
  · split at complains
    · cases complains
    · next refusal _ =>
      cases complains
      exact .append (by decide) refusal.isOneLine_message

end

/-! ### The command line that asks one query -/

namespace Options

/-- Arguments can be followed by one more word of the query, whatever the word: after the two
hyphens that end the options, unless they stand there already. -/
theorem add?_ending {arguments : List String} {options result : Options} (line : String)
    (added : add? arguments options = some result) :
    ∃ ending, add? (arguments ++ ending) options =
      some { result with words := result.words ++ [line] } := by
  fun_induction add? arguments options with
  | case1 options =>
    cases added
    exact ⟨["--", line], rfl⟩
  | case2 argument rest options ends =>
    cases added
    refine ⟨[line], ?_⟩
    rw [List.cons_append, add?, ends]
    simp only [List.append_assoc]
  | case3 => cases added
  | case4 argument rest options text isWord inner =>
    obtain ⟨ending, asked⟩ := inner added
    refine ⟨ending, ?_⟩
    rw [List.cons_append, add?, isWord]
    exact asked
  | case5 => cases added
  | case6 argument rest options isJson first inner =>
    obtain ⟨ending, asked⟩ := inner added
    refine ⟨ending, ?_⟩
    rw [List.cons_append, add?, isJson]
    simp only [if_neg first]
    exact asked
  | case7 argument rest options name value isOption inner =>
    simp only [Option.bind_eq_bind, Option.bind_eq_some_iff] at added
    obtain ⟨option, named, next, isSet, added⟩ := added
    obtain ⟨ending, asked⟩ := inner next added
    refine ⟨ending, ?_⟩
    rw [List.cons_append, add?, isOption]
    simp only [named, isSet, Option.bind_eq_bind, Option.bind_some]
    exact asked
  | case8 => cases added
  | case9 argument options name notJson isOption value rest inner =>
    simp only [Option.bind_eq_bind, Option.bind_eq_some_iff] at added
    obtain ⟨option, named, added⟩ := added
    split at added
    · next admitted =>
      obtain ⟨next, isSet, added⟩ := Option.bind_eq_some_iff.mp added
      obtain ⟨ending, asked⟩ := inner next added
      refine ⟨ending, ?_⟩
      rw [List.cons_append, List.cons_append, add?, isOption]
      simp only [named, isSet, admitted, if_true, Option.bind_eq_bind, Option.bind_some]
      exact asked
    · cases added

end Options

/-- **Every session has a command line that asks one query** with the same setup. -/
theorem exists_ending {arguments : List String} {files : FileSource} {journal : Journal}
    {setup : Setup} (isSetup : setup? arguments files journal = some setup)
    (wordless : setup.words = []) (line : String) :
    ∃ ending, setup? (arguments ++ ending) files journal = some { setup with words := [line] } := by
  obtain ⟨options, isOptions, rfl⟩ := Option.map_eq_some_iff.mp isSetup
  obtain ⟨ending, asked⟩ := Options.add?_ending line isOptions
  have alone : options.words = [] := wordless
  refine ⟨ending, Option.map_eq_some_iff.mpr ⟨_, asked, ?_⟩⟩
  rw [alone]
  rfl

/-! ### Whole runs -/

section

variable {arguments : List String} {files : FileSource} {journal : Journal} {setup : Setup}
  {engine : Engine} {now : Instant} {line : String}

/-- A setup is made of the options and of what the filter of the log shows. -/
theorem setup?_eq {options : Options} {filter : LogFilter} {refusals : List String}
    (isOptions : Options.ofArguments? arguments = some options)
    (isFilter : LogFilter.ofText (options.logLevel.getD "warn") = (filter, refusals))
    (files : FileSource) (journal : Journal) :
    setup? arguments files journal = some
      { asJson := options.asJson, words := options.words, filter
        log := refusals ++ (Cli.engine options files journal).1.flatMap (Record.lines filter)
        engine := (Cli.engine options files journal).2 } := by
  rw [setup?, isOptions, Option.map_some, isFilter]

/-- Lines of the log are written before the other lines of an output. -/
theorem log_append (log : List String) (output : Output) :
    ({ stderr := log } : Output) ++ output = { output with stderr := log ++ output.stderr } := by
  show Output.mk ("" ++ output.stdout) _ = _
  rw [String.empty_append]

/-- A run without words is a session. -/
theorem run_wordless (input : Input) (isSetup : setup? arguments files journal = some setup)
    (built : setup.engine = .ok engine) (wordless : setup.words = []) :
    run arguments files input now journal =
      let report :=
        converse engine now setup.asJson (setup.logOf journal engine now) input.reads
      { report with output := { report.output with
          stderr := setup.log ++ report.output.stderr } } := by
  rw [run, isSetup]
  simp only [built, wordless, List.isEmpty_nil, if_true, log_append]

/-- A run with words asks one query. -/
theorem run_worded (input : Input) (isSetup : setup? arguments files journal = some setup)
    (built : setup.engine = .ok engine) (worded : setup.words ≠ []) :
    run arguments files input now journal =
      let report := single engine now setup.asJson (setup.logOf journal engine now)
        (String.intercalate " " setup.words)
      { report with output := { report.output with
          stderr := setup.log ++ report.output.stderr } } := by
  rw [run, isSetup]
  simp only [built, List.isEmpty_eq_false_iff.mpr worded, log_append]
  rfl

/-- A single query that is not blank prints what a session would. -/
theorem single_stdout (visible : Text.trimText line ≠ "") (asJson : Bool)
    (log : String → List String) :
    (single engine now asJson log line).output.stdout = shown engine now asJson line := by
  have written : ¬(Text.trimText line).isEmpty = true := mt String.isEmpty_iff.mp visible
  rw [single, shown, if_neg written]
  cases engine.plan now line none <;> rfl

/-- A single query fails where a session would complain. -/
theorem single_code (visible : Text.trimText line ≠ "") (asJson : Bool)
    (log : String → List String) :
    (single engine now asJson log line).code = 0 ↔ complaint? engine now line = none := by
  have written : ¬(Text.trimText line).isEmpty = true := mt String.isEmpty_iff.mp visible
  rw [single, complaint?, if_neg written]
  cases engine.plan now line none <;> simp

end

/-- **A session answers each line as a single query would be.** Whatever the arguments without words
set up, a run writes for each line that it reads, up to the one that says goodbye or to a read that
fails, a prompt and what the line has for an answer as it stands, then one prompt more; each line
without a plan is one line of complaint, after the lines of the log for it. The run succeeds unless
a read fails, which is reported last. The reads of a text never fail, and give the text line by
line. A run that asks for a line that is not blank on its command line prints the same for it, and
succeeds exactly if there is nothing to complain of. -/
theorem run_session {arguments : List String} {files : FileSource} {journal : Journal}
    {setup : Setup} {engine : Engine} (input : Input) (now : Instant)
    (isSetup : setup? arguments files journal = some setup) (built : setup.engine = .ok engine)
    (wordless : setup.words = []) :
    run arguments files input now journal =
      { output :=
          { stdout := String.join ((heard input.reads).map fun line =>
              prompt ++ shown engine now setup.asJson line) ++ prompt
            stderr := setup.log ++ ((heard input.reads).flatMap fun line =>
                logged (setup.logOf journal engine now) line ++
                  (complaint? engine now line).toList) ++
              if breaksOff input.reads then Failure.reading.lines else [] }
        code := if breaksOff input.reads then 1 else 0 } ∧
    (∀ text : String, input = text →
      breaksOff input.reads = false ∧
      heard input.reads =
        (Input.linesOf text).takeWhile (fun line => Text.trimText line != goodbye) ∧
      String.join (Input.linesOf text) = text) ∧
    (∀ line complaint, complaint? engine now line = some complaint → Text.IsOneLine complaint) ∧
    ∀ line, Text.trimText line ≠ "" → ∃ ending,
      setup? (arguments ++ ending) files journal = some { setup with words := [line] } ∧
      ∀ other,
        (run (arguments ++ ending) files other now journal).output.stdout =
          shown engine now setup.asJson line ∧
        ((run (arguments ++ ending) files other now journal).code = 0 ↔
          complaint? engine now line = none) := by
  refine ⟨?_, ?_, fun _ _ => isOneLine_of_complaint?, fun line visible => ?_⟩
  · rw [run_wordless input isSetup built wordless, converse_eq, List.append_assoc]
  · rintro text rfl
    rw [Input.reads_ofText]
    exact ⟨breaksOff_map_some _, heard_map_some _, Input.join_linesOf text⟩
  · obtain ⟨ending, asked⟩ := exists_ending isSetup wordless line
    refine ⟨ending, asked, fun other => ?_⟩
    rw [run_worded other asked built (List.cons_ne_nil _ _), String.intercalate_singleton]
    exact ⟨single_stdout visible setup.asJson _, single_code visible setup.asJson _⟩

/-- A blank line, an unknown field, blanks around a query and around the goodbye, and a last line
without a break that is not read any more; the log says what has been planned. -/
theorem run_session_goodbye :
    let files : FileSource := fun _ => none
    let engine : Engine := { zone := ⟨0, by decide⟩ }
    let filter : LogFilter := { directives := [{ target := none, level := .debug }] }
    let setup : Setup :=
      { asJson := false, words := [], filter, log := [], engine := .ok engine }
    let journal : Journal := .ofPlans fun _ _ text =>
      [{ severity := .debug, target := "taskql::engine", message := "planned query " ++ text }]
    let text := "\u3000\n#a\n#:size=1\n\t#b\u2003\n\u00a0/bye \n#c"
    let print (line : String) := shown engine Instant.unixEpoch false line
    setup? ["--log-level", "debug"] files journal = some setup ∧ setup.engine = .ok engine ∧
      setup.words = [] ∧
      run ["--log-level", "debug"] files text Instant.unixEpoch journal =
        { output :=
            { stdout := "> > " ++ print "#a\n" ++ "> > " ++ print "\t#b\u2003\n" ++ "> "
              stderr :=
                ["DEBUG taskql::engine: planned query #a",
                  "DEBUG taskql::engine: planned query #:size=1",
                  "Failed to compile query: unknown pseudo-field \":size\"",
                  "DEBUG taskql::engine: planned query #b"] }
          code := 0 } := by
  intro files engine filter setup journal text print
  have isOptions : Options.ofArguments? ["--log-level", "debug"] =
      some { logLevel := some "debug" } := by decide
  have isFilter : LogFilter.ofText "debug" = (filter, []) := by decide +kernel
  have isSetup : setup? ["--log-level", "debug"] files journal = some setup :=
    setup?_eq isOptions isFilter files journal
  obtain ⟨isRun, isText, _⟩ := run_session text Instant.unixEpoch isSetup rfl rfl
  obtain ⟨whole, isHeard, _⟩ := isText text rfl
  have answered : heard (Input.ofText text).reads =
      ["\u3000\n", "#a\n", "#:size=1\n", "\t#b\u2003\n"] := by
    rw [isHeard]
    decide +kernel
  refine ⟨isSetup, rfl, rfl, ?_⟩
  rw [isRun, answered, whole]
  decide +kernel

/-- A byte that begins no character stands between two lines that have a plan: the second one is not
answered, and the run fails. -/
theorem run_breaks_off :
    let engine : Engine := { zone := ⟨0, by decide⟩ }
    let input : Input := ⟨[35, 97, 10, 255, 10, 35, 98, 10]⟩
    let print (line : String) := shown engine Instant.unixEpoch false line
    input.reads = [some "#a\n", none, some "#b\n"] ∧ print "#b\n" ≠ "" ∧
      run [] (fun _ => none) input Instant.unixEpoch =
        { output :=
            { stdout := "> " ++ print "#a\n" ++ "> "
              stderr :=
                ["Error: Failed to read stdin", "", "Caused by:",
                  "    stream did not contain valid UTF-8"] }
          code := 1 } := by
  intro engine input print
  exact ⟨by decide +kernel, by decide +kernel, by decide +kernel⟩

end Cli

end TaskQuery
