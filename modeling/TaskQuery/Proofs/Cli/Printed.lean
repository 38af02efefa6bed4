/-
**What is printed for a plan, line by line.**

A plan is printed as its statement and then its command and its columns, each after the mark of a
comment. The statement and the columns are on one line whatever was asked, so all that is printed
after the statement is comments unless the command has a line break: what stands after the break
begins a line of its own. A session reads its queries line by line, so that only a query of the
arguments can have such a command.

* `Cli.lines_join`: the lines of some texts with a line break after each.
* `Query.subset_of_command`: the command of a query is made of characters of its text.
* `Plan.comments`: the comments after a statement.
* `Engine.isPrinted`: the lines that are printed for a plan.
* `Cli.run_prints`: what the arguments and the lines of a session make a run print.
-/

import TaskQuery.Proofs.Calendar.Marks
import TaskQuery.Proofs.Pieces
import TaskQuery.Proofs.Sql.OneLine
import TaskQuery.Proofs.Token.Covering

namespace TaskQuery

open Calendar (Instant Vantage)
open Text (IsOneLine)

/-! ### Lines -/

namespace Cli

/-- The lines of a text, of which the last one may be empty. -/
def breaks (text : String) : List String :=
  (text.toList.splitOn '\n').map String.ofList

theorem breaks_of_isOneLine {text : String} (unbroken : IsOneLine text) :
    breaks text = [text] := by
  rw [breaks, List.splitOn_eq_singleton unbroken, List.map_singleton, String.ofList_toList]

theorem breaks_append (text more : String) :
    breaks (text ++ "\n" ++ more) = breaks text ++ breaks more := by
  have whole : (text ++ "\n" ++ more).toList = text.toList ++ '\n' :: more.toList := by simp
  rw [breaks, whole, List.splitOn_append_cons_self, List.map_append]
  rfl

/-- The lines of a text; a line break at its end begins no further line. -/
def lines (text : String) : List String :=
  if (breaks text).getLast? = some "" then (breaks text).dropLast else breaks text

/-- A line break ends the lines before it. -/
theorem lines_append (text more : String) :
    lines (text ++ "\n" ++ more) = breaks text ++ lines more := by
  have written : breaks more ≠ [] := mt List.map_eq_nil_iff.mp (List.splitOn_ne_nil '\n' _)
  rw [lines, lines, breaks_append, List.getLast?_append_of_ne_nil _ written]
  split
  · rw [List.dropLast_append_of_ne_nil written]
  · rfl

theorem isOneLine_of_mem_breaks {text line : String} (member : line ∈ breaks text) :
    IsOneLine line := by
  obtain ⟨piece, isPiece, rfl⟩ := List.mem_map.mp member
  obtain ⟨_, unbroken⟩ := isInfix_of_mem_splitOnP piece isPiece
  refine Text.isOneLine_ofList.mpr fun member => ?_
  exact beq_eq_false_iff_ne.mp (unbroken '\n' member) rfl

/-- **The lines of some texts with a line break after each.** -/
theorem lines_join (texts : List String) :
    lines (String.join (texts.map (· ++ "\n"))) = texts.flatMap breaks := by
  induction texts with
  | nil => rfl
  | cons text texts inner =>
    rw [List.map_cons, String.join_cons, lines_append, inner, List.flatMap_cons]

/-- They are the texts exactly if each of those is on one line. -/
theorem flatMap_breaks_eq_iff {texts : List String} :
    texts.flatMap breaks = texts ↔ ∀ text ∈ texts, IsOneLine text := by
  constructor
  · intro same text member
    rw [← same] at member
    obtain ⟨_, _, isLine⟩ := List.mem_flatMap.mp member
    exact isOneLine_of_mem_breaks isLine
  · intro unbroken
    induction texts with
    | nil => rfl
    | cons text texts inner =>
      obtain ⟨here, later⟩ := List.forall_mem_cons.mp unbroken
      rw [List.flatMap_cons, breaks_of_isOneLine here, inner later, List.singleton_append]

/-- The lines that a session is given are on one line without the blanks at their ends. -/
theorem isOneLine_trimText_of_mem_reads {input : Input} {line : String}
    (isRead : some line ∈ input.reads) : IsOneLine (Text.trimText line) := by
  have inner := Input.notMem_dropLast_of_mem_reads isRead
  refine Text.isOneLine_ofList.mpr fun member => ?_
  rcases List.eq_nil_or_concat line.toList with none | ⟨before, last, whole⟩
  · rw [none] at member
    exact absurd member List.not_mem_nil
  · rw [whole, List.concat_eq_append] at inner member
    rw [List.dropLast_concat] at inner
    by_cases isBreak : last = '\n'
    · have blank : ∀ c ∈ [last], Text.isBlank c = true :=
        List.forall_mem_singleton.mpr (isBreak ▸ rfl)
      rw [Lexer.trim_append_blanks before blank] at member
      exact inner (Calendar.mem_of_mem_trim member)
    · rcases List.mem_append.mp (Calendar.mem_of_mem_trim member) with member | member
      · exact inner member
      · exact isBreak (List.mem_singleton.mp member).symm

end Cli

/-! ### Commands -/

namespace Query

/-- The command of a query is made of characters of its text. -/
theorem subset_of_command {vantage : Vantage} {text command : String}
    (found : (read vantage text).command = some command) : command.toList ⊆ text.toList := by
  obtain ⟨plain, extra, marked, parts⟩ := Lexer.exists_parts text.toList
  obtain ⟨payload, isPayload, rfl⟩ := Option.map_eq_some_iff.mp found
  have whole := parts.findSome?_command.symm.trans isPayload
  split at whole
  · cases whole
  · cases whole
    rw [String.toList_ofList, parts.whole]
    intro c member
    exact List.mem_append_right _ (List.mem_of_mem_drop (Calendar.mem_of_mem_trim member))

/-- A text on one line has a command on one line. -/
theorem isOneLine_command {vantage : Vantage} {text : String} (unbroken : IsOneLine text) :
    ∀ command ∈ (read vantage text).command, IsOneLine command :=
  fun _ found member => unbroken (subset_of_command found member)

end Query

/-! ### Plans -/

namespace Plan

variable {plan : Plan}

/-- The comments after the statement of a plan. -/
def comments (plan : Plan) : List String :=
  (plan.command.map ("-- command: " ++ ·)).toList ++
    if plan.shownColumns.isEmpty then []
    else ["-- columns: " ++ String.intercalate ", " plan.shownColumns]

/-- A plan is printed as its statement and its comments, with a line break after each. -/
theorem print_eq (plan : Plan) :
    plan.print false = String.join ((plan.sql :: plan.comments).map (· ++ "\n")) := by
  rw [print, if_neg Bool.false_ne_true, comments]
  cases plan.command <;> cases plan.shownColumns.isEmpty <;> simp [String.append_assoc]

/-- A comment begins with the mark of comments. -/
theorem isPrefix_of_mem_comments {comment : String} (member : comment ∈ plan.comments) :
    "--".toList <+: comment.toList := by
  have marked (mark text : String) (begins : "--".toList <+: mark.toList) :
      "--".toList <+: (mark ++ text).toList := by
    rw [String.toList_append]
    exact begins.trans (List.prefix_append _ _)
  rcases List.mem_append.mp member with member | member
  · obtain ⟨command, _, rfl⟩ := Option.map_eq_some_iff.mp (Option.mem_toList.mp member)
    exact marked "-- command: " command (by decide)
  · split at member
    · exact absurd member List.not_mem_nil
    · rw [List.mem_singleton.mp member]
      exact marked "-- columns: " _ (by decide)

/-- With the columns on one line, so are the comments exactly if the command is. -/
theorem isOneLine_comments_iff (columns : ∀ name ∈ plan.shownColumns, IsOneLine name) :
    (∀ comment ∈ plan.comments, IsOneLine comment) ↔
      ∀ command ∈ plan.command, IsOneLine command := by
  have listed : ∀ comment ∈ if plan.shownColumns.isEmpty then []
      else ["-- columns: " ++ String.intercalate ", " plan.shownColumns], IsOneLine comment := by
    split
    · exact fun comment none => absurd none List.not_mem_nil
    · exact List.forall_mem_singleton.mpr
        (.append (by decide) (Text.isOneLine_intercalate (by decide) columns))
  rw [comments, List.forall_mem_append, and_iff_left listed]
  cases plan.command with
  | none => simp
  | some command =>
    have marked : IsOneLine "-- command: " := by decide
    simp [Text.isOneLine_append_iff, marked]

end Plan

namespace Engine

variable {engine : Engine} {now : Instant} {text : String} {plan : Plan}

/-- The columns of a plan are on one line. -/
theorem isOneLine_shownColumns (planned : engine.plan now text none = .ok plan) :
    ∀ name ∈ plan.shownColumns, IsOneLine name := by
  obtain ⟨written, statement, _, _, _, _, columns⟩ := plan_eq_ok planned
  intro name member
  rw [columns] at member
  have isName := (Query.read_wellFormed (engine.vantage now) written).shownColumns name member
  exact Text.isOneLine_of_visible fun c inside => (ordinary_of_isTagName isName c inside).1

/-- A text on one line has a plan whose command is on one line. -/
theorem isOneLine_command (unbroken : IsOneLine text)
    (planned : engine.plan now text none = .ok plan) :
    ∀ command ∈ plan.command, IsOneLine command := by
  obtain ⟨_, _, _, _, _, command, _⟩ := plan_eq_ok planned
  rw [command]
  exact Query.isOneLine_command unbroken

end Engine

/-- The lines that are printed for a plan: its statement is the first of them, and the others are
comments, but a line break in the command begins a line of its own. -/
structure Plan.IsPrinted (plan : Plan) : Prop where
  sql : IsOneLine plan.sql
  comments : ∀ comment ∈ plan.comments, "--".toList <+: comment.toList
  lines : Cli.lines (plan.print false) = plan.sql :: plan.comments.flatMap Cli.breaks
  whole : Cli.lines (plan.print false) = plan.sql :: plan.comments ↔
    ∀ command ∈ plan.command, IsOneLine command

/-- **The lines that are printed for a plan** of an engine whose table names are on one line. -/
theorem Engine.isPrinted {engine : Engine} {now : Instant} {text : String} {plan : Plan}
    (unbroken : engine.database.schema.IsOneLine) (keeps : engine.database.quoter.KeepsLine)
    (planned : engine.plan now text none = .ok plan) : plan.IsPrinted := by
  have sql := isOneLine_sql unbroken keeps planned
  have lines : Cli.lines (plan.print false) = plan.sql :: plan.comments.flatMap Cli.breaks := by
    rw [plan.print_eq, Cli.lines_join, List.flatMap_cons, Cli.breaks_of_isOneLine sql,
      List.singleton_append]
  refine ⟨sql, fun _ => Plan.isPrefix_of_mem_comments, lines, ?_⟩
  rw [lines, List.cons_inj_right, Cli.flatMap_breaks_eq_iff]
  exact Plan.isOneLine_comments_iff (isOneLine_shownColumns planned)

/-! ### Runs -/

namespace Cli

section

variable {arguments : List String} {files : FileSource} {journal : Journal} {setup : Setup}
  {engine : Engine} {now : Instant}

/-- The engines of the command line write literals in the standard way. -/
theorem quoter_of_setup (isSetup : setup? arguments files journal = some setup)
    (built : setup.engine = .ok engine) : engine.database.quoter = Sql.Quoter.standard := by
  obtain ⟨options, _, rfl⟩ := Option.map_eq_some_iff.mp isSetup
  have built : (Cli.engine options files journal).2 = .ok engine := built
  unfold Cli.engine at built
  split at built
  · cases built
  · split at built
    · cases built
    · next settings _ _ _ _ _ =>
      obtain ⟨plain, isPlain, rfl⟩ := Outcome.map_eq_ok.mp built
      cases made : Engine.ofSettings settings with
      | error refusal =>
        rw [made] at isPlain
        cases isPlain
      | ok engine =>
        rw [made] at isPlain
        cases isPlain
        obtain ⟨zone, _, rfl⟩ := Outcome.map_eq_ok.mp made
        rfl

/-- Arguments that are words of a query set up an engine with the default settings. -/
theorem setup?_words (plain : ∀ argument ∈ arguments, argument.toList.head? ≠ some '-')
    (files : FileSource) (journal : Journal) :
    setup? arguments files journal = some
      { asJson := false, words := arguments
        filter := { directives := [{ target := none, level := .warn }] }
        log := []
        engine := .ok { zone := ⟨0, by decide⟩ } } := by
  have isFilter : LogFilter.ofText "warn" =
      ({ directives := [{ target := none, level := .warn }] }, []) := by decide +kernel
  exact setup?_eq (Options.ofArguments?_words plain) isFilter files journal

/-- A run with words prints the plan of the words, if they have one. -/
theorem run_worded_stdout (input : Input)
    (isSetup : setup? arguments files journal = some setup) (built : setup.engine = .ok engine)
    (worded : setup.words ≠ []) :
    (run arguments files input now journal).output.stdout =
      (single engine now setup.asJson (setup.logOf journal engine now)
        (String.intercalate " " setup.words)).output.stdout := by
  rw [run_worded input isSetup built worded]

/-- A single query prints its plan, if it has one. -/
theorem single_cases (engine : Engine) (now : Instant) (asJson : Bool)
    (log : String → List String) (text : String) :
    (∃ refusal, engine.plan now text none = .error refusal ∧
      (single engine now asJson log text).output.stdout = "") ∨
    ∃ plan, engine.plan now text none = .ok plan ∧
      (single engine now asJson log text).output.stdout = plan.print asJson := by
  unfold single
  cases planned : engine.plan now text none with
  | error refusal => exact .inl ⟨refusal, rfl, rfl⟩
  | ok plan => exact .inr ⟨plan, rfl, rfl⟩

/-- A line of a session prints its plan, if it is not blank and has one. -/
theorem shown_cases (engine : Engine) (now : Instant) (asJson : Bool) (line : String) :
    shown engine now asJson line = "" ∨
      ∃ plan, engine.plan now line none = .ok plan ∧
        shown engine now asJson line = plan.print asJson := by
  unfold shown
  split
  · exact .inl rfl
  · cases planned : engine.plan now line none with
    | error refusal => exact .inl rfl
    | ok plan => exact .inr ⟨plan, rfl, rfl⟩

end

/-- **What a run prints, line by line.** Whatever the arguments set up, if the table names are on
one line, the plan of any text is printed as its statement on one line and its comments on the
others, exactly if its command has no line break. A run with words prints the plan of the words; a
session prints that of each line that it reads, whose command never has a line break. -/
theorem run_prints {arguments : List String} {files : FileSource} {journal : Journal}
    {setup : Setup} {engine : Engine} (input : Input) (now : Instant)
    (isSetup : setup? arguments files journal = some setup) (built : setup.engine = .ok engine)
    (asText : setup.asJson = false) (unbroken : engine.database.schema.IsOneLine) :
    (∀ text plan, engine.plan now text none = .ok plan → plan.IsPrinted) ∧
    (setup.words ≠ [] →
      (∃ refusal, engine.plan now (String.intercalate " " setup.words) none = .error refusal ∧
        (run arguments files input now journal).output.stdout = "") ∨
      ∃ plan, engine.plan now (String.intercalate " " setup.words) none = .ok plan ∧
        (run arguments files input now journal).output.stdout = plan.print false) ∧
    (setup.words = [] →
      (run arguments files input now journal).output.stdout =
        String.join ((heard input.reads).map fun line => prompt ++ shown engine now false line)
          ++ prompt ∧
      ∀ line ∈ heard input.reads, shown engine now false line = "" ∨
        ∃ plan, engine.plan now line none = .ok plan ∧
          shown engine now false line = plan.print false ∧
          lines (plan.print false) = plan.sql :: plan.comments) := by
  have keeps : engine.database.quoter.KeepsLine := by
    rw [quoter_of_setup isSetup built]
    exact Sql.Quoter.standard_keepsLine
  refine ⟨fun _ _ => Engine.isPrinted unbroken keeps, fun worded => ?_, fun wordless => ⟨?_, ?_⟩⟩
  · rw [run_worded_stdout input isSetup built worded, asText]
    exact single_cases engine now false _ _
  · rw [run_wordless input isSetup built wordless, converse_eq, asText]
  · intro line isHeard
    have alone : IsOneLine (Text.trimText line) :=
      isOneLine_trimText_of_mem_reads (mem_of_mem_heard isHeard)
    refine (shown_cases engine now false line).imp_right ?_
    rintro ⟨plan, planned, prints⟩
    have isPrinted := Engine.isPrinted unbroken keeps planned
    have trimmed : engine.plan now (Text.trimText line) none = .ok plan :=
      (engine.plan_trimText now line none).trans planned
    exact ⟨plan, planned, prints,
      isPrinted.whole.mpr (Engine.isOneLine_command alone trimmed)⟩

/-- A column and a command of two words among the words of a query. -/
theorem run_prints_command :
    let arguments := ["milk", "#shop?", "#!", "mark", "done"]
    let files : FileSource := fun _ => none
    let engine : Engine := { zone := ⟨0, by decide⟩ }
    let filter : LogFilter := { directives := [{ target := none, level := .warn }] }
    let setup : Setup :=
      { asJson := false, words := arguments, filter, log := [], engine := .ok engine }
    setup? arguments files .silent = some setup ∧ setup.engine = .ok engine ∧
      setup.asJson = false ∧
      engine.database.schema.IsOneLine ∧
      ∃ plan, engine.plan Instant.unixEpoch "milk #shop? #! mark done" none = .ok plan ∧
        (run arguments files "" Instant.unixEpoch).output.stdout = plan.print false ∧
        lines (plan.print false) = plan.sql :: plan.comments := by
  intro arguments files engine filter setup
  have isSetup : setup? arguments files .silent = some setup :=
    setup?_words (by decide) files .silent
  have unbroken : engine.database.schema.IsOneLine := ⟨by decide, by decide, by decide⟩
  obtain ⟨isPrinted, worded, _⟩ := run_prints "" Instant.unixEpoch isSetup rfl rfl unbroken
  have written : String.intercalate " " setup.words = "milk #shop? #! mark done" := by decide
  have unrefused : Outcome.refusal?
      (engine.plan Instant.unixEpoch "milk #shop? #! mark done" none) = none := by
    decide +kernel
  rw [written] at worded
  rcases worded (List.cons_ne_nil _ _) with ⟨refusal, refused, _⟩ | ⟨plan, planned, prints⟩
  · rw [refused] at unrefused
    cases unrefused
  · refine ⟨isSetup, rfl, rfl, unbroken, plan, planned, prints, ?_⟩
    have oneLine : IsOneLine "milk #shop? #! mark done" := by decide
    exact (isPrinted _ plan planned).whole.mpr (Engine.isOneLine_command oneLine planned)

/-- A line break in a command of the arguments: what stands after it is printed as a line that is
neither the statement nor a comment. -/
theorem run_breaks_command :
    let text := "a #! b\nDROP TABLE tasks;"
    let files : FileSource := fun _ => none
    let engine : Engine := { zone := ⟨0, by decide⟩ }
    let filter : LogFilter := { directives := [{ target := none, level := .warn }] }
    let output := (run [text] files "" Instant.unixEpoch).output.stdout
    setup? [text] files .silent =
        some { asJson := false, words := [text], filter, log := [], engine := .ok engine } ∧
      engine.database.schema.IsOneLine ∧
      ∃ plan, engine.plan Instant.unixEpoch text none = .ok plan ∧ output = plan.print false ∧
        lines output = [plan.sql, "-- command: b", "DROP TABLE tasks;"] ∧
        ¬"--".toList <+: "DROP TABLE tasks;".toList := by
  intro text files engine filter output
  have isSetup : setup? [text] files .silent = some _ := setup?_words (by decide) files .silent
  have unbroken : engine.database.schema.IsOneLine := ⟨by decide, by decide, by decide⟩
  have parts : (engine.plan Instant.unixEpoch text none).toOption.map
      (fun plan => (plan.command, plan.shownColumns)) =
        some (some "b\nDROP TABLE tasks;", []) := by
    decide +kernel
  obtain ⟨plan, planned, parts⟩ := Option.map_eq_some_iff.mp parts
  obtain ⟨command, columns⟩ := Prod.mk.inj parts
  have planned := Outcome.toOption_eq_some.mp planned
  have isPrinted := Engine.isPrinted unbroken Sql.Quoter.standard_keepsLine planned
  have prints : output = plan.print false := by
    have worded : output = _ := run_worded_stdout "" isSetup rfl (List.cons_ne_nil _ _)
    rw [worded, String.intercalate_singleton, single, planned]
  have comments : plan.comments = ["-- command: b\nDROP TABLE tasks;"] := by
    rw [Plan.comments, command, columns]
    rfl
  refine ⟨isSetup, unbroken, plan, planned, prints, ?_, by decide⟩
  rw [prints, isPrinted.lines, comments]
  exact congrArg (plan.sql :: ·) (by decide)

end Cli

end TaskQuery
