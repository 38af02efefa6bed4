/-
**Command line options.**

Options begin with two hyphens and take their value from the next argument or after an equals sign;
each may stand once, before or after the words of the query. Two hyphens alone end the options.

* `Options.ofArguments?`: the options of an argument list, unless it is refused.
* `ofArguments?_words`: arguments that do not begin with a hyphen are the words of the query.
-/

import TaskQuery.Text.Numeral

namespace TaskQuery.Cli

/-- What the command line asks for. -/
structure Options where
  /-- The path of the settings. -/
  config : Option String := none
  /-- The hours from UTC, in place of those of the settings. -/
  offset : Option Int := none
  /-- The path of the saved searches. -/
  saved : Option String := none
  /-- Whether plans are printed as JSON. -/
  asJson : Bool := false
  /-- Which log lines are shown. -/
  logLevel : Option String := none
  /-- The words of the query; without any, queries are read line by line. -/
  words : List String := []
  deriving DecidableEq, Repr

/-- The options that take a value. -/
inductive ValueOption where
  | config
  | offset
  | saved
  | logLevel
  deriving DecidableEq, Repr

namespace ValueOption

/-- The option of a name. -/
def ofName? : String → Option ValueOption
  | "config" => some config
  | "tz" => some offset
  | "saved" => some saved
  | "log-level" => some logLevel
  | _ => none

/-- Whether an argument may be the value of an option: one that begins with a hyphen only if it is a
hyphen alone or, for an offset, a negative number. -/
def admits (option : ValueOption) (argument : String) : Bool :=
  match argument.toList with
  | '-' :: _ :: _ => option == offset && (Text.int8? argument).isSome
  | _ => true

end ValueOption

namespace Options

/-- Stores a value that has not been given before. -/
def once? {α : Type} (before : Option α) (value : α) : Option (Option α) :=
  match before with
  | none => some (some value)
  | some _ => none

/-- A path: any text but the empty one. -/
def path? (text : String) : Option String :=
  if text.isEmpty then none else some text

/-- The options with one more value, if it is valid and the first of its option. -/
def set? (options : Options) : ValueOption → String → Option Options
  | .config, value => do
    pure { options with config := ← once? options.config (← path? value) }
  | .offset, value => do
    pure { options with offset := ← once? options.offset (← Text.int8? value) }
  | .saved, value => do
    pure { options with saved := ← once? options.saved (← path? value) }
  | .logLevel, value => do
    pure { options with logLevel := ← once? options.logLevel value }

/-- What an argument is. -/
inductive Argument where
  /-- The end of the options. -/
  | endOfOptions
  /-- An option, with the value after its equals sign if it has one. -/
  | option (name : String) (value : Option String)
  /-- An argument that begins with one hyphen and goes on. -/
  | short
  | word (text : String)
  deriving DecidableEq, Repr

/-- Tells what an argument is. -/
def Argument.ofText (argument : String) : Argument :=
  match argument.toList with
  | ['-', '-'] => .endOfOptions
  | '-' :: '-' :: body =>
    let name := String.ofList (body.takeWhile (· != '='))
    match body.dropWhile (· != '=') with
    | [] => .option name none
    | _ :: value => .option name (some (String.ofList value))
  | '-' :: _ :: _ => .short
  | _ => .word argument

/-- Adds arguments to options; an argument that cannot be understood refuses them all. -/
def add? : List String → Options → Option Options
  | [], options => some options
  | argument :: rest, options =>
    match Argument.ofText argument with
    | .endOfOptions => some { options with words := options.words ++ rest }
    | .short => none
    | .word text => add? rest { options with words := options.words ++ [text] }
    | .option "json" none =>
      if options.asJson then none else add? rest { options with asJson := true }
    | .option name (some value) => do
      add? rest (← options.set? (← ValueOption.ofName? name) value)
    | .option name none =>
      match rest with
      | [] => none
      | value :: rest => do
        let option ← ValueOption.ofName? name
        if option.admits value then add? rest (← options.set? option value) else none

/-- The options of an argument list, unless it is refused. -/
def ofArguments? (arguments : List String) : Option Options :=
  add? arguments {}

/-- Arguments that do not begin with a hyphen are the words of the query. -/
theorem add?_words {arguments : List String} {options : Options}
    (plain : ∀ argument ∈ arguments, argument.toList.head? ≠ some '-') :
    add? arguments options = some { options with words := options.words ++ arguments } := by
  induction arguments generalizing options with
  | nil => simp [add?]
  | cons argument rest inner =>
    have word : Argument.ofText argument = .word argument := by
      have first := plain argument List.mem_cons_self
      unfold Argument.ofText
      split <;> simp_all
    rw [add?, word]
    dsimp only
    rw [inner fun other member => plain other (List.mem_cons_of_mem _ member)]
    simp

theorem ofArguments?_words {arguments : List String}
    (plain : ∀ argument ∈ arguments, argument.toList.head? ≠ some '-') :
    ofArguments? arguments = some { words := arguments } := by
  simpa [ofArguments?] using @add?_words arguments {} plain

end Options

end TaskQuery.Cli
