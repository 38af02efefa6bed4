/-
**The program on the command line.**

Reads the clock, the files that the arguments name and the lines of the input, and writes what the
run answers.
-/

import Std.Time.DateTime.Timestamp
import TaskQuery.Cli.Session

namespace TaskQuery.Terminal

open Calendar (Instant)

/-- The instant of the system clock. -/
def systemClock : IO Instant := do
  let now ← Std.Time.Timestamp.now
  return (Instant.ofNanoseconds? now.toNanosecondsSinceUnixEpoch.val).getD Instant.unixEpoch

/-- The text of a file, if it can be read. -/
def contentsOf (path : String) : IO (Option String) := do
  try
    return some (← IO.FS.readFile path)
  catch _ =>
    return none

/-- The files that the arguments name. -/
def namedFiles (arguments : List String) : IO FileSource := do
  match Cli.Options.ofArguments? arguments with
  | none => return fun _ => none
  | some options =>
    let paths := options.config.toList ++ options.saved.toList
    let contents ← paths.mapM fun path => do return (path, ← contentsOf path)
    return fun path => (contents.lookup path).join

/-- Writes to the two output streams. -/
def write (output : Cli.Output) : IO Unit := do
  for line in output.stderr do
    IO.eprintln line
  IO.print output.stdout
  (← IO.getStdout).flush

/-- The bytes of the next line of a stream with its line break, none at the end of the stream. -/
def nextLine (stream : IO.FS.Stream) : IO ByteArray := do
  let mut line := ByteArray.empty
  repeat
    let byte ← stream.read 1
    line := line ++ byte
    if byte.isEmpty || byte[0]? == some Cli.Input.lineBreak then
      break
  return line

/-- What the program records, but for its plans. -/
def journal : Cli.Journal :=
  .ofPlans fun _ _ _ => []

/-- Answers line by line until the input ends, a line ends the session or a read fails, and returns
the exit code. -/
def converse (setup : Cli.Setup) (engine : Engine) : IO UInt32 := do
  let input ← IO.getStdin
  repeat
    write { stdout := Cli.prompt }
    let line ← nextLine input
    if line.isEmpty then
      break
    match String.fromUTF8? line with
    | none =>
      write { stderr := Cli.Failure.reading.lines }
      return 1
    | some line =>
      let now ← systemClock
      let log := setup.logOf journal engine now
      match Cli.answer engine now setup.asJson log line with
      | none => break
      | some output => write output
  return 0

/-- Runs the program and returns its exit code. -/
def run (arguments : List String) : IO UInt32 := do
  match Cli.setup? arguments (← namedFiles arguments) journal with
  | none => return 2
  | some setup =>
    write { stderr := setup.log }
    match setup.engine with
    | .error failure =>
      write { stderr := failure.lines }
      return 1
    | .ok engine =>
      if setup.words.isEmpty then converse setup engine
      else
        let now ← systemClock
        let log := setup.logOf journal engine now
        let query := String.intercalate " " setup.words
        let report := Cli.single engine now setup.asJson log query
        write report.output
        return report.code.toUInt32

end TaskQuery.Terminal

def main (arguments : List String) : IO UInt32 :=
  TaskQuery.Terminal.run arguments
