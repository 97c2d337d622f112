import ShardMerge.Command.Program
import Std.Time.DateTime

/-!
# The program

The command line program: `Program.run` on a host that is the machine itself.  The journal goes to
standard error, and the text of the command to standard output.
-/

namespace ShardMerge

/-- How the journal of a run is shown. -/
structure Console where
  threshold : Threshold
  format : LogFormat

/-- What runs on the machine itself. -/
abbrev Machine := ReaderT Console IO

namespace Machine

/-- The fault behind an error of a file operation. -/
def faultOf : IO.Error → Fault
  | .noFileOrDirectory .. => .notFound
  | .alreadyExists .. => .alreadyExists
  | _ => .other

/-- The outcome of a file operation. -/
def outcome {α : Type} (operation : IO α) : Machine (Except Fault α) := fun _ => do
  try return .ok (← operation)
  catch e => return .error (faultOf e)

/-- The present moment. -/
def clock : IO Timestamp := do
  let time := Std.Time.PlainDateTime.ofWallTime (.ofTimestamp (← Std.Time.Timestamp.now) .zero)
  return {
    year := time.year.toInt
    month := time.month.val.toNat
    day := time.day.val.toNat
    hour := time.hour.val.toNat
    minute := time.minute.val.toNat
    second := time.second.val.toNat
    nanos := time.nanosecond.val.toNat }

instance : Host Machine where
  readText path := outcome (IO.FS.readFile path)
  listNames path := outcome do
    return (← ((← IO.currentDir) / path).readDir).toList.map fun entry => entry.fileName
  isPresent path := outcome do
    try
      let _ ← ((← IO.currentDir) / path).metadata
      return true
    catch
      | .noFileOrDirectory .. => return false
      | e => throw e
  createDirectories path := outcome (IO.FS.createDirAll path)
  createNew path text := outcome do
    let handle ← IO.FS.Handle.mk path .writeNew
    handle.putStr text
    handle.flush
  writeText path text := outcome (IO.FS.writeFile path text)
  now := fun _ => clock
  record entry := fun console => do
    if console.threshold.shows entry.severity then
      IO.eprint (entry.line console.format (toString (← clock)))
  -- There is no way to read a password without showing it.
  askPassword _ := return none

end Machine

/-- The variables that the program looks at, as far as they are set. -/
def environment : IO CommandLine.Environment := do
  let names := Invocation.thresholdVariable :: CommandLine.environmentNames.map Prod.snd
  names.filterMapM fun name => do
    return (← IO.getEnv name).map fun value => (name, value)

/-- Shows the ending of a run. -/
def report : Ending → IO Unit
  | .printed text => IO.print text
  | .helped => IO.print CommandLine.overview
  | .refused e => IO.eprint s!"error: {e.name}\n\n{CommandLine.overview}"
  | .failed e => IO.eprintln s!"Error: {e}"

/-- Runs the program with the words of a command line. -/
def runWords (words : List String) : IO UInt32 := do
  let environment ← environment
  let ending ←
    match Program.start environment words with
    | .error ending => pure ending
    | .ok invocation =>
      let console : Console :=
        { threshold := invocation.threshold environment, format := invocation.logFormat }
      (Program.finish invocation.command : Machine Ending).run console
  report ending
  return ending.exitCode

end ShardMerge

/-- The program. -/
def main (words : List String) : IO UInt32 := ShardMerge.runWords words
