import ShardMerge.Command.CommandLine
import ShardMerge.Command.Run

/-!
# Runs of the program

From the words of a command line to what is printed and how the program ends.

* `Program.start` decides what is to be done before anything is done.
* `Invocation.threshold` chooses the entries of the journal that are shown.
* `Program.run` is a whole run, and `Ending.exitCode` the number it ends with.
-/

namespace ShardMerge

/-- How a run of the program ends. -/
inductive Ending where
  /-- With a text to be printed. -/
  | printed (text : String)
  /-- With help in place of a command. -/
  | helped
  /-- The command line cannot be understood. -/
  | refused (e : UsageError)
  | failed (e : Error)
deriving DecidableEq, Repr

/-- The number that a run ends with. -/
def Ending.exitCode : Ending → UInt32
  | printed _ | helped => 0
  | failed _ => 1
  | refused _ => 2

namespace Invocation

/-- The variable that decides which entries of the journal are shown. -/
def thresholdVariable : String := "RUST_LOG"

/-- The entries of the journal that are shown: those that the environment asks for, or else those that
the command line does. -/
def threshold (environment : CommandLine.Environment) (i : Invocation) : Threshold :=
  match (environment.lookup thresholdVariable).bind Threshold.ofDirectives? with
  | some chosen => chosen
  | none => some (severityFor i.verbose i.quiet)

end Invocation

namespace Program

/-- The answer to a question for the version. -/
def versionText : String := programName ++ " 0.1.0\n"

/-- The ending of a command line that does not name a command with its options. -/
def endingOf : UsageError → Ending
  | .displayVersion => .printed versionText
  | .displayHelp => .helped
  | e => .refused e

/-- What a command line asks for, or the ending that it comes to at once. -/
def start (environment : CommandLine.Environment) (words : List String) :
    Except Ending Invocation :=
  match CommandLine.read environment words with
  | .ok invocation => .ok invocation
  | .error e => .error (endingOf e)

variable {m : Type → Type} [Monad m] [Host m] [CharacterProperties] [Url.DomainNames]
  [Server.Driver]

/-- Runs a command to its end. -/
def finish (command : Command) : m Ending := do
  match ← command.run.run with
  | .ok text => return .printed text
  | .error e => return .failed e

/-- Runs the program. -/
def run (environment : CommandLine.Environment) (words : List String) : m Ending :=
  match start environment words with
  | .ok invocation => finish invocation.command
  | .error ending => pure ending

end Program

end ShardMerge
