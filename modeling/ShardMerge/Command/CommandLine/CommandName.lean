import ShardMerge.Command.CommandLine.Parameter

/-!
# Names of commands

The commands by their words, and the options that each of them has and needs.

* `CommandLine.overview` shows all of them to a reader.
-/

namespace ShardMerge

namespace CommandLine

open Parameter

/-- The options that hold for every command. -/
def common : List Parameter := [help, verbose, quiet, logFormat]

/-- The names of the commands. -/
inductive CommandName where
  | syncTable
  | replay
  | checkChange
  | test
  | listTypes
deriving DecidableEq, Repr

namespace CommandName

/-- The commands. -/
def all : List CommandName := [syncTable, replay, checkChange, test, listTypes]

/-- The word of a command. -/
def word : CommandName → String
  | syncTable => "sync-table"
  | replay => "replay"
  | checkChange => "check-change"
  | test => "test"
  | listTypes => "list-types"

/-- The command of a word. -/
def ofWord? (word : String) : Option CommandName := all.find? fun name => name.word = word

/-- The options of a command. -/
def parameters : CommandName → List Parameter
  | syncTable =>
    [source, passwordPrompt, warehouse, targetDatabase, targetTable, databasePattern, tablePattern,
      matcher, primaryKeys, partitionKeys, tableOption, maxConcurrency, includeSystem, dryRun,
      output, format]
  | replay => [warehouse, targetDatabase, targetTable, events, dryRun, format]
  | checkChange => [oldDefinition, newDefinition]
  | test => [source, passwordPrompt]
  | listTypes => []

/-- The options that a command needs. -/
def required : CommandName → List Parameter
  | syncTable => [source, warehouse, targetDatabase, targetTable]
  | replay => [warehouse, targetDatabase, targetTable, events]
  | checkChange => [oldDefinition, newDefinition]
  | test => [source]
  | listTypes => []

end CommandName

/-- The word that asks for help on a command. -/
def helpWord : String := "help"

/-- Whether a word names a command or asks for help. -/
def isCommandWord (word : String) : Bool :=
  word = helpWord || (CommandName.ofWord? word).isSome

/-- How an option is written, in brackets unless it is needed. -/
def usageOf (isNeeded : Bool) (p : Parameter) : String :=
  let written := "--" ++ p.long ++ (if p.takesValue then " VALUE" else "")
  if isNeeded then written else "[" ++ written ++ "]"

/-- The commands with their options, one a line. -/
def overview : String :=
  let options (needed allowed : List Parameter) :=
    String.join (allowed.map fun p => " " ++ usageOf (needed.contains p) p)
  "Usage: " ++ programName ++ options [] (version :: common) ++ " COMMAND\n\nCommands:\n" ++
    String.join (CommandName.all.map fun name =>
      "  " ++ name.word ++ options name.required name.parameters ++ "\n")

end CommandLine

end ShardMerge
