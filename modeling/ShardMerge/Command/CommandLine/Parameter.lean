import ShardMerge.Command.Arguments
import ShardMerge.Text.Decimal

/-!
# Options

The options of all commands: how each is spelled, what may follow it, and which values it takes.

* `Parameter.checkValue` says what is wrong with a value.
* `UsageError` names everything that can be wrong with a command line.
-/

namespace ShardMerge

/-- What is wrong with a command line, and the two requests that take its place. -/
inductive UsageError where
  | missingRequiredArgument
  | unknownArgument
  | invalidSubcommand
  | missingSubcommand
  | invalidValue
  /-- A value has the wrong form. -/
  | valueValidation
  /-- An option that may be given once is given again. -/
  | argumentConflict
  /-- A value is attached to an option without one. -/
  | tooManyValues
  | displayHelp
  | displayVersion
  /-- Nothing at all is asked for. -/
  | displayHelpOnMissing
deriving DecidableEq, Repr

/-- The name under which a usage error is reported. -/
def UsageError.name : UsageError → String
  | missingRequiredArgument => "MissingRequiredArgument"
  | unknownArgument => "UnknownArgument"
  | invalidSubcommand => "InvalidSubcommand"
  | missingSubcommand => "MissingSubcommand"
  | invalidValue => "InvalidValue"
  | valueValidation => "ValueValidation"
  | argumentConflict => "ArgumentConflict"
  | tooManyValues => "TooManyValues"
  | displayHelp => "DisplayHelp"
  | displayVersion => "DisplayVersion"
  | displayHelpOnMissing => "DisplayHelpOnMissingArgumentOrSubcommand"

namespace CommandLine

open Text

/-- The options of all commands. -/
inductive Parameter where
  | help
  | version
  | verbose
  | quiet
  | logFormat
  | source
  | passwordPrompt
  | warehouse
  | targetDatabase
  | targetTable
  | databasePattern
  | tablePattern
  | matcher
  | primaryKeys
  | partitionKeys
  | tableOption
  | maxConcurrency
  | includeSystem
  | dryRun
  | output
  | format
  | events
  | oldDefinition
  | newDefinition
deriving DecidableEq, Repr

/-- What may follow an option, and how often it may be given. -/
inductive Arity where
  /-- Shows something in place of running a command. -/
  | display (what : UsageError)
  /-- No value, once. -/
  | flag
  /-- No value, any number of times. -/
  | count
  /-- One value, once. -/
  | single
  /-- One value each time. -/
  | many
  /-- Values with commas between them each time. -/
  | commas

namespace Parameter

/-- The long form without its dashes. -/
def long : Parameter → String
  | help => "help"
  | version => "version"
  | verbose => "verbose"
  | quiet => "quiet"
  | logFormat => "log-format"
  | source => "source"
  | passwordPrompt => "password-prompt"
  | warehouse => "warehouse"
  | targetDatabase => "target-database"
  | targetTable => "target-table"
  | databasePattern => "database-pattern"
  | tablePattern => "table-pattern"
  | matcher => "matcher"
  | primaryKeys => "primary-keys"
  | partitionKeys => "partition-keys"
  | tableOption => "table-option"
  | maxConcurrency => "max-concurrency"
  | includeSystem => "include-system"
  | dryRun => "dry-run"
  | output => "output"
  | format => "format"
  | events => "events"
  | oldDefinition => "from"
  | newDefinition => "to"

/-- The letter of the short form. -/
def short? : Parameter → Option Char
  | help => some 'h'
  | version => some 'V'
  | verbose => some 'v'
  | quiet => some 'q'
  | output => some 'o'
  | _ => none

/-- What may follow the option. -/
def arity : Parameter → Arity
  | help => .display .displayHelp
  | version => .display .displayVersion
  | verbose => .count
  | quiet | passwordPrompt | includeSystem | dryRun => .flag
  | primaryKeys | partitionKeys => .commas
  | tableOption => .many
  | _ => .single

/-- Whether a value follows. -/
def takesValue (p : Parameter) : Bool :=
  match p.arity with
  | .display _ | .flag | .count => false
  | .single | .many | .commas => true

/-- Whether the option may be given again. -/
def mayRepeat (p : Parameter) : Bool :=
  match p.arity with
  | .count | .many | .commas => true
  | .display _ | .flag | .single => false

/-- What is wrong with a value. -/
def checkValue (p : Parameter) (value : String) : Except UsageError Unit :=
  let parsed {α : Type} (outcome : Except Error α) : Except UsageError Unit :=
    match outcome with
    | .ok _ => .ok ()
    | .error _ => .error .valueValidation
  match p with
  | warehouse | output | events => if value.isEmpty then .error .invalidValue else .ok ()
  | format => if value = "text" || value = "json" then .ok () else .error .invalidValue
  | logFormat => parsed (LogFormat.ofText value)
  | matcher => parsed (PatternKind.ofText value)
  | tableOption => parsed (TableOption.ofText value)
  | maxConcurrency =>
    if (Decimal.readUInt64 value.toList).isSome then .ok () else .error .valueValidation
  | _ => .ok ()

/-- The values that one word stands for. -/
def splitValue (p : Parameter) (value : String) : List String :=
  match p.arity with
  | .commas => (splitWhen (· = ',') value.toList).map String.ofList
  | _ => [value]

end Parameter

end CommandLine

end ShardMerge
