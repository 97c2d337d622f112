import ShardMerge.Command.CommandLine.Words

/-!
# The command line

How a command is written in words.  Options begin with two dashes, some have a short form with one;
a value follows in the next word, after an equals sign, or directly behind a short form.

* `CommandLine.read` reads the words into an `Invocation`, or names what is wrong with them.
* The words up to the command set what holds for every command.  Such an option may also follow the
  command, and then comes before the one in front of it.
-/

namespace ShardMerge

namespace CommandLine

open Text
open Parameter

/-- The values of variables outside of the command line. -/
abbrev Environment := List (String × String)

/-- The options that a variable stands for when they are not given, with its name. -/
def environmentNames : List (Parameter × String) :=
  [(source, "SOURCE_DATABASE_URL"), (warehouse, "CDCSYNC_WAREHOUSE")]

/-- Takes an option from its variable unless it is given. -/
def fillFrom (environment : Environment) (g : Given) (p : Parameter) : Except UsageError Given :=
  if g.has p then .ok g
  else
    match (environmentNames.lookup p).bind fun name => environment.lookup name with
    | none => .ok g
    | some value => g.accept p (p.splitValue value)

/-- Reads the options of a command. -/
def readCommand (environment : Environment) (name : CommandName) (words : List String) :
    Except UsageError Given := do
  let (g, _) ← readWords false (common ++ name.parameters) {} words
  let g ← g.settle
  let g ← name.parameters.foldlM (fillFrom environment) g
  if name.required.all g.has then .ok g else .error .missingRequiredArgument

namespace Given

/-- The values of an option in order. -/
def all (g : Given) (p : Parameter) : List String :=
  g.values.filterMap fun (q, value) => if q = p then some value else none

/-- The value of an option that may be given once. -/
def one? (g : Given) (p : Parameter) : Option String := (g.all p).head?

/-- The value of an option, or a default. -/
def oneOr (g : Given) (p : Parameter) (default : String) : String := (g.one? p).getD default

/-- The target table. -/
def target (g : Given) : TableName :=
  { database := g.oneOr targetDatabase "", table := g.oneOr targetTable "" }

/-- The format of the result. -/
def outputFormat (g : Given) : OutputFormat :=
  if g.one? format = some "json" then .json else .text

/-- The format of the lines of the journal. -/
def journalFormat (g : Given) : LogFormat :=
  ((g.one? logFormat).bind fun text => (LogFormat.ofText text).toOption).getD .text

/-- The selection of source tables. -/
def discovery (g : Given) : DiscoveryConfig :=
  let base : DiscoveryConfig := {}
  let kind := (g.one? matcher).bind fun text => (PatternKind.ofText text).toOption
  let concurrency := (g.one? maxConcurrency).bind fun text => Decimal.readUInt64 text.toList
  { base with
    databasePattern := g.oneOr databasePattern base.databasePattern
    tablePattern := g.oneOr tablePattern base.tablePattern
    kind := kind.getD base.kind
    includeSystem := g.has includeSystem }.withMaxConcurrency
      (concurrency.getD base.maxConcurrency)

/-- What is synchronized. -/
def syncConfig (g : Given) : SyncConfig :=
  let options := (g.all tableOption).filterMap fun text => (TableOption.ofText text).toOption
  { discovery := g.discovery
    target := g.target
    primaryKeys := g.all primaryKeys
    partitionKeys := g.all partitionKeys
    tableOptions := .ofList options
    dryRun := g.has dryRun }

/-- The command with its options. -/
def command (g : Given) : CommandName → Command
  | .syncTable =>
    .syncTable {
      source := g.oneOr source ""
      askPassword := g.has passwordPrompt
      warehouse := g.oneOr warehouse ""
      config := g.syncConfig
      output := g.one? output
      format := g.outputFormat }
  | .replay =>
    .replay {
      warehouse := g.oneOr warehouse ""
      target := g.target
      events := g.oneOr events ""
      dryRun := g.has dryRun
      format := g.outputFormat }
  | .checkChange => .checkChange (g.oneOr oldDefinition "") (g.oneOr newDefinition "")
  | .test => .test (g.oneOr source "") (g.has passwordPrompt)
  | .listTypes => .listTypes

end Given

/-- The most often that more entries of the journal can be asked for. -/
def mostVerbose : Nat := 255

/-- A command with what holds for every command, which is taken from behind the command if it is
given there. -/
def assemble (front back : Given) (name : CommandName) : Invocation :=
  let level (p : Parameter) := if back.has p then back else front
  { verbose := min ((level verbose).all verbose).length mostVerbose
    quiet := (level quiet).has quiet
    logFormat := (level logFormat).journalFormat
    command := back.command name }

/-- Reads the words after the one that asks for help. -/
def readHelp : List String → UsageError
  | [] => .displayHelp
  | [word] => if isCommandWord word then .displayHelp else .invalidSubcommand
  | _ => .invalidSubcommand

/-- Reads the words of a command line, without the name of the program. -/
def read (environment : Environment) (words : List String) : Except UsageError Invocation := do
  let (front, rest) ← readWords true (version :: common) {} words
  match rest with
  | none =>
    let front ← front.settle
    .error (if front.values.isEmpty then .displayHelpOnMissing else .missingSubcommand)
  | some (word, rest) =>
    match CommandName.ofWord? word with
    | none => .error (readHelp rest)
    | some name =>
      let back ← readCommand environment name rest
      let front ← front.settle
      .ok (assemble front back name)

end CommandLine

end ShardMerge
