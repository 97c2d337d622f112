import ShardMerge.Command.Render
import ShardMerge.Sync.Config

/-!
# Commands

What a user can ask for, after the command line has been read.
-/

namespace ShardMerge

/-- Merge source tables and create or check the target table. -/
structure SyncTableArgs where
  source : String
  askPassword : Bool := false
  warehouse : String
  config : SyncConfig
  /-- Where the plan is written to as well. -/
  output : Option String := none
  format : OutputFormat := .text
deriving DecidableEq, Repr

/-- Apply a recorded stream of changes to the target table. -/
structure ReplayArgs where
  warehouse : String
  target : TableName
  events : String
  dryRun : Bool := false
  format : OutputFormat := .text
deriving DecidableEq, Repr

/-- A command. -/
inductive Command where
  | syncTable (args : SyncTableArgs)
  | replay (args : ReplayArgs)
  | checkChange (oldDefinition newDefinition : String)
  | test (source : String) (askPassword : Bool)
  | listTypes
deriving DecidableEq, Repr

/-- A command with what holds for every command. -/
structure Invocation where
  /-- How often more entries of the journal were asked for. -/
  verbose : Nat := 0
  quiet : Bool := false
  logFormat : LogFormat := .text
  command : Command
deriving DecidableEq, Repr

end ShardMerge
