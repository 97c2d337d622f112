import ShardMerge.Pattern.Matcher
import ShardMerge.Schema.Wire

/-!
# Settings

What is synchronized: which source tables, into which target table, with which keys and options.

* `DiscoveryConfig` selects source tables and `SyncConfig` adds the target.  Each has a `validate`
  that names the first unusable setting.
* `TableOption.ofText` reads an option as it is given in a command.
-/

namespace ShardMerge

open Text Json

/-- A configuration error unless the condition holds. -/
def require (condition : Bool) (message : String) : Except Error Unit :=
  if condition then .ok () else .error (.configuration message)

/-- Whether a text has a character that is not blank. -/
def hasText (text : String) : Bool := !isBlankText text.toList

/-- Which source tables feed one target table. -/
structure DiscoveryConfig where
  databasePattern : String := ".*"
  tablePattern : String := ".*"
  kind : PatternKind := .regex
  /-- How many tables may be described at a time. -/
  maxConcurrency : UInt64 := 4
  /-- Databases that belong to the server itself are searched too. -/
  includeSystem : Bool := false
deriving DecidableEq, Repr, Inhabited

namespace DiscoveryConfig

/-- Limits how many tables are described at a time, to at least one. -/
def withMaxConcurrency (c : DiscoveryConfig) (n : UInt64) : DiscoveryConfig :=
  { c with maxConcurrency := if n = 0 then 1 else n }

variable [CharacterProperties]

/-- The pattern for databases. -/
def databases (c : DiscoveryConfig) : Except Error NamePattern :=
  NamePattern.ofText c.kind c.databasePattern

/-- The pattern for tables. -/
def tables (c : DiscoveryConfig) : Except Error NamePattern :=
  NamePattern.ofText c.kind c.tablePattern

/-- Names the first setting that is unusable. -/
def validate (c : DiscoveryConfig) : Except Error Unit := do
  require (hasText c.databasePattern) "database pattern cannot be empty"
  require (hasText c.tablePattern) "table pattern cannot be empty"
  require (c.maxConcurrency ≠ 0) "max_concurrency must be greater than 0"
  let _ ← c.databases
  let _ ← c.tables

instance : JsonForm DiscoveryConfig where
  toJson c :=
    .object [("database_pattern", .string c.databasePattern),
      ("table_pattern", .string c.tablePattern), ("matcher", toJson c.kind),
      ("max_concurrency", toJson c.maxConcurrency), ("include_system", toJson c.includeSystem)]
  ofJson? room json := do
    let names :=
      ["database_pattern", "table_pattern", "matcher", "max_concurrency", "include_system"]
    match ← slots? names room json with
    | [databasePattern, tablePattern, kind, maxConcurrency, includeSystem] =>
      some {
        databasePattern := ← databasePattern.required? (room - 1)
        tablePattern := ← tablePattern.required? (room - 1)
        kind := ← kind.orElse? .regex (room - 1)
        maxConcurrency := ← maxConcurrency.required? (room - 1)
        includeSystem := ← includeSystem.orElse? false (room - 1) }
    | _ => none

end DiscoveryConfig

/-- What is synchronized. -/
structure SyncConfig where
  discovery : DiscoveryConfig
  target : TableName
  /-- The requested key; without one the key that the sources share is taken. -/
  primaryKeys : List String := []
  partitionKeys : List String := []
  tableOptions : Dict String := .empty
  /-- The catalog is left as it is. -/
  dryRun : Bool := false
deriving DecidableEq, Repr, Inhabited

/-- Names the first key column that is blank or repeated. -/
def validateKeys (kind : String) (seen : List String) : List String → Except Error Unit
  | [] => .ok ()
  | key :: keys => do
    require (hasText key) s!"{kind} column names cannot be empty"
    require (!seen.contains key) s!"{kind} column '{key}' is listed more than once"
    validateKeys kind (key :: seen) keys

namespace SyncConfig

/-- Sets one table option. -/
def withTableOption (c : SyncConfig) (key value : String) : SyncConfig :=
  { c with tableOptions := c.tableOptions.insert key value }

/-- Names the first setting that is unusable. -/
def validate [CharacterProperties] (c : SyncConfig) : Except Error Unit := do
  c.discovery.validate
  require (hasText c.target.database && hasText c.target.table)
    "target database and table names cannot be empty"
  validateKeys "primary key" [] c.primaryKeys
  validateKeys "partition key" [] c.partitionKeys

instance : JsonForm SyncConfig where
  toJson c :=
    .object [("discovery", toJson c.discovery), ("target", toJson c.target),
      ("primary_keys", toJson c.primaryKeys), ("partition_keys", toJson c.partitionKeys),
      ("table_options", toJson c.tableOptions), ("dry_run", toJson c.dryRun)]
  ofJson? room json := do
    let names :=
      ["discovery", "target", "primary_keys", "partition_keys", "table_options", "dry_run"]
    match ← slots? names room json with
    | [discovery, target, primaryKeys, partitionKeys, tableOptions, dryRun] =>
      some {
        discovery := ← discovery.required? (room - 1)
        target := ← target.required? (room - 1)
        primaryKeys := ← primaryKeys.orElse? [] (room - 1)
        partitionKeys := ← partitionKeys.orElse? [] (room - 1)
        tableOptions := ← tableOptions.orElse? .empty (room - 1)
        dryRun := ← dryRun.orElse? false (room - 1) }
    | _ => none

end SyncConfig

namespace TableOption

/-- Reads a key and a value at the first equals sign between them. -/
def ofText (argument : String) : Except Error (String × String) := do
  match cutFirst '=' argument.toList with
  | none => .error (.configuration s!"Invalid option '{argument}': expected key=value")
  | some (key, value) =>
    let key := trim key
    require (!key.isEmpty) s!"Invalid option '{argument}': key cannot be empty"
    .ok (String.ofList key, String.ofList (trim value))

end TableOption

end ShardMerge
