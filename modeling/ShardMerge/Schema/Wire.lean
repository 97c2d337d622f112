import ShardMerge.Json.Record
import ShardMerge.Schema.Source
import ShardMerge.Schema.Target
import ShardMerge.Schema.Unified

/-!
# JSON forms of schemas

Column types are variants with the tag `kind`, everything else is a record.  A column without
contenders is written without a list of them, and the lists that a table may lack may be left out
when it is read.
-/

namespace ShardMerge

open Json

namespace ColumnType

/-- The names of the column types in their JSON form, in the order of the constructors. -/
def kinds : List String :=
  ["integer", "float", "string", "binary", "decimal", "boolean", "date", "time", "timestamp"]

/-- The JSON form of a column type. -/
def write : ColumnType → Json
  | integer bits => .object [("kind", .string "integer"), ("bits", toJson bits)]
  | float bits => .object [("kind", .string "float"), ("bits", toJson bits)]
  | string length => .object [("kind", .string "string"), ("max_length", toJson length)]
  | binary length => .object [("kind", .string "binary"), ("max_length", toJson length)]
  | decimal precision scale =>
    .object [("kind", .string "decimal"), ("precision", toJson precision), ("scale", toJson scale)]
  | boolean => .object [("kind", .string "boolean")]
  | date => .object [("kind", .string "date")]
  | time => .object [("kind", .string "time")]
  | timestamp zone => .object [("kind", .string "timestamp"), ("with_timezone", toJson zone)]

/-- Reads a column type; where `numbered`, its kind may be given by number. -/
def read? (numbered : Bool) (room : Nat) (json : Json) : Option ColumnType := do
  let (kind, rest) ← variant? "kind" kinds numbered room json
  let fields (names : List String) := slots? names room rest
  match kind with
  | "integer" =>
    match ← fields ["bits"] with
    | [bits] => some (.integer (← bits.required? (room - 1)))
    | _ => none
  | "float" =>
    match ← fields ["bits"] with
    | [bits] => some (.float (← bits.required? (room - 1)))
    | _ => none
  | "string" =>
    match ← fields ["max_length"] with
    | [length] => some (.string (← length.optional? (room - 1)))
    | _ => none
  | "binary" =>
    match ← fields ["max_length"] with
    | [length] => some (.binary (← length.optional? (room - 1)))
    | _ => none
  | "decimal" =>
    match ← fields ["precision", "scale"] with
    | [precision, scale] =>
      some (.decimal (← precision.required? (room - 1)) (← scale.required? (room - 1)))
    | _ => none
  | "boolean" => (fields []).map fun _ => .boolean
  | "date" => (fields []).map fun _ => .date
  | "time" => (fields []).map fun _ => .time
  | "timestamp" =>
    match ← fields ["with_timezone"] with
    | [zone] => some (.timestamp (← zone.required? (room - 1)))
    | _ => none
  | _ => none

instance : JsonForm ColumnType where
  toJson := write
  ofJson? := read? false

end ColumnType

instance : JsonForm TableName where
  toJson t := .object [("database", .string t.database), ("table", .string t.table)]
  ofJson? room json := do
    match ← slots? ["database", "table"] room json with
    | [database, table] =>
      some {
        database := ← database.required? (room - 1)
        table := ← table.required? (room - 1) }
    | _ => none

instance : JsonForm Column where
  toJson c := .object [("name", .string c.name), ("column_type", toJson c.type)]
  ofJson? room json := do
    match ← slots? ["name", "column_type"] room json with
    | [name, type] =>
      some { name := ← name.required? (room - 1), type := ← type.required? (room - 1) }
    | _ => none

instance : JsonForm SourceSchema where
  toJson s :=
    .object [("origin", toJson s.origin), ("columns", toJson s.columns),
      ("primary_key", toJson s.primaryKey)]
  ofJson? room json := do
    match ← slots? ["origin", "columns", "primary_key"] room json with
    | [origin, columns, primaryKey] =>
      some {
        origin := ← origin.required? (room - 1)
        columns := ← columns.required? (room - 1)
        primaryKey := ← primaryKey.orElse? [] (room - 1) }
    | _ => none

instance : JsonForm Contender where
  toJson c := .object [("column_type", toJson c.type), ("origin", toJson c.origin)]
  ofJson? room json := do
    match ← slots? ["column_type", "origin"] room json with
    | [type, origin] =>
      some { type := ← type.required? (room - 1), origin := ← origin.required? (room - 1) }
    | _ => none

instance : JsonForm UnifiedColumn where
  toJson c :=
    .object ([("name", .string c.name), ("column_type", toJson c.type),
      ("origin", toJson c.origin)] ++
        if c.contenders.isEmpty then [] else [("contenders", toJson c.contenders)])
  ofJson? room json := do
    match ← slots? ["name", "column_type", "origin", "contenders"] room json with
    | [name, type, origin, contenders] =>
      some {
        name := ← name.required? (room - 1)
        type := ← type.required? (room - 1)
        origin := ← origin.required? (room - 1)
        contenders := ← contenders.orElse? [] (room - 1) }
    | _ => none

instance : JsonForm UnifiedSchema where
  toJson s :=
    .object [("columns", toJson s.columns), ("primary_key", toJson s.primaryKey),
      ("origins", toJson s.origins)]
  ofJson? room json := do
    match ← slots? ["columns", "primary_key", "origins"] room json with
    | [columns, primaryKey, origins] =>
      some {
        columns := ← columns.required? (room - 1)
        primaryKey := ← primaryKey.required? (room - 1)
        origins := ← origins.required? (room - 1) }
    | _ => none

instance : JsonForm TargetDraft where
  toJson d :=
    .object [("columns", toJson d.columns), ("primary_keys", toJson d.primaryKeys),
      ("partition_keys", toJson d.partitionKeys), ("options", toJson d.options)]
  ofJson? room json := do
    match ← slots? ["columns", "primary_keys", "partition_keys", "options"] room json with
    | [columns, primaryKeys, partitionKeys, options] =>
      some {
        columns := ← columns.required? (room - 1)
        primaryKeys := ← primaryKeys.required? (room - 1)
        partitionKeys := ← partitionKeys.required? (room - 1)
        options := ← options.required? (room - 1) }
    | _ => none

instance : JsonForm Timestamp where
  toJson t := .string (toString t)
  ofJson? _
    | .string text => Timestamp.read? text.toList
    | _ => none

instance : JsonForm TargetSchema where
  toJson s :=
    .object [("schema_id", toJson s.version), ("fields", toJson s.fields),
      ("primary_keys", toJson s.primaryKeys), ("partition_keys", toJson s.partitionKeys),
      ("options", toJson s.options), ("updated_at", toJson s.updatedAt)]
  ofJson? room json := do
    let names :=
      ["schema_id", "fields", "primary_keys", "partition_keys", "options", "updated_at"]
    match ← slots? names room json with
    | [version, fields, primaryKeys, partitionKeys, options, updatedAt] =>
      some {
        version := ← version.required? (room - 1)
        fields := ← fields.required? (room - 1)
        primaryKeys := ← primaryKeys.required? (room - 1)
        partitionKeys := ← partitionKeys.orElse? [] (room - 1)
        options := ← options.orElse? .empty (room - 1)
        updatedAt := ← updatedAt.required? (room - 1) }
    | _ => none

end ShardMerge
