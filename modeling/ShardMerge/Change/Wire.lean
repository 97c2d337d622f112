import ShardMerge.Change.Live
import ShardMerge.Schema.Wire

/-!
# JSON forms of changes

A change is a variant with the tag `op`, and an event has the fields of its change beside its
origin.  A declared type is a column type or, failing that, the text of a definition.
-/

namespace ShardMerge

open Json

instance : JsonForm DeclaredType where
  toJson
    | .typed type => toJson type
    | .native definition => .string definition
  ofJson? room json :=
    if json.isWhole room then
      match ColumnType.read? true room json with
      | some type => some (.typed type)
      | none =>
        match json with
        | .string definition => some (.native definition)
        | _ => none
    else none

namespace SchemaChange

/-- The names of the changes in their JSON form, in the order of the constructors. -/
def operations : List String := ["add_column", "alter_column_type", "drop_column"]

/-- The members of the JSON form of a change. -/
def members : SchemaChange → List (String × Json)
  | addColumn column type =>
    [("op", .string "add_column"), ("column", .string column), ("column_type", toJson type)]
  | alterColumnType column oldType newType =>
    [("op", .string "alter_column_type"), ("column", .string column),
      ("old_type", toJson oldType), ("new_type", toJson newType)]
  | dropColumn column => [("op", .string "drop_column"), ("column", .string column)]

/-- Reads a change; where `numbered`, its operation may be given by number. -/
def read? (numbered : Bool) (room : Nat) (json : Json) : Option SchemaChange := do
  let (operation, rest) ← variant? "op" operations numbered room json
  let fields (names : List String) := slots? names room rest
  match operation with
  | "add_column" =>
    match ← fields ["column", "column_type"] with
    | [column, type] =>
      some (.addColumn (← column.required? (room - 1)) (← type.required? (room - 1)))
    | _ => none
  | "alter_column_type" =>
    match ← fields ["column", "old_type", "new_type"] with
    | [column, oldType, newType] =>
      some (.alterColumnType (← column.required? (room - 1)) (← oldType.required? (room - 1))
        (← newType.required? (room - 1)))
    | _ => none
  | "drop_column" =>
    match ← fields ["column"] with
    | [column] => some (.dropColumn (← column.required? (room - 1)))
    | _ => none
  | _ => none

instance : JsonForm SchemaChange where
  toJson change := .object change.members
  ofJson? := read? false

end SchemaChange

instance : JsonForm ChangeEvent where
  toJson event := .object (("origin", toJson event.origin) :: event.change.members)
  ofJson? room
    | .object members =>
      if room = 0 then none
      else do
        let origin ← slot? members "origin"
        let others := members.filter fun member => member.1 ≠ "origin"
        some {
          origin := ← origin.required? (room - 1)
          change := ← SchemaChange.read? true room (.object others) }
    | _ => none

/-- The JSON form of a reason. -/
def SkipReason.write : SkipReason → Json
  | dropColumn => .object [("reason", .string "drop_column")]
  | narrowingAlter oldType newType =>
    .object [("reason", .string "narrowing_alter"), ("from", toJson oldType),
      ("to", toJson newType)]
  | incompatibleType current requested =>
    .object [("reason", .string "incompatible_type"), ("current", toJson current),
      ("requested", toJson requested)]
  | unrecognizedType definition =>
    .object [("reason", .string "unrecognized_type"), ("definition", .string definition)]

/-- The JSON form of a report. -/
def ChangeReport.write (r : ChangeReport) : Json :=
  .object [("applied", toJson r.applied), ("unchanged", .natural (UInt64.ofNat r.unchanged)),
    ("skipped", .array (r.skipped.map fun s =>
      .object [("event", toJson s.event), ("reason", s.reason.write)]))]

end ShardMerge
