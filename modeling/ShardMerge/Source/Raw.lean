import ShardMerge.Column.Native
import ShardMerge.Error
import ShardMerge.Json.Record
import ShardMerge.Schema.Source

/-!
# Raw tables

Tables as their source describes them, with native types.

* `RawTable.toSource` maps every column, and names the first one whose type is not understood.
-/

namespace ShardMerge

open Text Json

/-- A column with its native type. -/
structure RawColumn where
  name : String
  type : NativeType
deriving DecidableEq, Repr, Inhabited

/-- The columns and the primary key of a table. -/
structure RawTable where
  columns : List RawColumn
  primaryKey : List String := []
deriving DecidableEq, Repr, Inhabited

namespace RawColumn

/-- A size that fits in 32 bits. -/
def size? (n : Int) : Option UInt32 :=
  if 0 ≤ n ∧ n.toNat < UInt32.size then some (UInt32.ofNat n.toNat) else none

/-- A column as the columns of a server's own tables describe it.  Only the full type tells whether
an integer has a sign. -/
def ofMetadata (name dataType fullType : String) (precision scale : Option Int) : RawColumn :=
  let unsigned := holds "unsigned".toList (lowercase fullType.toList)
  { name
    type := {
      name := if unsigned then dataType ++ " unsigned" else dataType
      precision := precision.bind size?
      scale := scale.bind size? } }

instance : JsonForm RawColumn where
  toJson c :=
    let size (name : String) (n : Option UInt32) := n.toList.map fun n => (name, toJson n)
    .object ([("name", .string c.name), ("native_type", .string c.type.name)] ++
      size "precision" c.type.precision ++ size "scale" c.type.scale)
  ofJson? room json := do
    match ← slots? ["name", "native_type", "precision", "scale"] room json with
    | [name, native, precision, scale] =>
      some {
        name := ← name.required? (room - 1)
        type := {
          name := ← native.required? (room - 1)
          precision := ← precision.orElse? none (room - 1)
          scale := ← scale.orElse? none (room - 1) } }
    | _ => none

end RawColumn

namespace RawTable

instance : JsonForm RawTable where
  toJson t := .object [("columns", toJson t.columns), ("primary_key", toJson t.primaryKey)]
  ofJson? room json := do
    match ← slots? ["columns", "primary_key"] room json with
    | [columns, primaryKey] =>
      some {
        columns := ← columns.required? (room - 1)
        primaryKey := ← primaryKey.orElse? [] (room - 1) }
    | _ => none

/-- Maps one column. -/
def mapColumn (origin : TableName) (column : RawColumn) : Except Error Column :=
  match column.type.columnType? with
  | some type => .ok { name := column.name, type }
  | none => .error (.unrecognizedNativeType origin column.name column.type.name)

/-- The schema of a table. -/
def toSource (table : RawTable) (origin : TableName) : Except Error SourceSchema := do
  let columns ← table.columns.mapM (mapColumn origin)
  .ok { origin, columns, primaryKey := table.primaryKey }

end RawTable

end ShardMerge
