import ShardMerge.Dict
import ShardMerge.Schema.Table
import ShardMerge.Time.Timestamp

/-!
# Target schemas

The versions of the schema of a target table.  The first version comes from a draft; each later one
has the next number, and keeps the keys and the options of the first.
-/

namespace ShardMerge

/-- The schema of a target table that does not exist yet. -/
structure TargetDraft where
  columns : List Column
  primaryKeys : List String
  partitionKeys : List String
  /-- Settings that are handed on to the catalog. -/
  options : Dict String
deriving DecidableEq, Repr, Inhabited

/-- One version of the schema of a target table. -/
structure TargetSchema where
  version : UInt64
  fields : List Column
  primaryKeys : List String
  partitionKeys : List String := []
  options : Dict String := .empty
  /-- When this version was made. -/
  updatedAt : Timestamp
deriving DecidableEq, Repr, Inhabited

/-- The number after a version; the last number stays. -/
def nextVersion (version : UInt64) : UInt64 :=
  if version.toNat + 1 < UInt64.size then version + 1 else version

namespace TargetSchema

/-- The first version of a table. -/
def ofDraft (draft : TargetDraft) (now : Timestamp) : TargetSchema where
  version := 0
  fields := draft.columns
  primaryKeys := draft.primaryKeys
  partitionKeys := draft.partitionKeys
  options := draft.options
  updatedAt := now

/-- The field of a name. -/
def field? (s : TargetSchema) (name : String) : Option Column :=
  Column.find? s.fields name

/-- The next version, with other fields. -/
def next (s : TargetSchema) (fields : List Column) (now : Timestamp) : TargetSchema :=
  { s with version := nextVersion s.version, fields, updatedAt := now }

end TargetSchema

end ShardMerge
