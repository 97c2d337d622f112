import ShardMerge.Schema.Table

/-!
# Source schemas

The schema of one source table as it was when the table was discovered.
-/

namespace ShardMerge

/-- The columns and the primary key of a source table. -/
structure SourceSchema where
  origin : TableName
  columns : List Column
  /-- The key columns in order; empty if the table has none. -/
  primaryKey : List String
deriving DecidableEq, Repr, Inhabited

/-- The column of a name. -/
def SourceSchema.column? (s : SourceSchema) (name : String) : Option Column :=
  Column.find? s.columns name

end ShardMerge
