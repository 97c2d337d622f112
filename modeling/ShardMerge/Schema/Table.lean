import ShardMerge.Column.Widening

/-!
# Tables and their columns

The names of tables, and columns as pairs of a name and a type.  Names are compared letter by
letter.
-/

namespace ShardMerge

/-- The name of a table within its database, of a source or of the catalog. -/
structure TableName where
  database : String
  table : String
deriving DecidableEq, Repr, Inhabited

/-- The name with a dot, as messages show it. -/
def TableName.describe (t : TableName) : String := t.database ++ "." ++ t.table

instance : ToString TableName := ⟨TableName.describe⟩

/-- A named column with a type. -/
structure Column where
  name : String
  type : ColumnType
deriving DecidableEq, Repr, Inhabited

namespace Column

/-- The column as messages show it. -/
def describe (c : Column) : String := c.name ++ " " ++ c.type.describe

/-- The first column of a name. -/
def find? (columns : List Column) (name : String) : Option Column :=
  List.find? (fun c => c.name = name) columns

/-- A list of columns as messages show it, such as `[a INT, b VARCHAR(20)]`. -/
def describeList (columns : List Column) : String :=
  "[" ++ ", ".intercalate (columns.map describe) ++ "]"

end Column

end ShardMerge
