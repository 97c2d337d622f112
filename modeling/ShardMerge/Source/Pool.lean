import ShardMerge.Journal
import ShardMerge.Source.Raw
import ShardMerge.Source.Settings

/-!
# Pools of connections

Once the connections to a database server are prepared, all that matters of it are its answers to a
few questions.  A question may have no answer, and a field of an answer may be unreadable.

* `Pool.testConnection`, `Pool.databases`, `Pool.tables` and `Pool.describe` put the questions.
  Where there is no answer they fail and say what was asked.
-/

namespace ShardMerge.Server

open Text

/-- One column of a table, as the server's own tables describe it.  A size is null where the type
has none. -/
structure ColumnRow where
  name : Option String
  dataType : Option String
  /-- The type with its sizes and its sign. -/
  fullType : Option String
  precision : Option (Option Int)
  scale : Option (Option Int)
deriving DecidableEq, Repr

/-- The answers of a server. -/
structure Pool where
  /-- What comes back where the number one is asked for. -/
  one : Option Int := none
  /-- How many of the tables that describe the server can be seen. -/
  visible : Option Int := none
  databaseNames : Option (List String) := none
  tableNames : (database : String) → Option (List String) := fun _ => none
  columns : TableName → Option (List ColumnRow) := fun _ => none
  primaryKey : TableName → Option (List String) := fun _ => none

/-- An answer, or what could not be collected. -/
def collected {α : Type} (context : String) : Option α → Except Error α
  | some answer => .ok answer
  | none => .error (.collection context)

/-- The column that a row describes. -/
def ColumnRow.read (table : TableName) (row : ColumnRow) : Except Error RawColumn := do
  let name ← collected "Failed to parse column name" row.name
  let context (field : String) := s!"Failed to parse {field} of column {table}.{name}"
  let dataType ← collected (context "DATA_TYPE") row.dataType
  let fullType ← collected (context "COLUMN_TYPE") row.fullType
  let precision ← collected (context "TYPE_PRECISION") row.precision
  let scale ← collected (context "TYPE_SCALE") row.scale
  .ok (.ofMetadata name dataType fullType precision scale)

namespace Pool

/-- Whether the server answers, and describes itself. -/
def testConnection (pool : Pool) : Except Error Unit := do
  match pool.one with
  | none => .error (.connection "Database connection failed")
  | some n =>
    require (n = 1) "Basic connectivity test failed: unexpected result"
    let visible ← collected "Cannot access INFORMATION_SCHEMA" pool.visible
    require (visible ≠ 0) "No access to INFORMATION_SCHEMA tables"

/-- Whether the connections work. -/
def isHealthy (pool : Pool) : Bool := pool.one = some 1

/-- The databases of the server. -/
def databases (pool : Pool) : Except Error (List String) :=
  collected "Failed to enumerate databases" pool.databaseNames

/-- The tables of a database. -/
def tables (pool : Pool) (database : String) : Except Error (List String) :=
  collected s!"Failed to enumerate tables in database '{database}'" (pool.tableNames database)

/-- The description of a table.  A table without columns is none. -/
def describe (pool : Pool) (table : TableName) : Except Error RawTable := do
  let rows ← collected s!"Failed to collect columns for table {table}" (pool.columns table)
  let columns ← rows.mapM (ColumnRow.read table)
  require (!columns.isEmpty) s!"Table {table} does not exist or has no columns"
  let key ← collected s!"Failed to collect primary key for table {table}" (pool.primaryKey table)
  .ok { columns, primaryKey := key.filter fun name => !name.isEmpty }

/-! ## The journal of the questions -/

/-- What is reported of the databases of a server. -/
def databasesNotes (pool : Pool) (settings : ConnectionSettings) : List Entry :=
  match pool.databases with
  | .ok names => [⟨.debug, s!"Found {names.length} databases on {settings}"⟩]
  | .error _ => []

/-- What is reported of a table. -/
def describeNotes (pool : Pool) (table : TableName) : List Entry :=
  match pool.describe table with
  | .ok raw =>
    [⟨.debug, s!"Collected table {table} with {raw.columns.length} columns and primary key " ++
      quotedList raw.primaryKey⟩]
  | .error _ => []

end Pool

end ShardMerge.Server
