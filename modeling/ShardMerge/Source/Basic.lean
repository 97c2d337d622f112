import ShardMerge.Source.Server
import ShardMerge.Source.Snapshot

/-!
# Sources

Where source tables are found: a snapshot or a database server.

* `SourceKind.ofConnection` tells the two apart by the connection string.
* `Source` answers which databases and tables there are and what the tables look like.  For a server
  it is the pool of its connections that answers.
-/

namespace ShardMerge

namespace SourceKind

/-- The kind of source that a connection string names. -/
def ofConnection (connection : String) : Except Error SourceKind :=
  if connection.startsWith "mysql://" then .ok .mysql
  else if connection.startsWith "snapshot:" || connection.endsWith ".json" then .ok .snapshot
  else .error (.configuration "Unrecognized source connection string format")

end SourceKind

/-- A source of tables. -/
inductive Source where
  /-- A snapshot, with the path of its file if it comes from one. -/
  | snapshot (path : Option String) (content : Snapshot)
  /-- A server, with the connections to it. -/
  | server (settings : ConnectionSettings) (pool : Server.Pool := {})

namespace Source

/-- The kind of a source. -/
def kind : Source → SourceKind
  | snapshot .. => .snapshot
  | server .. => .mysql

/-- Where a source is. -/
def settings : Source → ConnectionSettings
  | snapshot path _ => { host := path.getD "memory" }
  | server settings _ => settings

/-- Whether a database belongs to the source itself. -/
def isSystemDatabase : Source → String → Bool
  | snapshot _ content, database => content.systemDatabases.contains database
  | server .., database => Server.isSystemDatabase database

/-- Whether the source answers. -/
def testConnection : Source → Except Error Unit
  | snapshot .. => .ok ()
  | server _ pool => pool.testConnection

/-- Whether connections to the source work. -/
def isHealthy : Source → Bool
  | snapshot .. => true
  | server _ pool => pool.isHealthy

/-- The databases of a source. -/
def databases : Source → Except Error (List String)
  | snapshot _ content => .ok content.databases.keys
  | server _ pool => pool.databases

/-- The tables of a database. -/
def tables (database : String) : Source → Except Error (List String)
  | snapshot _ content => .ok (content.tableNames database)
  | server _ pool => pool.tables database

/-- The description of a table. -/
def describe (table : TableName) : Source → Except Error RawTable
  | snapshot _ content =>
    match content.table? table with
    | some raw => .ok raw
    | none => .error (.configuration s!"Table {table} not found in source snapshot")
  | server _ pool => pool.describe table

/-! ## The journal of the questions -/

/-- What is reported of the databases of a source. -/
def databasesNotes : Source → List Entry
  | snapshot .. => []
  | server settings pool => pool.databasesNotes settings

/-- What is reported of a table of a source. -/
def describeNotes (table : TableName) : Source → List Entry
  | snapshot .. => []
  | server _ pool => pool.describeNotes table

end Source

end ShardMerge
