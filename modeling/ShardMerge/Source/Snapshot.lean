import ShardMerge.Source.Raw

/-!
# Snapshots of sources

The databases of a source with their tables, as a file can hold them in place of a server.
-/

namespace ShardMerge

open Json

/-- Databases with their tables. -/
structure Snapshot where
  databases : Dict (Dict RawTable) := .empty
  /-- The databases that belong to the server itself. -/
  systemDatabases : List String := []
deriving DecidableEq, Repr, Inhabited

namespace Snapshot

/-- Adds a database without tables unless it is there. -/
def withDatabase (s : Snapshot) (database : String) : Snapshot :=
  if s.databases.contains database then s
  else { s with databases := s.databases.insert database .empty }

/-- Adds or replaces a table. -/
def withTable (s : Snapshot) (name : TableName) (table : RawTable) : Snapshot :=
  let tables := (s.databases.find? name.database).getD .empty
  { s with databases := s.databases.insert name.database (tables.insert name.table table) }

/-- The names of the tables of a database in order; an unknown database has none. -/
def tableNames (s : Snapshot) (database : String) : List String :=
  ((s.databases.find? database).map Dict.keys).getD []

/-- The description of a table. -/
def table? (s : Snapshot) (name : TableName) : Option RawTable :=
  (s.databases.find? name.database).bind fun tables => tables.find? name.table

instance : JsonForm Snapshot where
  toJson s :=
    .object (("databases", toJson s.databases) ::
      if s.systemDatabases.isEmpty then [] else [("system_databases", toJson s.systemDatabases)])
  ofJson? room json := do
    match ← slots? ["databases", "system_databases"] room json with
    | [databases, systemDatabases] =>
      some {
        databases := ← databases.orElse? .empty (room - 1)
        systemDatabases := ← systemDatabases.orElse? [] (room - 1) }
    | _ => none

/-- Reads a snapshot. -/
def ofText (context text : String) : Except Error Snapshot :=
  match readText? text with
  | some snapshot => .ok snapshot
  | none => .error (.serialization context)

end Snapshot

end ShardMerge
