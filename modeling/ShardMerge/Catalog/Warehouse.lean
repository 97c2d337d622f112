import ShardMerge.Catalog.Basic
import ShardMerge.Catalog.Layout
import ShardMerge.Files.Host
import ShardMerge.Schema.Wire

/-!
# Catalogs in files

A catalog in a warehouse directory, with a file for each version of a schema.  The latest version is
the one whose file has the greatest number.

* `Warehouse.openAt` opens a warehouse, and `Warehouse.catalog` are the operations on it.
-/

namespace ShardMerge

namespace Warehouse

variable {m : Type → Type} [Monad m] [Host m]

/-- Opens a warehouse, which is created if it is missing. -/
def openAt (path : String) : ExceptT Error m Warehouse := do
  orFail s!"Failed to create warehouse {path}" (Host.createDirectories path)
  Host.record ⟨.debug, s!"Opened file catalog at {path}"⟩
  return { path }

/-- The numbers of the versions that names of files stand for, in ascending order. -/
def versionsOf (names : List String) : List UInt64 :=
  (names.filterMap VersionFile.read?).mergeSort fun a b => decide (a ≤ b)

/-- The numbers of the versions of a table. -/
def versions (w : Warehouse) (table : TableName) : ExceptT Error m (List UInt64) := do
  let directory ← liftExcept (w.schemaDirectory table)
  match ← Host.listNames directory.text with
  | .ok names => return versionsOf names
  | .error .notFound => return []
  | .error _ => throw (.io s!"Failed to list schema directory {directory}")

/-- Reads a version of a table. -/
def readVersion (w : Warehouse) (table : TableName) (version : UInt64) :
    ExceptT Error m TargetSchema := do
  let path ← liftExcept (w.versionPath table version)
  let text ← orFail s!"Failed to read {path}" (Host.readText path.text)
  match Json.readText? text with
  | some schema => return schema
  | none => throw (.serialization s!"Failed to parse {path}")

/-- Writes a version of a table to a file that must not exist. -/
def writeVersion (w : Warehouse) (table : TableName) (schema : TargetSchema) :
    ExceptT Error m Unit := do
  let path ← liftExcept (w.versionPath table schema.version)
  match ← Host.createNew path.text (toJson schema).pretty with
  | .ok () =>
    Host.record ⟨.debug, s!"Wrote schema {schema.version} of table {table} to {path}"⟩
  | .error .alreadyExists =>
    throw (.schemaVersionConflict table (nextVersion schema.version) schema.version)
  | .error _ => throw (.io s!"Failed to create {path}")

/-- The latest version of a table. -/
def latest? (w : Warehouse) (table : TableName) : ExceptT Error m (Option TargetSchema) := do
  match (← w.versions table).getLast? with
  | some version => return some (← w.readVersion table version)
  | none => return none

/-- All versions of a table. -/
def history (w : Warehouse) (table : TableName) : ExceptT Error m (List TargetSchema) := do
  (← w.versions table).mapM (w.readVersion table)

/-- Whether something is at a path; what cannot be told counts as absent. -/
def isThere (path : Path) : ExceptT Error m Bool := do
  match ← Host.isPresent path.text with
  | .ok present => return present
  | .error _ => return false

/-- Whether a database exists. -/
def databaseExists (w : Warehouse) (database : String) : ExceptT Error m Bool := do
  isThere (← liftExcept (w.databasePath database))

/-- Creates a database. -/
def createDatabase (w : Warehouse) (database : String) (ignoreIfExists : Bool) :
    ExceptT Error m Unit := do
  let path ← liftExcept (w.databasePath database)
  if ← isThere path then
    if ignoreIfExists then return ()
    else throw (.databaseAlreadyExists database)
  else
    orFail s!"Failed to create {path}" (Host.createDirectories path.text)
    Host.record ⟨.info, s!"Created database '{database}' in {w.path}"⟩

/-- Writes the first version of a table; a file that is there already means that the table is. -/
def writeFirst (w : Warehouse) (table : TableName) (schema : TargetSchema) :
    ExceptT Error m Unit := do
  try w.writeVersion table schema
  catch
    | .schemaVersionConflict .. => throw (.tableAlreadyExists table)
    | e => throw e

/-- Creates a table. -/
def createTable (w : Warehouse) (table : TableName) (draft : TargetDraft) :
    ExceptT Error m TargetSchema := do
  unless ← w.databaseExists table.database do
    throw (.databaseNotFound table.database)
  unless (← w.versions table).isEmpty do
    throw (.tableAlreadyExists table)
  let directory ← liftExcept (w.schemaDirectory table)
  orFail s!"Failed to create {directory}" (Host.createDirectories directory.text)
  let schema := TargetSchema.ofDraft draft (← Host.now)
  w.writeFirst table schema
  Host.record ⟨.info, s!"Created table {table} with {schema.fields.length} columns"⟩
  return schema

/-- Adds a version to the history of a table. -/
def commitSchema (w : Warehouse) (table : TableName) (schema : TargetSchema) :
    ExceptT Error m Unit := do
  match ← w.latest? table with
  | none => throw (.tableNotFound table)
  | some latest =>
    liftExcept (checkNext table latest schema)
    w.writeVersion table schema

/-- The operations on a warehouse. -/
def catalog (w : Warehouse) : Catalog m where
  createDatabase := w.createDatabase
  databaseExists := w.databaseExists
  getTable := w.latest?
  createTable := w.createTable
  commitSchema := w.commitSchema
  history := w.history

end Warehouse

end ShardMerge
