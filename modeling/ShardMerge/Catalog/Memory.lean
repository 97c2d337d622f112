import ShardMerge.Catalog.Basic
import ShardMerge.Files.Host

/-!
# Catalogs in memory

A catalog as a value: databases of tables of histories.  An operation that fails leaves the catalog
as it was.
-/

namespace ShardMerge

/-- Databases of tables of histories, each with the first version first. -/
structure MemoryCatalog where
  databases : Dict (Dict (List TargetSchema)) := .empty
deriving DecidableEq, Repr, Inhabited

namespace MemoryCatalog

/-- The history of a table, if it exists. -/
def history? (c : MemoryCatalog) (table : TableName) : Option (List TargetSchema) :=
  (c.databases.find? table.database).bind fun tables => tables.find? table.table

/-- All versions of a table; none if it does not exist. -/
def history (c : MemoryCatalog) (table : TableName) : List TargetSchema :=
  (c.history? table).getD []

/-- The latest version of a table. -/
def latest? (c : MemoryCatalog) (table : TableName) : Option TargetSchema :=
  (c.history table).getLast?

/-- Whether a database exists. -/
def hasDatabase (c : MemoryCatalog) (database : String) : Bool := c.databases.contains database

/-- Replaces the history of a table in its database. -/
def setHistory (c : MemoryCatalog) (tables : Dict (List TargetSchema)) (table : TableName)
    (versions : List TargetSchema) : MemoryCatalog :=
  { databases := c.databases.insert table.database (tables.insert table.table versions) }

/-- Creates a database. -/
def createDatabase (c : MemoryCatalog) (database : String) (ignoreIfExists : Bool) :
    Except Error MemoryCatalog :=
  if c.hasDatabase database then
    if ignoreIfExists then .ok c else .error (.databaseAlreadyExists database)
  else .ok { databases := c.databases.insert database .empty }

/-- Creates a table with a first version. -/
def createTable (c : MemoryCatalog) (table : TableName) (first : TargetSchema) :
    Except Error MemoryCatalog :=
  match c.databases.find? table.database with
  | none => .error (.databaseNotFound table.database)
  | some tables =>
    if tables.contains table.table then .error (.tableAlreadyExists table)
    else .ok (c.setHistory tables table [first])

/-- Adds a version to the history of a table. -/
def commitSchema (c : MemoryCatalog) (table : TableName) (schema : TargetSchema) :
    Except Error MemoryCatalog := do
  match c.databases.find? table.database with
  | none => .error (.tableNotFound table)
  | some tables =>
    match tables.find? table.table with
    | none => .error (.tableNotFound table)
    | some versions =>
      match versions.getLast? with
      | none => pure ()
      | some latest => checkNext table latest schema
      .ok (c.setHistory tables table (versions ++ [schema]))

/-- Replaces the catalog by the outcome of an operation, unless that failed. -/
def update {m : Type → Type} [Monad m] (f : MemoryCatalog → Except Error MemoryCatalog) :
    ExceptT Error (StateT MemoryCatalog m) Unit := do
  match f (← get) with
  | .ok c => set c
  | .error e => throw e

/-- The operations on a catalog in the state of a computation. -/
def catalog {m : Type → Type} [Monad m] [Host m] : Catalog (StateT MemoryCatalog m) where
  createDatabase database ignoreIfExists := update fun c => c.createDatabase database ignoreIfExists
  databaseExists database := do return (← get).hasDatabase database
  getTable table := do return (← get).latest? table
  createTable table draft := do
    let first := TargetSchema.ofDraft draft (← Host.now)
    update fun c => c.createTable table first
    return first
  commitSchema table schema := update fun c => c.commitSchema table schema
  history table := do return (← get).history table

end MemoryCatalog

end ShardMerge
