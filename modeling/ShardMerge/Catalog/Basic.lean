import ShardMerge.Error
import ShardMerge.Schema.Target

/-!
# Catalogs

Where the schemas of target tables are kept.  A catalog has databases, and each table of a database
has a history of schema versions, numbered without gaps.

* `Catalog` lists the operations for a monad.
* `checkNext` is the rule for what may be committed.
-/

namespace ShardMerge

/-- The operations of a catalog. -/
structure Catalog (m : Type → Type) where
  /-- Creates a database; if it exists, that is an error unless it is to be ignored. -/
  createDatabase : (database : String) → (ignoreIfExists : Bool) → ExceptT Error m Unit
  databaseExists : (database : String) → ExceptT Error m Bool
  /-- The latest version of a table. -/
  getTable : TableName → ExceptT Error m (Option TargetSchema)
  /-- Creates a table and gives its first version. -/
  createTable : TableName → TargetDraft → ExceptT Error m TargetSchema
  /-- Adds a version to the history of a table. -/
  commitSchema : TableName → TargetSchema → ExceptT Error m Unit
  /-- All versions of a table, the first one first. -/
  history : TableName → ExceptT Error m (List TargetSchema)

/-- A schema may follow the latest version if it has the next number. -/
def checkNext (table : TableName) (latest schema : TargetSchema) : Except Error Unit :=
  let expected := nextVersion latest.version
  if schema.version = expected then .ok ()
  else .error (.schemaVersionConflict table expected schema.version)

end ShardMerge
