import ShardMerge.Error
import ShardMerge.Files.Path
import ShardMerge.Text.Decimal

/-!
# The layout of a warehouse

Which files of a warehouse hold which schemas: version 3 of table `orders` in database `dw` is in
`dw.db/orders/schema/schema-3.json`.

* `Warehouse.versionPath` is the path of a version, and fails for names that would lead out of the
  warehouse.
* `VersionFile.name` and `VersionFile.read?` go between versions and the names of their files.
-/

namespace ShardMerge

open Text

namespace VersionFile

/-- What stands before the number of a version. -/
def front : String := "schema-"

/-- What stands after it. -/
def back : String := ".json"

/-- The name of the file of a version. -/
def name (version : UInt64) : String := front ++ toString version ++ back

/-- The version in the name of a file. -/
def read? (name : String) : Option UInt64 := do
  let rest ← dropFront? front.toList name.toList
  let number ← dropBack? back.toList rest
  Decimal.readUInt64 number

end VersionFile

/-- The name of a database or table cannot be that of another place. -/
def isPlainName (name : String) : Bool :=
  name != "" && name != "." && name != ".." &&
    name.toList.all fun c => c != '/' && c != '\\' && c != Char.ofNat 0

/-- Fails for a name that is not plain. -/
def checkName (name : String) : Except Error Unit :=
  if isPlainName name then .ok ()
  else .error (.configuration s!"Invalid catalog object name '{name}'")

/-- A directory that holds a catalog. -/
structure Warehouse where
  path : String
deriving DecidableEq, Repr, Inhabited

namespace Warehouse

/-- The directory of a database. -/
def databasePath (w : Warehouse) (database : String) : Except Error Path := do
  checkName database
  .ok ({ root := w.path, below := [database ++ ".db"] })

/-- The directory of the versions of a table. -/
def schemaDirectory (w : Warehouse) (table : TableName) : Except Error Path := do
  checkName table.table
  let database ← w.databasePath table.database
  .ok ((database.child table.table).child "schema")

/-- The file of a version of a table. -/
def versionPath (w : Warehouse) (table : TableName) (version : UInt64) : Except Error Path := do
  .ok ((← w.schemaDirectory table).child (VersionFile.name version))

end Warehouse

end ShardMerge
