import ShardMerge.Change.Decision
import ShardMerge.Error
import ShardMerge.Text.Padding

/-!
# Checking a change and listing types

Two commands that look at types alone.

* `checkChange` decides the change of one column from one definition to another, as a live change
  would be decided.
* `listTypes` shows what every native type becomes.
-/

namespace ShardMerge

/-- The column type of a definition. -/
def readDefinition (definition : String) : Except Error ColumnType :=
  match ColumnType.ofDefinition? definition with
  | some type => .ok type
  | none => .error (.configuration s!"Unrecognized column definition '{definition}'")

/-- The name of the column whose change is checked. -/
def checkedColumn : String := "value"

/-- Decides the change of a column from one definition to another. -/
def checkChange (now : Timestamp) (oldDefinition newDefinition : String) : Except Error Decision := do
  let oldType ← readDefinition oldDefinition
  let newType ← readDefinition newDefinition
  let current : TargetSchema :=
    { version := 0
      fields := [{ name := checkedColumn, type := oldType }]
      primaryKeys := []
      updatedAt := now }
  .ok ((SchemaChange.alterColumnType checkedColumn (.typed oldType) (.typed newType)).decide now
    current)

/-- The verdict on a checked change. -/
def Decision.verdict (oldDefinition newDefinition : String) : Decision → String
  | apply schema =>
    let widened := ((schema.field? checkedColumn).map fun c => c.type.describe).getD ""
    s!"apply: {oldDefinition} -> {widened}"
  | unchanged => s!"unchanged: {oldDefinition} already holds {newDefinition}"
  | skip reason => s!"skip: {reason}"

/-- The listed native types with the column types they become when they declare no size. -/
def listTypes : String :=
  let dash := "-"
  "Supported MySQL types (default length/precision):\n" ++
    String.join (NativeType.listed.map fun name =>
      let type := ({ name } : NativeType).columnType?
      s!"  {Text.padRight 20 name} {(type.map ColumnType.describe).getD dash}\n")

end ShardMerge
