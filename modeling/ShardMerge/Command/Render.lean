import ShardMerge.Change.Wire
import ShardMerge.Sync.Plan
import ShardMerge.Text.Padding

/-!
# Results of commands

Plans and reports as text for readers, or as JSON.
-/

namespace ShardMerge

/-- How a result is written. -/
inductive OutputFormat where
  | text
  | json
deriving DecidableEq, Repr, Inhabited

/-- The name of a format. -/
def OutputFormat.name : OutputFormat → String
  | text => "text"
  | json => "json"

/-- A JSON value with a line break at its end. -/
def jsonText (value : Json) : String := value.pretty ++ "\n"

/-- Values with commas, or a dash if there are none. -/
def joinOrDash (values : List String) : String :=
  if values.isEmpty then "-" else ", ".intercalate values

/-- The line of one field. -/
def Column.render (field : Column) : String :=
  s!"  {Text.padRight 24 field.name} {field.type}\n"

/-- The lines of a schema. -/
def TargetSchema.render (s : TargetSchema) : String :=
  let options := s.options.entries.map fun (key, value) => key ++ "=" ++ value
  s!"Schema {s.version}:\n" ++ String.join (s.fields.map Column.render) ++
    s!"Primary keys: {joinOrDash s.primaryKeys}\n" ++
    s!"Partition keys: {joinOrDash s.partitionKeys}\n" ++
    if options.isEmpty then "" else s!"Options: {joinOrDash options}\n"

/-- A plan in either format. -/
def SyncPlan.render (p : SyncPlan) : OutputFormat → String
  | .json => jsonText p.write
  | .text =>
    let origins := ", ".intercalate (p.origins.map TableName.describe)
    s!"Action: {p.action}\nSources ({p.origins.length}): {origins}\n" ++ p.target.render

/-- The line of a skipped event. -/
def SkippedEvent.render (s : SkippedEvent) : String :=
  s!"Skipped '{s.event.change}' from {s.event.origin}: {s.reason}\n"

/-- A report in either format. -/
def ChangeReport.render (r : ChangeReport) : OutputFormat → String
  | .json => jsonText r.write
  | .text =>
    s!"Events: {r.total} ({r.applied.length} applied, {r.unchanged} unchanged, " ++
      s!"{r.skipped.length} skipped)\n" ++ String.join (r.skipped.map SkippedEvent.render) ++
      (r.applied.getLast?.map TargetSchema.render).getD ""

end ShardMerge
