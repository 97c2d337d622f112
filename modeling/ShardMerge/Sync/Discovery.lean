import ShardMerge.Source.Basic

/-!
# Discovery

Which tables of a source are selected, and their schemas.

* `Source.select` lists the selected tables in the order of the source.
* `Source.discover` reads their schemas, and fails if no table is selected or a type is not
  understood.
-/

namespace ShardMerge

namespace Source

/-- Whether a database is searched. -/
def searches (source : Source) (includeSystem : Bool) (database : String) : Bool :=
  includeSystem || !source.isSystemDatabase database

/-- The selected tables of one database. -/
def selectIn (source : Source) (tables : String → Bool) (database : String) :
    Except Error (List TableName) := do
  let names ← source.tables database
  .ok ((names.filter tables).map fun table => { database, table })

/-- The tables of a source whose names are selected, in its order. -/
def selectBy (source : Source) (databases tables : String → Bool) (includeSystem : Bool) :
    Except Error (List TableName) := do
  let names ← source.databases
  let searched := (names.filter (source.searches includeSystem)).filter databases
  .ok (← searched.mapM (source.selectIn tables)).flatten

/-- The tables of a source that two patterns select. -/
def select (source : Source) (databases tables : NamePattern) (includeSystem : Bool) :
    Except Error (List TableName) :=
  source.selectBy databases.selects tables.selects includeSystem

/-- The schema of one table. -/
def schemaOf (source : Source) (table : TableName) : Except Error SourceSchema := do
  (← source.describe table).toSource table

/-- The schemas of the tables that are selected by the names of their databases and their own. -/
def discoverWith (source : Source) (config : DiscoveryConfig) (databases tables : NameMatcher) :
    Except Error (List SourceSchema) := do
  let selected ← source.selectBy databases.selects tables.selects config.includeSystem
  if selected.isEmpty then .error (.noMatchingSource databases.text tables.text)
  else selected.mapM source.schemaOf

variable [CharacterProperties]

/-- The schemas of the selected tables. -/
def discover (source : Source) (config : DiscoveryConfig) : Except Error (List SourceSchema) := do
  source.discoverWith config ((← config.databases).matcher config.databasePattern)
    ((← config.tables).matcher config.tablePattern)

/-! ## The journal of a discovery -/

/-- What is reported of one database. -/
def databaseNotes (source : Source) (databases tables : NamePattern) (includeSystem : Bool)
    (database : String) : List Entry :=
  if !source.searches includeSystem database then
    [⟨.trace, s!"Skipping system database '{database}'"⟩]
  else if !databases.selects database then []
  else
    match source.selectIn tables.selects database with
    | .ok selected => selected.map fun t => ⟨.debug, s!"Matched source table {t}"⟩
    | .error _ => []

/-- What is reported of databases up to the first one that gives no answer. -/
def searchNotes (source : Source) (databases tables : NamePattern) (includeSystem : Bool) :
    List String → List Entry
  | [] => []
  | database :: rest =>
    let asked := source.searches includeSystem database && databases.selects database
    source.databaseNotes databases tables includeSystem database ++
      if asked && !(source.tables database).isOk then []
      else source.searchNotes databases tables includeSystem rest

/-- What is reported while tables are selected. -/
def selectNotes (source : Source) (databases tables : NamePattern) (includeSystem : Bool) :
    List Entry :=
  source.databasesNotes ++
    match source.databases with
    | .ok names => source.searchNotes databases tables includeSystem names
    | .error _ => []

/-- What is reported of tables up to the first one whose schema is not found. -/
def schemaNotes (source : Source) : List TableName → List Entry
  | [] => []
  | table :: rest =>
    source.describeNotes table ++
      if (source.schemaOf table).isOk then source.schemaNotes rest else []

/-- What is reported of a discovery. -/
def discoverNotes (source : Source) (config : DiscoveryConfig) : List Entry :=
  match config.databases, config.tables with
  | .ok databases, .ok tables =>
    source.selectNotes databases tables config.includeSystem ++
      match source.select databases tables config.includeSystem with
      | .ok [] | .error _ => []
      | .ok selected =>
        ⟨.info, s!"Discovered {selected.length} source table(s) matching " ++
          s!"{config.databasePattern} / {config.tablePattern}"⟩ :: source.schemaNotes selected
  | _, _ => []

end Source

end ShardMerge
