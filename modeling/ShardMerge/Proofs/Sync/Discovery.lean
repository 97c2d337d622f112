import ShardMerge.Proofs.Computation
import ShardMerge.Sync.Discovery

/-!
# What discovery finds

Discovery selects tables by their names, and reads the schema of each selected table by mapping its
columns one by one.

* `DiscoveryConfig.Selects` says which tables of a snapshot a configuration selects.
  `mem_selectBy_iff` says which tables discovery lists, and `mem_select_of_selects` that the
  selected ones are among them.
* `discover_eq_ok_iff` takes a successful discovery apart, and `toSource_eq_ok_iff` and
  `mapColumn_eq_ok_iff` do so for one table and one column.
* `exists_source_of_discover` puts them together: every column of every selected table is among the
  discovered ones, with its name and its mapped type.
-/

namespace ShardMerge

/-! ## Tables of a snapshot -/

theorem Snapshot.mem_tableNames_iff {content : Snapshot} {database table : String} :
    table ∈ content.tableNames database ↔ ∃ raw, content.table? ⟨database, table⟩ = some raw := by
  unfold tableNames table?
  cases content.databases.find? database with
  | none => simp
  | some tables => simp [Dict.mem_keys_iff]

/-- A table of a snapshot is selected: the patterns select its names, and its database does not
belong to the source itself unless such databases are searched too. -/
structure DiscoveryConfig.Selects [CharacterProperties] (config : DiscoveryConfig)
    (content : Snapshot) (table : TableName) : Prop where
  byDatabase : ∃ pattern, config.databases = .ok pattern ∧ pattern.selects table.database = true
  byTable : ∃ pattern, config.tables = .ok pattern ∧ pattern.selects table.table = true
  searched : config.includeSystem = true ∨ table.database ∉ content.systemDatabases

namespace Source

variable {path : Option String} {content : Snapshot}

/-- The selected tables of a snapshot, database by database. -/
theorem selectBy_snapshot (path : Option String) (content : Snapshot)
    (databases tables : String → Bool) (includeSystem : Bool) :
    (snapshot path content).selectBy databases tables includeSystem =
      .ok (((content.databases.keys.filter ((snapshot path content).searches includeSystem)).filter
        databases).flatMap fun database =>
          ((content.tableNames database).filter tables).map fun table => { database, table }) := by
  have hselect (l : List String) :
      l.mapM ((snapshot path content).selectIn tables) =
        .ok (l.map fun database =>
          ((content.tableNames database).filter tables).map fun table =>
            ({ database, table } : TableName)) :=
    List.mapM_pure
  simp only [selectBy, Source.databases, bind, Except.bind, hselect, List.flatMap_def]

theorem mem_selectBy_iff {databases tables : String → Bool} {includeSystem : Bool}
    {selected : List TableName}
    (h : (snapshot path content).selectBy databases tables includeSystem = .ok selected)
    {table : TableName} :
    table ∈ selected ↔
      (∃ raw, content.table? table = some raw) ∧ databases table.database = true ∧
        tables table.table = true ∧
          (includeSystem = true ∨ table.database ∉ content.systemDatabases) := by
  rw [selectBy_snapshot] at h
  cases h
  obtain ⟨database, name⟩ := table
  have hkey (raw : RawTable) (hraw : content.table? ⟨database, name⟩ = some raw) :
      database ∈ content.databases.keys := by
    obtain ⟨tables, htables, _⟩ := Option.bind_eq_some_iff.1 hraw
    exact Dict.mem_keys_iff.2 ⟨tables, htables⟩
  simp only [List.mem_flatMap, List.mem_filter, List.mem_map, searches, isSystemDatabase]
  constructor
  · intro hmem
    obtain ⟨_, ⟨⟨_, hsearched⟩, hdatabase⟩, _, ⟨hname, htable⟩, heq⟩ := hmem
    cases heq
    exact ⟨Snapshot.mem_tableNames_iff.1 hname, hdatabase, htable, by simpa using hsearched⟩
  · intro hselected
    obtain ⟨⟨raw, hraw⟩, hdatabase, htable, hsearched⟩ := hselected
    exact ⟨database, ⟨⟨hkey raw hraw, by simpa using hsearched⟩, hdatabase⟩, name,
      ⟨Snapshot.mem_tableNames_iff.2 ⟨raw, hraw⟩, htable⟩, rfl⟩

/-- Every table that a configuration selects is listed. -/
theorem mem_select_of_selects [CharacterProperties] {config : DiscoveryConfig}
    {databases tables : NamePattern} {selected : List TableName}
    (hdatabases : config.databases = .ok databases) (htables : config.tables = .ok tables)
    (hselect : (snapshot path content).select databases tables config.includeSystem = .ok selected)
    {table : TableName} (htable : ∃ raw, content.table? table = some raw)
    (h : config.Selects content table) : table ∈ selected := by
  obtain ⟨pattern, hpattern, hdatabase⟩ := h.byDatabase
  obtain ⟨pattern', hpattern', hname⟩ := h.byTable
  rw [hdatabases] at hpattern
  rw [htables] at hpattern'
  cases hpattern
  cases hpattern'
  exact (mem_selectBy_iff hselect).2 ⟨htable, hdatabase, hname, h.searched⟩

end Source

/-! ## Schemas of tables -/

theorem RawTable.mapColumn_eq_ok_iff {origin : TableName} {raw : RawColumn} {c : Column} :
    mapColumn origin raw = .ok c ↔ raw.type.columnType? = some c.type ∧ c.name = raw.name := by
  obtain ⟨name, type⟩ := c
  unfold mapColumn
  cases raw.type.columnType? with
  | none => simp
  | some mapped => simp [eq_comm, and_comm]

theorem RawTable.toSource_eq_ok_iff {table : RawTable} {origin : TableName} {s : SourceSchema} :
    table.toSource origin = .ok s ↔
      ∃ columns, List.Forall₂ (fun raw c => mapColumn origin raw = .ok c) table.columns columns ∧
        { origin, columns, primaryKey := table.primaryKey } = s := by
  simp only [toSource, bind_eq_ok_iff, mapM_eq_ok_iff, Except.ok.injEq]

/-- The columns of a table keep their names. -/
theorem RawTable.names_of_toSource {table : RawTable} {origin : TableName} {s : SourceSchema}
    (h : table.toSource origin = .ok s) : s.columns.map (·.name) = table.columns.map (·.name) := by
  obtain ⟨columns, hcolumns, rfl⟩ := toSource_eq_ok_iff.1 h
  have hnames : List.Forall₂ (fun raw c => raw.name = c.name) table.columns columns :=
    hcolumns.imp fun _ _ hmapped => (mapColumn_eq_ok_iff.1 hmapped).2.symm
  rw [← List.forall₂_map_right_iff, ← List.forall₂_map_left_iff, List.forall₂_eq_eq_eq] at hnames
  exact hnames.symm

namespace Source

theorem schemaOf_eq_ok_iff {source : Source} {table : TableName} {s : SourceSchema} :
    source.schemaOf table = .ok s ↔
      ∃ raw, source.describe table = .ok raw ∧ raw.toSource table = .ok s := by
  rw [schemaOf, bind_eq_ok_iff]

/-- A successful discovery reads the schema of each selected table, in order. -/
theorem discover_eq_ok_iff [CharacterProperties] {source : Source} {config : DiscoveryConfig}
    {sources : List SourceSchema} :
    source.discover config = .ok sources ↔
      ∃ databases tables selected, config.databases = .ok databases ∧
        config.tables = .ok tables ∧
          source.select databases tables config.includeSystem = .ok selected ∧ selected ≠ [] ∧
            List.Forall₂ (fun table s => source.schemaOf table = .ok s) selected sources := by
  simp only [discover, discoverWith, bind_eq_ok_iff]
  constructor
  · intro h
    obtain ⟨databases, hdatabases, tables, htables, selected, hselected, hsources⟩ := h
    split at hsources
    · cases hsources
    · rename_i hsome
      exact ⟨databases, tables, selected, hdatabases, htables, hselected, by simpa using hsome,
        mapM_eq_ok_iff.1 hsources⟩
  · intro h
    obtain ⟨databases, tables, selected, hdatabases, htables, hselected, hsome, hsources⟩ := h
    refine ⟨databases, hdatabases, tables, htables, selected, hselected, ?_⟩
    rw [if_neg (by simpa using hsome)]
    exact mapM_eq_ok_iff.2 hsources

/-- Every column of every selected table of a snapshot is discovered with its mapped type. -/
theorem exists_source_of_discover [CharacterProperties] {path : Option String}
    {content : Snapshot} {config : DiscoveryConfig} {sources : List SourceSchema}
    (h : (snapshot path content).discover config = .ok sources) {table : TableName}
    {raw : RawTable} (htable : content.table? table = some raw)
    (hselected : config.Selects content table) {column : RawColumn}
    (hcolumn : column ∈ raw.columns) :
    ∃ s ∈ sources, ∃ c ∈ s.columns, c.name = column.name ∧
      column.type.columnType? = some c.type := by
  obtain ⟨databases, tables, selected, hdatabases, htables, hselect, _, hsources⟩ :=
    discover_eq_ok_iff.1 h
  have hmem : table ∈ selected :=
    mem_select_of_selects hdatabases htables hselect ⟨raw, htable⟩ hselected
  obtain ⟨s, hs, hschema⟩ := exists_mem_of_forall₂ hsources hmem
  obtain ⟨described, hdescribed, hsource⟩ := schemaOf_eq_ok_iff.1 hschema
  have hraw : described = raw := by
    simpa [describe, htable, eq_comm] using hdescribed
  subst hraw
  obtain ⟨columns, hcolumns, rfl⟩ := RawTable.toSource_eq_ok_iff.1 hsource
  obtain ⟨c, hc, hmapped⟩ := exists_mem_of_forall₂ hcolumns hcolumn
  obtain ⟨htype, hname⟩ := RawTable.mapColumn_eq_ok_iff.1 hmapped
  exact ⟨_, hs, c, hc, hname, htype⟩

end Source

end ShardMerge
