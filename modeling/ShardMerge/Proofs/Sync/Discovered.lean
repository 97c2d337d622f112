import ShardMerge.Proofs.Sync.Discovery
import ShardMerge.Proofs.Sync.ReadAhead
import ShardMerge.Proofs.Text.ByteOrder

/-!
# The outcome of a discovery

What discovery over a snapshot answers, for all ways to select names and however many tables are
read at once.

* `TableName.Precedes` is the order of the answers, and `precedes_selectBy` says that tables are
  selected in it.
* `RawTable.toSource_iff_describes` and `RawTable.toSource_eq_error_iff` say what one table comes
  to.
* `Discovers` is what all of them come to, and `discovers_mapM` says so of reading them in order.
* `Source.discoverWith_snapshot` puts them together.
-/

namespace ShardMerge

open Text

/-! ## The order of tables -/

/-- Tables in the order of the bytes of their databases, and within one database of their own. -/
def TableName.Precedes (a b : TableName) : Prop :=
  bytes a.database < bytes b.database ∨ a.database = b.database ∧ bytes a.table < bytes b.table

theorem Dict.pairwise_keys {α : Type} (d : Dict α) : d.keys.Pairwise (· < ·) :=
  List.pairwise_map.2 d.sorted

theorem Snapshot.pairwise_tableNames (content : Snapshot) (database : String) :
    (content.tableNames database).Pairwise (· < ·) := by
  unfold tableNames
  cases content.databases.find? database with
  | none => exact .nil
  | some tables => exact tables.pairwise_keys

/-- Each table is selected once, in order. -/
theorem Source.precedes_selectBy {path : Option String} {content : Snapshot}
    {databases tables : String → Bool} {includeSystem : Bool} {selected : List TableName}
    (h : (snapshot path content).selectBy databases tables includeSystem = .ok selected) :
    selected.Pairwise TableName.Precedes := by
  rw [selectBy_snapshot] at h
  cases h
  refine List.pairwise_flatMap.2 ⟨fun database _ => List.pairwise_map.2 ?_, ?_⟩
  · refine ((content.pairwise_tableNames database).sublist List.filter_sublist).imp ?_
    exact fun hlt => .inr ⟨rfl, lt_iff_bytes_lt.1 hlt⟩
  · have hsub := (List.filter_sublist (l := content.databases.keys.filter
      ((snapshot path content).searches includeSystem)) (p := databases)).trans List.filter_sublist
    refine (content.databases.pairwise_keys.sublist hsub).imp fun {a b} hlt => ?_
    intro first hfirst second hsecond
    obtain ⟨_, _, rfl⟩ := List.mem_map.1 hfirst
    obtain ⟨_, _, rfl⟩ := List.mem_map.1 hsecond
    exact .inl (lt_iff_bytes_lt.1 hlt)

/-! ## One table -/

namespace RawTable

variable {table : RawTable} {origin : TableName} {s : SourceSchema} {e : Error}

/-- The columns of a schema are those of the table, in order, with their mapped types. -/
structure Describes (table : RawTable) (origin : TableName) (s : SourceSchema) : Prop where
  origin_eq : s.origin = origin
  columns : List.Forall₂ (fun raw c => c.name = raw.name ∧ raw.type.columnType? = some c.type)
    table.columns s.columns
  primaryKey_eq : s.primaryKey = table.primaryKey

theorem toSource_iff_describes : table.toSource origin = .ok s ↔ table.Describes origin s := by
  have hmap (raw : RawColumn) (c : Column) : mapColumn origin raw = .ok c ↔
      c.name = raw.name ∧ raw.type.columnType? = some c.type :=
    mapColumn_eq_ok_iff.trans and_comm
  simp only [toSource_eq_ok_iff, hmap]
  constructor
  · intro h
    obtain ⟨columns, hcolumns, rfl⟩ := h
    exact ⟨rfl, hcolumns, rfl⟩
  · intro h
    obtain ⟨origin', columns, primaryKey⟩ := s
    obtain ⟨rfl, hcolumns, rfl⟩ := h
    exact ⟨columns, hcolumns, rfl⟩

/-- A column whose native type has a column type. -/
def IsMapped (raw : RawColumn) : Prop := ∃ type, raw.type.columnType? = some type

theorem exists_mapColumn_iff {raw : RawColumn} :
    (∃ c, mapColumn origin raw = .ok c) ↔ IsMapped raw := by
  unfold mapColumn IsMapped
  cases raw.type.columnType? <;> simp

theorem mapColumn_eq_error_iff {raw : RawColumn} :
    mapColumn origin raw = .error e ↔ raw.type.columnType? = none ∧
      e = .unrecognizedNativeType origin raw.name raw.type.name := by
  unfold mapColumn
  cases raw.type.columnType? <;> simp [eq_comm]

/-- A table fails for its first column without a type. -/
theorem toSource_eq_error_iff :
    table.toSource origin = .error e ↔
      ∃ before raw after, table.columns = before ++ raw :: after ∧
        (∀ c ∈ before, IsMapped c) ∧ raw.type.columnType? = none ∧
          e = .unrecognizedNativeType origin raw.name raw.type.name := by
  have hok (columns : List Column) :
      (Except.ok { origin, columns, primaryKey := table.primaryKey } : Except Error SourceSchema) ≠
        .error e := nofun
  simp only [toSource, bind_eq_error_iff, mapM_eq_error_iff, exists_mapColumn_iff,
    mapColumn_eq_error_iff, hok, and_false, exists_false, or_false]

theorem exists_toSource_iff :
    (∃ s, table.toSource origin = .ok s) ↔ ∀ c ∈ table.columns, IsMapped c := by
  constructor
  · intro h
    obtain ⟨s, hs⟩ := h
    intro c hc
    obtain ⟨_, _, _, htype⟩ := exists_mem_of_forall₂ (toSource_iff_describes.1 hs).columns hc
    exact ⟨_, htype⟩
  · intro h
    cases hsource : table.toSource origin with
    | ok s => exact ⟨s, rfl⟩
    | error e =>
      obtain ⟨before, raw, after, hcolumns, _, hnone, _⟩ := toSource_eq_error_iff.1 hsource
      obtain ⟨type, htype⟩ := h raw (by simp [hcolumns])
      rw [hnone] at htype
      cases htype

end RawTable

/-! ## All tables -/

/-- What the selected tables of a snapshot come to. -/
inductive Discovers (content : Snapshot) (databases tables : NameMatcher)
    (selected : List TableName) : Except Error (List SourceSchema) → Prop
  /-- No table is selected. -/
  | nothing (h : selected = []) :
      Discovers content databases tables selected
        (.error (.noMatchingSource databases.text tables.text))
  /-- A column has no type: the first one in the first table that has such a column. -/
  | unmapped {before after : List TableName} {table : TableName} {raw : RawTable}
      {mapped rest : List RawColumn} {column : RawColumn}
      (hselected : selected = before ++ table :: after)
      (hbefore : ∀ t ∈ before, ∃ raw, content.table? t = some raw ∧
        ∀ c ∈ raw.columns, RawTable.IsMapped c)
      (hraw : content.table? table = some raw)
      (hcolumns : raw.columns = mapped ++ column :: rest)
      (hmapped : ∀ c ∈ mapped, RawTable.IsMapped c)
      (hcolumn : column.type.columnType? = none) :
      Discovers content databases tables selected
        (.error (.unrecognizedNativeType table column.name column.type.name))
  /-- Each selected table has a schema. -/
  | found {sources : List SourceSchema} (h : selected ≠ [])
      (hsources : List.Forall₂ (fun table s => ∃ raw, content.table? table = some raw ∧
        raw.Describes table s) selected sources) :
      Discovers content databases tables selected (.ok sources)

namespace Source

variable {path : Option String} {content : Snapshot} {databases tables : NameMatcher}
  {selected : List TableName}

theorem schemaOf_snapshot {table : TableName} {raw : RawTable}
    (h : content.table? table = some raw) :
    (snapshot path content).schemaOf table = raw.toSource table := by
  have hdescribe : (snapshot path content).describe table = .ok raw := by
    simp only [describe, h]
  rw [schemaOf, hdescribe, ok_bind]

theorem discovers_mapM (hsome : selected ≠ [])
    (htables : ∀ table ∈ selected, ∃ raw, content.table? table = some raw) :
    Discovers content databases tables selected
      (selected.mapM (snapshot path content).schemaOf) := by
  cases hread : selected.mapM (snapshot path content).schemaOf with
  | error e =>
    obtain ⟨before, table, after, hselected, hbefore, hfailed⟩ := mapM_eq_error_iff.1 hread
    obtain ⟨raw, hraw⟩ := htables table (by simp [hselected])
    rw [schemaOf_snapshot hraw] at hfailed
    obtain ⟨mapped, column, rest, hcolumns, hmapped, hcolumn, rfl⟩ :=
      RawTable.toSource_eq_error_iff.1 hfailed
    refine .unmapped hselected (fun t ht => ?_) hraw hcolumns hmapped hcolumn
    obtain ⟨raw', hraw'⟩ := htables t (by simp [hselected, ht])
    obtain ⟨s, hs⟩ := hbefore t ht
    rw [schemaOf_snapshot hraw'] at hs
    exact ⟨raw', hraw', RawTable.exists_toSource_iff.1 ⟨s, hs⟩⟩
  | ok sources =>
    refine .found hsome ?_
    have hsources := mapM_eq_ok_iff.1 hread
    refine List.forall₂_iff_zip.2 ⟨hsources.length_eq, fun {table s} hmem => ?_⟩
    obtain ⟨raw, hraw⟩ := htables table (List.of_mem_zip hmem).1
    have hs := (List.forall₂_iff_zip.1 hsources).2 hmem
    rw [schemaOf_snapshot hraw] at hs
    exact ⟨raw, hraw, RawTable.toSource_iff_describes.1 hs⟩

/-- Discovery over a snapshot selects exactly the tables that it should, each once and in order.  It
comes to what these tables come to, also if several of them are read at once. -/
theorem discoverWith_snapshot (path : Option String) (content : Snapshot) (config : DiscoveryConfig)
    (databases tables : NameMatcher) :
    ∃ selected : List TableName,
      selected.Pairwise TableName.Precedes ∧
      (∀ table, table ∈ selected ↔
        (∃ raw, content.table? table = some raw) ∧ databases.selects table.database = true ∧
          tables.selects table.table = true ∧
            (config.includeSystem = true ∨ table.database ∉ content.systemDatabases)) ∧
      Discovers content databases tables selected
        ((snapshot path content).discoverWith config databases tables) ∧
      (selected ≠ [] → ∀ outcome,
        ReadAhead.Results (snapshot path content).schemaOf (max 1 config.maxConcurrency.toNat)
            selected outcome ↔
          outcome = (snapshot path content).discoverWith config databases tables) := by
  obtain ⟨selected, hselect⟩ : ∃ selected, (snapshot path content).selectBy databases.selects
      tables.selects config.includeSystem = .ok selected := ⟨_, selectBy_snapshot ..⟩
  have hdiscover : (snapshot path content).discoverWith config databases tables =
      if selected.isEmpty then .error (.noMatchingSource databases.text tables.text)
      else selected.mapM (snapshot path content).schemaOf := by
    rw [discoverWith, hselect, ok_bind]
  refine ⟨selected, precedes_selectBy hselect, fun table => mem_selectBy_iff hselect, ?_,
    fun hsome outcome => ?_⟩
  · rw [hdiscover]
    by_cases hnone : selected = []
    · rw [if_pos (List.isEmpty_iff.2 hnone)]
      exact .nothing hnone
    · rw [if_neg (mt List.isEmpty_iff.1 hnone)]
      exact discovers_mapM hnone fun table htable => ((mem_selectBy_iff hselect).1 htable).1
  · rw [hdiscover, if_neg (mt List.isEmpty_iff.1 hsome)]
    exact ReadAhead.results_iff (Nat.lt_of_lt_of_le Nat.one_pos (Nat.le_max_left _ _))

end Source

end ShardMerge
