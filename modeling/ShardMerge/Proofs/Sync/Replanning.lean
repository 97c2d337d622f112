import ShardMerge.Proofs.Catalog.Replay
import ShardMerge.Proofs.Sync.Planner

/-!
# Planning again

A table that was planned once stays usable: whatever events are replayed against it, planning again
finds that it still has room for the sources, and changes nothing.

* `MemoryCatalog.Provides` is the invariant: the target table has room for what the sources make
  together.
* `provides_of_planIn` establishes it.  A table that is there was checked, and one that is created
  has exactly the fields of the merge, which differ in their names since those of each source do.
* `Provides.replays` keeps it, since a run of events only ever makes fields wider, and
  `Provides.planIn` is what planning does under it.
-/

namespace ShardMerge

/-! ## Room that lasts -/

/-- A field that exists stays, and is never narrower at the end of a run. -/
theorem ChangeEvent.type?_processAt_of_some {s : TargetSchema}
    {arrivals : List (Timestamp × ChangeEvent)} {name : String} {type : ColumnType}
    (h : s.type? name = some type) :
    ∃ later, (processAt s arrivals).1.type? name = some later ∧ type.fitsIn later = true := by
  induction arrivals generalizing s type with
  | nil => exact ⟨type, h, ColumnType.fitsIn_refl type⟩
  | cons arrival arrivals ih =>
    obtain ⟨now, event⟩ := arrival
    obtain ⟨between, hbetween, hfits⟩ : ∃ between,
        (event.advance now s).type? name = some between ∧ type.fitsIn between = true :=
      type?_advance_of_some h
    obtain ⟨later, hlater, hfits'⟩ := ih hbetween
    exact ⟨later, hlater, ColumnType.fitsIn_trans hfits hfits'⟩

/-- Every table of a source gives its columns different names. -/
def Source.HasDistinctColumns (source : Source) : Prop :=
  ∀ (table : TableName) (raw : RawTable), source.describe table = .ok raw →
    (raw.columns.map (·.name)).Nodup

/-- The tables of a snapshot can be looked through one by one. -/
theorem Source.hasDistinctColumns_snapshot_iff {path : Option String} {content : Snapshot} :
    (snapshot path content).HasDistinctColumns ↔
      ∀ database ∈ content.databases.entries, ∀ table ∈ database.2.entries,
        (table.2.columns.map (·.name)).Nodup := by
  have hdescribe (database name : String) (raw : RawTable) :
      (snapshot path content).describe ⟨database, name⟩ = .ok raw ↔
        ∃ tables, (database, tables) ∈ content.databases.entries ∧
          (name, raw) ∈ tables.entries := by
    simp only [← Dict.find?_eq_some_iff]
    rw [← Option.bind_eq_some_iff]
    change _ ↔ content.table? ⟨database, name⟩ = some raw
    cases htable : content.table? ⟨database, name⟩ <;> simp [describe, htable]
  constructor
  · intro h database hdatabase table htable
    exact h ⟨database.1, table.1⟩ table.2
      ((hdescribe _ _ _).2 ⟨database.2, hdatabase, htable⟩)
  · intro h table raw hraw
    obtain ⟨tables, htables, hentry⟩ := (hdescribe _ _ _).1 hraw
    exact h _ htables _ hentry

instance (path : Option String) (content : Snapshot) :
    Decidable (Source.snapshot path content).HasDistinctColumns :=
  decidable_of_iff _ Source.hasDistinctColumns_snapshot_iff.symm

theorem Server.collected_eq_ok_iff {α : Type} {context : String} {answer : Option α} {value : α} :
    collected context answer = .ok value ↔ answer = some value := by
  cases answer <;> simp [collected]

/-- The column of a row has its name. -/
theorem Server.ColumnRow.name_of_read {table : TableName} {row : ColumnRow} {column : RawColumn}
    (h : row.read table = .ok column) : row.name = some column.name := by
  obtain ⟨name, hname, h⟩ := bind_eq_ok_iff.1 h
  obtain ⟨_, _, h⟩ := bind_eq_ok_iff.1 h
  obtain ⟨_, _, h⟩ := bind_eq_ok_iff.1 h
  obtain ⟨_, _, h⟩ := bind_eq_ok_iff.1 h
  obtain ⟨_, _, h⟩ := bind_eq_ok_iff.1 h
  rw [collected_eq_ok_iff.1 hname, ← Except.ok.inj h]
  rfl

/-- For a server it is enough that no answer to the question for the columns of a table repeats a
name. -/
theorem Source.hasDistinctColumns_server {settings : ConnectionSettings} {pool : Server.Pool}
    (h : ∀ table rows, pool.columns table = some rows → (rows.map (·.name)).Nodup) :
    (server settings pool).HasDistinctColumns := by
  intro table raw hraw
  obtain ⟨rows, hrows, hraw⟩ := bind_eq_ok_iff.1 hraw
  obtain ⟨columns, hcolumns, hraw⟩ := bind_eq_ok_iff.1 hraw
  obtain ⟨_, _, hraw⟩ := bind_eq_ok_iff.1 hraw
  obtain ⟨key, _, hraw⟩ := bind_eq_ok_iff.1 hraw
  cases hraw
  have hnames : List.Forall₂ (fun row column => row.name = some column.name) rows columns :=
    (mapM_eq_ok_iff.1 hcolumns).imp fun _ _ => Server.ColumnRow.name_of_read
  have hmap : rows.map (·.name) = (columns.map (·.name)).map some := by
    rw [List.map_map, ← List.forall₂_eq_eq_eq, List.forall₂_map_left_iff,
      List.forall₂_map_right_iff]
    exact hnames
  have hdistinct := h table rows (Server.collected_eq_ok_iff.1 hrows)
  rw [hmap] at hdistinct
  exact hdistinct.of_map

namespace Source.HasDistinctColumns

variable {source : Source} {config : SyncConfig} {unified : UnifiedSchema}

theorem names_nodup_of_discover [CharacterProperties] (h : source.HasDistinctColumns)
    {discovery : DiscoveryConfig} {sources : List SourceSchema}
    (hdiscover : source.discover discovery = .ok sources) :
    ∀ s ∈ sources, s.names.Nodup := by
  intro s hs
  obtain ⟨_, _, _, _, _, _, _, hsources⟩ := Source.discover_eq_ok_iff.1 hdiscover
  obtain ⟨table, _, hschema⟩ := exists_mem_of_forall₂ hsources.flip hs
  obtain ⟨raw, hraw, hsource⟩ := Source.schemaOf_eq_ok_iff.1 hschema
  rw [SourceSchema.names, RawTable.names_of_toSource hsource]
  exact h table raw hraw

theorem names_nodup_of_unify [CharacterProperties] (h : source.HasDistinctColumns)
    (hunify : config.unify source = .ok unified) : (unified.columns.map (·.name)).Nodup := by
  obtain ⟨sources, hdiscover, hmerge⟩ := bind_eq_ok_iff.1 hunify
  exact (UnifiedSchema.unifies_of_merge (h.names_nodup_of_discover hdiscover) hmerge).names_nodup

end Source.HasDistinctColumns

namespace MemoryCatalog

open SyncConfig

section

variable [CharacterProperties] {c after : MemoryCatalog} {config : SyncConfig} {source : Source}
  {unified : UnifiedSchema} {latest : TargetSchema} {plan : SyncPlan}

/-! ## Catalogs that provide for their sources -/

/-- The latest version of the target table has room for what the sources make together. -/
structure Provides (c : MemoryCatalog) (config : SyncConfig) (source : Source)
    (unified : UnifiedSchema) (latest : TargetSchema) : Prop where
  merged : config.unify source = .ok unified
  latest? : c.latest? config.target = some latest
  room : latest.hasRoomFor unified = true

/-- Planning leaves a catalog that provides for the sources, unless nothing may be written. -/
theorem provides_of_planIn {now : Timestamp} (hnames : source.HasDistinctColumns)
    (hwrites : config.dryRun = false) (h : config.planIn now source c = (.ok plan, after)) :
    after.Provides config source plan.unified plan.target := by
  obtain ⟨hunify, ⟨hsettle, rfl⟩ | ⟨draft, hsettle, htarget, hcreate⟩⟩ := planIn_eq_ok h
  · obtain ⟨hlatest, hroom⟩ := settle_eq_useExisting_iff.1 hsettle
    exact ⟨hunify, by rw [latest?_opened, hlatest], hroom⟩
  · rw [if_neg (by rw [hwrites]; exact Bool.false_ne_true)] at hcreate
    refine ⟨hunify, by simp [latest?_eq, history?_createTable hcreate], ?_⟩
    apply TargetSchema.hasRoomFor_of_fields (hnames.names_nodup_of_unify hunify)
    rw [htarget]
    exact UnifiedSchema.columns_of_buildTarget (settle_eq_create_iff.1 hsettle).2

namespace Provides

/-- Replays succeed, and leave a catalog that still provides for the sources. -/
theorem replays (h : c.Provides config source unified latest) (w : World)
    (replays : List (List (Timestamp × ChangeEvent))) :
    ∃ reports after, c.exec w (replays.mapM (replayEvents catalog config.target)) =
        ((.ok reports, after), w) ∧
      after.Provides config source unified (ChangeEvent.processAt latest replays.flatten).1 := by
  obtain ⟨reports, after, hreplays, hafter⟩ := exec_mapM_replayEvents w h.latest? replays
  refine ⟨reports, after, hreplays, h.merged, hafter.latest?, ?_⟩
  apply TargetSchema.hasRoomFor_of_wider _ h.room
  intro name type htype
  exact ChangeEvent.type?_processAt_of_some htype

/-- Planning uses the table that is there, and leaves the catalog as it is. -/
theorem planIn (h : c.Provides config source unified latest) (now : Timestamp) :
    config.planIn now source c =
      (.ok { action := .useExisting, unified, target := latest }, c) := by
  obtain ⟨versions, hhistory, _⟩ := latest?_eq_some_iff.1 h.latest?
  have hsettle : config.settle unified (c.latest? config.target) = .ok (.useExisting latest) :=
    settle_eq_useExisting_iff.2 ⟨h.latest?, h.room⟩
  simp only [SyncConfig.planIn, SyncConfig.carryOutIn, h.merged, hsettle, SyncConfig.opened,
    withDatabase_eq_self (hasDatabase_of_history? hhistory), ite_self]

end Provides

/-! ## The result -/

/-- After planning has succeeded once, and after any replays against the target table, planning
again uses the latest version of that table and leaves the catalog as it is. -/
theorem plan_after_replays {planned : MemoryCatalog} {w w' : World}
    (hnames : source.HasDistinctColumns) (hwrites : config.dryRun = false)
    (h : c.exec w (config.plan source catalog) = ((.ok plan, planned), w'))
    (replays : List (List (Timestamp × ChangeEvent))) (between : World) :
    let latest := (ChangeEvent.processAt plan.target replays.flatten).1
    ∃ reports after,
      planned.exec between (replays.mapM (replayEvents catalog config.target)) =
          ((.ok reports, after), between) ∧
        after.latest? config.target = some latest ∧
        ∀ later, (after.exec later (config.plan source catalog)).1 =
          (.ok { action := .useExisting, unified := plan.unified, target := latest }, after) := by
  have hplan := exec_plan c w config source
  rw [h] at hplan
  have hplanned := provides_of_planIn hnames hwrites hplan.symm
  obtain ⟨reports, after, hreplays, hafter⟩ := hplanned.replays between replays
  refine ⟨reports, after, hreplays, hafter.latest?, ?_⟩
  intro later
  rw [exec_plan]
  exact hafter.planIn later.clock.now

end

/-- Two replays, of which the first one adds a field to the table of `SyncConfig.shardsConfig` and
makes another one wider, and the second one asks for what does not compare. -/
def shardsReplays : List (List (Timestamp × ChangeEvent)) :=
  [[(default, ⟨⟨"shard_1", "orders"⟩, .addColumn "price" (.typed (.decimal 10 2))⟩),
    (default, ⟨⟨"shard_1", "orders"⟩, .addColumn "note" (.typed .text)⟩)],
   [(default, ⟨⟨"shard_2", "orders"⟩, .addColumn "id" (.typed .date)⟩)]]

/-- The server of a shard, with one table in the words of that server. -/
def shardServer : Source :=
  .server { host := "db" }
    { databaseNames := some ["mysql", "shard_1"]
      tableNames := fun _ => some ["orders"]
      columns := fun _ => some
        [⟨some "id", some "int", some "int unsigned", some (some 10), some (some 0)⟩,
          ⟨some "note", some "varchar", some "varchar(20)", some (some 20), some none⟩]
      primaryKey := fun _ => some ["id"] }

theorem planIn_shardServer :
    ∃ plan after, shardsConfig.planIn default shardServer {} = (.ok plan, after) :=
  ⟨_, _, rfl⟩

theorem plan_after_replays_shards :
    let stays (source : Source) : Prop := ∃ plan planned w',
      exec {} { clock := default } (shardsConfig.plan source catalog) = ((.ok plan, planned), w') ∧
        let latest := (ChangeEvent.processAt plan.target shardsReplays.flatten).1
        ∃ reports after,
          planned.exec w' (shardsReplays.mapM (replayEvents catalog shardsConfig.target)) =
              ((.ok reports, after), w') ∧
            after.latest? shardsConfig.target = some latest ∧
            ∀ later, (after.exec later (shardsConfig.plan source catalog)).1 =
              (.ok { action := .useExisting, unified := plan.unified, target := latest }, after)
    (Source.snapshot none shards).HasDistinctColumns ∧ shardServer.HasDistinctColumns ∧
      shardsConfig.dryRun = false ∧ stays (.snapshot none shards) ∧ stays shardServer := by
  intro stays
  have hstays {source : Source} (hnames : source.HasDistinctColumns)
      (hplan : ∃ plan after, shardsConfig.planIn default source {} = (.ok plan, after)) :
      stays source := by
    obtain ⟨plan, planned, hplan⟩ := hplan
    obtain ⟨w', hexec⟩ := exec_plan_eq_ok (w := { clock := default }) hplan
    exact ⟨plan, planned, w', hexec, plan_after_replays hnames rfl hexec shardsReplays w'⟩
  have hsnapshot : (Source.snapshot none shards).HasDistinctColumns := by decide
  have hserver : shardServer.HasDistinctColumns := by
    refine Source.hasDistinctColumns_server fun _ rows hrows => ?_
    cases hrows
    decide
  exact ⟨hsnapshot, hserver, rfl, hstays hsnapshot planIn_shards,
    hstays hserver planIn_shardServer⟩

end MemoryCatalog

end ShardMerge
