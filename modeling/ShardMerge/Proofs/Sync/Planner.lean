import ShardMerge.Catalog.Warehouse
import ShardMerge.Proofs.Catalog.Memory
import ShardMerge.Proofs.Schema.Room
import ShardMerge.Proofs.Sync.Discovery
import ShardMerge.Sync.Planner

/-!
# What a plan promises

Whatever planning finds and does, the target table of a successful plan can hold every column that
was discovered.

* `settle_eq_useExisting_iff` and `settle_eq_create_iff` say what becomes of a target table.
* `SyncConfig.planIn` is the meaning of planning against a catalog in memory, as `exec_plan` shows,
  and `planIn_eq_ok` takes a success apart.
* `SyncPlan.Serves` is what every plan keeps to: `serves_of_planIn` for a catalog in memory and
  `serves_of_plan_warehouse` for one in files.
* `SyncConfig.Plans` covers both kinds of catalogs in all their states, and `Plans.exists_field` is
  the way of a column from its table to the target.
-/

namespace ShardMerge

variable {config : SyncConfig} {source : Source} {unified : UnifiedSchema}
  {existing : Option TargetSchema} {target : TargetSchema} {draft : TargetDraft} {plan : SyncPlan}

/-! ## Settling what to do -/

theorem UnifiedSchema.columns_of_buildTarget {primaryKeys partitionKeys : List String}
    {options : Dict String}
    (h : unified.buildTarget primaryKeys partitionKeys options = .ok draft) :
    draft.columns = unified.fields := by
  unfold buildTarget at h
  simp only at h
  split at h
  · split at h
    · cases h
    · cases h
      rfl
  · split at h
    · cases h
      rfl
    · cases h

theorem TargetSchema.ensureRoom_eq_ok_iff {u : Unit} :
    target.ensureRoom unified = .ok u ↔ target.hasRoomFor unified = true := by
  unfold ensureRoom
  split <;> simp_all

namespace SyncConfig

theorem settle_eq_useExisting_iff :
    config.settle unified existing = .ok (.useExisting target) ↔
      existing = some target ∧ target.hasRoomFor unified = true := by
  unfold settle
  cases existing with
  | none => simp [bind_eq_ok_iff]
  | some latest =>
    simp only [bind_eq_ok_iff, TargetSchema.ensureRoom_eq_ok_iff, exists_const, Except.ok.injEq,
      Settlement.useExisting.injEq, Option.some.injEq]
    constructor
    · intro h
      obtain ⟨hroom, rfl⟩ := h
      exact ⟨rfl, hroom⟩
    · intro h
      obtain ⟨rfl, hroom⟩ := h
      exact ⟨hroom, rfl⟩

theorem settle_eq_create_iff :
    config.settle unified existing = .ok (.create draft) ↔
      existing = none ∧ unified.buildTarget config.primaryKeys config.partitionKeys
        config.tableOptions = .ok draft := by
  unfold settle
  cases existing <;> simp [bind_eq_ok_iff]

/-! ## Planning against a catalog in memory -/

/-- What carrying out a plan in a catalog in memory answers at a time, and the catalog that it
leaves. -/
def carryOutIn (now : Timestamp) (config : SyncConfig) (unified : UnifiedSchema)
    (existing : Option TargetSchema) (c : MemoryCatalog) : Except Error SyncPlan × MemoryCatalog :=
  match config.settle unified existing with
  | .error e => (.error e, c)
  | .ok (.useExisting target) => (.ok { action := .useExisting, unified, target }, c)
  | .ok (.create draft) =>
    let target := TargetSchema.ofDraft draft now
    if config.dryRun then (.ok { action := .wouldCreate, unified, target }, c)
    else
      match c.createTable config.target target with
      | .error e => (.error e, c)
      | .ok created => (.ok { action := .created, unified, target }, created)

/-- The catalog in which a plan is carried out: the database of the target table is there, unless
nothing may be written. -/
def opened (config : SyncConfig) (c : MemoryCatalog) : MemoryCatalog :=
  if config.dryRun then c else c.withDatabase config.target.database

open MemoryCatalog

theorem latest?_opened (config : SyncConfig) (c : MemoryCatalog) (table : TableName) :
    (config.opened c).latest? table = c.latest? table := by
  unfold opened
  split
  · rfl
  · rw [latest?_withDatabase]

theorem exec_carryOut (c : MemoryCatalog) (w : World) (config : SyncConfig)
    (unified : UnifiedSchema) (existing : Option TargetSchema) :
    (c.exec w (config.carryOut unified catalog existing)).1 =
      config.carryOutIn w.clock.now unified existing c := by
  rw [carryOut, exec_bind, exec_liftExcept, carryOutIn]
  cases config.settle unified existing with
  | error e => rfl
  | ok settlement =>
    cases settlement with
    | useExisting target => rfl
    | create draft =>
      simp only
      split
      · rfl
      · rw [exec_bind, exec_createTable]
        cases c.createTable config.target (TargetSchema.ofDraft draft w.clock.now) <;> rfl

variable [CharacterProperties]

/-- What planning against a catalog in memory answers at a time, and the catalog that it leaves. -/
def planIn (now : Timestamp) (config : SyncConfig) (source : Source) (c : MemoryCatalog) :
    Except Error SyncPlan × MemoryCatalog :=
  match config.unify source with
  | .error e => (.error e, c)
  | .ok unified =>
    config.carryOutIn now unified (c.latest? config.target) (config.opened c)

theorem exec_plan (c : MemoryCatalog) (w : World) (config : SyncConfig) (source : Source) :
    (c.exec w (config.plan source catalog)).1 = config.planIn w.clock.now source c := by
  rw [plan, exec_bind, exec_recordAll]
  simp only
  rw [exec_bind, exec_liftExcept, planIn]
  cases config.unify source with
  | error e => rfl
  | ok unified =>
    by_cases hdry : config.dryRun = true
    · simp only [hdry, if_true, opened, exec_bind, exec_getTable, exec_carryOut]
    · simp only [hdry, Bool.false_eq_true, if_false, opened, exec_bind,
        exec_createDatabase_ignoring, exec_getTable, exec_carryOut, latest?_withDatabase]

theorem exec_plan_eq_ok {c after : MemoryCatalog} {w : World}
    (h : config.planIn w.clock.now source c = (.ok plan, after)) :
    ∃ w', c.exec w (config.plan source catalog) = ((.ok plan, after), w') := by
  rw [← exec_plan c w] at h
  exact ⟨_, Prod.ext h rfl⟩

/-- A plan uses the table that was found, or its target is a new table, which is created unless
nothing may be written. -/
theorem planIn_eq_ok {now : Timestamp} {c after : MemoryCatalog}
    (h : config.planIn now source c = (.ok plan, after)) :
    config.unify source = .ok plan.unified ∧
      (config.settle plan.unified (c.latest? config.target) = .ok (.useExisting plan.target) ∧
          after = config.opened c ∨
        ∃ draft, config.settle plan.unified (c.latest? config.target) = .ok (.create draft) ∧
          plan.target = .ofDraft draft now ∧
            if config.dryRun then after = config.opened c
            else (config.opened c).createTable config.target plan.target = .ok after) := by
  unfold planIn at h
  split at h
  · cases h
  · rename_i unified hunify
    unfold carryOutIn at h
    split at h
    · cases h
    · rename_i target hsettle
      cases h
      exact ⟨hunify, .inl ⟨hsettle, rfl⟩⟩
    · rename_i draft hsettle
      by_cases hdry : config.dryRun = true
      · simp only [hdry, if_true] at h
        cases h
        exact ⟨hunify, .inr ⟨draft, hsettle, rfl, by rw [if_pos hdry]⟩⟩
      · simp only [hdry, Bool.false_eq_true, if_false] at h
        split at h
        · cases h
        · rename_i hcreate
          cases h
          exact ⟨hunify, .inr ⟨draft, hsettle, rfl, by rw [if_neg hdry, hcreate]⟩⟩

end SyncConfig

/-! ## What every plan keeps to -/

/-- The schema of a plan is what the sources make together, and its target table can hold every
column of it. -/
structure SyncPlan.Serves [CharacterProperties] (plan : SyncPlan) (config : SyncConfig)
    (source : Source) : Prop where
  merged : config.unify source = .ok plan.unified
  holds : ∀ c ∈ plan.unified.fields, plan.target.HasFieldFor c

namespace SyncConfig

variable [CharacterProperties]

theorem serves_of_useExisting (hunify : config.unify source = .ok plan.unified)
    (hsettle : config.settle plan.unified existing = .ok (.useExisting plan.target)) :
    plan.Serves config source :=
  ⟨hunify, fun _ hc =>
    TargetSchema.hasFieldFor_of_hasRoomFor (settle_eq_useExisting_iff.1 hsettle).2 hc⟩

theorem serves_of_create {now : Timestamp} (hunify : config.unify source = .ok plan.unified)
    (hsettle : config.settle plan.unified existing = .ok (.create draft))
    (htarget : plan.target = .ofDraft draft now) : plan.Serves config source := by
  refine ⟨hunify, ?_⟩
  intro c hc
  apply TargetSchema.hasFieldFor_of_mem
  rw [htarget, TargetSchema.ofDraft,
    UnifiedSchema.columns_of_buildTarget (settle_eq_create_iff.1 hsettle).2]
  exact hc

theorem serves_of_planIn {now : Timestamp} {c after : MemoryCatalog}
    (h : config.planIn now source c = (.ok plan, after)) : plan.Serves config source := by
  obtain ⟨hunify, ⟨hsettle, _⟩ | ⟨draft, hsettle, htarget, _⟩⟩ := planIn_eq_ok h
  · exact serves_of_useExisting hunify hsettle
  · exact serves_of_create hunify hsettle htarget

end SyncConfig

/-- A table in files starts with what was drafted for it. -/
theorem Warehouse.ofDraft_of_createTable {warehouse : Warehouse} {w w' : World} {table : TableName}
    (h : w.exec (warehouse.createTable table draft) = (.ok target, w')) :
    ∃ now, target = .ofDraft draft now := by
  unfold createTable at h
  -- The checks for the database and for versions of the table.
  obtain ⟨_, _, _, h⟩ := World.exec_bind_eq_ok_iff.1 h
  obtain ⟨_, h⟩ := World.exec_guard_eq_ok_iff.1 h
  obtain ⟨_, _, _, h⟩ := World.exec_bind_eq_ok_iff.1 h
  obtain ⟨_, h⟩ := World.exec_guard_eq_ok_iff.1 h
  -- The directory is made, and the first version is written at some time and reported.
  obtain ⟨directory, _, _, h⟩ := World.exec_bind_eq_ok_iff.1 h
  obtain ⟨_, _, _, h⟩ := World.exec_bind_eq_ok_iff.1 h
  obtain ⟨now, _, _, h⟩ := World.exec_bind_eq_ok_iff.1 h
  obtain ⟨_, _, _, h⟩ := World.exec_bind_eq_ok_iff.1 h
  obtain ⟨_, _, _, h⟩ := World.exec_bind_eq_ok_iff.1 h
  cases h
  exact ⟨now, rfl⟩

namespace SyncConfig

section

variable [CharacterProperties]

theorem serves_of_carryOut_warehouse {warehouse : Warehouse} {w w' : World}
    (hunify : config.unify source = .ok unified)
    (h : w.exec (config.carryOut unified warehouse.catalog existing) = (.ok plan, w')) :
    plan.Serves config source := by
  unfold carryOut at h
  obtain ⟨settlement, _, hsettle, h⟩ := World.exec_bind_eq_ok_iff.1 h
  rw [World.exec_liftExcept] at hsettle
  injection hsettle with hsettle
  split at h
  · obtain ⟨_, _, _, h⟩ := World.exec_bind_eq_ok_iff.1 h
    cases h
    exact serves_of_useExisting hunify hsettle
  · split at h
    · obtain ⟨_, _, _, h⟩ := World.exec_bind_eq_ok_iff.1 h
      obtain ⟨now, _, _, h⟩ := World.exec_bind_eq_ok_iff.1 h
      cases h
      exact serves_of_create hunify hsettle rfl
    · obtain ⟨target, _, hcreate, h⟩ := World.exec_bind_eq_ok_iff.1 h
      cases h
      obtain ⟨now, rfl⟩ := Warehouse.ofDraft_of_createTable hcreate
      exact serves_of_create hunify hsettle rfl

theorem serves_of_plan_warehouse {warehouse : Warehouse} {w w' : World}
    (h : w.exec (config.plan source warehouse.catalog) = (.ok plan, w')) :
    plan.Serves config source := by
  unfold SyncConfig.plan at h
  obtain ⟨_, _, _, h⟩ := World.exec_bind_eq_ok_iff.1 h
  obtain ⟨unified, _, hunify, h⟩ := World.exec_bind_eq_ok_iff.1 h
  rw [World.exec_liftExcept] at hunify
  injection hunify with hunify
  split at h
  · obtain ⟨existing, _, _, h⟩ := World.exec_bind_eq_ok_iff.1 h
    exact serves_of_carryOut_warehouse hunify h
  · obtain ⟨_, _, _, h⟩ := World.exec_bind_eq_ok_iff.1 h
    obtain ⟨existing, _, _, h⟩ := World.exec_bind_eq_ok_iff.1 h
    exact serves_of_carryOut_warehouse hunify h

/-- Planning succeeds with a plan, against a catalog in memory or one in files, in some state. -/
inductive Plans (config : SyncConfig) (source : Source) (plan : SyncPlan) : Prop where
  | inMemory {c after : MemoryCatalog} {w w' : World}
    (h : c.exec w (config.plan source MemoryCatalog.catalog) = ((.ok plan, after), w'))
  | inFiles {warehouse : Warehouse} {w w' : World}
    (h : w.exec (config.plan source warehouse.catalog) = (.ok plan, w'))

theorem Plans.of_planIn {now : Timestamp} {c after : MemoryCatalog}
    (h : config.planIn now source c = (.ok plan, after)) : config.Plans source plan := by
  have hplan : config.planIn (World.clock { clock := now }).now source c = (.ok plan, after) := h
  obtain ⟨w', hexec⟩ := exec_plan_eq_ok hplan
  exact .inMemory hexec

theorem Plans.serves (h : config.Plans source plan) : plan.Serves config source := by
  cases h with
  | @inMemory c after w w' h =>
    have hplan := exec_plan c w config source
    rw [h] at hplan
    exact serves_of_planIn hplan.symm
  | inFiles h => exact serves_of_plan_warehouse h

/-- Every column of every selected table of a snapshot has room in the target table of a plan. -/
theorem Plans.exists_field {path : Option String} {content : Snapshot}
    (h : config.Plans (.snapshot path content) plan) {table : TableName} {raw : RawTable}
    (htable : content.table? table = some raw) (hselected : config.discovery.Selects content table)
    {column : RawColumn} (hcolumn : column ∈ raw.columns) :
    ∃ type, column.type.columnType? = some type ∧
      ∃ field ∈ plan.target.fields, field.name = column.name ∧ type.fitsIn field.type = true := by
  obtain ⟨hmerged, hholds⟩ := h.serves
  obtain ⟨sources, hdiscover, hmerge⟩ := bind_eq_ok_iff.1 hmerged
  obtain ⟨s, hs, c, hc, hname, htype⟩ :=
    Source.exists_source_of_discover hdiscover htable hselected hcolumn
  obtain ⟨unified, hunified, hname', hfits⟩ := UnifiedSchema.exists_field_of_merge hmerge hs hc
  obtain ⟨field, hfield, hname'', hfits'⟩ := hholds unified hunified
  refine ⟨c.type, htype, field, hfield, ?_, ColumnType.fitsIn_trans hfits hfits'⟩
  rw [hname'', hname', hname]

end

/-- A table in the words of its source. -/
def shardTable : RawTable where
  columns := [⟨"id", { name := "int" }⟩, ⟨"note", { name := "varchar", precision := some 20 }⟩]
  primaryKey := ["id"]

/-- Two shards, of which the second one has a wider key. -/
def shards : Snapshot :=
  (Snapshot.withTable {} ⟨"shard_1", "orders"⟩ shardTable).withTable ⟨"shard_2", "orders"⟩
    { columns := [⟨"id", { name := "bigint" }⟩], primaryKey := ["id"] }

/-- All shards into one table. -/
def shardsConfig : SyncConfig where
  discovery := { databasePattern := "shard_*", tablePattern := "orders", kind := .glob }
  target := ⟨"lake", "orders"⟩

theorem planIn_shards :
    ∃ plan after, shardsConfig.planIn default (.snapshot none shards) {} = (.ok plan, after) :=
  ⟨_, _, rfl⟩

theorem Plans.exists_field_shards :
    ∃ plan, shardsConfig.Plans (.snapshot none shards) plan ∧
      shards.table? ⟨"shard_1", "orders"⟩ = some shardTable ∧
      shardsConfig.discovery.Selects shards ⟨"shard_1", "orders"⟩ ∧
      ∀ column ∈ shardTable.columns, ∃ type, column.type.columnType? = some type ∧
        ∃ field ∈ plan.target.fields, field.name = column.name ∧
          type.fitsIn field.type = true := by
  obtain ⟨plan, after, hplan⟩ := planIn_shards
  have hplans := Plans.of_planIn hplan
  have hselected : shardsConfig.discovery.Selects shards ⟨"shard_1", "orders"⟩ :=
    ⟨⟨_, rfl, by decide⟩, ⟨_, rfl, by decide⟩, .inr (by decide)⟩
  exact ⟨plan, hplans, rfl, hselected,
    fun column hcolumn => hplans.exists_field rfl hselected hcolumn⟩

end SyncConfig

end ShardMerge
