import ShardMerge.Proofs.Catalog.Session
import ShardMerge.Proofs.Sync.Replanning

/-!
# What planning leaves behind

A plan writes to a catalog in two steps: the database of the target table is created before the
table has been looked at, and the table itself at the end.  Between the two lie the checks that can
still fail.

* `SyncConfig.PlanEffect` says for every way out of planning what the catalog holds afterwards, and
  that there is no other change.
* `planEffect_of_settle_error` is the way out through a check, and `createTable_of_vacant` is why the
  last step cannot fail: in a catalog that calls have made, a table without a latest version does
  not exist.
* `SyncConfig.planEffect` puts the ways out together.
-/

namespace ShardMerge

namespace MemoryCatalog

variable {c : MemoryCatalog} {table : TableName} {database : String}

theorem Founded.history?_eq_none (h : c.Founded) (hlatest : c.latest? table = none) :
    c.history? table = none := by
  rw [latest?_eq] at hlatest
  cases hversions : c.history? table with
  | none => rfl
  | some versions =>
    rw [hversions, Option.bind_some, List.getLast?_eq_none_iff] at hlatest
    exact absurd hlatest (h table versions hversions)

end MemoryCatalog

namespace SyncConfig

open MemoryCatalog

variable {config : SyncConfig} {source : Source} {c after : MemoryCatalog}
  {unified : UnifiedSchema} {plan : SyncPlan} {outcome : Except Error SyncPlan}

/-- The errors of the checks that come after the sources have been merged. -/
def checkErrors : List String :=
  ["SchemaMismatch", "UnknownPrimaryKeyColumn", "PrimaryKeyRequired"]

theorem kind_of_settle_error {existing : Option TargetSchema} {e : Error}
    (h : config.settle unified existing = .error e) : e.kind ∈ checkErrors := by
  unfold settle at h
  cases existing with
  | some target =>
    simp only [TargetSchema.ensureRoom] at h
    split at h
    · cases h
    · cases h
      simp [checkErrors, Error.kind]
  | none =>
    simp only [UnifiedSchema.buildTarget] at h
    split at h
    · split at h
      · cases h
        simp [checkErrors, Error.kind]
      · cases h
    · split at h
      · cases h
      · cases h
        simp [checkErrors, Error.kind]

/-- What planning does to a catalog, for each of its outcomes. -/
structure PlanEffect [CharacterProperties] (config : SyncConfig) (source : Source)
    (c : MemoryCatalog) (outcome : Except Error SyncPlan) (after : MemoryCatalog) : Prop where
  /-- Nothing changes if the sources cannot be discovered and merged. -/
  undiscovered : ∀ e, config.unify source = .error e → outcome = .error e ∧ after = c
  /-- Nothing changes if nothing may be written. -/
  dryRun : config.dryRun = true → after = c
  /-- A later failure is that of a check, and leaves at most a new database. -/
  refused : ∀ unified e, config.unify source = .ok unified → outcome = .error e →
    e.kind ∈ checkErrors ∧ (∀ table, after.history? table = c.history? table) ∧
      (after = c ∨ after = c.withDatabase config.target.database)
  /-- A table that is used is the one that is there, in its latest version. -/
  used : ∀ plan, outcome = .ok plan → plan.action = .useExisting →
    after = c ∧ c.latest? config.target = some plan.target
  /-- A table that is created was not there, and its first version is all that is new. -/
  created : ∀ plan, outcome = .ok plan → plan.action = .created →
    c.history? config.target = none ∧ after.history? config.target = some [plan.target] ∧
      plan.target.version = 0 ∧
      (∀ table, table ≠ config.target → after.history? table = c.history? table) ∧
      ∀ database, after.hasDatabase database =
        (decide (database = config.target.database) || c.hasDatabase database)
  /-- A table is left to be created only if nothing may be written. -/
  deferred : ∀ plan, outcome = .ok plan → plan.action = .wouldCreate → config.dryRun = true

/-! ## The ways out of planning -/

theorem opened_of_dryRun (h : config.dryRun = true) (c : MemoryCatalog) : config.opened c = c := by
  rw [opened, if_pos h]

theorem opened_of_not_dryRun (h : config.dryRun = false) (c : MemoryCatalog) :
    config.opened c = c.withDatabase config.target.database := by
  rw [opened, if_neg (by rw [h]; exact Bool.false_ne_true)]

theorem opened_of_latest? {target : TargetSchema} (h : c.latest? config.target = some target) :
    config.opened c = c := by
  obtain ⟨versions, hversions, _⟩ := latest?_eq_some_iff.1 h
  rw [opened, withDatabase_eq_self (hasDatabase_of_history? hversions), ite_self]

/-- The ways out of planning at a time, each with its answer and the catalog that it leaves. -/
inductive PlanExit [CharacterProperties] (config : SyncConfig) (source : Source) (c : MemoryCatalog)
    (now : Timestamp) :
    Except Error SyncPlan × MemoryCatalog → Prop where
  | undiscovered {e : Error} (hunify : config.unify source = .error e) :
    PlanExit config source c now (.error e, c)
  | refused {unified : UnifiedSchema} {e : Error} (hunify : config.unify source = .ok unified)
    (hkind : e.kind ∈ checkErrors) : PlanExit config source c now (.error e, config.opened c)
  | used {unified : UnifiedSchema} {target : TargetSchema}
    (hunify : config.unify source = .ok unified)
    (hlatest : c.latest? config.target = some target) :
    PlanExit config source c now (.ok { action := .useExisting, unified, target }, c)
  | deferred {unified : UnifiedSchema} {target : TargetSchema}
    (hunify : config.unify source = .ok unified) (hdry : config.dryRun = true) :
    PlanExit config source c now (.ok { action := .wouldCreate, unified, target }, c)
  | created {unified : UnifiedSchema} {draft : TargetDraft} {after : MemoryCatalog}
    (hunify : config.unify source = .ok unified) (hdry : config.dryRun = false)
    (hnone : c.history? config.target = none)
    (hcreate : (c.withDatabase config.target.database).createTable config.target
      (.ofDraft draft now) = .ok after) :
    PlanExit config source c now
      (.ok { action := .created, unified, target := .ofDraft draft now }, after)

theorem planExit_create [CharacterProperties] (hfounded : c.Founded) {now : Timestamp}
    {draft : TargetDraft} (hunify : config.unify source = .ok unified)
    (hsettle : config.settle unified (c.latest? config.target) = .ok (.create draft)) :
    config.PlanExit source c now
      (config.carryOutIn now unified (c.latest? config.target) (config.opened c)) := by
  obtain ⟨hlatest, _⟩ := settle_eq_create_iff.1 hsettle
  have hnone := hfounded.history?_eq_none hlatest
  unfold carryOutIn
  cases hdry : config.dryRun with
  | true =>
    simp only [hsettle, opened_of_dryRun hdry, if_true]
    exact .deferred hunify hdry
  | false =>
    -- The database is there now, and the table is not.
    have hdatabase : (c.withDatabase config.target.database).hasDatabase config.target.database =
        true := by simp [hasDatabase_withDatabase]
    obtain ⟨_, _, hcreate⟩ := createTable_of_vacant hdatabase
      (by rw [history?_withDatabase, hnone]) (.ofDraft draft now)
    simp only [hsettle, opened_of_not_dryRun hdry, hcreate, Bool.false_eq_true, if_false]
    exact .created hunify hdry hnone hcreate

theorem planExit_planIn [CharacterProperties] (hfounded : c.Founded) (config : SyncConfig)
    (source : Source) (now : Timestamp) :
    config.PlanExit source c now (config.planIn now source c) := by
  unfold planIn
  cases hunify : config.unify source with
  | error e => exact .undiscovered hunify
  | ok unified =>
    cases hsettle : config.settle unified (c.latest? config.target) with
    | error e =>
      simp only [carryOutIn, hsettle]
      exact .refused hunify (kind_of_settle_error hsettle)
    | ok settlement =>
      cases settlement with
      | useExisting target =>
        obtain ⟨hlatest, _⟩ := settle_eq_useExisting_iff.1 hsettle
        simp only [carryOutIn, hsettle, opened_of_latest? hlatest]
        exact .used hunify hlatest
      | create draft => exact planExit_create hfounded hunify hsettle

/-! ## What each way leaves -/

theorem history?_opened (config : SyncConfig) (c : MemoryCatalog) (table : TableName) :
    (config.opened c).history? table = c.history? table := by
  unfold opened
  split
  · rfl
  · rw [history?_withDatabase]

theorem planEffect_refused [CharacterProperties] {e : Error}
    (hunify : config.unify source = .ok unified) (hkind : e.kind ∈ checkErrors) :
    config.PlanEffect source c (.error e) (config.opened c) where
  undiscovered _ he := by
    rw [hunify] at he
    cases he
  dryRun hdry := opened_of_dryRun hdry c
  refused _ _ _ he := by
    cases he
    refine ⟨hkind, history?_opened config c, ?_⟩
    unfold opened
    split
    · exact .inl rfl
    · exact .inr rfl
  used _ he := by cases he
  created _ he := by cases he
  deferred _ he := by cases he

theorem planEffect_used [CharacterProperties] {target : TargetSchema}
    (hunify : config.unify source = .ok unified) (hlatest : c.latest? config.target = some target) :
    config.PlanEffect source c (.ok { action := .useExisting, unified, target }) c where
  undiscovered _ he := by
    rw [hunify] at he
    cases he
  dryRun _ := rfl
  refused _ _ _ he := by cases he
  used _ he _ := by
    cases he
    exact ⟨rfl, hlatest⟩
  created _ he haction := by
    cases he
    cases haction
  deferred _ he haction := by
    cases he
    cases haction

theorem planEffect_created [CharacterProperties] {target : TargetSchema}
    (hunify : config.unify source = .ok unified) (hdry : config.dryRun = false)
    (hnone : c.history? config.target = none) (hversion : target.version = 0)
    (hcreate : (c.withDatabase config.target.database).createTable config.target target =
      .ok after) :
    config.PlanEffect source c (.ok { action := .created, unified, target }) after where
  undiscovered _ he := by
    rw [hunify] at he
    cases he
  dryRun h := by
    rw [hdry] at h
    cases h
  refused _ _ _ he := by cases he
  used _ he haction := by
    cases he
    cases haction
  created _ he _ := by
    cases he
    obtain ⟨_, hgains⟩ := gains_of_createTable hcreate
    refine ⟨hnone, ?_, hversion, ?_, ?_⟩
    · rw [history?_createTable hcreate, if_pos rfl]
    · intro table htable
      rw [history?_createTable hcreate, if_neg htable, history?_withDatabase]
    · intro database
      rw [hgains.hasDatabase, hasDatabase_withDatabase]
  deferred _ he haction := by
    cases he
    cases haction

theorem PlanExit.effect [CharacterProperties] {now : Timestamp}
    {result : Except Error SyncPlan × MemoryCatalog} (h : config.PlanExit source c now result) :
    config.PlanEffect source c result.1 result.2 := by
  cases h with
  | undiscovered hunify => constructor <;> simp [hunify]
  | refused hunify hkind => exact planEffect_refused hunify hkind
  | used hunify hlatest => exact planEffect_used hunify hlatest
  | deferred hunify hdry => constructor <;> simp [hunify, hdry]
  | created hunify hdry hnone hcreate => exact planEffect_created hunify hdry hnone rfl hcreate

/-- Planning against a catalog that calls have made changes it as its outcome tells, and in no other
way. -/
theorem planEffect [CharacterProperties] (hreachable : c.Reachable) (w : World)
    (config : SyncConfig) (source : Source) :
    config.PlanEffect source c (c.exec w (config.plan source catalog)).1.1
      (c.exec w (config.plan source catalog)).1.2 := by
  rw [exec_plan]
  exact (planExit_planIn hreachable.founded config source w.clock.now).effect

/-- A catalog in which the target table of `shardsConfig` is there, and too narrow. -/
def narrowLake : MemoryCatalog := (session answer {} (ordersSession.take 2)).2

/-- A catalog in which it is there, and wide enough. -/
def wideLake : MemoryCatalog :=
  (session answer {} [(default, .createDatabase "lake" false),
    (default, .createTable ⟨"lake", "orders"⟩
      ⟨[⟨"id", .integer 64⟩, ⟨"note", .text⟩], ["id"], [], .empty⟩)]).2

theorem planEffect_shards :
    let exit (c : MemoryCatalog) :=
      (c.exec { clock := default } (shardsConfig.plan (.snapshot none shards) catalog)).1
    let effect (c : MemoryCatalog) :=
      shardsConfig.PlanEffect (.snapshot none shards) c (exit c).1 (exit c).2
    (narrowLake.Reachable ∧ effect narrowLake ∧
        ∃ fields, (exit narrowLake).1 = .error (.schemaMismatch [⟨"id", .integer 32⟩] fields)) ∧
      (wideLake.Reachable ∧ effect wideLake ∧
        ∃ plan, (exit wideLake).1 = .ok plan ∧ plan.action = .useExisting) ∧
      MemoryCatalog.Reachable {} ∧ effect {} ∧
        ∃ plan, (exit {}).1 = .ok plan ∧ plan.action = .created := by
  intro exit effect
  have heffect {c : MemoryCatalog} (hreachable : c.Reachable) : effect c :=
    planEffect hreachable _ _ _
  have hexit (c : MemoryCatalog) :
      exit c = shardsConfig.planIn default (.snapshot none shards) c := exec_plan c _ _ _
  have hnarrow : narrowLake.Reachable := ⟨_, rfl⟩
  have hwide : wideLake.Reachable := ⟨_, rfl⟩
  have hempty : MemoryCatalog.Reachable {} := ⟨[], rfl⟩
  refine ⟨⟨hnarrow, heffect hnarrow, ?_⟩, ⟨hwide, heffect hwide, ?_⟩, hempty, heffect hempty, ?_⟩
  · rw [hexit]
    exact ⟨_, rfl⟩
  · rw [hexit]
    exact ⟨_, rfl, rfl⟩
  · rw [hexit]
    exact ⟨_, rfl, rfl⟩

end SyncConfig

end ShardMerge
