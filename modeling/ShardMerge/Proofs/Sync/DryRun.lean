import ShardMerge.Proofs.Catalog.Lookup
import ShardMerge.Proofs.Sync.Planner

/-!
# Dry runs against a warehouse

Planning against a catalog in files, with and without leave to write, in the same world.

* `SyncConfig.expected` is the outcome of planning, given what is found about the target table.
  `exec_plan_dry` says that a dry run gives it, and `exec_plan_real` that a real run gives it too,
  unless a file operation fails: the database that it creates first has no tables, and the table
  that it creates in the end is not there.
* `Predicts` relates two outcomes of which one foretells the other.
-/

namespace ShardMerge

variable {warehouse : Warehouse} {t : Tree} {w : World} {table : TableName} {base : List String}
  {config : SyncConfig} {source : Source} {unified : UnifiedSchema}

/-! ## What is expected -/

namespace SyncConfig

/-- The outcome of planning for a merged schema, given what is found about the target table and what
is done where it is missing. -/
def settled (config : SyncConfig) (unified : UnifiedSchema) (now : Timestamp) (action : SyncAction)
    (existing : Except Error (Option TargetSchema)) : Except Error SyncPlan := do
  match ← config.settle unified (← existing) with
  | .useExisting target => .ok { action := .useExisting, unified, target }
  | .create draft => .ok { action, unified, target := .ofDraft draft now }

/-- The outcome of planning for what the shards of a source declare. -/
def expected [CharacterProperties] (config : SyncConfig) (source : Source) (now : Timestamp)
    (action : SyncAction) (existing : Except Error (Option TargetSchema)) :
    Except Error SyncPlan := do
  config.settled (← config.unify source) now action existing

theorem exec_plan_dry [CharacterProperties] (hdry : config.dryRun = true) (warehouse : Warehouse)
    (w : World) (source : Source) :
    (w.exec (config.plan source warehouse.catalog)).1 =
      config.expected source w.clock.now .wouldCreate (warehouse.latestIn w.tree config.target) := by
  rw [plan, World.exec_bind, World.exec_recordAll]
  simp only [World.exec_bind, World.exec_liftExcept, expected]
  cases config.unify source with
  | error e => rfl
  | ok unified =>
    simp only [hdry, if_true, ok_bind, World.exec_bind, Warehouse.exec_getTable, settled]
    cases warehouse.latestIn w.tree config.target with
    | error e => rfl
    | ok existing =>
      simp only [ok_bind, carryOut, World.exec_bind, World.exec_liftExcept]
      cases config.settle unified existing with
      | error e => rfl
      | ok settlement =>
        cases settlement with
        | useExisting target => rfl
        | create draft =>
          simp only [hdry, if_true]
          rfl

/-- Planning in an empty catalog in memory, without leave to write. -/
theorem exec_plan_empty [CharacterProperties] (hdry : config.dryRun = true) (w : World)
    (source : Source) :
    (MemoryCatalog.exec {} w (config.plan source MemoryCatalog.catalog)).1.1 =
      config.expected source w.clock.now .wouldCreate (.ok none) := by
  rw [exec_plan, planIn, expected]
  cases config.unify source with
  | error e => rfl
  | ok unified =>
    simp only [ok_bind, carryOutIn, settled]
    have hlatest : MemoryCatalog.latest? {} config.target = none := rfl
    rw [hlatest]
    cases config.settle unified none with
    | error e => rfl
    | ok settlement =>
      cases settlement with
      | useExisting target => rfl
      | create draft =>
        simp only [hdry, if_true]
        rfl

/-- What carrying out a plan gives where there is room for a new table. -/
theorem exec_carryOut_real (hdry : config.dryRun = false) (hgrounded : w.tree.Grounded)
    (hroot : w.tree.Leads (Tree.names warehouse.path) base) (hplain : config.target.IsPlain)
    {existing : Option TargetSchema}
    (hnew : existing = none → warehouse.versionsIn w.tree config.target = .ok [] ∧
      Warehouse.isThereIn w.tree
        ⟨warehouse.path, [databaseName config.target.database]⟩ = true) :
    FilesFailed (w.exec (config.carryOut unified warehouse.catalog existing)).1 ∨
      (w.exec (config.carryOut unified warehouse.catalog existing)).1 =
        config.settled unified w.clock.now .created (.ok existing) := by
  rw [carryOut, World.exec_bind, World.exec_liftExcept, settled, ok_bind]
  cases hsettle : config.settle unified existing with
  | error e => exact .inr rfl
  | ok settlement =>
    cases settlement with
    | useExisting target => exact .inr rfl
    | create draft =>
      obtain ⟨hversions, hdatabase⟩ := hnew (settle_eq_create_iff.1 hsettle).1
      simp only [hdry, Bool.false_eq_true, if_false, World.exec_bind, ok_bind,
        Warehouse.catalog_createTable]
      have hcreate := Warehouse.createTable_vacant hgrounded hroot hplain hdatabase hversions draft
      generalize w.exec (warehouse.createTable config.target draft) = result at hcreate ⊢
      obtain ⟨outcome, w'⟩ := result
      rcases hcreate with rfl | ⟨context, rfl⟩
      · exact .inr rfl
      · exact .inl ⟨context, rfl⟩

/-- What a real run finds about the target table: what is there if its database is, and nothing
otherwise. -/
structure Finds (config : SyncConfig) (warehouse : Warehouse) (t : Tree)
    (existing : Except Error (Option TargetSchema)) : Prop where
  unplain : ¬config.target.IsPlain → ∃ message, existing = .error (.configuration message)
  there : config.target.IsPlain → Warehouse.isThereIn t
      ⟨warehouse.path, [databaseName config.target.database]⟩ = true →
    existing = warehouse.latestIn t config.target
  absent : config.target.IsPlain → Warehouse.isThereIn t
      ⟨warehouse.path, [databaseName config.target.database]⟩ = false → existing = .ok none

/-- After the target database has been looked for and maybe created, what is found about the target
table decides the outcome. -/
theorem exec_lookup_real (unified : UnifiedSchema) (hdry : config.dryRun = false)
    (hgrounded : w.tree.Grounded)
    (hroot : w.tree.Leads (Tree.names warehouse.path) base)
    (hnew : config.target.IsPlain → warehouse.versionsIn w.tree config.target = .ok [] →
      Warehouse.isThereIn w.tree
        ⟨warehouse.path, [databaseName config.target.database]⟩ = true) :
    let outcome := (w.exec (warehouse.catalog.getTable config.target >>= fun existing =>
      config.carryOut unified warehouse.catalog existing)).1
    FilesFailed outcome ∨ outcome =
      config.settled unified w.clock.now .created (warehouse.latestIn w.tree config.target) := by
  simp only [World.exec_bind, Warehouse.exec_getTable]
  cases hlatest : warehouse.latestIn w.tree config.target with
  | error e => exact .inr rfl
  | ok existing =>
    have hplain : config.target.IsPlain := by
      by_contra hplain
      obtain ⟨message, herror⟩ := Warehouse.latestIn_of_not_isPlain warehouse w.tree hplain
      rw [herror] at hlatest
      cases hlatest
    refine exec_carryOut_real hdry hgrounded hroot hplain ?_
    rintro rfl
    have hversions := Warehouse.latestIn_eq_ok_none_iff.1 hlatest
    exact ⟨hversions, hnew hplain hversions⟩

theorem exists_finds (config : SyncConfig) (warehouse : Warehouse) (t : Tree) :
    ∃ existing, config.Finds warehouse t existing := by
  by_cases hplain : config.target.IsPlain
  · by_cases hthere : Warehouse.isThereIn t
        ⟨warehouse.path, [databaseName config.target.database]⟩ = true
    · exact ⟨warehouse.latestIn t config.target, fun h => absurd hplain h, fun _ _ => rfl,
        fun _ h => absurd hthere (by rw [h]; exact Bool.false_ne_true)⟩
    · exact ⟨.ok none, fun h => absurd hplain h, fun _ h => absurd h hthere, fun _ _ => rfl⟩
  · exact ⟨.error (.configuration ""), fun _ => ⟨_, rfl⟩, fun h => absurd h hplain,
      fun h => absurd h hplain⟩

/-- In a database that has just been created, nothing is found. -/
theorem exec_lookup_new (hdry : config.dryRun = false) (hgrounded : w.tree.Grounded)
    (hroot : w.tree.Leads (Tree.names warehouse.path) base)
    (hname : isPlainName config.target.database = true)
    (habsent : Warehouse.isThereIn w.tree
      ⟨warehouse.path, [databaseName config.target.database]⟩ = false)
    {tree : Tree} (journal : List Entry)
    (hcreate : w.tree.createDirectories
      (Path.text ⟨warehouse.path, [databaseName config.target.database]⟩) = (.ok (), tree)) :
    let outcome := (World.exec { w with tree, journal }
      (warehouse.catalog.getTable config.target >>= fun existing =>
        config.carryOut unified warehouse.catalog existing)).1
    FilesFailed outcome ∨ ∃ existing, config.Finds warehouse w.tree existing ∧
      outcome = config.settled unified w.clock.now .created existing := by
  intro outcome
  have hfinds (existing : Except Error (Option TargetSchema)) (h : config.target.IsPlain →
      existing = .ok none) (h' : ¬config.target.IsPlain →
        ∃ message, existing = .error (.configuration message)) :
      config.Finds warehouse w.tree existing :=
    ⟨h', fun _ htrue => absurd htrue (by rw [habsent]; exact Bool.false_ne_true), fun hplain _ =>
      h hplain⟩
  obtain ⟨hgrounded', hextends, location, hleads, _⟩ :=
    Warehouse.createDirectories_database hgrounded hroot hname hcreate
  have hlookup := exec_lookup_real (w := { w with tree, journal }) unified hdry
    hgrounded' (hroot.of_extends hextends) fun hplain hversions =>
      Warehouse.isThereIn_of_leads
        (Warehouse.usable_databasePath (Warehouse.usable_of_versionsIn hplain hversions) hplain)
        hleads
  by_cases hplain : config.target.IsPlain
  · rcases hlookup with hfailed | houtcome
    · exact .inl hfailed
    rcases Warehouse.versionsIn_of_created hgrounded hroot hplain habsent hcreate with
      hnone | hfailed
    · rw [Warehouse.latestIn_of_nil hnone] at houtcome
      exact .inr ⟨.ok none, hfinds _ (fun _ => rfl) (fun h => absurd hplain h), houtcome⟩
    · obtain ⟨context, hlatest⟩ := Warehouse.latestIn_of_filesFailed hfailed
      rw [hlatest] at houtcome
      exact .inl ⟨context, houtcome⟩
  · obtain ⟨message, hlatest⟩ := Warehouse.latestIn_of_not_isPlain warehouse tree hplain
    refine hlookup.imp id fun houtcome => ?_
    rw [hlatest] at houtcome
    exact ⟨_, hfinds _ (fun h => absurd h hplain) (fun _ => ⟨message, rfl⟩), houtcome⟩

/-- A real run after its sources have been merged. -/
theorem exec_settle_real (hdry : config.dryRun = false) (hgrounded : w.tree.Grounded)
    (hroot : w.tree.Leads (Tree.names warehouse.path) base) :
    let outcome := (w.exec (warehouse.createDatabase config.target.database true >>= fun _ =>
      warehouse.catalog.getTable config.target >>= fun existing =>
        config.carryOut unified warehouse.catalog existing)).1
    FilesFailed outcome ∨ ∃ existing, config.Finds warehouse w.tree existing ∧
      outcome = config.settled unified w.clock.now .created existing := by
  intro outcome
  by_cases hname : isPlainName config.target.database = true
  swap
  · obtain ⟨message, hexec⟩ := Warehouse.exec_createDatabase_error warehouse w
      (Bool.not_eq_true _ ▸ hname) true
    refine .inr ⟨.error (.configuration message), ⟨fun _ => ⟨_, rfl⟩, fun h => absurd h.database hname,
      fun h => absurd h.database hname⟩, ?_⟩
    simp only [outcome, World.exec_bind, hexec]
    rfl
  obtain ⟨journal, context, hexec⟩ := Warehouse.exec_createDatabase warehouse w hname true
  by_cases hthere : Warehouse.isThereIn w.tree
      ⟨warehouse.path, [databaseName config.target.database]⟩ = true
  · rw [if_pos hthere, if_pos rfl] at hexec
    have hlookup := exec_lookup_real unified hdry hgrounded hroot fun _ _ => hthere
    simp only [outcome]
    rw [World.exec_bind, hexec]
    refine hlookup.imp id fun heq => ⟨_, ⟨fun hplain => ?_, fun _ _ => rfl,
      fun _ h => absurd hthere (by rw [h]; exact Bool.false_ne_true)⟩, heq⟩
    exact Warehouse.latestIn_of_not_isPlain warehouse w.tree hplain
  · rw [if_neg hthere] at hexec
    simp only [outcome]
    rw [World.exec_bind, hexec]
    rcases hcreate : w.tree.createDirectories
        (Path.text ⟨warehouse.path, [databaseName config.target.database]⟩) with ⟨fault | _, tree⟩
    · exact .inl ⟨context, rfl⟩
    · exact exec_lookup_new hdry hgrounded hroot hname (Bool.not_eq_true _ ▸ hthere) journal hcreate

/-- A real run gives what is expected, unless a file operation fails. -/
theorem exec_plan_real [CharacterProperties] (hdry : config.dryRun = false)
    (hgrounded : w.tree.Grounded) (hroot : w.tree.Leads (Tree.names warehouse.path) base)
    (source : Source) :
    FilesFailed (w.exec (config.plan source warehouse.catalog)).1 ∨
      ∃ existing, config.Finds warehouse w.tree existing ∧
        (w.exec (config.plan source warehouse.catalog)).1 =
          config.expected source w.clock.now .created existing := by
  rw [plan, World.exec_bind, World.exec_recordAll]
  simp only [World.exec_bind, World.exec_liftExcept, expected]
  cases config.unify source with
  | error e =>
    obtain ⟨existing, hfinds⟩ := exists_finds config warehouse w.tree
    exact .inr ⟨existing, hfinds, rfl⟩
  | ok unified =>
    simp only [hdry, Bool.false_eq_true, if_false, ok_bind, Warehouse.catalog_createDatabase]
    exact exec_settle_real (w := { w with journal := _ }) hdry hgrounded hroot

end SyncConfig

/-! ## Two runs in one world -/

/-- A plan that a dry run makes tells what the real run does. -/
structure SyncPlan.Foretells (plan real : SyncPlan) : Prop where
  unified : plan.unified = real.unified
  fields : plan.target.fields = real.target.fields
  primaryKeys : plan.target.primaryKeys = real.target.primaryKeys
  partitionKeys : plan.target.partitionKeys = real.target.partitionKeys
  options : plan.target.options = real.target.options
  action : real.action = .created ∧ plan.action = .wouldCreate ∨
    real.action = .useExisting ∧ plan.action = .useExisting

/-- The outcome of a dry run tells the outcome of the real run. -/
def Predicts : Except Error SyncPlan → Except Error SyncPlan → Prop
  | .ok plan, .ok real => plan.Foretells real
  | .error e, .error e' => e.kind = e'.kind
  | _, _ => False

/-- One run tells the outcome of the other, unless a file operation failed. -/
def Agrees (dry real : Except Error SyncPlan) : Prop :=
  FilesFailed dry ∨ FilesFailed real ∨ Predicts dry real

namespace SyncConfig

/-- The same settings, with or without leave to write. -/
def withDryRun (config : SyncConfig) (dryRun : Bool) : SyncConfig := { config with dryRun }

theorem dryRun_withDryRun (config : SyncConfig) (dryRun : Bool) :
    (config.withDryRun dryRun).dryRun = dryRun := rfl

theorem predicts_settled [CharacterProperties] (config : SyncConfig) (source : Source)
    (now : Timestamp) (existing : Except Error (Option TargetSchema)) :
    Predicts (config.expected source now .wouldCreate existing)
      (config.expected source now .created existing) := by
  unfold expected settled
  cases config.unify source with
  | error e => exact rfl
  | ok unified =>
    cases existing with
    | error e => exact rfl
    | ok existing =>
      simp only [ok_bind]
      cases config.settle unified existing with
      | error e => exact rfl
      | ok settlement =>
        cases settlement with
        | useExisting target => exact ⟨rfl, rfl, rfl, rfl, rfl, .inr ⟨rfl, rfl⟩⟩
        | create draft => exact ⟨rfl, rfl, rfl, rfl, rfl, .inl ⟨rfl, rfl⟩⟩

theorem predicts_refused [CharacterProperties] (config : SyncConfig) (source : Source)
    (now : Timestamp) (message message' : String) :
    Predicts (config.expected source now .wouldCreate (.error (.configuration message)))
      (config.expected source now .created (.error (.configuration message'))) := by
  unfold expected settled
  cases config.unify source with
  | error e => exact rfl
  | ok unified => exact rfl

theorem agrees_of_filesFailed [CharacterProperties] {existing : Except Error (Option TargetSchema)}
    (h : FilesFailed existing) (config : SyncConfig) (source : Source) (now : Timestamp)
    (existing' : Except Error (Option TargetSchema)) :
    Agrees (config.expected source now .wouldCreate existing)
      (config.expected source now .created existing') := by
  obtain ⟨context, rfl⟩ := h
  unfold expected settled
  cases config.unify source with
  | error e => exact .inr (.inr rfl)
  | ok unified => exact .inl ⟨context, rfl⟩

/-- Both runs find the same about the target table, or fail for the same reason. -/
theorem agrees_plan [CharacterProperties] (hgrounded : w.tree.Grounded)
    (hroot : w.tree.Leads (Tree.names warehouse.path) base) (config : SyncConfig)
    (source : Source) :
    Agrees (w.exec ((config.withDryRun true).plan source warehouse.catalog)).1
      (w.exec ((config.withDryRun false).plan source warehouse.catalog)).1 := by
  have hdry := exec_plan_dry (config.dryRun_withDryRun true) warehouse w source
  rcases exec_plan_real (config.dryRun_withDryRun false) hgrounded hroot source with
    hfailed | ⟨existing, hfinds, hreal⟩
  · exact .inr (.inl hfailed)
  rw [hdry, hreal]
  by_cases hplain : config.target.IsPlain
  · cases hthere : Warehouse.isThereIn w.tree
      ⟨warehouse.path, [databaseName config.target.database]⟩ with
    | true =>
      rw [hfinds.there hplain hthere]
      exact .inr (.inr (predicts_settled config source w.clock.now _))
    | false =>
      rw [hfinds.absent hplain hthere]
      rcases Warehouse.versionsIn_of_absent hplain hthere with hnone | hfailed
      · rw [show warehouse.latestIn w.tree (config.withDryRun true).target = .ok none from
          Warehouse.latestIn_of_nil hnone]
        exact .inr (.inr (predicts_settled config source w.clock.now _))
      · exact agrees_of_filesFailed (Warehouse.latestIn_of_filesFailed hfailed) config source _ _
  · obtain ⟨message, hlatest⟩ :=
      Warehouse.latestIn_of_not_isPlain warehouse w.tree hplain
    obtain ⟨message', rfl⟩ := hfinds.unplain hplain
    rw [show warehouse.latestIn w.tree (config.withDryRun true).target =
      .error (.configuration message) from hlatest]
    exact .inr (.inr (predicts_refused config source w.clock.now message message'))

/-- Planning in an empty catalog in memory tells what planning in an empty warehouse does. -/
theorem agrees_plan_empty [CharacterProperties] (hgrounded : w.tree.Grounded)
    (hroot : w.tree.Leads (Tree.names warehouse.path) base) (hempty : w.tree.NothingBelow base)
    (hplain : config.target.IsPlain) (source : Source) {w' : World}
    (hclock : w'.clock.now = w.clock.now) :
    Agrees
      (MemoryCatalog.exec {} w' ((config.withDryRun true).plan source MemoryCatalog.catalog)).1.1
      (w.exec ((config.withDryRun false).plan source warehouse.catalog)).1 := by
  have hdry := exec_plan_empty (config.dryRun_withDryRun true) w' source
  rcases exec_plan_real (config.dryRun_withDryRun false) hgrounded hroot source with
    hfailed | ⟨existing, hfinds, hreal⟩
  · exact .inr (.inl hfailed)
  rw [hdry, hreal, hfinds.absent hplain
    (Warehouse.isThereIn_of_missing hroot hplain.database (hempty _ (List.cons_ne_nil _ _))), hclock]
  exact .inr (.inr (predicts_settled config source w.clock.now _))

end SyncConfig

end ShardMerge
