import ShardMerge.Proofs.Command.DryRun
import ShardMerge.Proofs.Command.Events

/-!
# What a dry run leaves behind

Without leave to write, a command changes no files, whether it succeeds or fails.

* `keepsTree_plan` and `keepsTree_planInMemory` are the frame of planning.
* `tree_syncTable` puts the stages of the command together.  It opens a warehouse only where there
  is one, and `createDirectories_of_isPresent` says that nothing is created there.
* `tree_replay` is the other command.  It opens its warehouse before it knows whether the table is
  there, so a warehouse that is missing is created, and that is all that is.
-/

namespace ShardMerge

open World

variable {config : SyncConfig}

/-! ## Actions that only look -/

theorem World.keepsTree_recordAll (entries : List Entry) :
    KeepsTree (Host.recordAll entries : World.Action Unit) := by
  intro w
  rw [exec_recordAll]

theorem keepsTree_latest? (warehouse : Warehouse) (table : TableName) :
    KeepsTree (warehouse.latest? table) := by
  intro w
  rw [Warehouse.exec_latest?]

theorem keepsTree_readEvents (path : String) : KeepsTree (readEvents path) :=
  (keepsTree_orFail (fun _ => rfl) _).bind fun _ => keepsTree_liftExcept _

theorem keepsTree_processStream (current : TargetSchema) (events : List ChangeEvent) :
    KeepsTree (processStream current events) := by
  intro w
  rw [exec_processStream]

/-! ## Planning -/

theorem keepsTree_carryOut (hdry : config.dryRun = true) (unified : UnifiedSchema)
    (catalog : Catalog (StateM World)) (existing : Option TargetSchema) :
    KeepsTree (config.carryOut unified catalog existing) := by
  unfold SyncConfig.carryOut
  refine (keepsTree_liftExcept _).bind fun settlement => ?_
  cases settlement with
  | useExisting target => exact (keepsTree_record _).bind fun _ => keepsTree_pure _
  | create draft =>
    simp only [hdry, if_true]
    refine (keepsTree_record _).bind fun _ => ?_
    exact KeepsTree.bind (fun _ => rfl) fun _ => keepsTree_pure _

theorem keepsTree_plan [CharacterProperties] (hdry : config.dryRun = true) (source : Source)
    (warehouse : Warehouse) :
    KeepsTree (config.plan source warehouse.catalog) := by
  unfold SyncConfig.plan
  refine (keepsTree_recordAll _).bind fun _ => ?_
  refine (keepsTree_liftExcept _).bind fun unified => ?_
  simp only [hdry, if_true]
  refine (keepsTree_latest? warehouse config.target).bind fun existing => ?_
  exact keepsTree_carryOut hdry unified warehouse.catalog existing

/-- A plan against a catalog in memory, which is not in the files. -/
theorem MemoryCatalog.tree_exec_plan [CharacterProperties] (hdry : config.dryRun = true)
    (c : MemoryCatalog) (w : World) (source : Source) :
    (c.exec w (config.plan source catalog)).2.tree = w.tree := by
  rw [SyncConfig.plan, exec_bind, exec_recordAll]
  simp only [exec_bind, exec_liftExcept]
  cases config.unify source with
  | error e => rfl
  | ok unified =>
    simp only [hdry, if_true, exec_bind, exec_getTable, SyncConfig.carryOut, exec_liftExcept]
    cases config.settle unified (c.latest? config.target) with
    | error e => rfl
    | ok settlement =>
      cases settlement with
      | useExisting target => rfl
      | create draft => rfl

theorem keepsTree_planInMemory [CharacterProperties] (hdry : config.dryRun = true)
    (source : Source) :
    KeepsTree (planInMemory config source) := fun w =>
  MemoryCatalog.tree_exec_plan hdry {} w source

/-! ## Opening a warehouse -/

theorem tree_openAt (w : World) (path : String) :
    (w.exec (Warehouse.openAt path : World.Action Warehouse)).2.tree =
      (w.tree.createDirectories path).2 := by
  rw [exec_openAt]
  rcases w.tree.createDirectories path with ⟨_ | _, tree⟩ <;> rfl

/-- Where something is, opening a warehouse creates nothing. -/
theorem createDirectories_of_isPresent {t : Tree} {path : String}
    (h : t.isPresent path = .ok true) : (t.createDirectories path).2 = t := by
  obtain ⟨spot, hspot, hsome⟩ := isPresent_eq_ok_true_iff.1 h
  exact Tree.createDirectories_eq_self hspot hsome

/-! ## The commands -/

theorem tree_syncTable [CharacterProperties] [Url.DomainNames] [Server.Driver]
    {args : SyncTableArgs} (hdry : args.config.dryRun = true) (houtput : args.output = none)
    (w : World) : (w.exec (syncTable args)).2.tree = w.tree := by
  unfold syncTable
  simp only [hdry, houtput, Bool.true_and]
  refine tree_exec_bind (keepsTree_liftExcept _ _) fun _ w₁ _ => ?_
  refine tree_exec_bind (keepsTree_resolveConnection _ _ _) fun connection w₂ _ => ?_
  refine tree_exec_bind (keepsTree_record _ _) fun _ w₃ _ => ?_
  refine tree_exec_bind (keepsTree_record _ _) fun _ w₄ _ => ?_
  refine tree_exec_bind (keepsTree_reportError (keepsTree_openSource _) _ _) fun source w₅ _ => ?_
  refine tree_exec_bind (keepsTree_record _ _) fun _ w₆ _ => ?_
  refine tree_exec_bind (keepsTree_orFail (fun _ => rfl) _ _) fun present w₇ h₇ => ?_
  have hfinish (plan : SyncPlan) (entry : Entry) :
      KeepsTree (do Host.record entry; return plan : World.Action SyncPlan) :=
    (keepsTree_record _).bind fun _ => keepsTree_pure _
  cases present with
  | false =>
    simp only [Bool.not_false, if_true]
    have hplan := keepsTree_planInMemory hdry source
    exact (keepsTree_reportError hplan _).bind (fun plan => hfinish plan _) w₇
  | true =>
    obtain ⟨hsame, hthere⟩ := isPresent_of_exec h₇
    rw [← hsame] at hthere
    simp only [Bool.not_true, Bool.false_eq_true, if_false]
    refine tree_exec_bind ?_ fun warehouse w₈ _ => ?_
    · rw [tree_openAt, createDirectories_of_isPresent hthere]
    · have hplan := keepsTree_plan hdry source warehouse
      exact (keepsTree_reportError hplan _).bind (fun plan => hfinish plan _) w₈

/-- All that a replay can change is that it opens its warehouse. -/
theorem tree_replay {args : ReplayArgs} (hdry : args.dryRun = true) (w : World) :
    (w.exec (replay args)).2.tree = (w.tree.createDirectories args.warehouse).2 := by
  unfold replay
  refine tree_exec_bind (tree_openAt w args.warehouse) fun warehouse w₁ _ => ?_
  refine tree_exec_bind (keepsTree_latest? _ _ _) fun latest w₂ _ => ?_
  cases latest with
  | none => exact keepsTree_throw _ _
  | some current =>
    refine tree_exec_bind (keepsTree_readEvents _ _) fun events w₃ _ => ?_
    refine tree_exec_bind (keepsTree_record _ _) fun _ w₄ _ => ?_
    refine tree_exec_bind (keepsTree_processStream _ _ _) fun report w₅ _ => ?_
    simp only [hdry, if_true]
    exact (keepsTree_record _).bind (fun _ => keepsTree_pure _) w₅

/-- Without leave to write, a merge of tables leaves the files as they are, whether it succeeds or
fails.  A replay does so too if there is something at the path of its warehouse; otherwise it has
created the directory that it opens, and nothing else. -/
theorem tree_of_dryRun [CharacterProperties] [Url.DomainNames] [Server.Driver] (w : World) :
    (∀ args : SyncTableArgs, args.config.dryRun = true → args.output = none →
      (w.exec (syncTable args)).2.tree = w.tree) ∧
    ∀ args : ReplayArgs, args.dryRun = true →
      (w.exec (replay args)).2.tree = (w.tree.createDirectories args.warehouse).2 ∧
        (w.tree.isPresent args.warehouse = .ok true →
          (w.exec (replay args)).2.tree = w.tree) := by
  refine ⟨fun args hdry houtput => tree_syncTable hdry houtput w, fun args hdry => ?_⟩
  refine ⟨tree_replay hdry w, fun hpresent => ?_⟩
  rw [tree_replay hdry, createDirectories_of_isPresent hpresent]

/-- A dry run of a replay. -/
def ordersDryReplay : ReplayArgs where
  warehouse := "w"
  target := ⟨"dw", "orders"⟩
  events := "events.jsonl"
  dryRun := true

/-- A world with a directory and no other files. -/
def warehouseWorld : World where
  tree := Tree.put {} ["w"] .directory
  clock := default

theorem tree_of_dryRun_warehouse :
    (((snapshotArgs "t").withDryRun true).config.dryRun = true ∧
      ((snapshotArgs "t").withDryRun true).output = none ∧
      (snapshotWorld.exec (syncTable ((snapshotArgs "t").withDryRun true))).2.tree =
        snapshotWorld.tree) ∧
    ordersDryReplay.dryRun = true ∧
      warehouseWorld.tree.isPresent ordersDryReplay.warehouse = .ok true ∧
      (warehouseWorld.exec (replay ordersDryReplay)).2.tree = warehouseWorld.tree := by
  have hpresent : warehouseWorld.tree.isPresent ordersDryReplay.warehouse = .ok true := by
    decide +kernel
  exact ⟨⟨rfl, rfl, (tree_of_dryRun snapshotWorld).1 _ rfl rfl⟩, rfl, hpresent,
    ((tree_of_dryRun warehouseWorld).2 ordersDryReplay rfl).2 hpresent⟩

/-- Where there are no files, a dry run of a replay fails for want of the table, and its warehouse
is there afterwards. -/
theorem replay_dryRun_creates :
    let w : World := { tree := {}, clock := default }
    ordersDryReplay.dryRun = true ∧
      (w.exec (replay ordersDryReplay)).1 = .error (.tableNotFound ⟨"dw", "orders"⟩) ∧
      (w.exec (replay ordersDryReplay)).2.tree = Tree.put {} ["w"] .directory ∧
      (w.exec (replay ordersDryReplay)).2.tree ≠ w.tree := by
  decide +kernel

end ShardMerge
