import ShardMerge.Command.Run
import ShardMerge.Proofs.Sync.DryRun

/-!
# Dry runs of the command

A dry run tells what the same command does with leave to write.

* `World.KeepsTree` are the actions that only look at files.  Whatever comes before planning is one,
  and is done by both runs alike: `Agrees.bind` passes over it, and `Agrees.finish` over what comes
  afterwards.
* `agrees_syncTable_present` is the case of a warehouse that is there, and `agrees_syncTable_missing`
  that of one that is not.
* `syncTable_predicts` puts them together.  A dry run against a missing warehouse does not check the
  names of the target table, so these must be names that a warehouse can hold;
  `syncTable_mispredicts` is what happens otherwise.
-/

namespace ShardMerge

variable {α β : Type} {w w' : World}

open World

/-! ## What both runs do alike -/

/-- An action changes no files. -/
def World.KeepsTree (x : World.Action α) : Prop := ∀ w : World, (w.exec x).2.tree = w.tree

theorem World.KeepsTree.of_exec {x : World.Action α} {a : α} (h : KeepsTree x)
    (hexec : w.exec x = (.ok a, w')) : w'.tree = w.tree := by
  rw [← h w, hexec]

/-- What the first of two actions has made of the files stays if the second leaves them alone where
it is run. -/
theorem World.tree_exec_bind {x : World.Action α} {f : α → World.Action β} {t : Tree}
    (hx : (w.exec x).2.tree = t)
    (hf : ∀ a w', w.exec x = (.ok a, w') → (w'.exec (f a)).2.tree = w'.tree) :
    (w.exec (x >>= f)).2.tree = t := by
  rw [exec_bind]
  generalize w.exec x = result at hx hf ⊢
  rcases result with ⟨_ | a, between⟩
  · exact hx
  · exact (hf a between rfl).trans hx

theorem World.KeepsTree.bind {x : World.Action α} {f : α → World.Action β} (hx : KeepsTree x)
    (hf : ∀ a, KeepsTree (f a)) : KeepsTree (x >>= f) := fun w =>
  tree_exec_bind (hx w) fun a w' _ => hf a w'

theorem World.keepsTree_liftExcept (x : Except Error α) : KeepsTree (liftExcept x) := by
  intro w
  rw [exec_liftExcept]

theorem World.keepsTree_record (entry : Entry) :
    KeepsTree (Host.record entry : World.Action Unit) := fun _ => rfl

theorem World.keepsTree_pure (a : α) : KeepsTree (pure a : World.Action α) := fun _ => rfl

theorem World.keepsTree_throw (e : Error) : KeepsTree (throw e : World.Action α) := fun _ => rfl

theorem World.keepsTree_orFail {operation : World.Action (Except Fault α)}
    (h : KeepsTree operation) (context : String) : KeepsTree (orFail context operation) := by
  intro w
  have hkept := h w
  rw [exec_orFail]
  generalize w.exec operation = result at hkept ⊢
  rcases result with ⟨_ | _ | _, w'⟩ <;> exact hkept

theorem World.keepsTree_reportError {x : World.Action α} (h : KeepsTree x) (context : String) :
    KeepsTree (reportError context x) := by
  intro w
  have hkept := h w
  rw [reportError, exec_tryCatch]
  generalize w.exec x = result at hkept ⊢
  rcases result with ⟨_ | _, w'⟩ <;> exact hkept

theorem keepsTree_resolveConnection [Url.DomainNames] (connection : String) (ask : Bool) :
    KeepsTree (resolveConnection connection ask) := by
  unfold resolveConnection
  cases ask with
  | false => exact keepsTree_pure _
  | true =>
    simp only [Bool.not_true, Bool.false_eq_true, if_false]
    split
    · exact (keepsTree_record _).bind fun _ => keepsTree_pure _
    · refine KeepsTree.bind (fun _ => rfl) fun password => ?_
      cases password with
      | none => exact keepsTree_throw _
      | some password => exact keepsTree_liftExcept _

theorem keepsTree_openSource [Url.DomainNames] [Server.Driver] (connection : String) :
    KeepsTree (Source.openAt connection) := by
  unfold Source.openAt Snapshot.readFile
  refine (keepsTree_liftExcept _).bind fun kind => ?_
  cases kind with
  | mysql =>
    refine (keepsTree_liftExcept _).bind fun settings => ?_
    refine (keepsTree_record _).bind fun _ => ?_
    exact (keepsTree_liftExcept _).bind fun pool => keepsTree_pure _
  | snapshot =>
    refine KeepsTree.bind ?_ fun content => keepsTree_pure _
    refine (keepsTree_orFail (fun _ => rfl) _).bind fun text => ?_
    refine (keepsTree_liftExcept _).bind fun snapshot => ?_
    exact (keepsTree_record _).bind fun _ => keepsTree_pure _

/-- An error is passed on after it has been reported. -/
theorem exec_reportError_fst (context : String) (x : World.Action α) :
    (w.exec (reportError context x)).1 = (w.exec x).1 := by
  rw [reportError, exec_tryCatch]
  rcases w.exec x with ⟨_ | _, w'⟩ <;> rfl

theorem Agrees.of_error (e : Error) : Agrees (.error e) (.error e) := .inr (.inr rfl)

/-- Both runs begin alike. -/
theorem Agrees.bind {x : World.Action α} {f g : α → World.Action SyncPlan}
    (h : ∀ a w', w.exec x = (.ok a, w') → Agrees (w'.exec (f a)).1 (w'.exec (g a)).1) :
    Agrees (w.exec (x >>= f)).1 (w.exec (x >>= g)).1 := by
  rw [exec_bind, exec_bind]
  rcases hx : w.exec x with ⟨e | a, w'⟩
  · exact .of_error e
  · exact h a w' hx

/-- Both runs end alike: a plan is passed on, unless a file operation fails. -/
theorem Agrees.finish {x y : World.Action SyncPlan} {f g : SyncPlan → World.Action SyncPlan}
    (h : Agrees (w.exec x).1 (w'.exec y).1)
    (hf : ∀ plan (w : World), FilesFailed (w.exec (f plan)).1 ∨ (w.exec (f plan)).1 = .ok plan)
    (hg : ∀ plan (w : World), FilesFailed (w.exec (g plan)).1 ∨ (w.exec (g plan)).1 = .ok plan) :
    Agrees (w.exec (x >>= f)).1 (w'.exec (y >>= g)).1 := by
  rw [exec_bind, exec_bind]
  generalize w.exec x = dry at h ⊢
  generalize w'.exec y = written at h ⊢
  rcases dry with ⟨e | plan, between⟩ <;> rcases written with ⟨e' | real, between'⟩
  · exact h
  · rcases h with hfailed | ⟨_, hfailed⟩ | hpredicts
    · exact .inl hfailed
    · cases hfailed
    · exact False.elim hpredicts
  · rcases h with ⟨_, hfailed⟩ | hfailed | hpredicts
    · cases hfailed
    · exact .inr (.inl hfailed)
    · exact False.elim hpredicts
  · rcases hf plan between with hfailed | hplan
    · exact .inl hfailed
    rcases hg real between' with hfailed | hreal
    · exact .inr (.inl hfailed)
    change Agrees (between.exec (f plan)).1 (between'.exec (g real)).1
    rw [hplan, hreal]
    exact h

/-- What comes after a plan changes nothing about it. -/
theorem exec_finish (plan : SyncPlan) (entry : Entry) (output : Option String) (w : World) :
    let finish : World.Action SyncPlan := do
      Host.record entry
      if let some path := output then
        savePlan plan path
      return plan
    FilesFailed (w.exec finish).1 ∨ (w.exec finish).1 = .ok plan := by
  cases output with
  | none => exact .inr rfl
  | some path =>
    obtain ⟨outcome, w', hwrite⟩ : ∃ outcome w', World.exec { w with journal := entry :: w.journal }
      (Host.writeText path (jsonText plan.write) : World.Action (Except Fault Unit)) =
        (.ok outcome, w') := ⟨_, _, rfl⟩
    simp only [exec_bind, exec_record, savePlan, exec_orFail, hwrite]
    cases outcome with
    | error fault => exact .inl ⟨_, rfl⟩
    | ok _ => exact .inr rfl

/-! ## Whether the warehouse is there -/

theorem isPresent_eq_ok_true_iff {t : Tree} {path : String} :
    t.isPresent path = .ok true ↔
      ∃ spot, t.resolve true path = .ok spot ∧ spot.node.isSome = true := by
  unfold Tree.isPresent
  cases t.resolve true path with
  | ok spot => simp
  | error fault => cases fault <;> simp

theorem isPresent_of_exec {context path : String} {present : Bool}
    (h : w.exec (orFail context (Host.isPresent path) : World.Action Bool) = (.ok present, w')) :
    w'.tree = w.tree ∧ w.tree.isPresent path = .ok present := by
  rw [exec_orFail, exec_isPresent] at h
  cases hthere : w.tree.isPresent path with
  | error fault =>
    rw [hthere] at h
    cases h
  | ok there =>
    rw [hthere] at h
    cases h
    exact ⟨rfl, rfl⟩

theorem exec_openAt (w : World) (path : String) :
    w.exec (Warehouse.openAt path : World.Action Warehouse) =
      match w.tree.createDirectories path with
      | (.ok (), tree) => (.ok ⟨path⟩, { w with
          tree, journal := ⟨.debug, s!"Opened file catalog at {path}"⟩ :: w.journal })
      | (.error _, tree) =>
        (.error (.io s!"Failed to create warehouse {path}"), { w with tree }) := by
  rw [Warehouse.openAt, exec_bind, exec_orFail, exec_createDirectories]
  rcases w.tree.createDirectories path with ⟨_ | _, tree⟩ <;> rfl

theorem filesFailed_openAt {path : String} {e : Error}
    (h : w.exec (Warehouse.openAt path : World.Action Warehouse) = (.error e, w')) :
    ∃ context, e = .io context := by
  rw [exec_openAt] at h
  split at h
  · cases h
  · cases h
    exact ⟨_, rfl⟩

theorem exec_openAt_eq_ok {path : String} {warehouse : Warehouse}
    (h : w.exec (Warehouse.openAt path) = (.ok warehouse, w')) :
    warehouse = ⟨path⟩ ∧ w'.clock = w.clock ∧
      w.tree.createDirectories path = (.ok (), w'.tree) := by
  rw [exec_openAt] at h
  split at h
  · rename_i tree hcreate
    cases h
    exact ⟨rfl, rfl, hcreate⟩
  · cases h

/-- Planning in a warehouse that is there. -/
theorem agrees_present [CharacterProperties] {warehouse : Warehouse} {path : String}
    (hgrounded : w.tree.Grounded) (hpresent : w.tree.isPresent path = .ok true)
    (hopen : w.exec (Warehouse.openAt path) = (.ok warehouse, w')) (config : SyncConfig)
    (source : Source) :
    Agrees (w'.exec ((config.withDryRun true).plan source warehouse.catalog)).1
      (w'.exec ((config.withDryRun false).plan source warehouse.catalog)).1 := by
  obtain ⟨rfl, _, hcreate⟩ := exec_openAt_eq_ok hopen
  obtain ⟨spot, hspot, hsome⟩ := isPresent_eq_ok_true_iff.1 hpresent
  obtain ⟨hsame, location, hleads⟩ := Tree.createDirectories_of_present hspot hsome hcreate
  rw [← hsame] at hgrounded hleads
  exact SyncConfig.agrees_plan hgrounded hleads config source

/-- Planning in memory tells what planning in a warehouse does that was missing. -/
theorem agrees_missing [CharacterProperties] {warehouse : Warehouse} {path : String}
    (hgrounded : w.tree.Grounded) (hmissing : w.tree.isPresent path = .ok false) (hne : path ≠ "")
    (hdotDot : ".." ∉ Tree.names path)
    (hopen : w.exec (Warehouse.openAt path) = (.ok warehouse, w')) {config : SyncConfig}
    (hplain : config.target.IsPlain) (source : Source) :
    Agrees (w.exec (planInMemory (config.withDryRun true) source)).1
      (w'.exec ((config.withDryRun false).plan source warehouse.catalog)).1 := by
  obtain ⟨rfl, hclock, hcreate⟩ := exec_openAt_eq_ok hopen
  obtain ⟨hgrounded', _, location, hleads, hsame | hempty⟩ :=
    Tree.createDirectories_leads hgrounded (List.nil_append _).symm (Tree.leads_nil w.tree) hdotDot
      hcreate
  · -- A path that leads to a directory is not missing.
    rw [hsame] at hleads
    have hpresent : w.tree.isPresent path = .ok true ∨ w.tree.isPresent path = .error .other := by
      by_cases husable : Tree.Usable path
      · exact .inl (isPresent_eq_ok_true_iff.2
          ⟨_, Tree.resolve_eq_ok_iff.2 ⟨husable, Tree.walks_components_iff.2 hleads⟩, rfl⟩)
      · right
        rw [Tree.isPresent, Tree.resolve_of_not_usable husable hne]
    rw [hmissing] at hpresent
    rcases hpresent with h | h <;> cases h
  · exact SyncConfig.agrees_plan_empty hgrounded' hleads hempty hplain source
      (congrArg Clock.now hclock.symm)

/-! ## The command -/

/-- The same arguments, with or without leave to write. -/
def SyncTableArgs.withDryRun (args : SyncTableArgs) (dryRun : Bool) : SyncTableArgs :=
  { args with config := args.config.withDryRun dryRun }

/-- The warehouse is there, or it will be a new directory and can hold the target table. -/
def SyncTableArgs.IsForeseeable (args : SyncTableArgs) (t : Tree) : Prop :=
  t.isPresent args.warehouse = .ok true ∨
    args.config.target.IsPlain ∧ args.warehouse ≠ "" ∧ ".." ∉ Tree.names args.warehouse

section

variable [CharacterProperties] [Url.DomainNames] [Server.Driver]

theorem agrees_syncTable (args : SyncTableArgs) (hgrounded : w.tree.Grounded)
    (hwarehouse : args.IsForeseeable w.tree) :
    Agrees (w.exec (syncTable (args.withDryRun true))).1
      (w.exec (syncTable (args.withDryRun false))).1 := by
  unfold SyncTableArgs.IsForeseeable at hwarehouse
  have hvalidate (dryRun : Bool) :
      (args.withDryRun dryRun).config.validate = args.config.validate := rfl
  unfold syncTable
  simp only [hvalidate]
  refine .bind fun _ w₁ h₁ => ?_
  refine .bind fun connection w₂ h₂ => ?_
  refine .bind fun _ w₃ h₃ => ?_
  refine .bind fun _ w₄ h₄ => ?_
  refine .bind fun source w₅ h₅ => ?_
  refine .bind fun _ w₆ h₆ => ?_
  refine .bind fun present w₇ h₇ => ?_
  obtain ⟨hsame, hthere⟩ := isPresent_of_exec h₇
  -- So far nothing has been written.
  have htree : w₇.tree = w.tree := by
    rw [hsame, (keepsTree_record _).of_exec h₆,
      (keepsTree_reportError (keepsTree_openSource _) _).of_exec h₅, (keepsTree_record _).of_exec h₄,
      (keepsTree_record _).of_exec h₃, (keepsTree_resolveConnection _ _).of_exec h₂,
      (keepsTree_liftExcept _).of_exec h₁]
  have hpresent : w₇.tree.isPresent args.warehouse = .ok present := by
    rw [hsame]
    exact hthere
  rw [← htree] at hgrounded hwarehouse
  cases present with
  | true =>
    simp only [Bool.not_true, Bool.and_false, Bool.false_eq_true, if_false]
    refine .bind fun warehouse w₈ h₈ => ?_
    refine .finish ?_ (fun plan w => exec_finish plan _ _ w) (fun plan w => exec_finish plan _ _ w)
    rw [exec_reportError_fst, exec_reportError_fst]
    exact agrees_present hgrounded hpresent h₈ args.config source
  | false =>
    obtain ⟨hplain, hne, hdotDot⟩ := hwarehouse.resolve_left (by rw [hpresent]; simp)
    have hdry (dryRun : Bool) : (args.withDryRun dryRun).config.dryRun = dryRun := rfl
    simp only [hdry, Bool.not_false, Bool.and_true, Bool.false_eq_true, if_true, if_false]
    rw [exec_bind w₇ (Warehouse.openAt _)]
    rcases hopen : w₇.exec (Warehouse.openAt (args.withDryRun false).warehouse) with
      ⟨e | warehouse, w₈⟩
    · obtain ⟨context, rfl⟩ := filesFailed_openAt hopen
      exact .inr (.inl ⟨context, rfl⟩)
    · refine .finish ?_ (fun plan w => exec_finish plan _ _ w) (fun plan w => exec_finish plan _ _ w)
      rw [exec_reportError_fst, exec_reportError_fst]
      exact agrees_missing hgrounded hpresent hne hdotDot hopen hplain source

/-- Once the connection string is known, no file operation fails, whether or not anything may be
written. -/
def SyncTableArgs.FilesWork (args : SyncTableArgs) (w : World) : Prop :=
  (w.exec (resolveConnection args.source args.askPassword)).1.isOk = true →
    ∀ dryRun, ¬FilesFailed (w.exec (syncTable (args.withDryRun dryRun))).1

/-- Without a connection string, both runs fail in the same way. -/
theorem predicts_of_unresolved (args : SyncTableArgs)
    (h : (w.exec (resolveConnection args.source args.askPassword)).1.isOk = false) :
    Predicts (w.exec (syncTable (args.withDryRun true))).1
      (w.exec (syncTable (args.withDryRun false))).1 := by
  have hvalidate (dryRun : Bool) :
      (args.withDryRun dryRun).config.validate = args.config.validate := rfl
  have hresolve (dryRun : Bool) :
      resolveConnection (m := StateM World) (args.withDryRun dryRun).source
        (args.withDryRun dryRun).askPassword =
          resolveConnection args.source args.askPassword := rfl
  unfold syncTable
  simp only [exec_bind, exec_liftExcept, hvalidate, hresolve]
  cases args.config.validate with
  | error e => exact rfl
  | ok _ =>
    simp only
    generalize w.exec (resolveConnection args.source args.askPassword) = result at h ⊢
    rcases result with ⟨e | connection, w'⟩
    · exact rfl
    · cases h

/-- A dry run tells what the real run does: in every world in which whatever there is is in a
directory, for every source and all arguments, as far as file operations succeed and the warehouse
is there or can hold the target table. -/
theorem syncTable_predicts (args : SyncTableArgs) (hgrounded : w.tree.Grounded)
    (hfiles : args.FilesWork w) (hwarehouse : args.IsForeseeable w.tree) :
    Predicts (w.exec (syncTable (args.withDryRun true))).1
      (w.exec (syncTable (args.withDryRun false))).1 := by
  cases hresolve : (w.exec (resolveConnection args.source args.askPassword)).1.isOk with
  | false => exact predicts_of_unresolved args hresolve
  | true =>
    have hwork := hfiles hresolve
    exact ((agrees_syncTable args hgrounded hwarehouse).resolve_left (hwork true)).resolve_left
      (hwork false)

end

/-- A directory with a snapshot that has one table. -/
def snapshotWorld : World where
  tree := Tree.put {} ["s.json"] (.file ("\x7b\"databases\":\x7b\"s\":\x7b\"t\":" ++
    "\x7b\"columns\":[\x7b\"name\":\"id\",\"native_type\":\"int\"\x7d]\x7d\x7d\x7d\x7d"))
  clock := default

/-- The table of the snapshot, into a table of a warehouse that is missing. -/
def snapshotArgs (table : String) : SyncTableArgs where
  source := "s.json"
  warehouse := "w"
  config := {
    discovery := { databasePattern := "s", tablePattern := "t", kind := .glob }
    target := ⟨"d", table⟩
    primaryKeys := ["id"] }

theorem grounded_snapshotWorld : snapshotWorld.tree.Grounded :=
  Tree.grounded_empty.put (Tree.find?_nil {}) rfl _

theorem not_filesFailed_of_isOk {outcome : Except Error α} (h : outcome.isOk = true) :
    ¬FilesFailed outcome := by
  rintro ⟨context, rfl⟩
  cases h

theorem syncTable_predicts_snapshot :
    snapshotWorld.tree.Grounded ∧ (snapshotArgs "t").FilesWork snapshotWorld ∧
      (snapshotArgs "t").IsForeseeable snapshotWorld.tree ∧
      Predicts (snapshotWorld.exec (syncTable ((snapshotArgs "t").withDryRun true))).1
        (snapshotWorld.exec (syncTable ((snapshotArgs "t").withDryRun false))).1 := by
  have hfiles : (snapshotArgs "t").FilesWork snapshotWorld := by
    intro _ dryRun
    apply not_filesFailed_of_isOk
    revert dryRun
    decide +kernel
  have hwarehouse : (snapshotArgs "t").IsForeseeable snapshotWorld.tree :=
    .inr ⟨⟨by decide, by decide⟩, by decide, by decide +kernel⟩
  exact ⟨grounded_snapshotWorld, hfiles, hwarehouse,
    syncTable_predicts (snapshotArgs "t") grounded_snapshotWorld hfiles hwarehouse⟩

/-- A table whose name has a slash cannot be created, but a dry run against a missing warehouse says
that it would be. -/
theorem syncTable_mispredicts :
    snapshotWorld.tree.Grounded ∧ (snapshotArgs "a/b").FilesWork snapshotWorld ∧
      ¬Predicts (snapshotWorld.exec (syncTable ((snapshotArgs "a/b").withDryRun true))).1
        (snapshotWorld.exec (syncTable ((snapshotArgs "a/b").withDryRun false))).1 := by
  have hdry : (snapshotWorld.exec (syncTable ((snapshotArgs "a/b").withDryRun true))).1.isOk =
      true := by decide +kernel
  have hreal : (snapshotWorld.exec (syncTable ((snapshotArgs "a/b").withDryRun false))).1 =
      .error (.configuration "Invalid catalog object name 'a/b'") := by decide +kernel
  refine ⟨grounded_snapshotWorld, ?_, ?_⟩
  · intro _ dryRun
    cases dryRun with
    | true => exact not_filesFailed_of_isOk hdry
    | false =>
      rw [hreal]
      rintro ⟨_, hfailed⟩
      cases hfailed
  · rw [hreal]
    intro hpredicts
    generalize (snapshotWorld.exec (syncTable ((snapshotArgs "a/b").withDryRun true))).1 = outcome
      at hdry hpredicts
    cases outcome with
    | error e => cases hdry
    | ok plan => exact hpredicts

end ShardMerge
