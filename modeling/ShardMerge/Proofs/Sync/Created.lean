import ShardMerge.Proofs.Change.Run
import ShardMerge.Proofs.Schema.Keys
import ShardMerge.Proofs.Sync.Planner

/-!
# Tables that are created

Whether a table that planning creates has fields of distinct names and a key made of them.  No step
on the way checks all of that, so it depends on the first source, which a merge starts from as it
is, and on where the key comes from.

* `validateKeys_eq_ok_iff` says which requested keys a configuration may have.
* `SyncConfig.Plans.drafted` is the way from the sources to a created table, through either kind of
  catalog.
* `SyncConfig.Plans.wellFormed_iff` puts them together.
-/

namespace ShardMerge

/-! ## Requested keys -/

/-- Requested keys may not be blank, and none may be repeated. -/
theorem validateKeys_eq_ok_iff {kind : String} {seen keys : List String} {u : Unit} :
    validateKeys kind seen keys = .ok u ↔
      keys.Nodup ∧ ∀ key ∈ keys, hasText key = true ∧ key ∉ seen := by
  induction keys generalizing seen with
  | nil => simp [validateKeys]
  | cons key keys ih =>
    rw [List.nodup_cons, List.forall_mem_cons]
    simp only [validateKeys, bind_eq_ok_iff, require_eq_ok_iff, exists_const, ih, List.mem_cons,
      not_or]
    constructor
    · intro h
      obtain ⟨htext, hseen, hnodup, hrest⟩ := h
      refine ⟨⟨?_, hnodup⟩, ⟨htext, by simpa using hseen⟩, ?_⟩
      · intro hmem
        exact (hrest key hmem).2.1 rfl
      · intro other hother
        exact ⟨(hrest other hother).1, (hrest other hother).2.2⟩
    · intro h
      obtain ⟨⟨hnew, hnodup⟩, ⟨htext, hseen⟩, hrest⟩ := h
      refine ⟨htext, by simpa using hseen, hnodup, ?_⟩
      intro other hother
      refine ⟨(hrest other hother).1, ?_, (hrest other hother).2⟩
      rintro rfl
      exact hnew hother

theorem SyncConfig.nodup_primaryKeys_of_validate [CharacterProperties] {config : SyncConfig}
    (h : config.validate = .ok ()) : config.primaryKeys.Nodup := by
  simp only [validate, bind_eq_ok_iff] at h
  obtain ⟨_, _, _, _, _, hkeys, _⟩ := h
  exact (validateKeys_eq_ok_iff.1 hkeys).1

/-! ## From the sources to a created table -/

namespace SyncConfig

variable [CharacterProperties] {config : SyncConfig} {source : Source} {unified : UnifiedSchema}
  {plan : SyncPlan} {existing : Option TargetSchema}

/-- The target of a plan is made from a draft of what the sources declare together. -/
structure Drafts (config : SyncConfig) (source : Source) (plan : SyncPlan) (draft : TargetDraft) :
    Prop where
  merged : config.unify source = .ok plan.unified
  drafted : plan.unified.buildTarget config.primaryKeys config.partitionKeys config.tableOptions =
    .ok draft
  target : ∃ now, plan.target = .ofDraft draft now

theorem drafts_of_settle {draft : TargetDraft} (hunify : config.unify source = .ok plan.unified)
    (hsettle : config.settle plan.unified existing = .ok (.create draft))
    (htarget : ∃ now, plan.target = .ofDraft draft now) : config.Drafts source plan draft :=
  ⟨hunify, (settle_eq_create_iff.1 hsettle).2, htarget⟩

theorem drafted_of_planIn {now : Timestamp} {c after : MemoryCatalog}
    (h : config.planIn now source c = (.ok plan, after)) (hcreated : plan.action = .created) :
    ∃ draft, config.Drafts source plan draft := by
  unfold planIn at h
  split at h
  · cases h
  · rename_i hunify
    unfold carryOutIn at h
    split at h
    · cases h
    · cases h
      cases hcreated
    · rename_i draft hsettle
      by_cases hdry : config.dryRun = true
      · simp only [hdry, if_true] at h
        cases h
        cases hcreated
      · simp only [hdry, Bool.false_eq_true, if_false] at h
        split at h
        · cases h
        · cases h
          exact ⟨draft, drafts_of_settle hunify hsettle ⟨now, rfl⟩⟩

theorem drafted_of_carryOut_warehouse {warehouse : Warehouse} {w w' : World}
    (hunify : config.unify source = .ok unified)
    (h : w.exec (config.carryOut unified warehouse.catalog existing) = (.ok plan, w'))
    (hcreated : plan.action = .created) : ∃ draft, config.Drafts source plan draft := by
  unfold carryOut at h
  obtain ⟨settlement, _, hsettle, h⟩ := World.exec_bind_eq_ok_iff.1 h
  rw [World.exec_liftExcept] at hsettle
  injection hsettle with hsettle
  split at h
  · obtain ⟨_, _, _, h⟩ := World.exec_bind_eq_ok_iff.1 h
    cases h
    cases hcreated
  · rename_i draft
    split at h
    · obtain ⟨_, _, _, h⟩ := World.exec_bind_eq_ok_iff.1 h
      obtain ⟨_, _, _, h⟩ := World.exec_bind_eq_ok_iff.1 h
      cases h
      cases hcreated
    · obtain ⟨target, _, hcreate, h⟩ := World.exec_bind_eq_ok_iff.1 h
      cases h
      exact ⟨draft, drafts_of_settle hunify hsettle (Warehouse.ofDraft_of_createTable hcreate)⟩

theorem drafted_of_plan_warehouse {warehouse : Warehouse} {w w' : World}
    (h : w.exec (config.plan source warehouse.catalog) = (.ok plan, w'))
    (hcreated : plan.action = .created) : ∃ draft, config.Drafts source plan draft := by
  unfold SyncConfig.plan at h
  obtain ⟨_, _, _, h⟩ := World.exec_bind_eq_ok_iff.1 h
  obtain ⟨unified, _, hunify, h⟩ := World.exec_bind_eq_ok_iff.1 h
  rw [World.exec_liftExcept] at hunify
  injection hunify with hunify
  split at h
  · obtain ⟨_, _, _, h⟩ := World.exec_bind_eq_ok_iff.1 h
    exact drafted_of_carryOut_warehouse hunify h hcreated
  · obtain ⟨_, _, _, h⟩ := World.exec_bind_eq_ok_iff.1 h
    obtain ⟨_, _, _, h⟩ := World.exec_bind_eq_ok_iff.1 h
    exact drafted_of_carryOut_warehouse hunify h hcreated

/-- A table that a plan creates, in memory or in files, is made from a draft. -/
theorem Plans.drafted (h : config.Plans source plan) (hcreated : plan.action = .created) :
    ∃ draft, config.Drafts source plan draft := by
  cases h with
  | @inMemory c after w w' h =>
    have hplan := exec_plan c w config source
    rw [h] at hplan
    exact drafted_of_planIn hplan.symm hcreated
  | inFiles h => exact drafted_of_plan_warehouse h hcreated

end SyncConfig

/-! ## Well-formed tables -/

/-- A table has fields of distinct names, and a key of some of them. -/
structure TargetSchema.WellFormed (target : TargetSchema) : Prop where
  distinct : target.names.Nodup
  keyed : target.primaryKeys ≠ []
  keyDistinct : target.primaryKeys.Nodup
  keyDeclared : ∀ key ∈ target.primaryKeys, key ∈ target.names

namespace SyncConfig

section

variable [CharacterProperties] {config : SyncConfig} {source : Source} {plan : SyncPlan}
  {draft : TargetDraft}

theorem Drafts.names (h : config.Drafts source plan draft) :
    plan.target.names = plan.unified.names := by
  obtain ⟨now, htarget⟩ := h.target
  rw [TargetSchema.names, htarget, TargetSchema.ofDraft,
    UnifiedSchema.columns_of_buildTarget h.drafted, UnifiedSchema.fields, List.map_map]
  rfl

theorem Drafts.primaryKeys (h : config.Drafts source plan draft) :
    plan.target.primaryKeys = draft.primaryKeys := by
  obtain ⟨now, htarget⟩ := h.target
  rw [htarget, TargetSchema.ofDraft]

/-- Only the first source can bring in repeated names, and only a key that nobody requested can be
unsound. -/
theorem Drafts.wellFormed_target_iff {first : SourceSchema} {rest : List SourceSchema}
    (h : config.Drafts source plan draft) (hvalid : config.validate = .ok ())
    (hmerge : UnifiedSchema.merge (first :: rest) = .ok plan.unified) :
    plan.target.WellFormed ↔
      first.names.Nodup ∧ (config.primaryKeys = [] → first.primaryKey.Nodup ∧
        ∀ key ∈ first.primaryKey, ∃ s ∈ first :: rest, key ∈ s.names) := by
  obtain ⟨hkeyed, hkeys⟩ := UnifiedSchema.keys_of_buildTarget h.drafted
  have hdistinct : plan.target.names.Nodup ↔ first.names.Nodup := by
    rw [h.names, UnifiedSchema.nodup_names_of_merge_iff hmerge]
  have hdeclared (key : String) :
      key ∈ plan.target.names ↔ ∃ s ∈ first :: rest, key ∈ s.names := by
    rw [h.names, UnifiedSchema.mem_names_of_merge_iff hmerge]
  rcases hkeys with ⟨hrequested, hkeys, hknown⟩ | ⟨hrequested, hkeys⟩
  · -- A requested key has been checked in the settings and in the draft.
    constructor
    · intro hwell
      exact ⟨hdistinct.1 hwell.distinct, fun hnone => absurd hnone hrequested⟩
    · intro hfirst
      refine ⟨hdistinct.2 hfirst.1, ?_, ?_, ?_⟩
      · rwa [h.primaryKeys]
      · rw [h.primaryKeys, hkeys]
        exact nodup_primaryKeys_of_validate hvalid
      · rw [h.primaryKeys, hkeys, h.names]
        exact hknown
  · -- A key that the sources share is taken over as it is.
    have hshared : plan.target.primaryKeys = first.primaryKey := by
      rw [h.primaryKeys, hkeys]
      exact UnifiedSchema.primaryKey_of_merge hmerge (hkeys ▸ hkeyed)
    constructor
    · intro hwell
      refine ⟨hdistinct.1 hwell.distinct, fun _ => ⟨hshared ▸ hwell.keyDistinct, ?_⟩⟩
      intro key hkey
      exact (hdeclared key).1 (hwell.keyDeclared key (hshared ▸ hkey))
    · intro hfirst
      obtain ⟨hnames, hkey⟩ := hfirst
      obtain ⟨hnodup, hknown⟩ := hkey hrequested
      refine ⟨hdistinct.2 hnames, ?_, ?_, ?_⟩
      · rwa [h.primaryKeys]
      · rwa [hshared]
      · rw [hshared]
        intro key hmem
        exact (hdeclared key).2 (hknown key hmem)

/-- A created table has a key.  It is well-formed exactly if the first discovered table has columns
of distinct names and, unless a key was requested, its key repeats no name and names columns of the
discovered tables. -/
theorem Plans.wellFormed_iff {path : Option String} {content : Snapshot}
    (hvalid : config.validate = .ok ()) (h : config.Plans (.snapshot path content) plan)
    (hcreated : plan.action = .created) :
    plan.target.primaryKeys ≠ [] ∧
      ∃ first rest,
        (Source.snapshot path content).discover config.discovery = .ok (first :: rest) ∧
          (plan.target.WellFormed ↔
            first.names.Nodup ∧ (config.primaryKeys = [] → first.primaryKey.Nodup ∧
              ∀ key ∈ first.primaryKey, ∃ s ∈ first :: rest, key ∈ s.names)) := by
  obtain ⟨draft, hdrafts⟩ := h.drafted hcreated
  obtain ⟨sources, hdiscover, hmerge⟩ := bind_eq_ok_iff.1 hdrafts.merged
  refine ⟨?_, ?_⟩
  · rw [hdrafts.primaryKeys]
    exact (UnifiedSchema.keys_of_buildTarget hdrafts.drafted).1
  · cases sources with
    | nil => cases hmerge
    | cons first rest =>
      exact ⟨first, rest, hdiscover, hdrafts.wellFormed_target_iff hvalid hmerge⟩

end

theorem Plans.wellFormed_iff_shards :
    shardsConfig.validate = .ok () ∧
      ∃ plan, shardsConfig.Plans (.snapshot none shards) plan ∧ plan.action = .created ∧
        plan.target.WellFormed := by
  have hvalid : shardsConfig.validate = .ok () := by decide
  have hplan : ∃ plan after, shardsConfig.planIn default (.snapshot none shards) {} =
      (.ok plan, after) ∧ plan.action = .created := ⟨_, _, rfl, rfl⟩
  obtain ⟨plan, after, hplan, hcreated⟩ := hplan
  have hplans := Plans.of_planIn hplan
  obtain ⟨_, first, rest, hdiscover, hiff⟩ := Plans.wellFormed_iff hvalid hplans hcreated
  refine ⟨hvalid, plan, hplans, hcreated, hiff.2 ?_⟩
  have hsources : (Source.snapshot none shards).discover shardsConfig.discovery =
      .ok [⟨⟨"shard_1", "orders"⟩, [⟨"id", .integer 32⟩, ⟨"note", .string (some 20)⟩], ["id"]⟩,
        ⟨⟨"shard_2", "orders"⟩, [⟨"id", .integer 64⟩], ["id"]⟩] := rfl
  rw [hsources] at hdiscover
  cases hdiscover
  decide

/-- A snapshot of a table that declares one column twice and has a key of no column. -/
def unsound : Snapshot :=
  Snapshot.withTable {} ⟨"shard_1", "orders"⟩
    { columns := [⟨"id", { name := "int" }⟩, ⟨"id", { name := "bigint" }⟩]
      primaryKey := ["number"] }

/-- The text of that snapshot. -/
def unsoundText : String :=
  "\x7b\"databases\":\x7b\"shard_1\":\x7b\"orders\":\x7b\"columns\":" ++
    "[\x7b\"name\":\"id\",\"native_type\":\"int\"\x7d," ++
    "\x7b\"name\":\"id\",\"native_type\":\"bigint\"\x7d]," ++
    "\"primary_key\":[\"number\"]\x7d\x7d\x7d\x7d"

/-- The table is created as it is declared, with a repeated name and an unknown key. -/
theorem created_unsound :
    Snapshot.ofText "s.json" unsoundText = .ok unsound ∧ shardsConfig.validate = .ok () ∧
      ∃ plan, shardsConfig.Plans (.snapshot none unsound) plan ∧ plan.action = .created ∧
        ¬plan.target.names.Nodup ∧ ∃ key ∈ plan.target.primaryKeys, key ∉ plan.target.names := by
  have hplan : ∃ plan after, shardsConfig.planIn default (.snapshot none unsound) {} =
      (.ok plan, after) ∧ plan.action = .created ∧ plan.target.names = ["id", "id"] ∧
        plan.target.primaryKeys = ["number"] := ⟨_, _, rfl, rfl, rfl, rfl⟩
  obtain ⟨plan, after, hplan, hcreated, hnames, hkeys⟩ := hplan
  refine ⟨by decide +kernel, by decide, plan, .of_planIn hplan, hcreated, ?_, "number", ?_, ?_⟩
  · rw [hnames]
    decide
  · rw [hkeys]
    decide
  · rw [hnames]
    decide

end SyncConfig

end ShardMerge
