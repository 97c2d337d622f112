import ShardMerge.Catalog.Basic
import ShardMerge.Files.Host
import ShardMerge.Sync.Discovery
import ShardMerge.Sync.Plan

/-!
# Planning

From source tables to a target table: the sources are discovered and merged, and the target table is
checked if it exists and created if it does not.

* `SyncConfig.settle` decides what becomes of the target table, and `SyncConfig.carryOut` does it.
* `SyncConfig.plan` does all of it against a catalog.
-/

namespace ShardMerge

/-- What is left to do about a target table. -/
inductive Settlement where
  | useExisting (target : TargetSchema)
  | create (draft : TargetDraft)
deriving DecidableEq, Repr

namespace SyncConfig

/-- Decides what becomes of a target table, given its latest version if it exists. -/
def settle (config : SyncConfig) (unified : UnifiedSchema) (existing : Option TargetSchema) :
    Except Error Settlement :=
  match existing with
  | some target => do
    target.ensureRoom unified
    .ok (.useExisting target)
  | none => do
    let draft ← unified.buildTarget config.primaryKeys config.partitionKeys config.tableOptions
    .ok (.create draft)

variable [CharacterProperties]

/-- The sources and the schema that they make together. -/
def unify (config : SyncConfig) (source : Source) : Except Error UnifiedSchema := do
  UnifiedSchema.merge (← source.discover config.discovery)

/-- What is reported while sources are discovered and merged. -/
def unifyNotes (config : SyncConfig) (source : Source) : List Entry :=
  let discovery := config.discovery
  ⟨.info, s!"Discovering {source.kind} source tables for {config.target} " ++
    s!"(database pattern '{discovery.databasePattern}', " ++
    s!"table pattern '{discovery.tablePattern}')"⟩ :: source.discoverNotes discovery ++
    match source.discover discovery with
    | .error _ => []
    | .ok schemas =>
      UnifiedSchema.mergeNotes schemas ++
        match UnifiedSchema.merge schemas with
        | .error _ => []
        | .ok unified =>
          [⟨.info, s!"Merged {unified.origins.length} source table(s) into " ++
            s!"{unified.columns.length} column(s)"⟩]

variable {m : Type → Type} [Monad m] [Host m]

/-- Decides what becomes of a target table that has been looked up and, unless nothing may be
written, carries it out. -/
def carryOut (config : SyncConfig) (unified : UnifiedSchema) (catalog : Catalog m)
    (existing : Option TargetSchema) : ExceptT Error m SyncPlan := do
  match ← liftExcept (config.settle unified existing) with
  | .useExisting target =>
    Host.record ⟨.info, s!"Target table {config.target} (schema {target.version}) " ++
      "is compatible with the sources"⟩
    return { action := .useExisting, unified, target }
  | .create draft =>
    if config.dryRun then
      Host.record ⟨.info, s!"Dry run: table {config.target} would be created"⟩
      return { action := .wouldCreate, unified, target := .ofDraft draft (← Host.now) }
    else
      let target ← catalog.createTable config.target draft
      return { action := .created, unified, target }

/-- Plans a target table and, unless nothing may be written, carries the plan out. -/
def plan (config : SyncConfig) (source : Source) (catalog : Catalog m) :
    ExceptT Error m SyncPlan := do
  Host.recordAll (config.unifyNotes source)
  let unified ← liftExcept (config.unify source)
  unless config.dryRun do
    catalog.createDatabase config.target.database true
  config.carryOut unified catalog (← catalog.getTable config.target)

end SyncConfig

end ShardMerge
