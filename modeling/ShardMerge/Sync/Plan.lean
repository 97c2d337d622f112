import ShardMerge.Schema.Merge
import ShardMerge.Schema.Wire

/-!
# Plans

What becomes of a target table: it is used as it is, it is created, or it would be.
-/

namespace ShardMerge

/-- What is done about a target table. -/
inductive SyncAction where
  /-- The table exists and has room for every source column. -/
  | useExisting
  | created
  /-- The table does not exist, and nothing may be written. -/
  | wouldCreate
deriving DecidableEq, Repr

namespace SyncAction

/-- The action as messages show it. -/
def describe : SyncAction → String
  | useExisting => "use existing table"
  | created => "created table"
  | wouldCreate => "would create table"

instance : ToString SyncAction := ⟨describe⟩

/-- The name of the action in its JSON form. -/
def name : SyncAction → String
  | useExisting => "use_existing"
  | created => "created"
  | wouldCreate => "would_create"

end SyncAction

/-- The outcome of planning one target table. -/
structure SyncPlan where
  action : SyncAction
  /-- The schema that the sources make together. -/
  unified : UnifiedSchema
  /-- The target table as it is or would be. -/
  target : TargetSchema
deriving DecidableEq, Repr

namespace SyncPlan

/-- The source tables. -/
def origins (p : SyncPlan) : List TableName := p.unified.origins

/-- The JSON form of a plan. -/
def write (p : SyncPlan) : Json :=
  .object [("action", .string p.action.name), ("unified", toJson p.unified),
    ("target", toJson p.target)]

end SyncPlan

end ShardMerge
