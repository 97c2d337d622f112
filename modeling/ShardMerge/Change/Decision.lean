import ShardMerge.Change.Basic
import ShardMerge.Schema.Target

/-!
# Decisions on changes

What a change does to a target schema.  Columns are added and made wider, never dropped or made
narrower.

* `SchemaChange.decide` decides a change and never fails: a change that cannot be applied is
  skipped with a reason.
-/

namespace ShardMerge

/-- What is done about a change. -/
inductive Decision where
  /-- The next version of the schema takes the change in. -/
  | apply (next : TargetSchema)
  /-- The schema covers the change already. -/
  | unchanged
  | skip (reason : SkipReason)
deriving DecidableEq, Repr, Inhabited

namespace Decision

/-- Whether the schema covers the change afterwards. -/
def isAccepted : Decision → Bool
  | apply _ | unchanged => true
  | skip _ => false

/-- The schema after a decision. -/
def after (current : TargetSchema) : Decision → TargetSchema
  | apply next => next
  | unchanged | skip _ => current

end Decision

/-- The fields with the type of the named ones replaced. -/
def retype (name : String) (type : ColumnType) (fields : List Column) : List Column :=
  fields.map fun field => if field.name = name then { name, type } else field

/-- Makes room for a type in a column, which is appended if it is missing. -/
def accommodate (now : Timestamp) (current : TargetSchema) (name : String) (type : ColumnType) :
    Decision :=
  match current.field? name with
  | none => .apply (current.next (current.fields ++ [{ name, type }]) now)
  | some existing =>
    if type.fitsIn existing.type then .unchanged
    else if existing.type.fitsIn type then
      .apply (current.next (retype name type current.fields) now)
    else .skip (.incompatibleType existing.type type)

/-- The column type that a declaration means, or the reason to skip its change. -/
def DeclaredType.resolve (declared : DeclaredType) : Except SkipReason ColumnType :=
  match declared.resolve? with
  | some type => .ok type
  | none => .error (.unrecognizedType declared.describe)

namespace SchemaChange

/-- The column type that a change asks for, or the reason to skip it. -/
def request : SchemaChange → Except SkipReason ColumnType
  | addColumn _ type => type.resolve
  | alterColumnType _ oldType newType => do
    let oldType ← oldType.resolve
    let newType ← newType.resolve
    if oldType.fitsIn newType then .ok newType else .error (.narrowingAlter oldType newType)
  | dropColumn _ => .error .dropColumn

/-- Decides a change of a schema. -/
def decide (now : Timestamp) (current : TargetSchema) (change : SchemaChange) : Decision :=
  match change.request with
  | .ok type => accommodate now current change.column type
  | .error reason => .skip reason

end SchemaChange

end ShardMerge
