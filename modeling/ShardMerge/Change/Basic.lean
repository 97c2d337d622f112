import ShardMerge.Column.Native
import ShardMerge.Schema.Table

/-!
# Schema changes

The changes that source tables report while the target table is in use.  A change may declare a
type in the words of its source; such a definition is mapped only when the change is decided, so
that an unknown one costs no more than its own change.
-/

namespace ShardMerge

/-- A column type as a change declares it. -/
inductive DeclaredType where
  | typed (type : ColumnType)
  /-- A definition in the words of the source. -/
  | native (definition : String)
deriving DecidableEq, Repr, Inhabited

namespace DeclaredType

/-- The column type that is meant, if the definition is understood. -/
def resolve? : DeclaredType → Option ColumnType
  | typed type => some type
  | native definition => ColumnType.ofDefinition? definition

/-- The type as messages show it. -/
def describe : DeclaredType → String
  | typed type => type.describe
  | native definition => definition

instance : ToString DeclaredType := ⟨describe⟩

end DeclaredType

/-- A change of one column of a source table. -/
inductive SchemaChange where
  | addColumn (column : String) (type : DeclaredType)
  | alterColumnType (column : String) (oldType newType : DeclaredType)
  | dropColumn (column : String)
deriving DecidableEq, Repr, Inhabited

namespace SchemaChange

/-- The column that is changed. -/
def column : SchemaChange → String
  | addColumn column _ | alterColumnType column _ _ | dropColumn column => column

/-- The change as messages show it. -/
def describe : SchemaChange → String
  | addColumn column type => s!"ADD COLUMN {column} {type}"
  | alterColumnType column oldType newType => s!"ALTER COLUMN {column} {oldType} -> {newType}"
  | dropColumn column => s!"DROP COLUMN {column}"

instance : ToString SchemaChange := ⟨describe⟩

end SchemaChange

/-- A change with the source table that reports it. -/
structure ChangeEvent where
  origin : TableName
  change : SchemaChange
deriving DecidableEq, Repr, Inhabited

/-- Why a change is not applied. -/
inductive SkipReason where
  /-- Columns are never dropped from a target table. -/
  | dropColumn
  /-- The source made the type narrower or changed its family. -/
  | narrowingAlter (oldType newType : ColumnType)
  /-- The requested type and that of the target column do not compare. -/
  | incompatibleType (current requested : ColumnType)
  /-- The definition of a type is not understood. -/
  | unrecognizedType (definition : String)
deriving DecidableEq, Repr, Inhabited

namespace SkipReason

/-- The reason as messages show it. -/
def describe : SkipReason → String
  | dropColumn => "dropping columns is not supported"
  | narrowingAlter oldType newType => s!"{oldType} cannot be widened to {newType}"
  | incompatibleType current requested =>
    s!"target type {current} and requested type {requested} are incompatible"
  | unrecognizedType definition => s!"unrecognized native type '{definition}'"

instance : ToString SkipReason := ⟨describe⟩

end SkipReason

end ShardMerge
