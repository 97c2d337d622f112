import ShardMerge.Journal
import ShardMerge.Schema.Target
import ShardMerge.Schema.Unified

/-!
# Merging schemas

The schema of a target table out of the schemas of its sources.

* `UnifiedSchema.merge` makes one schema out of those of all sources.  It fails only if no declared
  type of some column is wide enough for all others, so the order of the sources does not matter.
* `UnifiedSchema.buildTarget` drafts a target table, whose key is requested or shared by all
  sources.
* `TargetSchema.ensureRoom` checks that a table that exists already can hold every column.
-/

namespace ShardMerge

open Text

namespace UnifiedSchema

/-- Merges the schemas of sources from first to last. -/
def merge : List SourceSchema → Except Error UnifiedSchema
  | [] => .error (.noMatchingSource "" "")
  | first :: rest =>
    let unified := rest.foldl combine (ofSource first)
    match unified.conflict? with
    | none => .ok unified
    | some (column, rival) =>
      .error (.incompatibleColumnType column.name column.origin column.type rival.origin rival.type)

/-- Drafts a target table.  Requested keys have to name columns; without any the key that the
sources share is taken. -/
def buildTarget (unified : UnifiedSchema) (primaryKeys partitionKeys : List String)
    (options : Dict String) : Except Error TargetDraft :=
  let draft (primaryKeys : List String) : TargetDraft :=
    { columns := unified.fields, primaryKeys, partitionKeys, options }
  if !primaryKeys.isEmpty then
    match primaryKeys.find? fun key => (unified.column? key).isNone with
    | some missing => .error (.unknownPrimaryKeyColumn missing)
    | none => .ok (draft primaryKeys)
  else if unified.hasPrimaryKey then .ok (draft unified.primaryKey)
  else .error .primaryKeyRequired

end UnifiedSchema

namespace TargetSchema

/-- Whether every unified column fits in a field of its name.  Further fields do no harm. -/
def hasRoomFor (target : TargetSchema) (unified : UnifiedSchema) : Bool :=
  unified.columns.all fun column =>
    (target.field? column.name).any fun field => column.type.fitsIn field.type

/-- Fails with both lists of fields if a unified column has no room. -/
def ensureRoom (target : TargetSchema) (unified : UnifiedSchema) : Except Error Unit :=
  if target.hasRoomFor unified then .ok ()
  else .error (.schemaMismatch target.fields unified.fields)

end TargetSchema

/-! ## The journal of a merge -/

/-- What is reported when a column takes in a declared type. -/
def UnifiedColumn.absorbNotes (column : UnifiedColumn) (type : ColumnType) (origin : TableName) :
    List Entry :=
  match column.absorption type with
  | .covered => []
  | .widened =>
    [⟨.debug, s!"Widening column '{column.name}' from {column.type} ({column.origin}) " ++
      s!"to {type} ({origin})"⟩]
  | .contended =>
    [⟨.debug, s!"Column '{column.name}' has incomparable types {column.type} ({column.origin}) " ++
      s!"and {type} ({origin}) so far"⟩]

namespace UnifiedSchema

/-- What is reported when a declared column is added. -/
def addColumnNotes (origin : TableName) (columns : List UnifiedColumn) (c : Column) : List Entry :=
  match columns.find? fun unified => unified.name = c.name with
  | none => []
  | some unified => unified.absorbNotes c.type origin

/-- What is reported when keys disagree. -/
def keyNotes (known : List String) (next : SourceSchema) : List Entry :=
  if known = next.primaryKey then []
  else
    [⟨.debug, s!"Primary key of {next.origin} ({quotedList next.primaryKey}) differs from " ++
      s!"{quotedList known}; leaving it undetermined"⟩]

/-- What is reported when one more source is taken in. -/
def combineNotes (s : UnifiedSchema) (next : SourceSchema) : List Entry :=
  foldNotes (addColumn next.origin) (addColumnNotes next.origin) s.columns next.columns ++
    keyNotes s.primaryKey next

/-- What is reported of a merge. -/
def mergeNotes : List SourceSchema → List Entry
  | [] => []
  | first :: rest =>
    let unified := rest.foldl combine (ofSource first)
    foldNotes combine combineNotes (ofSource first) rest ++
      if unified.conflict?.isSome then []
      else
        [⟨.debug, s!"Merged {(first :: rest).length} source schema(s) into " ++
          s!"{unified.columns.length} column(s), primary key {quotedList unified.primaryKey}"⟩]

end UnifiedSchema

end ShardMerge
