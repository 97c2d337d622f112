import ShardMerge.Schema.Source

/-!
# Unified schemas

What the schemas of several source tables make together.  A unified column holds the widest type
that the sources seen so far declare for it.  Where two declared types do not compare, the later
one is kept beside it as a contender, since a source that is still to come may declare a type that
holds both.

* `UnifiedColumn.absorb` takes in one more declared type, and `UnifiedSchema.combine` one more
  source.
* The type of a column and its contenders are always the types that no other declared type
  exceeds.
-/

namespace ShardMerge

/-- A declared type that does not compare with the type of its column. -/
structure Contender where
  type : ColumnType
  /-- The first source that declares it. -/
  origin : TableName
deriving DecidableEq, Repr, Inhabited

/-- A column of the unified schema. -/
structure UnifiedColumn where
  name : String
  type : ColumnType
  /-- The source that declares `type`. -/
  origin : TableName
  contenders : List Contender := []
deriving DecidableEq, Repr, Inhabited

/-- The schema that source tables make together. -/
structure UnifiedSchema where
  /-- The columns of all sources, in the order of their first appearance. -/
  columns : List UnifiedColumn
  /-- The key that all sources share; empty if they do not share one. -/
  primaryKey : List String
  /-- The sources in order. -/
  origins : List TableName
deriving DecidableEq, Repr, Inhabited

namespace UnifiedColumn

/-- What the type declared by one more source does to a column. -/
inductive Absorption where
  /-- A type that is held already is as wide. -/
  | covered
  /-- The declared type is wider than the type of the column. -/
  | widened
  /-- The declared type and the type of the column do not compare. -/
  | contended
deriving DecidableEq, Repr

/-- Compares a declared type with those that a column holds. -/
def absorption (column : UnifiedColumn) (type : ColumnType) : Absorption :=
  if column.contenders.any fun rival => type.fitsIn rival.type then .covered
  else
    match column.type.wider? type with
    | some wider => if wider = column.type then .covered else .widened
    | none => .contended

/-- Takes in the type that one more source declares. -/
def absorb (column : UnifiedColumn) (type : ColumnType) (origin : TableName) : UnifiedColumn :=
  let rivals := column.contenders.filter fun rival => !rival.type.fitsIn type
  match column.absorption type with
  | .covered => column
  | .widened => { column with type, origin, contenders := rivals }
  | .contended => { column with contenders := rivals ++ [{ type, origin }] }

end UnifiedColumn

namespace UnifiedSchema

/-- The schema of a single source. -/
def ofSource (source : SourceSchema) : UnifiedSchema where
  columns := source.columns.map fun c => { name := c.name, type := c.type, origin := source.origin }
  primaryKey := source.primaryKey
  origins := [source.origin]

/-- The column of a name. -/
def column? (s : UnifiedSchema) (name : String) : Option UnifiedColumn :=
  s.columns.find? fun c => c.name = name

/-- The sources share a primary key. -/
def hasPrimaryKey (s : UnifiedSchema) : Bool := !s.primaryKey.isEmpty

/-- The columns without their history. -/
def fields (s : UnifiedSchema) : List Column :=
  s.columns.map fun c => { name := c.name, type := c.type }

/-- Takes a declared column into the unified column of its name, or appends it. -/
def addColumn (origin : TableName) : List UnifiedColumn → Column → List UnifiedColumn
  | [], c => [{ name := c.name, type := c.type, origin }]
  | unified :: rest, c =>
    if unified.name = c.name then unified.absorb c.type origin :: rest
    else unified :: addColumn origin rest c

/-- The key that both lists agree on. -/
def commonKey (known next : List String) : List String :=
  if known = next then known else []

/-- Takes in one more source. -/
def combine (s : UnifiedSchema) (next : SourceSchema) : UnifiedSchema where
  columns := next.columns.foldl (addColumn next.origin) s.columns
  primaryKey := commonKey s.primaryKey next.primaryKey
  origins := s.origins ++ [next.origin]

/-- The first column with a contender, and its first contender. -/
def conflict? (s : UnifiedSchema) : Option (UnifiedColumn × Contender) :=
  s.columns.findSome? fun c => c.contenders.head?.map fun rival => (c, rival)

end UnifiedSchema

end ShardMerge
