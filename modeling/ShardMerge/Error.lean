import ShardMerge.Schema.Table

/-!
# Errors

Everything that can go wrong, with what has to be known to act on it.  A connection string is part
of an error only in a form that hides its password.
-/

namespace ShardMerge

/-- Why a command or an operation failed. -/
inductive Error where
  /-- No source table is selected by both patterns. -/
  | noMatchingSource (databasePattern tablePattern : String)
  /-- A source column has a native type without a column type. -/
  | unrecognizedNativeType (origin : TableName) (column nativeType : String)
  /-- No type that the sources declare for a column is wide enough for the others. -/
  | incompatibleColumnType (column : String) (firstOrigin : TableName) (firstType : ColumnType)
      (secondOrigin : TableName) (secondType : ColumnType)
  /-- A requested key column is in no source table. -/
  | unknownPrimaryKeyColumn (column : String)
  /-- No key is requested and the sources do not share one. -/
  | primaryKeyRequired
  /-- The target table has no room for the columns of the sources. -/
  | schemaMismatch (targetFields sourceFields : List Column)
  | databaseNotFound (database : String)
  | databaseAlreadyExists (database : String)
  | tableNotFound (table : TableName)
  | tableAlreadyExists (table : TableName)
  /-- A schema does not follow the latest version of its table. -/
  | schemaVersionConflict (table : TableName) (expected actual : UInt64)
  /-- A name pattern is no pattern of its kind. -/
  | invalidPattern (pattern : String)
  /-- A source cannot be reached. -/
  | connection (context : String)
  /-- A source gives no answer about its tables. -/
  | collection (context : String)
  /-- A setting is unusable. -/
  | configuration (message : String)
  | unsupportedFeature (feature source : String)
  /-- A file operation failed. -/
  | io (context : String)
  /-- A text is not the JSON form of what it should hold. -/
  | serialization (context : String)
deriving DecidableEq, Repr, Inhabited

namespace Error

/-- The name under which an error is reported. -/
def kind : Error → String
  | noMatchingSource .. => "NoMatchingSource"
  | unrecognizedNativeType .. => "UnrecognizedNativeType"
  | incompatibleColumnType .. => "IncompatibleColumnType"
  | unknownPrimaryKeyColumn .. => "UnknownPrimaryKeyColumn"
  | primaryKeyRequired => "PrimaryKeyRequired"
  | schemaMismatch .. => "SchemaMismatch"
  | databaseNotFound .. => "DatabaseNotFound"
  | databaseAlreadyExists .. => "DatabaseAlreadyExists"
  | tableNotFound .. => "TableNotFound"
  | tableAlreadyExists .. => "TableAlreadyExists"
  | schemaVersionConflict .. => "SchemaVersionConflict"
  | invalidPattern .. => "InvalidPattern"
  | connection .. => "Connection"
  | collection .. => "Collection"
  | configuration .. => "Configuration"
  | unsupportedFeature .. => "UnsupportedFeature"
  | io .. => "Io"
  | serialization .. => "Serialization"

/-- The message of an error. -/
def message : Error → String
  | noMatchingSource databasePattern tablePattern =>
    s!"No source table matches database pattern '{databasePattern}' and table pattern '{tablePattern}'"
  | unrecognizedNativeType origin column nativeType =>
    s!"Unrecognized native type '{nativeType}' for column '{column}' in table {origin}"
  | incompatibleColumnType column firstOrigin firstType secondOrigin secondType =>
    s!"Column '{column}' has incompatible types in table {firstOrigin} ({firstType}) " ++
      s!"and table {secondOrigin} ({secondType})"
  | unknownPrimaryKeyColumn column =>
    s!"Specified primary key column '{column}' does not exist in the source tables"
  | primaryKeyRequired =>
    "Primary keys are not specified and cannot be inferred: " ++
      "the source tables have no primary keys or have different primary keys"
  | schemaMismatch targetFields sourceFields =>
    "Target schema and source schema are not compatible.\n" ++
      s!"Target fields are: {Column.describeList targetFields}.\n" ++
      s!"Source fields are: {Column.describeList sourceFields}"
  | databaseNotFound database => s!"Database '{database}' does not exist in the target catalog"
  | databaseAlreadyExists database => s!"Database '{database}' already exists in the target catalog"
  | tableNotFound table => s!"Table {table} does not exist in the target catalog"
  | tableAlreadyExists table => s!"Table {table} already exists in the target catalog"
  | schemaVersionConflict table expected actual =>
    s!"Schema version conflict for table {table}: expected schema id {expected}, got {actual}"
  | invalidPattern pattern => s!"Invalid name pattern '{pattern}'"
  | connection context => s!"Database connection failed: {context}"
  | collection context => s!"Metadata collection failed: {context}"
  | configuration message => s!"Configuration error: {message}"
  | unsupportedFeature feature source =>
    s!"Unsupported operation: {feature} not supported for {source}"
  | io context => s!"I/O operation failed: {context}"
  | serialization context => s!"Serialization failed: {context}"

instance : ToString Error := ⟨message⟩

end Error

end ShardMerge
