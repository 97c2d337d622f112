import ShardMerge.Column.Type
import ShardMerge.Text.Decimal
import ShardMerge.Text.Lowercase
import ShardMerge.Text.Split

/-!
# Native types

The types that a source declares in its own words, such as `decimal(10,2) unsigned`, and the
column types that hold their values.

* `NativeType.ofDefinition?` takes a definition apart at its parentheses.
* `NativeType.columnType?` maps a native type.  The mapping is fixed: a name that it does not list
  has no column type, and no default stands in for it.
* Letter case, blanks between words and the place of `unsigned` do not matter.  An unsigned
  integer maps one size up, so that each of its values still fits.
-/

namespace ShardMerge

open Text

/-- A native type name, with the modifiers that follow it, and its size arguments. -/
structure NativeType where
  name : String
  /-- The length, the precision or the number of bits. -/
  precision : Option UInt32 := none
  scale : Option UInt32 := none
deriving DecidableEq, Repr, Inhabited

/-- The words of a native type name, apart from the modifiers on its sign. -/
structure NativeName where
  /-- The remaining words with a space between neighbours. -/
  base : String
  unsigned : Bool
deriving DecidableEq, Repr

namespace NativeName

/-- The modifiers that make a type unsigned; filling with zeros does so too. -/
def unsignedWords : List String := ["unsigned", "zerofill"]

/-- Takes the sign modifiers out of the lower-case words of a name. -/
def ofWords (words : List String) : NativeName where
  base := " ".intercalate (words.filter fun w => !(unsignedWords.contains w) && w != "signed")
  unsigned := words.any unsignedWords.contains

/-- The words of a type name in lower case. -/
def ofText (name : String) : NativeName :=
  ofWords ((words (lowercase name.toList)).map String.ofList)

end NativeName

namespace NativeType

/-- The greatest precision that stays a decimal; a wider one becomes text. -/
def maxDecimalPrecision : UInt32 := 38

/-- The precision of a decimal that declares none. -/
def defaultDecimalPrecision : UInt32 := 10

/-- A decimal of the given size, or text if it is too wide for a decimal column. -/
def decimalType (precision scale : Option UInt32) : ColumnType :=
  let precision := precision.getD defaultDecimalPrecision
  let scale := scale.getD 0
  if precision ≤ maxDecimalPrecision ∧ scale < 256 then
    .decimal precision.toUInt8 scale.toUInt8
  else .text

/-- A single bit is a truth value, several bits are as many bytes as hold them. -/
def bitType : Option UInt32 → ColumnType
  | none => .boolean
  | some bits =>
    if bits = 1 then .boolean else .binary (some (UInt32.ofNat ((bits.toNat + 7) / 8)))

/-- A floating point number of more than 24 bits of precision is a double. -/
def floatType (precision : Option UInt32) : ColumnType :=
  .float (if precision.any (24 < ·) then 64 else 32)

/-- The names of the spatial types; their values travel as bytes. -/
def spatialNames : List String :=
  ["geometry", "point", "linestring", "polygon", "multipoint", "multilinestring", "multipolygon",
    "geometrycollection", "geomcollection"]

/-- The column type of a native type with the given base name. -/
def columnTypeOf (unsigned : Bool) (precision scale : Option UInt32) (base : String) :
    Option ColumnType :=
  match base with
  | "tinyint" => some (.integer (if unsigned then 16 else 8))
  | "smallint" => some (.integer (if unsigned then 32 else 16))
  | "mediumint" => some (.integer 32)
  | "int" | "integer" => some (.integer (if unsigned then 64 else 32))
  | "bigint" => some (if unsigned then .decimal 20 0 else .integer 64)
  | "year" => some (.integer 32)
  | "float" => some (floatType precision)
  | "double" | "double precision" | "real" => some (.float 64)
  | "decimal" | "numeric" | "dec" | "fixed" => some (decimalType precision scale)
  | "bool" | "boolean" => some .boolean
  | "bit" => some (bitType precision)
  | "char" | "character" | "nchar" | "national char" => some (.string (some (precision.getD 1)))
  | "varchar" | "character varying" | "nvarchar" | "national varchar" => some (.string precision)
  | "tinytext" | "text" | "mediumtext" | "longtext" | "json" | "enum" | "set" => some .text
  | "binary" => some (.binary (some (precision.getD 1)))
  | "varbinary" => some (.binary precision)
  | "tinyblob" | "blob" | "mediumblob" | "longblob" => some .bytes
  | "date" => some .date
  | "time" => some .time
  | "datetime" => some (.timestamp false)
  | "timestamp" => some (.timestamp true)
  | other => if spatialNames.contains other then some .bytes else none

/-- The column type that holds the values of a native type, if its name is listed. -/
def columnType? (native : NativeType) : Option ColumnType :=
  let name := NativeName.ofText native.name
  columnTypeOf name.unsigned native.precision native.scale name.base

/-- The size arguments between the parentheses of a definition.  One or two numbers are sizes;
anything else, such as the values of an enumeration, declares no size. -/
def sizeArguments (arguments : List Char) : Option UInt32 × Option UInt32 :=
  match (splitWhen (· = ',') arguments).map fun a => Decimal.readUInt32 (trim a) with
  | [some precision] => (some precision, none)
  | [some precision, some scale] => (some precision, some scale)
  | _ => (none, none)

/-- Takes a definition apart into its name with all modifiers and its size arguments, which stand
between the first opening and the last closing parenthesis.  A blank definition and one without a
closing parenthesis after the opening one are malformed. -/
def ofDefinition? (definition : String) : Option NativeType :=
  let definition := trim definition.toList
  if definition.isEmpty then none
  else
    match cutFirst '(' definition with
    | none => some { name := String.ofList definition }
    | some (base, rest) =>
      (cutLast ')' rest).map fun (arguments, modifiers) =>
        let (precision, scale) := sizeArguments arguments
        { name := String.ofList (trim (trim base ++ ' ' :: trim modifiers)), precision, scale }

/-- The names shown in listings of the types that are understood. -/
def listed : List String :=
  ["tinyint", "smallint", "mediumint", "int", "integer", "bigint", "year", "float", "double",
    "double precision", "real", "decimal", "numeric", "dec", "fixed", "bool", "boolean", "bit",
    "char", "character", "nchar", "varchar", "character varying", "nvarchar", "tinytext", "text",
    "mediumtext", "longtext", "json", "enum", "set", "binary", "varbinary", "tinyblob", "blob",
    "mediumblob", "longblob", "geometry", "point", "linestring", "polygon", "multipoint",
    "multilinestring", "multipolygon", "geometrycollection", "date", "time", "datetime",
    "timestamp"]

end NativeType

/-- The column type of a definition, if it is well formed and its type is understood. -/
def ColumnType.ofDefinition? (definition : String) : Option ColumnType :=
  (NativeType.ofDefinition? definition).bind NativeType.columnType?

end ShardMerge
