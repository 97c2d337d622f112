/-!
# Column types

The types that a column of a source table or of a target table can have.  Sizes are machine
words: a bit width, a decimal precision and a scale are bytes, and a length has 32 bits.
-/

namespace ShardMerge

/-- The type of a source or target column. -/
inductive ColumnType where
  /-- A signed integer of a fixed width. -/
  | integer (bits : UInt8)
  /-- A floating point number. -/
  | float (bits : UInt8)
  /-- Characters; no length means unbounded. -/
  | string (maxLength : Option UInt32)
  /-- Bytes; no length means unbounded. -/
  | binary (maxLength : Option UInt32)
  /-- A fixed-point decimal. -/
  | decimal (precision scale : UInt8)
  /-- True or false. -/
  | boolean
  /-- A calendar date. -/
  | date
  /-- A time of day. -/
  | time
  /-- A point in time, with or without a time zone. -/
  | timestamp (withTimezone : Bool)
deriving DecidableEq, Repr, Inhabited

/-- The families within which one type can be wider than another. -/
inductive TypeFamily where
  | string
  | binary
  | integer
  | float
  | decimal
  /-- The types that are only as wide as themselves. -/
  | other
deriving DecidableEq, Repr

namespace ColumnType

/-- Characters of any number. -/
def text : ColumnType := .string none

/-- Bytes of any number. -/
def bytes : ColumnType := .binary none

/-- The family of a type. -/
def family : ColumnType → TypeFamily
  | string _ => .string
  | binary _ => .binary
  | integer _ => .integer
  | float _ => .float
  | decimal _ _ => .decimal
  | boolean | date | time | timestamp _ => .other

/-- The name of a type in messages and listings.  The widths that databases name have names, every
other width is written as a number. -/
def describe : ColumnType → String
  | integer bits =>
    if bits = 8 then "TINYINT"
    else if bits = 16 then "SMALLINT"
    else if bits = 32 then "INT"
    else if bits = 64 then "BIGINT"
    else s!"INT{bits}"
  | float bits =>
    if bits = 32 then "FLOAT"
    else if bits = 64 then "DOUBLE"
    else s!"FLOAT{bits}"
  | string (some length) => s!"VARCHAR({length})"
  | string none => "STRING"
  | binary (some length) => s!"BINARY({length})"
  | binary none => "BYTES"
  | decimal precision scale => s!"DECIMAL({precision}, {scale})"
  | boolean => "BOOLEAN"
  | date => "DATE"
  | time => "TIME"
  | timestamp false => "TIMESTAMP"
  | timestamp true => "TIMESTAMP WITH TIME ZONE"

instance : ToString ColumnType := ⟨describe⟩

end ColumnType

/-- The name of a family. -/
def TypeFamily.describe : TypeFamily → String
  | .string => "String"
  | .binary => "Binary"
  | .integer => "Integer"
  | .float => "Float"
  | .decimal => "Decimal"
  | .other => "Other"

end ShardMerge
