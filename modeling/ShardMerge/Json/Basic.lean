/-!
# JSON values

The values that JSON texts stand for.  Numbers matter only as natural numbers of 64 bits, which
is what every field of a record holds; any other number is kept as it is spelled.  An object keeps
its members in order, repeated names included, since whether a repetition is an error is for the
reader of a record to say.

* `Json.garbled` stands for text that has the form of a value and yet stands for none, such as a
  string with half a surrogate pair.  It may be skipped but not read.
* `Json.isWhole` says that a value can be kept as a whole: nothing in it is garbled, and arrays
  and objects are not nested too deeply.
-/

namespace ShardMerge

/-- A JSON value. -/
inductive Json where
  | null
  | bool (value : Bool)
  /-- A number without sign, fraction and exponent that fits in 64 bits. -/
  | natural (value : UInt64)
  /-- Any other number, as spelled. -/
  | decimal (literal : String)
  | string (text : String)
  | array (items : List Json)
  /-- The members in order; a name may occur again. -/
  | object (members : List (String × Json))
  /-- Text of the right form that stands for no value. -/
  | garbled
deriving Repr, Inhabited

namespace Json

/-- How deeply arrays and objects may be nested in a text that is read. -/
def maxDepth : Nat := 127

mutual

/-- Nothing is garbled, and at most `room` arrays and objects contain each other. -/
def isWhole (room : Nat) : Json → Bool
  | null | bool _ | natural _ | decimal _ | string _ => true
  | garbled => false
  | array items => 0 < room && areWhole (room - 1) items
  | object members => 0 < room && membersAreWhole (room - 1) members

/-- All items are whole. -/
def areWhole (room : Nat) : List Json → Bool
  | [] => true
  | item :: items => isWhole room item && areWhole room items

/-- All values of the members are whole. -/
def membersAreWhole (room : Nat) : List (String × Json) → Bool
  | [] => true
  | (_, value) :: members => isWhole room value && membersAreWhole room members

end

end Json

end ShardMerge
