import ShardMerge.Dict
import ShardMerge.Json.Parser
import ShardMerge.Json.Printer

/-!
# JSON forms of records

How the values of the library are read from JSON and written to it.

* `JsonForm` pairs a writer with a reader.  `Json.readText?` reads a text.
* A record is written as an object.  `Json.slots?` also takes an array of its fields in order, skips
  members that it does not know, and refuses a repeated one.
* A variant is a record with a tag.  `Json.variant?` takes the tag off and leaves the rest.
-/

namespace ShardMerge

/-- Types whose values have a JSON form. -/
class JsonForm (α : Type) where
  toJson : α → Json
  /-- Reads a value in which at most `room` arrays and objects contain each other. -/
  ofJson? : (room : Nat) → Json → Option α

export JsonForm (toJson)

namespace Json

/-- Reads a text. -/
def readText? {α : Type} [JsonForm α] (text : String) : Option α :=
  (parse? text.toList).bind (JsonForm.ofJson? maxDepth)

/-! ## Records -/

/-- What a text gives for one field of a record. -/
inductive Slot where
  | present (value : Json)
  /-- The object has no member of that name. -/
  | omitted
  /-- The array ended before the field. -/
  | cutOff

namespace Slot

variable {α : Type} [JsonForm α]

/-- A field that has to be there. -/
def required? (room : Nat) : Slot → Option α
  | present value => JsonForm.ofJson? room value
  | omitted | cutOff => none

/-- A field that stands for a default when it is not there. -/
def orElse? (default : α) (room : Nat) : Slot → Option α
  | present value => JsonForm.ofJson? room value
  | omitted | cutOff => some default

/-- A field that an object may leave out, and that may be null. -/
def optional? (room : Nat) : Slot → Option (Option α)
  | present .null => some none
  | present value => (JsonForm.ofJson? room value).map some
  | omitted => some none
  | cutOff => none

end Slot

/-- The member of a name; nothing if the name occurs again. -/
def slot? (members : List (String × Json)) (name : String) : Option Slot :=
  match members.filter fun member => member.1 = name with
  | [] => some .omitted
  | [(_, value)] => some (.present value)
  | _ => none

/-- The fields at the front of an array, as many as there are names; nothing if items are left. -/
def positional? : List String → List Json → Option (List Slot)
  | [], [] => some []
  | [], _ :: _ => none
  | _ :: names, [] => (positional? names []).map (.cutOff :: ·)
  | _ :: names, item :: items => (positional? names items).map (.present item :: ·)

/-- The fields of a record in the order of their names, from an object or from an array. -/
def slots? (names : List String) (room : Nat) : Json → Option (List Slot)
  | object members => if room = 0 then none else names.mapM (slot? members)
  | array items => if room = 0 then none else positional? names items
  | _ => none

/-! ## Variants -/

/-- Splits a tagged value into its tag and the rest of its fields.  The tag is a member anywhere in
an object or the first item of an array. -/
def splitTag? (tag : String) : Json → Option (Json × Json)
  | object members =>
    match members.filter fun member => member.1 = tag with
    | [(_, value)] => some (value, .object (members.filter fun member => member.1 ≠ tag))
    | _ => none
  | array (item :: items) => some (item, .array items)
  | _ => none

/-- The name of a variant, given by itself or, where `numbered`, by its place among the names. -/
def variantName? (names : List String) (numbered : Bool) : Json → Option String
  | string name => if names.contains name then some name else none
  | natural n => if numbered then names[n.toNat]? else none
  | _ => none

/-- The variant that a tagged value names, and the rest of its fields.  The whole value is kept
before the variant is known, so that all of it has to be readable. -/
def variant? (tag : String) (names : List String) (numbered : Bool) (room : Nat) (value : Json) :
    Option (String × Json) := do
  if value.isWhole room then
    let (name, rest) ← splitTag? tag value
    let name ← variantName? names numbered name
    some (name, rest)
  else none

/-- A variant without fields and without a tag: its name, or an object with the name and null. -/
def plainVariant? (names : List String) (room : Nat) : Json → Option String
  | string name => if names.contains name then some name else none
  | object [(name, null)] => if room ≠ 0 ∧ names.contains name then some name else none
  | _ => none

end Json

/-! ## Values without fields -/

open Json

instance : JsonForm String where
  toJson := .string
  ofJson? _
    | .string text => some text
    | _ => none

instance : JsonForm Bool where
  toJson := .bool
  ofJson? _
    | .bool value => some value
    | _ => none

/-- A number below `limit`. -/
def Json.below? (limit : Nat) : Json → Option Nat
  | .natural n => if n.toNat < limit then some n.toNat else none
  | _ => none

instance : JsonForm UInt8 where
  toJson n := .natural n.toUInt64
  ofJson? _ json := (json.below? UInt8.size).map UInt8.ofNat

instance : JsonForm UInt16 where
  toJson n := .natural n.toUInt64
  ofJson? _ json := (json.below? UInt16.size).map UInt16.ofNat

instance : JsonForm UInt32 where
  toJson n := .natural n.toUInt64
  ofJson? _ json := (json.below? UInt32.size).map UInt32.ofNat

instance : JsonForm UInt64 where
  toJson := .natural
  ofJson? _
    | .natural n => some n
    | _ => none

instance {α : Type} [JsonForm α] : JsonForm (Option α) where
  toJson
    | none => .null
    | some value => toJson value
  ofJson? room
    | .null => some none
    | json => (JsonForm.ofJson? room json).map some

instance {α : Type} [JsonForm α] : JsonForm (List α) where
  toJson items := .array (items.map toJson)
  ofJson? room
    | .array items => if room = 0 then none else items.mapM (JsonForm.ofJson? (room - 1))
    | _ => none

instance {α : Type} [JsonForm α] : JsonForm (Dict α) where
  toJson d := .object (d.entries.map fun (key, value) => (key, toJson value))
  ofJson? room
    | .object members =>
      if room = 0 then none
      else
        (members.mapM fun member =>
          (JsonForm.ofJson? (room - 1) member.2).map fun (value : α) => (member.1, value)).map
          Dict.ofList
    | _ => none

end ShardMerge
