import ShardMerge.Json.Literal

/-!
# Writing JSON

* `Json.compact` writes a value in one line without blanks.
* `Json.pretty` writes each item and member on a line of its own, two spaces deeper than what
  holds it.
-/

namespace ShardMerge.Json

/-- The literals that take no lines of their own. -/
def writeAtom : Json → List Char
  | .null | .garbled => "null".toList
  | .bool true => "true".toList
  | .bool false => "false".toList
  | .natural value => (toString value.toNat).toList
  | .decimal literal => literal.toList
  | .string text => writeString text.toList
  | .array _ => "[]".toList
  | .object _ => ['\x7b', '\x7d']

mutual

/-- The compact form. -/
def writeCompact : Json → List Char
  | .array [] => writeAtom (.array [])
  | .array (item :: items) => '[' :: (writeCompact item ++ writeMoreItems items)
  | .object [] => writeAtom (.object [])
  | .object ((name, value) :: members) =>
    '\x7b' :: (writeString name.toList ++ ':' :: (writeCompact value ++ writeMoreMembers members))
  | atom => writeAtom atom

/-- The items after the first, and the closing bracket. -/
def writeMoreItems : List Json → List Char
  | [] => [']']
  | item :: items => ',' :: (writeCompact item ++ writeMoreItems items)

/-- The members after the first, and the closing brace. -/
def writeMoreMembers : List (String × Json) → List Char
  | [] => ['\x7d']
  | (name, value) :: members =>
    ',' :: (writeString name.toList ++ ':' :: (writeCompact value ++ writeMoreMembers members))

end

/-- The start of a line at a depth. -/
def newLine (depth : Nat) : List Char :=
  '\n' :: List.replicate (2 * depth) ' '

mutual

/-- The form with lines, at a depth. -/
def writePretty (depth : Nat) : Json → List Char
  | .array [] => writeAtom (.array [])
  | .array (item :: items) =>
    '[' :: (newLine (depth + 1) ++ writePretty (depth + 1) item ++ prettyMoreItems depth items)
  | .object [] => writeAtom (.object [])
  | .object ((name, value) :: members) =>
    '\x7b' :: (newLine (depth + 1) ++ writeString name.toList ++ ':' :: ' ' ::
      (writePretty (depth + 1) value ++ prettyMoreMembers depth members))
  | atom => writeAtom atom

/-- The lines of the items after the first, and the closing bracket. -/
def prettyMoreItems (depth : Nat) : List Json → List Char
  | [] => newLine depth ++ [']']
  | item :: items =>
    ',' :: (newLine (depth + 1) ++ writePretty (depth + 1) item ++ prettyMoreItems depth items)

/-- The lines of the members after the first, and the closing brace. -/
def prettyMoreMembers (depth : Nat) : List (String × Json) → List Char
  | [] => newLine depth ++ ['\x7d']
  | (name, value) :: members =>
    ',' :: (newLine (depth + 1) ++ writeString name.toList ++ ':' :: ' ' ::
      (writePretty (depth + 1) value ++ prettyMoreMembers depth members))

end

/-- A value in one line. -/
def compact (value : Json) : String := String.ofList (writeCompact value)

/-- A value over several lines, without a line break at the end. -/
def pretty (value : Json) : String := String.ofList (writePretty 0 value)

end ShardMerge.Json
