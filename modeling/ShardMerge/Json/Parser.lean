import ShardMerge.Json.Literal

/-!
# Reading JSON

The strict grammar: no comments, no commas at the end, no leading zeros, and four blanks only.

* `Json.parse?` reads a text that is one value.
-/

namespace ShardMerge.Json

/-- The blanks between the parts of a text. -/
def isBlank (c : Char) : Bool :=
  c = ' ' || c = '\t' || c = '\n' || c = '\r'

/-- Drops leading blanks. -/
def dropBlanks (s : List Char) : List Char := s.dropWhile isBlank

/-- The members as an object, or garbled if a name is. -/
def ofMembers (members : List (Option String × Json)) : Json :=
  match members.mapM fun (name, value) => name.map fun name => (name, value) with
  | some members => .object members
  | none => .garbled

mutual

/-- Takes a value after blanks.  Each call uses one of `fuel`. -/
def readValue : (fuel : Nat) → List Char → Option (Json × List Char)
  | 0, _ => none
  | fuel + 1, s =>
    match dropBlanks s with
    | [] => none
    | 'n' :: 'u' :: 'l' :: 'l' :: r => some (.null, r)
    | 't' :: 'r' :: 'u' :: 'e' :: r => some (.bool true, r)
    | 'f' :: 'a' :: 'l' :: 's' :: 'e' :: r => some (.bool false, r)
    | '"' :: r =>
      (readString r).map fun (text, rest) =>
        (match text with
          | some text => .string text
          | none => .garbled, rest)
    | '[' :: r =>
      match dropBlanks r with
      | ']' :: rest => some (.array [], rest)
      | r => (readItems fuel r).map fun (items, rest) => (.array items, rest)
    | '\x7b' :: r =>
      match dropBlanks r with
      | '\x7d' :: rest => some (.object [], rest)
      | r => (readMembers fuel r).map fun (members, rest) => (ofMembers members, rest)
    | s => (readNumber s).map fun (number, rest) => (number.toJson, rest)

/-- Takes the items of an array that has at least one, and its closing bracket. -/
def readItems : (fuel : Nat) → List Char → Option (List Json × List Char)
  | 0, _ => none
  | fuel + 1, s => do
    let (item, s) ← readValue fuel s
    match dropBlanks s with
    | ',' :: r => (readItems fuel r).map fun (items, rest) => (item :: items, rest)
    | ']' :: rest => some ([item], rest)
    | _ => none

/-- Takes the members of an object that has at least one, and its closing brace. -/
def readMembers : (fuel : Nat) → List Char → Option (List (Option String × Json) × List Char)
  | 0, _ => none
  | fuel + 1, s => do
    match dropBlanks s with
    | '"' :: r => do
      let (name, s) ← readString r
      match dropBlanks s with
      | ':' :: r => do
        let (value, s) ← readValue fuel r
        match dropBlanks s with
        | ',' :: r => (readMembers fuel r).map fun (members, rest) => ((name, value) :: members, rest)
        | '\x7d' :: rest => some ([(name, value)], rest)
        | _ => none
      | _ => none
    | _ => none

end

/-- Reads a text that is one value with blanks around it.  A value, an item or a member takes at
least one character, so two calls for each character are enough. -/
def parse? (s : List Char) : Option Json :=
  match readValue (2 * s.length + 2) s with
  | some (value, rest) => if (dropBlanks rest).isEmpty then some value else none
  | none => none

end ShardMerge.Json
