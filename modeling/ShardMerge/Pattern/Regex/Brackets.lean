import ShardMerge.Pattern.Regex.Escape
import ShardMerge.Text.Split

/-!
# Brackets in regular expressions

The sets of characters that stand in brackets: single characters, ranges, escapes, the names of
ASCII classes, nested brackets, and the operators `&&`, `--` and `~~` between them, which are read
from left to right.

* `Brackets.read` reads a set whose opening bracket has been taken.
-/

namespace ShardMerge

open Text

namespace Brackets

/-- An operator between sets. -/
inductive SetOperator where
  | inter
  | diff
  | symmDiff

/-- Combines two sets, each closed under letter case first if that is asked for. -/
def SetOperator.apply (operator : SetOperator) (flags : PatternFlags) (a b : Nested CharClass) :
    Nested CharClass :=
  let x := flags.fold a.value
  let y := flags.fold b.value
  let value :=
    match operator with
    | inter => .inter x y
    | diff => .diff x y
    | symmDiff => .symmDiff x y
  { value, depth := max a.depth b.depth + 1 }

/-- A set that is being read. -/
structure OpenSet where
  /-- What stands before the last operator. -/
  left : Option (Nested CharClass × SetOperator) := none
  /-- What stands after it, the last item first. -/
  items : List (Nested CharClass) := []

namespace OpenSet

/-- The union of the items after the last operator. -/
def right (s : OpenSet) : Nested CharClass :=
  match s.items with
  | [] => { value := .none }
  | [item] => item
  | items =>
    { value := .unions (items.reverse.map Nested.value)
      depth := items.foldl (fun depth item => max depth item.depth) 0 + 1 }

/-- The set that has been read. -/
def value (flags : PatternFlags) (s : OpenSet) : Nested CharClass :=
  match s.left with
  | none => s.right
  | some (left, operator) => operator.apply flags left s.right

/-- Adds an item. -/
def add (s : OpenSet) (item : Nested CharClass) : OpenSet :=
  { s with items := item :: s.items }

/-- Begins the right side of an operator. -/
def operate (flags : PatternFlags) (operator : SetOperator) (s : OpenSet) : OpenSet :=
  { left := some (s.value flags, operator) }

end OpenSet

/-- A character or a class between brackets. -/
inductive SetItem where
  | char (c : Char)
  | set (a : CharClass)

/-- The set of an item. -/
def SetItem.toClass : SetItem → CharClass
  | char c => .single c
  | set a => a

/-- The item for an escape, which may not be a condition. -/
def SetItem.ofEscape? : Escape → Option SetItem
  | .char c => some (.char c)
  | .set a => some (.set a)
  | .byte | .look _ => none

/-- Takes a character or a class. -/
def takeItem (flags : PatternFlags) : List Char → Option (SetItem × List Char)
  | [] => none
  | '\\' :: r => do
    let (escape, rest) ← Escape.read flags r
    (SetItem.ofEscape? escape).map fun item => (item, rest)
  | c :: r => if flags.unicode ∨ c.toNat < 128 then some (.char c, r) else none

/-- The range from a character to a character that is not below it. -/
def SetItem.range? : SetItem → SetItem → Option CharClass
  | .char a, .char b => if a ≤ b then some (.range a.toNat b.toNat) else none
  | _, _ => none

/-- Takes the end of a range. -/
def takeRangeEnd (flags : PatternFlags) (first : SetItem) (s : List Char) :
    Option (CharClass × List Char) := do
  let (last, rest) ← takeItem flags s
  (first.range? last).map fun range => (range, rest)

/-- What follows a minus sign, if it makes a range.  It does not if it ends the set or begins an
operator. -/
def openRange? (flags : PatternFlags) : List Char → Option (List Char)
  | '-' :: r =>
    let r := flags.skip r
    if r.head? = some ']' ∨ r.head? = some '-' then none else some r
  | _ => none

/-- Takes the end of the range that an item begins, if it begins one. -/
def finishRange (flags : PatternFlags) (first : SetItem) (s : List Char) :
    Option (CharClass × List Char) :=
  let s := flags.skip s
  match openRange? flags s with
  | some r => takeRangeEnd flags first r
  | none => some (first.toClass, s)

/-- Takes an item or a range. -/
def takeRange (flags : PatternFlags) (s : List Char) : Option (CharClass × List Char) := do
  let (first, rest) ← takeItem flags s
  finishRange flags first rest

/-- Takes the mark of a negation. -/
def takeCaret : List Char → Bool × List Char
  | '^' :: r => (true, r)
  | s => (false, s)

/-- Takes the closing bracket after the name of an ASCII class. -/
def closeName (negated : Bool) (name : List Char) :
    List Char → Option ((Bool × CharClass) × List Char)
  | ']' :: r => (CharClass.ofName? (String.ofList name)).map fun a => ((negated, a), r)
  | _ => none

/-- Takes the name of an ASCII class between colons, whose opening bracket has been taken, and
whether it is negated. -/
def takeName : List Char → Option ((Bool × CharClass) × List Char)
  | ':' :: r => do
    let (negated, r) := takeCaret r
    let (name, rest) ← cutFirst ':' r
    closeName negated name rest
  | _ => none

/-- Closes a set under letter case, then negates it. -/
def finish (flags : PatternFlags) (negated : Bool) (a : CharClass) : Option CharClass :=
  if negated then flags.complement? (flags.fold a) else some (flags.fold a)

/-- Takes the minus signs at the start of a set, which stand for themselves, and a closing bracket
if it comes first. -/
def takeLeading (flags : PatternFlags) (inComment : Bool) (acc : OpenSet) :
    List Char → OpenSet × List Char
  | [] => (acc, [])
  | c :: r =>
    match flags.skipped? inComment c with
    | some inComment => takeLeading flags inComment acc r
    | none =>
      if c = '-' then takeLeading flags false (acc.add { value := .single '-' }) r
      else if c = ']' ∧ acc.items.isEmpty then (acc.add { value := .single ']' }, r)
      else (acc, c :: r)

mutual

/-- Reads a set whose opening bracket has been taken. -/
def read (flags : PatternFlags) : (fuel : Nat) → List Char → Option (Nested CharClass × List Char)
  | 0, _ => none
  | fuel + 1, s => do
    let (negated, s) := takeCaret (flags.skip s)
    let (leading, s) := takeLeading flags false {} s
    let (inner, rest) ← readMore flags fuel leading s
    let value ← finish flags negated inner.value
    some ({ value, depth := inner.depth + 1 }, rest)

/-- Reads the rest of a set and its closing bracket. -/
def readMore (flags : PatternFlags) : (fuel : Nat) → OpenSet → List Char →
    Option (Nested CharClass × List Char)
  | 0, _, _ => none
  | fuel + 1, acc, s =>
    match flags.skip s with
    | [] => none
    | ']' :: rest => some (acc.value flags, rest)
    | '[' :: r =>
      match takeName r with
      | some ((negated, a), rest) => do
        let value ← finish flags negated a
        readMore flags fuel (acc.add { value }) rest
      | none => do
        let (inner, rest) ← read flags fuel r
        readMore flags fuel (acc.add inner) rest
    | '&' :: '&' :: r => readMore flags fuel (acc.operate flags .inter) r
    | '-' :: '-' :: r => readMore flags fuel (acc.operate flags .diff) r
    | '~' :: '~' :: r => readMore flags fuel (acc.operate flags .symmDiff) r
    | s => do
      let (value, rest) ← takeRange flags s
      readMore flags fuel (acc.add { value }) rest

end

end Brackets

end ShardMerge
