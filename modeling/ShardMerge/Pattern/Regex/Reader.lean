import ShardMerge.Pattern.Regex.Part
import ShardMerge.Pattern.Regex.Size

/-!
# Reading regular expressions

How the parts of a pattern make an expression: alternatives, repetitions, groups with and without
names and flags.

* `Regex.read?` reads a pattern of any size, and `Regex.ofText?` one that is within the limits.
* `PatternReader.take` adds one part to what has been read.  What is open is kept as a stack of
  scopes, one for each group.
-/

namespace ShardMerge

open Text

/-- A part of an alternative. -/
structure PatternItem where
  node : Nested Regex
  /-- A repetition may follow, as it may not after a change of flags. -/
  repeatable : Bool := true

/-- The pattern, or a group of it, that is being read. -/
structure PatternScope where
  flags : PatternFlags := {}
  /-- The alternatives that are finished, the last one first. -/
  branches : List (Nested Regex) := []
  /-- The parts of the open alternative, the last one first. -/
  items : List PatternItem := []

namespace PatternScope

/-- Adds a part. -/
def add (s : PatternScope) (node : Nested Regex) : PatternScope :=
  { s with items := { node } :: s.items }

/-- Changes the flags for what follows. -/
def change (s : PatternScope) (flags : PatternFlags) : PatternScope :=
  { s with flags, items := { node := { value := .empty }, repeatable := false } :: s.items }

/-- The open alternative. -/
def branch (s : PatternScope) : Nested Regex :=
  match s.items with
  | [] => { value := .empty }
  | [item] => item.node
  | last :: items =>
    { value := items.foldl (fun tail item => .seq item.node.value tail) last.node.value
      depth := s.items.foldl (fun depth item => max depth item.node.depth) 0 + 1 }

/-- Begins another alternative. -/
def nextBranch (s : PatternScope) : PatternScope :=
  { s with branches := s.branch :: s.branches, items := [] }

/-- All alternatives. -/
def finish (s : PatternScope) : Nested Regex :=
  let last := s.branch
  match s.branches with
  | [] => last
  | branches =>
    { value := branches.foldl (fun tail b => .alt b.value tail) last.value
      depth := branches.foldl (fun depth b => max depth b.depth) last.depth + 1 }

/-- Repeats the last part. -/
def repeatLast (s : PatternScope) (least : Nat) (most : Option Nat) : Option PatternScope :=
  match s.items with
  | [] => none
  | item :: items =>
    if item.repeatable then
      some ({ s with items }.add
        { value := .repeated least most item.node.value, depth := item.node.depth + 1 })
    else none

end PatternScope

/-- What has been read of a pattern. -/
structure PatternReader where
  scope : PatternScope := {}
  /-- The scopes around it, the innermost first. -/
  outer : List PatternScope := []
  /-- The names of groups. -/
  names : List (List Char) := []

namespace PatternReader

/-- Before anything is read of a pattern that can name some properties of characters. -/
def start (property? : List Char → Option CharClass) : PatternReader :=
  { scope := { flags := { property? } } }

/-- Opens a group. -/
def openGroup (p : PatternReader) (flags : PatternFlags) : PatternReader :=
  { p with scope := { flags }, outer := p.scope :: p.outer }

/-- Opens a group with a name, which no other group has. -/
def openNamed (p : PatternReader) (flags : PatternFlags) (name : List Char) :
    Option PatternReader :=
  if p.names.contains name then none
  else some ({ p with names := name :: p.names }.openGroup flags)

/-- Closes the innermost group. -/
def closeGroup (p : PatternReader) : Option PatternReader :=
  match p.outer with
  | [] => none
  | scope :: outer =>
    let node := p.scope.finish
    some { p with scope := scope.add { node with depth := node.depth + 1 }, outer }

/-- Adds a part to what has been read. -/
def take (p : PatternReader) : PatternPart → Option PatternReader
  | .node node => some { p with scope := p.scope.add node }
  | .opening flags none => some (p.openGroup flags)
  | .opening flags (some name) => p.openNamed flags name
  | .closing => p.closeGroup
  | .change flags => some { p with scope := p.scope.change flags }
  | .bar => some { p with scope := p.scope.nextBranch }
  | .repetition least most => (p.scope.repeatLast least most).map fun scope => { p with scope }

/-- Reads the rest of a pattern. -/
def run : (fuel : Nat) → PatternReader → List Char → Option PatternReader
  | 0, _, _ => none
  | fuel + 1, p, s =>
    match p.scope.flags.skip s with
    | [] => some p
    | c :: r => do
      let (part, rest) ← PatternPart.read p.scope.flags c r
      run fuel (← p.take part) rest

/-- How deeply the parts of a pattern may be nested. -/
def maxDepth : Nat := 250

end PatternReader

namespace Regex

/-- Reads a pattern of any size, in which all groups are closed.  Each part takes at least one
character. -/
def read? (property? : List Char → Option CharClass) (pattern : List Char) :
    Option (Nested Regex) := do
  let p ← PatternReader.run (pattern.length + 1) (.start property?) pattern
  if p.outer.isEmpty then some p.scope.finish else none

/-- Reads a pattern that is neither too deep nor too large. -/
def ofText? (property? : List Char → Option CharClass) (pattern : List Char) : Option Regex := do
  let whole ← read? property? pattern
  if whole.depth ≤ PatternReader.maxDepth ∧ whole.value.states ≤ mostStates then some whole.value
  else none

end Regex

end ShardMerge
