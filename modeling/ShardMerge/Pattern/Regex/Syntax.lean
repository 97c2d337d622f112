import ShardMerge.Pattern.Regex.CharClass

/-!
# Regular expressions

What a regular expression means, without its spelling: flags and escapes are resolved.
-/

namespace ShardMerge

/-- Which neighbours of a position belong to words. -/
inductive WordEdge where
  /-- Exactly one of the two. -/
  | boundary
  /-- Both or neither. -/
  | inside
  /-- The next one only. -/
  | start
  /-- The previous one only. -/
  | finish
  /-- Not the previous one. -/
  | startHalf
  /-- Not the next one. -/
  | finishHalf
deriving DecidableEq, Repr

/-- A condition on a position in a text. -/
inductive Look where
  | textStart
  | textEnd
  /-- The start of a line; where `returns`, a carriage return ends a line too. -/
  | lineStart (returns : Bool)
  | lineEnd (returns : Bool)
  /-- Whether the neighbours belong to words, which have characters of ASCII alone if `ascii`. -/
  | word (edge : WordEdge) (ascii : Bool)
deriving DecidableEq, Repr

/-- A regular expression. -/
inductive Regex where
  | empty
  | one (set : CharClass)
  | look (condition : Look)
  | seq (first second : Regex)
  | alt (first second : Regex)
  /-- At least `least` and at most `most` times. -/
  | repeated (least : Nat) (most : Option Nat) (body : Regex)
deriving DecidableEq, Repr, Inhabited

end ShardMerge
