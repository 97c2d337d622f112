import ShardMerge.Pattern.Regex.Syntax

/-!
# Matching regular expressions

Whether a regular expression matches some part of a text.  All ways to match are followed at once:
an expression takes a set of positions to the set of positions at which a match that began at one of
them can end.

* `Regex.reach` is that function, `Regex.isMatch` the search for a match anywhere in a text.
* `Regex.Spans` says what a match is, by the shape of the expression.
-/

namespace ShardMerge

open Text

namespace WordEdge

/-- The condition for whether the previous and the next character belong to words. -/
def holds (edge : WordEdge) (before after : Bool) : Bool :=
  match edge with
  | boundary => before != after
  | inside => before == after
  | start => !before && after
  | finish => before && !after
  | startHalf => !before
  | finishHalf => !after

end WordEdge

namespace Look

/-- The condition for the previous and the next character of a position. -/
def holds (condition : Look) (before after : Option Char) : Bool :=
  match condition with
  | textStart => before.isNone
  | textEnd => after.isNone
  | lineStart false => before.all (· = '\n')
  | lineEnd false => after.all (· = '\n')
  | lineStart true => before.all fun c => c = '\n' || (c = '\r' && after != some '\n')
  | lineEnd true => after.all fun c => c = '\r' || (c = '\n' && before != some '\r')
  | word edge ascii =>
    let inWord := if ascii then CharClass.asciiWord.contains else Unicode.isWord
    edge.holds (before.any inWord) (after.any inWord)

end Look

/-- The character before a position. -/
def charBefore (text : List Char) (position : Nat) : Option Char :=
  if position = 0 then none else text[position - 1]?

/-- Adds the elements of the second list that the first lacks. -/
def merge (a b : List Nat) : List Nat :=
  a ++ (b.filter fun n => !a.contains n).eraseDups

/-- Applies a step some times. -/
def steps (step : List Nat → List Nat) : Nat → List Nat → List Nat
  | 0, positions => positions
  | n + 1, positions => if positions.isEmpty then [] else steps step n (step positions)

/-- Adds what at most so many steps reach from the positions that were reached last. -/
def spread (step : List Nat → List Nat) : Nat → (reached last : List Nat) → List Nat
  | 0, reached, _ => reached
  | n + 1, reached, last =>
    let fresh := ((step last).filter fun p => !reached.contains p).eraseDups
    if fresh.isEmpty then reached else spread step n (reached ++ fresh) fresh

namespace Regex

/-- The positions at which a match that begins at one of the given positions can end.  In a text of
`n` characters `n + 1` repetitions are as good as any larger number, since at most `n` of them move
on. -/
def reach (text : List Char) : Regex → List Nat → List Nat
  | empty, positions => positions
  | one set, positions =>
    positions.filterMap fun p => if (text[p]?).any set.contains then some (p + 1) else none
  | look condition, positions =>
    positions.filter fun p => condition.holds (charBefore text p) text[p]?
  | seq first second, positions => reach text second (reach text first positions)
  | alt first second, positions => merge (reach text first positions) (reach text second positions)
  | repeated least most body, positions =>
    let enough := text.length + 1
    let start := steps (reach text body) (min least enough) positions
    let further :=
      match most with
      | none => enough
      | some most => min (most - least) enough
    spread (reach text body) further start start

/-- Whether the expression matches somewhere in the text. -/
def isMatch (r : Regex) (text : List Char) : Bool :=
  !(reach text r (List.range (text.length + 1))).isEmpty

/-- The expression matches what stands between two positions of a text. -/
inductive Spans (text : List Char) : Regex → Nat → Nat → Prop where
  | empty {p : Nat} : Spans text .empty p p
  | one {set : CharClass} {p : Nat} {c : Char} (hc : text[p]? = some c)
      (hs : set.contains c = true) : Spans text (.one set) p (p + 1)
  | look {condition : Look} {p : Nat}
      (h : condition.holds (charBefore text p) text[p]? = true) :
      Spans text (.look condition) p p
  | seq {first second : Regex} {p q r : Nat} (h₁ : Spans text first p q)
      (h₂ : Spans text second q r) : Spans text (.seq first second) p r
  | altLeft {first second : Regex} {p q : Nat} (h : Spans text first p q) :
      Spans text (.alt first second) p q
  | altRight {first second : Regex} {p q : Nat} (h : Spans text second p q) :
      Spans text (.alt first second) p q
  | stop {most : Option Nat} {body : Regex} {p : Nat} : Spans text (.repeated 0 most body) p p
  | again {least : Nat} {most : Option Nat} {body : Regex} {p q r : Nat}
      (hm : ∀ n ∈ most, 0 < n) (h₁ : Spans text body p q)
      (h₂ : Spans text (.repeated (least - 1) (most.map (· - 1)) body) q r) :
      Spans text (.repeated least most body) p r

end Regex

end ShardMerge
