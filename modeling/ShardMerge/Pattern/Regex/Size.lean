import ShardMerge.Pattern.Regex.Syntax

/-!
# The size of regular expressions

How many states an automaton for an expression takes that holds a copy of the body for each counted
repetition.  A short pattern with large counts stands for a large automaton, so patterns are refused
by this measure.

* `Regex.states` is the measure, and `Regex.mostStates` its limit.
-/

namespace ShardMerge

namespace CharClass

/-- The states for a set of characters.  A character of several bytes takes a state for each of them,
and the properties of Unicode take small automata of their own. -/
def states : CharClass → Nat
  | range first last =>
    if first = last then (Char.ofNat first).utf8Size else if last < 128 then 2 else 10
  | word => 1460
  | digit => 140
  | blank => 20
  | union a b | inter a b | diff a b | symmDiff a b => a.states + b.states
  | complement a => a.states + 30
  | folded a | asciiFolded a => a.states + 2

end CharClass

namespace Regex

/-- The expression matches no character at all. -/
def isEmptyOnly : Regex → Bool
  | empty | look _ => true
  | one _ => false
  | seq first second | alt first second => first.isEmptyOnly && second.isEmptyOnly
  | repeated _ most body => most = some 0 || body.isEmptyOnly

/-- The states for an expression.  To repeat what matches no character makes no difference, so that
takes one copy. -/
def states : Regex → Nat
  | empty | look _ => 1
  | one set => set.states
  | seq first second => first.states + second.states
  | alt first second => first.states + second.states + 1
  | repeated least most body =>
    if body.isEmptyOnly then body.states + 1
    else
      match most with
      | none => max 1 least * body.states + 1
      | some most => least * body.states + (most - least) * (body.states + 1) + 1

/-- The greatest number of states. -/
def mostStates : Nat := 327680

end Regex

end ShardMerge
