import ShardMerge.Change.Wire
import ShardMerge.Text.Split

/-!
# Feeds of events

A feed holds one event in each line.  Blank lines are passed over, and one line that is no event
makes the whole feed unreadable.
-/

namespace ShardMerge

open Text

/-- Lines with their numbers, the first of which is `n`. -/
def numberFrom (n : Nat) : List (List Char) → List (Nat × List Char)
  | [] => []
  | line :: rest => (n, line) :: numberFrom (n + 1) rest

/-- Reads one line of a feed. -/
def ChangeEvent.ofLine (number : Nat) (line : List Char) : Except Error ChangeEvent :=
  match Json.readText? (String.ofList line) with
  | some event => .ok event
  | none => .error (.serialization s!"Invalid schema change event on line {number}")

/-- Reads the events of a feed in order. -/
def ChangeEvent.ofFeed (text : String) : Except Error (List ChangeEvent) :=
  ((numberFrom 1 (lines text.toList)).filter fun (_, line) => !isBlankText line).mapM
    fun (number, line) => ChangeEvent.ofLine number line

end ShardMerge
