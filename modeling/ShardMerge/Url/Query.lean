import ShardMerge.Text.Split
import ShardMerge.Url.Percent

/-!
# Queries

The names and values in the query of a URL.  Pairs have ampersands between them, a plus sign stands
for a blank, and percent signs for the bytes of any text.
-/

namespace ShardMerge.Url

open Text

/-- The text that a name or a value stands for.  Bytes that are no text are shown by the
replacement character. -/
def readFormText (s : List Char) : String :=
  let spaced := s.map fun c => if c = '+' then ' ' else c
  (percentDecodeText? spaced).getD (String.singleton (Char.ofNat 0xFFFD))

/-- One pair; without an equals sign the value is empty. -/
def readPair (s : List Char) : String × String :=
  match cutFirst '=' s with
  | some (name, value) => (readFormText name, readFormText value)
  | none => (readFormText s, "")

/-- The pairs of a query in order. -/
def queryPairs (query : List Char) : List (String × String) :=
  ((splitWhen (· = '&') query).filter fun pair => !pair.isEmpty).map readPair

end ShardMerge.Url
