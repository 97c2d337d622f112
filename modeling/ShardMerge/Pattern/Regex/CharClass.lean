import ShardMerge.Text.Blank
import ShardMerge.Text.Unicode.Case
import ShardMerge.Text.Unicode.Digit
import ShardMerge.Text.Unicode.Word

/-!
# Character classes

The sets of characters that a regular expression describes, as expressions over ranges and
properties of Unicode.

* `CharClass.contains` decides membership.
* `CharClass.folded` closes a set under letter case: with a character it has every character of the
  same simple case folding.
-/

namespace ShardMerge

open Text

/-- An expression for a set of characters. -/
inductive CharClass where
  /-- The code points from the first to the last. -/
  | range (first last : Nat)
  /-- The characters of words. -/
  | word
  /-- The decimal digits. -/
  | digit
  /-- The white space. -/
  | blank
  | union (a b : CharClass)
  | inter (a b : CharClass)
  | diff (a b : CharClass)
  /-- The characters of exactly one of the two. -/
  | symmDiff (a b : CharClass)
  | complement (a : CharClass)
  /-- The characters that have the simple case folding of some character of the set. -/
  | folded (a : CharClass)
  /-- The same for the letters of ASCII alone. -/
  | asciiFolded (a : CharClass)
deriving DecidableEq, Repr, Inhabited

/-- The characters with the simple case folding of `c`. -/
def caseVariants (c : Char) : List Char :=
  let folding := Unicode.applyRuns Unicode.foldingRuns c.toNat
  (folding :: Unicode.foldingRuns.filterMap fun run => run.unmap? folding).map Char.ofNat

namespace CharClass

/-- Whether a character belongs to a set. -/
def contains : CharClass → Char → Bool
  | range first last, c => first ≤ c.toNat && c.toNat ≤ last
  | word, c => Unicode.isWord c
  | digit, c => Unicode.isDigit c
  | blank, c => isBlank c
  | union a b, c => a.contains c || b.contains c
  | inter a b, c => a.contains c && b.contains c
  | diff a b, c => a.contains c && !b.contains c
  | symmDiff a b, c => a.contains c != b.contains c
  | complement a, c => !a.contains c
  | folded a, c => (caseVariants c).any a.contains
  | asciiFolded a, c => a.contains c || a.contains c.toLower || a.contains c.toUpper

/-- The set of one character. -/
def single (c : Char) : CharClass := range c.toNat c.toNat

/-- The empty set. -/
def none : CharClass := range 1 0

/-- The union of sets. -/
def unions : List CharClass → CharClass
  | [] => none
  | [a] => a
  | a :: rest => union a (unions rest)

/-- The characters of words in ASCII. -/
def asciiWord : CharClass :=
  unions [range 48 57, range 65 90, range 95 95, range 97 122]

/-- The decimal digits in ASCII. -/
def asciiDigit : CharClass := range 48 57

/-- The white space in ASCII. -/
def asciiBlank : CharClass := union (range 9 13) (range 32 32)

/-- The classes of ASCII characters that have a name. -/
def ofName? : String → Option CharClass
  | "alnum" => some (unions [range 48 57, range 65 90, range 97 122])
  | "alpha" => some (union (range 65 90) (range 97 122))
  | "ascii" => some (range 0 127)
  | "blank" => some (union (range 9 9) (range 32 32))
  | "cntrl" => some (union (range 0 31) (range 127 127))
  | "digit" => some asciiDigit
  | "graph" => some (range 33 126)
  | "lower" => some (range 97 122)
  | "print" => some (range 32 126)
  | "punct" => some (unions [range 33 47, range 58 64, range 91 96, range 123 126])
  | "space" => some asciiBlank
  | "upper" => some (range 65 90)
  | "word" => some asciiWord
  | "xdigit" => some (unions [range 48 57, range 65 70, range 97 102])
  | _ => Option.none

/-- The set has no character of the upper half of the first 256, so that a set of bytes that is
given by it holds characters of ASCII alone. -/
def isAscii (a : CharClass) : Bool :=
  (List.range 128).all fun n => !a.contains (Char.ofNat (128 + n))

end CharClass

end ShardMerge
