import ShardMerge.Pattern.Regex.Brackets
import ShardMerge.Text.Decimal

/-!
# The parts of regular expressions

A pattern is read part by part.  What a part is depends on the flags alone, not on what stands
before it: single characters, sets, dots and assertions are expressions, and the other parts open,
close or change something that has been read.  There is no looking around and no referring back.

* `PatternPart.read` reads a part.
-/

namespace ShardMerge

open Text

/-- A part of a pattern. -/
inductive PatternPart where
  /-- An expression of its own. -/
  | node (node : Nested Regex)
  /-- The start of a group, which may have a name. -/
  | opening (flags : PatternFlags) (name : Option (List Char))
  /-- The end of a group. -/
  | closing
  /-- A change of the flags. -/
  | change (flags : PatternFlags)
  /-- The mark between alternatives. -/
  | bar
  /-- The repetition of what stands before it. -/
  | repetition (least : Nat) (most : Option Nat)

namespace PatternPart

/-! ## Groups -/

/-- Takes flags up to a colon, after which a group begins, or a closing parenthesis. -/
def takeFlags : (flags : PatternFlags) → (seen : List Char) → (negative dangling : Bool) →
    List Char → Option (PatternPart × List Char)
  | _, _, _, _, [] => none
  | flags, seen, negative, dangling, c :: r =>
    if c = ':' ∨ c = ')' then
      if dangling then none
      else if c = ':' then some (.opening flags none, r)
      else if seen.isEmpty then none
      else some (.change flags, r)
    else if c = '-' then
      if negative then none else takeFlags flags seen true true r
    else if seen.contains c then none
    else do takeFlags (← flags.set? c !negative) (c :: seen) negative false r

/-- The characters of group names. -/
def isNameChar (first : Bool) (c : Char) : Bool :=
  if first then c = '_' || (Unicode.isWord c && !Unicode.isDigit c)
  else Unicode.isWord c || c = '.' || c = '[' || c = ']'

/-- The names that groups may have. -/
def isGroupName : List Char → Bool
  | [] => false
  | c :: r => isNameChar true c && r.all (isNameChar false)

/-- Takes the name of a group and the mark after it. -/
def takeGroupName (flags : PatternFlags) (s : List Char) : Option (PatternPart × List Char) := do
  let (name, rest) ← cutFirst '>' s
  if isGroupName name then some (.opening flags (some name), rest) else none

/-- Reads what follows an opening parenthesis.  The marks of looking around are refused, since they
are neither names nor flags. -/
def readGroup (flags : PatternFlags) (s : List Char) : Option (PatternPart × List Char) :=
  match flags.skip s with
  | '?' :: 'P' :: '<' :: r => takeGroupName flags r
  | '?' :: '<' :: r => takeGroupName flags r
  | '?' :: r => takeFlags flags [] false false r
  | s => some (.opening flags none, s)

/-! ## Repetitions -/

/-- Takes the digits of a number, between which blanks may be skipped. -/
def takeDigits (flags : PatternFlags) (inComment : Bool) : List Char → List Char × List Char
  | [] => ([], [])
  | c :: r =>
    match flags.skipped? inComment c with
    | some inComment => takeDigits flags inComment r
    | none =>
      if c.isDigit then
        let (digits, rest) := takeDigits flags false r
        (c :: digits, rest)
      else ([], c :: r)

/-- Takes a count with blanks around it. -/
def takeCount (flags : PatternFlags) (s : List Char) : Option (Nat × List Char) := do
  let (digits, rest) := takeDigits flags false (s.dropWhile isBlank)
  let count ← Decimal.readBelow UInt32.size digits
  some (count, flags.skip (rest.dropWhile isBlank))

/-- Drops the mark of a lazy repetition. -/
def dropLazyMark : List Char → List Char
  | '?' :: r => r
  | s => s

/-- Reads the greatest count, if there is one, after the least. -/
def readMost (flags : PatternFlags) (least : Nat) (s : List Char) :
    Option (Option Nat × List Char) :=
  match s with
  | ',' :: r =>
    let r := flags.skip r
    if r.head? = some '\x7d' then some (none, r)
    else (takeCount flags r).map fun (most, rest) => (some most, rest)
  | s => some (some least, s)

/-- Reads the closing brace after the counts, the second of which is not below the first. -/
def closeCounts (flags : PatternFlags) (least : Nat) (most : Option Nat) :
    List Char → Option (PatternPart × List Char)
  | '\x7d' :: r =>
    if most.all (least ≤ ·) then some (.repetition least most, dropLazyMark (flags.skip r))
    else none
  | _ => none

/-- Reads what follows an opening brace: one count or two. -/
def readCounts (flags : PatternFlags) (s : List Char) : Option (PatternPart × List Char) := do
  let (least, s) ← takeCount flags (flags.skip s)
  let (most, s) ← readMost flags least s
  closeCounts flags least most s

/-! ## All parts -/

/-- The part for a set of characters. -/
def one (set : CharClass) : PatternPart := .node { value := .one set }

/-- The part for a condition. -/
def look (condition : Look) : PatternPart := .node { value := .look condition }

/-- The characters that a dot matches. -/
def dotClass (flags : PatternFlags) : CharClass :=
  if flags.dotAll then .range 0 0x10FFFF
  else if flags.returns then .complement (.union (.single '\n') (.single '\r'))
  else .complement (.single '\n')

/-- What an escape stands for. -/
def ofEscape? (flags : PatternFlags) : Escape → Option PatternPart
  | .char c => some (one (flags.fold (.single c)))
  | .byte => none
  | .set a => some (one a)
  | .look condition => some (look condition)

/-- Reads what an escape stands for. -/
def readEscape (flags : PatternFlags) (s : List Char) : Option (PatternPart × List Char) := do
  let (escape, rest) ← Escape.read flags s
  (ofEscape? flags escape).map fun part => (part, rest)

/-- Reads a set in brackets. -/
def readSet (flags : PatternFlags) (s : List Char) : Option (PatternPart × List Char) :=
  (Brackets.read flags (2 * s.length + 2) s).map fun (set, rest) =>
    (.node { value := .one set.value, depth := set.depth }, rest)

/-- A part that takes nothing more. -/
def alone (part : PatternPart) (r : List Char) : Option (PatternPart × List Char) :=
  some (part, r)

/-- A repetition that takes no more than the mark of a lazy one. -/
def repeats (least : Nat) (most : Option Nat) (r : List Char) : Option (PatternPart × List Char) :=
  some (.repetition least most, dropLazyMark r)

/-- Reads the part that begins with a character. -/
def read (flags : PatternFlags) (c : Char) : List Char → Option (PatternPart × List Char) :=
  match c with
  | '(' => readGroup flags
  | ')' => alone .closing
  | '|' => alone .bar
  | '[' => readSet flags
  | '?' => repeats 0 (some 1)
  | '*' => repeats 0 none
  | '+' => repeats 1 none
  | '\x7b' => readCounts flags
  | '\\' => readEscape flags
  | '.' => if flags.unicode then alone (one (dotClass flags)) else fun _ => none
  | '^' => alone (look (if flags.multiLine then .lineStart flags.returns else .textStart))
  | '$' => alone (look (if flags.multiLine then .lineEnd flags.returns else .textEnd))
  | c => alone (one (flags.fold (.single c)))

end PatternPart

end ShardMerge
