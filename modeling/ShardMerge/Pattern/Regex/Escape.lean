import ShardMerge.Pattern.Regex.Syntax
import ShardMerge.Json.Literal

/-!
# Flags and escapes of regular expressions

The parts of the notation that stand outside and inside of brackets alike.

* `PatternFlags` are the settings that `(?i)` and its like change.
* `readEscape` reads what follows a backslash.
-/

namespace ShardMerge

open Text

/-- The settings under which a part of a pattern is read. -/
structure PatternFlags where
  /-- Letters match in either case. -/
  ignoreCase : Bool := false
  /-- `^` and `$` match at the ends of lines. -/
  multiLine : Bool := false
  /-- A dot matches a line feed. -/
  dotAll : Bool := false
  /-- A repetition is lazy unless it is marked, which makes no difference to whether it matches. -/
  swapGreed : Bool := false
  /-- Classes and letter case are those of Unicode, not of ASCII. -/
  unicode : Bool := true
  /-- A carriage return ends a line. -/
  returns : Bool := false
  /-- Blanks and comments are skipped. -/
  verbose : Bool := false
  /-- The properties of characters that a pattern can name. -/
  property? : List Char → Option CharClass := fun _ => none

namespace PatternFlags

/-- Drops blanks and comments, which end with their line. -/
def dropSpace (inComment : Bool) : List Char → List Char
  | [] => []
  | c :: r =>
    if inComment then dropSpace (c ≠ '\n') r
    else if isBlank c then dropSpace false r
    else if c = '#' then dropSpace true r
    else c :: r

/-- Drops what is skipped under the flags. -/
def skip (flags : PatternFlags) (s : List Char) : List Char :=
  if flags.verbose then dropSpace false s else s

/-- Whether a character is skipped, and if it is, whether a comment is open after it. -/
def skipped? (flags : PatternFlags) (inComment : Bool) (c : Char) : Option Bool :=
  if inComment then some (c ≠ '\n')
  else if flags.verbose ∧ isBlank c then some false
  else if flags.verbose ∧ c = '#' then some true
  else none

/-- Sets the flag of a letter. -/
def set? (flags : PatternFlags) (letter : Char) (value : Bool) : Option PatternFlags :=
  match letter with
  | 'i' => some { flags with ignoreCase := value }
  | 'm' => some { flags with multiLine := value }
  | 's' => some { flags with dotAll := value }
  | 'U' => some { flags with swapGreed := value }
  | 'u' => some { flags with unicode := value }
  | 'R' => some { flags with returns := value }
  | 'x' => some { flags with verbose := value }
  | _ => none

/-- Closes a set under letter case if that is asked for. -/
def fold (flags : PatternFlags) (a : CharClass) : CharClass :=
  if flags.ignoreCase then if flags.unicode then .folded a else .asciiFolded a else a

/-- The complement of a set.  Without Unicode it would hold single bytes, which are no text. -/
def complement? (flags : PatternFlags) (a : CharClass) : Option CharClass :=
  let complement := CharClass.complement a
  if flags.unicode ∨ complement.isAscii then some complement else none

end PatternFlags

/-- Something read from a pattern, with how deeply its parts are nested. -/
structure Nested (α : Type) where
  value : α
  depth : Nat := 0

/-- What an escape stands for. -/
inductive Escape where
  | char (c : Char)
  /-- A byte that is no character by itself. -/
  | byte
  | set (a : CharClass)
  | look (condition : Look)

namespace Escape

/-- The characters that have a meaning of their own in patterns. -/
def marks : List Char :=
  ['\\', '.', '+', '*', '?', '(', ')', '|', '[', ']', '\x7b', '\x7d', '^', '$', '#', '&', '-', '~']

/-- A backslash makes the character stand for itself. -/
def standsForItself (c : Char) : Bool :=
  marks.contains c || (c.toNat < 128 && !c.isAlphanum && c != '<' && c != '>')

/-- The scalar value of a number. -/
def scalar? (n : Nat) : Option Char :=
  if h : n.isValidChar then some (Char.ofNatAux n h) else none

/-- Takes a number of hexadecimal digits, between which blanks may be skipped. -/
def takeHex (flags : PatternFlags) : (count : Nat) → (value : Nat) → List Char →
    Option (Nat × List Char)
  | 0, value, s => some (value, s)
  | count + 1, value, s =>
    match flags.skip s with
    | [] => none
    | c :: r => do
      let digit ← Json.hexValue? c
      takeHex flags count (value * 16 + digit) r

/-- The value of hexadecimal digits, unless it is far beyond all characters. -/
def hexNumber? (digits : List Char) : Option Nat :=
  digits.foldlM (fun value c => do
    let digit ← Json.hexValue? c
    let value := value * 16 + digit
    if value < UInt32.size then some value else none) 0

/-- Takes what stands before a closing brace.  What is skipped is no part of it, so a brace in a
comment closes nothing. -/
def takeBraced (flags : PatternFlags) (inComment : Bool) :
    List Char → Option (List Char × List Char)
  | [] => none
  | c :: r =>
    match flags.skipped? inComment c with
    | some inComment => takeBraced flags inComment r
    | none =>
      if c = '\x7d' then some ([], r)
      else (takeBraced flags false r).map fun (inner, rest) => (c :: inner, rest)

/-- Takes the number of a character: so many digits, or any between braces. -/
def takeScalar (flags : PatternFlags) (count : Nat) (s : List Char) : Option (Escape × List Char) :=
  match flags.skip s with
  | '\x7b' :: r => do
    let (digits, rest) ← takeBraced flags false r
    if digits.isEmpty then none
    else
      let c ← scalar? (← hexNumber? digits)
      some (.char c, flags.skip rest)
  | r => do
    let (value, rest) ← takeHex flags count 0 r
    let c ← scalar? value
    let escape := if !flags.unicode ∧ count = 2 ∧ 128 ≤ value then .byte else .char c
    some (escape, flags.skip rest)

/-- A class given by its letter; the capital letter stands for the complement. -/
def letterClass? (flags : PatternFlags) (letter : Char) : Option CharClass :=
  let choose (wide narrow : CharClass) := if flags.unicode then wide else narrow
  match letter with
  | 'd' => some (choose .digit .asciiDigit)
  | 's' => some (choose .blank .asciiBlank)
  | 'w' => some (choose .word .asciiWord)
  | 'D' => flags.complement? (choose .digit .asciiDigit)
  | 'S' => flags.complement? (choose .blank .asciiBlank)
  | 'W' => flags.complement? (choose .word .asciiWord)
  | _ => none

/-- A property given by its name; the capital letter stands for the complement. -/
def property? (flags : PatternFlags) (negated : Bool) (name : List Char) : Option Escape := do
  let a ← flags.property? name
  let a := flags.fold a
  if flags.unicode then some (.set (if negated then .complement a else a)) else none

/-- Takes the name of a property: one character, or any between braces. -/
def takeProperty (flags : PatternFlags) (negated : Bool) (s : List Char) :
    Option (Escape × List Char) :=
  match flags.skip s with
  | '\x7b' :: r => do
    let (name, rest) ← takeBraced flags false r
    (property? flags negated name).map fun escape => (escape, rest)
  | c :: r =>
    if c = '\\' then none
    else (property? flags negated [c]).map fun escape => (escape, flags.skip r)
  | [] => none

/-- The letters of the names of word edges. -/
def isEdgeChar (c : Char) : Bool := c.isAlpha || c = '-'

/-- The word edge of a name. -/
def edge? : String → Option WordEdge
  | "start" => some .start
  | "end" => some .finish
  | "start-half" => some .startHalf
  | "end-half" => some .finishHalf
  | _ => none

/-- What follows an opening brace, if it begins the name of a word edge.  Braces around anything else
belong to a repetition. -/
def openEdge? (flags : PatternFlags) : List Char → Option (List Char)
  | '\x7b' :: r =>
    let r := flags.skip r
    if r.head?.any isEdgeChar then some r else none
  | _ => none

/-- Reads the name of a word edge between braces, if one follows. -/
def readEdge (flags : PatternFlags) (s : List Char) : Option (WordEdge × List Char) :=
  match openEdge? flags s with
  | some r => do
    let (name, rest) ← takeBraced flags false r
    (edge? (String.ofList name)).map fun edge => (edge, rest)
  | none => some (.boundary, s)

/-- What a letter stands for by itself. -/
def ofLetter? (flags : PatternFlags) (letter : Char) : Option Escape :=
  match letter with
  | 'a' => some (.char (Char.ofNat 7))
  | 'f' => some (.char (Char.ofNat 12))
  | 't' => some (.char '\t')
  | 'n' => some (.char '\n')
  | 'r' => some (.char '\r')
  | 'v' => some (.char (Char.ofNat 11))
  | 'A' => some (.look .textStart)
  | 'z' => some (.look .textEnd)
  | 'B' => some (.look (.word .inside !flags.unicode))
  | '<' => some (.look (.word .start !flags.unicode))
  | '>' => some (.look (.word .finish !flags.unicode))
  | _ => (letterClass? flags letter).map .set

/-- Reads what follows a backslash. -/
def read (flags : PatternFlags) : List Char → Option (Escape × List Char)
  | [] => none
  | c :: r =>
    if c = 'x' then takeScalar flags 2 r
    else if c = 'u' then takeScalar flags 4 r
    else if c = 'U' then takeScalar flags 8 r
    else if c = 'p' ∨ c = 'P' then takeProperty flags (c = 'P') r
    else if c = 'b' then
      (readEdge flags r).map fun (edge, rest) => (.look (.word edge !flags.unicode), rest)
    else if standsForItself c then some (.char c, r)
    else (ofLetter? flags c).map fun escape => (escape, r)

end Escape

end ShardMerge
