import ShardMerge.Json.Basic
import ShardMerge.Text.Quoted

/-!
# JSON strings and numbers

How strings are escaped, and which texts are numbers.

* `writeString` escapes the quote, the backslash and the control characters, nothing else.
* `readString` and `readNumber` take a literal from the front of a text.
-/

namespace ShardMerge.Json

open Text

/-! ## Strings -/

/-- The last four hexadecimal digits of a number below 256. -/
def fourHexDigits (n : Nat) : List Char :=
  ['0', '0', Nat.digitChar (n / 16), Nat.digitChar (n % 16)]

/-- How one character of a string is written. -/
def escapeChar (c : Char) : List Char :=
  if c = '"' then ['\\', '"']
  else if c = '\\' then ['\\', '\\']
  else if c = '\n' then ['\\', 'n']
  else if c = '\r' then ['\\', 'r']
  else if c = '\t' then ['\\', 't']
  else if c.toNat = 8 then ['\\', 'b']
  else if c.toNat = 12 then ['\\', 'f']
  else if c.toNat < 32 then '\\' :: 'u' :: fourHexDigits c.toNat
  else [c]

/-- A string literal. -/
def writeString (s : List Char) : List Char :=
  '"' :: (s.flatMap escapeChar ++ ['"'])

/-- The value of a hexadecimal digit in either case. -/
def hexValue? (c : Char) : Option Nat :=
  if c.isDigit then some (c.toNat - '0'.toNat)
  else if 'a' ≤ c ∧ c ≤ 'f' then some (c.toNat - 'a'.toNat + 10)
  else if 'A' ≤ c ∧ c ≤ 'F' then some (c.toNat - 'A'.toNat + 10)
  else none

/-- The code unit that four hexadecimal digits stand for. -/
def codeUnit? (a b c d : Char) : Option Nat := do
  let a ← hexValue? a
  let b ← hexValue? b
  let c ← hexValue? c
  let d ← hexValue? d
  some (((a * 16 + b) * 16 + c) * 16 + d)

/-- The character that a one-letter escape stands for. -/
def unescape? (c : Char) : Option Char :=
  if c = '"' ∨ c = '\\' ∨ c = '/' then some c
  else if c = 'n' then some '\n'
  else if c = 'r' then some '\r'
  else if c = 't' then some '\t'
  else if c = 'b' then some (Char.ofNat 8)
  else if c = 'f' then some (Char.ofNat 12)
  else none

/-- The first half of a surrogate pair. -/
def isHighSurrogate (n : Nat) : Bool := 0xD800 ≤ n && n < 0xDC00

/-- The second half of a surrogate pair. -/
def isLowSurrogate (n : Nat) : Bool := 0xDC00 ≤ n && n < 0xE000

/-- The characters that code units stand for, where a surrogate pair is one character and half a
pair is none. -/
def ofCodeUnits? : List Nat → Option (List Char)
  | [] => some []
  | n :: r =>
    if isHighSurrogate n then
      match r with
      | m :: r' =>
        if isLowSurrogate m then
          (ofCodeUnits? r').map (Char.ofNat (0x10000 + (n - 0xD800) * 0x400 + (m - 0xDC00)) :: ·)
        else none
      | [] => none
    else if isLowSurrogate n then none
    else (ofCodeUnits? r).map (Char.ofNat n :: ·)

/-- Takes code units up to the closing quote, and gives what follows the quote. -/
def takeCodeUnits : List Char → Option (List Nat × List Char)
  | [] => none
  | '"' :: r => some ([], r)
  | '\\' :: 'u' :: a :: b :: c :: d :: r => do
    let unit ← codeUnit? a b c d
    let (units, rest) ← takeCodeUnits r
    some (unit :: units, rest)
  | '\\' :: c :: r => do
    let c ← unescape? c
    let (units, rest) ← takeCodeUnits r
    some (c.toNat :: units, rest)
  | c :: r =>
    if c.toNat < 32 ∨ c = '\\' then none
    else do
      let (units, rest) ← takeCodeUnits r
      some (c.toNat :: units, rest)

/-- Takes a string whose opening quote has been taken.  The text is missing if the string holds
half a surrogate pair. -/
def readString (s : List Char) : Option (Option String × List Char) := do
  let (units, rest) ← takeCodeUnits s
  some ((ofCodeUnits? units).map String.ofList, rest)

/-! ## Numbers -/

/-- A number as spelled: the digits before and after the point and the exponent. -/
structure NumberLiteral where
  negative : Bool
  whole : List Char
  fraction : List Char
  /-- The sign and the digits of the exponent. -/
  exponent : Option (Bool × List Char)
deriving Repr

namespace NumberLiteral

/-- The greatest exponent of ten that a floating point number has. -/
def maxExponent : Nat := 308

/-- The number is beyond the floating point numbers, which end halfway between the greatest of
them and the next power of two. -/
def isTooLarge (n : NumberLiteral) : Bool :=
  let digits := (n.whole ++ n.fraction).dropWhile (· = '0')
  let magnitude : Int :=
    match n.exponent with
    | none => 0
    | some (negative, e) =>
      let e := e.dropWhile (· = '0')
      -- An exponent of many digits decides alone; reading it would take a power of ten.
      let size : Int := if 12 < e.length then 1000000000000 else (Nat.ofDigitChars 10 e 0 : Nat)
      if negative then -size else size
  let scale : Int := magnitude - n.fraction.length
  if digits.isEmpty then false
  else if (maxExponent + 1 : Int) < digits.length + scale then true
  else if digits.length + scale ≤ maxExponent then false
  else
    -- The number has exactly one digit more than the greatest exponent.
    let value := Nat.ofDigitChars 10 digits 0
    let limit := Nat.pow 2 1024 - Nat.pow 2 970
    if 0 ≤ scale then limit ≤ value * Nat.pow 10 scale.toNat else limit * Nat.pow 10 (-scale).toNat ≤ value

/-- The spelling. -/
def text (n : NumberLiteral) : String :=
  let exponent :=
    match n.exponent with
    | none => []
    | some (negative, digits) => 'e' :: (if negative then '-' :: digits else digits)
  String.ofList ((if n.negative then ['-'] else []) ++ n.whole ++
    (if n.fraction.isEmpty then [] else '.' :: n.fraction) ++ exponent)

/-- The value of a number. -/
def toJson (n : NumberLiteral) : Json :=
  let natural? := do
    if n.negative ∨ n.fraction ≠ [] ∨ n.exponent.isSome then none
    else
      let value := Nat.ofDigitChars 10 n.whole 0
      if value < UInt64.size then some (UInt64.ofNat value) else none
  match natural? with
  | some value => .natural value
  | none => if n.isTooLarge then .garbled else .decimal n.text

end NumberLiteral

/-- Splits off the leading digits. -/
def takeDigits (s : List Char) : List Char × List Char :=
  (s.takeWhile Char.isDigit, s.dropWhile Char.isDigit)

/-- Takes the digits before the point, which begin with a zero only if it is the only one. -/
def takeWhole (s : List Char) : Option (List Char × List Char) :=
  match s with
  | '0' :: r => some (['0'], r)
  | _ =>
    let (digits, rest) := takeDigits s
    if digits.isEmpty then none else some (digits, rest)

/-- Takes a fraction if a point follows. -/
def takeFraction : List Char → Option (List Char × List Char)
  | '.' :: r =>
    let (digits, rest) := takeDigits r
    if digits.isEmpty then none else some (digits, rest)
  | s => some ([], s)

/-- Takes an exponent if its letter follows. -/
def takeExponent : List Char → Option (Option (Bool × List Char) × List Char)
  | [] => some (none, [])
  | c :: r =>
    if c = 'e' ∨ c = 'E' then
      let (negative, r) :=
        match r with
        | '+' :: r => (false, r)
        | '-' :: r => (true, r)
        | r => (false, r)
      let (digits, rest) := takeDigits r
      if digits.isEmpty then none else some (some (negative, digits), rest)
    else some (none, c :: r)

/-- Takes a number. -/
def readNumber (s : List Char) : Option (NumberLiteral × List Char) := do
  let (negative, s) :=
    match s with
    | '-' :: r => (true, r)
    | s => (false, s)
  let (whole, s) ← takeWhole s
  let (fraction, s) ← takeFraction s
  let (exponent, s) ← takeExponent s
  some ({ negative, whole, fraction, exponent }, s)

end ShardMerge.Json
