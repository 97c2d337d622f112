import ShardMerge.Text.Lowercase
import ShardMerge.Text.Split
import ShardMerge.Url.Percent
import ShardMerge.Url.Punycode

/-!
# Hosts

The hosts of URLs: names that are opaque or belong to a domain, and addresses of either version.

* `Host.readOpaque` and `Host.readDomain` read the two kinds of names; brackets hold an address.
* `DomainNames` decides how a domain is written in ASCII, which is a matter of tables that are not
  part of this library.
* `Host.write` writes an address in its shortest form.
-/

namespace ShardMerge.Url

open Text

/-- What makes a text no URL. -/
inductive UrlError where
  | emptyHost
  | invalidInternationalName
  | invalidPort
  | invalidIpv4
  | invalidIpv6
  | invalidDomainCharacter
  | missingBase
deriving DecidableEq, Repr

namespace UrlError

/-- The message of an error. -/
def message : UrlError → String
  | emptyHost => "empty host"
  | invalidInternationalName => "invalid international domain name"
  | invalidPort => "invalid port number"
  | invalidIpv4 => "invalid IPv4 address"
  | invalidIpv6 => "invalid IPv6 address"
  | invalidDomainCharacter => "invalid domain character"
  | missingBase => "relative URL without a base"

instance : ToString UrlError := ⟨message⟩

end UrlError

/-! ## Domains in ASCII -/

/-- How domains are written in ASCII. -/
class DomainNames where
  /-- The ASCII form of a domain; nothing if the domain is not valid. -/
  toAscii? : (domain : String) → Option (List Char)

/-- An ASCII form is its own ASCII form, and so are numbers with dots between them. -/
class LawfulDomainNames [DomainNames] : Prop where
  toAscii?_toAscii? {domain : String} {text : List Char}
    (h : DomainNames.toAscii? domain = some text) :
    DomainNames.toAscii? (String.ofList text) = some text
  toAscii?_numbers {text : List Char} (h : ∀ c ∈ text, c.isDigit = true ∨ c = '.') :
    DomainNames.toAscii? (String.ofList text) = some text

/-- The domain names of the program: lower case, and each label in ASCII. -/
instance (priority := low) plainDomainNames : DomainNames where
  toAscii? domain :=
    some (join ['.'] ((splitWhen (· = '.') (lowercase domain.toList)).map Label.toAscii))

/-- The host of a URL. -/
inductive Host where
  /-- A name; the empty name stands where an authority names no host. -/
  | name (text : List Char)
  | ipv4 (address : Nat)
  /-- Eight groups of 16 bits. -/
  | ipv6 (groups : List Nat)
deriving DecidableEq, Repr

namespace Host

/-! ## Addresses of version 4 -/

/-- A number with the prefixes for octal and hexadecimal. -/
def readIpv4Number? (s : List Char) : Option Nat :=
  let hex (digits : List Char) :=
    if digits.isEmpty then some 0
    else digits.foldlM (fun n c => (Json.hexValue? c).map (n * 16 + ·)) 0
  match s with
  | [] => none
  | '0' :: 'x' :: r => hex r
  | '0' :: 'X' :: r => hex r
  | '0' :: c :: r =>
    (c :: r).foldlM (fun n d => if '0' ≤ d ∧ d ≤ '7' then some (n * 8 + (d.toNat - 48)) else none) 0
  | s => if s.all Char.isDigit then some (Nat.ofDigitChars 10 s 0) else none

/-- The parts between dots, without an empty one at the end. -/
def dotted (s : List Char) : List (List Char) :=
  let parts := splitWhen (· = '.') s
  if parts.getLast? = some [] ∧ 1 < parts.length then parts.dropLast else parts

/-- The last part of a name is a number, so that the name has to be an address. -/
def endsInNumber (s : List Char) : Bool :=
  match (dotted s).getLast? with
  | none | some [] => false
  | some last => last.all Char.isDigit || (readIpv4Number? last).isSome

/-- The address of a dotted number, whose last part fills the places of those that are missing. -/
def readIpv4? (s : List Char) : Option Nat := do
  let numbers ← (dotted s).mapM readIpv4Number?
  if 4 < numbers.length then none
  else
    let last ← numbers.getLast?
    let leading := numbers.dropLast
    let places := Nat.pow 256 (4 - leading.length)
    if leading.all (· ≤ 255) ∧ last < places then
      some (leading.foldl (fun n part => n * 256 + part) 0 * places + last)
    else none

/-! ## Addresses of version 6 -/

/-- A group of one to four hexadecimal digits. -/
def readGroup? (s : List Char) : Option Nat :=
  if s.isEmpty ∨ 4 < s.length then none
  else s.foldlM (fun n c => (Json.hexValue? c).map (n * 16 + ·)) 0

/-- A decimal number below 256 without a leading zero. -/
def readByte? (s : List Char) : Option Nat :=
  if s.isEmpty ∨ !s.all Char.isDigit ∨ (s.head? = some '0' ∧ s.length ≠ 1) ∨ 3 < s.length then none
  else
    let n := Nat.ofDigitChars 10 s 0
    if n < 256 then some n else none

/-- Two groups written as four decimal numbers. -/
def readEmbedded? (s : List Char) : Option (List Nat) := do
  match ← (splitWhen (· = '.') s).mapM readByte? with
  | [a, b, c, d] => some [a * 256 + b, c * 256 + d]
  | _ => none

/-- Groups with colons between them, the last of which may be written in decimal. -/
def readGroups? : List (List Char) → Option (List Nat)
  | [] => some []
  | [last] => if last.contains '.' then readEmbedded? last else (readGroup? last).map fun n => [n]
  | group :: rest => do some ((← readGroup? group) :: (← readGroups? rest))

/-- What stands before and after the first pair of colons. -/
def cutGap : List Char → Option (List Char × List Char)
  | ':' :: ':' :: r => some ([], r)
  | [] => none
  | c :: r => (cutGap r).map fun (before, after) => (c :: before, after)

/-- The groups of one side of a gap. -/
def readSide? (s : List Char) : Option (List Nat) :=
  if s.isEmpty then some [] else readGroups? (splitWhen (· = ':') s)

/-- The eight groups of an address; a pair of colons stands for groups of zeros. -/
def readIpv6? (s : List Char) : Option (List Nat) := do
  match cutGap s with
  | none =>
    let groups ← readSide? s
    if groups.length = 8 then some groups else none
  | some (before, after) =>
    if before.contains '.' then none
    else
      let before ← readSide? before
      let after ← readSide? after
      let given := before.length + after.length
      if given < 8 then some (before ++ List.replicate (8 - given) 0 ++ after) else none

/-- The number of zeros at the front. -/
def zeroRun (groups : List Nat) : Nat := (groups.takeWhile (· = 0)).length

/-- The place and the length of the first of the longest runs of zeros. -/
def longestGap (groups : List Nat) : Nat × Nat :=
  (List.range groups.length).foldl (fun (best : Nat × Nat) i =>
    let run := zeroRun (groups.drop i)
    if best.2 < run then (i, run) else best) (0, 0)

/-- Groups with colons between them. -/
def writeGroups (groups : List Nat) : List Char :=
  join [':'] (groups.map (Nat.toDigits 16))

/-- An address with its longest run of zeros left out, if it has more than one. -/
def writeIpv6 (groups : List Nat) : List Char :=
  let (place, length) := longestGap groups
  if length < 2 then writeGroups groups
  else writeGroups (groups.take place) ++ [':', ':'] ++ writeGroups (groups.drop (place + length))

/-- The host as a URL shows it. -/
def write : Host → List Char
  | name text => text
  | ipv4 n =>
    join ['.'] ([n / 16777216, n / 65536 % 256, n / 256 % 256, n % 256].map (Nat.toDigits 10))
  | ipv6 groups => '[' :: (writeIpv6 groups ++ [']'])

/-! ## Names -/

/-- Reads an address in brackets. -/
def readBracketed (s : List Char) : Except UrlError Host :=
  match s.getLast? with
  | some ']' =>
    match readIpv6? s.dropLast with
    | some groups => .ok (.ipv6 groups)
    | none => .error .invalidIpv6
  | _ => .error .invalidIpv6

/-- The characters that no host has. -/
def forbidden : List Char :=
  [Char.ofNat 0, '\t', '\n', '\r', ' ', '#', '/', ':', '<', '>', '?', '@', '[', '\\', ']', '^', '|']

/-- Reads the host of a scheme without rules of its own, which keeps its spelling. -/
def readOpaque : List Char → Except UrlError Host
  | '[' :: r => readBracketed r
  | s =>
    if s.any forbidden.contains then .error .invalidDomainCharacter
    else .ok (.name (percentEncode .controls s))

/-- Reads a domain name or an address in its place. -/
def readDomain [DomainNames] : List Char → Except UrlError Host
  | '[' :: r => readBracketed r
  | s =>
    match (percentDecodeText? s).bind DomainNames.toAscii? with
    | none => .error .invalidInternationalName
    | some text =>
      if text.any fun c => c.toNat < 33 || 126 < c.toNat || c = '%' || forbidden.contains c then
        .error .invalidInternationalName
      else if text.isEmpty then .error .emptyHost
      else if endsInNumber text then
        match readIpv4? text with
        | some address => .ok (.ipv4 address)
        | none => .error .invalidIpv4
      else .ok (.name text)

end Host

end ShardMerge.Url
