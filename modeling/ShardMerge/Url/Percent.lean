import ShardMerge.Json.Literal

/-!
# Percent encoding

How characters that may not stand in a part of a URL are written there: each byte of their UTF-8
form as a percent sign and two hexadecimal digits.

* `PercentSet` names the characters that a part does not allow; no part allows a control character
  or one outside of ASCII.
* `percentEncode` and `percentDecode` go back and forth.
-/

namespace ShardMerge.Url

/-- The printable characters of ASCII that are encoded in a part of a URL. -/
abbrev PercentSet := List Char

namespace PercentSet

/-- Where only control characters are encoded. -/
def controls : PercentSet := []

/-- In a fragment. -/
def fragment : PercentSet := [' ', '"', '<', '>', '\x60']

/-- In a query. -/
def query : PercentSet := [' ', '"', '#', '<', '>']

/-- In the query of a scheme with rules of its own. -/
def specialQuery : PercentSet := '\'' :: query

/-- In a path. -/
def path : PercentSet := fragment ++ ['#', '?', '\x7b', '\x7d']

/-- In a user name and in a password. -/
def userinfo : PercentSet := path ++ ['/', ':', ';', '=', '@', '[', '\\', ']', '^', '|']

end PercentSet

/-- The two hexadecimal digits of a byte, in upper case. -/
def hexByte (b : UInt8) : List Char :=
  let digit (n : Nat) := (Nat.digitChar n).toUpper
  [digit (b.toNat / 16), digit (b.toNat % 16)]

/-- How one character is written. -/
def percentEncodeChar (set : PercentSet) (c : Char) : List Char :=
  if c.toNat < 32 ∨ 126 < c.toNat ∨ set.contains c then
    (String.utf8EncodeChar c).flatMap fun b => '%' :: hexByte b
  else [c]

/-- How a text is written. -/
def percentEncode (set : PercentSet) (s : List Char) : List Char :=
  s.flatMap (percentEncodeChar set)

/-- The bytes that a text stands for.  A percent sign without two digits stands for itself. -/
def percentDecode : List Char → List UInt8
  | [] => []
  | '%' :: a :: b :: r =>
    match Json.hexValue? a, Json.hexValue? b with
    | some x, some y => UInt8.ofNat (16 * x + y) :: percentDecode r
    | _, _ => '%'.toUInt8 :: percentDecode (a :: b :: r)
  | c :: r => String.utf8EncodeChar c ++ percentDecode r

/-- The text of a sequence of bytes, if it is UTF-8. -/
def textOfBytes? (bytes : List UInt8) : Option String :=
  String.fromUTF8? ⟨bytes.toArray⟩

/-- The text that a part of a URL stands for, if its bytes are UTF-8. -/
def percentDecodeText? (s : List Char) : Option String :=
  textOfBytes? (percentDecode s)

end ShardMerge.Url
