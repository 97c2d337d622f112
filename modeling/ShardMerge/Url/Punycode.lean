/-!
# Domain labels in ASCII

How a label of a domain name with letters beyond ASCII is written in ASCII: the ASCII characters,
and then for each other character how far the scan has to go to insert it at its place.

* `Label.toAscii` writes a label, with its mark in front if it needs one.
-/

namespace ShardMerge.Url.Label

/-- The digit of base 36. -/
def digitChar (n : Nat) : Char :=
  if n < 26 then Char.ofNat (97 + n) else Char.ofNat (22 + n)

/-- Where the digit at a place ends a number. -/
def threshold (bias place : Nat) : Nat :=
  if place ≤ bias then 1 else if bias + 26 ≤ place then 26 else place - bias

/-- Halves a difference until it is small, counting the steps. -/
def damp : (fuel : Nat) → (delta count : Nat) → Nat
  | 0, _, count => count
  | fuel + 1, delta, count =>
    if 455 < delta then damp fuel (delta / 35) (count + 36) else count + 36 * delta / (delta + 38)

/-- The bias for the number after a difference. -/
def adapt (delta points : Nat) (first : Bool) : Nat :=
  let delta := if first then delta / 700 else delta / 2
  damp delta (delta + delta / points) 0

/-- Writes a difference in digits of varying weight. -/
def writeDelta (bias : Nat) : (fuel : Nat) → (place q : Nat) → List Char
  | 0, _, _ => []
  | fuel + 1, place, q =>
    let t := threshold bias place
    if q < t then [digitChar q]
    else digitChar (t + (q - t) % (36 - t)) :: writeDelta bias fuel (place + 36) ((q - t) / (36 - t))

/-- The state of the scan. -/
structure Scan where
  delta : Nat := 0
  bias : Nat := 72
  handled : Nat
  first : Bool := true
  output : List Char := []

/-- Passes one character of the label while `next` is inserted. -/
def Scan.pass (next : Nat) (s : Scan) (c : Nat) : Scan :=
  if c < next then { s with delta := s.delta + 1 }
  else if c = next then
    { delta := 0
      bias := adapt s.delta (s.handled + 1) s.first
      handled := s.handled + 1
      first := false
      output := s.output ++ writeDelta s.bias (s.delta + 1) 36 s.delta }
  else s

/-- Inserts the characters in ascending order; `done` have been inserted before. -/
def insertAll (label : List Nat) : (fuel : Nat) → (done : Nat) → Scan → Scan
  | 0, _, s => s
  | fuel + 1, done, s =>
    match (label.filter (done ≤ ·)).min? with
    | none => s
    | some next =>
      let s := { s with delta := s.delta + (next - done) * (s.handled + 1) }
      let s := label.foldl (Scan.pass next) s
      insertAll label fuel (next + 1) { s with delta := s.delta + 1 }

/-- A label in ASCII. -/
def toAscii (label : List Char) : List Char :=
  let basic := label.filter (·.toNat < 128)
  if basic.length = label.length then label
  else
    let start : Scan := { handled := basic.length }
    let rest := (insertAll (label.map Char.toNat) label.length 128 start).output
    "xn--".toList ++ (if basic.isEmpty then [] else basic ++ ['-']) ++ rest

end ShardMerge.Url.Label
