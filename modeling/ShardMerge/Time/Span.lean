/-!
# Spans of time

Lengths of time in whole seconds and nanoseconds, as timeouts are given.

* `Span.describe` shows a span in the largest of the units `s`, `ms`, `µs` and `ns` that leaves a
  whole part, and drops the zeros at the end of the fraction.
-/

namespace ShardMerge

/-- A length of time: seconds, and nanoseconds below a second. -/
structure Span where
  seconds : UInt64
  nanos : Nat
  nanos_lt : nanos < 1000000000 := by decide
deriving DecidableEq, Repr

namespace Span

instance : Inhabited Span := ⟨{ seconds := 0, nanos := 0 }⟩

/-- A whole number of seconds. -/
def ofSeconds (n : UInt64) : Span := { seconds := n, nanos := 0 }

/-- Carries nanoseconds into seconds; nothing if the seconds overflow. -/
def carry? (seconds : UInt64) (nanos : UInt32) : Option Span :=
  let total := seconds.toNat + nanos.toNat / 1000000000
  if total < UInt64.size then
    some ⟨UInt64.ofNat total, nanos.toNat % 1000000000, Nat.mod_lt _ (by decide)⟩
  else none

/-- The length in nanoseconds. -/
def toNanos (t : Span) : Nat := t.seconds.toNat * 1000000000 + t.nanos

/-- The span of a number of nanoseconds. -/
def ofNanos (n : Nat) : Span :=
  ⟨UInt64.ofNat (n / 1000000000), n % 1000000000, Nat.mod_lt _ (by decide)⟩

instance : LE Span := ⟨fun a b => a.toNanos ≤ b.toNanos⟩

instance (a b : Span) : Decidable (a ≤ b) := inferInstanceAs (Decidable (a.toNanos ≤ b.toNanos))

/-- The decimal digits of a number with leading zeros up to a width. -/
def padded (width n : Nat) : List Char :=
  let digits := Nat.toDigits 10 n
  List.replicate (width - digits.length) '0' ++ digits

/-- A whole part and a fraction of `width` digits, without zeros at its end. -/
def describeUnit (whole width fraction : Nat) (unit : String) : String :=
  let digits := ((padded width fraction).reverse.dropWhile (· = '0')).reverse
  let tail := if fraction = 0 then "" else "." ++ String.ofList digits
  s!"{whole}{tail}{unit}"

/-- The span as messages show it. -/
def describe (t : Span) : String :=
  if t.seconds ≠ 0 then describeUnit t.seconds.toNat 9 t.nanos "s"
  else if 1000000 ≤ t.nanos then describeUnit (t.nanos / 1000000) 6 (t.nanos % 1000000) "ms"
  else if 1000 ≤ t.nanos then describeUnit (t.nanos / 1000) 3 (t.nanos % 1000) "µs"
  else describeUnit t.nanos 0 0 "ns"

instance : ToString Span := ⟨describe⟩

end Span

end ShardMerge
