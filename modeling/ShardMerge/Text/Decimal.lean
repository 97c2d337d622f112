/-!
# Decimal numbers in text

Natural numbers as settings, type arguments and version file names spell them: ASCII digits, with
leading zeros and one leading plus sign allowed.  A minus sign, a blank or a separator between
digits makes the text no number.

* `ofDigits?` reads digits alone and `readBelow` reads a number that has to stay below a limit.
* `readBelow_toString` says that the usual decimal form is read back.
-/

namespace ShardMerge.Text.Decimal

/-- The number that a non-empty run of ASCII digits stands for. -/
def ofDigits? (s : List Char) : Option Nat :=
  if s ≠ [] ∧ s.all Char.isDigit then some (Nat.ofDigitChars 10 s 0) else none

/-- Drops one leading plus sign. -/
def dropPlus : List Char → List Char
  | '+' :: r => r
  | s => s

/-- Reads a number below `limit`. -/
def readBelow (limit : Nat) (s : List Char) : Option Nat := do
  let n ← ofDigits? (dropPlus s)
  if n < limit then some n else none

/-- Reads a number of 32 bits. -/
def readUInt32 (s : List Char) : Option UInt32 :=
  (readBelow UInt32.size s).map UInt32.ofNat

/-- Reads a number of 64 bits. -/
def readUInt64 (s : List Char) : Option UInt64 :=
  (readBelow UInt64.size s).map UInt64.ofNat

theorem lt_of_readBelow {limit n : Nat} {s : List Char} (h : readBelow limit s = some n) :
    n < limit := by
  simp only [readBelow, Option.bind_eq_bind, Option.bind_eq_some_iff] at h
  obtain ⟨m, _, h⟩ := h
  split at h
  · cases h; assumption
  · cases h

theorem ofDigits?_toDigits (n : Nat) : ofDigits? (Nat.toDigits 10 n) = some n := by
  have hd : (Nat.toDigits 10 n).all Char.isDigit = true :=
    List.all_eq_true.2 fun c hc => Nat.isDigit_of_mem_toDigits (by omega) (by omega) hc
  simp [ofDigits?, hd, Nat.toDigits_ne_nil, Nat.ofDigitChars_ten_toDigits]

theorem dropPlus_toDigits (n : Nat) : dropPlus (Nat.toDigits 10 n) = Nat.toDigits 10 n := by
  cases h : Nat.toDigits 10 n with
  | nil => rfl
  | cons c r =>
    have hc : c.isDigit = true :=
      Nat.isDigit_of_mem_toDigits (b := 10) (n := n) (by omega) (by omega) (by simp [h])
    unfold dropPlus
    split
    · simp_all
    · rfl

/-- The decimal form of a number below the limit is read back. -/
theorem readBelow_toString {limit n : Nat} (h : n < limit) :
    readBelow limit (toString n).toList = some n := by
  simp [readBelow, dropPlus_toDigits, ofDigits?_toDigits, h]

end ShardMerge.Text.Decimal
