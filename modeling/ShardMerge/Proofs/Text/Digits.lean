import ShardMerge.Text.Decimal
import ShardMerge.Proofs.Text.Cut

/-!
# Digits

A run of digits is no blank, has no mark in it, and is read as the number that it stands for if that
is small enough.

* `ofDigits?_eq_some_iff` says what a run of digits is.
* `readBelow_digits` reads it, `trim_digits` and `splitWhen_digits` say that nothing is cut off.
-/

namespace ShardMerge.Text

theorem ne_of_isDigit {c d : Char} (hc : c.isDigit = true) (hd : d.isDigit = false) : c ≠ d := by
  rintro rfl
  rw [hc] at hd
  cases hd

theorem toNat_of_isDigit {c : Char} (h : c.isDigit = true) : 48 ≤ c.toNat ∧ c.toNat ≤ 57 := by
  simp only [Char.isDigit, Bool.and_eq_true, decide_eq_true_eq, UInt32.le_iff_toNat_le] at h
  exact h

/-- A digit is not a blank. -/
theorem isBlank_of_isDigit {c : Char} (h : c.isDigit = true) : isBlank c = false := by
  obtain ⟨hlow, hhigh⟩ := toNat_of_isDigit h
  simp only [isBlank, Bool.or_eq_false_iff, Bool.and_eq_false_iff, decide_eq_false_iff_not,
    beq_eq_false_iff_ne]
  omega

namespace Decimal

variable {digits : List Char} {n limit : Nat}

theorem ofDigits?_eq_some_iff :
    ofDigits? digits = some n ↔
      digits ≠ [] ∧ (∀ c ∈ digits, c.isDigit = true) ∧ Nat.ofDigitChars 10 digits 0 = n := by
  simp [ofDigits?, and_assoc]

theorem ofDigits?_toString (n : Nat) : ofDigits? (toString n).toList = some n := by
  rw [Nat.toString_eq_ofList_toDigits, String.toList_ofList, ofDigits?_toDigits]

theorem dropPlus_digits (hdigits : ∀ c ∈ digits, c.isDigit = true) : dropPlus digits = digits := by
  unfold dropPlus
  split
  · exact absurd (hdigits '+' List.mem_cons_self) (by decide)
  · rfl

/-- A number that is too large for its width is not read. -/
theorem readBelow_digits (h : ofDigits? digits = some n) (limit : Nat) :
    readBelow limit digits = if n < limit then some n else none := by
  obtain ⟨_, hdigits, _⟩ := ofDigits?_eq_some_iff.1 h
  rw [readBelow, dropPlus_digits hdigits, h]
  rfl

theorem readUInt32_digits (h : ofDigits? digits = some n) :
    readUInt32 digits = if n < UInt32.size then some (UInt32.ofNat n) else none := by
  rw [readUInt32, readBelow_digits h]
  split <;> rfl

end Decimal

variable {digits : List Char}

theorem trim_digits (hdigits : ∀ c ∈ digits, c.isDigit = true) : trim digits = digits :=
  trim_eq_self (fun c hc => isBlank_of_isDigit (hdigits c (List.mem_of_mem_head? hc)))
    fun c hc => isBlank_of_isDigit (hdigits c (List.mem_of_getLast? hc))

theorem splitWhen_digits {mark : Char} (hmark : mark.isDigit = false)
    (hdigits : ∀ c ∈ digits, c.isDigit = true) : splitWhen (· = mark) digits = [digits] :=
  splitWhen_eq_singleton fun c hc => decide_eq_false (ne_of_isDigit (hdigits c hc) hmark)

end ShardMerge.Text
