import Mathlib.Algebra.Order.Field.Rat
import Mathlib.Algebra.Order.Ring.Abs
import Mathlib.Tactic.FieldSimp
import Mathlib.Tactic.Positivity
import Mathlib.Tactic.Ring
import ShardMerge.Column.Widening

/-!
# Values of column types

What the columns of a type can hold, and whether a wider type loses any of it.

* `ColumnType.Holds` says which values are values of a type.  Floating point types are left aside.
* `holds_integer_mono`, `holds_string_mono` and `holds_binary_mono` are the families in which a
  wider type holds all that a narrower one does.
* `decimal_holds_all_iff` is the family in which this can fail.  Of two decimals of one precision
  the one with the greater scale has fewer digits before the point, so what counts is the number of
  these.
* `fitsIn_cases` takes the order apart, and `lossless_iff` covers all types.
  `lossless_fails_price` is what a decimal can lose.
-/

namespace ShardMerge

/-- A value of a column. -/
inductive ColumnValue where
  | integer (n : ℤ)
  | decimal (q : ℚ)
  | string (text : List Char)
  | binary (bytes : List UInt8)
  | boolean (b : Bool)
  /-- A date as a number of days. -/
  | date (days : ℤ)
  /-- A time of day in nanoseconds. -/
  | time (nanos : ℕ)
  /-- A point in time in nanoseconds. -/
  | timestamp (withTimezone : Bool) (nanos : ℤ)

namespace ColumnType

/-- The values of a type.  No value is said to be one of a floating point type. -/
def Holds : ColumnType → ColumnValue → Prop
  | integer bits, .integer n =>
    bits ≠ 0 ∧ -2 ^ (bits.toNat - 1) ≤ n ∧ n < 2 ^ (bits.toNat - 1)
  | decimal precision scale, .decimal q =>
    ∃ m : ℤ, q = m / 10 ^ scale.toNat ∧ |m| < 10 ^ precision.toNat
  | string maxLength, .string text => ∀ length ∈ maxLength, text.length ≤ length.toNat
  | binary maxLength, .binary bytes => ∀ length ∈ maxLength, bytes.length ≤ length.toNat
  | boolean, .boolean _ | date, .date _ | time, .time _ => True
  | timestamp zone, .timestamp zone' _ => zone = zone'
  | _, _ => False

/-- The outer decimal has as many digits before the point as the inner one, unless the inner one has
no digits at all.  Other types have no digits to compare. -/
def KeepsWholeDigits : (inner outer : ColumnType) → Prop
  | decimal p s, decimal p' s' => p = 0 ∨ p.toNat + s'.toNat ≤ p'.toNat + s.toNat
  | _, _ => True

/-! ## Families in which nothing is lost -/

theorem holds_integer_mono {a b : UInt8} (h : a ≤ b) {v : ColumnValue}
    (hv : (integer a).Holds v) : (integer b).Holds v := by
  cases v with
  | integer n =>
    obtain ⟨hne, hlow, hhigh⟩ := hv
    have hle : a.toNat ≤ b.toNat := UInt8.le_iff_toNat_le.1 h
    have hpos : a.toNat ≠ 0 := fun hzero => hne (UInt8.toNat_inj.1 hzero)
    have hpow : (2 : ℤ) ^ (a.toNat - 1) ≤ 2 ^ (b.toNat - 1) :=
      pow_le_pow_right₀ (by decide) (Nat.sub_le_sub_right hle 1)
    refine ⟨fun hzero => hpos ?_, by omega, by omega⟩
    rw [hzero] at hle
    exact Nat.le_zero.1 hle
  | _ => exact hv.elim

/-- A length within a bound is within every wider one. -/
theorem length_le_of_lengthFits {a b : Option UInt32} (h : lengthFits a b = true) {n : ℕ}
    (hn : ∀ length ∈ a, n ≤ length.toNat) : ∀ length ∈ b, n ≤ length.toNat := by
  intro length hlength
  cases hlength
  cases a with
  | none => cases h
  | some inner =>
    have hle : inner ≤ length := by simpa [lengthFits] using h
    exact (hn inner rfl).trans (UInt32.le_iff_toNat_le.1 hle)

theorem holds_string_mono {a b : Option UInt32} (h : lengthFits a b = true) {v : ColumnValue}
    (hv : (string a).Holds v) : (string b).Holds v := by
  cases v with
  | string text => exact length_le_of_lengthFits h hv
  | _ => exact hv.elim

theorem holds_binary_mono {a b : Option UInt32} (h : lengthFits a b = true) {v : ColumnValue}
    (hv : (binary a).Holds v) : (binary b).Holds v := by
  cases v with
  | binary bytes => exact length_le_of_lengthFits h hv
  | _ => exact hv.elim

/-! ## Decimals -/

/-- The same decimal with more digits after the point. -/
theorem div_ten_pow_eq (m : ℤ) {s s' : ℕ} (h : s ≤ s') :
    (m : ℚ) / 10 ^ s = ((m * 10 ^ (s' - s) : ℤ) : ℚ) / 10 ^ s' := by
  have hpow : (10 : ℚ) ^ s' = 10 ^ s * 10 ^ (s' - s) := by rw [← pow_add, Nat.add_sub_cancel' h]
  rw [hpow]
  push_cast
  field_simp

/-- All numbers of so many digits, moved to the left, have at most so many digits. -/
theorem shifted_lt_iff {p p' d : ℕ} :
    (∀ m : ℤ, |m| < 10 ^ p → |m * 10 ^ d| < 10 ^ p') ↔ p = 0 ∨ p + d ≤ p' := by
  have habs (m : ℤ) : |m * 10 ^ d| = |m| * 10 ^ d := by
    rw [abs_mul, abs_of_pos (by positivity : (0 : ℤ) < 10 ^ d)]
  constructor
  · intro h
    by_contra hnot
    push Not at hnot
    obtain ⟨hp, hlt⟩ := hnot
    obtain ⟨q, rfl⟩ := Nat.exists_eq_succ_of_ne_zero hp
    -- A one with zeros behind it has all the digits.
    have hone : |(10 : ℤ) ^ q| < 10 ^ (q + 1) := by
      rw [abs_of_pos (by positivity)]
      exact pow_lt_pow_right₀ (by decide) (Nat.lt_succ_self q)
    have hmoved := h (10 ^ q) hone
    rw [habs, abs_of_pos (by positivity), ← pow_add] at hmoved
    have hle : (10 : ℤ) ^ p' ≤ 10 ^ (q + d) := pow_le_pow_right₀ (by decide) (by omega)
    omega
  · intro h m hm
    rw [habs]
    rcases h with rfl | hle
    · have hzero : |m| = 0 := by
        have := abs_nonneg m
        rw [pow_zero] at hm
        omega
      rw [hzero, zero_mul]
      positivity
    · calc
        |m| * 10 ^ d < 10 ^ p * 10 ^ d := by gcongr
        _ = 10 ^ (p + d) := (pow_add _ _ _).symm
        _ ≤ 10 ^ p' := pow_le_pow_right₀ (by decide) hle

/-- What a decimal with more digits after the point holds of another one. -/
theorem decimal_holds_iff {p' s s' : UInt8} (hs : s ≤ s') (m : ℤ) :
    (decimal p' s').Holds (.decimal (m / 10 ^ s.toNat)) ↔
      |m * 10 ^ (s'.toNat - s.toNat)| < 10 ^ p'.toNat := by
  have hscale := div_ten_pow_eq m (UInt8.le_iff_toNat_le.1 hs)
  constructor
  · intro h
    obtain ⟨m', heq, hlt⟩ := h
    rw [hscale, div_left_inj' (by positivity)] at heq
    rw [Int.cast_inj.1 heq]
    exact hlt
  · intro h
    exact ⟨_, hscale, h⟩

/-- A decimal with more digits after the point holds all that another one does exactly if it has as
many digits before the point. -/
theorem decimal_holds_all_iff {p p' s s' : UInt8} (hs : s ≤ s') :
    (∀ v, (decimal p s).Holds v → (decimal p' s').Holds v) ↔
      (decimal p s).KeepsWholeDigits (decimal p' s') := by
  have hle := UInt8.le_iff_toNat_le.1 hs
  have hzero : p.toNat = 0 ↔ p = 0 := by rw [← UInt8.toNat_inj]; rfl
  have hsum : p.toNat + (s'.toNat - s.toNat) ≤ p'.toNat ↔
      p.toNat + s'.toNat ≤ p'.toNat + s.toNat := by omega
  rw [KeepsWholeDigits, ← hzero, ← hsum, ← shifted_lt_iff]
  constructor
  · intro h m hm
    exact (decimal_holds_iff hs m).1 (h _ ⟨m, rfl, hm⟩)
  · intro h v hv
    cases v with
    | decimal q =>
      obtain ⟨m, rfl, hm⟩ := hv
      exact (decimal_holds_iff hs m).2 (h m hm)
    | _ => exact hv.elim

/-! ## All types -/

/-- A type fits in itself and in the wider ones of its family. -/
theorem fitsIn_cases {a b : ColumnType} (h : a.fitsIn b = true) :
    a = b ∨
      (∃ bits bits', a = integer bits ∧ b = integer bits' ∧ bits ≤ bits') ∨
      (∃ bits bits', a = float bits ∧ b = float bits') ∨
      (∃ m n, a = string m ∧ b = string n ∧ lengthFits m n = true) ∨
      (∃ m n, a = binary m ∧ b = binary n ∧ lengthFits m n = true) ∨
      ∃ p s p' s', a = decimal p s ∧ b = decimal p' s' ∧ s ≤ s' := by
  cases a <;> cases b <;> simp_all [fitsIn]

theorem keepsWholeDigits_refl (a : ColumnType) : a.KeepsWholeDigits a := by
  cases a <;> simp [KeepsWholeDigits]

/-- A type loses nothing in another one in which it fits exactly if that one keeps the digits before
the point. -/
theorem holds_all_iff_of_fitsIn {a b : ColumnType} (hfloat : a.family ≠ .float)
    (h : a.fitsIn b = true) : (∀ v, a.Holds v → b.Holds v) ↔ a.KeepsWholeDigits b := by
  rcases fitsIn_cases h with rfl | ⟨_, _, rfl, rfl, hbits⟩ | ⟨_, _, rfl, rfl⟩ |
    ⟨_, _, rfl, rfl, hlength⟩ | ⟨_, _, rfl, rfl, hlength⟩ | ⟨_, _, _, _, rfl, rfl, hscale⟩
  · exact iff_of_true (fun _ hv => hv) (keepsWholeDigits_refl a)
  · exact iff_of_true (fun _ => holds_integer_mono hbits) trivial
  · exact absurd rfl hfloat
  · exact iff_of_true (fun _ => holds_string_mono hlength) trivial
  · exact iff_of_true (fun _ => holds_binary_mono hlength) trivial
  · exact decimal_holds_all_iff hscale

/-- Types of different families, and types that are only as wide as themselves, share no value. -/
theorem not_holds_of_ne {a b : ColumnType} (hne : a ≠ b)
    (h : a.family ≠ b.family ∨ a.family = .other) {v : ColumnValue} (ha : a.Holds v) :
    ¬b.Holds v := by
  intro hb
  cases a <;> cases v <;> first | exact ha.elim | skip
  all_goals cases b <;> first | exact hb.elim | skip
  -- What is left are equal kinds, of which only timestamps can differ.
  case timestamp.timestamp.timestamp => exact hne (congrArg timestamp (ha.trans hb.symm))
  all_goals simp [family] at hne h

/-- Wherever a type fits, it loses nothing as long as digits before the point are kept, which only a
decimal can fail to do; and types that do not compare by their kind share no value. -/
theorem lossless_iff (a b : ColumnType) :
    (a.family ≠ .float → a.fitsIn b = true →
      ((∀ v, a.Holds v → b.Holds v) ↔ a.KeepsWholeDigits b)) ∧
    (a ≠ b → a.family ≠ b.family ∨ a.family = .other → ∀ v, a.Holds v → ¬b.Holds v) :=
  ⟨holds_all_iff_of_fitsIn, fun hne hkinds _ => not_holds_of_ne hne hkinds⟩

theorem lossless_iff_price :
    (decimal 10 2).fitsIn (decimal 12 4) = true ∧
      (∀ v, (decimal 10 2).Holds v → (decimal 12 4).Holds v) ∧
        ∀ v, (timestamp true).Holds v → ¬(timestamp false).Holds v := by
  have hfits : (decimal 10 2).fitsIn (decimal 12 4) = true := by decide
  have hkeeps : (decimal 10 2).KeepsWholeDigits (decimal 12 4) := .inr (by decide)
  exact ⟨hfits, ((lossless_iff _ _).1 (by decide) hfits).2 hkeeps,
    (lossless_iff _ _).2 (by decide) (.inr rfl)⟩

/-- A price with eight digits before the point fits in a type that has room for six of them. -/
theorem lossless_fails_price :
    (decimal 10 2).fitsIn (decimal 10 4) = true ∧
      (decimal 10 2).Holds (.decimal (9999999999 / 10 ^ 2)) ∧
        ¬(decimal 10 4).Holds (.decimal (9999999999 / 10 ^ 2)) := by
  have hcast : (9999999999 : ℚ) = ((9999999999 : ℤ) : ℚ) := by norm_num
  have hscale : (2 : UInt8).toNat = 2 := rfl
  refine ⟨by decide, ⟨9999999999, by rw [hcast, hscale], by decide⟩, ?_⟩
  intro h
  have hscales : (2 : UInt8) ≤ 4 := by decide
  have hlt := (decimal_holds_iff hscales 9999999999).1 (hcast ▸ h)
  revert hlt
  decide

end ColumnType

end ShardMerge
