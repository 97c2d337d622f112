import ShardMerge.Column.Type

/-!
# The widening order

`a.fitsIn b` holds when a column of type `b` can hold every value of type `a`.  Types compare
only within a family, and there the order is partial: of two decimals one can have the greater
precision and the other the greater scale.

* `fitsIn_refl`, `fitsIn_trans` and `fitsIn_antisymm` make it a partial order.
* `wider?` picks the wider of two types when they compare; `wider?_eq_none_iff` says when they do
  not.
-/

namespace ShardMerge

/-- Whether a length bound lies within another one; no bound is the widest. -/
def lengthFits : (inner outer : Option UInt32) → Bool
  | _, none => true
  | none, some _ => false
  | some inner, some outer => inner ≤ outer

@[simp] theorem lengthFits_refl (a : Option UInt32) : lengthFits a a = true := by
  cases a <;> simp [lengthFits]

theorem lengthFits_trans {a b c : Option UInt32} (hab : lengthFits a b = true)
    (hbc : lengthFits b c = true) : lengthFits a c = true := by
  cases a <;> cases b <;> cases c <;> simp_all [lengthFits]
  exact UInt32.le_trans hab hbc

theorem lengthFits_antisymm {a b : Option UInt32} (hab : lengthFits a b = true)
    (hba : lengthFits b a = true) : a = b := by
  cases a <;> cases b <;> simp_all [lengthFits]
  exact UInt32.le_antisymm hab hba

namespace ColumnType

/-- Whether every value of the first type is a value of the second. -/
def fitsIn : (inner outer : ColumnType) → Bool
  | string a, string b => lengthFits a b
  | binary a, binary b => lengthFits a b
  | integer a, integer b => a ≤ b
  | float a, float b => a ≤ b
  | decimal p s, decimal p' s' => p ≤ p' && s ≤ s'
  | a, b => a = b

/-- The wider of two types, the first of two equal ones, or nothing if neither fits in the
other. -/
def wider? (a b : ColumnType) : Option ColumnType :=
  if b.fitsIn a then some a
  else if a.fitsIn b then some b
  else none

@[simp] theorem fitsIn_refl (a : ColumnType) : a.fitsIn a = true := by
  cases a <;> simp [fitsIn]

theorem fitsIn_trans {a b c : ColumnType} (hab : a.fitsIn b = true) (hbc : b.fitsIn c = true) :
    a.fitsIn c = true := by
  cases a <;> cases b <;> simp [fitsIn] at hab <;> cases c <;> simp [fitsIn] at hbc ⊢ <;>
    first
    | exact lengthFits_trans hab hbc
    | exact UInt8.le_trans hab hbc
    | exact ⟨UInt8.le_trans hab.1 hbc.1, UInt8.le_trans hab.2 hbc.2⟩
    | exact hab.trans hbc

theorem fitsIn_antisymm {a b : ColumnType} (hab : a.fitsIn b = true) (hba : b.fitsIn a = true) :
    a = b := by
  cases a <;> cases b <;> simp [fitsIn] at hab hba ⊢ <;>
    first
    | exact lengthFits_antisymm hab hba
    | exact UInt8.le_antisymm hab hba
    | exact ⟨UInt8.le_antisymm hab.1 hba.1, UInt8.le_antisymm hab.2 hba.2⟩
    | exact hab

/-- Only types of one family compare. -/
theorem family_eq_of_fitsIn {a b : ColumnType} (h : a.fitsIn b = true) : a.family = b.family := by
  cases a <;> cases b <;> simp [fitsIn, family] at h ⊢

theorem wider?_eq_none_iff {a b : ColumnType} :
    wider? a b = none ↔ a.fitsIn b = false ∧ b.fitsIn a = false := by
  unfold wider?
  cases hba : b.fitsIn a <;> cases hab : a.fitsIn b <;> simp

/-- The wider type is one of the two, and both fit in it. -/
theorem fitsIn_of_wider? {a b t : ColumnType} (h : wider? a b = some t) :
    (t = a ∨ t = b) ∧ a.fitsIn t = true ∧ b.fitsIn t = true := by
  unfold wider? at h
  split at h
  · cases h; simp_all
  · split at h
    · cases h; simp_all
    · cases h

end ColumnType

end ShardMerge
