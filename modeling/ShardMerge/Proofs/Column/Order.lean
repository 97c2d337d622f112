import ShardMerge.Column.Widening

/-!
# The order of column types

The widening order as a whole: a partial order within each family, and the greater of two types.

* `wider?_eq_some_iff` says that `wider?` is the greatest of two types wherever there is one, and
  `wider?_comm` that it does not matter which of them comes first.
* `wider?_fitsIn_iff` says that it is also the least type that has room for both.
* `fitsIn_order` puts the laws of the order together.
-/

namespace ShardMerge.ColumnType

variable {a b c t : ColumnType}

/-- Types of different families do not compare. -/
theorem fitsIn_of_family_ne (h : a.family ≠ b.family) : a.fitsIn b = false := by
  cases hfits : a.fitsIn b with
  | false => rfl
  | true => exact absurd (family_eq_of_fitsIn hfits) h

/-- The wider of two types is the one of them that has room for both. -/
theorem wider?_eq_some_iff :
    wider? a b = some t ↔ (t = a ∨ t = b) ∧ a.fitsIn t = true ∧ b.fitsIn t = true := by
  constructor
  · exact fitsIn_of_wider?
  · rintro ⟨rfl | rfl, ha, hb⟩
    · rw [wider?, if_pos hb]
    · -- The first one is only taken if both fit in each other, and then they are equal.
      unfold wider?
      split
      · rename_i hback
        rw [fitsIn_antisymm ha hback]
      · rfl

theorem wider?_comm (a b : ColumnType) : wider? a b = wider? b a := by
  refine Option.ext fun t => ?_
  rw [wider?_eq_some_iff, wider?_eq_some_iff, or_comm, and_comm (a := a.fitsIn t = true)]

/-- Where two types compare, there is room for both exactly where there is room for the wider one. -/
theorem wider?_fitsIn_iff (h : wider? a b = some t) :
    t.fitsIn c = true ↔ a.fitsIn c = true ∧ b.fitsIn c = true := by
  obtain ⟨hone, ha, hb⟩ := fitsIn_of_wider? h
  constructor
  · intro hc
    exact ⟨fitsIn_trans ha hc, fitsIn_trans hb hc⟩
  · rintro ⟨hac, hbc⟩
    rcases hone with rfl | rfl
    · exact hac
    · exact hbc

/-- The types of a column are partially ordered, each family by itself, and of two types the greater
one is found exactly if they compare. -/
theorem fitsIn_order :
    (∀ a : ColumnType, a.fitsIn a = true) ∧
    (∀ a b c : ColumnType, a.fitsIn b = true → b.fitsIn c = true → a.fitsIn c = true) ∧
    (∀ a b : ColumnType, a.fitsIn b = true → b.fitsIn a = true → a = b) ∧
    (∀ a b : ColumnType, a.family ≠ b.family → a.fitsIn b = false) ∧
    (∀ a b : ColumnType, wider? a b = none ↔ a.fitsIn b = false ∧ b.fitsIn a = false) ∧
    ∀ a b t : ColumnType, wider? a b = some t ↔
      (t = a ∨ t = b) ∧ a.fitsIn t = true ∧ b.fitsIn t = true :=
  ⟨fitsIn_refl, fun _ _ _ => fitsIn_trans, fun _ _ => fitsIn_antisymm,
    fun _ _ => fitsIn_of_family_ne, fun _ _ => wider?_eq_none_iff, fun _ _ _ => wider?_eq_some_iff⟩

theorem fitsIn_order_text :
    let short := string (some 10)
    let long := string (some 200)
    short.fitsIn long = true ∧ long.fitsIn (string none) = true ∧ short.fitsIn (string none) = true ∧
      short.family ≠ boolean.family ∧ short.fitsIn boolean = false ∧
        wider? long short = some long := by
  have hshort : (string (some 10)).fitsIn (string (some 200)) = true := by decide
  have hlong : (string (some 200)).fitsIn (string none) = true := by decide
  have hfamily : (string (some 10)).family ≠ boolean.family := by decide
  obtain ⟨hrefl, htrans, _, hapart, _, hwider⟩ := fitsIn_order
  exact ⟨hshort, hlong, htrans _ _ _ hshort hlong, hfamily, hapart _ _ hfamily,
    (hwider _ _ _).2 ⟨.inl rfl, hrefl _, hshort⟩⟩

end ShardMerge.ColumnType
