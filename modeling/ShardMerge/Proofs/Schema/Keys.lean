import ShardMerge.Proofs.Schema.Merge

/-!
# Names and keys of a merge

What a merge makes of the names and the keys of its sources, repeated names included, and where the
key of a draft comes from.

* `nodup_names_foldl_combine_iff` and `mem_names_foldl_combine_iff` are the names.  A merge takes the
  first source as it is and repeats no further name.
* `primaryKey_foldl_combine` is the key, which lasts as long as every source has it.
* `keys_of_buildTarget` is the key of a draft: the requested one, or the one that the sources share.
-/

namespace ShardMerge.UnifiedSchema

/-- The names of the columns in order. -/
def names (u : UnifiedSchema) : List String := u.columns.map (·.name)

variable {u : UnifiedSchema} {origin : TableName} {columns : List UnifiedColumn} {c : Column}
  {name : String}

/-! ## The names of a merge -/

theorem mem_names_addColumn_iff :
    name ∈ (addColumn origin columns c).map (·.name) ↔
      name ∈ columns.map (·.name) ∨ name = c.name := by
  rw [names_addColumn]
  split
  · rename_i hthere
    constructor
    · exact .inl
    · intro hname
      rcases hname with hname | rfl
      · exact hname
      · exact hthere
  · rw [List.mem_append, List.mem_singleton]

/-- Adding a declared column repeats no name, and takes no repetition away. -/
theorem nodup_names_addColumn_iff :
    ((addColumn origin columns c).map (·.name)).Nodup ↔ (columns.map (·.name)).Nodup := by
  rw [names_addColumn]
  split
  · rfl
  · rename_i hnew
    rw [← List.concat_eq_append, List.nodup_concat]
    exact ⟨fun h => h.2, fun h => ⟨hnew, h⟩⟩

theorem mem_names_combine_iff {next : SourceSchema} :
    name ∈ (u.combine next).names ↔ name ∈ u.names ∨ name ∈ next.names := by
  have hfold (declared : List Column) (columns : List UnifiedColumn) :
      name ∈ (declared.foldl (addColumn next.origin) columns).map (·.name) ↔
        name ∈ columns.map (·.name) ∨ name ∈ declared.map (·.name) := by
    induction declared generalizing columns with
    | nil => simp
    | cons c declared ih =>
      rw [List.foldl_cons, ih, mem_names_addColumn_iff, List.map_cons, List.mem_cons, or_assoc]
  exact hfold next.columns u.columns

theorem nodup_names_combine_iff {next : SourceSchema} :
    (u.combine next).names.Nodup ↔ u.names.Nodup := by
  have hfold (declared : List Column) (columns : List UnifiedColumn) :
      ((declared.foldl (addColumn next.origin) columns).map (·.name)).Nodup ↔
        (columns.map (·.name)).Nodup := by
    induction declared generalizing columns with
    | nil => rfl
    | cons c declared ih => rw [List.foldl_cons, ih, nodup_names_addColumn_iff]
  exact hfold next.columns u.columns

theorem mem_names_foldl_combine_iff {rest : List SourceSchema} :
    name ∈ (rest.foldl combine u).names ↔ name ∈ u.names ∨ ∃ s ∈ rest, name ∈ s.names := by
  induction rest generalizing u with
  | nil => simp
  | cons s rest ih =>
    rw [List.foldl_cons, ih, mem_names_combine_iff, or_assoc]
    simp

theorem nodup_names_foldl_combine_iff {rest : List SourceSchema} :
    (rest.foldl combine u).names.Nodup ↔ u.names.Nodup := by
  induction rest generalizing u with
  | nil => rfl
  | cons s rest ih => rw [List.foldl_cons, ih, nodup_names_combine_iff]

theorem names_ofSource (s : SourceSchema) : (ofSource s).names = s.names := by
  rw [names, ofSource, List.map_map]
  rfl

/-! ## The key of a merge -/

/-- A key lasts as long as every source has it. -/
theorem primaryKey_foldl_combine (rest : List SourceSchema) (u : UnifiedSchema) :
    (rest.foldl combine u).primaryKey =
      if ∀ s ∈ rest, s.primaryKey = u.primaryKey then u.primaryKey else [] := by
  induction rest generalizing u with
  | nil => simp
  | cons s rest ih =>
    rw [List.foldl_cons, ih]
    by_cases hkey : s.primaryKey = u.primaryKey
    · simp [combine, commonKey, hkey]
    · simp [combine, commonKey, hkey, Ne.symm hkey]

/-- The key that sources share is that of the first one. -/
theorem primaryKey_of_merge {first : SourceSchema} {rest : List SourceSchema}
    (h : merge (first :: rest) = .ok u) (hkey : u.primaryKey ≠ []) :
    u.primaryKey = first.primaryKey := by
  obtain ⟨_, rfl⟩ := merge_cons_eq_ok_iff.1 h
  rw [primaryKey_foldl_combine] at hkey ⊢
  split at hkey
  · rename_i hshared
    rw [if_pos hshared]
    rfl
  · exact absurd rfl hkey

theorem mem_names_of_merge_iff {first : SourceSchema} {rest : List SourceSchema}
    (h : merge (first :: rest) = .ok u) :
    name ∈ u.names ↔ ∃ s ∈ first :: rest, name ∈ s.names := by
  obtain ⟨_, rfl⟩ := merge_cons_eq_ok_iff.1 h
  rw [mem_names_foldl_combine_iff, names_ofSource]
  simp

theorem nodup_names_of_merge_iff {first : SourceSchema} {rest : List SourceSchema}
    (h : merge (first :: rest) = .ok u) : u.names.Nodup ↔ first.names.Nodup := by
  obtain ⟨_, rfl⟩ := merge_cons_eq_ok_iff.1 h
  rw [nodup_names_foldl_combine_iff, names_ofSource]

/-! ## The key of a draft -/

theorem column?_isNone_iff : (u.column? name).isNone = true ↔ name ∉ u.names := by
  simp [column?, names]

/-- A draft has the requested key, which names columns, or the key that the sources share. -/
theorem keys_of_buildTarget {primaryKeys partitionKeys : List String} {options : Dict String}
    {draft : TargetDraft} (h : u.buildTarget primaryKeys partitionKeys options = .ok draft) :
    draft.primaryKeys ≠ [] ∧
      (primaryKeys ≠ [] ∧ draft.primaryKeys = primaryKeys ∧ (∀ key ∈ primaryKeys, key ∈ u.names) ∨
        primaryKeys = [] ∧ draft.primaryKeys = u.primaryKey) := by
  unfold buildTarget at h
  simp only at h
  split at h
  · rename_i hrequested
    have hne : primaryKeys ≠ [] := by simpa using hrequested
    split at h
    · cases h
    · rename_i hknown
      cases h
      refine ⟨hne, .inl ⟨hne, rfl, ?_⟩⟩
      intro key hkey
      have hcolumn := List.find?_eq_none.1 hknown key hkey
      rw [column?_isNone_iff, not_not] at hcolumn
      exact hcolumn
  · rename_i hrequested
    split at h
    · rename_i hshared
      cases h
      exact ⟨by simpa [hasPrimaryKey] using hshared, .inr ⟨by simpa using hrequested, rfl⟩⟩
    · cases h

end ShardMerge.UnifiedSchema
