import ShardMerge.Proofs.Change.Decision
import ShardMerge.Proofs.Schema.Merge

/-!
# Room for every declared column

A merge never loses a declared type, even if a source repeats the name of a column: some unified
column of that name holds a type in which the declared one fits.  A target table has room for the
merge if each of its own columns fits in the field of its name.

* `UnifiedColumn.Covers` is kept by every further declaration (`Covers.absorb`), since a held type
  is only driven out by one in which it fits.
* `HasColumnFor` says so of all columns, `hasColumnFor_foldl` is the run over all declarations, and
  `exists_field_of_merge` is what a successful merge makes of it.
* `hasRoomFor_iff`, `hasRoomFor_of_fields` and `hasRoomFor_of_wider` say which tables have room, and
  `TargetSchema.HasFieldFor` what room is to a single column.
* `hasRoomFor_ofSource_iff` and `hasRoomFor_iff_of_unifies` read room off the declared columns, of
  one source and of all, and `hasRoomFor_merge_iff` compares the two.
-/

namespace ShardMerge

/-! ## Types that a column covers -/

namespace UnifiedColumn

/-- A type fits in one that the column holds. -/
def Covers (column : UnifiedColumn) (type : ColumnType) : Prop :=
  ∃ held ∈ column.held, type.fitsIn held.type = true

variable {column : UnifiedColumn} {type : ColumnType}

/-- A declared type is covered from then on. -/
theorem covers_absorb_self (column : UnifiedColumn) (type : ColumnType) (origin : TableName) :
    (column.absorb type origin).Covers type := by
  by_cases hcovered : column.Covers type
  · rw [absorb_eq_self origin hcovered]
    exact hcovered
  · exact ⟨{ type, origin }, (held_absorb origin hcovered).mem_iff.2 List.mem_cons_self,
      ColumnType.fitsIn_refl type⟩

/-- A further declaration leaves a covered type covered. -/
theorem Covers.absorb (h : column.Covers type) (other : ColumnType) (origin : TableName) :
    (column.absorb other origin).Covers type := by
  by_cases hcovered : column.Covers other
  · rw [absorb_eq_self origin hcovered]
    exact h
  · have hheld := held_absorb origin hcovered
    obtain ⟨held, hmem, hfits⟩ := h
    by_cases hdriven : held.type.fitsIn other = true
    · exact ⟨{ type := other, origin }, hheld.mem_iff.2 List.mem_cons_self,
        ColumnType.fitsIn_trans hfits hdriven⟩
    · have hstays : held ∈ column.held.filter fun held => !held.type.fitsIn other :=
        List.mem_filter.2 ⟨hmem, by simpa using hdriven⟩
      exact ⟨held, hheld.mem_iff.2 (List.mem_cons_of_mem _ hstays), hfits⟩

end UnifiedColumn

/-! ## Columns for every declaration -/

namespace UnifiedSchema

/-- Some column of the name covers the type. -/
def HasColumnFor (columns : List UnifiedColumn) (c : Column) : Prop :=
  ∃ column ∈ columns, column.name = c.name ∧ column.Covers c.type

variable {columns : List UnifiedColumn} {c : Column}

theorem hasColumnFor_cons {column : UnifiedColumn} :
    HasColumnFor (column :: columns) c ↔
      column.name = c.name ∧ column.Covers c.type ∨ HasColumnFor columns c := by
  simp [HasColumnFor]

theorem hasColumnFor_addColumn_self (origin : TableName) (columns : List UnifiedColumn)
    (c : Column) : HasColumnFor (addColumn origin columns c) c := by
  induction columns with
  | nil =>
    rw [addColumn, hasColumnFor_cons]
    exact .inl ⟨rfl, _, List.mem_cons_self, ColumnType.fitsIn_refl _⟩
  | cons column rest ih =>
    rw [addColumn]
    split
    · rename_i hname
      exact hasColumnFor_cons.2
        (.inl ⟨by simpa using hname, column.covers_absorb_self c.type origin⟩)
    · exact hasColumnFor_cons.2 (.inr ih)

theorem HasColumnFor.addColumn (h : HasColumnFor columns c) (origin : TableName) (other : Column) :
    HasColumnFor (addColumn origin columns other) c := by
  induction columns with
  | nil =>
    obtain ⟨_, hmem, _⟩ := h
    cases hmem
  | cons column rest ih =>
    rw [UnifiedSchema.addColumn]
    rcases hasColumnFor_cons.1 h with ⟨hname, hcovers⟩ | hrest
    · split
      · exact hasColumnFor_cons.2
          (.inl ⟨by simpa using hname, hcovers.absorb other.type origin⟩)
      · exact hasColumnFor_cons.2 (.inl ⟨hname, hcovers⟩)
    · split
      · exact hasColumnFor_cons.2 (.inr hrest)
      · exact hasColumnFor_cons.2 (.inr (ih hrest))

/-- After any number of declarations there is a column for each of them, and for what had one
before. -/
theorem hasColumnFor_foldl {declared : List (TableName × Column)}
    (h : HasColumnFor columns c ∨ c ∈ declared.map (·.2)) :
    HasColumnFor (declared.foldl (fun columns d => addColumn d.1 columns d.2) columns) c := by
  induction declared generalizing columns with
  | nil => simpa using h
  | cons d declared ih =>
    rw [List.foldl_cons]
    rcases h with hbefore | hmem
    · exact ih (.inl (hbefore.addColumn d.1 d.2))
    · rcases List.mem_cons.1 hmem with rfl | hlater
      · exact ih (.inl (hasColumnFor_addColumn_self d.1 columns d.2))
      · exact ih (.inr hlater)

theorem hasColumnFor_ofSource {source : SourceSchema} (h : c ∈ source.columns) :
    HasColumnFor (ofSource source).columns c :=
  ⟨_, List.mem_map_of_mem h, rfl, _, List.mem_cons_self, ColumnType.fitsIn_refl _⟩

/-- A declared column fits in a unified field of its name. -/
theorem exists_field_of_merge {sources : List SourceSchema} {u : UnifiedSchema}
    (h : merge sources = .ok u) {source : SourceSchema} (hsource : source ∈ sources)
    (hc : c ∈ source.columns) :
    ∃ field ∈ u.fields, field.name = c.name ∧ c.type.fitsIn field.type = true := by
  cases sources with
  | nil => cases hsource
  | cons first rest =>
    obtain ⟨hsettled, rfl⟩ := merge_cons_eq_ok_iff.1 h
    have hcolumn : HasColumnFor (rest.foldl combine (ofSource first)).columns c := by
      rw [columns_foldl_combine]
      apply hasColumnFor_foldl
      rcases List.mem_cons.1 hsource with rfl | hrest
      · exact .inl (hasColumnFor_ofSource hc)
      · refine .inr (List.mem_map.2 ⟨(source.origin, c), ?_, rfl⟩)
        exact List.mem_flatMap.2 ⟨source, hrest, List.mem_map_of_mem hc⟩
    obtain ⟨column, hmem, hname, held, hheld, hfits⟩ := hcolumn
    -- Without contenders the type of the column is the only one that it holds.
    rw [UnifiedColumn.held, conflict?_eq_none_iff.1 hsettled column hmem,
      List.mem_singleton] at hheld
    subst hheld
    exact ⟨_, List.mem_map_of_mem hmem, hname, hfits⟩

end UnifiedSchema

/-! ## Tables with room -/

namespace TargetSchema

variable {s : TargetSchema} {unified : UnifiedSchema}

/-- A column fits in a field of its name. -/
def HasFieldFor (s : TargetSchema) (c : Column) : Prop :=
  ∃ field ∈ s.fields, field.name = c.name ∧ c.type.fitsIn field.type = true

theorem hasFieldFor_of_mem {c : Column} (h : c ∈ s.fields) : s.HasFieldFor c :=
  ⟨c, h, rfl, ColumnType.fitsIn_refl _⟩

theorem hasRoomFor_iff :
    s.hasRoomFor unified = true ↔
      ∀ column ∈ unified.columns, ∃ type, s.type? column.name = some type ∧
        column.type.fitsIn type = true := by
  simp [hasRoomFor, type?, Option.any_eq_true]

theorem hasFieldFor_of_hasRoomFor (h : s.hasRoomFor unified = true) {c : Column}
    (hc : c ∈ unified.fields) : s.HasFieldFor c := by
  obtain ⟨column, hcolumn, rfl⟩ := List.mem_map.1 hc
  obtain ⟨type, htype, hfits⟩ := hasRoomFor_iff.1 h column hcolumn
  exact ⟨_, List.mem_of_find?_eq_some (type?_eq_some_iff.1 htype), rfl, hfits⟩

/-- A table with the fields of a merge has room for it. -/
theorem hasRoomFor_of_fields (hnames : (unified.columns.map (·.name)).Nodup)
    (hfields : s.fields = unified.fields) : s.hasRoomFor unified = true := by
  rw [hasRoomFor_iff]
  intro column hcolumn
  refine ⟨column.type, ?_, ColumnType.fitsIn_refl _⟩
  have hfound := find?_of_mem hnames hcolumn
  rw [type?, field?, Column.find?, hfields, UnifiedSchema.fields, List.find?_map]
  change ((unified.columns.find? fun other => other.name = column.name).map _).map _ = _
  rw [hfound]
  rfl

/-- Fields that have become wider leave room for what there was room for. -/
theorem hasRoomFor_of_wider {later : TargetSchema}
    (hwider : ∀ name type, s.type? name = some type →
      ∃ wider, later.type? name = some wider ∧ type.fitsIn wider = true)
    (h : s.hasRoomFor unified = true) : later.hasRoomFor unified = true := by
  rw [hasRoomFor_iff] at h ⊢
  intro column hcolumn
  obtain ⟨type, htype, hfits⟩ := h column hcolumn
  obtain ⟨wider, hlater, hgrown⟩ := hwider column.name type htype
  exact ⟨wider, hlater, ColumnType.fitsIn_trans hfits hgrown⟩

/-! ## Room for declared columns -/

/-- The field of the column's name has a type in which the column fits. -/
def HoldsColumn (s : TargetSchema) (c : Column) : Prop :=
  ∃ type, s.type? c.name = some type ∧ c.type.fitsIn type = true

/-- There is room for a source by itself if each of its columns is held. -/
theorem hasRoomFor_ofSource_iff {source : SourceSchema} :
    s.hasRoomFor (.ofSource source) = true ↔ ∀ c ∈ source.columns, s.HoldsColumn c := by
  simp [hasRoomFor_iff, UnifiedSchema.ofSource, HoldsColumn]

/-- There is room for a merge if each declared column is held. -/
theorem hasRoomFor_iff_of_unifies {sources : List SourceSchema} (h : unified.Unifies sources) :
    s.hasRoomFor unified = true ↔ ∀ c, Declares sources c.name c.type → s.HoldsColumn c := by
  rw [hasRoomFor_iff]
  constructor
  · intro hroom c hdeclared
    have hname : c.name ∈ unified.columns.map (·.name) := by
      rw [h.names, List.mem_eraseDups]
      exact exists_declares_iff.1 ⟨_, hdeclared⟩
    obtain ⟨column, hcolumn, hsame⟩ := List.mem_map.1 hname
    obtain ⟨type, htype, hfits⟩ := hroom column hcolumn
    rw [hsame] at htype
    have hwidest : c.type.fitsIn column.type = true := by
      refine (h.widest column hcolumn).widest c.type ?_
      rw [hsame]
      exact hdeclared
    exact ⟨type, htype, ColumnType.fitsIn_trans hwidest hfits⟩
  · intro hheld column hcolumn
    -- The type of a unified column is itself declared.
    exact hheld ⟨column.name, column.type⟩ (h.widest column hcolumn).declared

/-- A table has room for a merge exactly if it has room for each of the sources by itself. -/
theorem hasRoomFor_merge_iff {sources : List SourceSchema} (hnames : ∀ s ∈ sources, s.names.Nodup)
    (h : UnifiedSchema.merge sources = .ok unified) (existing : TargetSchema) :
    existing.hasRoomFor unified = true ↔
      ∀ source ∈ sources, existing.hasRoomFor (.ofSource source) = true := by
  simp only [hasRoomFor_iff_of_unifies (UnifiedSchema.unifies_of_merge hnames h),
    hasRoomFor_ofSource_iff]
  constructor
  · intro hheld source hsource c hc
    exact hheld c ⟨source, hsource, hc⟩
  · intro hheld c hdeclared
    obtain ⟨source, hsource, hc⟩ := hdeclared
    exact hheld source hsource c hc

/-- A table that has room for the first of the reconciled sources, though not for the others. -/
def narrowTable : TargetSchema :=
  { version := 0, fields := [⟨"id", .integer 64⟩, ⟨"price", .decimal 12 2⟩], primaryKeys := ["id"],
    updatedAt := default }

/-- A table that has room for all of them, and a field of its own. -/
def wideTable : TargetSchema :=
  { narrowTable with
    fields := [⟨"note", .text⟩, ⟨"day", .date⟩, ⟨"price", .decimal 14 4⟩, ⟨"id", .integer 64⟩] }

theorem hasRoomFor_merge_iff_reconciled :
    (∀ s ∈ UnifiedSchema.reconciledSources, s.names.Nodup) ∧
      ∃ u, UnifiedSchema.merge UnifiedSchema.reconciledSources = .ok u ∧
        (wideTable.hasRoomFor u = true ∧ ∀ source ∈ UnifiedSchema.reconciledSources,
          wideTable.hasRoomFor (.ofSource source) = true) ∧
        narrowTable.hasRoomFor u = false ∧ ¬∀ source ∈ UnifiedSchema.reconciledSources,
          narrowTable.hasRoomFor (.ofSource source) = true := by
  have hnames : ∀ s ∈ UnifiedSchema.reconciledSources, s.names.Nodup := by decide
  obtain ⟨u, hmerge, hwide, hnarrow⟩ : ∃ u,
      UnifiedSchema.merge UnifiedSchema.reconciledSources = .ok u ∧
        wideTable.hasRoomFor u = true ∧ narrowTable.hasRoomFor u = false :=
    ⟨_, rfl, by decide, by decide⟩
  refine ⟨hnames, u, hmerge, ⟨hwide, (hasRoomFor_merge_iff hnames hmerge wideTable).1 hwide⟩,
    hnarrow, fun hall => ?_⟩
  rw [(hasRoomFor_merge_iff hnames hmerge narrowTable).2 hall] at hnarrow
  cases hnarrow

end TargetSchema

end ShardMerge
