import ShardMerge.Schema.Merge

/-!
# Declarations

The types that source tables declare for the columns of a name, and the widest among them.

* `Declares` and `IsWidest` speak of sources as they are.  `IsWidest.unique` is the antisymmetry of
  the widening order.
* `declarations` lists the declared types of a name with their sources, in the order in which a
  merge meets them.  `declares_iff` and `find?_declarations` read both views off that list.
-/

namespace ShardMerge

/-- The names of the columns in order. -/
def SourceSchema.names (s : SourceSchema) : List String := s.columns.map (·.name)

/-- Some source has a column of this name and type. -/
def Declares (sources : List SourceSchema) (name : String) (type : ColumnType) : Prop :=
  ∃ s ∈ sources, { name, type } ∈ s.columns

/-- A declared type of a column in which all its declared types fit. -/
structure IsWidest (sources : List SourceSchema) (name : String) (type : ColumnType) : Prop where
  declared : Declares sources name type
  widest : ∀ other, Declares sources name other → other.fitsIn type = true

/-- The first source that has a column of this name and type. -/
def firstDeclarer? (sources : List SourceSchema) (name : String) (type : ColumnType) :
    Option TableName :=
  (sources.find? fun s => s.columns.contains { name, type }).map (·.origin)

theorem IsWidest.unique {sources : List SourceSchema} {name : String} {a b : ColumnType}
    (ha : IsWidest sources name a) (hb : IsWidest sources name b) : a = b :=
  ColumnType.fitsIn_antisymm (hb.widest a ha.declared) (ha.widest b hb.declared)

/-! ## The order in which a merge meets them -/

/-- The columns of all sources, each with its source. -/
def declaredColumns (sources : List SourceSchema) : List (TableName × Column) :=
  sources.flatMap fun s => s.columns.map fun c => (s.origin, c)

/-- A declared type with its source, if the column has this name. -/
def declaration? (name : String) (declared : TableName × Column) : Option Contender :=
  if declared.2.name = name then some { type := declared.2.type, origin := declared.1 } else none

/-- The types that are declared for the columns of a name, each with its source. -/
def declarations (sources : List SourceSchema) (name : String) : List Contender :=
  (declaredColumns sources).filterMap (declaration? name)

theorem map_name_declaredColumns (sources : List SourceSchema) :
    (declaredColumns sources).map (·.2.name) = sources.flatMap (·.names) := by
  simp [declaredColumns, SourceSchema.names, List.map_flatMap, Function.comp_def]

theorem mem_declarations {sources : List SourceSchema} {name : String} {d : Contender} :
    d ∈ declarations sources name ↔
      ∃ s ∈ sources, { name, type := d.type } ∈ s.columns ∧ s.origin = d.origin := by
  simp only [declarations, declaredColumns, List.mem_filterMap, List.mem_flatMap, List.mem_map,
    declaration?]
  constructor
  · intro hmem
    obtain ⟨_, ⟨s, hs, c, hc, rfl⟩, h⟩ := hmem
    split at h
    · rename_i hname
      cases h
      subst hname
      exact ⟨s, hs, hc, rfl⟩
    · cases h
  · intro hsource
    obtain ⟨s, hs, hc, horigin⟩ := hsource
    refine ⟨_, ⟨s, hs, _, hc, rfl⟩, ?_⟩
    simp [horigin]

theorem declares_iff {sources : List SourceSchema} {name : String} {type : ColumnType} :
    Declares sources name type ↔ ∃ d ∈ declarations sources name, d.type = type := by
  constructor
  · intro hdeclared
    obtain ⟨s, hs, hc⟩ := hdeclared
    exact ⟨⟨type, s.origin⟩, mem_declarations.2 ⟨s, hs, hc, rfl⟩, rfl⟩
  · intro hmem
    obtain ⟨d, hd, rfl⟩ := hmem
    obtain ⟨s, hs, hc, _⟩ := mem_declarations.1 hd
    exact ⟨s, hs, hc⟩

theorem exists_isWidest_iff {sources : List SourceSchema} {name : String} :
    (∃ type, IsWidest sources name type) ↔
      ∃ w ∈ declarations sources name, ∀ d ∈ declarations sources name,
        d.type.fitsIn w.type = true := by
  constructor
  · intro h
    obtain ⟨type, hdeclared, hwidest⟩ := h
    obtain ⟨w, hw, rfl⟩ := declares_iff.1 hdeclared
    exact ⟨w, hw, fun d hd => hwidest d.type (declares_iff.2 ⟨d, hd, rfl⟩)⟩
  · intro h
    obtain ⟨w, hw, hwidest⟩ := h
    refine ⟨w.type, declares_iff.2 ⟨w, hw, rfl⟩, ?_⟩
    intro other hother
    obtain ⟨d, hd, rfl⟩ := declares_iff.1 hother
    exact hwidest d hd

/-- A name is declared as soon as some source has a column of it. -/
theorem exists_declares_iff {sources : List SourceSchema} {name : String} :
    (∃ type, Declares sources name type) ↔ name ∈ sources.flatMap (·.names) := by
  simp only [List.mem_flatMap, SourceSchema.names, List.mem_map]
  constructor
  · intro hdeclared
    obtain ⟨type, s, hs, hc⟩ := hdeclared
    exact ⟨s, hs, _, hc, rfl⟩
  · intro hname
    obtain ⟨s, hs, c, hc, rfl⟩ := hname
    exact ⟨c.type, s, hs, hc⟩

/-- Within one source the first declaration of a type is found as soon as there is one. -/
theorem find?_filterMap_declaration? (origin : TableName) (columns : List Column) (name : String)
    (type : ColumnType) :
    (((columns.map fun c => (origin, c)).filterMap (declaration? name)).find?
        fun d => d.type = type) =
      if columns.contains { name, type } then some { type, origin } else none := by
  induction columns with
  | nil => rfl
  | cons c rest ih =>
    by_cases hname : c.name = name
    · by_cases htype : c.type = type
      · subst hname htype
        simp [declaration?]
      · have hne : { name, type } ≠ c := by
          intro hc
          subst hc
          exact htype rfl
        simpa [declaration?, hname, htype, hne] using ih
    · have hne : { name, type } ≠ c := by
        intro hc
        subst hc
        exact hname rfl
      simpa [declaration?, hname, hne] using ih

/-- The first declaration of a type is that of the first source that declares it. -/
theorem find?_declarations (sources : List SourceSchema) (name : String) (type : ColumnType) :
    ((declarations sources name).find? fun d => d.type = type) =
      (firstDeclarer? sources name type).map fun origin => { type, origin } := by
  induction sources with
  | nil => rfl
  | cons s rest ih =>
    have hsplit : declarations (s :: rest) name =
        (s.columns.map fun c => (s.origin, c)).filterMap (declaration? name) ++
          declarations rest name := by
      simp [declarations, declaredColumns]
    rw [hsplit, List.find?_append, find?_filterMap_declaration?, ih, firstDeclarer?,
      firstDeclarer?, List.find?_cons]
    cases s.columns.contains { name, type } <;> simp

end ShardMerge
