import ShardMerge.Proofs.Lists
import ShardMerge.Proofs.Schema.Declaration
import ShardMerge.Proofs.Schema.Held

/-!
# What a merge decides

A merge meets the declared columns one by one.  Its columns are the declared names in the order of
their first appearance, and each holds the maximal ones among the types that are declared for its
name.  So the merge succeeds exactly if each declared name has a widest type.

* `gather` is the fold over declared columns that a merge comes down to (`columns_foldl_combine`).
* `names_gather` and `find?_gather` are its two views: the names, and the column of a name as a fold
  over the declarations of that name alone.
* `holdsMaximal_of_mem` is the invariant of every column after any number of sources.
-/

namespace ShardMerge.UnifiedSchema

/-! ## Adding a declared column -/

theorem names_addColumn (origin : TableName) (columns : List UnifiedColumn) (c : Column) :
    (addColumn origin columns c).map (·.name) =
      if c.name ∈ columns.map (·.name) then columns.map (·.name)
      else columns.map (·.name) ++ [c.name] := by
  induction columns with
  | nil => rfl
  | cons unified rest ih =>
    unfold addColumn
    by_cases hname : unified.name = c.name
    · simp [hname]
    · have hne : c.name ≠ unified.name := Ne.symm hname
      rw [if_neg hname, List.map_cons, ih, List.map_cons]
      by_cases hrest : c.name ∈ rest.map (·.name)
      · simp [hrest]
      · simp [hrest, hne]

/-- A declared column concerns the column of its name and no other. -/
theorem find?_addColumn (origin : TableName) (columns : List UnifiedColumn) (c : Column)
    (name : String) :
    (addColumn origin columns c).find? (fun unified => unified.name = name) =
      if c.name = name then
        UnifiedColumn.declare name (columns.find? fun unified => unified.name = name)
          { type := c.type, origin }
      else columns.find? fun unified => unified.name = name := by
  induction columns with
  | nil =>
    by_cases hname : c.name = name <;> simp [addColumn, hname, UnifiedColumn.declare]
  | cons unified rest ih =>
    unfold addColumn
    by_cases hsame : unified.name = c.name
    · rw [if_pos hsame]
      by_cases hname : c.name = name
      · have hfound : unified.name = name := hsame.trans hname
        simp [hname, hfound, UnifiedColumn.declare]
      · have hother : unified.name ≠ name := by
          rw [hsame]
          exact hname
        simp [hname, hother]
    · rw [if_neg hsame, List.find?_cons, ih]
      by_cases hfound : unified.name = name
      · have hname : c.name ≠ name := fun h => hsame (hfound.trans h.symm)
        simp [hfound, hname]
      · simp [hfound]

/-- A column of a new name is appended. -/
theorem addColumn_of_not_mem (origin : TableName) {columns : List UnifiedColumn} {c : Column}
    (h : c.name ∉ columns.map (·.name)) :
    addColumn origin columns c = columns ++ [{ name := c.name, type := c.type, origin }] := by
  induction columns with
  | nil => rfl
  | cons unified rest ih =>
    rw [List.map_cons, List.mem_cons, not_or] at h
    rw [addColumn, if_neg (Ne.symm h.1), ih h.2, List.cons_append]

/-! ## The fold over declared columns -/

/-- The columns that declared columns make together. -/
def gather (declared : List (TableName × Column)) : List UnifiedColumn :=
  declared.foldl (fun columns d => addColumn d.1 columns d.2) []

theorem gather_concat (declared : List (TableName × Column)) (d : TableName × Column) :
    gather (declared ++ [d]) = addColumn d.1 (gather declared) d.2 := by
  simp [gather]

/-- The columns are the declared names in the order of their first appearance. -/
theorem names_gather (declared : List (TableName × Column)) :
    (gather declared).map (·.name) = (declared.map (·.2.name)).eraseDups := by
  induction declared using List.reverseRecOn with
  | nil => rfl
  | append_singleton declared d ih =>
    rw [gather_concat, names_addColumn, ih, List.map_append, List.map_singleton,
      eraseDups_concat]
    simp only [List.mem_eraseDups]

/-- The column of a name is made by the declarations of that name alone. -/
theorem find?_gather (declared : List (TableName × Column)) (name : String) :
    (gather declared).find? (fun unified => unified.name = name) =
      (declared.filterMap (declaration? name)).foldl (UnifiedColumn.declare name) none := by
  induction declared using List.reverseRecOn with
  | nil => rfl
  | append_singleton declared d ih =>
    rw [gather_concat, find?_addColumn, ih, List.filterMap_append, List.foldl_append]
    by_cases hname : d.2.name = name <;> simp [declaration?, hname]

/-- A source alone is gathered as it is. -/
theorem gather_source {s : SourceSchema} (h : s.names.Nodup) :
    gather (s.columns.map fun c => (s.origin, c)) = (ofSource s).columns := by
  obtain ⟨origin, columns, primaryKey⟩ := s
  simp only [SourceSchema.names, ofSource] at h ⊢
  induction columns using List.reverseRecOn with
  | nil => rfl
  | append_singleton columns c ih =>
    rw [List.map_append, List.nodup_append] at h
    have hnew : c.name ∉ (columns.map fun c => c.name) := by
      intro hmem
      exact h.2.2 _ hmem _ (by simp) rfl
    rw [List.map_append, List.map_singleton, gather_concat, ih h.1, List.map_append,
      List.map_singleton]
    refine addColumn_of_not_mem origin ?_
    simpa using hnew

/-! ## The fold over sources -/

theorem columns_foldl_combine (sources : List SourceSchema) (u : UnifiedSchema) :
    (sources.foldl combine u).columns =
      (declaredColumns sources).foldl (fun columns d => addColumn d.1 columns d.2) u.columns := by
  induction sources generalizing u with
  | nil => rfl
  | cons s rest ih =>
    rw [List.foldl_cons, ih]
    simp [declaredColumns, combine, List.foldl_map]

theorem origins_foldl_combine (sources : List SourceSchema) (u : UnifiedSchema) :
    (sources.foldl combine u).origins = u.origins ++ sources.map (·.origin) := by
  induction sources generalizing u with
  | nil => simp
  | cons s rest ih =>
    rw [List.foldl_cons, ih]
    simp [combine]

variable {first : SourceSchema} {rest : List SourceSchema}

/-- Starting from a source is starting from nothing and taking in that source first. -/
theorem columns_eq_gather (hfirst : first.names.Nodup) :
    (rest.foldl combine (ofSource first)).columns = gather (declaredColumns (first :: rest)) := by
  have hsplit : declaredColumns (first :: rest) =
      (first.columns.map fun c => (first.origin, c)) ++ declaredColumns rest := by
    simp [declaredColumns]
  rw [columns_foldl_combine, ← gather_source hfirst, hsplit, gather, gather, List.foldl_append]

theorem names_foldl_combine (hfirst : first.names.Nodup) :
    (rest.foldl combine (ofSource first)).columns.map (·.name) =
      ((first :: rest).flatMap (·.names)).eraseDups := by
  rw [columns_eq_gather hfirst, names_gather, map_name_declaredColumns]

/-- Every column holds the maximal ones among the types that are declared for it. -/
theorem holdsMaximal_of_mem (hfirst : first.names.Nodup) {c : UnifiedColumn}
    (hc : c ∈ (rest.foldl combine (ofSource first)).columns) :
    HoldsMaximal c.held (declarations (first :: rest) c.name) := by
  rw [columns_eq_gather hfirst] at hc
  have hnodup : ((gather (declaredColumns (first :: rest))).map (·.name)).Nodup := by
    rw [names_gather]
    exact nodup_eraseDups _
  have hfound := find?_of_mem hnodup hc
  rw [find?_gather] at hfound
  have hholds := holdsDeclared_foldl c.name (declarations (first :: rest) c.name)
  rw [declarations, hfound] at hholds
  exact hholds.2

/-! ## The outcome -/

theorem conflict?_eq_none_iff {u : UnifiedSchema} :
    u.conflict? = none ↔ ∀ c ∈ u.columns, c.contenders = [] := by
  simp [conflict?, List.findSome?_eq_none_iff]

/-- What a successful merge makes of its sources. -/
structure Unifies (u : UnifiedSchema) (sources : List SourceSchema) : Prop where
  /-- Every declared name has one column, in the order of first appearance. -/
  names : u.columns.map (·.name) = (sources.flatMap (·.names)).eraseDups
  widest : ∀ c ∈ u.columns, IsWidest sources c.name c.type
  /-- Of the sources that declare the widest type the first is named. -/
  origin : ∀ c ∈ u.columns, firstDeclarer? sources c.name c.type = some c.origin
  contenders : ∀ c ∈ u.columns, c.contenders = []
  origins : u.origins = sources.map (·.origin)

namespace Unifies

variable {u : UnifiedSchema} {sources : List SourceSchema}

theorem names_nodup (h : u.Unifies sources) : (u.columns.map (·.name)).Nodup := by
  rw [h.names]
  exact nodup_eraseDups _

/-- The unified fields are the declared names with their widest types. -/
theorem find?_fields_eq_some_iff (h : u.Unifies sources) {name : String} {field : Column} :
    Column.find? u.fields name = some field ↔
      field.name = name ∧ IsWidest sources name field.type := by
  have hfind : Column.find? u.fields name = (u.column? name).map fun c => ⟨c.name, c.type⟩ := by
    rw [Column.find?, fields, List.find?_map]
    rfl
  rw [hfind]
  constructor
  · intro hfield
    obtain ⟨c, hc, rfl⟩ := Option.map_eq_some_iff.1 hfield
    have hname : c.name = name := by simpa using List.find?_some hc
    have hwidest := h.widest c (List.mem_of_find?_eq_some hc)
    rw [hname] at hwidest
    exact ⟨hname, hwidest⟩
  · intro hfield
    obtain ⟨rfl, hwidest⟩ := hfield
    have hdeclared : field.name ∈ u.columns.map (·.name) := by
      rw [h.names, List.mem_eraseDups]
      exact exists_declares_iff.1 ⟨_, hwidest.declared⟩
    obtain ⟨c, hc, hname⟩ := List.mem_map.1 hdeclared
    have hfound := find?_of_mem h.names_nodup hc
    have hctype : c.type = field.type := by
      have hcwidest := h.widest c hc
      rw [hname] at hcwidest
      exact hcwidest.unique hwidest
    rw [hname] at hfound
    rw [column?, hfound, Option.map_some, hname, hctype]

end Unifies

/-- A column is left without contenders exactly if its name has a widest type. -/
theorem contenders_eq_nil_iff (hfirst : first.names.Nodup) {c : UnifiedColumn}
    (hc : c ∈ (rest.foldl combine (ofSource first)).columns) :
    c.contenders = [] ↔ ∃ type, IsWidest (first :: rest) c.name type := by
  rw [exists_isWidest_iff]
  exact (holdsMaximal_of_mem hfirst hc).tail_eq_nil_iff

theorem conflict?_foldl_combine_eq_none_iff (hfirst : first.names.Nodup) :
    (rest.foldl combine (ofSource first)).conflict? = none ↔
      ∀ name, (∃ type, Declares (first :: rest) name type) →
        ∃ type, IsWidest (first :: rest) name type := by
  rw [conflict?_eq_none_iff]
  constructor
  · intro hsettled name hdeclared
    rw [exists_declares_iff, ← List.mem_eraseDups, ← names_foldl_combine hfirst,
      List.mem_map] at hdeclared
    obtain ⟨c, hc, rfl⟩ := hdeclared
    exact (contenders_eq_nil_iff hfirst hc).1 (hsettled c hc)
  · intro hwidest c hc
    refine (contenders_eq_nil_iff hfirst hc).2 (hwidest c.name ?_)
    rw [exists_declares_iff, ← List.mem_eraseDups, ← names_foldl_combine hfirst]
    exact List.mem_map_of_mem hc

theorem unifies_foldl_combine (hfirst : first.names.Nodup)
    (h : (rest.foldl combine (ofSource first)).conflict? = none) :
    (rest.foldl combine (ofSource first)).Unifies (first :: rest) := by
  rw [conflict?_eq_none_iff] at h
  refine ⟨names_foldl_combine hfirst, ?_, ?_, h, ?_⟩
  · intro c hc
    have hholds := holdsMaximal_of_mem hfirst hc
    rw [UnifiedColumn.held, h c hc] at hholds
    refine ⟨declares_iff.2 ⟨_, hholds.mem_declared List.mem_cons_self, rfl⟩, ?_⟩
    intro other hother
    obtain ⟨d, hd, rfl⟩ := declares_iff.1 hother
    exact hholds.widest d hd
  · intro c hc
    have hfound := (holdsMaximal_of_mem hfirst hc).first _ List.mem_cons_self
    rw [find?_declarations] at hfound
    cases hdeclarer : firstDeclarer? (first :: rest) c.name c.type with
    | none => simp [hdeclarer] at hfound
    | some origin => simpa [hdeclarer] using hfound
  · rw [origins_foldl_combine]
    rfl

/-! ## The result -/

theorem merge_cons_eq_ok_iff {u : UnifiedSchema} :
    merge (first :: rest) = .ok u ↔
      (rest.foldl combine (ofSource first)).conflict? = none ∧
        rest.foldl combine (ofSource first) = u := by
  rw [merge]
  cases (rest.foldl combine (ofSource first)).conflict? <;> simp

theorem unifies_of_merge {sources : List SourceSchema} {u : UnifiedSchema}
    (hnames : ∀ s ∈ sources, s.names.Nodup) (h : merge sources = .ok u) : u.Unifies sources := by
  cases sources with
  | nil => cases h
  | cons first rest =>
    obtain ⟨hsettled, rfl⟩ := merge_cons_eq_ok_iff.1 h
    exact unifies_foldl_combine (hnames first List.mem_cons_self) hsettled

/-- A merge succeeds exactly if every declared name has a widest type. -/
theorem exists_merge_eq_ok_iff {sources : List SourceSchema} (hne : sources ≠ [])
    (hnames : ∀ s ∈ sources, s.names.Nodup) :
    (∃ u, merge sources = .ok u) ↔
      ∀ name, (∃ type, Declares sources name type) → ∃ type, IsWidest sources name type := by
  cases sources with
  | nil => exact absurd rfl hne
  | cons first rest =>
    rw [← conflict?_foldl_combine_eq_none_iff (hnames first List.mem_cons_self)]
    constructor
    · intro hmerge
      obtain ⟨u, h⟩ := hmerge
      exact (merge_cons_eq_ok_iff.1 h).1
    · intro h
      exact ⟨_, merge_cons_eq_ok_iff.2 ⟨h, rfl⟩⟩

/-- A merge of some sources fails for one reason only. -/
theorem merge_eq_error_of_not_ok {sources : List SourceSchema} (hne : sources ≠ [])
    (h : ¬ ∃ u, merge sources = .ok u) :
    ∃ column firstOrigin firstType secondOrigin secondType,
      merge sources =
        .error (.incompatibleColumnType column firstOrigin firstType secondOrigin secondType) := by
  cases sources with
  | nil => exact absurd rfl hne
  | cons first rest =>
    cases hconflict : (rest.foldl combine (ofSource first)).conflict? with
    | none => exact absurd ⟨_, merge_cons_eq_ok_iff.2 ⟨hconflict, rfl⟩⟩ h
    | some conflict => exact ⟨_, _, _, _, _, by rw [merge, hconflict]⟩

/-- A merge succeeds exactly if each declared name has a type in which all its declared types fit,
and then each column has that type and names the first source that declares it. -/
theorem merge_outcome {sources : List SourceSchema} (hne : sources ≠ [])
    (hnames : ∀ s ∈ sources, s.names.Nodup) :
    ((∃ u, merge sources = .ok u) ↔
      ∀ name, (∃ type, Declares sources name type) → ∃ type, IsWidest sources name type) ∧
    (∀ u, merge sources = .ok u → u.Unifies sources) ∧
    ((¬ ∃ u, merge sources = .ok u) →
      ∃ column firstOrigin firstType secondOrigin secondType,
        merge sources =
          .error (.incompatibleColumnType column firstOrigin firstType secondOrigin secondType)) :=
  ⟨exists_merge_eq_ok_iff hne hnames, fun _ h => unifies_of_merge hnames h,
    merge_eq_error_of_not_ok hne⟩

/-- Three sources of which the first two declare types that do not compare, and the third declares
one in which both fit. -/
def reconciledSources : List SourceSchema :=
  [{ origin := ⟨"shop", "orders_1"⟩, columns := [⟨"id", .integer 32⟩, ⟨"price", .decimal 12 2⟩],
     primaryKey := ["id"] },
   { origin := ⟨"shop", "orders_2"⟩, columns := [⟨"price", .decimal 10 4⟩, ⟨"note", .text⟩],
     primaryKey := [] },
   { origin := ⟨"shop", "orders_3"⟩, columns := [⟨"price", .decimal 12 4⟩], primaryKey := [] }]

theorem merge_outcome_reconciled :
    reconciledSources ≠ [] ∧ (∀ s ∈ reconciledSources, s.names.Nodup) ∧
      ∃ u, merge reconciledSources = .ok u ∧ u.Unifies reconciledSources := by
  have hne : reconciledSources ≠ [] := by decide
  have hnames : ∀ s ∈ reconciledSources, s.names.Nodup := by decide
  exact ⟨hne, hnames, _, rfl, (merge_outcome hne hnames).2.1 _ rfl⟩

end ShardMerge.UnifiedSchema
