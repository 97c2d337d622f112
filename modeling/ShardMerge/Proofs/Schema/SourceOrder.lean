import ShardMerge.Proofs.Schema.Keys

/-!
# The order of the sources

The order in which sources are merged decides neither whether a table has room for them nor what is
drafted for them, up to the order of the columns.

* `SameOutcome` relates two computations that end alike, and `SameOutcome.bind` goes on from there.
* `UnifiedSchema.Matches` is what two orders have in common: the fields and the shared key.
  `sameOutcome_merge` says that merges in two orders match.  The fields do since a merged type is the
  widest declared one (`Unifies.mem_fields_iff`), the key since it is that of every source
  (`primaryKey_eq_iff_of_merge`).
* `Matches.sameOutcome_ensureRoom` and `Matches.sameOutcome_buildTarget` are the two uses of a merge,
  which see nothing else of it, and `outcome_perm` puts them behind the merge.
-/

namespace ShardMerge

variable {α β : Type}

/-! ## Computations that end alike -/

/-- Errors of one kind, which name the same column if a requested key column is missing. -/
structure Error.Alike (e e' : Error) : Prop where
  kind : e.kind = e'.kind
  column : ∀ column, e = .unknownPrimaryKeyColumn column → e' = .unknownPrimaryKeyColumn column

theorem Error.Alike.refl (e : Error) : e.Alike e := ⟨rfl, fun _ h => h⟩

/-- Errors of any other kind are alike if they are of one kind. -/
theorem Error.Alike.of_kind {e e' : Error} (h : e.kind = e'.kind)
    (hother : e.kind ≠ "UnknownPrimaryKeyColumn") : e.Alike e' := by
  refine ⟨h, ?_⟩
  rintro column rfl
  exact absurd rfl hother

/-- Both computations succeed, with answers that are related, or both fail alike. -/
def SameOutcome (R : α → α → Prop) : Except Error α → Except Error α → Prop
  | .ok a, .ok a' => R a a'
  | .error e, .error e' => e.Alike e'
  | _, _ => False

theorem SameOutcome.bind {R : α → α → Prop} {S : β → β → Prop} {x x' : Except Error α}
    {f f' : α → Except Error β} (h : SameOutcome R x x')
    (hf : ∀ a a', R a a' → SameOutcome S (f a) (f' a')) : SameOutcome S (x >>= f) (x' >>= f') := by
  cases x <;> cases x'
  case error.error => exact h
  case ok.ok a a' => exact hf a a' h
  all_goals exact h.elim

/-! ## What two orders have in common -/

theorem isWidest_perm {first second : List SourceSchema} (h : first.Perm second) {name : String}
    {type : ColumnType} : IsWidest first name type ↔ IsWidest second name type := by
  have hdeclares (type : ColumnType) : Declares first name type ↔ Declares second name type := by
    simp only [Declares, h.mem_iff]
  constructor
  · intro hwidest
    exact ⟨(hdeclares type).1 hwidest.declared,
      fun other hother => hwidest.widest other ((hdeclares other).2 hother)⟩
  · intro hwidest
    exact ⟨(hdeclares type).2 hwidest.declared,
      fun other hother => hwidest.widest other ((hdeclares other).1 hother)⟩

namespace UnifiedSchema

variable {u u' : UnifiedSchema} {sources first second : List SourceSchema}

theorem names_eq_map_fields (u : UnifiedSchema) : u.names = u.fields.map (·.name) := by
  simp [names, fields]

/-- The fields of a merge are the widest declared columns. -/
theorem Unifies.mem_fields_iff (h : u.Unifies sources) {field : Column} :
    field ∈ u.fields ↔ IsWidest sources field.name field.type := by
  have hnodup : (u.fields.map (·.name)).Nodup := by
    rw [← names_eq_map_fields]
    exact h.names_nodup
  have hfind : Column.find? u.fields field.name = some field ↔
      field.name = field.name ∧ IsWidest sources field.name field.type :=
    h.find?_fields_eq_some_iff
  constructor
  · intro hmem
    exact (hfind.1 (find?_of_mem hnodup hmem)).2
  · intro hwidest
    exact List.mem_of_find?_eq_some (hfind.2 ⟨rfl, hwidest⟩)

/-- A merge has a key if that is the key of every source. -/
theorem primaryKey_eq_iff_of_merge (h : merge sources = .ok u) {key : List String} (hkey : key ≠ []) :
    u.primaryKey = key ↔ ∀ s ∈ sources, s.primaryKey = key := by
  cases sources with
  | nil => cases h
  | cons first rest =>
    obtain ⟨_, rfl⟩ := merge_cons_eq_ok_iff.1 h
    rw [primaryKey_foldl_combine, List.forall_mem_cons]
    change (if ∀ s ∈ rest, s.primaryKey = first.primaryKey then first.primaryKey else []) = key ↔ _
    constructor
    · intro hshared
      split at hshared
      · rename_i hrest
        subst hshared
        exact ⟨rfl, hrest⟩
      · exact absurd hshared.symm hkey
    · intro hshared
      obtain ⟨rfl, hrest⟩ := hshared
      rw [if_pos hrest]

/-- The same fields in some order, and the same key. -/
structure Matches (u u' : UnifiedSchema) : Prop where
  fields : u.fields.Perm u'.fields
  primaryKey : u.primaryKey = u'.primaryKey

theorem matches_of_merge (hnames : ∀ s ∈ first, s.names.Nodup) (hperm : first.Perm second)
    (hfirst : merge first = .ok u) (hsecond : merge second = .ok u') : u.Matches u' := by
  have hunifies := unifies_of_merge hnames hfirst
  have hunifies' := unifies_of_merge (fun s hs => hnames s (hperm.mem_iff.2 hs)) hsecond
  constructor
  case fields =>
    have hnodup {u : UnifiedSchema} {sources : List SourceSchema} (h : u.Unifies sources) :
        u.fields.Nodup := by
      refine List.Nodup.of_map (·.name) ?_
      rw [← names_eq_map_fields]
      exact h.names_nodup
    rw [List.perm_ext_iff_of_nodup (hnodup hunifies) (hnodup hunifies')]
    intro field
    rw [hunifies.mem_fields_iff, hunifies'.mem_fields_iff, isWidest_perm hperm]
  case primaryKey =>
    have hshared {key : List String} (hkey : key ≠ []) :
        u.primaryKey = key ↔ u'.primaryKey = key := by
      rw [primaryKey_eq_iff_of_merge hfirst hkey, primaryKey_eq_iff_of_merge hsecond hkey]
      simp only [hperm.mem_iff]
    by_cases hnone : u.primaryKey = []
    · by_contra hne
      have hkey : u'.primaryKey ≠ [] := fun h => hne (hnone.trans h.symm)
      exact hne ((hshared hkey).2 rfl)
    · exact ((hshared hnone).1 rfl).symm

/-! ## Merges in two orders -/

/-- A merge fails if there is no source, or if declared types do not fit together. -/
theorem kind_of_merge_error {e : Error} (h : merge sources = .error e) :
    e.kind = if sources.isEmpty then "NoMatchingSource" else "IncompatibleColumnType" := by
  cases sources with
  | nil =>
    cases h
    rfl
  | cons first rest =>
    rw [merge] at h
    split at h
    · cases h
    · cases h
      rfl

theorem exists_merge_of_perm (hnames : ∀ s ∈ first, s.names.Nodup) (hperm : first.Perm second)
    (h : merge first = .ok u) : ∃ u', merge second = .ok u' := by
  have hne : first ≠ [] := by
    rintro rfl
    cases h
  have hne' : second ≠ [] := fun hnil => hne (List.perm_nil.1 (hnil ▸ hperm))
  rw [exists_merge_eq_ok_iff hne' fun s hs => hnames s (hperm.mem_iff.2 hs)]
  have hwidest := (exists_merge_eq_ok_iff hne hnames).1 ⟨u, h⟩
  simpa only [Declares, hperm.mem_iff, isWidest_perm hperm] using hwidest

/-- Merges in two orders match, or both fail alike. -/
theorem sameOutcome_merge (hnames : ∀ s ∈ first, s.names.Nodup) (hperm : first.Perm second) :
    SameOutcome Matches (merge first) (merge second) := by
  have hnames' : ∀ s ∈ second, s.names.Nodup := fun s hs => hnames s (hperm.mem_iff.2 hs)
  cases hfirst : merge first with
  | ok u =>
    obtain ⟨u', hsecond⟩ := exists_merge_of_perm hnames hperm hfirst
    rw [hsecond]
    exact matches_of_merge hnames hperm hfirst hsecond
  | error e =>
    cases hsecond : merge second with
    | ok u' =>
      obtain ⟨u, hok⟩ := exists_merge_of_perm hnames' hperm.symm hsecond
      rw [hfirst] at hok
      cases hok
    | error e' =>
      have hkind := kind_of_merge_error hfirst
      have hkind' := kind_of_merge_error hsecond
      rw [← hperm.isEmpty_eq] at hkind'
      refine .of_kind (hkind.trans hkind'.symm) ?_
      rw [hkind]
      split <;> decide

/-! ## The uses of a merge -/

namespace Matches

theorem mem_names_iff (h : u.Matches u') {name : String} : name ∈ u.names ↔ name ∈ u'.names := by
  rw [names_eq_map_fields, names_eq_map_fields]
  exact (h.fields.map _).mem_iff

/-- A table has room for both or for none. -/
theorem hasRoomFor_eq (h : u.Matches u') (existing : TargetSchema) :
    existing.hasRoomFor u = existing.hasRoomFor u' := by
  have hfields (u : UnifiedSchema) : existing.hasRoomFor u = u.fields.all fun c =>
      (existing.field? c.name).any fun field => c.type.fitsIn field.type := by
    simp [TargetSchema.hasRoomFor, UnifiedSchema.fields, Function.comp_def]
  rw [hfields, hfields, h.fields.all_eq]

theorem sameOutcome_ensureRoom (h : u.Matches u') (existing : TargetSchema) :
    SameOutcome (fun _ _ => True) (existing.ensureRoom u) (existing.ensureRoom u') := by
  unfold TargetSchema.ensureRoom
  rw [h.hasRoomFor_eq existing]
  split
  · trivial
  · exact .of_kind rfl (by simp [Error.kind])

end Matches

end UnifiedSchema

/-- The same table, up to the order of its columns. -/
structure TargetDraft.SameTable (d d' : TargetDraft) : Prop where
  columns : d.columns.Perm d'.columns
  primaryKeys : d.primaryKeys = d'.primaryKeys
  partitionKeys : d.partitionKeys = d'.partitionKeys
  options : d.options = d'.options

namespace UnifiedSchema

variable {first second : List SourceSchema}

theorem Matches.sameOutcome_buildTarget {u u' : UnifiedSchema} (h : u.Matches u')
    (primaryKeys partitionKeys : List String) (options : Dict String) :
    SameOutcome TargetDraft.SameTable (u.buildTarget primaryKeys partitionKeys options)
      (u'.buildTarget primaryKeys partitionKeys options) := by
  -- Both look up the requested keys with the same answers, so they miss the same one first.
  have hmissing : (fun key => (u.column? key).isNone) = fun key => (u'.column? key).isNone := by
    funext key
    rw [Bool.eq_iff_iff, column?_isNone_iff, column?_isNone_iff, h.mem_names_iff]
  have hdraft (keys : List String) : TargetDraft.SameTable
      { columns := u.fields, primaryKeys := keys, partitionKeys, options }
      { columns := u'.fields, primaryKeys := keys, partitionKeys, options } :=
    ⟨h.fields, rfl, rfl, rfl⟩
  simp only [buildTarget, hasPrimaryKey, hmissing, h.primaryKey]
  by_cases hrequested : primaryKeys.isEmpty
  case pos =>
    by_cases hkey : u'.primaryKey.isEmpty
    · simp only [hrequested, hkey]
      exact .refl .primaryKeyRequired
    · simp only [hrequested, hkey]
      exact hdraft u'.primaryKey
  case neg =>
    simp only [hrequested]
    cases primaryKeys.find? fun key => (u'.column? key).isNone with
    | some key => exact .refl (.unknownPrimaryKeyColumn key)
    | none => exact hdraft primaryKeys

/-- The order of the sources decides neither whether a table has room for them nor what table is
drafted for them. -/
theorem outcome_perm (hnames : ∀ s ∈ first, s.names.Nodup) (hperm : first.Perm second)
    (existing : TargetSchema) (primaryKeys partitionKeys : List String) (options : Dict String) :
    SameOutcome (fun _ _ => True) (merge first >>= existing.ensureRoom)
        (merge second >>= existing.ensureRoom) ∧
      SameOutcome TargetDraft.SameTable
        (merge first >>= fun u => u.buildTarget primaryKeys partitionKeys options)
        (merge second >>= fun u => u.buildTarget primaryKeys partitionKeys options) := by
  have hmerge := sameOutcome_merge hnames hperm
  constructor
  · exact hmerge.bind fun u u' h => h.sameOutcome_ensureRoom existing
  · exact hmerge.bind fun u u' h => h.sameOutcome_buildTarget primaryKeys partitionKeys options

/-- A table that has room for the reconciled sources. -/
def wideTable : TargetSchema :=
  { version := 0, fields := [⟨"note", .text⟩, ⟨"id", .integer 64⟩, ⟨"price", .decimal 14 4⟩],
    primaryKeys := ["id"], updatedAt := default }

theorem outcome_perm_reversed :
    (∀ s ∈ reconciledSources, s.names.Nodup) ∧
      reconciledSources.Perm reconciledSources.reverse ∧
      SameOutcome (fun _ _ => True) (merge reconciledSources >>= wideTable.ensureRoom)
        (merge reconciledSources.reverse >>= wideTable.ensureRoom) ∧
      SameOutcome TargetDraft.SameTable
        (merge reconciledSources >>= fun u => u.buildTarget ["price", "id"] [] .empty)
        (merge reconciledSources.reverse >>= fun u => u.buildTarget ["price", "id"] [] .empty) := by
  have hnames : ∀ s ∈ reconciledSources, s.names.Nodup := by decide
  have hperm : reconciledSources.Perm reconciledSources.reverse :=
    (List.reverse_perm reconciledSources).symm
  exact ⟨hnames, hperm, outcome_perm hnames hperm wideTable ["price", "id"] [] .empty⟩

end UnifiedSchema

end ShardMerge
