import ShardMerge.Proofs.Schema.SourceOrder

/-!
# The key of a drafted table

Which key a table gets that is drafted for some sources, or why it gets none.  The merge folds the
keys of its sources into one; what it comes to is said here of the sources themselves.

* `SharesKey` is the key that all sources agree on.  A source without a key agrees with no other
  one, wherever it stands, and a key that was lost does not come back.
* `ResolvesKey` relates requested keys to the key of the table or to the error.  It has an outcome
  for every request (`exists_resolvesKey`).
* `buildTarget_of_resolvesKey` is one step of the draft for each constructor, and
  `buildTarget_of_merge` puts both together.
-/

namespace ShardMerge

/-- Some source has a column of this name. -/
def Names (sources : List SourceSchema) (name : String) : Prop :=
  ∃ s ∈ sources, name ∈ s.names

/-- Every source declares this key, which has columns. -/
structure SharesKey (sources : List SourceSchema) (key : List String) : Prop where
  nonempty : key ≠ []
  shared : ∀ s ∈ sources, s.primaryKey = key

/-- The key that a table of the sources gets for requested ones.  Requested keys come first, and
have to name columns; without any it is the key that the sources share. -/
inductive ResolvesKey (sources : List SourceSchema) :
    (requested : List String) → Except Error (List String) → Prop where
  | requested {keys : List String} (hne : keys ≠ []) (hnamed : ∀ key ∈ keys, Names sources key) :
      ResolvesKey sources keys (.ok keys)
  /-- The first requested key that names no column is reported. -/
  | unknown {before after : List String} {missing : String}
      (hbefore : ∀ key ∈ before, Names sources key) (hmissing : ¬Names sources missing) :
      ResolvesKey sources (before ++ missing :: after) (.error (.unknownPrimaryKeyColumn missing))
  | shared {key : List String} (h : SharesKey sources key) : ResolvesKey sources [] (.ok key)
  | required (h : ¬∃ key, SharesKey sources key) :
      ResolvesKey sources [] (.error .primaryKeyRequired)

theorem exists_resolvesKey (sources : List SourceSchema) (requested : List String) :
    ∃ outcome, ResolvesKey sources requested outcome := by
  by_cases hrequested : requested = []
  · subst hrequested
    by_cases hshared : ∃ key, SharesKey sources key
    · obtain ⟨key, hkey⟩ := hshared
      exact ⟨.ok key, .shared hkey⟩
    · exact ⟨.error .primaryKeyRequired, .required hshared⟩
  · by_cases hnamed : ∀ key ∈ requested, Names sources key
    · exact ⟨.ok requested, .requested hrequested hnamed⟩
    · obtain ⟨before, missing, after, rfl, hbefore, hmissing⟩ := exists_first_not hnamed
      exact ⟨.error (.unknownPrimaryKeyColumn missing), .unknown hbefore hmissing⟩

namespace UnifiedSchema

variable {sources : List SourceSchema} {u : UnifiedSchema}

theorem mem_names_iff_of_merge (h : merge sources = .ok u) {name : String} :
    name ∈ u.names ↔ Names sources name := by
  cases sources with
  | nil => cases h
  | cons first rest => exact mem_names_of_merge_iff h

/-- The merged key is the one that all sources share, and empty if they share none. -/
theorem primaryKey_eq_nil_iff_of_merge (h : merge sources = .ok u) :
    u.primaryKey = [] ↔ ¬∃ key, SharesKey sources key := by
  constructor
  · intro hnone hshared
    obtain ⟨key, hkey⟩ := hshared
    have hmerged : u.primaryKey = key := (primaryKey_eq_iff_of_merge h hkey.nonempty).2 hkey.shared
    exact hkey.nonempty (hmerged.symm.trans hnone)
  · intro hnone
    by_contra hkey
    exact hnone ⟨u.primaryKey, hkey, (primaryKey_eq_iff_of_merge h hkey).1 rfl⟩

/-- The draft of a table with a key of its own. -/
def draftWith (u : UnifiedSchema) (partitionKeys : List String) (options : Dict String)
    (primaryKeys : List String) : TargetDraft where
  columns := u.fields
  primaryKeys
  partitionKeys
  options

/-- A draft has the key that its sources resolve to, or fails for the reason that they give. -/
theorem buildTarget_of_resolvesKey (h : merge sources = .ok u) {requested : List String}
    {outcome : Except Error (List String)} (hkey : ResolvesKey sources requested outcome)
    (partitionKeys : List String) (options : Dict String) :
    u.buildTarget requested partitionKeys options =
      outcome.map (u.draftWith partitionKeys options) := by
  have hnamed (key : String) : (u.column? key).isNone = true ↔ ¬Names sources key := by
    rw [column?_isNone_iff, mem_names_iff_of_merge h]
  cases hkey with
  | requested hne hall =>
    have hfound : requested.find? (fun key => (u.column? key).isNone) = none := by
      rw [List.find?_eq_none]
      intro key hkey hmissing
      exact (hnamed key).1 hmissing (hall key hkey)
    simp [buildTarget, hne, hfound, draftWith, Except.map]
  | @unknown before after missing hbefore hmissing =>
    have hfound : (before ++ missing :: after).find? (fun key => (u.column? key).isNone) =
        some missing := by
      rw [List.find?_eq_some_iff_append]
      refine ⟨(hnamed missing).2 hmissing, before, after, rfl, ?_⟩
      intro key hkey
      have hthere : ¬(u.column? key).isNone = true :=
        fun hnone => (hnamed key).1 hnone (hbefore key hkey)
      rw [Bool.not_eq_true', Bool.eq_false_iff]
      exact hthere
    simp [buildTarget, hfound, Except.map]
  | @shared key hshares =>
    have hmerged : u.primaryKey = key :=
      (primaryKey_eq_iff_of_merge h hshares.nonempty).2 hshares.shared
    simp [buildTarget, hasPrimaryKey, hmerged, hshares.nonempty, draftWith, Except.map]
  | required hnone =>
    have hmerged : u.primaryKey = [] := (primaryKey_eq_nil_iff_of_merge h).2 hnone
    simp [buildTarget, hasPrimaryKey, hmerged, Except.map]

/-- Different outcomes make different drafts. -/
theorem map_draftWith_injective (u : UnifiedSchema) (partitionKeys : List String)
    (options : Dict String) {a b : Except Error (List String)}
    (h : a.map (u.draftWith partitionKeys options) = b.map (u.draftWith partitionKeys options)) :
    a = b := by
  cases a <;> cases b
  case ok.ok key key' =>
    have hdraft : u.draftWith partitionKeys options key = u.draftWith partitionKeys options key' :=
      Except.ok.inj h
    exact congrArg Except.ok (congrArg TargetDraft.primaryKeys hdraft)
  case error.error e e' =>
    have herror : e = e' := Except.error.inj h
    rw [herror]
  all_goals cases h

/-- The key of a drafted table is decided by its sources.  Every request resolves to exactly one
key or error, and the draft has that key, or fails with that error; its columns are the merged
ones, and its partition keys and options are those that were given. -/
theorem buildTarget_of_merge (h : merge sources = .ok u) (requested partitionKeys : List String)
    (options : Dict String) :
    ∃ outcome, ResolvesKey sources requested outcome ∧
      (∀ other, ResolvesKey sources requested other → other = outcome) ∧
      u.buildTarget requested partitionKeys options =
        outcome.map (u.draftWith partitionKeys options) := by
  obtain ⟨outcome, houtcome⟩ := exists_resolvesKey sources requested
  have hdraft := buildTarget_of_resolvesKey h houtcome partitionKeys options
  refine ⟨outcome, houtcome, ?_, hdraft⟩
  intro other hother
  have hdraft' := buildTarget_of_resolvesKey h hother partitionKeys options
  exact map_draftWith_injective u partitionKeys options (hdraft'.symm.trans hdraft)

/-- Three sources of which the second has no key, although the others agree. -/
def keylessBetween : List SourceSchema :=
  [{ origin := ⟨"shop", "orders_1"⟩, columns := [⟨"id", .integer 32⟩], primaryKey := ["id"] },
   { origin := ⟨"shop", "orders_2"⟩, columns := [⟨"id", .integer 64⟩, ⟨"note", .text⟩],
     primaryKey := [] },
   { origin := ⟨"shop", "orders_3"⟩, columns := [⟨"id", .integer 32⟩], primaryKey := ["id"] }]

/-- The key that was lost to the second source does not come back with the third one. -/
theorem buildTarget_of_merge_keyless :
    ∃ u, merge keylessBetween = .ok u ∧
      u.buildTarget [] ["note"] .empty = .error .primaryKeyRequired ∧
      u.buildTarget ["note", "number", "day"] ["note"] .empty =
        .error (.unknownPrimaryKeyColumn "number") := by
  have hmerge : merge keylessBetween = .ok _ := rfl
  refine ⟨_, hmerge, ?_, ?_⟩
  · obtain ⟨outcome, -, hunique, hdraft⟩ := buildTarget_of_merge hmerge [] ["note"] .empty
    have hrequired : ResolvesKey keylessBetween [] (.error .primaryKeyRequired) := by
      refine .required ?_
      rintro ⟨key, hne, hshared⟩
      exact hne (hshared _ (.tail _ (.head _))).symm
    rw [hdraft, ← hunique _ hrequired]
    rfl
  · obtain ⟨outcome, -, hunique, hdraft⟩ :=
      buildTarget_of_merge hmerge ["note", "number", "day"] ["note"] .empty
    have hunknown : ResolvesKey keylessBetween ["note", "number", "day"]
        (.error (.unknownPrimaryKeyColumn "number")) :=
      @ResolvesKey.unknown _ ["note"] ["day"] "number" (by unfold Names; decide)
        (by unfold Names; decide)
    rw [hdraft, ← hunique _ hunknown]
    rfl

end UnifiedSchema

end ShardMerge
