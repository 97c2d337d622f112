import ShardMerge.Proofs.Catalog.Kept
import ShardMerge.Proofs.Catalog.Replay

/-!
# Versions that are committed to files

Chains of versions are committed to a warehouse that only its catalog writes to.

* `WellStored.commitSchema_cases` is one commit: it adds its version, unless a file operation fails.
  `WellStored.commitAll_cases` is the run, by induction on the chain.  Each commit makes its version
  the latest one, to which the next one is compared.
* `MemoryCatalog.GainsAll` is what the run does to the catalog that the files hold.
* `WellStored.exists_latest` says that a table of which a version is found has a latest one.
  `WellStored.reads` and `WellStored.historyIn_congr` say what is read after commits, from the table
  itself and from others.
-/

namespace ShardMerge

/-- What begins with a file operation that fails fails. -/
theorem filesFailed_bind {α β : Type} {w : World} {x : World.Action α} {f : α → World.Action β}
    (h : FilesFailed (w.exec x).1) : FilesFailed (w.exec (x >>= f)).1 := by
  obtain ⟨context, h⟩ := h
  rw [World.exec_bind]
  generalize w.exec x = result at h ⊢
  rcases result with ⟨e | a, between⟩
  · cases h
    exact ⟨context, rfl⟩
  · cases h

/-! ## Catalogs that gain versions -/

namespace MemoryCatalog

variable {c c' c'' : MemoryCatalog} {table : TableName} {next : TargetSchema}
  {versions : List TargetSchema}

/-- The history of a table is longer by some versions, and there is nothing else that is new. -/
structure GainsAll (c : MemoryCatalog) (table : TableName) (versions : List TargetSchema)
    (c' : MemoryCatalog) : Prop where
  history? : ∀ other, c'.history? other =
    if other = table then (c.history? table).map (· ++ versions) else c.history? other
  hasDatabase : ∀ database, c'.hasDatabase database = c.hasDatabase database

theorem GainsAll.refl (c : MemoryCatalog) (table : TableName) : c.GainsAll table [] c where
  history? other := by
    by_cases hother : other = table
    · rw [if_pos hother, hother]
      cases c.history? table <;> simp
    · rw [if_neg hother]
  hasDatabase _ := rfl

/-- One version is gained before the others. -/
theorem Gains.cons (h : c.Gains table next c') (hthere : (c.history? table).isSome = true)
    (hrest : c'.GainsAll table versions c'') : c.GainsAll table (next :: versions) c'' where
  history? other := by
    rw [hrest.history?]
    by_cases hother : other = table
    · obtain ⟨before, hbefore⟩ := Option.isSome_iff_exists.1 hthere
      rw [if_pos hother, if_pos hother, h.history?, if_pos rfl, history, hbefore]
      simp
    · rw [if_neg hother, if_neg hother, h.history?, if_neg hother]
  hasDatabase database := by rw [hrest.hasDatabase, h.hasDatabase]

theorem GainsAll.isSome_history? (h : c.GainsAll table versions c')
    (hthere : (c.history? table).isSome = true) : (c'.history? table).isSome = true := by
  rw [h.history?, if_pos rfl, Option.isSome_map, hthere]

theorem GainsAll.history_self (h : c.GainsAll table versions c')
    (hthere : (c.history? table).isSome = true) :
    c'.history table = c.history table ++ versions := by
  obtain ⟨before, hbefore⟩ := Option.isSome_iff_exists.1 hthere
  rw [history, h.history?, if_pos rfl, history, hbefore]
  rfl

theorem GainsAll.latest? (h : c.GainsAll table versions c') {latest : TargetSchema}
    (hlatest : c.latest? table = some latest) :
    c'.latest? table = some (versions.getLastD latest) := by
  obtain ⟨before, hbefore, _⟩ := latest?_eq_some_iff.1 hlatest
  rw [MemoryCatalog.latest?] at hlatest ⊢
  rw [h.history_self (by rw [hbefore]; rfl), List.getLast?_append, hlatest,
    List.getLastD_eq_getLast?]
  cases versions.getLast? <;> rfl

end MemoryCatalog

namespace Warehouse

open ShardMerge.Tree

variable {warehouse : Warehouse} {w : World} {t t' : Tree} {base : List String}
  {c c' : MemoryCatalog} {table : TableName} {latest next : TargetSchema}
  {versions : List TargetSchema}

/-! ## What is read -/

/-- The directory of a table is found if its path can be followed. -/
theorem WellStored.resolve_ne (h : warehouse.WellStored t base c)
    (hthere : (c.history? table).isSome = true)
    (husable : Usable (Path.text ⟨warehouse.path, table.place⟩)) :
    t.resolve true (Path.text ⟨warehouse.path, table.place⟩) ≠ .error .other := by
  have htable := h.plain table hthere
  rw [resolve_place_of_leads htable (h.holds.table table hthere) husable]
  exact nofun

/-- The history and the latest version of a table are read as the catalog has them. -/
theorem WellStored.reads (h : warehouse.WellStored t base c)
    (hthere : (c.history? table).isSome = true)
    (husable : Usable (Path.text ⟨warehouse.path, table.place⟩)) :
    warehouse.historyIn t table = .ok (c.history table) ∧
      warehouse.latestIn t table = .ok (c.latest? table) := by
  have hok := h.resolve_ne hthere husable
  exact ⟨h.holds.historyIn_eq h.numbered (h.plain table hthere) hok,
    h.holds.latestIn_eq h.numbered (h.plain table hthere) hok⟩

/-- A table whose versions can be listed has a plain name, and a path that can be followed. -/
theorem resolve_ne_of_versionsIn {numbers : List UInt64}
    (h : warehouse.versionsIn t table = .ok numbers) :
    table.IsPlain ∧ t.resolve true (Path.text ⟨warehouse.path, table.place⟩) ≠ .error .other := by
  by_cases htable : table.IsPlain
  · refine ⟨htable, fun hother => ?_⟩
    rw [versionsIn, schemaDirectory_eq warehouse htable, ok_bind, listNames, hother] at h
    cases h
  · obtain ⟨message, hdirectory⟩ := schemaDirectory_eq_error warehouse htable
    rw [versionsIn, hdirectory] at h
    cases h

/-- A version of a table is found in a tree. -/
def HasTable (warehouse : Warehouse) (t : Tree) (table : TableName) : Prop :=
  ∃ numbers, warehouse.versionsIn t table = .ok numbers ∧ numbers ≠ []

theorem hasTable_of_latestIn (h : warehouse.latestIn t table = .ok (some latest)) :
    warehouse.HasTable t table := by
  obtain ⟨numbers, _, hnumbers, hlast, _⟩ := latestIn_eq_ok_some_iff.1 h
  exact ⟨numbers, hnumbers, List.ne_nil_of_mem (List.mem_of_getLast? hlast)⟩

/-- A table that is found has a latest version, which is that of the catalog. -/
theorem WellStored.exists_latest (h : warehouse.WellStored t base c)
    (hthere : warehouse.HasTable t table) :
    Usable (Path.text ⟨warehouse.path, table.place⟩) ∧
      ∃ latest, warehouse.latestIn t table = .ok (some latest) ∧ c.latest? table = some latest ∧
        latest.version.toNat + 1 = (c.history table).length := by
  obtain ⟨numbers, hnumbers, hne⟩ := hthere
  obtain ⟨htable, hok⟩ := resolve_ne_of_versionsIn hnumbers
  rw [h.holds.versionsIn_eq h.numbered htable hok, Except.ok.injEq] at hnumbers
  have hhistory : c.history table ≠ [] := by
    intro hnil
    rw [hnil] at hnumbers
    exact hne hnumbers.symm
  have hlatest : c.latest? table = some ((c.history table).getLast hhistory) :=
    List.getLast?_eq_some_getLast hhistory
  have hlast : (c.history table)[(c.history table).length - 1]? =
      some ((c.history table).getLast hhistory) := by
    rw [← List.getLast?_eq_getElem?, List.getLast?_eq_some_getLast]
  have hnumber := h.numbered.history hlast
  have hpos := List.length_pos_iff.2 hhistory
  refine ⟨usable_of_resolve_ne hok (text_ne_empty htable.isPiece (List.cons_ne_nil _ _)),
    (c.history table).getLast hhistory, ?_, hlatest, by omega⟩
  rw [h.holds.latestIn_eq h.numbered htable hok, hlatest]

/-- There are more files than the number of the latest version. -/
theorem WellStored.toNat_lt (h : warehouse.WellStored t base c)
    (hlatest : warehouse.latestIn t table = .ok (some latest)) :
    latest.version.toNat < t.nodes.length := by
  obtain ⟨_, found, hfound, _, hnumber⟩ := h.exists_latest (hasTable_of_latestIn hlatest)
  have hsame : found = latest := by simpa using hfound.symm.trans hlatest
  have hentries : (t.entries (base ++ table.place)).length ≤ t.nodes.length :=
    List.length_filterMap_le ..
  rwa [h.length_entries table, ← hnumber, hsame] at hentries

/-- A table that a catalog does not have can be looked for in every tree if in one. -/
theorem Holds.resolve_ne_of_missing (h : warehouse.Holds t base c) (h' : warehouse.Holds t' base c')
    (htable : table.IsPlain) (hnone : c.history? table = none) (hnone' : c'.history? table = none)
    (hdatabase : c'.hasDatabase table.database = c.hasDatabase table.database)
    (hok : t.resolve true (Path.text ⟨warehouse.path, table.place⟩) ≠ .error .other) :
    t'.resolve true (Path.text ⟨warehouse.path, table.place⟩) ≠ .error .other := by
  rw [place_eq] at hok ⊢
  cases hthere : c.hasDatabase table.database with
  | true =>
    obtain ⟨hdot, hdotDot⟩ := htable.ne_dot table.table (by simp [TableName.place])
    have hfresh := h.noTable table hnone 1 Nat.zero_lt_one (by simp)
    rcases resolve_missing (h.database _ hthere).2 htable.isPiece hdot hdotDot hfresh true with
      hother | ⟨husable, hentry, _⟩
    · exact absurd hother hok
    · exact Tree.resolve_ne_of_missing (h'.database _ (hdatabase.trans hthere)).2 htable.isPiece
        hentry (h'.noTable table hnone' 1 Nat.zero_lt_one (by simp)) husable true
  | false =>
    have hroot := h.root
    have hroot' := h'.root
    rw [← List.append_nil (names warehouse.path)] at hroot hroot'
    obtain ⟨hdot, hdotDot⟩ := databaseName_ne_dot table.database
    rcases resolve_missing hroot htable.isPiece hdot hdotDot (h.noDatabase _ hthere) true with
      hother | ⟨husable, hentry, _⟩
    · exact absurd hother hok
    · exact Tree.resolve_ne_of_missing hroot' htable.isPiece hentry
        (h'.noDatabase _ (hdatabase.trans hthere)) husable true

/-- A history that a catalog still has is still read. -/
theorem WellStored.historyIn_congr (h : warehouse.WellStored t base c)
    (h' : warehouse.WellStored t' base c') (hsame : c'.history? table = c.history? table)
    (hdatabase : c'.hasDatabase table.database = c.hasDatabase table.database)
    (hversions : warehouse.historyIn t table = .ok versions) :
    warehouse.historyIn t' table = .ok versions := by
  obtain ⟨numbers, hnumbers, _⟩ := bind_eq_ok_iff.1 hversions
  obtain ⟨htable, hok⟩ := resolve_ne_of_versionsIn hnumbers
  have hok' : t'.resolve true (Path.text ⟨warehouse.path, table.place⟩) ≠ .error .other := by
    cases hhistory : c.history? table with
    | some before =>
      refine h'.resolve_ne (by rw [hsame, hhistory]; rfl) (usable_of_resolve_ne hok ?_)
      exact text_ne_empty htable.isPiece (List.cons_ne_nil _ _)
    | none =>
      exact h.holds.resolve_ne_of_missing h'.holds htable hhistory (hsame.trans hhistory) hdatabase
        hok
  rw [h.holds.historyIn_eq h.numbered htable hok] at hversions
  rw [h'.holds.historyIn_eq h'.numbered htable hok', ← hversions, MemoryCatalog.history, hsame,
    MemoryCatalog.history]

/-! ## One commit -/

/-- The next version of a table is committed, unless a file operation fails. -/
theorem WellStored.commitSchema_cases (h : warehouse.WellStored w.tree base c)
    (husable : Usable (Path.text ⟨warehouse.path, table.place⟩))
    (hlatest : c.latest? table = some latest) (hversion : next.version = nextVersion latest.version)
    (hroom : (c.history table).length < UInt64.size) (hvalid : next.updatedAt.Valid) :
    FilesFailed (w.exec (warehouse.commitSchema table next : World.Action Unit)).1 ∨
      ∃ w' c', w.exec (warehouse.commitSchema table next : World.Action Unit) = (.ok (), w') ∧
        warehouse.WellStored w'.tree base c' ∧ c.Gains table next c' := by
  obtain ⟨before, hbefore, hlast⟩ := MemoryCatalog.latest?_eq_some_iff.1 hlatest
  have hthere : (c.history? table).isSome = true := by rw [hbefore]; rfl
  have htable := h.plain table hthere
  obtain ⟨c', hcommit⟩ := MemoryCatalog.exists_commitSchema hlatest hversion
  obtain ⟨_, _, _, hgains⟩ := MemoryCatalog.gains_of_commitSchema hcommit
  have hnumber : next.version.toNat = (c.history table).length := by
    rw [MemoryCatalog.history, hbefore, Option.getD_some] at hroom ⊢
    obtain ⟨_, hlast', htoNat⟩ :=
      MemoryCatalog.toNat_nextVersion_latest h.founded h.numbered hbefore hroom
    rw [hlast, Option.some.injEq] at hlast'
    rw [hversion, hlast', htoNat]
  rw [exec_commitSchema, (h.reads hthere husable).2, hlatest]
  simp only [MemoryCatalog.checkNext_eq_ok_iff.2 hversion]
  by_cases hpath : Usable
    (Path.text ⟨warehouse.path, table.place ++ [VersionFile.name next.version]⟩)
  · obtain ⟨w', hwrite, hholds⟩ := h.holds.exec_writeVersion h.numbered htable hthere hnumber hpath
      (readText?_toJson hvalid) hgains
    refine .inr ⟨w', c', hwrite, ⟨hholds, hgains.founded h.founded,
      hgains.numbered h.numbered hnumber, fun other hother => ?_⟩, hgains⟩
    rw [hgains.history?] at hother
    by_cases hsame : other = table
    · rw [hsame]
      exact htable
    · rw [if_neg hsame] at hother
      exact h.plain other hother
  · left
    obtain ⟨journal, context, hwrite⟩ := exec_writeVersion warehouse w table htable next
    have hne : Path.text ⟨warehouse.path, table.place ++ [VersionFile.name next.version]⟩ ≠ "" :=
      text_ne_empty (htable.isPiece_version next.version) (by simp)
    rw [hwrite, createNew, resolve_of_not_usable hpath hne]
    exact ⟨context, rfl⟩

/-! ## Many commits -/

/-- A chain of versions is committed version by version, unless a file operation fails. -/
theorem WellStored.commitAll_cases (h : warehouse.WellStored w.tree base c)
    (husable : Usable (Path.text ⟨warehouse.path, table.place⟩))
    (hlatest : c.latest? table = some latest)
    (hchain : (latest :: versions).IsChain TargetSchema.Precedes)
    (hroom : (c.history table).length + versions.length ≤ UInt64.size)
    (hvalid : ∀ next ∈ versions, next.updatedAt.Valid) :
    FilesFailed (w.exec (commitAll warehouse.catalog table versions)).1 ∨
      ∃ w' c', w.exec (commitAll warehouse.catalog table versions) = (.ok (), w') ∧
        warehouse.WellStored w'.tree base c' ∧ c.GainsAll table versions c' := by
  induction versions generalizing w c latest with
  | nil => exact .inr ⟨w, c, rfl, h, .refl c table⟩
  | cons next versions ih =>
    obtain ⟨hnext, hrest⟩ := List.isChain_cons_cons.1 hchain
    rw [List.forall_mem_cons] at hvalid
    rw [List.length_cons] at hroom
    obtain ⟨before, hbefore, _⟩ := MemoryCatalog.latest?_eq_some_iff.1 hlatest
    have hthere : (c.history? table).isSome = true := by rw [hbefore]; rfl
    rcases h.commitSchema_cases husable hlatest hnext.version (by omega) hvalid.1 with
      hfailed | ⟨between, c', hdone, hstored, hgains⟩
    · exact .inl (filesFailed_bind hfailed)
    · have hexec : w.exec (commitAll warehouse.catalog table (next :: versions)) =
          between.exec (commitAll warehouse.catalog table versions) := by
        refine (World.exec_bind _ (warehouse.commitSchema table next) _).trans ?_
        rw [hdone]
      have hhistory := hgains.history_self
      have hlength := congrArg List.length hhistory
      rw [List.length_append, List.length_singleton] at hlength
      have hlatest' : c'.latest? table = some next := by
        rw [MemoryCatalog.latest?, hhistory, List.getLast?_concat]
      rw [hexec]
      rcases ih hstored hlatest' hrest (by omega) hvalid.2 with
        hfailed | ⟨w', c'', hdone', hstored', hgains'⟩
      · exact .inl hfailed
      · exact .inr ⟨w', c'', hdone', hstored', hgains.cons hthere hgains'⟩

end Warehouse

end ShardMerge
