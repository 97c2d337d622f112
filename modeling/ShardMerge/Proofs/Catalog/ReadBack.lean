import ShardMerge.Proofs.Catalog.Commits
import ShardMerge.Proofs.Catalog.VersionNames

/-!
# Reading back what was committed

What is found of a table after a commit, whatever files its directory holds.  The latest version is
the one in the file with the greatest number, but the number that a commit has to follow is the one
inside of that file.

* `getLast?_versionsOf_concat` says what the greatest number is when there is one file more.
* `exists_leads_of_versionsIn` finds the directory of a table that has versions, and
  `readIn_of_extends` says that a version is read from it as before when the tree grows.
* `Adds` is what a commit that succeeds does to the tree, as `exec_commitSchema_eq_ok` says, and
  `Adds.latestIn_eq` is the latest version then.  `eq_of_commitSchema_eq_error` says that a commit
  that fails does nothing.
* `commitSchema_readBack` is what is found of the table afterwards: the version that was committed
  exactly if its number is greater than those of the files.
-/

namespace ShardMerge.Warehouse

open ShardMerge.Tree VersionFile

variable {warehouse : Warehouse} {w w' : World} {t t' : Tree} {base : List String}
  {table : TableName} {schema latest : TargetSchema} {names : List String}
  {numbers : List UInt64} {number version : UInt64}

/-! ## The greatest number -/

theorem getLast?_versionsOf_eq_some_iff :
    (versionsOf names).getLast? = some number ↔
      number ∈ versionsOf names ∧ ∀ other ∈ versionsOf names, other ≤ number := by
  have hgreatest {last : UInt64} (h : (versionsOf names).getLast? = some last) :
      ∀ other ∈ versionsOf names, other ≤ last := by
    obtain ⟨before, hbefore⟩ := List.getLast?_eq_some_iff.1 h
    have hsorted := pairwise_versionsOf names
    rw [hbefore, List.pairwise_append] at hsorted
    rw [hbefore]
    intro other hother
    rcases List.mem_append.1 hother with hother | hother
    · exact hsorted.2.2 other hother last (List.mem_singleton_self last)
    · rw [List.mem_singleton.1 hother]
      exact UInt64.le_refl last
  constructor
  · intro h
    exact ⟨List.mem_of_getLast? h, hgreatest h⟩
  · intro h
    have hne : versionsOf names ≠ [] := List.ne_nil_of_mem h.1
    have hlast := List.getLast?_eq_some_getLast hne
    have hle := hgreatest hlast number h.1
    have hge := h.2 _ (List.getLast_mem hne)
    rw [hlast, UInt64.le_antisymm hge hle]

theorem mem_versionsOf_concat :
    number ∈ versionsOf (names ++ [name version]) ↔
      number ∈ versionsOf names ∨ number = version := by
  rw [mem_versionsOf_iff, mem_versionsOf_iff]
  simp only [List.mem_append, List.mem_singleton, or_and_right, exists_or, exists_eq_left,
    ← read?_eq_some_iff, read?_name, Option.some.injEq, eq_comm]

/-- With the file of one more version, the greatest number is that of the version or the one
before. -/
theorem getLast?_versionsOf_concat (h : (versionsOf names).getLast? = some number) :
    (versionsOf (names ++ [name version])).getLast? =
      some (if number < version then version else number) := by
  rw [getLast?_versionsOf_eq_some_iff] at h ⊢
  simp only [mem_versionsOf_concat]
  split
  · rename_i hless
    refine ⟨.inr rfl, fun other hother => ?_⟩
    rcases hother with hother | rfl
    · exact UInt64.le_trans (h.2 other hother) (UInt64.le_of_lt hless)
    · exact UInt64.le_refl _
  · rename_i hless
    refine ⟨.inl h.1, fun other hother => ?_⟩
    rcases hother with hother | rfl
    · exact h.2 other hother
    · exact UInt64.not_lt.1 hless

/-! ## The directory of a table -/

/-- A table that has versions has a directory, which its path leads to. -/
theorem exists_leads_of_versionsIn (h : warehouse.versionsIn t table = .ok numbers)
    (hne : numbers ≠ []) :
    table.IsPlain ∧ ∃ base, t.Leads (Tree.names warehouse.path ++ table.place) base ∧
      Usable (Path.text ⟨warehouse.path, table.place⟩) ∧
      numbers = versionsOf (t.entries base) := by
  obtain ⟨htable, _⟩ := resolve_ne_of_versionsIn h
  rw [versionsIn, schemaDirectory_eq warehouse htable, ok_bind, listNames] at h
  rcases hresolve : t.resolve true (Path.text ⟨warehouse.path, table.place⟩) with
    (_ | _ | _) | ⟨base, _ | _ | _ | _⟩
  case ok.some.directory =>
    simp only [hresolve, ok_bind] at h
    cases h
    obtain ⟨husable, hwalks⟩ := resolve_eq_ok_iff.1 hresolve
    have hleads := walks_components_iff.1 hwalks
    rw [names_place htable] at hleads
    exact ⟨htable, base, hleads, husable, rfl⟩
  all_goals
    rw [hresolve] at h
    cases h
    try exact absurd rfl hne

/-- A version is read as before when the tree grows. -/
theorem readIn_of_extends (h : warehouse.readIn t table version = .ok schema)
    (hextends : t.Extends t') : warehouse.readIn t' table version = .ok schema := by
  unfold readIn at h ⊢
  obtain ⟨path, hpath, h⟩ := bind_eq_ok_iff.1 h
  rw [hpath, ok_bind]
  cases htext : t.readText path.text with
  | error fault =>
    rw [htext] at h
    cases h
  | ok text =>
    rw [htext] at h
    rw [readText_of_extends htext hextends]
    exact h

/-- A version that is read has a file. -/
theorem find?_ne_none_of_readIn (htable : table.IsPlain)
    (hleads : t.Leads (Tree.names warehouse.path ++ table.place) base)
    (h : warehouse.readIn t table version = .ok schema) :
    t.find? (base ++ [name version]) ≠ none := by
  intro hnone
  obtain ⟨hdot, hdotDot⟩ := ne_dot version
  rw [readIn, versionPath_eq warehouse htable, ok_bind, readText] at h
  rcases resolve_missing hleads (htable.isPiece_version version) hdot hdotDot hnone true with
    hresolve | ⟨_, _, hresolve⟩
  · rw [hresolve] at h
    cases h
  · rw [hresolve] at h
    cases h

/-! ## The latest version -/

/-- A tree with the file of one version more. -/
structure Adds (warehouse : Warehouse) (t t' : Tree) (base : List String) (table : TableName)
    (schema : TargetSchema) : Prop where
  isPlain : table.IsPlain
  leads : t.Leads (Tree.names warehouse.path ++ table.place) base
  directory : Usable (Path.text ⟨warehouse.path, table.place⟩)
  file : Usable (Path.text ⟨warehouse.path, table.place ++ [name schema.version]⟩)
  fresh : t.find? (base ++ [name schema.version]) = none
  readable : Json.readText? (toJson schema).pretty = some schema
  eq_put : t' = t.put (base ++ [name schema.version]) (.file (toJson schema).pretty)

theorem Adds.extends (h : warehouse.Adds t t' base table schema) : t.Extends t' := by
  rw [h.eq_put]
  exact extends_put h.fresh _

theorem Adds.versionsIn_eq (h : warehouse.Adds t t' base table schema) :
    warehouse.versionsIn t' table =
      .ok (versionsOf (t.entries base ++ [name schema.version])) := by
  rw [versionsIn_of_leads h.isPlain (h.leads.of_extends h.extends) h.directory, h.eq_put,
    entries_put (by simp), List.dropLast_concat, List.getLast_concat, h.fresh]
  simp

/-- The new version is read from its file. -/
theorem Adds.readIn_eq (h : warehouse.Adds t t' base table schema) :
    warehouse.readIn t' table schema.version = .ok schema := by
  refine readIn_of_file h.isPlain (h.leads.of_extends h.extends) h.file ?_ h.readable
  rw [h.eq_put, find?_put (by simp), if_pos rfl]

/-- The latest version is the new one if its number is the greatest, and the one before if not. -/
theorem Adds.latestIn_eq (h : warehouse.Adds t t' base table schema)
    (hlast : (versionsOf (t.entries base)).getLast? = some number)
    (hread : warehouse.readIn t table number = .ok latest) :
    warehouse.latestIn t' table =
      .ok (some (if number < schema.version then schema else latest)) := by
  refine latestIn_eq_ok_some_iff.2 ⟨_, _, h.versionsIn_eq, getLast?_versionsOf_concat hlast, ?_⟩
  split
  · exact h.readIn_eq
  · exact readIn_of_extends hread h.extends

/-! ## Commits -/

/-- A commit that fails leaves the world as it was. -/
theorem eq_of_commitSchema_eq_error {e : Error}
    (h : w.exec (warehouse.commitSchema table schema : World.Action Unit) = (.error e, w')) :
    w' = w := by
  rw [exec_commitSchema] at h
  rcases hlatest : warehouse.latestIn w.tree table with _ | _ | latest
  case ok.some =>
    obtain ⟨_, _, hnumbers, _, _⟩ := latestIn_eq_ok_some_iff.1 hlatest
    obtain ⟨htable, _⟩ := resolve_ne_of_versionsIn hnumbers
    obtain ⟨journal, context, hwrite⟩ := exec_writeVersion warehouse w table htable schema
    simp only [hlatest, hwrite] at h
    split at h
    · cases h
      rfl
    · split at h
      · cases h
      · cases h
        rfl
      · cases h
        rfl
  all_goals
    rw [hlatest] at h
    cases h
    rfl

/-- A commit succeeds where its version follows the latest one, and its file can be created. -/
theorem commitSchema_eq_ok_iff :
    (∃ w', w.exec (warehouse.commitSchema table schema : World.Action Unit) = (.ok (), w') ∧
        w'.tree = t') ↔
      ∃ latest, warehouse.latestIn w.tree table = .ok (some latest) ∧
        schema.version = nextVersion latest.version ∧
        w.tree.createNew (Path.text ⟨warehouse.path, table.place ++ [name schema.version]⟩)
          (toJson schema).pretty = .ok t' := by
  rw [exec_commitSchema]
  rcases hlatest : warehouse.latestIn w.tree table with _ | _ | latest
  case ok.some =>
    obtain ⟨_, _, hnumbers, _, _⟩ := latestIn_eq_ok_some_iff.1 hlatest
    obtain ⟨htable, _⟩ := resolve_ne_of_versionsIn hnumbers
    obtain ⟨journal, context, hwrite⟩ := exec_writeVersion warehouse w table htable schema
    have hcheck : schema.version = nextVersion latest.version ↔
        checkNext table latest schema = .ok () := MemoryCatalog.checkNext_eq_ok_iff.symm
    simp only [Except.ok.injEq, Option.some.injEq, exists_eq_left', hwrite, hcheck]
    cases checkNext table latest schema with
    | error e => simp
    | ok _ =>
      rcases w.tree.createNew (Path.text ⟨warehouse.path, table.place ++ [name schema.version]⟩)
        (toJson schema).pretty with (_ | _ | _) | tree
      all_goals simp
  all_goals simp

/-- A commit that succeeds adds the file of its version, which follows the latest one. -/
theorem exec_commitSchema_eq_ok (hvalid : schema.updatedAt.Valid)
    (h : w.exec (warehouse.commitSchema table schema : World.Action Unit) = (.ok (), w')) :
    ∃ base number latest, warehouse.Adds w.tree w'.tree base table schema ∧
      warehouse.versionsIn w.tree table = .ok (versionsOf (w.tree.entries base)) ∧
      (versionsOf (w.tree.entries base)).getLast? = some number ∧
      warehouse.readIn w.tree table number = .ok latest ∧
      schema.version = nextVersion latest.version := by
  obtain ⟨latest, hlatest, hversion, hcreate⟩ := commitSchema_eq_ok_iff.1 ⟨w', h, rfl⟩
  obtain ⟨numbers, number, hnumbers, hlast, hread⟩ := latestIn_eq_ok_some_iff.1 hlatest
  have hne : numbers ≠ [] := List.ne_nil_of_mem (List.mem_of_getLast? hlast)
  obtain ⟨htable, base, hleads, husable, rfl⟩ := exists_leads_of_versionsIn hnumbers hne
  obtain ⟨hfile, hfresh, hput⟩ := eq_put_of_createNew hleads
    (htable.isPiece_version schema.version) (isEntryName schema.version) hcreate
  exact ⟨base, number, latest,
    ⟨htable, hleads, husable, hfile, hfresh, readText?_toJson hvalid, hput⟩, hnumbers, hlast, hread,
    hversion⟩

/-- The number after a version is greater, unless it is the same. -/
theorem lt_nextVersion (h : nextVersion version ≠ version) : version < nextVersion version := by
  by_cases hroom : version.toNat + 1 < UInt64.size
  · rw [UInt64.lt_iff_toNat_lt, toNat_nextVersion hroom]
    exact Nat.lt_succ_self _
  · exact absurd (if_neg hroom) h

/-- Only the greatest number is the one after itself. -/
theorem le_of_nextVersion_eq (h : nextVersion version = version) (number : UInt64) :
    number ≤ version := by
  have hlast : ¬version.toNat + 1 < UInt64.size := by
    intro hroom
    have hnext := congrArg UInt64.toNat h
    rw [toNat_nextVersion hroom] at hnext
    omega
  have hnumber := number.toNat_lt_size
  rw [UInt64.le_iff_toNat_le]
  omega

/-- What is found of a table after a commit, whatever files its directory holds.

* After a commit that fails, the same as before.
* After a commit that succeeds, the version that was committed if its number is greater than the
  numbers of the files.  If not, the same as before; then the last file does not hold the version
  that it is named for. -/
theorem commitSchema_readBack (w : World) (hvalid : schema.updatedAt.Valid) :
    let found (w : World) := (w.exec (warehouse.catalog.getTable table : World.Action _)).1
    (∀ e, w.exec (warehouse.catalog.commitSchema table schema : World.Action Unit) =
        (.error e, w') → found w' = found w) ∧
    (w.exec (warehouse.catalog.commitSchema table schema : World.Action Unit) = (.ok (), w') →
      ∃ numbers number latest,
        w.exec (warehouse.versions table : World.Action (List UInt64)) = (.ok numbers, w) ∧
        numbers.getLast? = some number ∧ found w = .ok (some latest) ∧
        ((number < schema.version ∧ found w' = .ok (some schema)) ∨
          (schema.version < number ∧ found w' = .ok (some latest) ∧ latest ≠ schema ∧
            latest.version ≠ number))) := by
  simp only [exec_getTable, exec_versions]
  constructor
  · intro e h
    rw [eq_of_commitSchema_eq_error h]
  · intro h
    obtain ⟨base, number, latest, hadds, hnumbers, hlast, hread, hversion⟩ :=
      exec_commitSchema_eq_ok hvalid h
    have hlatest := latestIn_eq_ok_some_iff.2 ⟨_, _, hnumbers, hlast, hread⟩
    -- The last file is another one, since the one of the new version was not there.
    have hne : number ≠ schema.version := by
      rintro rfl
      exact find?_ne_none_of_readIn hadds.isPlain hadds.leads hread hadds.fresh
    refine ⟨_, number, latest, by rw [hnumbers], hlast, hlatest, ?_⟩
    rw [hadds.latestIn_eq hlast hread]
    by_cases hless : number < schema.version
    · exact .inl ⟨hless, by rw [if_pos hless]⟩
    · right
      refine ⟨UInt64.lt_of_le_of_ne (UInt64.not_lt.1 hless) hne.symm, by rw [if_neg hless], ?_, ?_⟩
      · rintro rfl
        exact hless (UInt64.lt_of_le_of_ne (le_of_nextVersion_eq hversion.symm number) hne)
      · rintro rfl
        rw [hversion] at hless hne
        exact hless (lt_nextVersion hne.symm)

/-- A table in the warehouse. -/
def orders : TableName := ⟨"dw", "orders"⟩

/-- A version of the table. -/
def ordersVersion (version : UInt64) : TargetSchema where
  version
  fields := [⟨"id", .integer 64⟩]
  primaryKeys := ["id"]
  updatedAt := ⟨2024, 1, 1, 0, 0, 0, 0⟩

/-- A world with a file of a version, which can be named for another one. -/
def ordersNamed (number version : UInt64) : World :=
  ordersHolding [(name number, (toJson (ordersVersion version)).pretty)]

theorem versionsIn_ordersNamed
    (hnames : contentsIn (ordersNamed number version).tree ⟨"w", orders.place⟩ = .ok [name number]) :
    (Warehouse.mk "w").versionsIn (ordersNamed number version).tree orders = .ok [number] := by
  have hplain : orders.IsPlain := by decide
  have hsingle : versionsOf [name number] = [number] :=
    versionsOf_map_name (List.pairwise_singleton _ number)
  rw [versionsIn_of_contentsIn (schemaDirectory_eq ⟨"w"⟩ hplain) hnames, hsingle]

theorem leads_ordersNamed : (ordersNamed number version).tree.Leads
    (Tree.names "w" ++ orders.place) ["w", "dw.db", "orders", "schema"] :=
  (((Leads.enter (leads_nil _) ⟨by decide, by decide, by decide⟩ rfl).enter
    ⟨by decide, by decide, by decide⟩ rfl).enter
    ⟨by decide, by decide, by decide⟩ rfl).enter ⟨by decide, by decide, by decide⟩ rfl

theorem readIn_ordersNamed
    (husable : Usable (Path.text ⟨"w", orders.place ++ [name number]⟩)) :
    (Warehouse.mk "w").readIn (ordersNamed number version).tree orders number =
      .ok (ordersVersion version) := by
  have hplain : orders.IsPlain := by decide
  have hvalid : (⟨2024, 1, 1, 0, 0, 0, 0⟩ : Timestamp).Valid := by decide
  refine readIn_of_file hplain leads_ordersNamed husable ?_ (readText?_toJson hvalid)
  simp [ordersNamed, ordersHolding, find?]

/-- The next version is committed if its file can be created. -/
theorem exists_commitSchema_ordersNamed
    (hnames : contentsIn (ordersNamed number version).tree ⟨"w", orders.place⟩ = .ok [name number])
    (husable : Usable (Path.text ⟨"w", orders.place ++ [name number]⟩))
    (hcreate : ((ordersNamed number version).tree.createNew
      (Path.text ⟨"w", orders.place ++ [name (nextVersion version)]⟩)
      (toJson (ordersVersion (nextVersion version))).pretty).isOk = true) :
    ∃ w', (ordersNamed number version).exec ((Warehouse.mk "w").catalog.commitSchema orders
      (ordersVersion (nextVersion version)) : World.Action Unit) = (.ok (), w') := by
  have hlatest := latestIn_eq_ok_some_iff.2
    ⟨_, number, versionsIn_ordersNamed hnames, List.getLast?_singleton, readIn_ordersNamed husable⟩
  have hversion : (ordersVersion (nextVersion version)).version =
      nextVersion (ordersVersion version).version := by simp only [ordersVersion]
  cases hnew : (ordersNamed number version).tree.createNew
      (Path.text ⟨"w", orders.place ++ [name (nextVersion version)]⟩)
      (toJson (ordersVersion (nextVersion version))).pretty with
  | error fault =>
    rw [hnew] at hcreate
    cases hcreate
  | ok t' =>
    obtain ⟨w', hcommit, _⟩ := commitSchema_eq_ok_iff.2 ⟨_, hlatest, hversion, hnew⟩
    exact ⟨w', hcommit⟩

theorem commitSchema_readBack_orders :
    (ordersVersion 1).updatedAt.Valid ∧
      ∃ w', (ordersNamed 0 0).exec ((Warehouse.mk "w").catalog.commitSchema orders
          (ordersVersion 1) : World.Action Unit) = (.ok (), w') ∧
        (w'.exec ((Warehouse.mk "w").catalog.getTable orders : World.Action _)).1 =
          .ok (some (ordersVersion 1)) := by
  have hvalid : (ordersVersion 1).updatedAt.Valid := by decide
  have hnames : contentsIn (ordersNamed 0 0).tree ⟨"w", orders.place⟩ = .ok [name 0] := by
    decide +kernel
  obtain ⟨w', hcommit⟩ := exists_commitSchema_ordersNamed hnames
    ⟨by decide +kernel, by decide +kernel, by decide +kernel⟩ (by decide +kernel)
  refine ⟨hvalid, w', hcommit, ?_⟩
  obtain ⟨numbers, number, latest, hexec, hlast, _, h⟩ :=
    (commitSchema_readBack (ordersNamed 0 0) hvalid).2 hcommit
  rw [exec_versions, versionsIn_ordersNamed hnames] at hexec
  cases hexec
  cases hlast
  rcases h with ⟨_, hfound⟩ | ⟨hless, _⟩
  · exact hfound
  · exact absurd hless (by decide)

/-- Where the last file holds another version than it is named for, a version that is committed
without an error is not found. -/
theorem commitSchema_readBack_lost :
    ∃ w', (ordersNamed 5 2).exec ((Warehouse.mk "w").catalog.commitSchema orders
        (ordersVersion 3) : World.Action Unit) = (.ok (), w') ∧
      (w'.exec ((Warehouse.mk "w").catalog.getTable orders : World.Action _)).1 =
        .ok (some (ordersVersion 2)) ∧
      ordersVersion 2 ≠ ordersVersion 3 := by
  have hnames : contentsIn (ordersNamed 5 2).tree ⟨"w", orders.place⟩ = .ok [name 5] := by
    decide +kernel
  have husable : Usable (Path.text ⟨"w", orders.place ++ [name 5]⟩) :=
    ⟨by decide +kernel, by decide +kernel, by decide +kernel⟩
  obtain ⟨w', hcommit⟩ := exists_commitSchema_ordersNamed hnames husable (by decide +kernel)
  obtain ⟨base, number, latest, hadds, hnumbers, hlast, hread, _⟩ :=
    exec_commitSchema_eq_ok (by decide) hcommit
  refine ⟨w', hcommit, ?_, by decide⟩
  rw [versionsIn_ordersNamed hnames, Except.ok.injEq] at hnumbers
  rw [← hnumbers] at hlast
  cases hlast
  cases (readIn_ordersNamed husable).symm.trans hread
  rw [exec_getTable, hadds.latestIn_eq (by rw [← hnumbers]; rfl) hread]
  rfl

end ShardMerge.Warehouse
