import ShardMerge.Proofs.Catalog.Lookup
import ShardMerge.Proofs.Catalog.Session

/-!
# Catalogs that are stored in files

When a file tree holds the same as a catalog in memory, what is read from it then, and which new
directories and files keep it so.

* `Warehouse.Holds` relates a tree to a catalog.  It says where there is a directory or a file, and
  where there is none.
* `Holds.isThereIn_eq`, `Holds.versionsIn_eq`, `Holds.latestIn_eq` and `Holds.historyIn_eq` are what
  is read: what the catalog in memory answers.
* `Holds.withDatabase`, `Holds.withTable` and `Holds.gains` are the steps by which tree and catalog
  change together: a directory for a database, directories for a table, and a file for a version.
-/

namespace ShardMerge.Warehouse

open ShardMerge.Tree

variable {warehouse : Warehouse} {t t' : Tree} {base : List String} {c c' : MemoryCatalog}
  {database : String} {table : TableName} {schema : TargetSchema}

/-- The version of a table is in its file, and can be read from there. -/
structure Stores (warehouse : Warehouse) (t : Tree) (base : List String) (table : TableName)
    (schema : TargetSchema) : Prop where
  usable : Usable (Path.text
    ⟨warehouse.path, table.place ++ [VersionFile.name schema.version]⟩)
  file : t.find? (base ++ table.place ++ [VersionFile.name schema.version]) =
    some (.file (toJson schema).pretty)
  readable : Json.readText? (toJson schema).pretty = some schema

/-- A tree holds a catalog in the directory of a warehouse: there is a directory for each database
and for each table, with a file for each version, and none for any other. -/
structure Holds (warehouse : Warehouse) (t : Tree) (base : List String) (c : MemoryCatalog) :
    Prop where
  root : t.Leads (names warehouse.path) base
  database : ∀ database, c.hasDatabase database = true →
    Usable (Path.text ⟨warehouse.path, [databaseName database]⟩) ∧
      t.Leads (names warehouse.path ++ [databaseName database]) (base ++ [databaseName database])
  noDatabase : ∀ database, c.hasDatabase database = false →
    t.find? (base ++ [databaseName database]) = none
  table : ∀ table, (c.history? table).isSome = true →
    t.Leads (names warehouse.path ++ table.place) (base ++ table.place)
  noTable : ∀ table, c.history? table = none →
    t.Fresh (base ++ [databaseName table.database]) [table.table, "schema"]
  versions : ∀ table, t.entries (base ++ table.place) =
    (c.history table).map fun schema => VersionFile.name schema.version
  stores : ∀ table, ∀ schema ∈ c.history table, warehouse.Stores t base table schema

/-- An empty directory holds an empty catalog. -/
theorem holds_empty (hroot : t.Leads (names warehouse.path) base) (hempty : t.NothingBelow base) :
    warehouse.Holds t base {} where
  root := hroot
  database _ h := by cases h
  noDatabase _ _ := hempty _ (List.cons_ne_nil _ _)
  table _ h := by cases h
  noTable table _ := by
    intro count _ _
    rw [List.append_assoc]
    exact hempty _ (by simp)
  versions table := by
    refine List.eq_nil_iff_forall_not_mem.2 fun name hname => ?_
    rw [mem_entries_iff, List.append_assoc, hempty _ (by simp)] at hname
    cases hname
  stores _ _ h := by cases h

/-! ## What is read -/

/-- Versions in order are found in order. -/
theorem versionsOf_map_name {versions : List UInt64} (h : versions.Pairwise (· ≤ ·)) :
    versionsOf (versions.map VersionFile.name) = versions := by
  have hread : VersionFile.read? ∘ VersionFile.name = some := funext VersionFile.read?_name
  rw [versionsOf, List.filterMap_map, hread, List.filterMap_some,
    List.mergeSort_of_pairwise (by simpa using h)]

theorem pairwise_versions (h : c.Numbered) (table : TableName) :
    ((c.history table).map (·.version)).Pairwise (· ≤ ·) := by
  rw [List.pairwise_map, List.pairwise_iff_getElem]
  intro i j hi hj hless
  rw [UInt64.le_iff_toNat_le, h.history (List.getElem?_eq_getElem hi),
    h.history (List.getElem?_eq_getElem hj)]
  exact hless.le

/-- A version is read from its file in the directory of the table, wherever that is. -/
theorem readIn_of_file {version : UInt64} {text : String} (htable : table.IsPlain)
    (hleads : t.Leads (names warehouse.path ++ table.place) base)
    (husable : Usable (Path.text ⟨warehouse.path, table.place ++ [VersionFile.name version]⟩))
    (hfile : t.find? (base ++ [VersionFile.name version]) = some (.file text))
    (hreadable : Json.readText? text = some schema) :
    warehouse.readIn t table version = .ok schema := by
  obtain ⟨left, hleft⟩ := resolve_text hleads (htable.isPiece_version version)
    (List.cons_ne_nil _ _) husable
  have hresolve : t.resolve true
      (Path.text ⟨warehouse.path, table.place ++ [VersionFile.name version]⟩) =
        .ok ⟨base ++ [VersionFile.name version], some (.file text)⟩ := by
    rw [hleft true, walkLinks_last (VersionFile.isEntryName version)
      (fun target => by rw [hfile]; simp), hfile]
  rw [readIn, versionPath_eq warehouse htable, ok_bind, readText, hresolve]
  simp only [ok_bind, hreadable]

/-- A version that is stored is read. -/
theorem Stores.readIn_eq (h : warehouse.Stores t base table schema) (htable : table.IsPlain)
    (hleads : t.Leads (names warehouse.path ++ table.place) (base ++ table.place)) :
    warehouse.readIn t table schema.version = .ok schema :=
  readIn_of_file htable hleads h.usable h.file h.readable

section Reading

variable (h : warehouse.Holds t base c)

include h

theorem Holds.isThereIn_eq (hname : isPlainName database = true) :
    isThereIn t ⟨warehouse.path, [databaseName database]⟩ = c.hasDatabase database := by
  cases hdatabase : c.hasDatabase database with
  | true =>
    obtain ⟨husable, hleads⟩ := h.database database hdatabase
    rw [← names_databasePath hname] at hleads
    exact isThereIn_of_leads husable hleads
  | false => exact isThereIn_of_missing h.root hname (h.noDatabase database hdatabase)

/-- Without a table, there is nothing at its place, even if it could be there. -/
theorem Holds.resolve_place (htable : table.IsPlain) (hnone : c.history? table = none)
    (hok : t.resolve true (Path.text ⟨warehouse.path, table.place⟩) ≠ .error .other) :
    t.resolve true (Path.text ⟨warehouse.path, table.place⟩) = .error .notFound := by
  cases hdatabase : c.hasDatabase table.database with
  | true =>
    have hfresh := h.noTable table hnone 1 Nat.zero_lt_one (by simp)
    obtain ⟨hdot, hdotDot⟩ := htable.ne_dot table.table (by simp [TableName.place])
    rw [place_eq] at hok ⊢
    rcases resolve_missing (h.database _ hdatabase).2 htable.isPiece hdot hdotDot hfresh true with
      hother | ⟨_, _, hmissing⟩
    · exact absurd hother hok
    · rw [hmissing, if_neg (List.cons_ne_nil _ _)]
  | false =>
    have hroot := h.root
    rw [← List.append_nil (names warehouse.path)] at hroot
    obtain ⟨hdot, hdotDot⟩ := databaseName_ne_dot table.database
    rcases resolve_missing hroot htable.isPiece hdot hdotDot (h.noDatabase _ hdatabase) true with
      hother | ⟨_, _, hmissing⟩
    · exact absurd hother hok
    · exact hmissing.trans (if_neg (List.cons_ne_nil _ _))

/-- The versions that are found are those of the catalog, in order. -/
theorem Holds.versionsIn_eq (hnumbered : c.Numbered) (htable : table.IsPlain)
    (hok : t.resolve true (Path.text ⟨warehouse.path, table.place⟩) ≠ .error .other) :
    warehouse.versionsIn t table = .ok ((c.history table).map (·.version)) := by
  cases hversions : c.history? table with
  | none =>
    rw [versionsIn, schemaDirectory_eq warehouse htable, ok_bind, listNames,
      h.resolve_place htable hversions hok, MemoryCatalog.history, hversions]
    rfl
  | some versions =>
    have husable := usable_of_resolve_ne hok (text_ne_empty htable.isPiece (List.cons_ne_nil _ _))
    have hleads := h.table table (by rw [hversions]; rfl)
    rw [versionsIn_of_leads htable hleads husable, h.versions table,
      ← versionsOf_map_name (pairwise_versions hnumbered table), List.map_map]
    rfl

theorem Holds.readIn_eq (htable : table.IsPlain) (hschema : schema ∈ c.history table) :
    warehouse.readIn t table schema.version = .ok schema := by
  refine (h.stores table schema hschema).readIn_eq htable (h.table table ?_)
  cases hversions : c.history? table with
  | none =>
    rw [MemoryCatalog.history, hversions] at hschema
    cases hschema
  | some versions => rfl

/-- The latest version that is found is that of the catalog. -/
theorem Holds.latestIn_eq (hnumbered : c.Numbered) (htable : table.IsPlain)
    (hok : t.resolve true (Path.text ⟨warehouse.path, table.place⟩) ≠ .error .other) :
    warehouse.latestIn t table = .ok (c.latest? table) := by
  rw [latestIn, h.versionsIn_eq hnumbered htable hok, ok_bind, List.getLast?_map,
    MemoryCatalog.latest?]
  cases hlatest : (c.history table).getLast? with
  | none => rfl
  | some latest =>
    simp only [Option.map_some, h.readIn_eq htable (List.mem_of_getLast? hlatest)]
    rfl

/-- The history that is found is that of the catalog. -/
theorem Holds.historyIn_eq (hnumbered : c.Numbered) (htable : table.IsPlain)
    (hok : t.resolve true (Path.text ⟨warehouse.path, table.place⟩) ≠ .error .other) :
    warehouse.historyIn t table = .ok (c.history table) := by
  rw [historyIn, h.versionsIn_eq hnumbered htable hok, ok_bind, mapM_eq_ok_iff,
    List.forall₂_map_left_iff, List.forall₂_same]
  exact fun schema hschema => h.readIn_eq htable hschema

end Reading

/-! ## What is written -/

theorem Stores.of_extends (h : warehouse.Stores t base table schema) (hextends : t.Extends t') :
    warehouse.Stores t' base table schema := ⟨h.usable, hextends _ _ h.file, h.readable⟩

/-- A new directory for a database. -/
theorem Holds.withDatabase (h : warehouse.Holds t base c) (hmissing : c.hasDatabase database = false)
    (husable : Usable (Path.text ⟨warehouse.path, [databaseName database]⟩))
    (hentry : IsEntryName (databaseName database)) :
    warehouse.Holds (t.put (base ++ [databaseName database]) .directory) base
      (c.withDatabase database) := by
  have hne : base ++ [databaseName database] ≠ [] := by simp
  have hextends := extends_put (h.noDatabase database hmissing) .directory
  constructor
  case root => exact h.root.of_extends hextends
  case database =>
    intro other hother
    rw [MemoryCatalog.hasDatabase_withDatabase, Bool.or_eq_true, decide_eq_true_eq] at hother
    rcases hother with rfl | hother
    · exact ⟨husable, (h.root.of_extends hextends).enter hentry (by rw [find?_put hne, if_pos rfl])⟩
    · exact ⟨(h.database other hother).1, (h.database other hother).2.of_extends hextends⟩
  case noDatabase =>
    intro other hother
    rw [MemoryCatalog.hasDatabase_withDatabase, Bool.or_eq_false_iff, decide_eq_false_iff_not]
      at hother
    rw [find?_put hne, if_neg, h.noDatabase other hother.2]
    simpa using fun heq => hother.1 (databaseName_injective heq)
  case table =>
    intro table htable
    rw [MemoryCatalog.history?_withDatabase] at htable
    exact (h.table table htable).of_extends hextends
  case noTable =>
    intro table hnone
    rw [MemoryCatalog.history?_withDatabase] at hnone
    refine (h.noTable table hnone).put hne (fun count hpos hcount heq => ?_) .directory
    have hlength := congrArg List.length heq
    simp only [List.length_append, List.length_take, List.length_singleton] at hlength
    omega
  case versions =>
    intro table
    rw [entries_put hne, if_pos (.inr (by simp [TableName.place])), h.versions table,
      MemoryCatalog.history_withDatabase]
  case stores =>
    intro table schema hschema
    rw [MemoryCatalog.history_withDatabase] at hschema
    exact (h.stores table schema hschema).of_extends hextends

/-- New directories for a table, which has no versions yet. -/
theorem Holds.withTable (h : warehouse.Holds t base c)
    (hdatabase : c.hasDatabase table.database = true) (hmissing : c.history? table = none)
    (hentry : ∀ name ∈ [table.table, "schema"], IsEntryName name)
    (hhistory : ∀ other, c'.history? other = if other = table then some [] else c.history? other)
    (hsame : ∀ database, c'.hasDatabase database = c.hasDatabase database) :
    warehouse.Holds
      (t.withDirectories (base ++ [databaseName table.database]) [table.table, "schema"]) base c' := by
  have hfresh := h.noTable table hmissing
  have hextends := extends_withDirectories hfresh
  have hversions (other : TableName) : c'.history other = c.history other := by
    rw [MemoryCatalog.history, hhistory, MemoryCatalog.history]
    by_cases hother : other = table
    · rw [if_pos hother, hother, hmissing]
      rfl
    · rw [if_neg hother]
  constructor
  case root => exact h.root.of_extends hextends
  case database =>
    intro other hother
    rw [hsame] at hother
    exact ⟨(h.database other hother).1, (h.database other hother).2.of_extends hextends⟩
  case noDatabase =>
    intro other hother
    rw [hsame] at hother
    rw [find?_withDirectories_beside, h.noDatabase other hother]
    intro hprefix
    have hlength := hprefix.length_le
    simp at hlength
  case table =>
    intro other hother
    rw [hhistory] at hother
    by_cases heq : other = table
    · have hleads := leads_withDirectories (h.database _ hdatabase).2 hentry hfresh
      rw [heq, place_eq, ← List.append_assoc, ← List.append_assoc]
      exact hleads
    · rw [if_neg heq] at hother
      exact (h.table other hother).of_extends hextends
  case noTable =>
    intro other hnone count hpos hcount
    rw [hhistory] at hnone
    by_cases heq : other = table
    · rw [if_pos heq] at hnone
      cases hnone
    · rw [if_neg heq] at hnone
      rw [find?_withDirectories_beside, h.noTable other hnone count hpos hcount]
      intro hprefix
      obtain ⟨more, rfl⟩ := Nat.exists_eq_succ_of_ne_zero hpos.ne'
      rw [List.append_assoc, List.append_assoc, List.prefix_append_right_inj] at hprefix
      simp only [List.singleton_append, List.take_succ_cons, List.cons_prefix_cons] at hprefix
      exact heq (TableName.eq_of_names hprefix.1 hprefix.2.1).symm
  case versions =>
    intro other
    rw [entries_withDirectories (by simp [TableName.place]), h.versions other, hversions]
  case stores =>
    intro other schema hschema
    rw [hversions] at hschema
    exact (h.stores other schema hschema).of_extends hextends

/-- A new file for a version. -/
theorem Holds.gains (h : warehouse.Holds t base c) (hgains : c.Gains table schema c')
    (hthere : (c.history? table).isSome = true)
    (hnew : t.find? (base ++ table.place ++ [VersionFile.name schema.version]) = none)
    (husable : Usable (Path.text
      ⟨warehouse.path, table.place ++ [VersionFile.name schema.version]⟩))
    (hreadable : Json.readText? (toJson schema).pretty = some schema) :
    warehouse.Holds (t.put (base ++ table.place ++ [VersionFile.name schema.version])
      (.file (toJson schema).pretty)) base c' := by
  have hne : base ++ table.place ++ [VersionFile.name schema.version] ≠ [] := by simp
  have hextends := extends_put hnew (.file (toJson schema).pretty)
  constructor
  case root => exact h.root.of_extends hextends
  case database =>
    intro other hother
    rw [hgains.hasDatabase] at hother
    exact ⟨(h.database other hother).1, (h.database other hother).2.of_extends hextends⟩
  case noDatabase =>
    intro other hother
    rw [hgains.hasDatabase] at hother
    rw [find?_put hne, if_neg (by simp [TableName.place]), h.noDatabase other hother]
  case table =>
    intro other hother
    rw [hgains.history?] at hother
    refine (h.table other ?_).of_extends hextends
    by_cases heq : other = table
    · rw [heq, hthere]
    · rwa [if_neg heq] at hother
  case noTable =>
    intro other hnone
    rw [hgains.history?] at hnone
    by_cases heq : other = table
    · rw [if_pos heq] at hnone
      cases hnone
    · rw [if_neg heq] at hnone
      refine (h.noTable other hnone).put hne (fun count hpos hcount heq => ?_) _
      have hlength := congrArg List.length heq
      simp only [TableName.place, List.length_append, List.length_take, List.length_cons,
        List.length_nil] at hlength
      omega
  case versions =>
    intro other
    rw [entries_put hne, List.dropLast_concat, List.getLast_concat, hnew]
    by_cases heq : other = table
    · rw [heq, hgains.history_self, List.map_append, h.versions table]
      simp
    · rw [hgains.history_of_ne heq, h.versions other, if_pos]
      right
      rw [Ne, List.append_cancel_left_eq]
      intro hplace
      simp only [TableName.place, List.cons.injEq] at hplace
      exact heq (TableName.eq_of_names hplace.1 hplace.2.1).symm
  case stores =>
    intro other schema' hschema
    by_cases heq : other = table
    · rw [heq, hgains.history_self, List.mem_append, List.mem_singleton] at hschema
      rw [heq]
      rcases hschema with hschema | rfl
      · exact (h.stores table schema' hschema).of_extends hextends
      · exact ⟨husable, by rw [find?_put hne, if_pos rfl], hreadable⟩
    · rw [hgains.history_of_ne heq] at hschema
      exact (h.stores other schema' hschema).of_extends hextends

end ShardMerge.Warehouse
