import ShardMerge.Proofs.Catalog.Warehouse

/-!
# Looking for tables in a warehouse

What is found about a table and its database, before and after they are created.

* `versionsIn_of_leads` says which versions are found in the directory of a table, and
  `latestIn_eq_ok_some_iff` which of them is the latest one.
* `createTable_vacant` says that a table for which no version is found can be created, unless a file
  operation fails.
* `versionsIn_of_absent` and `versionsIn_of_created` say that no version is found in a database that
  is not there, or that has just been created.
* `isThereIn_of_missing` says that there is no database without a directory for it.
-/

namespace ShardMerge

/-- A file operation did not succeed. -/
def FilesFailed {α : Type} (outcome : Except Error α) : Prop :=
  ∃ context, outcome = .error (.io context)

namespace Warehouse

variable {warehouse : Warehouse} {t : Tree} {w : World} {table : TableName} {base : List String}
  {versions : List UInt64} {version : UInt64} {latest : TargetSchema}

/-! ## Versions that are found -/

theorem mem_versionsOf {names : List String} (h : VersionFile.name version ∈ names) :
    version ∈ versionsOf names := by
  rw [versionsOf, List.mem_mergeSort, List.mem_filterMap]
  exact ⟨_, h, VersionFile.read?_name version⟩

theorem names_place (h : table.IsPlain) (warehouse : Warehouse) :
    Tree.names (Path.text ⟨warehouse.path, table.place⟩) =
      Tree.names warehouse.path ++ table.place :=
  Tree.names_text h.isPiece (fun name hname => (h.ne_dot name hname).1) warehouse.path

/-- The directory of a table is found where its names lead. -/
theorem resolve_place_of_leads (h : table.IsPlain)
    (hleads : t.Leads (Tree.names warehouse.path ++ table.place) base)
    (husable : Tree.Usable (Path.text ⟨warehouse.path, table.place⟩)) :
    t.resolve true (Path.text ⟨warehouse.path, table.place⟩) = .ok ⟨base, some .directory⟩ := by
  rw [← names_place h] at hleads
  exact Tree.resolve_eq_ok_iff.2 ⟨husable, Tree.walks_components_iff.2 hleads⟩

theorem versionsIn_of_leads (h : table.IsPlain)
    (hleads : t.Leads (Tree.names warehouse.path ++ table.place) base)
    (husable : Tree.Usable (Path.text ⟨warehouse.path, table.place⟩)) :
    warehouse.versionsIn t table = .ok (versionsOf (t.entries base)) := by
  rw [versionsIn, schemaDirectory_eq warehouse h, ok_bind, Tree.listNames,
    resolve_place_of_leads h hleads husable]
  rfl

theorem usable_of_versionsIn (h : table.IsPlain)
    (hversions : warehouse.versionsIn t table = .ok versions) :
    Tree.Usable (Path.text ⟨warehouse.path, table.place⟩) := by
  by_contra husable
  rw [versionsIn, schemaDirectory_eq warehouse h, ok_bind, Tree.listNames,
    Tree.resolve_of_not_usable husable (Tree.text_ne_empty h.isPiece (List.cons_ne_nil _ _)),
    error_bind] at hversions
  cases hversions

theorem find?_eq_none_of_versionsIn (h : table.IsPlain)
    (hleads : t.Leads (Tree.names warehouse.path ++ table.place) base)
    (hversions : warehouse.versionsIn t table = .ok []) (version : UInt64) :
    t.find? (base ++ [VersionFile.name version]) = none := by
  have husable := usable_of_versionsIn h hversions
  rw [versionsIn_of_leads h hleads husable, Except.ok.injEq] at hversions
  by_contra hsome
  have hmem := mem_versionsOf (Tree.mem_entries_iff.2 (Option.isSome_iff_ne_none.2 hsome))
  rw [hversions] at hmem
  cases hmem

/-- A table of which there is no version can be created in a database that is there, unless a file
operation fails. -/
theorem createTable_vacant (hgrounded : w.tree.Grounded)
    (hroot : w.tree.Leads (Tree.names warehouse.path) base) (h : table.IsPlain)
    (hdatabase : isThereIn w.tree ⟨warehouse.path, [databaseName table.database]⟩ = true)
    (hversions : warehouse.versionsIn w.tree table = .ok []) (draft : TargetDraft) :
    (w.exec (warehouse.createTable table draft : World.Action TargetSchema)).1 =
        .ok (.ofDraft draft w.clock.now) ∨
      FilesFailed (w.exec (warehouse.createTable table draft : World.Action TargetSchema)).1 := by
  obtain ⟨context, hexec⟩ := exec_createTable_new warehouse w table h hdatabase hversions draft
  rw [hexec]
  have hnames := names_place h warehouse
  rcases hdirectories : w.tree.createDirectories (Path.text ⟨warehouse.path, table.place⟩) with
    ⟨fault | _, tree⟩
  · exact .inr ⟨context, rfl⟩
  obtain ⟨_, _, location, hleads, hempty⟩ := Tree.createDirectories_leads hgrounded hnames hroot
    (fun hdotDot => (h.ne_dot _ hdotDot).2 rfl) hdirectories
  rw [hnames] at hleads
  have hnone : tree.find? (location ++ [VersionFile.name 0]) = none := by
    rcases hempty with rfl | hempty
    · exact find?_eq_none_of_versionsIn h hleads hversions 0
    · exact hempty _ (List.cons_ne_nil _ _)
  obtain ⟨journal, context', hwrite⟩ := exec_writeVersion warehouse { w.ticked with tree } table h
    (.ofDraft draft w.clock.now)
  have hversion : (TargetSchema.ofDraft draft w.clock.now).version = 0 := rfl
  rw [hversion] at hwrite
  simp only [exec_writeFirst, hwrite]
  rcases Tree.createNew_cases (toJson (TargetSchema.ofDraft draft w.clock.now)).pretty hleads
    (h.isPiece_version 0) (VersionFile.ne_dot 0).1 (VersionFile.ne_dot 0).2 hnone with hnew | hnew
  · rw [hnew]
    exact .inl rfl
  · rw [hnew]
    exact .inr ⟨context', rfl⟩

/-! ## The latest version -/

theorem latestIn_of_nil (h : warehouse.versionsIn t table = .ok []) :
    warehouse.latestIn t table = .ok none := by
  rw [latestIn, h]
  rfl

theorem latestIn_eq_ok_none_iff :
    warehouse.latestIn t table = .ok none ↔ warehouse.versionsIn t table = .ok [] := by
  constructor
  · intro h
    obtain ⟨versions, hversions, hlatest⟩ := bind_eq_ok_iff.1 h
    split at hlatest
    · obtain ⟨_, _, hsome⟩ := bind_eq_ok_iff.1 hlatest
      cases hsome
    · rename_i hnone
      rw [hversions, List.getLast?_eq_none_iff.1 hnone]
  · exact latestIn_of_nil

/-- The latest version is read from the file with the greatest number. -/
theorem latestIn_eq_ok_some_iff :
    warehouse.latestIn t table = .ok (some latest) ↔
      ∃ numbers number, warehouse.versionsIn t table = .ok numbers ∧
        numbers.getLast? = some number ∧ warehouse.readIn t table number = .ok latest := by
  constructor
  · intro h
    obtain ⟨numbers, hnumbers, h⟩ := bind_eq_ok_iff.1 h
    cases hlast : numbers.getLast? with
    | none =>
      rw [hlast] at h
      cases h
    | some number =>
      simp only [hlast] at h
      obtain ⟨schema, hread, h⟩ := bind_eq_ok_iff.1 h
      cases h
      exact ⟨numbers, number, hnumbers, hlast, hread⟩
  · intro h
    obtain ⟨numbers, number, hnumbers, hlast, hread⟩ := h
    rw [latestIn, hnumbers, ok_bind, hlast]
    simp only [hread, ok_bind]
    rfl

theorem latestIn_of_filesFailed (h : FilesFailed (warehouse.versionsIn t table)) :
    FilesFailed (warehouse.latestIn t table) := by
  obtain ⟨context, h⟩ := h
  exact ⟨context, by rw [latestIn, h]; rfl⟩

theorem latestIn_of_not_isPlain (warehouse : Warehouse) (t : Tree) (h : ¬table.IsPlain) :
    ∃ message, warehouse.latestIn t table = .error (.configuration message) := by
  obtain ⟨message, hdirectory⟩ := schemaDirectory_eq_error warehouse h
  exact ⟨message, by rw [latestIn, versionsIn, hdirectory]; rfl⟩

/-! ## Tables of a database that is not there -/

theorem place_eq (table : TableName) :
    table.place = [databaseName table.database] ++ [table.table, "schema"] := rfl

theorem usable_databasePath (h : Tree.Usable (Path.text ⟨warehouse.path, table.place⟩))
    (hplain : table.IsPlain) :
    Tree.Usable (Path.text ⟨warehouse.path, [databaseName table.database]⟩) := by
  refine h.of_sublist ?_ (place_eq table ▸ Tree.text_isPrefix _ _ _).sublist
  exact Tree.text_ne_empty (List.forall_mem_singleton.2 (isPiece_databaseName hplain.database))
    (List.cons_ne_nil _ _)

/-- A directory that cannot be found has no versions. -/
theorem versionsIn_of_not_resolved (h : table.IsPlain)
    (hnot : ∀ spot, t.resolve true (Path.text ⟨warehouse.path, table.place⟩) ≠ .ok spot) :
    warehouse.versionsIn t table = .ok [] ∨ FilesFailed (warehouse.versionsIn t table) := by
  rw [versionsIn, schemaDirectory_eq warehouse h, ok_bind, Tree.listNames]
  rcases hresolve : t.resolve true (Path.text ⟨warehouse.path, table.place⟩) with
    (_ | _ | _) | spot
  · exact .inl rfl
  · exact .inr ⟨_, rfl⟩
  · exact .inr ⟨_, rfl⟩
  · exact absurd hresolve (hnot spot)

theorem isThereIn_of_leads {path : Path} (husable : Tree.Usable path.text)
    (hleads : t.Leads (Tree.names path.text) base) : isThereIn t path = true := by
  rw [isThereIn, Tree.isPresent,
    Tree.resolve_eq_ok_iff.2 ⟨husable, Tree.walks_components_iff.2 hleads⟩]
  rfl

theorem names_databasePath {database : String} (h : isPlainName database = true) :
    Tree.names (Path.text ⟨warehouse.path, [databaseName database]⟩) =
      Tree.names warehouse.path ++ [databaseName database] :=
  Tree.names_text (List.forall_mem_singleton.2 (isPiece_databaseName h))
    (List.forall_mem_singleton.2 (databaseName_ne_dot _).1) _

/-- There is no database where there is no directory for it. -/
theorem isThereIn_of_missing (hroot : t.Leads (Tree.names warehouse.path) base) {database : String}
    (h : isPlainName database = true) (hnone : t.find? (base ++ [databaseName database]) = none) :
    isThereIn t ⟨warehouse.path, [databaseName database]⟩ = false := by
  have hpieces := List.forall_mem_singleton.2 (isPiece_databaseName h)
  obtain ⟨hdot, hdotDot⟩ := databaseName_ne_dot database
  rw [isThereIn, Tree.isPresent]
  rw [← List.append_nil (Tree.names warehouse.path)] at hroot
  rcases Tree.resolve_missing hroot hpieces hdot hdotDot hnone true with hresolve | ⟨_, _, hresolve⟩
  · rw [← List.nil_append [databaseName database], hresolve]
    rfl
  · rw [← List.nil_append [databaseName database], hresolve]
    rfl

/-- In a database that is not there, no version is found. -/
theorem versionsIn_of_absent (h : table.IsPlain)
    (habsent : isThereIn t ⟨warehouse.path, [databaseName table.database]⟩ = false) :
    warehouse.versionsIn t table = .ok [] ∨ FilesFailed (warehouse.versionsIn t table) := by
  refine versionsIn_of_not_resolved h fun spot hspot => ?_
  obtain ⟨husable, hwalks⟩ := Tree.resolve_eq_ok_iff.1 hspot
  rw [Tree.components_text h.isPiece (List.cons_ne_nil _ _), place_eq, ← List.append_assoc] at hwalks
  -- On the way to the table the database would be found.
  obtain ⟨place, hplace⟩ := hwalks.of_append (List.cons_ne_nil _ _) (Tree.solid_nil t)
  have hleads : t.Leads
      (Tree.names (Path.text ⟨warehouse.path, [databaseName table.database]⟩)) place := by
    refine hplace.of_filter_eq ?_
    rw [names_databasePath h.database, List.filter_append, List.filter_append, Tree.names_filter,
      Tree.names]
  rw [isThereIn_of_leads (usable_databasePath husable h) hleads] at habsent
  cases habsent

/-- In an empty database, no version is found. -/
theorem versionsIn_of_new (h : table.IsPlain)
    (hleads : t.Leads (Tree.names warehouse.path ++ [databaseName table.database]) base)
    (hempty : t.NothingBelow base) :
    warehouse.versionsIn t table = .ok [] ∨ FilesFailed (warehouse.versionsIn t table) := by
  refine versionsIn_of_not_resolved h fun spot hspot => ?_
  obtain ⟨hdot, hdotDot⟩ := h.ne_dot table.table (by simp [TableName.place])
  rw [place_eq] at hspot
  rcases Tree.resolve_missing hleads h.isPiece hdot hdotDot (hempty _ (List.cons_ne_nil _ _)) true
    with hresolve | ⟨_, _, hresolve⟩
  · rw [hresolve] at hspot
    cases hspot
  · rw [hresolve, if_neg (List.cons_ne_nil _ _)] at hspot
    cases hspot

/-- What creating a database leads to. -/
theorem createDirectories_database (hgrounded : t.Grounded)
    (hroot : t.Leads (Tree.names warehouse.path) base) {database : String}
    (hname : isPlainName database = true) {tree : Tree}
    (hcreate : t.createDirectories (Path.text ⟨warehouse.path, [databaseName database]⟩) =
      (.ok (), tree)) :
    tree.Grounded ∧ t.Extends tree ∧ ∃ location,
      tree.Leads (Tree.names (Path.text ⟨warehouse.path, [databaseName database]⟩)) location ∧
        (tree = t ∨ tree.NothingBelow location) :=
  Tree.createDirectories_leads hgrounded (names_databasePath hname) hroot
    (by simpa using (databaseName_ne_dot _).2.symm) hcreate

/-- In a database that has just been created, no version is found. -/
theorem versionsIn_of_created (hgrounded : t.Grounded)
    (hroot : t.Leads (Tree.names warehouse.path) base) (h : table.IsPlain)
    (habsent : isThereIn t ⟨warehouse.path, [databaseName table.database]⟩ = false) {tree : Tree}
    (hcreate : t.createDirectories (Path.text ⟨warehouse.path, [databaseName table.database]⟩) =
      (.ok (), tree)) :
    warehouse.versionsIn tree table = .ok [] ∨ FilesFailed (warehouse.versionsIn tree table) := by
  obtain ⟨_, _, location, hleads, rfl | hempty⟩ :=
    createDirectories_database hgrounded hroot h.database hcreate
  · exact versionsIn_of_absent h habsent
  · rw [names_databasePath h.database] at hleads
    exact versionsIn_of_new h hleads hempty

end Warehouse

end ShardMerge
