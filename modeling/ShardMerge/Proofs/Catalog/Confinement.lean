import ShardMerge.Proofs.Catalog.VersionNames

/-!
# Names that stay inside a warehouse

Whatever text a database and a table are called by, the files of the table are below the directory of
the warehouse, and no two versions have a file in common.

* `Strays` are the names that could be those of another place.  `versionPath_eq_ite` says that these
  are refused, and `TableName.IsPlain.not_strays` that none of them is on the way to a version.
* `Walks.location_eq` says where a way without links ends, and `location_of_resolve` where the path
  of a version does.
* `eq_of_names_versionPath` says that versions have paths of their own.
* `versionPath_confined` is all this for every text.
-/

namespace ShardMerge

open ShardMerge.Tree

variable {name : String} {table table' : TableName} {version version' : UInt64}
  {warehouse : Warehouse} {path path' : Path} {t : Tree} {base names : List String} {follow : Bool}
  {links : Nat} {spot : Spot}

/-! ## Names -/

/-- A name that could be that of another place. -/
def Strays (name : String) : Prop :=
  name = "" ∨ name = "." ∨ name = ".." ∨
    '/' ∈ name.toList ∨ '\\' ∈ name.toList ∨ Char.ofNat 0 ∈ name.toList

instance (name : String) : Decidable (Strays name) :=
  inferInstanceAs (Decidable (_ ∨ _))

theorem isPlainName_iff_not_strays : isPlainName name = true ↔ ¬Strays name := by
  rw [isPlainName_iff, Strays]
  simp only [not_or, forall_and, List.forall_mem_ne', ne_eq]

theorem VersionFile.cases_of_mem {c : Char} (h : c ∈ (VersionFile.name version).toList) :
    c ∈ front.toList ∨ c.isDigit = true ∨ c ∈ back.toList := by
  rw [toList_name, List.mem_append, List.mem_append] at h
  exact h.imp_right fun h => h.imp_left isDigit_of_mem

theorem VersionFile.not_strays (version : UInt64) : ¬Strays (VersionFile.name version) := by
  have hfront : isPlainName front = true := by decide
  have hback : isPlainName back = true := by decide
  have hdigit (c : Char) (hc : c.isDigit = true) : c ≠ '/' ∧ c ≠ '\\' ∧ c ≠ Char.ofNat 0 := by
    refine ⟨?_, ?_, ?_⟩
    all_goals
      rintro rfl
      revert hc
      decide
  rw [← isPlainName_iff_not_strays, isPlainName_iff]
  refine ⟨(isPiece_name version).ne_empty, (ne_dot version).1, (ne_dot version).2, fun c hc => ?_⟩
  rcases cases_of_mem hc with hc | hc | hc
  · exact (isPlainName_iff.1 hfront).2.2.2 c hc
  · exact hdigit c hc
  · exact (isPlainName_iff.1 hback).2.2.2 c hc

theorem not_strays_databaseName {database : String} (h : ¬Strays database) :
    ¬Strays (databaseName database) := by
  rw [← isPlainName_iff_not_strays] at h ⊢
  have hpiece := isPiece_databaseName h
  obtain ⟨hdot, hdotDot⟩ := databaseName_ne_dot database
  have hsuffix : isPlainName ".db" = true := by decide
  refine isPlainName_iff.2 ⟨hpiece.ne_empty, hdot, hdotDot, ?_⟩
  rw [databaseName, String.toList_append, List.forall_mem_append]
  exact ⟨(isPlainName_iff.1 h).2.2.2, (isPlainName_iff.1 hsuffix).2.2.2⟩

theorem TableName.isPlain_iff : table.IsPlain ↔ ¬(Strays table.table ∨ Strays table.database) := by
  rw [not_or, ← isPlainName_iff_not_strays, ← isPlainName_iff_not_strays]
  exact ⟨fun h => ⟨h.table, h.database⟩, fun h => ⟨h.2, h.1⟩⟩

/-- No name between a warehouse and a version strays. -/
theorem TableName.IsPlain.not_strays (h : table.IsPlain) (version : UInt64) :
    ∀ name ∈ table.place ++ [VersionFile.name version], ¬Strays name := by
  intro name hname
  simp only [place, List.cons_append, List.nil_append, List.mem_cons, List.not_mem_nil,
    or_false] at hname
  rcases hname with rfl | rfl | rfl | rfl
  · exact not_strays_databaseName (isPlainName_iff_not_strays.1 h.database)
  · exact isPlainName_iff_not_strays.1 h.table
  · decide
  · exact VersionFile.not_strays version

/-! ## Ways without links -/

/-- There are no links below a directory. -/
def Tree.UnlinkedBelow (t : Tree) (base : List String) : Prop :=
  ∀ below target, t.find? (base ++ below) ≠ some (.link target)

theorem Tree.UnlinkedBelow.enter (h : t.UnlinkedBelow base) (name : String) :
    t.UnlinkedBelow (base ++ [name]) := by
  intro below target
  rw [List.append_assoc]
  exact h _ target

theorem Tree.unlinkedBelow_of_nodes (h : ∀ entry ∈ t.nodes, ∀ target, entry.2 ≠ .link target)
    (base : List String) : t.UnlinkedBelow base := by
  intro below target hlink
  rw [find?] at hlink
  split at hlink
  · cases hlink
  · obtain ⟨entry, hentry, hnode⟩ := Option.map_eq_some_iff.1 hlink
    exact h entry (List.mem_of_find?_eq_some hentry) target hnode

/-- Without links and dots, names lead to where they say. -/
theorem Tree.Walks.location_eq (h : t.Walks follow links base names spot)
    (hnames : ∀ name ∈ names, ¬Strays name) (hunlinked : t.UnlinkedBelow base) :
    spot.location = base ++ names := by
  induction h with
  | arrived => rw [List.append_nil]
  | stay =>
    rw [List.forall_mem_cons] at hnames
    exact absurd (by decide) hnames.1
  | up =>
    rw [List.forall_mem_cons] at hnames
    exact absurd (by decide) hnames.1
  | enter _ _ _ ih =>
    rw [List.forall_mem_cons] at hnames
    rw [ih hnames.2 (hunlinked.enter _), List.append_assoc, List.singleton_append]
  | last => rfl
  | jump _ hthere => exact absurd hthere (hunlinked _ _)

namespace Warehouse

/-! ## Paths -/

/-- The error for a name that strays. -/
def invalidName (name : String) : Error :=
  .configuration s!"Invalid catalog object name '{name}'"

/-- A version has a path unless a name strays; that of the table is looked at first. -/
theorem versionPath_eq_ite (warehouse : Warehouse) (table : TableName) (version : UInt64) :
    warehouse.versionPath table version =
      if Strays table.table then .error (invalidName table.table)
      else if Strays table.database then .error (invalidName table.database)
      else .ok ⟨warehouse.path, table.place ++ [VersionFile.name version]⟩ := by
  by_cases htable : Strays table.table
  · rw [if_pos htable, versionPath, schemaDirectory, checkName,
      if_neg (isPlainName_iff_not_strays.not.2 (not_not.2 htable))]
    rfl
  · by_cases hdatabase : Strays table.database
    · rw [if_neg htable, if_pos hdatabase, versionPath, schemaDirectory, databasePath, checkName,
        checkName, if_pos (isPlainName_iff_not_strays.2 htable),
        if_neg (isPlainName_iff_not_strays.not.2 (not_not.2 hdatabase))]
      rfl
    · rw [if_neg htable, if_neg hdatabase,
        versionPath_eq warehouse (TableName.isPlain_iff.2 (not_or.2 ⟨htable, hdatabase⟩))]

theorem versionPath_eq_ok_iff :
    warehouse.versionPath table version = .ok path ↔
      table.IsPlain ∧ path = ⟨warehouse.path, table.place ++ [VersionFile.name version]⟩ := by
  rw [versionPath_eq_ite, TableName.isPlain_iff]
  split_ifs <;> simp_all [eq_comm]

theorem names_versionPath (h : warehouse.versionPath table version = .ok path) :
    Tree.names path.text = Tree.names warehouse.path ++ path.below := by
  obtain ⟨htable, rfl⟩ := versionPath_eq_ok_iff.1 h
  refine names_text (htable.isPiece_version version) (fun name hname hdot => ?_) warehouse.path
  exact htable.not_strays version name hname (.inr (.inl hdot))

/-- Versions have paths of their own. -/
theorem eq_of_names_versionPath (h : warehouse.versionPath table version = .ok path)
    (h' : warehouse.versionPath table' version' = .ok path')
    (hsame : Tree.names path.text = Tree.names path'.text) :
    table = table' ∧ version = version' := by
  rw [names_versionPath h, names_versionPath h', List.append_cancel_left_eq] at hsame
  obtain ⟨_, rfl⟩ := versionPath_eq_ok_iff.1 h
  obtain ⟨_, rfl⟩ := versionPath_eq_ok_iff.1 h'
  simp only [TableName.place, List.cons_append, List.nil_append, List.cons.injEq, true_and,
    and_true] at hsame
  obtain ⟨hdatabase, htable, hversion⟩ := hsame
  exact ⟨TableName.eq_of_names hdatabase htable, VersionFile.name_injective hversion⟩

/-- The path of a version ends below the directory of the warehouse. -/
theorem location_of_resolve (h : warehouse.versionPath table version = .ok path)
    (hleads : t.Leads (Tree.names warehouse.path) base) (hunlinked : t.UnlinkedBelow base)
    (hspot : t.resolve follow path.text = .ok spot) : spot.location = base ++ path.below := by
  obtain ⟨htable, rfl⟩ := versionPath_eq_ok_iff.1 h
  obtain ⟨husable, _⟩ := resolve_eq_ok_iff.1 hspot
  rw [← List.append_nil (Tree.names warehouse.path)] at hleads
  obtain ⟨left, hleft⟩ := resolve_text hleads (htable.isPiece_version version) (by simp) husable
  have hwalks := walkLinks_eq_ok_iff.1 ((hleft follow).symm.trans hspot)
  exact hwalks.location_eq (htable.not_strays version) hunlinked

/-- Where the files of versions are, whatever their tables and databases are called.

* A version has a path if no name strays, and otherwise it is an error.
* The path has four names below the warehouse, none of which strays, so that it ends below the
  directory of the warehouse, unless there are links in it.
* It is not the path of any other version. -/
theorem versionPath_confined (warehouse : Warehouse) (table : TableName) (version : UInt64) :
    ((∃ message, warehouse.versionPath table version = .error (.configuration message)) ↔
      Strays table.table ∨ Strays table.database) ∧
    (∀ e, warehouse.versionPath table version = .error e →
      ∃ name, (name = table.table ∨ name = table.database) ∧ Strays name ∧ e = invalidName name) ∧
    ∀ path, warehouse.versionPath table version = .ok path →
      warehouse.path.toList <+: path.text.toList ∧
      Tree.components path.text = Tree.pieces warehouse.path.toList ++ path.below ∧
      path.below.length = 4 ∧ (∀ name ∈ path.below, ¬Strays name) ∧
      (∀ (t : Tree) base follow spot, t.Leads (Tree.names warehouse.path) base →
        t.UnlinkedBelow base → t.resolve follow path.text = .ok spot →
          spot.location = base ++ path.below) ∧
      ∀ table' version' path', warehouse.versionPath table' version' = .ok path' →
        Tree.names path.text = Tree.names path'.text → table = table' ∧ version = version' := by
  refine ⟨?_, ?_, fun path h => ?_⟩
  · rw [versionPath_eq_ite]
    split_ifs <;> simp_all [invalidName]
  · intro e h
    rw [versionPath_eq_ite] at h
    split_ifs at h with htable hdatabase
    · cases h
      exact ⟨_, .inl rfl, htable, rfl⟩
    · cases h
      exact ⟨_, .inr rfl, hdatabase, rfl⟩
  · obtain ⟨htable, hpath⟩ := versionPath_eq_ok_iff.1 h
    refine ⟨?_, ?_, ?_, ?_, fun t base follow spot => location_of_resolve h,
      fun table' version' path' => eq_of_names_versionPath h⟩
    · rw [hpath]
      exact text_isPrefix warehouse.path [] _
    · rw [hpath, components_text (htable.isPiece_version version) (by simp)]
    · rw [hpath]
      rfl
    · rw [hpath]
      exact htable.not_strays version

theorem versionPath_confined_orders :
    let warehouse : Warehouse := ⟨"w"⟩
    let path : Path := ⟨"w", ["dw.db", "orders", "schema", "schema-3.json"]⟩
    let next : Path := ⟨"w", ["dw.db", "orders", "schema", "schema-4.json"]⟩
    let t := (ordersHolding [("schema-3.json", "")]).tree
    (∃ name, Strays name ∧ warehouse.versionPath ⟨"..", "orders"⟩ 3 = .error (invalidName name)) ∧
      warehouse.versionPath ⟨"dw", "orders"⟩ 3 = .ok path ∧
      warehouse.versionPath ⟨"dw", "orders"⟩ 4 = .ok next ∧
      Tree.names path.text ≠ Tree.names next.text ∧
      t.Leads (Tree.names warehouse.path) ["w"] ∧ t.UnlinkedBelow ["w"] ∧
      ∃ spot, t.resolve true path.text = .ok spot ∧ spot.location = ["w"] ++ path.below := by
  intro warehouse path next t
  have hpath : warehouse.versionPath ⟨"dw", "orders"⟩ 3 = .ok path := by decide +kernel
  have hnext : warehouse.versionPath ⟨"dw", "orders"⟩ 4 = .ok next := by decide +kernel
  have hroot : Tree.names warehouse.path = ["w"] := by decide +kernel
  have hleads : t.Leads (Tree.names warehouse.path) ["w"] := by
    rw [hroot]
    exact (leads_nil t).enter ⟨by decide, by decide, by decide⟩ (by decide +kernel)
  have hunlinked : t.UnlinkedBelow ["w"] := unlinkedBelow_of_nodes (by simp [t, ordersHolding]) _
  have hspot : t.resolve true path.text =
      .ok ⟨["w", "dw.db", "orders", "schema", "schema-3.json"], some (.file "")⟩ := by
    decide +kernel
  obtain ⟨_, _, _, _, hlocation, hown⟩ :=
    (versionPath_confined warehouse ⟨"dw", "orders"⟩ 3).2.2 path hpath
  refine ⟨?_, hpath, hnext, fun hsame => ?_, hleads, hunlinked, _, hspot,
    hlocation _ _ _ _ hleads hunlinked hspot⟩
  · have hstrays : ∃ message, warehouse.versionPath ⟨"..", "orders"⟩ 3 =
        .error (.configuration message) :=
      (versionPath_confined warehouse ⟨"..", "orders"⟩ 3).1.2 (by decide)
    obtain ⟨message, hmessage⟩ := hstrays
    obtain ⟨name, _, hname, hinvalid⟩ :=
      (versionPath_confined warehouse ⟨"..", "orders"⟩ 3).2.1 _ hmessage
    exact ⟨name, hname, hmessage.trans (congrArg _ hinvalid)⟩
  · obtain ⟨_, hversion⟩ := hown _ _ _ hnext hsame
    exact absurd hversion (by decide)

end Warehouse

end ShardMerge
