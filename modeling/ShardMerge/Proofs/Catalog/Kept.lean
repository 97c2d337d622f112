import ShardMerge.Proofs.Catalog.Refinement
import ShardMerge.Proofs.Schema.Wire

/-!
# Warehouses that only a catalog writes to

What a warehouse holds after any calls to its catalog, whatever happens elsewhere in the file tree.

* `Warehouse.Kept` are the trees that this can lead to.  A call may have any names and any time, as
  long as the file system takes its paths and there are numbers left for versions.
* `Warehouse.WellStored` is the invariant: the tree holds a catalog whose tables have versions with
  the numbers from zero on.  `WellStored.answer` is its step for calls and `WellStored.elsewhere`
  that for everything else.
* `Kept.wellStored` is the run.
-/

namespace ShardMerge

namespace Tree

variable {t t' : Tree} {base location ns rest : List String} {name : String}

/-- In a directory and below it, trees have the same nodes and list them alike. -/
structure SameBelow (t t' : Tree) (base : List String) : Prop where
  find? : ∀ below, t'.find? (base ++ below) = t.find? (base ++ below)
  entries : ∀ below, t'.entries (base ++ below) = t.entries (base ++ below)

/-- A name that leads on is not too long. -/
theorem Leads.isEntryName (h : t.Leads ns base) (hdot : name ≠ ".") (hdotDot : name ≠ "..")
    (hnext : t.Leads (ns ++ name :: rest) location) : IsEntryName name := by
  obtain ⟨left, hleft⟩ := h.append
  have hwalk := hnext.walkLinks_eq
  rw [hleft true (name :: rest) (List.cons_ne_nil _ _)] at hwalk
  by_contra hname
  rw [walkLinks_long hdot hdotDot] at hwalk
  · cases hwalk
  · exact Nat.not_le.1 fun hshort => hname ⟨hdot, hdotDot, hshort⟩

theorem SameBelow.enter (h : t.SameBelow t' base) (name : String) :
    t.SameBelow t' (base ++ [name]) where
  find? below := by rw [List.append_assoc, h.find?]
  entries below := by rw [List.append_assoc, h.entries]

/-- What is found below a directory is found wherever that is the same. -/
theorem Leads.below (h : t.Leads (ns ++ rest) (base ++ rest)) (hbase : t.Leads ns base)
    (hbase' : t'.Leads ns base) (hsame : t.SameBelow t' base)
    (hdots : ∀ name ∈ rest, name ≠ "." ∧ name ≠ "..") :
    t'.Leads (ns ++ rest) (base ++ rest) := by
  induction rest generalizing ns base with
  | nil => rwa [List.append_nil, List.append_nil]
  | cons name rest ih =>
    rw [List.forall_mem_cons] at hdots
    have hname := hbase.isEntryName hdots.1.1 hdots.1.2 h
    have hthere : t.find? (base ++ [name]) = some .directory := by
      have hsolid := h.solid (base ++ [name]).length
      rwa [List.append_cons base name rest, List.take_left] at hsolid
    have hthere' : t'.find? (base ++ [name]) = some .directory := by rw [hsame.find?, hthere]
    rw [List.append_cons, List.append_cons base name rest] at h ⊢
    exact ih h (hbase.enter hname hthere) (hbase'.enter hname hthere') (hsame.enter name) hdots.2

end Tree

namespace Warehouse

open ShardMerge.Tree

variable {warehouse : Warehouse} {w : World} {t t' : Tree} {base : List String} {c : MemoryCatalog}

/-! ## Calls with other names -/

/-- A call with a name that is not plain changes no files. -/
theorem tree_answer_of_not_isPlain (warehouse : Warehouse) (w : World) {request : CatalogRequest}
    (h : ¬request.2.IsPlain) : (warehouse.answer w request).2.tree = w.tree := by
  obtain ⟨now, call⟩ := request
  cases call with
  | createDatabase database ignoreIfExists =>
    obtain ⟨message, hexec⟩ := exec_createDatabase_error warehouse { w with clock := now }
      (Bool.eq_false_iff.2 h) ignoreIfExists
    rw [answer_createDatabase, hexec]
  | databaseExists database => rw [answer_databaseExists]
  | getTable table => rw [answer_getTable]
  | history table => rw [answer_history]
  | createTable table draft =>
    obtain ⟨message, hdirectory⟩ := schemaDirectory_eq_error warehouse h
    rw [answer_createTable, createTable, World.exec_bind, exec_databaseExists]
    rcases warehouse.databaseIn w.tree table.database with e | _ | _
    · rfl
    · rfl
    · simp only [if_true, World.exec_bind, exec_versions, versionsIn, hdirectory]
      rfl
  | commitSchema table schema =>
    obtain ⟨message, hlatest⟩ := latestIn_of_not_isPlain warehouse w.tree h
    rw [answer_commitSchema, exec_commitSchema, hlatest]

/-! ## What only a catalog writes to -/

/-- The trees to which calls to a catalog can lead from an empty warehouse, whatever happens
outside of it between them. -/
inductive Kept (warehouse : Warehouse) (base : List String) : Tree → Prop where
  /-- The warehouse is an empty directory. -/
  | opened {t : Tree} (hroot : t.Leads (names warehouse.path) base)
    (hempty : t.NothingBelow base) : Kept warehouse base t
  /-- A call to the catalog whose paths the file system takes.  No table has as many versions as
  there are numbers. -/
  | called {w : World} (h : Kept warehouse base w.tree) (request : CatalogRequest)
    (haccepts : request.2.IsPlain → warehouse.Accepts w.tree request.2)
    (hvalid : ∀ schema ∈ request.2.written? request.1, schema.updatedAt.Valid)
    (hroom : ∀ table : TableName, (w.tree.entries (base ++ table.place)).length < UInt64.size) :
    Kept warehouse base (warehouse.answer w request).2.tree
  /-- Something else happens elsewhere. -/
  | elsewhere {t t' : Tree} (h : Kept warehouse base t)
    (hroot : t'.Leads (names warehouse.path) base) (hsame : t.SameBelow t' base) :
    Kept warehouse base t'

/-- A tree holds a catalog whose tables have plain names, and versions that are numbered from zero
on. -/
structure WellStored (warehouse : Warehouse) (t : Tree) (base : List String) (c : MemoryCatalog) :
    Prop where
  holds : warehouse.Holds t base c
  founded : c.Founded
  numbered : c.Numbered
  plain : ∀ table : TableName, (c.history? table).isSome = true → table.IsPlain

theorem wellStored_empty (hroot : t.Leads (names warehouse.path) base)
    (hempty : t.NothingBelow base) : warehouse.WellStored t base {} :=
  ⟨holds_empty hroot hempty, MemoryCatalog.founded_empty, MemoryCatalog.numbered_empty,
    fun _ h => by cases h⟩

theorem WellStored.length_entries (h : warehouse.WellStored t base c) (table : TableName) :
    (t.entries (base ++ table.place)).length = (c.history table).length := by
  rw [h.holds.versions table, List.length_map]

/-- A table that a call adds a version to has the names of the call. -/
theorem isPlain_of_extends? {call : CatalogCall} (h : call.IsPlain) {table : TableName}
    (hextends : call.extends? = some table) : table.IsPlain := by
  cases call <;> cases hextends <;> exact h

theorem WellStored.answer (h : warehouse.WellStored w.tree base c) (request : CatalogRequest)
    (haccepts : request.2.IsPlain → warehouse.Accepts w.tree request.2)
    (hvalid : ∀ schema ∈ request.2.written? request.1, schema.updatedAt.Valid)
    (hroom : ∀ table : TableName, (w.tree.entries (base ++ table.place)).length < UInt64.size) :
    ∃ c', warehouse.WellStored (warehouse.answer w request).2.tree base c' := by
  by_cases hplain : request.2.IsPlain
  · simp only [h.length_entries] at hroom
    have hmatches := h.holds.matches_answer h.founded h.numbered hroom hplain (haccepts hplain)
      fun schema hschema => readText?_toJson (hvalid schema hschema)
    refine ⟨_, hmatches.holds, MemoryCatalog.founded_answer h.founded request,
      MemoryCatalog.numbered_answer h.founded h.numbered request hroom, ?_⟩
    intro table htable
    rcases c.answer_cases request with
      ⟨hkept, _⟩ | ⟨database, _, _, hopened⟩ | ⟨gaining, schema, hextends, _, hgains, _⟩
    · rw [hkept] at htable
      exact h.plain table htable
    · rw [hopened, MemoryCatalog.history?_withDatabase] at htable
      exact h.plain table htable
    · rw [hgains.history?] at htable
      by_cases hsame : table = gaining
      · rw [hsame]
        exact isPlain_of_extends? hplain hextends
      · rw [if_neg hsame] at htable
        exact h.plain table htable
  · exact ⟨c, by rwa [tree_answer_of_not_isPlain warehouse w hplain]⟩

theorem WellStored.elsewhere (h : warehouse.WellStored t base c)
    (hroot : t'.Leads (names warehouse.path) base) (hsame : t.SameBelow t' base) :
    warehouse.WellStored t' base c := by
  refine ⟨?_, h.founded, h.numbered, h.plain⟩
  constructor
  case root => exact hroot
  case database =>
    intro database hdatabase
    obtain ⟨husable, hleads⟩ := h.holds.database database hdatabase
    exact ⟨husable, hleads.below h.holds.root hroot hsame
      (List.forall_mem_singleton.2 (databaseName_ne_dot database))⟩
  case noDatabase =>
    intro database hdatabase
    rw [hsame.find?, h.holds.noDatabase database hdatabase]
  case table =>
    intro table htable
    exact (h.holds.table table htable).below h.holds.root hroot hsame (h.plain table htable).ne_dot
  case noTable =>
    intro table hnone count hpos hcount
    rw [List.append_assoc, hsame.find?, ← List.append_assoc]
    exact h.holds.noTable table hnone count hpos hcount
  case versions =>
    intro table
    rw [hsame.entries, h.holds.versions table]
  case stores =>
    intro table schema hschema
    obtain ⟨husable, hfile, hreadable⟩ := h.holds.stores table schema hschema
    rw [List.append_assoc] at hfile
    refine ⟨husable, ?_, hreadable⟩
    rw [List.append_assoc, hsame.find?, hfile]

/-- Whatever is called, a warehouse that only its catalog writes to holds a catalog. -/
theorem Kept.wellStored (h : warehouse.Kept base t) : ∃ c, warehouse.WellStored t base c := by
  induction h with
  | opened hroot hempty => exact ⟨{}, wellStored_empty hroot hempty⟩
  | called _ request haccepts hvalid hroom ih =>
    obtain ⟨c, hc⟩ := ih
    exact hc.answer request haccepts hvalid hroom
  | elsewhere _ hroot hsame ih =>
    obtain ⟨c, hc⟩ := ih
    exact ⟨c, hc.elsewhere hroot hsame⟩

end Warehouse

end ShardMerge
