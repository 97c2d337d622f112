import ShardMerge.Proofs.Catalog.Stored
import ShardMerge.Proofs.Catalog.Times

/-!
# Sessions with a catalog in files

A catalog in files answers what a catalog in memory does.

* `Warehouse.paths` are the paths that a call hands to the file system, and `Warehouse.Undisturbed`
  says of a whole session that the file system takes them: each of them leads somewhere, or to where
  something is missing.
* `Warehouse.Matches` relates what a call did to files to what it did in memory: the answers are
  equal, and the files hold the catalog afterwards.  There is a step for each operation, of which
  `Holds.matches_createTable` and `Holds.matches_commitSchema` are those that write versions.
* `Holds.session` is the run at the same times, and `session_agrees` that at any times.
-/

namespace ShardMerge

/-! ## Calls to a catalog in files -/

/-- The names of a call are those of entries of a directory. -/
def CatalogCall.IsPlain : CatalogCall → Prop
  | createDatabase database _ | databaseExists database => isPlainName database = true
  | getTable table | createTable table _ | commitSchema table _ | history table => table.IsPlain

instance : (call : CatalogCall) → Decidable call.IsPlain
  | .createDatabase database _ | .databaseExists database =>
    inferInstanceAs (Decidable (isPlainName database = true))
  | .getTable table | .createTable table _ | .commitSchema table _ | .history table =>
    inferInstanceAs (Decidable table.IsPlain)

/-- The version that a call at a time writes if it succeeds. -/
def CatalogCall.written? (now : Timestamp) : CatalogCall → Option TargetSchema
  | createTable _ draft => some (.ofDraft draft now)
  | commitSchema _ schema => some schema
  | _ => none

namespace Warehouse

open ShardMerge.Tree

variable {warehouse : Warehouse} {w : World} {t : Tree} {base : List String} {c : MemoryCatalog}
  {database : String} {table : TableName} {schema : TargetSchema} {draft : TargetDraft}

/-- The answer to a call at a time, and the world afterwards. -/
def answer (warehouse : Warehouse) (w : World) (request : CatalogRequest) :
    Except Error CatalogAnswer × World :=
  World.exec { w with clock := request.1 } (warehouse.catalog.perform request.2)

/-- The paths that a call hands to the file system, as the names below the warehouse.  A table is
looked for after its database, and a version is written after the others have been looked at. -/
def paths (warehouse : Warehouse) (t : Tree) : CatalogCall → List (List String)
  | .createDatabase database _ | .databaseExists database => [[databaseName database]]
  | .getTable table | .history table => [table.place]
  | .createTable table _ =>
    [databaseName table.database] ::
      if isThereIn t ⟨warehouse.path, [databaseName table.database]⟩ then
        [table.place, table.place ++ [VersionFile.name 0]]
      else []
  | .commitSchema table schema =>
    table.place ::
      match warehouse.latestIn t table with
      | .ok (some latest) =>
        if schema.version = nextVersion latest.version then
          [table.place ++ [VersionFile.name schema.version]]
        else []
      | _ => []

/-- The paths of a call lead somewhere, or to where something is missing. -/
def Accepts (warehouse : Warehouse) (t : Tree) (call : CatalogCall) : Prop :=
  ∀ below ∈ warehouse.paths t call,
    t.resolve true (Path.text ⟨warehouse.path, below⟩) ≠ .error .other

instance (call : CatalogCall) : Decidable (warehouse.Accepts t call) :=
  inferInstanceAs (Decidable (∀ below ∈ warehouse.paths t call,
    t.resolve true (Path.text ⟨warehouse.path, below⟩) ≠ .error .other))

/-- The file system takes the paths of all calls of a session. -/
def Undisturbed (warehouse : Warehouse) : World → List CatalogRequest → Prop
  | _, [] => True
  | w, request :: requests =>
    warehouse.Accepts w.tree request.2 ∧
      warehouse.Undisturbed (warehouse.answer w request).2 requests

instance decidableUndisturbed (warehouse : Warehouse) : (w : World) →
    (requests : List CatalogRequest) → Decidable (warehouse.Undisturbed w requests)
  | _, [] => inferInstanceAs (Decidable True)
  | w, request :: requests =>
    have := decidableUndisturbed warehouse (warehouse.answer w request).2 requests
    inferInstanceAs (Decidable (_ ∧ _))

/-! ## Answers to single calls -/

section Answers

variable (warehouse : Warehouse) (w : World) (now : Timestamp)

theorem answer_createDatabase (database : String) (ignoreIfExists : Bool) :
    warehouse.answer w (now, .createDatabase database ignoreIfExists) =
      let outcome := World.exec { w with clock := now }
        (warehouse.createDatabase database ignoreIfExists : World.Action Unit)
      (outcome.1.map fun _ => .done, outcome.2) := World.exec_bind_pure ..

theorem answer_databaseExists (database : String) :
    warehouse.answer w (now, .databaseExists database) =
      ((warehouse.databaseIn w.tree database).map .present, { w with clock := now }) := by
  refine (World.exec_bind_pure _ (warehouse.databaseExists database) _).trans ?_
  rw [exec_databaseExists]

theorem answer_getTable (table : TableName) :
    warehouse.answer w (now, .getTable table) =
      ((warehouse.latestIn w.tree table).map .latest, { w with clock := now }) := by
  refine (World.exec_bind_pure _ (warehouse.latest? table) _).trans ?_
  rw [exec_latest?]

theorem answer_createTable (table : TableName) (draft : TargetDraft) :
    warehouse.answer w (now, .createTable table draft) =
      let outcome := World.exec { w with clock := now }
        (warehouse.createTable table draft : World.Action TargetSchema)
      (outcome.1.map .created, outcome.2) := World.exec_bind_pure ..

theorem answer_commitSchema (table : TableName) (schema : TargetSchema) :
    warehouse.answer w (now, .commitSchema table schema) =
      let outcome := World.exec { w with clock := now }
        (warehouse.commitSchema table schema : World.Action Unit)
      (outcome.1.map fun _ => .done, outcome.2) := World.exec_bind_pure ..

theorem answer_history (table : TableName) :
    warehouse.answer w (now, .history table) =
      ((warehouse.historyIn w.tree table).map .versions, { w with clock := now }) := by
  refine (World.exec_bind_pure _ (warehouse.history table) _).trans ?_
  rw [exec_history]

end Answers

/-! ## Files and memory in step -/

/-- A call has the same answer in files and in memory, and the files hold the catalog afterwards. -/
structure Matches (warehouse : Warehouse) (base : List String)
    (inFiles : Except Error CatalogAnswer × World)
    (inMemory : Except Error CatalogAnswer × MemoryCatalog) : Prop where
  answer : inFiles.1 = inMemory.1
  holds : warehouse.Holds inFiles.2.tree base inMemory.2

section Steps

variable (h : warehouse.Holds w.tree base c) (now : Timestamp)

include h

theorem Holds.matches_databaseExists (hname : isPlainName database = true) :
    warehouse.Matches base (warehouse.answer w (now, .databaseExists database))
      (c.answer (now, .databaseExists database)) := by
  rw [answer_databaseExists, MemoryCatalog.answer_databaseExists, databaseIn,
    databasePath_eq warehouse hname, ok_bind, h.isThereIn_eq hname]
  exact ⟨rfl, h⟩

theorem Holds.matches_getTable (hnumbered : c.Numbered) (htable : table.IsPlain)
    (haccepts : warehouse.Accepts w.tree (.getTable table)) :
    warehouse.Matches base (warehouse.answer w (now, .getTable table))
      (c.answer (now, .getTable table)) := by
  rw [answer_getTable, MemoryCatalog.answer_getTable,
    h.latestIn_eq hnumbered htable (haccepts _ List.mem_cons_self)]
  exact ⟨rfl, h⟩

theorem Holds.matches_history (hnumbered : c.Numbered) (htable : table.IsPlain)
    (haccepts : warehouse.Accepts w.tree (.history table)) :
    warehouse.Matches base (warehouse.answer w (now, .history table))
      (c.answer (now, .history table)) := by
  rw [answer_history, MemoryCatalog.answer_history,
    h.historyIn_eq hnumbered htable (haccepts _ List.mem_cons_self)]
  exact ⟨rfl, h⟩

/-- A directory for a new database can be created. -/
theorem Holds.createDirectories_database (hname : isPlainName database = true)
    (hmissing : c.hasDatabase database = false)
    (hok : w.tree.resolve true (Path.text ⟨warehouse.path, [databaseName database]⟩) ≠
      .error .other) :
    w.tree.createDirectories (Path.text ⟨warehouse.path, [databaseName database]⟩) =
        (.ok (), w.tree.put (base ++ [databaseName database]) .directory) ∧
      warehouse.Holds (w.tree.put (base ++ [databaseName database]) .directory) base
        (c.withDatabase database) := by
  have hroot := h.root
  rw [← List.append_nil (names warehouse.path)] at hroot
  have hpieces := List.forall_mem_singleton.2 (isPiece_databaseName hname)
  have hnone := h.noDatabase database hmissing
  obtain ⟨hdot, hdotDot⟩ := databaseName_ne_dot database
  rcases resolve_missing hroot hpieces hdot hdotDot hnone true with hother | ⟨husable, hentry, _⟩
  · exact absurd hother hok
  · refine ⟨?_, h.withDatabase hmissing husable hentry⟩
    have hfresh : w.tree.Fresh base [databaseName database] := by
      intro count hpos hcount
      rw [List.take_of_length_le hpos, hnone]
    exact (isNewPath_text hroot hpieces (fun _ h => by cases h) (List.cons_ne_nil _ _) husable
      (List.forall_mem_singleton.2 hentry) hfresh).createDirectories_eq

theorem Holds.matches_createDatabase (ignoreIfExists : Bool) (hname : isPlainName database = true)
    (haccepts : warehouse.Accepts w.tree (.createDatabase database ignoreIfExists)) :
    warehouse.Matches base (warehouse.answer w (now, .createDatabase database ignoreIfExists))
      (c.answer (now, .createDatabase database ignoreIfExists)) := by
  obtain ⟨journal, context, hexec⟩ :=
    exec_createDatabase warehouse { w with clock := now } hname ignoreIfExists
  rw [h.isThereIn_eq hname] at hexec
  rw [answer_createDatabase, MemoryCatalog.answer_createDatabase, hexec]
  rcases c.createDatabase_cases database ignoreIfExists with
    ⟨hthere, hcreate⟩ | ⟨hmissing, hcreate⟩
  · rw [hthere, hcreate]
    cases ignoreIfExists with
    | true => exact ⟨rfl, h⟩
    | false => exact ⟨rfl, h⟩
  · obtain ⟨hdirectories, hholds⟩ :=
      h.createDirectories_database hname hmissing (haccepts _ List.mem_cons_self)
    rw [hmissing, hcreate, hdirectories]
    exact ⟨rfl, hholds⟩

/-- A version with the next number has no file yet. -/
theorem Holds.find?_next (hnumbered : c.Numbered)
    (hnext : schema.version.toNat = (c.history table).length) :
    w.tree.find? (base ++ table.place ++ [VersionFile.name schema.version]) = none := by
  by_contra hsome
  have hmem := mem_entries_iff.2 (Option.isSome_iff_ne_none.2 hsome)
  rw [h.versions table, List.mem_map] at hmem
  obtain ⟨other, hother, hname⟩ := hmem
  have hless := hnumbered.toNat_lt hother
  rw [VersionFile.name_injective hname, hnext] at hless
  exact hless.false

/-- The file of the next version can be created. -/
theorem Holds.createNew_version (hnumbered : c.Numbered) (htable : table.IsPlain)
    (hthere : (c.history? table).isSome = true)
    (hnext : schema.version.toNat = (c.history table).length)
    (husable : Usable (Path.text
      ⟨warehouse.path, table.place ++ [VersionFile.name schema.version]⟩)) :
    w.tree.createNew
        (Path.text ⟨warehouse.path, table.place ++ [VersionFile.name schema.version]⟩)
        (toJson schema).pretty =
      .ok (w.tree.put (base ++ table.place ++ [VersionFile.name schema.version])
        (.file (toJson schema).pretty)) := by
  exact createNew_eq _ (h.table table hthere) (htable.isPiece_version schema.version)
    (VersionFile.isEntryName schema.version) husable (h.find?_next hnumbered hnext)

/-- The next version of a table can be written. -/
theorem Holds.exec_writeVersion (hnumbered : c.Numbered) (htable : table.IsPlain)
    (hthere : (c.history? table).isSome = true)
    (hnext : schema.version.toNat = (c.history table).length)
    (husable : Usable (Path.text
      ⟨warehouse.path, table.place ++ [VersionFile.name schema.version]⟩))
    (hreadable : Json.readText? (toJson schema).pretty = some schema) {c' : MemoryCatalog}
    (hgains : c.Gains table schema c') :
    ∃ w', w.exec (warehouse.writeVersion table schema : World.Action Unit) = (.ok (), w') ∧
      warehouse.Holds w'.tree base c' := by
  obtain ⟨journal, context, hexec⟩ := Warehouse.exec_writeVersion warehouse w table htable schema
  rw [h.createNew_version hnumbered htable hthere hnext husable] at hexec
  exact ⟨_, hexec, h.gains hgains hthere (h.find?_next hnumbered hnext) husable hreadable⟩

theorem Holds.matches_commitSchema (hfounded : c.Founded) (hnumbered : c.Numbered)
    (hroom : ∀ table, (c.history table).length < UInt64.size) (htable : table.IsPlain)
    (haccepts : warehouse.Accepts w.tree (.commitSchema table schema))
    (hreadable : Json.readText? (toJson schema).pretty = some schema) :
    warehouse.Matches base (warehouse.answer w (now, .commitSchema table schema))
      (c.answer (now, .commitSchema table schema)) := by
  have hlatest := h.latestIn_eq hnumbered htable (haccepts _ List.mem_cons_self)
  have hexec := exec_commitSchema warehouse { w with clock := now } table schema
  rw [hlatest] at hexec
  rw [answer_commitSchema, MemoryCatalog.answer_commitSchema, hexec]
  rcases c.commitSchema_cases table schema with
    ⟨hmissing, hcommit⟩ | ⟨latest, hfound, hne, hcommit⟩ | ⟨hthere, hnext, c', hcommit⟩
  · rw [hcommit, MemoryCatalog.latest?_eq, hmissing]
    exact ⟨rfl, h⟩
  · rw [hcommit, hfound]
    simp only [checkNext, if_neg hne]
    exact ⟨rfl, h⟩
  · obtain ⟨versions, hversions⟩ := Option.isSome_iff_exists.1 hthere
    have hlength : (c.history table).length = versions.length := by
      rw [MemoryCatalog.history, hversions, Option.getD_some]
    obtain ⟨latest, hlast, htoNat⟩ := MemoryCatalog.toNat_nextVersion_latest hfounded hnumbered
      hversions (hlength ▸ hroom table)
    have hfound : c.latest? table = some latest :=
      MemoryCatalog.latest?_eq_some_iff.2 ⟨versions, hversions, hlast⟩
    have hversion := hnext latest hfound
    have husable : Usable (Path.text
        ⟨warehouse.path, table.place ++ [VersionFile.name schema.version]⟩) := by
      refine usable_of_resolve_ne (haccepts _ ?_) (text_ne_empty (htable.isPiece_version _) (by simp))
      simp [paths, hlatest, hfound, hversion]
    obtain ⟨_, _, _, hgains⟩ := MemoryCatalog.gains_of_commitSchema hcommit
    obtain ⟨w', hwrite, hholds⟩ := Holds.exec_writeVersion (w := { w with clock := now }) h hnumbered
      htable hthere (by rw [hversion, htoNat, hlength]) husable hreadable hgains
    rw [hcommit, hfound]
    simp only [MemoryCatalog.checkNext_eq_ok_iff.2 hversion, hwrite]
    exact ⟨rfl, hholds⟩

/-- Directories for a new table can be created. -/
theorem Holds.createDirectories_table (htable : table.IsPlain)
    (hdatabase : c.hasDatabase table.database = true) (hmissing : c.history? table = none)
    (hok : w.tree.resolve true (Path.text ⟨warehouse.path, table.place⟩) ≠ .error .other)
    {c' : MemoryCatalog}
    (hhistory : ∀ other, c'.history? other = if other = table then some [] else c.history? other)
    (hsame : ∀ database, c'.hasDatabase database = c.hasDatabase database) :
    ∃ tree, w.tree.createDirectories (Path.text ⟨warehouse.path, table.place⟩) = (.ok (), tree) ∧
      warehouse.Holds tree base c' := by
  have hleads := (h.database _ hdatabase).2
  have hfresh := h.noTable table hmissing
  obtain ⟨hdot, hdotDot⟩ := htable.ne_dot table.table (by simp [TableName.place])
  rw [place_eq] at hok ⊢
  rcases resolve_missing hleads htable.isPiece hdot hdotDot
    (hfresh 1 Nat.zero_lt_one (by simp)) true with hother | ⟨husable, hentry, _⟩
  · exact absurd hother hok
  · have hentries : ∀ name ∈ [table.table, "schema"], IsEntryName name := by
      simpa using ⟨hentry, ⟨by decide, by decide, by decide⟩⟩
    have hnew := isNewPath_text hleads htable.isPiece
      (List.forall_mem_singleton.2 (databaseName_ne_dot _).1) (List.cons_ne_nil _ _) husable hentries
      hfresh
    exact ⟨_, hnew.createDirectories_eq, h.withTable hdatabase hmissing hentries hhistory hsame⟩

/-- A new table can be created. -/
theorem Holds.exec_createTable (hnumbered : c.Numbered) (htable : table.IsPlain)
    (hdatabase : c.hasDatabase table.database = true) (hmissing : c.history? table = none)
    (haccepts : warehouse.Accepts w.tree (.createTable table draft))
    (hreadable : Json.readText? (toJson (TargetSchema.ofDraft draft w.clock.now)).pretty =
      some (TargetSchema.ofDraft draft w.clock.now)) {tables : Dict (List TargetSchema)}
    (htables : c.databases.find? table.database = some tables) :
    ∃ w', w.exec (warehouse.createTable table draft : World.Action TargetSchema) =
        (.ok (.ofDraft draft w.clock.now), w') ∧
      warehouse.Holds w'.tree base (c.setHistory tables table [.ofDraft draft w.clock.now]) := by
  have hisThere := h.isThereIn_eq htable.database
  rw [hdatabase] at hisThere
  have hplace := haccepts table.place (by simp [paths, hisThere])
  have hversions := h.versionsIn_eq hnumbered htable hplace
  have hnone : c.history table = [] := by
    rw [MemoryCatalog.history, hmissing]
    rfl
  rw [hnone, List.map_nil] at hversions
  obtain ⟨context, hexec⟩ := exec_createTable_new warehouse w table htable hisThere hversions draft
  -- The table is there without versions, and then with its first one.
  have hhistory (other : TableName) : (c.setHistory tables table []).history? other =
      if other = table then some [] else c.history? other :=
    MemoryCatalog.history?_setHistory htables [] other
  obtain ⟨tree, hdirectories, hopen⟩ := h.createDirectories_table htable hdatabase hmissing hplace
    hhistory (MemoryCatalog.hasDatabase_setHistory htables [])
  have hempty : (c.setHistory tables table []).history table = [] := by
    rw [MemoryCatalog.history, hhistory, if_pos rfl]
    rfl
  have husable : Usable (Path.text ⟨warehouse.path,
      table.place ++ [VersionFile.name (TargetSchema.ofDraft draft w.clock.now).version]⟩) := by
    exact usable_of_resolve_ne (haccepts (table.place ++ [VersionFile.name 0])
      (by simp [paths, hisThere])) (text_ne_empty (htable.isPiece_version 0) (by simp))
  have hgains := MemoryCatalog.gains_setHistory htables [] (TargetSchema.ofDraft draft w.clock.now)
  obtain ⟨w', hwrite, hholds⟩ := Holds.exec_writeVersion (w := { w.ticked with tree }) hopen
    (hnumbered.of_history? hhistory) htable (by rw [hhistory, if_pos rfl]; rfl)
    (by rw [hempty]; rfl) husable hreadable hgains
  simp only [hdirectories, exec_writeFirst, hwrite] at hexec
  exact ⟨_, hexec, hholds⟩

theorem Holds.matches_createTable (hfounded : c.Founded) (hnumbered : c.Numbered)
    (htable : table.IsPlain) (haccepts : warehouse.Accepts w.tree (.createTable table draft))
    (hreadable : Json.readText? (toJson (TargetSchema.ofDraft draft now)).pretty =
      some (TargetSchema.ofDraft draft now)) :
    warehouse.Matches base (warehouse.answer w (now, .createTable table draft))
      (c.answer (now, .createTable table draft)) := by
  have hisThere := h.isThereIn_eq htable.database
  rw [answer_createTable, MemoryCatalog.answer_createTable]
  rcases c.createTable_cases table (.ofDraft draft now) with
    ⟨hdatabase, hcreate⟩ | ⟨hthere, hcreate⟩ | ⟨hdatabase, hmissing, tables, htables, hcreate⟩
  · rw [hdatabase] at hisThere
    rw [hcreate, exec_createTable_noDatabase warehouse { w with clock := now } table htable hisThere]
    exact ⟨rfl, h⟩
  · obtain ⟨versions, hhistory⟩ := Option.isSome_iff_exists.1 hthere
    rw [MemoryCatalog.hasDatabase_of_history? hhistory] at hisThere
    have hversions := h.versionsIn_eq hnumbered htable (haccepts _ (by simp [paths, hisThere]))
    rw [hcreate, exec_createTable_taken warehouse { w with clock := now } table htable hisThere
      hversions]
    · exact ⟨rfl, h⟩
    · simpa [MemoryCatalog.history, hhistory] using hfounded table versions hhistory
  · obtain ⟨w', hexec, hholds⟩ := Holds.exec_createTable (w := { w with clock := now }) h hnumbered
      htable hdatabase hmissing haccepts hreadable htables
    rw [Clock.now_still] at hexec hholds
    rw [hcreate, hexec]
    exact ⟨rfl, hholds⟩

/-- A call has the same answer in files and in memory. -/
theorem Holds.matches_answer (hfounded : c.Founded) (hnumbered : c.Numbered)
    (hroom : ∀ table, (c.history table).length < UInt64.size) {request : CatalogRequest}
    (hplain : request.2.IsPlain) (haccepts : warehouse.Accepts w.tree request.2)
    (hreadable : ∀ schema ∈ request.2.written? request.1,
      Json.readText? (toJson schema).pretty = some schema) :
    warehouse.Matches base (warehouse.answer w request) (c.answer request) := by
  obtain ⟨now, call⟩ := request
  cases call with
  | createDatabase database ignoreIfExists =>
    exact h.matches_createDatabase now ignoreIfExists hplain haccepts
  | databaseExists database => exact h.matches_databaseExists now hplain
  | getTable table => exact h.matches_getTable now hnumbered hplain haccepts
  | createTable table draft =>
    exact h.matches_createTable now hfounded hnumbered hplain haccepts (hreadable _ rfl)
  | commitSchema table schema =>
    exact h.matches_commitSchema now hfounded hnumbered hroom hplain haccepts (hreadable _ rfl)
  | history table => exact h.matches_history now hnumbered hplain haccepts

end Steps

/-! ## Sessions -/

/-- The answers of a session are the same in files and in memory. -/
theorem Holds.session (h : warehouse.Holds w.tree base c) (hfounded : c.Founded)
    (hnumbered : c.Numbered) {requests : List CatalogRequest}
    (hroom : ∀ table,
      ((ShardMerge.session MemoryCatalog.answer c requests).2.history table).length < UInt64.size)
    (hplain : ∀ request ∈ requests, request.2.IsPlain)
    (hundisturbed : warehouse.Undisturbed w requests)
    (hreadable : ∀ request ∈ requests, ∀ schema ∈ request.2.written? request.1,
      Json.readText? (toJson schema).pretty = some schema) :
    (ShardMerge.session warehouse.answer w requests).1 =
      (ShardMerge.session MemoryCatalog.answer c requests).1 := by
  induction requests generalizing w c with
  | nil => rfl
  | cons request requests ih =>
    rw [List.forall_mem_cons] at hplain hreadable
    obtain ⟨haccepts, hundisturbed⟩ := hundisturbed
    have hnow (table : TableName) : (c.history table).length < UInt64.size := by
      have hgrown := MemoryCatalog.length_history_session c table (request :: requests)
      have := hroom table
      omega
    obtain ⟨hanswer, hholds⟩ :=
      h.matches_answer hfounded hnumbered hnow hplain.1 haccepts hreadable.1
    have hrest := ih hholds (MemoryCatalog.founded_answer hfounded request)
      (MemoryCatalog.numbered_answer hfounded hnumbered request hnow) hroom hplain.2 hundisturbed
      hreadable.2
    simp only [ShardMerge.session, hanswer, hrest]

/-- A session that starts in an empty warehouse has the answers that the same calls have in memory,
up to the times at which first versions were made: for any calls with plain names and at any times,
as long as no table comes to have as many versions as there are numbers, the file system takes all
paths, and what is written can be read back. -/
theorem session_agrees (hroot : w.tree.Leads (names warehouse.path) base)
    (hempty : w.tree.NothingBelow base) {inFiles inMemory : List CatalogRequest}
    (hcalls : inFiles.map Prod.snd = inMemory.map Prod.snd)
    (hplain : ∀ request ∈ inFiles, request.2.IsPlain)
    (hroom : ∀ table,
      ((session MemoryCatalog.answer {} inMemory).2.history table).length < UInt64.size)
    (hundisturbed : warehouse.Undisturbed w inFiles)
    (hreadable : ∀ request ∈ inFiles, ∀ schema ∈ request.2.written? request.1,
      Json.readText? (toJson schema).pretty = some schema) :
    (session warehouse.answer w inFiles).1.map (·.map CatalogAnswer.untimed) =
      (session MemoryCatalog.answer {} inMemory).1.map (·.map CatalogAnswer.untimed) := by
  obtain ⟨hanswers, halike⟩ := (MemoryCatalog.Alike.refl {}).session hcalls
  have hroom' (table : TableName) :
      ((session MemoryCatalog.answer {} inFiles).2.history table).length < UInt64.size := by
    have hlength := congrArg List.length (halike.history table)
    rw [List.length_map, List.length_map] at hlength
    rw [hlength]
    exact hroom table
  rw [(holds_empty hroot hempty).session MemoryCatalog.founded_empty MemoryCatalog.numbered_empty
    hroom' hplain hundisturbed hreadable, hanswers]

/-- Reading what was written needs no text in between. -/
theorem readText?_pretty {α : Type} [JsonForm α] (value : Json) :
    (Json.readText? value.pretty : Option α) =
      (Json.parse? (Json.writePretty 0 value)).bind (JsonForm.ofJson? Json.maxDepth) := by
  rw [Json.readText?, Json.pretty, String.toList_ofList]

/-- Calls by which a table is created and two versions are committed, of which the first one has a
number that is taken, and by which the history is read, all at a minute of a day. -/
def tableRequests (minute : Nat) : List CatalogRequest :=
  let first := TargetSchema.ofDraft MemoryCatalog.ordersDraft ⟨2024, 1, 1, 0, 0, 0, 0⟩
  [.createTable ⟨"lake", "orders"⟩ MemoryCatalog.ordersDraft,
    .createDatabase "lake" false,
    .createTable ⟨"lake", "orders"⟩ MemoryCatalog.ordersDraft,
    .commitSchema ⟨"lake", "orders"⟩ first,
    .commitSchema ⟨"lake", "orders"⟩ (first.next [⟨"id", .integer 64⟩] ⟨2024, 1, 1, 0, 1, 0, 0⟩),
    .history ⟨"lake", "orders"⟩].map fun call => (⟨2024, 1, 1, 0, minute, 0, 0⟩, call)

/-- A world with an empty warehouse. -/
def emptyWorld : World where
  tree := Tree.put {} ["w"] .directory
  clock := default

theorem session_agrees_orders :
    emptyWorld.tree.Leads (names "w") ["w"] ∧ emptyWorld.tree.NothingBelow ["w"] ∧
      (tableRequests 2).map Prod.snd = (tableRequests 3).map Prod.snd ∧
      (∀ request ∈ tableRequests 2, request.2.IsPlain) ∧
      (∀ table, ((session MemoryCatalog.answer {} (tableRequests 3)).2.history table).length <
        UInt64.size) ∧
      Undisturbed ⟨"w"⟩ emptyWorld (tableRequests 2) ∧
      (∀ request ∈ tableRequests 2, ∀ schema ∈ request.2.written? request.1,
        Json.readText? (toJson schema).pretty = some schema) ∧
      (session MemoryCatalog.answer {} (tableRequests 3)).1.map (·.isOk) =
        [false, true, true, false, true, true] ∧
      (session (answer ⟨"w"⟩) emptyWorld (tableRequests 2)).1.map (·.map CatalogAnswer.untimed) =
        (session MemoryCatalog.answer {} (tableRequests 3)).1.map
          (·.map CatalogAnswer.untimed) := by
  have hnone : Tree.find? {} ["w"] = none := rfl
  have hroot : emptyWorld.tree.Leads (names "w") ["w"] :=
    (leads_nil _).enter ⟨by decide, by decide, by decide⟩ (by rw [emptyWorld, find?_put (by simp)]; rfl)
  have hempty : emptyWorld.tree.NothingBelow ["w"] := grounded_empty.nothingBelow_put hnone _
  have hcalls : (tableRequests 2).map Prod.snd = (tableRequests 3).map Prod.snd := rfl
  have hplain : ∀ request ∈ tableRequests 2, request.2.IsPlain := by decide
  have hroom (table : TableName) :
      ((session MemoryCatalog.answer {} (tableRequests 3)).2.history table).length <
        UInt64.size := by
    have hnew : MemoryCatalog.history {} table = [] := rfl
    rw [MemoryCatalog.length_history_session, hnew, List.length_nil, Nat.zero_add]
    exact Nat.lt_of_le_of_lt List.countP_le_length (by decide)
  have hundisturbed : Undisturbed ⟨"w"⟩ emptyWorld (tableRequests 2) := by decide +kernel
  have hreadable : ∀ request ∈ tableRequests 2, ∀ schema ∈ request.2.written? request.1,
      Json.readText? (toJson schema).pretty = some schema := by
    simp only [readText?_pretty]
    decide +kernel
  have hoks : (session MemoryCatalog.answer {} (tableRequests 3)).1.map (·.isOk) =
      [false, true, true, false, true, true] := by decide +kernel
  exact ⟨hroot, hempty, hcalls, hplain, hroom, hundisturbed, hreadable, hoks,
    session_agrees hroot hempty hcalls hplain hroom hundisturbed hreadable⟩

end Warehouse

end ShardMerge
