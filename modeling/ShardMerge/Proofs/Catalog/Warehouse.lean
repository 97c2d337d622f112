import ShardMerge.Catalog.Warehouse
import ShardMerge.Proofs.Catalog.Layout
import ShardMerge.Proofs.Computation
import ShardMerge.Proofs.Files.Directories

/-!
# What a catalog in files holds

Operations on a catalog in files, run in a world.

* What is read depends on the file tree alone: `versionsIn`, `readIn`, `latestIn`, `historyIn` and
  `isThereIn` are the answers, and `exec_latest?` and its like say that reading leaves the world as
  it is.
* `exec_createDatabase`, `exec_writeVersion` and `exec_createTable` say what the operations that
  write do to the world.
-/

namespace ShardMerge.Warehouse

variable (warehouse : Warehouse) (w : World) (t : Tree) (table : TableName)

/-! ## Reading -/

/-- The numbers of the versions of a table, as they are found in a tree. -/
def versionsIn : Except Error (List UInt64) := do
  let directory ← warehouse.schemaDirectory table
  match t.listNames directory.text with
  | .ok names => .ok (versionsOf names)
  | .error .notFound => .ok []
  | .error _ => .error (.io s!"Failed to list schema directory {directory}")

/-- A version of a table, as it is read from a tree. -/
def readIn (version : UInt64) : Except Error TargetSchema := do
  let path ← warehouse.versionPath table version
  match t.readText path.text with
  | .error _ => .error (.io s!"Failed to read {path}")
  | .ok text =>
    match Json.readText? text with
    | some schema => .ok schema
    | none => .error (.serialization s!"Failed to parse {path}")

/-- The latest version of a table, as it is found in a tree. -/
def latestIn : Except Error (Option TargetSchema) := do
  match (← warehouse.versionsIn t table).getLast? with
  | some version => return some (← warehouse.readIn t table version)
  | none => return none

/-- All versions of a table, as they are found in a tree. -/
def historyIn : Except Error (List TargetSchema) := do
  (← warehouse.versionsIn t table).mapM (warehouse.readIn t table)

/-- Whether something is at a path of a tree; what cannot be told counts as absent. -/
def isThereIn (path : Path) : Bool := (t.isPresent path.text).toOption.getD false

/-- Whether there is a database in a tree. -/
def databaseIn (database : String) : Except Error Bool := do
  .ok (isThereIn t (← warehouse.databasePath database))

theorem exec_versions :
    w.exec (warehouse.versions table : World.Action (List UInt64)) =
      (warehouse.versionsIn w.tree table, w) := by
  rw [versions, World.exec_bind, World.exec_liftExcept, versionsIn]
  cases warehouse.schemaDirectory table with
  | error e => rfl
  | ok directory =>
    simp only [World.exec_bind, World.exec_listNames, ok_bind]
    rcases w.tree.listNames directory.text with (_ | _ | _) | names <;> rfl

theorem exec_readVersion (version : UInt64) :
    w.exec (warehouse.readVersion table version : World.Action TargetSchema) =
      (warehouse.readIn w.tree table version, w) := by
  rw [readVersion, World.exec_bind, World.exec_liftExcept, readIn]
  cases warehouse.versionPath table version with
  | error e => rfl
  | ok path =>
    simp only [World.exec_bind, World.exec_orFail, World.exec_readText, ok_bind]
    cases w.tree.readText path.text with
    | error fault => rfl
    | ok text =>
      simp only
      cases (Json.readText? text : Option TargetSchema) <;> rfl

theorem exec_latest? :
    w.exec (warehouse.latest? table : World.Action (Option TargetSchema)) =
      (warehouse.latestIn w.tree table, w) := by
  rw [latest?, World.exec_bind, exec_versions, latestIn]
  cases warehouse.versionsIn w.tree table with
  | error e => rfl
  | ok versions =>
    simp only [ok_bind]
    cases versions.getLast? with
    | none => rfl
    | some version =>
      change w.exec (warehouse.readVersion table version >>= fun schema => pure (some schema)) =
        (warehouse.readIn w.tree table version >>= fun schema => pure (some schema), w)
      rw [World.exec_bind, exec_readVersion]
      cases warehouse.readIn w.tree table version <;> rfl

theorem exec_getTable :
    w.exec (warehouse.catalog.getTable table : World.Action (Option TargetSchema)) =
      (warehouse.latestIn w.tree table, w) := exec_latest? ..

theorem exec_mapM_readVersion (versions : List UInt64) :
    w.exec (versions.mapM (warehouse.readVersion table) : World.Action (List TargetSchema)) =
      (versions.mapM (warehouse.readIn w.tree table), w) := by
  induction versions with
  | nil => rfl
  | cons version versions ih =>
    rw [List.mapM_cons, List.mapM_cons, World.exec_bind, exec_readVersion]
    cases warehouse.readIn w.tree table version with
    | error e => rfl
    | ok schema =>
      simp only [World.exec_bind, ih, ok_bind]
      cases versions.mapM (warehouse.readIn w.tree table) <;> rfl

theorem exec_history :
    w.exec (warehouse.history table : World.Action (List TargetSchema)) =
      (warehouse.historyIn w.tree table, w) := by
  rw [history, World.exec_bind, exec_versions, historyIn]
  cases warehouse.versionsIn w.tree table with
  | error e => rfl
  | ok versions =>
    simp only [ok_bind]
    exact exec_mapM_readVersion warehouse w table versions

theorem exec_isThere (path : Path) :
    w.exec (isThere path : World.Action Bool) = (.ok (isThereIn w.tree path), w) := by
  rw [isThere, World.exec_bind, World.exec_isPresent, isThereIn]
  simp only
  cases w.tree.isPresent path.text <;> rfl

theorem exec_databaseExists (database : String) :
    w.exec (warehouse.databaseExists database : World.Action Bool) =
      (warehouse.databaseIn w.tree database, w) := by
  rw [databaseExists, World.exec_bind, World.exec_liftExcept, databaseIn]
  cases warehouse.databasePath database with
  | error e => rfl
  | ok path => exact exec_isThere w path

/-! ## Writing -/

theorem catalog_createDatabase :
    (warehouse.catalog : Catalog (StateM World)).createDatabase = warehouse.createDatabase := rfl

theorem catalog_createTable :
    (warehouse.catalog : Catalog (StateM World)).createTable = warehouse.createTable := rfl

theorem exec_createDatabase_error {database : String} (h : isPlainName database = false)
    (ignoreIfExists : Bool) :
    ∃ message, w.exec (warehouse.createDatabase database ignoreIfExists : World.Action Unit) =
      (.error (.configuration message), w) := by
  obtain ⟨message, hpath⟩ := databasePath_eq_error warehouse h
  refine ⟨message, ?_⟩
  rw [createDatabase, World.exec_bind, World.exec_liftExcept, hpath]

/-- What creating a database does to a world. -/
theorem exec_createDatabase {database : String} (h : isPlainName database = true)
    (ignoreIfExists : Bool) :
    ∃ journal context, w.exec (warehouse.createDatabase database ignoreIfExists : World.Action Unit) =
      if isThereIn w.tree ⟨warehouse.path, [databaseName database]⟩ then
        (if ignoreIfExists then .ok () else .error (.databaseAlreadyExists database), w)
      else
        match w.tree.createDirectories (Path.text ⟨warehouse.path, [databaseName database]⟩) with
        | (.ok (), tree) => (.ok (), { w with tree, journal })
        | (.error _, tree) => (.error (.io context), { w with tree }) := by
  refine ⟨⟨.info, s!"Created database '{database}' in {warehouse.path}"⟩ :: w.journal,
    s!"Failed to create {(⟨warehouse.path, [databaseName database]⟩ : Path)}", ?_⟩
  rw [createDatabase, World.exec_bind, World.exec_liftExcept, databasePath_eq warehouse h]
  simp only [World.exec_bind, exec_isThere]
  split
  · cases ignoreIfExists <;> rfl
  · rw [World.exec_bind, World.exec_orFail, World.exec_createDirectories]
    rcases w.tree.createDirectories (Path.text ⟨warehouse.path, [databaseName database]⟩) with
      ⟨_ | _, tree⟩ <;> rfl

/-- What writing a version does to a world. -/
theorem exec_writeVersion (h : table.IsPlain) (schema : TargetSchema) :
    ∃ journal context, w.exec (warehouse.writeVersion table schema : World.Action Unit) =
      match w.tree.createNew
        (Path.text ⟨warehouse.path, table.place ++ [VersionFile.name schema.version]⟩)
        (toJson schema).pretty with
      | .ok tree => (.ok (), { w with tree, journal })
      | .error .alreadyExists =>
        (.error (.schemaVersionConflict table (nextVersion schema.version) schema.version), w)
      | .error _ => (.error (.io context), w) := by
  let path : Path := ⟨warehouse.path, table.place ++ [VersionFile.name schema.version]⟩
  refine ⟨⟨.debug, s!"Wrote schema {schema.version} of table {table} to {path}"⟩ :: w.journal,
    s!"Failed to create {path}", ?_⟩
  rw [writeVersion, World.exec_bind, World.exec_liftExcept, versionPath_eq warehouse h]
  simp only [World.exec_bind, World.exec_createNew]
  rcases w.tree.createNew
    (Path.text ⟨warehouse.path, table.place ++ [VersionFile.name schema.version]⟩)
    (toJson schema).pretty with (_ | _ | _) | tree <;> rfl

theorem exec_writeFirst (schema : TargetSchema) :
    w.exec (warehouse.writeFirst table schema : World.Action Unit) =
      match w.exec (warehouse.writeVersion table schema : World.Action Unit) with
      | (.error (.schemaVersionConflict ..), w') => (.error (.tableAlreadyExists table), w')
      | outcome => outcome := by
  rw [writeFirst, World.exec_tryCatch]
  rcases w.exec (warehouse.writeVersion table schema : World.Action Unit) with ⟨e | _, w'⟩
  · cases e <;> rfl
  · rfl

/-- What creating a table does to a world in which its database is missing. -/
theorem exec_createTable_noDatabase (h : table.IsPlain)
    (hdatabase : isThereIn w.tree ⟨warehouse.path, [databaseName table.database]⟩ = false)
    (draft : TargetDraft) :
    w.exec (warehouse.createTable table draft : World.Action TargetSchema) =
      (.error (.databaseNotFound table.database), w) := by
  rw [createTable, World.exec_bind, exec_databaseExists, databaseIn,
    databasePath_eq warehouse h.database]
  simp only [ok_bind, hdatabase, Bool.false_eq_true, if_false]
  rfl

/-- What creating a table does to a world in which it has versions. -/
theorem exec_createTable_taken (h : table.IsPlain)
    (hdatabase : isThereIn w.tree ⟨warehouse.path, [databaseName table.database]⟩ = true)
    {versions : List UInt64} (hversions : warehouse.versionsIn w.tree table = .ok versions)
    (hne : versions ≠ []) (draft : TargetDraft) :
    w.exec (warehouse.createTable table draft : World.Action TargetSchema) =
      (.error (.tableAlreadyExists table), w) := by
  rw [createTable, World.exec_bind, exec_databaseExists, databaseIn,
    databasePath_eq warehouse h.database]
  simp only [ok_bind, hdatabase, if_true, World.exec_bind, exec_versions, hversions,
    List.isEmpty_eq_false_iff.2 hne, Bool.false_eq_true, if_false]
  rfl

/-- What creating a table does to a world in which there is room for it. -/
theorem exec_createTable_new (h : table.IsPlain)
    (hdatabase : isThereIn w.tree ⟨warehouse.path, [databaseName table.database]⟩ = true)
    (hversions : warehouse.versionsIn w.tree table = .ok []) (draft : TargetDraft) :
    ∃ context, w.exec (warehouse.createTable table draft : World.Action TargetSchema) =
      match w.tree.createDirectories (Path.text ⟨warehouse.path, table.place⟩) with
      | (.error _, tree) => (.error (.io context), { w with tree })
      | (.ok (), tree) =>
        match World.exec { w.ticked with tree }
          (warehouse.writeFirst table (.ofDraft draft w.clock.now) : World.Action Unit) with
        | (.error e, w') => (.error e, w')
        | (.ok (), w') => (.ok (.ofDraft draft w.clock.now),
          { w' with journal := ⟨.info, s!"Created table {table} with {draft.columns.length} columns"⟩ ::
            w'.journal }) := by
  refine ⟨s!"Failed to create {(⟨warehouse.path, table.place⟩ : Path)}", ?_⟩
  rw [createTable, World.exec_bind, exec_databaseExists, databaseIn,
    databasePath_eq warehouse h.database]
  simp only [ok_bind, hdatabase, if_true, World.exec_bind, exec_versions, hversions,
    List.isEmpty_nil, World.exec_liftExcept, schemaDirectory_eq warehouse h, World.exec_orFail,
    World.exec_createDirectories]
  rcases w.tree.createDirectories (Path.text ⟨warehouse.path, table.place⟩) with ⟨_ | _, tree⟩
  · rfl
  · have hticked : World.ticked { w with tree } = { w.ticked with tree } := rfl
    simp only [World.exec_now, hticked]
    rcases World.exec { w.ticked with tree }
      (warehouse.writeFirst table (.ofDraft draft w.clock.now) : World.Action Unit) with ⟨_ | _, w'⟩ <;> rfl

/-- What committing a version does to a world. -/
theorem exec_commitSchema (schema : TargetSchema) :
    w.exec (warehouse.commitSchema table schema : World.Action Unit) =
      match warehouse.latestIn w.tree table with
      | .error e => (.error e, w)
      | .ok none => (.error (.tableNotFound table), w)
      | .ok (some latest) =>
        match checkNext table latest schema with
        | .error e => (.error e, w)
        | .ok () => w.exec (warehouse.writeVersion table schema : World.Action Unit) := by
  rw [commitSchema, World.exec_bind, exec_latest?]
  rcases warehouse.latestIn w.tree table with e | _ | latest
  · rfl
  · rfl
  · simp only [World.exec_bind, World.exec_liftExcept]
    cases checkNext table latest schema <;> rfl

end ShardMerge.Warehouse
