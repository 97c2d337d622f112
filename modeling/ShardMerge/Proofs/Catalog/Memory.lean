import ShardMerge.Proofs.Computation

/-!
# What a catalog in memory holds

A catalog is known by the histories of its tables.  Each operation is described by what it does to
the history of one table, and by the histories of all others, which stay as they are.

* `history?_withDatabase`, `history?_setHistory` and `latest?_eq` are the views.
* `createTable_eq_ok_iff` and `commitSchema_eq_ok_iff` say when a table can be created and a version
  be committed, and `history?_createTable` and `history?_commitSchema` what that leaves.
* The lemmas on `exec` run the operations as actions.
-/

namespace ShardMerge.MemoryCatalog

variable {c c' : MemoryCatalog} {table : TableName} {schema first : TargetSchema}

/-! ## Views -/

theorem latest?_eq (c : MemoryCatalog) (table : TableName) :
    c.latest? table = (c.history? table).bind List.getLast? := by
  unfold latest? history
  cases c.history? table <;> rfl

theorem latest?_eq_some_iff :
    c.latest? table = some schema ↔
      ∃ versions, c.history? table = some versions ∧ versions.getLast? = some schema := by
  rw [latest?_eq, Option.bind_eq_some_iff]

/-- Only databases have tables. -/
theorem hasDatabase_of_history? {versions : List TargetSchema}
    (h : c.history? table = some versions) : c.hasDatabase table.database = true := by
  obtain ⟨tables, htables, _⟩ := Option.bind_eq_some_iff.1 h
  simp [hasDatabase, Dict.contains, htables]

/-- The histories after one of them is replaced. -/
theorem history?_setHistory {tables : Dict (List TargetSchema)}
    (h : c.databases.find? table.database = some tables) (versions : List TargetSchema)
    (other : TableName) :
    (c.setHistory tables table versions).history? other =
      if other = table then some versions else c.history? other := by
  obtain ⟨database, name⟩ := table
  obtain ⟨database', name'⟩ := other
  unfold setHistory history?
  rw [Dict.find?_insert]
  by_cases hdatabase : database' = database
  · subst hdatabase
    by_cases hname : name' = name
    · simp [hname]
    · simp [hname, h]
  · simp [hdatabase]

/-! ## Databases -/

/-- The catalog with a database, which is created unless it is there. -/
def withDatabase (c : MemoryCatalog) (database : String) : MemoryCatalog :=
  if c.hasDatabase database then c else { databases := c.databases.insert database .empty }

theorem createDatabase_ignoring (c : MemoryCatalog) (database : String) :
    c.createDatabase database true = .ok (c.withDatabase database) := by
  unfold createDatabase withDatabase
  split <;> rfl

theorem withDatabase_eq_self {database : String} (h : c.hasDatabase database = true) :
    c.withDatabase database = c := by
  rw [withDatabase, if_pos h]

theorem hasDatabase_withDatabase (c : MemoryCatalog) (database other : String) :
    (c.withDatabase database).hasDatabase other =
      (decide (other = database) || c.hasDatabase other) := by
  unfold withDatabase
  split
  · rename_i hthere
    by_cases hother : other = database
    · simp [hother, hthere]
    · simp [hother]
  · exact Dict.contains_insert ..

/-- A database that is there is kept; a missing one is created. -/
theorem createDatabase_cases (c : MemoryCatalog) (database : String) (ignoreIfExists : Bool) :
    c.hasDatabase database = true ∧ c.createDatabase database ignoreIfExists =
        (if ignoreIfExists then .ok c else .error (.databaseAlreadyExists database)) ∨
      c.hasDatabase database = false ∧
        c.createDatabase database ignoreIfExists = .ok (c.withDatabase database) := by
  unfold createDatabase withDatabase
  cases h : c.hasDatabase database with
  | true => exact .inl ⟨rfl, by simp⟩
  | false => exact .inr ⟨rfl, by simp⟩

/-- A new database has no tables. -/
theorem history?_withDatabase (c : MemoryCatalog) (database : String) (other : TableName) :
    (c.withDatabase database).history? other = c.history? other := by
  unfold withDatabase
  split
  · rfl
  · rename_i hmissing
    have hnone : c.databases.find? database = none := by
      simpa [hasDatabase, Dict.contains] using hmissing
    unfold history?
    rw [Dict.find?_insert]
    by_cases hdatabase : other.database = database
    · simp [hdatabase, hnone]
    · simp [hdatabase]

theorem history_withDatabase (c : MemoryCatalog) (database : String) (other : TableName) :
    (c.withDatabase database).history other = c.history other := by
  rw [history, history?_withDatabase, history]

theorem latest?_withDatabase (c : MemoryCatalog) (database : String) (other : TableName) :
    (c.withDatabase database).latest? other = c.latest? other := by
  rw [latest?_eq, latest?_eq, history?_withDatabase]

/-! ## Tables and versions -/

theorem createTable_eq_ok_iff :
    c.createTable table first = .ok c' ↔
      ∃ tables, c.databases.find? table.database = some tables ∧
        tables.contains table.table = false ∧ c.setHistory tables table [first] = c' := by
  unfold createTable
  cases c.databases.find? table.database with
  | none => simp
  | some tables => by_cases h : tables.contains table.table = true <;> simp [h]

/-- A created table has its first version only. -/
theorem history?_createTable (h : c.createTable table first = .ok c') (other : TableName) :
    c'.history? other = if other = table then some [first] else c.history? other := by
  obtain ⟨tables, htables, _, rfl⟩ := createTable_eq_ok_iff.1 h
  exact history?_setHistory htables _ other

theorem checkNext_eq_ok_iff {latest : TargetSchema} :
    checkNext table latest schema = .ok () ↔ schema.version = nextVersion latest.version := by
  unfold checkNext
  simp only
  split <;> simp_all

theorem commitSchema_eq_ok_iff :
    c.commitSchema table schema = .ok c' ↔
      ∃ tables versions, c.databases.find? table.database = some tables ∧
        tables.find? table.table = some versions ∧
          (∀ latest, versions.getLast? = some latest →
            schema.version = nextVersion latest.version) ∧
            c.setHistory tables table (versions ++ [schema]) = c' := by
  unfold commitSchema
  cases htables : c.databases.find? table.database with
  | none => simp
  | some tables =>
    cases hversions : tables.find? table.table with
    | none => simp [hversions]
    | some versions =>
      cases hlatest : versions.getLast? with
      | none => simp [hversions, hlatest]
      | some latest =>
        have hnext : (∃ u, checkNext table latest schema = .ok u) ↔
            schema.version = nextVersion latest.version :=
          ⟨fun ⟨_, hok⟩ => checkNext_eq_ok_iff.1 hok, fun h => ⟨(), checkNext_eq_ok_iff.2 h⟩⟩
        simp [hversions, hlatest, bind_eq_ok_iff, hnext]

/-- A committed version is the last one of its table. -/
theorem history?_commitSchema (h : c.commitSchema table schema = .ok c') (other : TableName) :
    c'.history? other =
      if other = table then (c.history? table).map (· ++ [schema]) else c.history? other := by
  obtain ⟨tables, versions, htables, hversions, _, rfl⟩ := commitSchema_eq_ok_iff.1 h
  have hhistory : c.history? table = some versions :=
    Option.bind_eq_some_iff.2 ⟨tables, htables, hversions⟩
  rw [history?_setHistory htables, hhistory, Option.map_some]

/-- The version after the latest one can be committed. -/
theorem exists_commitSchema {latest : TargetSchema} (hlatest : c.latest? table = some latest)
    (hnext : schema.version = nextVersion latest.version) :
    ∃ c', c.commitSchema table schema = .ok c' := by
  obtain ⟨versions, hhistory, hlast⟩ := latest?_eq_some_iff.1 hlatest
  obtain ⟨tables, htables, hversions⟩ := Option.bind_eq_some_iff.1 hhistory
  refine ⟨_, commitSchema_eq_ok_iff.2 ⟨tables, versions, htables, hversions, ?_, rfl⟩⟩
  intro other hother
  rw [hlast] at hother
  cases hother
  exact hnext

/-! ## Operations as actions -/

section Exec

variable (c : MemoryCatalog) (w : World)

theorem exec_createDatabase_ignoring (database : String) :
    c.exec w (catalog.createDatabase database true) =
      ((.ok (), c.withDatabase database), w) := by
  change c.exec w (update fun c => c.createDatabase database true) = _
  rw [exec_update, createDatabase_ignoring]

theorem exec_getTable (table : TableName) :
    c.exec w (catalog.getTable table) = ((.ok (c.latest? table), c), w) := rfl

theorem exec_createTable (table : TableName) (draft : TargetDraft) :
    c.exec w (catalog.createTable table draft) =
      match c.createTable table (.ofDraft draft w.clock.now) with
      | .ok c' => ((.ok (.ofDraft draft w.clock.now), c'), w.ticked)
      | .error e => ((.error e, c), w.ticked) := by
  simp only [catalog, exec_bind, exec_now, exec_update]
  cases c.createTable table (.ofDraft draft w.clock.now) <;> rfl

theorem exec_commitSchema (table : TableName) (schema : TargetSchema) :
    c.exec w (catalog.commitSchema table schema) =
      match c.commitSchema table schema with
      | .ok c' => ((.ok (), c'), w)
      | .error e => ((.error e, c), w) :=
  exec_update c w fun c => c.commitSchema table schema

end Exec

end ShardMerge.MemoryCatalog
