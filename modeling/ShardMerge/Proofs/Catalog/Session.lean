import ShardMerge.Proofs.Catalog.Memory
import ShardMerge.Proofs.Change.Run

/-!
# Sessions with a catalog

What a catalog in memory holds after any calls to it, in any order.

* `CatalogCall` is one call as a value, `Catalog.perform` makes it, and `session` makes one after
  another.  Each call has a time of its own, since a created table is stamped with it.
* `MemoryCatalog.answer_cases` is everything that one call can do: it leaves the catalog as it is,
  it opens a database, or it adds a version to the history of one table.
* `MemoryCatalog.Numbered` is the invariant: versions are numbered from zero on without gaps.
  `Numbered.answer` is its step and `Numbered.session` the run.  Numbers have 64 bits, so it needs
  a bound on the versions that a table comes to have.
* `MemoryCatalog.wellKept_session` is what callers can rely on.
-/

namespace ShardMerge

/-! ## Calls -/

/-- An operation of a catalog with what it is given. -/
inductive CatalogCall where
  | createDatabase (database : String) (ignoreIfExists : Bool)
  | databaseExists (database : String)
  | getTable (table : TableName)
  | createTable (table : TableName) (draft : TargetDraft)
  | commitSchema (table : TableName) (schema : TargetSchema)
  | history (table : TableName)
deriving DecidableEq, Repr

/-- What an operation of a catalog gives. -/
inductive CatalogAnswer where
  | done
  | present (present : Bool)
  | latest (schema : Option TargetSchema)
  | created (schema : TargetSchema)
  | versions (schemas : List TargetSchema)
deriving DecidableEq, Repr

/-- Makes a call. -/
def Catalog.perform {m : Type → Type} [Monad m] (catalog : Catalog m) :
    CatalogCall → ExceptT Error m CatalogAnswer
  | .createDatabase database ignoreIfExists => do
    catalog.createDatabase database ignoreIfExists
    return .done
  | .databaseExists database => return .present (← catalog.databaseExists database)
  | .getTable table => return .latest (← catalog.getTable table)
  | .createTable table draft => return .created (← catalog.createTable table draft)
  | .commitSchema table schema => do
    catalog.commitSchema table schema
    return .done
  | .history table => return .versions (← catalog.history table)

/-- The table to whose history a call adds a version if it succeeds. -/
def CatalogCall.extends? : CatalogCall → Option TableName
  | createTable table _ | commitSchema table _ => some table
  | _ => none

/-- The answers to requests one after another, and the state after all of them. -/
def session {σ ρ α : Type} (answer : σ → ρ → α × σ) (s : σ) : List ρ → List α × σ
  | [] => ([], s)
  | request :: requests =>
    let first := answer s request
    let rest := session answer first.2 requests
    (first.1 :: rest.1, rest.2)

theorem session_append {σ ρ α : Type} (answer : σ → ρ → α × σ) (s : σ) (earlier later : List ρ) :
    (session answer s (earlier ++ later)).2 =
      (session answer (session answer s earlier).2 later).2 := by
  induction earlier generalizing s with
  | nil => rfl
  | cons request requests ih => exact ih (answer s request).2

/-- A call at a time. -/
abbrev CatalogRequest : Type := Timestamp × CatalogCall

/-- How many calls of a session added a version to the history of a table. -/
def additions (table : TableName)
    (exchanges : List (CatalogRequest × Except Error CatalogAnswer)) : Nat :=
  exchanges.countP fun exchange => exchange.1.2.extends? = some table && exchange.2.isOk

namespace MemoryCatalog

variable {c c' : MemoryCatalog} {table : TableName} {versions : List TargetSchema}

/-- The answer to a call at a time, and the catalog afterwards. -/
def answer (c : MemoryCatalog) (request : CatalogRequest) :
    Except Error CatalogAnswer × MemoryCatalog :=
  (c.exec { clock := request.1 } (catalog.perform request.2)).1

/-- The catalogs that calls can lead to. -/
def Reachable (c : MemoryCatalog) : Prop := ∃ requests, (session answer {} requests).2 = c

/-! ## Answers to single calls -/

section Answers

variable (c : MemoryCatalog) (now : Timestamp)

theorem answer_createDatabase (database : String) (ignoreIfExists : Bool) :
    c.answer (now, .createDatabase database ignoreIfExists) =
      match c.createDatabase database ignoreIfExists with
      | .ok c' => (.ok .done, c')
      | .error e => (.error e, c) := by
  have hcreate : c.exec { clock := now } (catalog.createDatabase database ignoreIfExists) = _ :=
    exec_update c { clock := now } fun c => c.createDatabase database ignoreIfExists
  simp only [answer, Catalog.perform, exec_bind, hcreate]
  cases c.createDatabase database ignoreIfExists <;> rfl

theorem answer_databaseExists (database : String) :
    c.answer (now, .databaseExists database) = (.ok (.present (c.hasDatabase database)), c) := rfl

theorem answer_getTable (table : TableName) :
    c.answer (now, .getTable table) = (.ok (.latest (c.latest? table)), c) := rfl

theorem answer_createTable (table : TableName) (draft : TargetDraft) :
    c.answer (now, .createTable table draft) =
      match c.createTable table (.ofDraft draft now) with
      | .ok c' => (.ok (.created (.ofDraft draft now)), c')
      | .error e => (.error e, c) := by
  simp only [answer, Catalog.perform, exec_bind, exec_createTable, Clock.now_still]
  cases c.createTable table (.ofDraft draft now) <;> rfl

theorem answer_commitSchema (table : TableName) (schema : TargetSchema) :
    c.answer (now, .commitSchema table schema) =
      match c.commitSchema table schema with
      | .ok c' => (.ok .done, c')
      | .error e => (.error e, c) := by
  simp only [answer, Catalog.perform, exec_bind, exec_commitSchema]
  cases c.commitSchema table schema <;> rfl

theorem answer_history (table : TableName) :
    c.answer (now, .history table) = (.ok (.versions (c.history table)), c) := rfl

end Answers

/-! ## What a call can do -/

/-- The history of a table is longer by one version, and there is nothing else that is new. -/
structure Gains (c : MemoryCatalog) (table : TableName) (schema : TargetSchema)
    (c' : MemoryCatalog) : Prop where
  history? : ∀ other, c'.history? other =
    if other = table then some (c.history table ++ [schema]) else c.history? other
  hasDatabase : ∀ database, c'.hasDatabase database = c.hasDatabase database

theorem eq_withDatabase_of_createDatabase {database : String} {ignoreIfExists : Bool}
    (h : c.createDatabase database ignoreIfExists = .ok c') : c' = c.withDatabase database := by
  unfold createDatabase at h
  unfold withDatabase
  split at h
  · rename_i hthere
    split at h
    · cases h
      rw [if_pos hthere]
    · cases h
  · rename_i hmissing
    cases h
    rw [if_neg hmissing]

theorem hasDatabase_setHistory {tables : Dict (List TargetSchema)}
    (h : c.databases.find? table.database = some tables) (versions : List TargetSchema)
    (database : String) :
    (c.setHistory tables table versions).hasDatabase database = c.hasDatabase database := by
  unfold hasDatabase setHistory
  rw [Dict.contains_insert]
  by_cases hdatabase : database = table.database
  · simp [hdatabase, Dict.contains, h]
  · simp [hdatabase]

/-- Replacing a history by a longer one adds a version. -/
theorem gains_setHistory {tables : Dict (List TargetSchema)}
    (h : c.databases.find? table.database = some tables) (versions : List TargetSchema)
    (schema : TargetSchema) :
    (c.setHistory tables table versions).Gains table schema
      (c.setHistory tables table (versions ++ [schema])) where
  history? other := by
    rw [history?_setHistory h, history, history?_setHistory h, history?_setHistory h, if_pos rfl]
    by_cases hother : other = table
    · simp [hother]
    · simp [hother]
  hasDatabase database := by rw [hasDatabase_setHistory h, hasDatabase_setHistory h]

theorem gains_of_createTable {first : TargetSchema} (h : c.createTable table first = .ok c') :
    c.history? table = none ∧ c.Gains table first c' := by
  obtain ⟨tables, htables, hmissing, rfl⟩ := createTable_eq_ok_iff.1 h
  have hnone : c.history? table = none := by
    simpa [history?, htables, Dict.contains] using hmissing
  refine ⟨hnone, ?_, hasDatabase_setHistory htables _⟩
  intro other
  rw [history?_createTable h, history, hnone]
  rfl

theorem gains_of_commitSchema {schema : TargetSchema} (h : c.commitSchema table schema = .ok c') :
    ∃ versions, c.history? table = some versions ∧
      (∀ latest, versions.getLast? = some latest → schema.version = nextVersion latest.version) ∧
        c.Gains table schema c' := by
  obtain ⟨tables, versions, htables, hversions, hnext, rfl⟩ := commitSchema_eq_ok_iff.1 h
  have hhistory : c.history? table = some versions :=
    Option.bind_eq_some_iff.2 ⟨tables, htables, hversions⟩
  refine ⟨versions, hhistory, hnext, ?_, hasDatabase_setHistory htables _⟩
  intro other
  rw [history?_commitSchema h, history, hhistory]
  rfl

theorem createTable_of_noDatabase (h : c.hasDatabase table.database = false)
    (first : TargetSchema) :
    c.createTable table first = .error (.databaseNotFound table.database) := by
  have hnone : c.databases.find? table.database = none := by
    simpa [hasDatabase, Dict.contains] using h
  rw [createTable, hnone]

theorem createTable_of_there (h : (c.history? table).isSome = true) (first : TargetSchema) :
    c.createTable table first = .error (.tableAlreadyExists table) := by
  obtain ⟨versions, hversions⟩ := Option.isSome_iff_exists.1 h
  obtain ⟨tables, htables, hfound⟩ := Option.bind_eq_some_iff.1 hversions
  simp [createTable, htables, Dict.contains, hfound]

/-- A table that is new to its database can be created. -/
theorem createTable_of_vacant (hdatabase : c.hasDatabase table.database = true)
    (hnone : c.history? table = none) (first : TargetSchema) :
    ∃ tables, c.databases.find? table.database = some tables ∧
      c.createTable table first = .ok (c.setHistory tables table [first]) := by
  obtain ⟨tables, htables⟩ := Option.isSome_iff_exists.1 hdatabase
  refine ⟨tables, htables, createTable_eq_ok_iff.2 ⟨tables, htables, ?_, rfl⟩⟩
  simpa [history?, htables, Dict.contains] using hnone

/-- A table is created in a database that is there and does not have it. -/
theorem createTable_cases (c : MemoryCatalog) (table : TableName) (first : TargetSchema) :
    c.hasDatabase table.database = false ∧
        c.createTable table first = .error (.databaseNotFound table.database) ∨
      (c.history? table).isSome = true ∧
        c.createTable table first = .error (.tableAlreadyExists table) ∨
      c.hasDatabase table.database = true ∧ c.history? table = none ∧
        ∃ tables, c.databases.find? table.database = some tables ∧
          c.createTable table first = .ok (c.setHistory tables table [first]) := by
  cases hdatabase : c.hasDatabase table.database with
  | false => exact .inl ⟨rfl, createTable_of_noDatabase hdatabase first⟩
  | true =>
    cases hversions : c.history? table with
    | some versions => exact .inr (.inl ⟨rfl, createTable_of_there (by rw [hversions]; rfl) first⟩)
    | none => exact .inr (.inr ⟨rfl, rfl, createTable_of_vacant hdatabase hversions first⟩)

theorem commitSchema_of_missing {schema : TargetSchema} (h : c.history? table = none) :
    c.commitSchema table schema = .error (.tableNotFound table) := by
  unfold history? at h
  unfold commitSchema
  cases htables : c.databases.find? table.database with
  | none => rfl
  | some tables =>
    rw [htables, Option.bind_some] at h
    simp only [h]

theorem commitSchema_of_ne {latest schema : TargetSchema}
    (hlatest : c.latest? table = some latest)
    (hne : schema.version ≠ nextVersion latest.version) :
    c.commitSchema table schema =
      .error (.schemaVersionConflict table (nextVersion latest.version) schema.version) := by
  obtain ⟨versions, hversions, hlast⟩ := latest?_eq_some_iff.1 hlatest
  obtain ⟨tables, htables, hversions⟩ := Option.bind_eq_some_iff.1 hversions
  simp only [commitSchema, htables, hversions, hlast, checkNext, if_neg hne]
  rfl

theorem commitSchema_of_next (schema : TargetSchema) (hthere : (c.history? table).isSome = true)
    (hnext : ∀ latest, c.latest? table = some latest →
      schema.version = nextVersion latest.version) :
    ∃ c', c.commitSchema table schema = .ok c' := by
  obtain ⟨versions, hversions⟩ := Option.isSome_iff_exists.1 hthere
  obtain ⟨tables, htables, hfound⟩ := Option.bind_eq_some_iff.1 hversions
  refine ⟨_, commitSchema_eq_ok_iff.2 ⟨tables, versions, htables, hfound, ?_, rfl⟩⟩
  exact fun latest hlatest => hnext latest (latest?_eq_some_iff.2 ⟨versions, hversions, hlatest⟩)

/-- A version is added to a table that is there if it has the next number. -/
theorem commitSchema_cases (c : MemoryCatalog) (table : TableName) (schema : TargetSchema) :
    c.history? table = none ∧ c.commitSchema table schema = .error (.tableNotFound table) ∨
      (∃ latest, c.latest? table = some latest ∧ schema.version ≠ nextVersion latest.version ∧
        c.commitSchema table schema = .error
          (.schemaVersionConflict table (nextVersion latest.version) schema.version)) ∨
      (c.history? table).isSome = true ∧
        (∀ latest, c.latest? table = some latest → schema.version = nextVersion latest.version) ∧
        ∃ c', c.commitSchema table schema = .ok c' := by
  cases hversions : c.history? table with
  | none => exact .inl ⟨rfl, commitSchema_of_missing hversions⟩
  | some versions =>
    by_cases hnext : ∀ latest, c.latest? table = some latest →
        schema.version = nextVersion latest.version
    · exact .inr (.inr ⟨rfl, hnext, commitSchema_of_next schema (by rw [hversions]; rfl) hnext⟩)
    · push Not at hnext
      obtain ⟨latest, hlatest, hne⟩ := hnext
      exact .inr (.inl ⟨latest, hlatest, hne, commitSchema_of_ne hlatest hne⟩)

/-- A call leaves the catalog as it is, opens a database, or adds a version to the history of one
table: the first one to a new table, the next one to another. -/
theorem answer_cases (c : MemoryCatalog) (request : CatalogRequest) :
    (c.answer request).2 = c ∧
        (request.2.extends? = none ∨ (c.answer request).1.isOk = false) ∨
      (∃ database, request.2.extends? = none ∧ (c.answer request).1.isOk = true ∧
        (c.answer request).2 = c.withDatabase database) ∨
      ∃ table schema, request.2.extends? = some table ∧ (c.answer request).1.isOk = true ∧
        c.Gains table schema (c.answer request).2 ∧
          (c.history? table = none ∧ schema.version = 0 ∨
            ∃ versions, c.history? table = some versions ∧ ∀ latest,
              versions.getLast? = some latest → schema.version = nextVersion latest.version) := by
  obtain ⟨now, call⟩ := request
  cases call with
  | databaseExists database => exact .inl ⟨rfl, .inl rfl⟩
  | getTable table => exact .inl ⟨rfl, .inl rfl⟩
  | history table => exact .inl ⟨rfl, .inl rfl⟩
  | createDatabase database ignoreIfExists =>
    rw [answer_createDatabase]
    cases hcreate : c.createDatabase database ignoreIfExists with
    | error e => exact .inl ⟨rfl, .inl rfl⟩
    | ok c' => exact .inr (.inl ⟨database, rfl, rfl, eq_withDatabase_of_createDatabase hcreate⟩)
  | createTable table draft =>
    rw [answer_createTable]
    cases hcreate : c.createTable table (.ofDraft draft now) with
    | error e => exact .inl ⟨rfl, .inr rfl⟩
    | ok c' =>
      obtain ⟨hnone, hgains⟩ := gains_of_createTable hcreate
      exact .inr (.inr ⟨table, .ofDraft draft now, rfl, rfl, hgains, .inl ⟨hnone, rfl⟩⟩)
  | commitSchema table schema =>
    rw [answer_commitSchema]
    cases hcommit : c.commitSchema table schema with
    | error e => exact .inl ⟨rfl, .inr rfl⟩
    | ok c' =>
      obtain ⟨versions, hversions, hnext, hgains⟩ := gains_of_commitSchema hcommit
      exact .inr (.inr ⟨table, schema, rfl, rfl, hgains, .inr ⟨versions, hversions, hnext⟩⟩)

/-- A call that fails leaves the catalog as it is. -/
theorem answer_eq_error {request : CatalogRequest} {e : Error}
    (h : c.answer request = (.error e, c')) : c' = c := by
  have hfails : (c.answer request).1.isOk = false := by rw [h]; rfl
  rcases answer_cases c request with ⟨hkept, _⟩ | ⟨_, _, hok, _⟩ | ⟨_, _, _, hok, _⟩
  · rw [← hkept, h]
  · rw [hfails] at hok
    cases hok
  · rw [hfails] at hok
    cases hok

theorem Gains.history_self {schema : TargetSchema} (h : c.Gains table schema c') :
    c'.history table = c.history table ++ [schema] := by
  rw [history, h.history?, if_pos rfl]
  rfl

theorem Gains.history_of_ne {schema : TargetSchema} {other : TableName}
    (h : c.Gains table schema c') (hother : other ≠ table) :
    c'.history other = c.history other := by
  rw [history, h.history?, if_neg hother, history]

/-! ## Histories grow -/

/-- Versions stay where they are, whatever is called. -/
theorem history?_answer (request : CatalogRequest) (h : c.history? table = some versions) :
    ∃ more, (c.answer request).2.history? table = some (versions ++ more) := by
  rcases answer_cases c request with
    ⟨hkept, _⟩ | ⟨database, _, _, hopened⟩ | ⟨gaining, schema, _, _, hgains, _⟩
  · exact ⟨[], by rw [hkept, h, List.append_nil]⟩
  · exact ⟨[], by rw [hopened, history?_withDatabase, h, List.append_nil]⟩
  · rw [hgains.history?]
    by_cases htable : table = gaining
    · subst htable
      exact ⟨[schema], by rw [if_pos rfl, history, h, Option.getD_some]⟩
    · exact ⟨[], by rw [if_neg htable, h, List.append_nil]⟩

theorem history?_session (requests : List CatalogRequest) (h : c.history? table = some versions) :
    ∃ more, (session answer c requests).2.history? table = some (versions ++ more) := by
  induction requests generalizing c versions with
  | nil => exact ⟨[], by rw [session, h, List.append_nil]⟩
  | cons request requests ih =>
    obtain ⟨next, hnext⟩ := history?_answer request h
    obtain ⟨more, hmore⟩ := ih hnext
    exact ⟨next ++ more, by rw [session, hmore, List.append_assoc]⟩

/-- A history is longer by one exactly if a call that adds to it succeeds. -/
theorem length_history_answer (c : MemoryCatalog) (table : TableName) (request : CatalogRequest) :
    ((c.answer request).2.history table).length =
      (c.history table).length + additions table [(request, (c.answer request).1)] := by
  rcases answer_cases c request with
    ⟨hkept, hnone | hfails⟩ | ⟨database, hnone, _, hopened⟩ | ⟨gaining, schema, hsome, hok, hgains, _⟩
  · simp [additions, hkept, hnone]
  · simp [additions, hkept, hfails]
  · simp [additions, hopened, hnone, history, history?_withDatabase]
  · by_cases htable : table = gaining
    · subst htable
      simp [additions, hgains.history_self, hsome, hok]
    · simp [additions, hgains.history_of_ne htable, hsome, Ne.symm htable]

/-- A history has one version for each call of a session that added one. -/
theorem length_history_session (c : MemoryCatalog) (table : TableName)
    (requests : List CatalogRequest) :
    ((session answer c requests).2.history table).length =
      (c.history table).length + additions table (requests.zip (session answer c requests).1) := by
  induction requests generalizing c with
  | nil => rfl
  | cons request requests ih =>
    simp only [session, List.zip_cons_cons]
    rw [ih, length_history_answer, Nat.add_assoc]
    congr 1
    rw [additions, additions, additions, ← List.countP_append, List.singleton_append]

/-! ## Every table has a version -/

/-- Every table has at least one version. -/
def Founded (c : MemoryCatalog) : Prop :=
  ∀ table versions, c.history? table = some versions → versions ≠ []

theorem Gains.founded {schema : TargetSchema} (hgains : c.Gains table schema c')
    (h : c.Founded) : c'.Founded := by
  intro other versions hversions
  rw [hgains.history?] at hversions
  by_cases hother : other = table
  · rw [if_pos hother] at hversions
    cases hversions
    simp
  · rw [if_neg hother] at hversions
    exact h other versions hversions

theorem founded_answer (h : c.Founded) (request : CatalogRequest) :
    (c.answer request).2.Founded := by
  rcases answer_cases c request with
    ⟨hkept, _⟩ | ⟨database, _, _, hopened⟩ | ⟨table, schema, _, _, hgains, _⟩
  · rw [hkept]
    exact h
  · rw [hopened]
    intro table versions hversions
    rw [history?_withDatabase] at hversions
    exact h table versions hversions
  · exact hgains.founded h

theorem founded_session (h : c.Founded) (requests : List CatalogRequest) :
    (session answer c requests).2.Founded := by
  induction requests generalizing c with
  | nil => exact h
  | cons request requests ih => exact ih (founded_answer h request)

theorem founded_empty : Founded {} := by
  intro table versions h
  cases h

theorem Reachable.founded (h : c.Reachable) : c.Founded := by
  obtain ⟨requests, rfl⟩ := h
  exact founded_session founded_empty requests

/-! ## Versions are numbered -/

/-- The versions of every table are numbered from zero on without gaps. -/
def Numbered (c : MemoryCatalog) : Prop :=
  ∀ table versions, c.history? table = some versions →
    ∀ (i : Nat) version, versions[i]? = some version → version.version.toNat = i

theorem Numbered.history (h : c.Numbered) {i : Nat} {version : TargetSchema}
    (hversion : (c.history table)[i]? = some version) : version.version.toNat = i := by
  unfold MemoryCatalog.history at hversion
  cases hversions : c.history? table with
  | none => simp [hversions] at hversion
  | some versions =>
    rw [hversions, Option.getD_some] at hversion
    exact h table versions hversions i version hversion

/-- A table without versions has no numbers. -/
theorem Numbered.of_history? (h : c.Numbered)
    (hhistory : ∀ other, c'.history? other = if other = table then some [] else c.history? other) :
    c'.Numbered := by
  intro other versions hversions i version hversion
  rw [hhistory] at hversions
  by_cases hother : other = table
  · rw [if_pos hother] at hversions
    cases hversions
    simp at hversion
  · rw [if_neg hother] at hversions
    exact h other versions hversions i version hversion

/-- The number of versions is a number that no version has. -/
theorem Numbered.toNat_lt (h : c.Numbered) {version : TargetSchema}
    (hversion : version ∈ c.history table) : version.version.toNat < (c.history table).length := by
  obtain ⟨i, hi⟩ := List.mem_iff_getElem?.1 hversion
  rw [h.history hi]
  exact (List.getElem?_eq_some_iff.1 hi).1

/-- The number after the latest one is the number of versions so far. -/
theorem toNat_nextVersion_latest (hfounded : c.Founded) (hnumbered : c.Numbered)
    (hversions : c.history? table = some versions) (hroom : versions.length < UInt64.size) :
    ∃ latest, versions.getLast? = some latest ∧
      (nextVersion latest.version).toNat = versions.length := by
  have hne := hfounded table versions hversions
  have hpos : 0 < versions.length := List.length_pos_iff.2 hne
  have hlast : versions.getLast? = some (versions.getLast hne) :=
    List.getLast?_eq_some_getLast hne
  have hnumber : (versions.getLast hne).version.toNat = versions.length - 1 := by
    apply hnumbered table versions hversions
    rw [← List.getLast?_eq_getElem?, hlast]
  refine ⟨_, hlast, ?_⟩
  rw [toNat_nextVersion (by omega), hnumber]
  omega

/-- Adding the version with the next number keeps the numbers in order. -/
theorem Gains.numbered {schema : TargetSchema} (hgains : c.Gains table schema c')
    (h : c.Numbered) (hnext : schema.version.toNat = (c.history table).length) : c'.Numbered := by
  intro other versions hversions
  rw [hgains.history?] at hversions
  by_cases hother : other = table
  · rw [if_pos hother] at hversions
    cases hversions
    intro i version hversion
    rcases Nat.lt_trichotomy i (c.history table).length with hlt | heq | hgt
    · rw [List.getElem?_append_left hlt] at hversion
      exact h.history hversion
    · subst heq
      simp only [List.getElem?_concat_length, Option.some.injEq] at hversion
      rw [← hversion, hnext]
    · simp [List.getElem?_append_right (Nat.le_of_lt hgt), Nat.sub_ne_zero_of_lt hgt] at hversion
  · rw [if_neg hother] at hversions
    exact h other versions hversions

theorem numbered_answer (hfounded : c.Founded) (h : c.Numbered) (request : CatalogRequest)
    (hroom : ∀ table, (c.history table).length < UInt64.size) :
    (c.answer request).2.Numbered := by
  rcases answer_cases c request with
    ⟨hkept, _⟩ | ⟨database, _, _, hopened⟩ |
    ⟨table, schema, _, _, hgains, ⟨hnone, hzero⟩ | ⟨versions, hversions, hnext⟩⟩
  · rw [hkept]
    exact h
  · rw [hopened]
    intro table versions hversions
    rw [history?_withDatabase] at hversions
    exact h table versions hversions
  · apply hgains.numbered h
    rw [hzero, history, hnone]
    rfl
  · apply hgains.numbered h
    have hlength : (c.history table).length = versions.length := by
      rw [history, hversions, Option.getD_some]
    obtain ⟨latest, hlatest, htoNat⟩ :=
      toNat_nextVersion_latest hfounded h hversions (hlength ▸ hroom table)
    rw [hnext latest hlatest, htoNat, hlength]

theorem numbered_session (hfounded : c.Founded) (h : c.Numbered) (requests : List CatalogRequest)
    (hroom : ∀ table, ((session answer c requests).2.history table).length < UInt64.size) :
    (session answer c requests).2.Numbered := by
  induction requests generalizing c with
  | nil => exact h
  | cons request requests ih =>
    refine ih (founded_answer hfounded request) (numbered_answer hfounded h request ?_) hroom
    intro table
    have hgrown := length_history_session c table (request :: requests)
    have := hroom table
    omega

theorem numbered_empty : Numbered {} := by
  intro table versions h
  cases h

/-! ## What callers can rely on -/

/-- A schema can be committed to a table that exists if its number is the number of versions so
far. -/
theorem commitSchema_isOk_iff (hfounded : c.Founded) (hnumbered : c.Numbered)
    (hroom : (c.history table).length < UInt64.size) (schema : TargetSchema) :
    (∃ c', c.commitSchema table schema = .ok c') ↔
      ∃ versions, c.history? table = some versions ∧ schema.version.toNat = versions.length := by
  have hnext {versions : List TargetSchema} (hversions : c.history? table = some versions) :
      ∃ latest, versions.getLast? = some latest ∧
        (nextVersion latest.version).toNat = versions.length := by
    apply toNat_nextVersion_latest hfounded hnumbered hversions
    rwa [history, hversions, Option.getD_some] at hroom
  constructor
  · intro h
    obtain ⟨c', hcommit⟩ := h
    obtain ⟨versions, hversions, hfollows, _⟩ := gains_of_commitSchema hcommit
    obtain ⟨latest, hlatest, htoNat⟩ := hnext hversions
    exact ⟨versions, hversions, by rw [hfollows latest hlatest, htoNat]⟩
  · intro h
    obtain ⟨versions, hversions, hnumber⟩ := h
    obtain ⟨latest, hlatest, htoNat⟩ := hnext hversions
    apply exists_commitSchema (latest?_eq_some_iff.2 ⟨versions, hversions, hlatest⟩)
    rw [← UInt64.toNat_inj, hnumber, htoNat]

/-- What holds of a catalog between calls. -/
structure WellKept (c : MemoryCatalog) : Prop where
  founded : c.Founded
  numbered : c.Numbered
  /-- The latest version is the last one of the history. -/
  getTable : ∀ now table versions (h : c.history? table = some versions),
    c.answer (now, .getTable table) =
      (.ok (.latest (some (versions.getLast (founded table versions h)))), c)
  /-- A commit succeeds exactly for the next number of a table that exists. -/
  commits : ∀ now table schema, (c.answer (now, .commitSchema table schema)).1.isOk = true ↔
    ∃ versions, c.history? table = some versions ∧ schema.version.toNat = versions.length
  /-- It adds the version to its table and does nothing else. -/
  gains : ∀ now table schema, (c.answer (now, .commitSchema table schema)).1.isOk = true →
    c.Gains table schema (c.answer (now, .commitSchema table schema)).2
  /-- A call that fails leaves the catalog as it is. -/
  failures : ∀ request e c', c.answer request = (.error e, c') → c' = c

theorem wellKept (hfounded : c.Founded) (hnumbered : c.Numbered)
    (hroom : ∀ table, (c.history table).length < UInt64.size) : c.WellKept where
  founded := hfounded
  numbered := hnumbered
  getTable now table versions h := by
    rw [answer_getTable, latest?_eq, h, Option.bind_some,
      List.getLast?_eq_some_getLast (hfounded table versions h)]
  commits now table schema := by
    rw [← commitSchema_isOk_iff hfounded hnumbered (hroom table) schema, answer_commitSchema]
    cases c.commitSchema table schema <;> simp [Except.isOk, Except.toBool]
  gains now table schema h := by
    rw [answer_commitSchema] at h ⊢
    cases hcommit : c.commitSchema table schema with
    | error e =>
      rw [hcommit] at h
      cases h
    | ok c' =>
      obtain ⟨_, _, _, hgains⟩ := gains_of_commitSchema hcommit
      exact hgains
  failures _ _ _ h := answer_eq_error h

/-- After any calls, of which fewer add a version to any one table than there are numbers, the
catalog is well kept, and every version that was there at some point still is, in its place. -/
theorem wellKept_session (requests : List CatalogRequest)
    (hfew : ∀ table, additions table (requests.zip (session answer {} requests).1) < UInt64.size) :
    (session answer {} requests).2.WellKept ∧
      ∀ earlier later, requests = earlier ++ later → ∀ table versions,
        (session answer {} earlier).2.history? table = some versions →
          ∃ more, (session answer {} requests).2.history? table = some (versions ++ more) := by
  have hroom (table : TableName) :
      ((session answer {} requests).2.history table).length < UInt64.size := by
    rw [length_history_session {} table requests]
    have hnone : history {} table = [] := rfl
    rw [hnone, List.length_nil, Nat.zero_add]
    exact hfew table
  constructor
  · exact wellKept (founded_session founded_empty requests)
      (numbered_session founded_empty numbered_empty requests hroom) hroom
  · intro earlier later hrequests table versions hversions
    rw [hrequests, session_append]
    exact history?_session later hversions

/-- A table with a key. -/
def ordersDraft : TargetDraft where
  columns := [⟨"id", .integer 32⟩]
  primaryKeys := ["id"]
  partitionKeys := []
  options := .empty

/-- A session in which a version is committed to a table, committed again, and committed to a table
that does not exist. -/
def ordersSession : List CatalogRequest :=
  let second : TargetSchema :=
    (TargetSchema.ofDraft ordersDraft default).next [⟨"id", .integer 64⟩] default
  [(default, .createDatabase "lake" false),
   (default, .createTable ⟨"lake", "orders"⟩ ordersDraft),
   (default, .commitSchema ⟨"lake", "orders"⟩ second),
   (default, .commitSchema ⟨"lake", "orders"⟩ second),
   (default, .commitSchema ⟨"lake", "payments"⟩ second)]

theorem wellKept_session_orders :
    (∀ table, additions table (ordersSession.zip (session answer {} ordersSession).1) <
        UInt64.size) ∧
      ((session answer {} ordersSession).2.history ⟨"lake", "orders"⟩).map (·.version) = [0, 1] ∧
      (session answer {} ordersSession).2.WellKept ∧
        ∀ earlier later, ordersSession = earlier ++ later → ∀ table versions,
          (session answer {} earlier).2.history? table = some versions →
            ∃ more, (session answer {} ordersSession).2.history? table =
              some (versions ++ more) := by
  have hfew (table : TableName) :
      additions table (ordersSession.zip (session answer {} ordersSession).1) < UInt64.size :=
    Nat.lt_of_le_of_lt List.countP_le_length (by decide)
  exact ⟨hfew, by decide, wellKept_session ordersSession hfew⟩

end MemoryCatalog

end ShardMerge
