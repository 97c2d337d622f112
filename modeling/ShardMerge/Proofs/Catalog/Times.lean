import ShardMerge.Proofs.Catalog.Session

/-!
# Sessions at other times

The time of a call matters for a first version only, which is stamped with it.

* `TargetSchema.untimed` takes the stamp off, and `MemoryCatalog.Alike` relates catalogs that are
  equal without stamps.
* `Alike.answer` is the step: calls that differ in their times have the same answers, up to stamps,
  and lead to catalogs that are alike.  `Alike.session` is the run.
-/

namespace ShardMerge

/-- A version without the time at which it was made, if it is a first one. -/
def TargetSchema.untimed (s : TargetSchema) : TargetSchema :=
  if s.version = 0 then { s with updatedAt := default } else s

theorem TargetSchema.version_untimed (s : TargetSchema) : s.untimed.version = s.version := by
  unfold untimed
  split <;> rfl

theorem TargetSchema.untimed_ofDraft (draft : TargetDraft) (now now' : Timestamp) :
    (ofDraft draft now).untimed = (ofDraft draft now').untimed := rfl

/-- An answer without the times at which first versions were made. -/
def CatalogAnswer.untimed : CatalogAnswer → CatalogAnswer
  | latest schema => .latest (schema.map TargetSchema.untimed)
  | created schema => .created schema.untimed
  | versions schemas => .versions (schemas.map TargetSchema.untimed)
  | answer => answer

namespace MemoryCatalog

variable {c c' d d' : MemoryCatalog} {table : TableName} {schema schema' : TargetSchema}

/-- Catalogs that are equal without the times at which first versions were made. -/
structure Alike (c c' : MemoryCatalog) : Prop where
  hasDatabase : ∀ database, c.hasDatabase database = c'.hasDatabase database
  history? : ∀ table, (c.history? table).map (List.map TargetSchema.untimed) =
    (c'.history? table).map (List.map TargetSchema.untimed)

theorem Alike.refl (c : MemoryCatalog) : c.Alike c := ⟨fun _ => rfl, fun _ => rfl⟩

theorem Alike.isSome_history? (h : c.Alike c') (table : TableName) :
    (c.history? table).isSome = (c'.history? table).isSome := by
  have hsome := congrArg Option.isSome (h.history? table)
  rwa [Option.isSome_map, Option.isSome_map] at hsome

theorem Alike.history (h : c.Alike c') (table : TableName) :
    (c.history table).map TargetSchema.untimed = (c'.history table).map TargetSchema.untimed := by
  have hhistory := h.history? table
  unfold MemoryCatalog.history
  cases hversions : c.history? table with
  | none =>
    rw [hversions, Option.map_none, eq_comm, Option.map_eq_none_iff] at hhistory
    rw [hhistory]
  | some versions =>
    rw [hversions, Option.map_some, eq_comm, Option.map_eq_some_iff] at hhistory
    obtain ⟨versions', hversions', hsame⟩ := hhistory
    rw [hversions', Option.getD_some, Option.getD_some, hsame]

theorem Alike.latest? (h : c.Alike c') (table : TableName) :
    (c.latest? table).map TargetSchema.untimed = (c'.latest? table).map TargetSchema.untimed := by
  rw [MemoryCatalog.latest?, MemoryCatalog.latest?, ← List.getLast?_map, h.history,
    List.getLast?_map]

/-- The latest versions have the same number. -/
theorem Alike.exists_latest? (h : c.Alike c') (hlatest : c.latest? table = some schema) :
    ∃ schema', c'.latest? table = some schema' ∧ schema'.version = schema.version := by
  have hsame := h.latest? table
  rw [hlatest, Option.map_some, eq_comm, Option.map_eq_some_iff] at hsame
  obtain ⟨schema', hlatest', huntimed⟩ := hsame
  refine ⟨schema', hlatest', ?_⟩
  rw [← schema'.version_untimed, huntimed, schema.version_untimed]

theorem Alike.symm (h : c.Alike c') : c'.Alike c :=
  ⟨fun database => (h.hasDatabase database).symm, fun table => (h.history? table).symm⟩

theorem Alike.withDatabase (h : c.Alike c') (database : String) :
    (c.withDatabase database).Alike (c'.withDatabase database) where
  hasDatabase other := by rw [hasDatabase_withDatabase, hasDatabase_withDatabase, h.hasDatabase]
  history? table := by rw [history?_withDatabase, history?_withDatabase, h.history?]

theorem Alike.gains (h : c.Alike c') (hgains : c.Gains table schema d)
    (hgains' : c'.Gains table schema' d') (hschema : schema.untimed = schema'.untimed) :
    d.Alike d' where
  hasDatabase database := by rw [hgains.hasDatabase, hgains'.hasDatabase, h.hasDatabase]
  history? other := by
    rw [hgains.history?, hgains'.history?]
    by_cases hother : other = table
    · rw [if_pos hother, if_pos hother, Option.map_some, Option.map_some, List.map_append,
        List.map_append, h.history, List.map_singleton, List.map_singleton, hschema]
    · rw [if_neg hother, if_neg hother, h.history?]

/-- Two calls have the same answer up to stamps, and leave catalogs that are alike. -/
structure AlikeAnswers (first second : Except Error CatalogAnswer × MemoryCatalog) : Prop where
  answer : first.1.map CatalogAnswer.untimed = second.1.map CatalogAnswer.untimed
  alike : first.2.Alike second.2

section Steps

variable (h : c.Alike c') (now now' : Timestamp)

include h

theorem Alike.answer_createDatabase (database : String) (ignoreIfExists : Bool) :
    AlikeAnswers (c.answer (now, .createDatabase database ignoreIfExists))
      (c'.answer (now', .createDatabase database ignoreIfExists)) := by
  rw [MemoryCatalog.answer_createDatabase, MemoryCatalog.answer_createDatabase]
  rcases c.createDatabase_cases database ignoreIfExists with ⟨hthere, hcreate⟩ | ⟨hmissing, hcreate⟩
  · rw [h.hasDatabase] at hthere
    rcases c'.createDatabase_cases database ignoreIfExists with
      ⟨_, hcreate'⟩ | ⟨hmissing', _⟩
    · rw [hcreate, hcreate']
      cases ignoreIfExists with
      | true => exact ⟨rfl, h⟩
      | false => exact ⟨rfl, h⟩
    · rw [hmissing'] at hthere
      cases hthere
  · rw [h.hasDatabase] at hmissing
    rcases c'.createDatabase_cases database ignoreIfExists with
      ⟨hthere', _⟩ | ⟨_, hcreate'⟩
    · rw [hthere'] at hmissing
      cases hmissing
    · rw [hcreate, hcreate']
      exact ⟨rfl, h.withDatabase database⟩

theorem Alike.answer_createTable (table : TableName) (draft : TargetDraft) :
    AlikeAnswers (c.answer (now, .createTable table draft))
      (c'.answer (now', .createTable table draft)) := by
  rw [MemoryCatalog.answer_createTable, MemoryCatalog.answer_createTable]
  rcases c.createTable_cases table (.ofDraft draft now) with
    ⟨hdatabase, hcreate⟩ | ⟨hthere, hcreate⟩ | ⟨hdatabase, hnone, _, _, hcreate⟩
  · rw [h.hasDatabase] at hdatabase
    rw [hcreate, createTable_of_noDatabase hdatabase]
    exact ⟨rfl, h⟩
  · rw [h.isSome_history?] at hthere
    rw [hcreate, createTable_of_there hthere]
    exact ⟨rfl, h⟩
  · rw [h.hasDatabase] at hdatabase
    rw [← Option.not_isSome_iff_eq_none, h.isSome_history?, Option.not_isSome_iff_eq_none] at hnone
    obtain ⟨_, _, hcreate'⟩ := createTable_of_vacant hdatabase hnone (.ofDraft draft now')
    rw [hcreate, hcreate']
    exact ⟨rfl, h.gains (gains_of_createTable hcreate).2 (gains_of_createTable hcreate').2
      (TargetSchema.untimed_ofDraft draft now now')⟩

theorem Alike.answer_commitSchema (table : TableName) (schema : TargetSchema) :
    AlikeAnswers (c.answer (now, .commitSchema table schema))
      (c'.answer (now', .commitSchema table schema)) := by
  rw [MemoryCatalog.answer_commitSchema, MemoryCatalog.answer_commitSchema]
  rcases c.commitSchema_cases table schema with
    ⟨hnone, hcommit⟩ | ⟨latest, hlatest, hne, hcommit⟩ | ⟨hthere, hnext, _, hcommit⟩
  · rw [← Option.not_isSome_iff_eq_none, h.isSome_history?, Option.not_isSome_iff_eq_none] at hnone
    rw [hcommit, commitSchema_of_missing hnone]
    exact ⟨rfl, h⟩
  · obtain ⟨latest', hlatest', hversion⟩ := h.exists_latest? hlatest
    rw [← hversion] at hne
    rw [hcommit, commitSchema_of_ne hlatest' hne, hversion]
    exact ⟨rfl, h⟩
  · rw [h.isSome_history?] at hthere
    obtain ⟨_, hcommit'⟩ := commitSchema_of_next schema hthere fun latest' hlatest' => by
      obtain ⟨latest, hlatest, hversion⟩ := h.symm.exists_latest? hlatest'
      rw [hnext latest hlatest, hversion]
    obtain ⟨_, _, _, hgains⟩ := gains_of_commitSchema hcommit
    obtain ⟨_, _, _, hgains'⟩ := gains_of_commitSchema hcommit'
    rw [hcommit, hcommit']
    exact ⟨rfl, h.gains hgains hgains' rfl⟩

/-- Calls at other times have the same answers up to stamps. -/
theorem Alike.answer (call : CatalogCall) :
    AlikeAnswers (c.answer (now, call)) (c'.answer (now', call)) := by
  cases call with
  | createDatabase database ignoreIfExists =>
    exact h.answer_createDatabase now now' database ignoreIfExists
  | databaseExists database =>
    rw [answer_databaseExists, answer_databaseExists, h.hasDatabase]
    exact ⟨rfl, h⟩
  | getTable table =>
    refine ⟨?_, h⟩
    exact congrArg (fun latest => Except.ok (CatalogAnswer.latest latest)) (h.latest? table)
  | createTable table draft => exact h.answer_createTable now now' table draft
  | commitSchema table schema => exact h.answer_commitSchema now now' table schema
  | history table =>
    refine ⟨?_, h⟩
    exact congrArg (fun versions => Except.ok (CatalogAnswer.versions versions)) (h.history table)

end Steps

/-- Sessions at other times have the same answers up to stamps, and lead to catalogs that are
alike. -/
theorem Alike.session (h : c.Alike c') {requests requests' : List CatalogRequest}
    (hcalls : requests.map Prod.snd = requests'.map Prod.snd) :
    (ShardMerge.session MemoryCatalog.answer c requests).1.map (·.map CatalogAnswer.untimed) =
        (ShardMerge.session MemoryCatalog.answer c' requests').1.map
          (·.map CatalogAnswer.untimed) ∧
      (ShardMerge.session MemoryCatalog.answer c requests).2.Alike
        (ShardMerge.session MemoryCatalog.answer c' requests').2 := by
  induction requests generalizing c c' requests' with
  | nil =>
    rw [List.map_nil, eq_comm, List.map_eq_nil_iff] at hcalls
    subst hcalls
    exact ⟨rfl, h⟩
  | cons request requests ih =>
    obtain ⟨request', rest', rfl, hcall, hrest⟩ := List.map_eq_cons_iff.1 hcalls.symm
    obtain ⟨now, call⟩ := request
    obtain ⟨now', call'⟩ := request'
    subst hcall
    obtain ⟨hanswer, halike⟩ := h.answer now now' call'
    obtain ⟨hanswers, hend⟩ := ih halike hrest.symm
    refine ⟨?_, hend⟩
    simp only [ShardMerge.session, List.map_cons, hanswers]
    exact congrArg (· :: _) hanswer

end MemoryCatalog

end ShardMerge
