import ShardMerge.Command.Run
import ShardMerge.Proofs.Catalog.Memory
import ShardMerge.Proofs.Change.Run

/-!
# Replaying events into a catalog

A replay takes the latest version of a table through a stream of events and commits every version
that they make.  In a catalog in memory it always succeeds, since the versions of a run follow each
other as the catalog asks.

* `TargetSchema.Precedes` relates a version to the one that the next applied change makes of it, and
  `ChangeEvent.isChain_applied` chains the versions of a run by it.  `ChangeEvent.isChain_makes`
  also tells from which events the changes come.
* `MemoryCatalog.MovesTo` is what a commit and a replay do to a catalog: one table has a new latest
  version, and other tables keep theirs.
* `exec_commitAll` commits a chain, by induction on it: each commit makes its version the latest
  one, to which the next one is compared.
* `exec_replayEvents` is one replay and `exec_mapM_replayEvents` any number of them, which lead
  where one replay of all their events leads.
-/

namespace ShardMerge

/-- Takes the latest version of a table through events, each decided at a time of its own, and
commits every version that they make. -/
def replayEvents {m : Type → Type} [Monad m] (catalog : Catalog m) (table : TableName)
    (arrivals : List (Timestamp × ChangeEvent)) : ExceptT Error m ChangeReport := do
  match ← catalog.getTable table with
  | none => throw (.tableNotFound table)
  | some current =>
    let (_, report) := ChangeEvent.processAt current arrivals
    commitAll catalog table report.applied
    return report

/-! ## The versions of a run -/

/-- One applied change makes the later version of the earlier one. -/
def TargetSchema.Precedes (earlier later : TargetSchema) : Prop :=
  ∃ (now : Timestamp) (change : SchemaChange), change.decide now earlier = .apply later

theorem TargetSchema.Precedes.version {earlier later : TargetSchema}
    (h : earlier.Precedes later) : later.version = nextVersion earlier.version := by
  obtain ⟨now, change, hdecide⟩ := h
  obtain ⟨type, _, happly⟩ := SchemaChange.decide_eq_apply_iff.1 hdecide
  rcases accommodate_eq_apply_iff.1 happly with ⟨_, rfl⟩ | ⟨_, _, _, _, rfl⟩ <;> rfl

namespace ChangeEvent

/-- One of some events, decided at its time, makes the later version of the earlier one. -/
def Makes (arrivals : List (Timestamp × ChangeEvent)) (earlier later : TargetSchema) : Prop :=
  ∃ arrival ∈ arrivals, arrival.2.change.decide arrival.1 earlier = .apply later

theorem Makes.mono {arrivals more : List (Timestamp × ChangeEvent)} (h : arrivals ⊆ more)
    {earlier later : TargetSchema} : Makes arrivals earlier later → Makes more earlier later := by
  rintro ⟨arrival, harrival, hdecide⟩
  exact ⟨arrival, h harrival, hdecide⟩

theorem Makes.precedes {arrivals : List (Timestamp × ChangeEvent)} {earlier later : TargetSchema}
    (h : Makes arrivals earlier later) : earlier.Precedes later := by
  obtain ⟨arrival, _, hdecide⟩ := h
  exact ⟨arrival.1, arrival.2.change, hdecide⟩

/-- Each version of a run is made of the one before by one of its events. -/
theorem isChain_makes (s : TargetSchema) (arrivals : List (Timestamp × ChangeEvent)) :
    (s :: (processAt s arrivals).2.applied).IsChain (Makes arrivals) := by
  induction arrivals generalizing s with
  | nil => exact .singleton s
  | cons arrival arrivals ih =>
    obtain ⟨now, event⟩ := arrival
    have hrest (s : TargetSchema) :=
      (ih s).imp fun _ _ => Makes.mono (List.subset_cons_self (now, event) arrivals)
    rw [processAt_cons]
    unfold advance
    cases hdecision : event.change.decide now s with
    | apply next =>
      exact List.isChain_cons_cons.2 ⟨⟨_, List.mem_cons_self, hdecision⟩, hrest next⟩
    | unchanged => exact hrest s
    | skip reason => exact hrest s

/-- Each version of a run precedes the next one. -/
theorem isChain_applied (s : TargetSchema) (arrivals : List (Timestamp × ChangeEvent)) :
    (s :: (processAt s arrivals).2.applied).IsChain TargetSchema.Precedes :=
  (isChain_makes s arrivals).imp fun _ _ => Makes.precedes

/-- A run ends with the last version that it makes. -/
theorem getLastD_applied (s : TargetSchema) (arrivals : List (Timestamp × ChangeEvent)) :
    (processAt s arrivals).2.applied.getLastD s = (processAt s arrivals).1 := by
  induction arrivals generalizing s with
  | nil => rfl
  | cons arrival arrivals ih =>
    obtain ⟨now, event⟩ := arrival
    rw [processAt_cons]
    unfold advance
    cases hdecision : event.change.decide now s with
    | apply next => exact List.getLastD_cons.trans (ih next)
    | unchanged => exact ih s
    | skip reason => exact ih s

end ChangeEvent

/-! ## Catalogs in which one table moves on -/

namespace MemoryCatalog

variable {c c' c'' : MemoryCatalog} {table : TableName} {latest later : TargetSchema}

/-- A table has a new latest version, and other tables keep theirs. -/
def MovesTo (c : MemoryCatalog) (table : TableName) (latest : TargetSchema) (c' : MemoryCatalog) :
    Prop :=
  ∀ other, c'.latest? other = if other = table then some latest else c.latest? other

theorem MovesTo.refl (h : c.latest? table = some latest) : c.MovesTo table latest c := by
  intro other
  by_cases hother : other = table
  · rw [if_pos hother, hother, h]
  · rw [if_neg hother]

theorem MovesTo.latest? (h : c.MovesTo table latest c') : c'.latest? table = some latest := by
  rw [h table, if_pos rfl]

theorem MovesTo.trans (h : c.MovesTo table latest c') (h' : c'.MovesTo table later c'') :
    c.MovesTo table later c'' := by
  intro other
  rw [h', h]
  by_cases hother : other = table <;> simp only [hother, if_true, if_false]

/-! ## Commits -/

/-- The next version can be committed. -/
theorem exec_commitSchema_of_precedes {next : TargetSchema} (w : World)
    (hlatest : c.latest? table = some latest) (hnext : latest.Precedes next) :
    ∃ after, c.exec w (catalog.commitSchema table next) = ((.ok (), after), w) ∧
      c.MovesTo table next after := by
  obtain ⟨after, hcommit⟩ := exists_commitSchema hlatest hnext.version
  refine ⟨after, by rw [exec_commitSchema, hcommit], ?_⟩
  intro other
  obtain ⟨versions, hversions, _⟩ := latest?_eq_some_iff.1 hlatest
  rw [latest?_eq, history?_commitSchema hcommit]
  by_cases hother : other = table
  · simp [hother, hversions]
  · simp [hother, latest?_eq]

/-- A chain of versions is committed version by version. -/
theorem exec_commitAll {versions : List TargetSchema} (w : World)
    (hlatest : c.latest? table = some latest)
    (hchain : (latest :: versions).IsChain TargetSchema.Precedes) :
    ∃ after, c.exec w (commitAll catalog table versions) = ((.ok (), after), w) ∧
      c.MovesTo table (versions.getLastD latest) after := by
  induction versions generalizing c latest with
  | nil => exact ⟨c, rfl, MovesTo.refl hlatest⟩
  | cons next versions ih =>
    obtain ⟨hnext, hrest⟩ := List.isChain_cons_cons.1 hchain
    obtain ⟨between, hcommit, hbetween⟩ := exec_commitSchema_of_precedes w hlatest hnext
    obtain ⟨after, hcommits, hafter⟩ := ih hbetween.latest? hrest
    rw [commitAll, exec_bind, hcommit, List.getLastD_cons]
    exact ⟨after, hcommits, hbetween.trans hafter⟩

/-! ## Replays -/

/-- A replay leaves the table with the schema in which its events end. -/
theorem exec_replayEvents (w : World) (hlatest : c.latest? table = some latest)
    (arrivals : List (Timestamp × ChangeEvent)) :
    ∃ after, c.exec w (replayEvents catalog table arrivals) =
        ((.ok (ChangeEvent.processAt latest arrivals).2, after), w) ∧
      c.MovesTo table (ChangeEvent.processAt latest arrivals).1 after := by
  obtain ⟨after, hcommits, hafter⟩ :=
    exec_commitAll w hlatest (ChangeEvent.isChain_applied latest arrivals)
  rw [ChangeEvent.getLastD_applied] at hafter
  refine ⟨after, ?_, hafter⟩
  rw [replayEvents, exec_bind, exec_getTable, hlatest]
  simp only
  rw [exec_bind, hcommits]
  rfl

/-- Replays lead where one replay of all their events leads. -/
theorem exec_mapM_replayEvents (w : World) (hlatest : c.latest? table = some latest)
    (replays : List (List (Timestamp × ChangeEvent))) :
    ∃ reports after, c.exec w (replays.mapM (replayEvents catalog table)) =
        ((.ok reports, after), w) ∧
      c.MovesTo table (ChangeEvent.processAt latest replays.flatten).1 after := by
  induction replays generalizing c latest with
  | nil => exact ⟨[], c, rfl, MovesTo.refl hlatest⟩
  | cons arrivals replays ih =>
    obtain ⟨between, hreplay, hbetween⟩ := exec_replayEvents w hlatest arrivals
    obtain ⟨reports, after, hreplays, hafter⟩ := ih hbetween.latest?
    rw [List.flatten_cons, ChangeEvent.processAt_append]
    refine ⟨(ChangeEvent.processAt latest arrivals).2 :: reports, after, ?_,
      hbetween.trans hafter⟩
    rw [List.mapM_cons, exec_bind, hreplay]
    simp only
    rw [exec_bind, hreplays]
    rfl

end MemoryCatalog

end ShardMerge
