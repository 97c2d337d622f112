import Mathlib.Data.List.Chain
import Mathlib.Logic.Function.Basic
import ShardMerge.Proofs.Catalog.Replay
import ShardMerge.Proofs.Catalog.Session

/-!
# Replays at the same time

Several clients replay events into one table of a catalog in memory.  Each of them reads the latest
version, takes it through events of its own, and commits the versions that this makes one by one, up
to the first one that is refused.  Reads and commits of different clients alternate in any order.

* `SharedTable.step` is one read or commit and `SharedTable.run` is any number of them.
  `catalog_run_alone` says that a client whose steps are not interrupted does what `replayEvents`
  does.
* `SharedTable.Sound` is the invariant: each client's versions go on from a version that is in the
  history, and the history since the start is made step by step.  `Sound.read` and `Sound.commit`
  are its steps.  A commit is accepted only if the client goes on from the latest version, since no
  other version has the number before.
* `sound_run` is the run, and `history_run` what it says of the catalog.
-/

namespace ShardMerge

open ChangeEvent

/-- Clients that replay events into one table, and the catalog that they share. -/
structure SharedTable (ι : Type) where
  catalog : MemoryCatalog
  /-- The versions that each client has made and not committed yet. -/
  pending : ι → List TargetSchema := fun _ => []

/-- What a client does at a time.  Nothing of another client happens meanwhile. -/
inductive ClientStep (ι : Type) where
  /-- It reads the latest version and takes it through events. -/
  | read (client : ι) (arrivals : List (Timestamp × ChangeEvent))
  /-- It commits the next one of its versions. -/
  | commit (client : ι)

/-- The events that are read in some steps. -/
def ClientStep.arrivals {ι : Type} (steps : List (ClientStep ι)) :
    List (Timestamp × ChangeEvent) :=
  steps.flatMap fun
    | read _ arrivals => arrivals
    | commit _ => []

namespace SharedTable

open MemoryCatalog

variable {ι : Type} [DecidableEq ι] {table : TableName} {s : SharedTable ι} {client : ι}
  {arrivals : List (Timestamp × ChangeEvent)} {steps : List (ClientStep ι)}

/-- The versions that events make of the latest version of a table. -/
def versionsMade (c : MemoryCatalog) (table : TableName)
    (arrivals : List (Timestamp × ChangeEvent)) : List TargetSchema :=
  match c.latest? table with
  | none => []
  | some current => (processAt current arrivals).2.applied

/-- One read or one commit.  A client whose commit is refused gives up. -/
def step (table : TableName) (s : SharedTable ι) : ClientStep ι → SharedTable ι
  | .read client arrivals =>
    { s with pending := Function.update s.pending client (versionsMade s.catalog table arrivals) }
  | .commit client =>
    match s.pending client with
    | [] => s
    | next :: rest =>
      match s.catalog.commitSchema table next with
      | .ok catalog => { catalog, pending := Function.update s.pending client rest }
      | .error _ => { s with pending := Function.update s.pending client [] }

/-- One step after another. -/
def run (table : TableName) (s : SharedTable ι) (steps : List (ClientStep ι)) : SharedTable ι :=
  steps.foldl (step table) s

theorem run_cons (table : TableName) (s : SharedTable ι) (first : ClientStep ι)
    (steps : List (ClientStep ι)) :
    s.run table (first :: steps) = (s.step table first).run table steps := rfl

theorem run_append (table : TableName) (s : SharedTable ι) (earlier later : List (ClientStep ι)) :
    s.run table (earlier ++ later) = (s.run table earlier).run table later := by
  rw [run, run, run, List.foldl_append]

/-! ## A client alone -/

theorem step_commit_idle (h : s.pending client = []) : s.step table (.commit client) = s := by
  simp only [step, h]

theorem run_commit_idle (h : s.pending client = []) (n : Nat) :
    s.run table (List.replicate n (.commit client)) = s := by
  induction n with
  | zero => rfl
  | succ n ih => rw [List.replicate_succ, run_cons, step_commit_idle h, ih]

/-- Enough commits are a loop over the versions of a client. -/
theorem catalog_run_commits (w : World) {versions : List TargetSchema}
    (h : s.pending client = versions) {n : Nat} (hn : versions.length ≤ n) :
    (s.run table (List.replicate n (.commit client))).catalog =
      (s.catalog.exec w (commitAll MemoryCatalog.catalog table versions)).1.2 := by
  induction versions generalizing s n with
  | nil =>
    rw [run_commit_idle h]
    rfl
  | cons next versions ih =>
    obtain ⟨n, rfl⟩ : ∃ m, n = m + 1 := ⟨n - 1, by simp at hn; omega⟩
    rw [List.replicate_succ, run_cons, commitAll, exec_bind, exec_commitSchema]
    cases hcommit : s.catalog.commitSchema table next with
    | error e =>
      simp only [step, h, hcommit]
      rw [run_commit_idle (Function.update_self ..)]
    | ok c =>
      simp only [step, h, hcommit]
      exact ih (Function.update_self ..) (by simpa using hn)

/-- A client that is alone leaves what a replay leaves, whether or not that succeeds. -/
theorem catalog_run_alone (c : MemoryCatalog) (w : World) (table : TableName) (client : ι)
    (arrivals : List (Timestamp × ChangeEvent)) {n : Nat}
    (hn : (versionsMade c table arrivals).length ≤ n) :
    (({ catalog := c } : SharedTable ι).run table
        (.read client arrivals :: List.replicate n (.commit client))).catalog =
      (c.exec w (replayEvents MemoryCatalog.catalog table arrivals)).1.2 := by
  rw [run_cons, catalog_run_commits w (Function.update_self ..) hn, replayEvents, exec_bind,
    exec_getTable]
  unfold versionsMade
  cases c.latest? table with
  | none => rfl
  | some current =>
    simp only [step]
    generalize (processAt current arrivals).2 = report
    rw [exec_bind]
    rcases c.exec w (commitAll MemoryCatalog.catalog table report.applied) with
      ⟨⟨_ | _, _⟩, _⟩ <;> rfl

/-! ## What a step does to the catalog -/

/-- A step leaves the catalog as it is, or it commits a version. -/
theorem catalog_step_cases (table : TableName) (s : SharedTable ι) (action : ClientStep ι) :
    (s.step table action).catalog = s.catalog ∨
      ∃ next, s.catalog.Gains table next (s.step table action).catalog := by
  cases action with
  | read client own => exact .inl rfl
  | commit client =>
    cases hpending : s.pending client with
    | nil => exact .inl (by rw [step_commit_idle hpending])
    | cons next rest =>
      simp only [step, hpending]
      cases hcommit : s.catalog.commitSchema table next with
      | error e => exact .inl rfl
      | ok c =>
        obtain ⟨_, _, _, hgains⟩ := gains_of_commitSchema hcommit
        exact .inr ⟨next, hgains⟩

theorem history_step_isPrefix (table : TableName) (s : SharedTable ι) (action : ClientStep ι)
    (other : TableName) :
    s.catalog.history other <+: (s.step table action).catalog.history other := by
  rcases catalog_step_cases table s action with hkept | ⟨next, hgains⟩
  · exact hkept ▸ List.prefix_rfl
  · by_cases hother : other = table
    · rw [hother, hgains.history_self]
      exact List.prefix_append ..
    · exact (hgains.history_of_ne hother).symm ▸ List.prefix_rfl

/-- Versions stay where they are. -/
theorem history_run_isPrefix (table : TableName) (s : SharedTable ι) (steps : List (ClientStep ι))
    (other : TableName) :
    s.catalog.history other <+: (s.run table steps).catalog.history other := by
  induction steps generalizing s with
  | nil => exact List.prefix_rfl
  | cons action steps ih => exact (history_step_isPrefix table s action other).trans (ih _)

theorem getLast?_append_of_getLast? {α : Type} {l : List α} {a : α} (h : l.getLast? = some a)
    (more : List α) : (l ++ more).getLast? = (a :: more).getLast? := by
  rw [List.getLast?_append, h, List.getLast?_cons]
  cases more.getLast? <;> rfl

/-- A commit is accepted only from a client that goes on from the latest version, as the number
before that of the new version belongs to no other one. -/
theorem latest?_of_commitSchema {c c' : MemoryCatalog} {base next : TargetSchema}
    (hfounded : c.Founded) (hnumbered : c.Numbered)
    (hroom : (c.history table).length < UInt64.size) (hbase : base ∈ c.history table)
    (hnext : base.Precedes next) (hcommit : c.commitSchema table next = .ok c') :
    c.latest? table = some base := by
  obtain ⟨versions, hversions, hnumber⟩ :=
    (commitSchema_isOk_iff hfounded hnumbered hroom next).1 ⟨c', hcommit⟩
  have hhistory : c.history table = versions := by rw [history, hversions, Option.getD_some]
  rw [hhistory] at hroom hbase
  obtain ⟨i, hi⟩ := List.mem_iff_getElem?.1 hbase
  have hbound : i < versions.length := (List.getElem?_eq_some_iff.1 hi).1
  have hbaseNumber : base.version.toNat = i := hnumbered table versions hversions i base hi
  have hlast : i + 1 = versions.length := by
    rw [← hnumber, hnext.version, toNat_nextVersion (by omega), hbaseNumber]
  rw [latest?, hhistory, List.getLast?_eq_getElem?, ← hlast, Nat.add_sub_cancel, hi]

/-! ## The invariant -/

variable {start : MemoryCatalog} {first : TargetSchema}

/-- What holds in every state of a run: the history of the table is the one at the start with
versions that were each made of the one before, and the versions of each client go on from some
version in it. -/
structure Sound (start : MemoryCatalog) (table : TableName) (first : TargetSchema)
    (arrivals : List (Timestamp × ChangeEvent)) (s : SharedTable ι) : Prop where
  founded : s.catalog.Founded
  numbered : s.catalog.Numbered
  history : ∃ later, s.catalog.history table = start.history table ++ later ∧
    (first :: later).IsChain (Makes arrivals)
  others : ∀ other, other ≠ table → s.catalog.history? other = start.history? other
  pending : ∀ client, s.pending client = [] ∨
    ∃ base ∈ s.catalog.history table, (base :: s.pending client).IsChain (Makes arrivals)

namespace Sound

omit [DecidableEq ι] in
theorem initial (hfounded : start.Founded) (hnumbered : start.Numbered) :
    Sound start table first arrivals ({ catalog := start } : SharedTable ι) where
  founded := hfounded
  numbered := hnumbered
  history := ⟨[], by rw [List.append_nil], .singleton first⟩
  others _ _ := rfl
  pending _ := .inl rfl

/-- A client may drop its versions for others that go on from the history. -/
theorem update (h : Sound start table first arrivals s) {versions : List TargetSchema}
    (hversions : versions = [] ∨
      ∃ base ∈ s.catalog.history table, (base :: versions).IsChain (Makes arrivals)) :
    Sound start table first arrivals
      { s with pending := Function.update s.pending client versions } where
  founded := h.founded
  numbered := h.numbered
  history := h.history
  others := h.others
  pending other := by
    simp only
    by_cases hother : other = client
    · rw [hother, Function.update_self]
      exact hversions
    · rw [Function.update_of_ne hother]
      exact h.pending other

/-- What a client reads and makes of it goes on from the history. -/
theorem read (h : Sound start table first arrivals s) {own : List (Timestamp × ChangeEvent)}
    (hown : own ⊆ arrivals) :
    Sound start table first arrivals (s.step table (.read client own)) := by
  apply h.update
  unfold versionsMade
  cases hlatest : s.catalog.latest? table with
  | none => exact .inl rfl
  | some current =>
    refine .inr ⟨current, List.mem_of_getLast? hlatest, ?_⟩
    exact (isChain_makes current own).imp fun _ _ => Makes.mono hown

/-- A version that is committed was made of the latest one. -/
theorem gain (h : Sound start table first arrivals s) (hfirst : start.latest? table = some first)
    (hroom : (s.catalog.history table).length < UInt64.size) {next : TargetSchema}
    {rest : List TargetSchema} (hpending : s.pending client = next :: rest) {c : MemoryCatalog}
    (hcommit : s.catalog.commitSchema table next = .ok c) :
    Sound start table first arrivals
      { catalog := c, pending := Function.update s.pending client rest } := by
  obtain ⟨_, _, _, hgains⟩ := gains_of_commitSchema hcommit
  obtain ⟨base, hbase, hchain⟩ : ∃ base ∈ s.catalog.history table,
      (base :: next :: rest).IsChain (Makes arrivals) := by
    have hclient := h.pending client
    rw [hpending] at hclient
    exact hclient.resolve_left (List.cons_ne_nil next rest)
  obtain ⟨hmakes, hrest⟩ := List.isChain_cons_cons.1 hchain
  have hlatest := latest?_of_commitSchema h.founded h.numbered hroom hbase hmakes.precedes hcommit
  refine ⟨hgains.founded h.founded, ?_, ?_, ?_, ?_⟩
  · apply hgains.numbered h.numbered
    obtain ⟨versions, hversions, hnumber⟩ :=
      (commitSchema_isOk_iff h.founded h.numbered hroom next).1 ⟨c, hcommit⟩
    rw [hnumber, MemoryCatalog.history, hversions, Option.getD_some]
  · obtain ⟨later, hlater, hlaterChain⟩ := h.history
    refine ⟨later ++ [next], by rw [hgains.history_self, hlater, List.append_assoc], ?_⟩
    -- The latest version is the end of the chain so far.
    have hend : (first :: later).getLast? = some base := by
      rw [← getLast?_append_of_getLast? hfirst, ← hlater]
      exact hlatest
    rw [← List.cons_append]
    refine hlaterChain.append (.singleton next) ?_
    intro last hlast next' hnext'
    rw [hend] at hlast
    cases hlast
    cases hnext'
    exact hmakes
  · intro other hother
    rw [hgains.history?, if_neg hother]
    exact h.others other hother
  · intro other
    simp only
    by_cases hother : other = client
    · rw [hother, Function.update_self]
      refine .inr ⟨next, ?_, hrest⟩
      rw [hgains.history_self]
      exact List.mem_append_right _ (List.mem_singleton_self next)
    · rw [Function.update_of_ne hother]
      refine (h.pending other).imp_right ?_
      intro hbased
      obtain ⟨own, hown, hownChain⟩ := hbased
      refine ⟨own, ?_, hownChain⟩
      rw [hgains.history_self]
      exact List.mem_append_left _ hown

/-- One step keeps the invariant. -/
theorem step (h : Sound start table first arrivals s) (hfirst : start.latest? table = some first)
    (hroom : (s.catalog.history table).length < UInt64.size) (action : ClientStep ι)
    (hown : ClientStep.arrivals [action] ⊆ arrivals) :
    Sound start table first arrivals (s.step table action) := by
  cases action with
  | read client own => exact h.read (by simpa [ClientStep.arrivals] using hown)
  | commit client =>
    cases hpending : s.pending client with
    | nil =>
      rw [step_commit_idle hpending]
      exact h
    | cons next rest =>
      simp only [SharedTable.step, hpending]
      cases hcommit : s.catalog.commitSchema table next with
      | error e => exact h.update (.inl rfl)
      | ok c => exact h.gain hfirst hroom hpending hcommit

end Sound

/-- Any number of steps keeps the invariant, as long as there are numbers for all versions. -/
theorem sound_run (h : Sound start table first arrivals s)
    (hfirst : start.latest? table = some first)
    (hroom : ((s.run table steps).catalog.history table).length < UInt64.size)
    (hown : ClientStep.arrivals steps ⊆ arrivals) :
    Sound start table first arrivals (s.run table steps) := by
  induction steps generalizing s with
  | nil => exact h
  | cons action steps ih =>
    have hsplit : ClientStep.arrivals (action :: steps) =
        ClientStep.arrivals [action] ++ ClientStep.arrivals steps := by
      simp [ClientStep.arrivals]
    rw [hsplit, List.append_subset] at hown
    have hgrown := (history_run_isPrefix table s (action :: steps) table).length_le
    exact ih (h.step hfirst (Nat.lt_of_le_of_lt hgrown hroom) action hown.1) hroom hown.2

/-! ## What becomes of the table -/

/-- However many clients replay events into a table, and in whatever order their reads and commits
come: each version after the first latest one is made by one of the events of the version before it,
versions stay where they are, and other tables are left alone. -/
theorem history_run (hreachable : start.Reachable)
    (hfew : ∀ other, (start.history other).length < UInt64.size)
    (hfirst : start.latest? table = some first) (steps : List (ClientStep ι))
    (hroom : ((({ catalog := start } : SharedTable ι).run table steps).catalog.history
      table).length < UInt64.size) :
    (∃ later,
      (({ catalog := start } : SharedTable ι).run table steps).catalog.history table =
          start.history table ++ later ∧
        (first :: later).IsChain (Makes (ClientStep.arrivals steps))) ∧
      (∀ earlier rest, steps = earlier ++ rest →
        (({ catalog := start } : SharedTable ι).run table earlier).catalog.history table <+:
          (({ catalog := start } : SharedTable ι).run table steps).catalog.history table) ∧
      ∀ other, other ≠ table →
        (({ catalog := start } : SharedTable ι).run table steps).catalog.history? other =
          start.history? other := by
  have hnumbered : start.Numbered := by
    obtain ⟨requests, rfl⟩ := hreachable
    exact numbered_session founded_empty numbered_empty requests hfew
  have hsound := sound_run (Sound.initial hreachable.founded hnumbered) hfirst hroom
    (List.Subset.refl _)
  refine ⟨hsound.history, ?_, hsound.others⟩
  intro earlier rest hsteps
  rw [hsteps, run_append]
  exact history_run_isPrefix table _ rest table

/-- Two clients read the same version and commit one each.  The second one is refused, and reads
again. -/
def ordersSteps : List (ClientStep Bool) :=
  [.read true [(default, ⟨⟨"shop", "orders_1"⟩, .addColumn "note" (.native "varchar(20)")⟩)],
   .read false [(default, ⟨⟨"shop", "orders_2"⟩, .addColumn "id" (.native "bigint")⟩)],
   .commit true,
   .commit false,
   .read false [(default, ⟨⟨"shop", "orders_2"⟩, .addColumn "id" (.native "bigint")⟩)],
   .commit false]

/-- A catalog with a table of one version. -/
def ordersLake : MemoryCatalog := (session answer {} (ordersSession.take 2)).2

theorem history_run_orders :
    ordersLake.Reachable ∧
      ordersLake.latest? ⟨"lake", "orders"⟩ = some (.ofDraft ordersDraft default) ∧
      ∃ later,
        (({ catalog := ordersLake } : SharedTable Bool).run ⟨"lake", "orders"⟩
            ordersSteps).catalog.history ⟨"lake", "orders"⟩ =
          ordersLake.history ⟨"lake", "orders"⟩ ++ later ∧
        later.map (·.fields) =
          [[⟨"id", .integer 32⟩, ⟨"note", .string (some 20)⟩],
           [⟨"id", .integer 64⟩, ⟨"note", .string (some 20)⟩]] ∧
        (.ofDraft ordersDraft default :: later).IsChain
          (Makes (ClientStep.arrivals ordersSteps)) := by
  have hreachable : ordersLake.Reachable := ⟨_, rfl⟩
  have hfew (other : TableName) : (ordersLake.history other).length < UInt64.size := by
    have hnone : history {} other = [] := rfl
    rw [ordersLake, length_history_session, hnone, List.length_nil, Nat.zero_add]
    exact Nat.lt_of_le_of_lt List.countP_le_length (by decide)
  have hfirst : ordersLake.latest? ⟨"lake", "orders"⟩ = some (.ofDraft ordersDraft default) := by
    decide
  obtain ⟨⟨later, hlater, hchain⟩, _⟩ :=
    history_run hreachable hfew hfirst ordersSteps (by decide)
  refine ⟨hreachable, hfirst, later, hlater, ?_, hchain⟩
  have hfields : ((({ catalog := ordersLake } : SharedTable Bool).run ⟨"lake", "orders"⟩
      ordersSteps).catalog.history ⟨"lake", "orders"⟩).map (·.fields) =
        [[⟨"id", .integer 32⟩], [⟨"id", .integer 32⟩, ⟨"note", .string (some 20)⟩],
         [⟨"id", .integer 64⟩, ⟨"note", .string (some 20)⟩]] := by decide
  have hstart : (ordersLake.history ⟨"lake", "orders"⟩).map (·.fields) =
      [[⟨"id", .integer 32⟩]] := by decide
  rw [hlater, List.map_append, hstart] at hfields
  exact List.append_cancel_left hfields

end SharedTable

end ShardMerge
