import ShardMerge.Proofs.Catalog.Commits
import ShardMerge.Proofs.Change.Feed
import ShardMerge.Proofs.Command.DryRun
import ShardMerge.Proofs.Command.Events

/-!
# The replay command

A replay reads a whole feed before it writes anything, and commits every version that the events of
the feed make.

* `exec_replay_missing` and `exec_replay_unreadable` are the ways out before anything is written,
  and `exec_replay_events` is what is left to do when the latest version and the events are known.
* `ReplayArgs.Replayed` says what has become of the files then, and `replayed_of_kept` that it does
  in a warehouse that only its catalog writes to.
* `replay_allOrNothing` puts the cases together.
-/

namespace ShardMerge

open World

variable {w : World} {base : List String} {args : ReplayArgs} {text : String}
  {current : TargetSchema} {events : List ChangeEvent}

/-! ## What becomes of the files -/

/-- What has become of the files when events have been replayed against a version of a table. -/
structure ReplayArgs.Replayed (args : ReplayArgs) (w : World) (current : TargetSchema)
    (events : List ChangeEvent) (report : ChangeReport) (after : Tree) : Prop where
  /-- The report is that on a run of the events. -/
  process : report = (ChangeEvent.process w.clock current events).2
  /-- It counts each event once. -/
  total : report.total = events.length
  skipped : report.skipped = ChangeEvent.rejections current (w.clock.stamp events)
  /-- A dry run changes no file. -/
  dryRun : args.dryRun = true → after = w.tree
  /-- Any other run adds the applied versions to the history. -/
  committed : args.dryRun = false →
    ∃ versions, (Warehouse.mk args.warehouse).historyIn w.tree args.target = .ok versions ∧
      (Warehouse.mk args.warehouse).historyIn after args.target = .ok (versions ++ report.applied)
  /-- The schema to which the events lead is the latest version then. -/
  latest : args.dryRun = false → (Warehouse.mk args.warehouse).latestIn after args.target =
    .ok (some (ChangeEvent.process w.clock current events).1)
  others : ∀ other ≠ args.target, ∀ versions,
    (Warehouse.mk args.warehouse).historyIn w.tree other = .ok versions →
      (Warehouse.mk args.warehouse).historyIn after other = .ok versions

/-! ## Opening -/

/-- A directory is opened as it is, unless a file operation fails. -/
theorem exec_openAt_of_leads {path : String} (h : w.tree.Leads (Tree.names path) base) :
    FilesFailed (w.exec (Warehouse.openAt path : World.Action Warehouse)).1 ∨
      ∃ journal, w.exec (Warehouse.openAt path) = (.ok ⟨path⟩, { w with journal }) := by
  rw [exec_openAt]
  rcases hcreate : w.tree.createDirectories path with ⟨fault | _, tree⟩
  · exact .inl ⟨_, rfl⟩
  · rw [Tree.createDirectories_of_leads h hcreate]
    exact .inr ⟨_, rfl⟩

section Opened

variable {journal : List Entry}
  (hopen : w.exec (Warehouse.openAt args.warehouse) = (.ok ⟨args.warehouse⟩, { w with journal }))

include hopen

/-- Without a latest version, a replay fails. -/
theorem exec_replay_missing
    (h : ∀ current, (Warehouse.mk args.warehouse).latestIn w.tree args.target ≠
      .ok (some current)) :
    ∃ e, w.exec (replay args) = (.error e, { w with journal }) := by
  unfold replay
  rw [exec_bind, hopen]
  simp only [exec_bind, Warehouse.exec_latest?]
  cases hlatest : (Warehouse.mk args.warehouse).latestIn w.tree args.target with
  | error e => exact ⟨e, rfl⟩
  | ok latest =>
    cases latest with
    | none => exact ⟨.tableNotFound args.target, rfl⟩
    | some current => exact absurd hlatest (h current)

variable (hlatest : (Warehouse.mk args.warehouse).latestIn w.tree args.target = .ok (some current))
  (htext : w.tree.readText args.events = .ok text)

include hlatest htext

/-- Where a line stands for no event, a replay fails. -/
theorem exec_replay_unreadable (h : ¬ChangeEvent.IsFeed text) :
    ∃ e, w.exec (replay args) = (.error e, { w with journal }) := by
  have hread := exec_readEvents (w := { w with journal }) htext
  unfold replay
  rw [exec_bind, hopen]
  simp only [exec_bind, Warehouse.exec_latest?, hlatest, hread]
  cases hevents : ChangeEvent.ofFeed text with
  | error e => exact ⟨e, rfl⟩
  | ok events => exact absurd (ChangeEvent.exists_ofFeed_eq_ok_iff.1 ⟨events, hevents⟩) h

/-- With events, a replay reports on them.  It commits their versions unless it is a dry run. -/
theorem exec_replay_events (hevents : ChangeEvent.ofFeed text = .ok events) :
    ∃ between : World, between.tree = w.tree ∧
      (args.dryRun = true →
        (w.exec (replay args)).1 = .ok (ChangeEvent.process w.clock current events).2 ∧
          (w.exec (replay args)).2.tree = w.tree) ∧
      (args.dryRun = false → ∀ outcome after,
        between.exec (commitAll (Warehouse.mk args.warehouse).catalog args.target
            (ChangeEvent.process w.clock current events).2.applied) = (outcome, after) →
          (w.exec (replay args)).1 =
              outcome.map (fun _ => (ChangeEvent.process w.clock current events).2) ∧
            (w.exec (replay args)).2.tree = after.tree) := by
  have hread := exec_readEvents (w := { w with journal }) htext
  obtain ⟨notes, hnotes⟩ : ∃ notes, notes =
      (ChangeEvent.processNotes w.clock current events).reverse ++
        ⟨.info, s!"Replaying {events.length} event(s) against {args.target} " ++
          s!"(schema {current.version})"⟩ :: journal := ⟨_, rfl⟩
  refine ⟨{ w with clock := w.clock.after events.length, journal := notes }, rfl, ?_⟩
  unfold replay
  rw [exec_bind, hopen]
  simp only [exec_bind, Warehouse.exec_latest?, hlatest, hread, hevents, exec_record,
    exec_processStream, ← hnotes]
  constructor
  · intro hdry
    rw [hdry]
    exact ⟨rfl, rfl⟩
  · intro hdry outcome after hcommits
    rw [hdry]
    simp only [Bool.false_eq_true, if_false, exec_bind, hcommits]
    cases outcome with
    | error e => exact ⟨rfl, rfl⟩
    | ok _ =>
      cases (ChangeEvent.process w.clock current events).2.applied.getLast? <;> exact ⟨rfl, rfl⟩

end Opened

/-! ## All or nothing -/

/-- There are numbers for all versions that a replay of a feed makes. -/
def ReplayArgs.HasRoom (args : ReplayArgs) (w : World) (text : String) : Prop :=
  ∀ current events,
    (Warehouse.mk args.warehouse).latestIn w.tree args.target = .ok (some current) →
    ChangeEvent.Feeds text events →
    current.version.toNat + (ChangeEvent.process w.clock current events).2.applied.length <
      UInt64.size

/-- A replay of events against a table that is there succeeds. -/
theorem replayed_of_kept {c : MemoryCatalog} {journal : List Entry}
    (hstored : (Warehouse.mk args.warehouse).WellStored w.tree base c)
    (hopen : w.exec (Warehouse.openAt args.warehouse) = (.ok ⟨args.warehouse⟩, { w with journal }))
    (hthere : (Warehouse.mk args.warehouse).HasTable w.tree args.target)
    (hclock : w.clock.Valid) (htext : w.tree.readText args.events = .ok text)
    (hfeed : ChangeEvent.IsFeed text) (hfiles : ¬FilesFailed (w.exec (replay args)).1)
    (hroom : args.HasRoom w text) :
    ∃ current events report,
      (Warehouse.mk args.warehouse).latestIn w.tree args.target = .ok (some current) ∧
      ChangeEvent.Feeds text events ∧ (w.exec (replay args)).1 = .ok report ∧
      args.Replayed w current events report (w.exec (replay args)).2.tree := by
  obtain ⟨events, hevents⟩ := ChangeEvent.exists_ofFeed_eq_ok_iff.2 hfeed
  have hfeeds := ChangeEvent.ofFeed_eq_ok_iff.1 hevents
  obtain ⟨husable, current, hlatest, hcurrent, hnumber⟩ := hstored.exists_latest hthere
  obtain ⟨before, hbefore, _⟩ := MemoryCatalog.latest?_eq_some_iff.1 hcurrent
  have hsome : (c.history? args.target).isSome = true := by rw [hbefore]; rfl
  obtain ⟨hhistory, _⟩ := hstored.reads hsome husable
  obtain ⟨between, htree, hdry, hwritten⟩ :=
    exec_replay_events hopen hlatest htext hevents
  have htotal : (ChangeEvent.process w.clock current events).2.total = events.length :=
    (ChangeEvent.total_processAt current _).trans (w.clock.length_stamp events)
  have hskipped := ChangeEvent.skipped_processAt current (w.clock.stamp events)
  refine ⟨current, events, (ChangeEvent.process w.clock current events).2, hlatest, hfeeds, ?_⟩
  cases hrun : args.dryRun with
  | true =>
    obtain ⟨houtcome, hsame⟩ := hdry hrun
    refine ⟨houtcome, rfl, htotal, hskipped, fun _ => hsame, ?_, ?_, ?_⟩
    · rw [hrun]
      exact nofun
    · rw [hrun]
      exact nofun
    · rw [hsame]
      exact fun _ _ _ h => h
  | false =>
    have hlength := hroom current events hlatest hfeeds
    -- Each version is the next one after the version before it, so no commit is refused.
    have hchain := ChangeEvent.isChain_applied current (w.clock.stamp events)
    have htimes : ∀ next ∈ (ChangeEvent.process w.clock current events).2.applied,
        next.updatedAt.Valid := by
      intro next hnext
      obtain ⟨arrival, hmem, htime⟩ := ChangeEvent.exists_updatedAt_of_mem_applied hnext
      exact htime ▸ hclock.of_mem_stamp hmem
    rw [← htree] at hstored
    rcases hstored.commitAll_cases husable hcurrent hchain
      (by change _ + (ChangeEvent.process w.clock current events).2.applied.length ≤ _; omega)
      htimes with
      ⟨context, hfailed⟩ | ⟨after, c', hcommits, hstored', hgains⟩
    · obtain ⟨houtcome, _⟩ := hwritten hrun _ _ rfl
      exact absurd ⟨context, by rw [houtcome]; exact congrArg (Except.map _) hfailed⟩ hfiles
    · obtain ⟨houtcome, hsame⟩ := hwritten hrun _ _ hcommits
      obtain ⟨hhistory', hlatest'⟩ := hstored'.reads (hgains.isSome_history? hsome) husable
      refine ⟨houtcome, rfl, htotal, hskipped, ?_, ?_, ?_, ?_⟩
      · rw [hrun]
        exact nofun
      · rw [hsame]
        intro _
        refine ⟨c.history args.target, hhistory, ?_⟩
        rw [hhistory', hgains.history_self hsome]
        rfl
      · rw [hsame, hlatest', hgains.latest? hcurrent, ChangeEvent.getLastD_applied]
        exact fun _ => rfl
      · intro other hother versions hversions
        rw [hsame]
        rw [← htree] at hversions
        refine hstored.historyIn_congr hstored' ?_ (hgains.hasDatabase _) hversions
        rw [hgains.history?, if_neg hother]

/-- A replay does everything or nothing. -/
structure ReplayArgs.AllOrNothing (args : ReplayArgs) (w : World) (text : String) : Prop where
  /-- Without the table or with a line that stands for no event, it fails and changes no file. -/
  nothing : ¬(Warehouse.mk args.warehouse).HasTable w.tree args.target ∨
      ¬ChangeEvent.IsFeed text →
    (∃ e, (w.exec (replay args)).1 = .error e) ∧ (w.exec (replay args)).2.tree = w.tree
  /-- Otherwise it replays all events against the latest version of the table. -/
  all : (Warehouse.mk args.warehouse).HasTable w.tree args.target → ChangeEvent.IsFeed text →
    ∃ current events report,
      (Warehouse.mk args.warehouse).latestIn w.tree args.target = .ok (some current) ∧
      ChangeEvent.Feeds text events ∧ (w.exec (replay args)).1 = .ok report ∧
      args.Replayed w current events report (w.exec (replay args)).2.tree

/-- A replay does everything or nothing: in every warehouse that only its catalog writes to, for
every table and every text, as far as file operations succeed and there are numbers left for
versions. -/
theorem replay_allOrNothing (args : ReplayArgs)
    (hkept : (Warehouse.mk args.warehouse).Kept base w.tree) (hclock : w.clock.Valid)
    (htext : w.tree.readText args.events = .ok text)
    (hfiles : ¬FilesFailed (w.exec (replay args)).1) (hroom : args.HasRoom w text) :
    args.AllOrNothing w text := by
  obtain ⟨c, hstored⟩ := hkept.wellStored
  rcases exec_openAt_of_leads hstored.holds.root with hfailed | ⟨journal, hopen⟩
  · exact absurd (filesFailed_bind hfailed) hfiles
  constructor
  case nothing =>
    intro hbad
    have hfails : ∃ e, w.exec (replay args) = (.error e, { w with journal }) := by
      by_cases hlatest : ∃ current,
          (Warehouse.mk args.warehouse).latestIn w.tree args.target = .ok (some current)
      · obtain ⟨current, hlatest⟩ := hlatest
        have hthere := Warehouse.hasTable_of_latestIn hlatest
        exact exec_replay_unreadable hopen hlatest htext (hbad.resolve_left (not_not_intro hthere))
      · exact exec_replay_missing hopen fun current h => hlatest ⟨current, h⟩
    obtain ⟨e, hexec⟩ := hfails
    rw [hexec]
    exact ⟨⟨e, rfl⟩, rfl⟩
  case all =>
    intro hthere hfeed
    exact replayed_of_kept hstored hopen hthere hclock htext hfeed hfiles hroom

/-- A feed of two events after a blank line: a new column, and one that is there with a type that
does not compare. -/
def ordersFeed : String :=
  "\n\x7b\"origin\":\x7b\"database\":\"shop\",\"table\":\"orders\"\x7d," ++
    "\"op\":\"add_column\",\"column\":\"due\",\"column_type\":\x7b\"kind\":\"date\"\x7d\x7d\n" ++
    "\x7b\"origin\":\x7b\"database\":\"shop\",\"table\":\"orders\"\x7d," ++
    "\"op\":\"add_column\",\"column\":\"id\",\"column_type\":\x7b\"kind\":\"date\"\x7d\x7d"

/-- The time at which the table of the feed was made. -/
def ordersTime : Timestamp := ⟨2024, 1, 1, 0, 0, 0, 0⟩

/-- A clock that is read once a second on the next day. -/
def ordersClock : Clock where
  time reading := ⟨2024, 1, 2, 0, 0, min reading 59, 0⟩

/-- A world with the feed and an empty warehouse. -/
def ordersStart : World where
  tree := (Tree.put {} ["feed"] (.file ordersFeed)).put ["w"] .directory
  clock := ordersClock

/-- The calls by which a table is created. -/
def ordersCalls : List CatalogCall :=
  [.createDatabase "lake" false, .createTable ⟨"lake", "orders"⟩ MemoryCatalog.ordersDraft]

/-- The world after the calls. -/
def ordersWorld : World where
  tree := (session (Warehouse.mk "w").answer ordersStart
    (ordersCalls.map fun call => (ordersTime, call))).2.tree
  clock := ordersClock

/-- The feed, replayed against the table. -/
def ordersReplay : ReplayArgs where
  warehouse := "w"
  target := ⟨"lake", "orders"⟩
  events := "feed"

theorem valid_ordersClock : ordersClock.Valid := by
  intro reading
  have hsecond : min reading 59 ≤ 60 := by omega
  refine ⟨?_, ?_, ?_, ?_, ?_, hsecond, ?_⟩
  all_goals
    simp only [ordersClock]
    decide

theorem kept_ordersWorld : (Warehouse.mk "w").Kept ["w"] ordersWorld.tree := by
  have hgrounded : (Tree.put {} ["feed"] (.file ordersFeed)).Grounded :=
    Tree.grounded_empty.put (Tree.find?_nil {}) rfl _
  have hnone : (Tree.put {} ["feed"] (.file ordersFeed)).find? ["w"] = none := by decide +kernel
  have hroot : ordersStart.tree.Leads (Tree.names "w") ["w"] :=
    (Tree.leads_nil _).enter ⟨by decide, by decide, by decide⟩ (by decide +kernel)
  have hroom (w : World) (hnodes : w.tree.nodes.length < UInt64.size) (table : TableName) :
      (w.tree.entries (["w"] ++ table.place)).length < UInt64.size :=
    Nat.lt_of_le_of_lt (List.length_filterMap_le ..) hnodes
  have htime {schema : TargetSchema} (h : schema.updatedAt = ordersTime) :
      schema.updatedAt.Valid := by
    rw [h]
    decide
  have hopened : (Warehouse.mk "w").Kept ["w"] ordersStart.tree :=
    .opened hroot (hgrounded.nothingBelow_put hnone _)
  have hdatabase := hopened.called (ordersTime, .createDatabase "lake" false)
    (fun _ => by decide +kernel) (fun _ h => by cases h) (hroom _ (by decide +kernel))
  exact hdatabase.called
    (ordersTime, .createTable ⟨"lake", "orders"⟩ MemoryCatalog.ordersDraft)
    (fun _ => by decide +kernel) (fun _ h => by cases h; exact htime rfl)
    (hroom _ (by decide +kernel))

theorem replay_allOrNothing_orders :
    (Warehouse.mk "w").Kept ["w"] ordersWorld.tree ∧ ordersWorld.clock.Valid ∧
      ordersWorld.tree.readText "feed" = .ok ordersFeed ∧
      ¬FilesFailed (ordersWorld.exec (replay ordersReplay)).1 ∧
      ordersReplay.HasRoom ordersWorld ordersFeed ∧
      ordersReplay.AllOrNothing ordersWorld ordersFeed ∧
      (ordersWorld.exec (replay ordersReplay)).1.map
          (fun report => (report.applied.map (·.version), report.skipped.map (·.reason))) =
        .ok ([1], [.incompatibleType (.integer 32) .date]) := by
  have htext : ordersWorld.tree.readText "feed" = .ok ordersFeed := by decide +kernel
  have houtcome : (ordersWorld.exec (replay ordersReplay)).1.map
      (fun report => (report.applied.map (·.version), report.skipped.map (·.reason))) =
        .ok ([1], [.incompatibleType (.integer 32) .date]) := by decide +kernel
  have hfiles : ¬FilesFailed (ordersWorld.exec (replay ordersReplay)).1 := by
    rintro ⟨context, hfailed⟩
    rw [hfailed] at houtcome
    cases houtcome
  have hroom : ordersReplay.HasRoom ordersWorld ordersFeed := by
    intro current events hlatest hfeeds
    obtain ⟨c, hstored⟩ := kept_ordersWorld.wellStored
    have hnumber := hstored.toNat_lt hlatest
    have hnodes : ordersWorld.tree.nodes.length = 6 := by decide +kernel
    have hlines : (feedLines ordersFeed).length = 2 := by decide +kernel
    have htotal := ChangeEvent.total_processAt current (ordersWorld.clock.stamp events)
    rw [Clock.length_stamp, ← hfeeds.length_eq, hlines, ChangeReport.total] at htotal
    have hfew : 8 < UInt64.size := by decide
    change _ + (ChangeEvent.processAt _ _).2.applied.length < _
    omega
  exact ⟨kept_ordersWorld, valid_ordersClock, htext, hfiles, hroom,
    replay_allOrNothing ordersReplay kept_ordersWorld valid_ordersClock htext hfiles hroom,
    houtcome⟩

end ShardMerge
