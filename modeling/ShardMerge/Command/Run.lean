import ShardMerge.Catalog.Memory
import ShardMerge.Catalog.Warehouse
import ShardMerge.Change.Feed
import ShardMerge.Command.Arguments
import ShardMerge.Command.CheckChange
import ShardMerge.Source.Open
import ShardMerge.Sync.Planner

/-!
# Running commands

* `syncTable`, `replay` and `testConnection` do what their commands ask for.
* `Command.run` runs any command and gives the text to be printed.
-/

namespace ShardMerge

variable {m : Type → Type} [Monad m] [Host m]

/-- Reports an error before it is passed on. -/
def reportError {α : Type} (context : String) (action : ExceptT Error m α) : ExceptT Error m α :=
  tryCatch action fun e => do
    Host.record ⟨.error, s!"{context}: {e}"⟩
    throw e

variable [CharacterProperties]

/-- Plans against an empty catalog that is forgotten afterwards. -/
def planInMemory (config : SyncConfig) (source : Source) : ExceptT Error m SyncPlan :=
  ExceptT.mk do
    let (outcome, _) ← (config.plan source MemoryCatalog.catalog).run.run {}
    return outcome

/-- Writes a plan to a file. -/
def savePlan (plan : SyncPlan) (path : String) : ExceptT Error m Unit := do
  orFail s!"Failed to write {path}" (Host.writeText path (jsonText plan.write))
  Host.record ⟨.info, s!"✓ Wrote {path}"⟩

variable [Url.DomainNames] [Server.Driver]

/-- Merges source tables and creates or checks the target table.  A dry run never creates the
warehouse: while that is missing, the catalog is empty. -/
def syncTable (args : SyncTableArgs) : ExceptT Error m SyncPlan := do
  liftExcept args.config.validate
  let connection ← resolveConnection args.source args.askPassword
  Host.record ⟨.info, s!"Source: {describeConnection connection}"⟩
  Host.record ⟨.info, s!"Warehouse: {args.warehouse}"⟩
  let source ← reportError "Failed to create source adapter" (Source.openAt connection)
  Host.record ⟨.info, s!"Created {source.kind} adapter"⟩
  let present ← orFail "Failed to inspect warehouse" (Host.isPresent args.warehouse)
  let planning := "Sync planning failed"
  let plan ←
    if args.config.dryRun && !present then
      reportError planning (planInMemory args.config source)
    else do
      let warehouse ← Warehouse.openAt args.warehouse
      reportError planning (args.config.plan source warehouse.catalog)
  Host.record ⟨.info, s!"✓ {plan.action} {args.config.target} " ++
    s!"from {plan.origins.length} source table(s)"⟩
  if let some path := args.output then
    savePlan plan path
  return plan

/-- Reads the events of a feed in a file. -/
def readEvents (path : String) : ExceptT Error m (List ChangeEvent) := do
  let text ← orFail s!"Failed to read {path}" (Host.readText path)
  liftExcept (ChangeEvent.ofFeed text)

/-- Decides events in the order of their arrival, each at the time of its decision, and reports what
becomes of each.  The time is that of the version that is made, if one is. -/
def decideAll (current : TargetSchema) :
    List ChangeEvent → ExceptT Error m (TargetSchema × ChangeReport)
  | [] => return (current, {})
  | event :: events => do
    let now ← Host.now
    Host.record (event.note now current)
    let (final, report) ← decideAll (event.advance now current) events
    return (final, report.cons event (event.change.decide now current))

/-- Takes a schema through a stream of events. -/
def processStream (current : TargetSchema) (events : List ChangeEvent) :
    ExceptT Error m ChangeReport := do
  let (_, report) ← decideAll current events
  Host.record report.note
  return report

/-- Commits versions in order. -/
def commitAll (catalog : Catalog m) (table : TableName) :
    List TargetSchema → ExceptT Error m Unit
  | [] => return ()
  | schema :: rest => do
    catalog.commitSchema table schema
    commitAll catalog table rest

/-- Applies a recorded stream of changes to the target table, and commits the versions unless
nothing may be written. -/
def replay (args : ReplayArgs) : ExceptT Error m ChangeReport := do
  let warehouse ← Warehouse.openAt args.warehouse
  match ← warehouse.latest? args.target with
  | none => throw (.tableNotFound args.target)
  | some current =>
    let events ← readEvents args.events
    Host.record ⟨.info, s!"Replaying {events.length} event(s) against {args.target} " ++
      s!"(schema {current.version})"⟩
    let report ← processStream current events
    if args.dryRun then
      Host.record ⟨.info, s!"Dry run: {report.applied.length} schema version(s) not committed"⟩
    else
      commitAll warehouse.catalog args.target report.applied
      if let some latest := report.applied.getLast? then
        Host.record ⟨.info, s!"✓ Committed {args.target} up to schema {latest.version}"⟩
    return report

/-- Tests whether a source answers. -/
def testConnection (connection : String) (askPassword : Bool) : ExceptT Error m String := do
  Host.record ⟨.info, "Testing source connection..."⟩
  let connection ← resolveConnection connection askPassword
  let source ← Source.openAt connection
  reportError "Connection test failed" (liftExcept source.testConnection)
  Host.record ⟨.info, "✓ Connection test successful"⟩
  return s!"Connection to {source.kind} source {describeConnection connection} successful"

/-- Runs a command and gives the text that it prints. -/
def Command.run : Command → ExceptT Error m String
  | syncTable args => do return (← ShardMerge.syncTable args).render args.format
  | replay args => do return (← ShardMerge.replay args).render args.format
  | checkChange oldDefinition newDefinition => do
    let decision ← liftExcept (ShardMerge.checkChange (← Host.now) oldDefinition newDefinition)
    return decision.verdict oldDefinition newDefinition ++ "\n"
  | test source askPassword => do return (← testConnection source askPassword) ++ "\n"
  | listTypes => return ShardMerge.listTypes

end ShardMerge
