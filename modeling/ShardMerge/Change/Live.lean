import ShardMerge.Change.Decision
import ShardMerge.Journal

/-!
# Live schemas

A target schema that follows a stream of changes.

* `ChangeEvent.processAt` decides events in the order of their arrival, each against the schema that
  the events before it lead to, and reports every version, and every skipped event.
* `ChangeEvent.process` does so for events that are decided one after another by one clock.
-/

namespace ShardMerge

/-- An event that was not applied. -/
structure SkippedEvent where
  event : ChangeEvent
  reason : SkipReason
deriving DecidableEq, Repr, Inhabited

/-- What became of a stream of events. -/
structure ChangeReport where
  /-- Every version of the schema that was made, in order. -/
  applied : List TargetSchema := []
  /-- How many events the schema covered already. -/
  unchanged : Nat := 0
  /-- The skipped events in order. -/
  skipped : List SkippedEvent := []
deriving DecidableEq, Repr, Inhabited

namespace ChangeReport

/-- The number of events. -/
def total (r : ChangeReport) : Nat := r.applied.length + r.unchanged + r.skipped.length

/-- Puts the decision on an event before those on later events. -/
def cons (event : ChangeEvent) (decision : Decision) (r : ChangeReport) : ChangeReport :=
  match decision with
  | .apply next => { r with applied := next :: r.applied }
  | .unchanged => { r with unchanged := r.unchanged + 1 }
  | .skip reason => { r with skipped := { event, reason } :: r.skipped }

/-- What is reported at the end of a stream. -/
def note (r : ChangeReport) : Entry :=
  ⟨.info, s!"Processed {r.total} schema change(s): {r.applied.length} applied, " ++
    s!"{r.unchanged} unchanged, {r.skipped.length} skipped"⟩

end ChangeReport

namespace ChangeEvent

/-- The schema after an event. -/
def advance (now : Timestamp) (current : TargetSchema) (event : ChangeEvent) : TargetSchema :=
  (event.change.decide now current).after current

/-- The schema after events that are each decided at a time of their own, and the report on
them. -/
def processAt : TargetSchema → List (Timestamp × ChangeEvent) → TargetSchema × ChangeReport
  | current, [] => (current, {})
  | current, (now, event) :: events =>
    let decision := event.change.decide now current
    let (final, report) := processAt (decision.after current) events
    (final, report.cons event decision)

/-- The schema after a stream of events, each decided at a reading of a clock, and the report on
them. -/
def process (clock : Clock) (current : TargetSchema) (events : List ChangeEvent) :
    TargetSchema × ChangeReport :=
  processAt current (clock.stamp events)

/-- What is reported about the decision on an event. -/
def note (now : Timestamp) (current : TargetSchema) (event : ChangeEvent) : Entry :=
  match event.change.decide now current with
  | .apply next =>
    ⟨.info, s!"Applied '{event.change}' from {event.origin}: " ++
      s!"schema {current.version} -> {next.version}"⟩
  | .unchanged =>
    ⟨.debug, s!"'{event.change}' from {event.origin} is already covered by schema " ++
      s!"{current.version}"⟩
  | .skip reason => ⟨.warn, s!"Skipping '{event.change}' from {event.origin}: {reason}"⟩

/-- What is reported of events one by one. -/
def decisionNotes (current : TargetSchema) (arrivals : List (Timestamp × ChangeEvent)) :
    List Entry :=
  foldNotes (fun s (now, event) => event.advance now s)
    (fun s (now, event) => [event.note now s]) current arrivals

/-- What is reported of a stream of events. -/
def processNotes (clock : Clock) (current : TargetSchema) (events : List ChangeEvent) :
    List Entry :=
  decisionNotes current (clock.stamp events) ++ [(process clock current events).2.note]

end ChangeEvent

end ShardMerge
