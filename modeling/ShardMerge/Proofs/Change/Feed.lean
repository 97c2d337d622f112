import ShardMerge.Change.Feed
import ShardMerge.Proofs.Change.Run
import ShardMerge.Proofs.Computation

/-!
# Feeds and the reports on them

Which texts are feeds, and what the report on the events of a feed holds.

* `ChangeEvent.Feeds` says which events the lines of a text stand for, and `ofFeed_eq_ok_iff` that
  these are read.  A text is a feed, by `ChangeEvent.IsFeed`, if each of its lines that is not blank
  stands for an event, and `exists_ofFeed_eq_ok_iff` says that no other text can be read.
* `ChangeEvent.rejections` are the events of a run that are rejected.  `skipped_processAt` says that
  these are the skipped ones of the report, and `total_processAt` that it counts every event once.
* `exists_updatedAt_of_mem_applied` finds the event at whose time a version was made.
-/

namespace ShardMerge

open Text

/-! ## Lines -/

theorem map_snd_numberFrom (n : Nat) (lines : List (List Char)) :
    (numberFrom n lines).map (·.2) = lines := by
  induction lines generalizing n with
  | nil => rfl
  | cons line lines ih => rw [numberFrom, List.map_cons, ih]

/-- The lines of a feed that are not blank. -/
def feedLines (text : String) : List (List Char) :=
  (lines text.toList).filter fun line => !isBlankText line

namespace ChangeEvent

theorem ofLine_eq_ok_iff {number : Nat} {line : List Char} {event : ChangeEvent} :
    ofLine number line = .ok event ↔ Json.readText? (String.ofList line) = some event := by
  unfold ofLine
  cases (Json.readText? (String.ofList line) : Option ChangeEvent) <;> simp

/-- The lines of a text that are not blank stand for events, one for each. -/
def Feeds (text : String) (events : List ChangeEvent) : Prop :=
  List.Forall₂ (fun line event => Json.readText? (String.ofList line) = some event)
    (feedLines text) events

theorem ofFeed_eq_ok_iff {text : String} {events : List ChangeEvent} :
    ofFeed text = .ok events ↔ Feeds text events := by
  have hlines : feedLines text =
      ((numberFrom 1 (lines text.toList)).filter fun entry => !isBlankText entry.2).map (·.2) := by
    have hfilter := List.filter_map (f := (·.2)) (p := fun line => !isBlankText line)
      (l := numberFrom 1 (lines text.toList))
    rw [map_snd_numberFrom] at hfilter
    exact hfilter
  rw [ofFeed, mapM_eq_ok_iff, Feeds, hlines, List.forall₂_map_left_iff]
  simp only [ofLine_eq_ok_iff]

/-- Each line of a text that is not blank stands for an event. -/
def IsFeed (text : String) : Prop :=
  ∀ line ∈ feedLines text, ∃ event : ChangeEvent, Json.readText? (String.ofList line) = some event

/-- A text is read exactly if it is a feed.  One other line makes all of it unreadable. -/
theorem exists_ofFeed_eq_ok_iff {text : String} :
    (∃ events, ofFeed text = .ok events) ↔ IsFeed text := by
  simp only [ofFeed_eq_ok_iff, Feeds, IsFeed]
  generalize feedLines text = lines
  constructor
  · intro h line hline
    obtain ⟨events, hevents⟩ := h
    obtain ⟨event, _, hevent⟩ := exists_mem_of_forall₂ hevents hline
    exact ⟨event, hevent⟩
  · intro h
    induction lines with
    | nil => exact ⟨[], .nil⟩
    | cons line lines ih =>
      rw [List.forall_mem_cons] at h
      obtain ⟨⟨event, hevent⟩, hrest⟩ := h
      obtain ⟨events, hevents⟩ := ih hrest
      exact ⟨event :: events, .cons hevent hevents⟩

/-! ## Reports -/

/-- The event is rejected by a decision. -/
def rejection? (event : ChangeEvent) : Decision → Option SkippedEvent
  | .skip reason => some ⟨event, reason⟩
  | .apply _ | .unchanged => none

/-- The events of a run that are rejected, in order.  Each is decided against the schema to which
those before it lead. -/
def rejections (current : TargetSchema) (arrivals : List (Timestamp × ChangeEvent)) :
    List SkippedEvent :=
  (arrivals.zip (arrivals.scanl (fun s arrival => arrival.2.advance arrival.1 s) current)).filterMap
    fun (arrival, s) => arrival.2.rejection? (arrival.2.change.decide arrival.1 s)

variable {s : TargetSchema} {arrivals : List (Timestamp × ChangeEvent)}

/-- The skipped events of a report are those that are rejected. -/
theorem skipped_processAt (s : TargetSchema) (arrivals : List (Timestamp × ChangeEvent)) :
    (processAt s arrivals).2.skipped = rejections s arrivals := by
  induction arrivals generalizing s with
  | nil => rfl
  | cons arrival arrivals ih =>
    obtain ⟨now, event⟩ := arrival
    rw [processAt_cons, rejections, List.scanl_cons, List.zip_cons_cons, List.filterMap_cons,
      ← rejections, ← ih]
    simp only
    cases event.change.decide now s <;> rfl

/-- A report counts every event once. -/
theorem total_processAt (s : TargetSchema) (arrivals : List (Timestamp × ChangeEvent)) :
    (processAt s arrivals).2.total = arrivals.length := by
  induction arrivals generalizing s with
  | nil => rfl
  | cons arrival arrivals ih =>
    obtain ⟨now, event⟩ := arrival
    have hrest := ih (event.advance now s)
    rw [processAt_cons, List.length_cons]
    unfold ChangeReport.total at hrest ⊢
    cases event.change.decide now s <;> simp only [ChangeReport.cons, List.length_cons] <;> omega

theorem updatedAt_of_decide {now : Timestamp} {change : SchemaChange} {next : TargetSchema}
    (h : change.decide now s = .apply next) : next.updatedAt = now := by
  obtain ⟨type, _, happly⟩ := SchemaChange.decide_eq_apply_iff.1 h
  rcases accommodate_eq_apply_iff.1 happly with ⟨_, rfl⟩ | ⟨_, _, _, _, rfl⟩ <;> rfl

/-- Every version of a run is made at the time of one of its events. -/
theorem exists_updatedAt_of_mem_applied {next : TargetSchema}
    (h : next ∈ (processAt s arrivals).2.applied) :
    ∃ arrival ∈ arrivals, next.updatedAt = arrival.1 := by
  induction arrivals generalizing s with
  | nil => cases h
  | cons arrival arrivals ih =>
    obtain ⟨now, event⟩ := arrival
    have hrest {s : TargetSchema} (h : next ∈ (processAt s arrivals).2.applied) :
        ∃ arrival ∈ (now, event) :: arrivals, next.updatedAt = arrival.1 := by
      obtain ⟨arrival, hmem, htime⟩ := ih h
      exact ⟨arrival, List.mem_cons_of_mem _ hmem, htime⟩
    rw [processAt_cons] at h
    cases hdecision : event.change.decide now s with
    | apply made =>
      rw [hdecision] at h
      rcases List.mem_cons.1 h with rfl | h
      · exact ⟨(now, event), List.mem_cons_self, updatedAt_of_decide hdecision⟩
      · exact hrest h
    | unchanged =>
      rw [hdecision] at h
      exact hrest h
    | skip reason =>
      rw [hdecision] at h
      exact hrest h

end ChangeEvent

end ShardMerge
