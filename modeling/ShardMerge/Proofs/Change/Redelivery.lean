import ShardMerge.Proofs.Change.Run

/-!
# Events that arrive again

A source may report an event more than once, and in another order.  Once an event has been decided,
applied or not, it is never applied again.

The reason is that the field which an event asks about has from then on a type that is not strictly
narrower than the requested one.  `Settled` says so of a schema and an event.  `settled_advance` is
how an event settles, and `Settled.advance` shows that no other event can undo it: fields only
become wider, so that a type which did not compare with the requested one stays beside or above it.
-/

namespace ShardMerge.ChangeEvent

/-- The field that an event asks about, if it asks for a type, is not strictly narrower than that
type. -/
def Settled (s : TargetSchema) (event : ChangeEvent) : Prop :=
  ∀ name type, event.request? name = some type →
    ∃ current, s.type? name = some current ∧
      (current.fitsIn type = true → type.fitsIn current = true)

/-- An event is settled once it is decided. -/
theorem settled_advance (now : Timestamp) (s : TargetSchema) (event : ChangeEvent) :
    Settled (event.advance now s) event := by
  intro name type hrequest
  rw [type?_advance, hrequest]
  refine ⟨_, rfl, ?_⟩
  intro hnarrower
  cases hcurrent : s.type? name with
  | none => exact ColumnType.fitsIn_refl type
  | some current =>
    rw [hcurrent] at hnarrower
    have hwider : current.fitsIn type = true :=
      ColumnType.fitsIn_trans (ColumnType.fitsIn_raise current type) hnarrower
    rw [ColumnType.raise_of_wider hwider]
    exact ColumnType.fitsIn_refl type

/-- Later events leave an event settled. -/
theorem Settled.advance {s : TargetSchema} {event : ChangeEvent} (h : Settled s event)
    (now : Timestamp) (other : ChangeEvent) : Settled (other.advance now s) event := by
  intro name type hrequest
  obtain ⟨current, hcurrent, hnot⟩ := h name type hrequest
  obtain ⟨later, hlater, hgrown⟩ := type?_advance_of_some hcurrent
  refine ⟨later, hlater, ?_⟩
  intro hnarrower
  have hwider : current.fitsIn type = true := ColumnType.fitsIn_trans hgrown hnarrower
  exact ColumnType.fitsIn_trans (hnot hwider) hgrown

theorem Settled.processAt {s : TargetSchema} {event : ChangeEvent} (h : Settled s event)
    (events : List (Timestamp × ChangeEvent)) :
    Settled (ChangeEvent.processAt s events).1 event := by
  induction events generalizing s with
  | nil => exact h
  | cons arrival events ih => exact ih (h.advance arrival.1 arrival.2)

/-- A run settles all its events. -/
theorem settled_processAt {s : TargetSchema} {events : List (Timestamp × ChangeEvent)}
    {event : ChangeEvent} (h : event ∈ events.map (·.2)) :
    Settled (ChangeEvent.processAt s events).1 event := by
  induction events generalizing s with
  | nil => cases h
  | cons arrival events ih =>
    rw [List.map_cons] at h
    rcases List.mem_cons.1 h with rfl | h
    · exact (settled_advance arrival.1 s arrival.2).processAt events
    · exact ih h

/-- A settled event is not applied. -/
theorem Settled.decide_ne_apply {s : TargetSchema} {event : ChangeEvent} (h : Settled s event)
    (now : Timestamp) (next : TargetSchema) : event.change.decide now s ≠ .apply next := by
  intro happly
  obtain ⟨type, hrequest, happly⟩ := SchemaChange.decide_eq_apply_iff.1 happly
  obtain ⟨current, hcurrent, hnot⟩ :=
    h event.change.column type (request?_eq_some_iff.2 ⟨rfl, hrequest⟩)
  rw [TargetSchema.type?_eq_some_iff] at hcurrent
  rcases accommodate_eq_apply_iff.1 happly with ⟨hnone, _⟩ | ⟨field, hfield, hnarrow, hwide, _⟩
  · rw [hcurrent] at hnone
    cases hnone
  · rw [hcurrent] at hfield
    cases hfield
    rw [hnot hwide] at hnarrow
    cases hnarrow

/-- A run of settled events changes nothing. -/
theorem processAt_of_settled {s : TargetSchema} {events : List (Timestamp × ChangeEvent)}
    (h : ∀ arrival ∈ events, Settled s arrival.2) :
    (ChangeEvent.processAt s events).1 = s ∧
      (ChangeEvent.processAt s events).2.applied = [] := by
  induction events with
  | nil => exact ⟨rfl, rfl⟩
  | cons arrival events ih =>
    obtain ⟨now, event⟩ := arrival
    have hrest := ih fun other hother => h other (List.mem_cons_of_mem _ hother)
    have hevent : Settled s event := h (now, event) List.mem_cons_self
    rw [processAt_cons]
    unfold ChangeEvent.advance
    cases hdecision : event.change.decide now s with
    | apply next => exact absurd hdecision (hevent.decide_ne_apply now next)
    | unchanged => exact hrest
    | skip reason => exact hrest

/-- Events that come again, in any order and at any later version, make no further version. -/
theorem processAt_redelivered (s : TargetSchema) (events further : List (Timestamp × ChangeEvent))
    (again : List (Timestamp × ChangeEvent))
    (hagain : ∀ arrival ∈ again, arrival.2 ∈ events.map (·.2)) :
    let later := (ChangeEvent.processAt (ChangeEvent.processAt s events).1 further).1
    (ChangeEvent.processAt later again).1 = later ∧
      (ChangeEvent.processAt later again).2.applied = [] := by
  intro later
  apply processAt_of_settled
  intro arrival harrival
  exact (settled_processAt (hagain arrival harrival)).processAt further

/-- The events of `ordersEvents` come twice and backwards, after `price` has become wider still. -/
theorem processAt_redelivered_orders :
    let widening : List (Timestamp × ChangeEvent) :=
      [(default, ⟨⟨"shop", "orders_3"⟩, .addColumn "price" (.typed (.decimal 14 4))⟩)]
    let again := ordersEvents.reverse ++ ordersEvents
    let later := (ChangeEvent.processAt (ChangeEvent.processAt ordersTable ordersEvents).1
      widening).1
    (∀ arrival ∈ again, arrival.2 ∈ ordersEvents.map (·.2)) ∧ later.version = 4 ∧
      (ChangeEvent.processAt later again).1 = later ∧
      (ChangeEvent.processAt later again).2.applied = [] := by
  intro widening again later
  have hagain : ∀ arrival ∈ again, arrival.2 ∈ ordersEvents.map (·.2) := by
    intro arrival harrival
    rcases List.mem_append.1 harrival with harrival | harrival
    · exact List.mem_map_of_mem (List.mem_reverse.1 harrival)
    · exact List.mem_map_of_mem harrival
  exact ⟨hagain, rfl, processAt_redelivered ordersTable ordersEvents widening again hagain⟩

end ShardMerge.ChangeEvent
