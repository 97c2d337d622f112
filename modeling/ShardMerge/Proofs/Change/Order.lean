import ShardMerge.Proofs.Change.Run

/-!
# Events in another order

Sources report their events independently of each other, so the same events can arrive in different
orders, and an event that is applied in one order can be skipped in another.  The fields end alike
nevertheless wherever one of the types that are wanted for a field is wide enough for all others.

* `SchemaChange.AsksFor` says what a change asks for, and `IsWidestWanted` which type of those that
  a field has or is asked to have is the widest one.
* `type?_processAt` is the meaning of a run: the type of a field is raised by the requests for that
  field alone, in the order of their arrival.
* `ColumnType.foldl_raise` shows that the order does not matter to the widest type.  Until it
  arrives the field only has types that fit in it, and afterwards no request exceeds it.
-/

namespace ShardMerge

/-! ## What is wanted for a field -/

/-- A change asks for a type in the field of a name: it adds a column of that type, or puts that
type in place of one that fits in it. -/
inductive SchemaChange.AsksFor (name : String) (type : ColumnType) : SchemaChange → Prop where
  | add {declared : DeclaredType} (htype : declared.resolve? = some type) :
    AsksFor name type (.addColumn name declared)
  | alter {oldType newType : DeclaredType} {old : ColumnType}
    (hold : oldType.resolve? = some old) (hnew : newType.resolve? = some type)
    (hfits : old.fitsIn type = true) : AsksFor name type (.alterColumnType name oldType newType)

/-- A type that the field of a name has already, or that some event asks for. -/
def Wanted (s : TargetSchema) (events : List ChangeEvent) (name : String) (type : ColumnType) :
    Prop :=
  s.type? name = some type ∨ ∃ event ∈ events, event.change.AsksFor name type

/-- A wanted type in which all wanted types of the field fit. -/
structure IsWidestWanted (s : TargetSchema) (events : List ChangeEvent) (name : String)
    (type : ColumnType) : Prop where
  wanted : Wanted s events name type
  widest : ∀ other, Wanted s events name other → other.fitsIn type = true

/-- What is wanted does not depend on the order of the events. -/
theorem IsWidestWanted.perm {s : TargetSchema} {events events' : List ChangeEvent} {name : String}
    {type : ColumnType} (h : IsWidestWanted s events name type) (hperm : events.Perm events') :
    IsWidestWanted s events' name type := by
  have hwanted (other : ColumnType) :
      Wanted s events' name other ↔ Wanted s events name other := by
    simp only [Wanted, hperm.mem_iff]
  refine ⟨(hwanted type).2 h.wanted, ?_⟩
  intro other hother
  exact h.widest other ((hwanted other).1 hother)

namespace ChangeEvent

theorem request?_eq_some_iff_asksFor {event : ChangeEvent} {name : String} {type : ColumnType} :
    event.request? name = some type ↔ event.change.AsksFor name type := by
  rw [request?_eq_some_iff]
  obtain ⟨origin, change⟩ := event
  cases change with
  | addColumn column declared =>
    constructor
    · intro h
      obtain ⟨rfl, hrequest⟩ := h
      exact .add (DeclaredType.resolve_eq_ok_iff.1 hrequest)
    · intro h
      cases h with
      | add htype => exact ⟨rfl, DeclaredType.resolve_eq_ok_iff.2 htype⟩
  | alterColumnType column oldType newType =>
    rw [SchemaChange.request_alterColumnType_eq_ok_iff]
    constructor
    · intro h
      obtain ⟨rfl, hnew, old, hold, hfits⟩ := h
      exact .alter hold hnew hfits
    · intro h
      cases h with
      | alter hold hnew hfits => exact ⟨rfl, hnew, _, hold, hfits⟩
  | dropColumn column =>
    constructor
    · intro h
      cases h.2
    · intro h
      cases h

/-- The types that events ask for in the field of a name, in the order of the events. -/
def requests (events : List ChangeEvent) (name : String) : List ColumnType :=
  events.filterMap fun event => event.request? name

theorem mem_requests_iff {events : List ChangeEvent} {name : String} {type : ColumnType} :
    type ∈ requests events name ↔ ∃ event ∈ events, event.change.AsksFor name type := by
  simp only [requests, List.mem_filterMap, request?_eq_some_iff_asksFor]

end ChangeEvent

/-- The wanted types can be listed, so that the widest one can be found by trying each. -/
theorem isWidestWanted_iff {s : TargetSchema} {events : List ChangeEvent} {name : String}
    {type : ColumnType} :
    IsWidestWanted s events name type ↔
      type ∈ (s.type? name).toList ++ ChangeEvent.requests events name ∧
        ∀ other ∈ (s.type? name).toList ++ ChangeEvent.requests events name,
          other.fitsIn type = true := by
  have hwanted (other : ColumnType) :
      other ∈ (s.type? name).toList ++ ChangeEvent.requests events name ↔
        Wanted s events name other := by
    rw [List.mem_append, Option.mem_toList, ChangeEvent.mem_requests_iff, Wanted]
  simp only [hwanted]
  exact ⟨fun h => ⟨h.wanted, h.widest⟩, fun h => ⟨h.1, h.2⟩⟩

instance (s : TargetSchema) (events : List ChangeEvent) (name : String) (type : ColumnType) :
    Decidable (IsWidestWanted s events name type) :=
  decidable_of_iff _ isWidestWanted_iff.symm

/-! ## The type of a field after a run -/

/-- A request raises a field no further than to a type in which both fit. -/
theorem ColumnType.raise_fitsIn {current : Option ColumnType} {requested bound : ColumnType}
    (hcurrent : ∀ type, current = some type → type.fitsIn bound = true)
    (hrequested : requested.fitsIn bound = true) :
    (raise current requested).fitsIn bound = true := by
  cases current with
  | none => exact hrequested
  | some type =>
    cases hwider : type.wider? requested with
    | none => simpa [raise, hwider] using hcurrent type rfl
    | some wider =>
      rcases (fitsIn_of_wider? hwider).1 with rfl | rfl
      · simpa [raise, hwider] using hcurrent wider rfl
      · simpa [raise, hwider] using hrequested

/-- Requests in whatever order raise a field to the widest type, if that is the type of the field
or among the requests. -/
theorem ColumnType.foldl_raise {requests : List ColumnType} {current : Option ColumnType}
    {widest : ColumnType} (hmem : current = some widest ∨ widest ∈ requests)
    (hwidest : ∀ type, current = some type ∨ type ∈ requests → type.fitsIn widest = true) :
    requests.foldl (fun current type => some (raise current type)) current = some widest := by
  induction requests generalizing current with
  | nil => simpa using hmem
  | cons request requests ih =>
    have hrequest : request.fitsIn widest = true := hwidest request (.inr List.mem_cons_self)
    have hrest : ∀ type ∈ requests, type.fitsIn widest = true := by
      intro type htype
      exact hwidest type (.inr (List.mem_cons_of_mem _ htype))
    rw [List.foldl_cons]
    refine ih ?_ ?_
    · rcases hmem with rfl | hmem
      · exact .inl (by rw [raise_of_fitsIn hrequest])
      rcases List.mem_cons.1 hmem with rfl | hmem
      · cases current with
        | none => exact .inl rfl
        | some type => exact .inl (by rw [raise_of_wider (hwidest type (.inl rfl))])
      · exact .inr hmem
    · intro type htype
      rcases htype with htype | htype
      · cases htype
        exact raise_fitsIn (fun type htype => hwidest type (.inl htype)) hrequest
      · exact hrest type htype

namespace ChangeEvent

/-- The type of a field is raised by the requests for that field alone. -/
theorem type?_processAt (s : TargetSchema) (arrivals : List (Timestamp × ChangeEvent))
    (name : String) :
    (processAt s arrivals).1.type? name =
      (requests (arrivals.map (·.2)) name).foldl
        (fun current type => some (.raise current type)) (s.type? name) := by
  induction arrivals generalizing s with
  | nil => rfl
  | cons arrival arrivals ih =>
    obtain ⟨now, event⟩ := arrival
    rw [processAt_cons, ih, type?_advance, List.map_cons, requests, requests,
      List.filterMap_cons]
    cases event.request? name <;> rfl

theorem type?_processAt_of_isWidestWanted {s : TargetSchema}
    {arrivals : List (Timestamp × ChangeEvent)} {name : String} {type : ColumnType}
    (h : IsWidestWanted s (arrivals.map (·.2)) name type) :
    (processAt s arrivals).1.type? name = some type := by
  rw [type?_processAt]
  apply ColumnType.foldl_raise
  · exact h.wanted.imp_right mem_requests_iff.2
  · intro other hother
    exact h.widest other (hother.imp_right mem_requests_iff.1)

/-- A field that no event asks about keeps its type. -/
theorem type?_processAt_of_not_asked {s : TargetSchema}
    {arrivals : List (Timestamp × ChangeEvent)} {name : String}
    (h : ¬ ∃ type, ∃ event ∈ arrivals.map (·.2), event.change.AsksFor name type) :
    (processAt s arrivals).1.type? name = s.type? name := by
  have hnone : requests (arrivals.map (·.2)) name = [] := by
    rw [List.eq_nil_iff_forall_not_mem]
    intro type htype
    exact h ⟨type, mem_requests_iff.1 htype⟩
  rw [type?_processAt, hnone, List.foldl_nil]

end ChangeEvent

/-! ## Schemas with the same types -/

namespace TargetSchema

theorem mem_fields_iff {s : TargetSchema} (h : s.names.Nodup) {field : Column} :
    field ∈ s.fields ↔ s.type? field.name = some field.type := by
  rw [type?_eq_some_iff]
  constructor
  · intro hmem
    exact find?_of_mem h hmem
  · intro hfound
    exact List.mem_of_find?_eq_some hfound

/-- Schemas that give every name the same type have the same fields in some order. -/
theorem fields_perm {a b : TargetSchema} (ha : a.names.Nodup) (hb : b.names.Nodup)
    (h : ∀ name, a.type? name = b.type? name) : a.fields.Perm b.fields := by
  rw [List.perm_ext_iff_of_nodup (List.Nodup.of_map _ ha) (List.Nodup.of_map _ hb)]
  intro field
  rw [mem_fields_iff ha, mem_fields_iff hb, h]

end TargetSchema

/-! ## The result -/

namespace ChangeEvent

/-- Two orders of the same events lead to the same fields, provided that each field which some event
asks about has a widest one among the types that are wanted for it.  That is the type with which the
field ends. -/
theorem processAt_perm {s : TargetSchema} (hs : s.names.Nodup) {events : List ChangeEvent}
    {first second : List (Timestamp × ChangeEvent)} (hfirst : (first.map (·.2)).Perm events)
    (hsecond : (second.map (·.2)).Perm events)
    (hwidest : ∀ name, (∃ type, ∃ event ∈ events, event.change.AsksFor name type) →
      ∃ type, IsWidestWanted s events name type) :
    (processAt s first).1.fields.Perm (processAt s second).1.fields ∧
      ∀ name type, IsWidestWanted s events name type →
        (processAt s first).1.field? name = some { name, type } ∧
          (processAt s second).1.field? name = some { name, type } := by
  have hends {arrivals : List (Timestamp × ChangeEvent)} {name : String} {type : ColumnType}
      (harrivals : (arrivals.map (·.2)).Perm events) (h : IsWidestWanted s events name type) :
      (processAt s arrivals).1.type? name = some type :=
    type?_processAt_of_isWidestWanted (h.perm harrivals.symm)
  refine ⟨TargetSchema.fields_perm (evolves_processAt hs first).nodup
    (evolves_processAt hs second).nodup ?_, ?_⟩
  · intro name
    by_cases hasked : ∃ type, ∃ event ∈ events, event.change.AsksFor name type
    · obtain ⟨type, htype⟩ := hwidest name hasked
      rw [hends hfirst htype, hends hsecond htype]
    · rw [type?_processAt_of_not_asked (by simpa only [hfirst.mem_iff] using hasked),
        type?_processAt_of_not_asked (by simpa only [hsecond.mem_iff] using hasked)]
  · intro name type htype
    exact ⟨TargetSchema.type?_eq_some_iff.1 (hends hfirst htype),
      TargetSchema.type?_eq_some_iff.1 (hends hsecond htype)⟩

/-- The events of `ordersEvents` arrive forwards and backwards.  The request for `DECIMAL(8, 4)` is
skipped in the first case, and covered already in the second one. -/
theorem processAt_perm_orders :
    ordersTable.names.Nodup ∧
      (∀ name, (∃ type, ∃ event ∈ ordersEvents.map (·.2), event.change.AsksFor name type) →
        ∃ type, IsWidestWanted ordersTable (ordersEvents.map (·.2)) name type) ∧
      (processAt ordersTable ordersEvents).2.skipped.length = 3 ∧
      (processAt ordersTable ordersEvents.reverse).2.skipped.length = 2 ∧
      (processAt ordersTable ordersEvents).1.fields.Perm
        (processAt ordersTable ordersEvents.reverse).1.fields := by
  have hnames : ordersTable.names.Nodup := by decide
  have hcolumns : ∀ event ∈ ordersEvents.map (·.2),
      event.change.column = "id" ∨ event.change.column = "price" ∨
        event.change.column = "note" := by decide
  have hwidest : ∀ name,
      (∃ type, ∃ event ∈ ordersEvents.map (·.2), event.change.AsksFor name type) →
        ∃ type, IsWidestWanted ordersTable (ordersEvents.map (·.2)) name type := by
    intro name hasked
    obtain ⟨type, event, hevent, hasks⟩ := hasked
    obtain ⟨rfl, _⟩ := request?_eq_some_iff.1 (request?_eq_some_iff_asksFor.2 hasks)
    rcases hcolumns event hevent with hid | hprice | hnote
    · exact ⟨.integer 64, by rw [hid]; decide⟩
    · exact ⟨.decimal 12 4, by rw [hprice]; decide⟩
    · exact ⟨.string (some 20), by rw [hnote]; decide⟩
  have hbackwards : (ordersEvents.reverse.map (·.2)).Perm (ordersEvents.map (·.2)) :=
    (List.reverse_perm _).map _
  exact ⟨hnames, hwidest, rfl, rfl,
    (processAt_perm hnames (List.Perm.refl _) hbackwards hwidest).1⟩

end ChangeEvent

end ShardMerge
