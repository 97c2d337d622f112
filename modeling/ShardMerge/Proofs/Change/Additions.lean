import ShardMerge.Proofs.Change.Order
import ShardMerge.Proofs.Change.Remerge

/-!
# Merging one column at a time

A table that starts with the columns of the first source, and takes in each column of the other
sources as an added one, ends with the fields that a merge of all sources gives it.  On the way the
two differ: a type that does not compare stays beside its column as a contender in the merge, while
the table skips it.

* `SourceSchema.additions` are the changes that add the columns of a source.
* `names_processAt_of_requests` gives the names: those of the table and then those that are asked
  for, in the order of their first appearance.
* `wanted_iff_declares` gives the types: what is wanted for a field is what the sources declare for
  it, so that the widest type of a merge is the one with which the field ends.
-/

namespace ShardMerge

/-- The changes that add the columns of a source, in order. -/
def SourceSchema.additions (s : SourceSchema) : List SchemaChange :=
  s.columns.map fun c => .addColumn c.name (.typed c.type)

namespace Column

/-- Columns are determined by the order of their names and the column of each name. -/
theorem ext_find? {a b : List Column} (hnodup : (a.map (·.name)).Nodup)
    (hnames : a.map (·.name) = b.map (·.name)) (h : ∀ name, find? a name = find? b name) :
    a = b := by
  have hfind {columns : List Column} (hcolumns : (columns.map (·.name)).Nodup) :
      columns.map some = (columns.map (·.name)).map (find? columns) := by
    rw [List.map_map]
    apply List.map_congr_left
    intro c hc
    exact (find?_of_mem hcolumns hc).symm
  have hsome : a.map some = b.map some := by
    rw [hfind hnodup, hfind (hnames ▸ hnodup), hnames]
    exact List.map_congr_left fun name _ => h name
  exact (List.map_inj_right fun _ _ => Option.some.inj).1 hsome

end Column

theorem TargetSchema.mem_names_of_field? {s : TargetSchema} {name : String} {field : Column}
    (h : s.field? name = some field) : name ∈ s.names := by
  rw [← Column.name_of_find? h]
  exact List.mem_map_of_mem (List.mem_of_find?_eq_some h)

/-! ## The names of the fields -/

namespace ChangeEvent

/-- A request for a missing field appends it, any other leaves the names as they are. -/
theorem names_advance_of_request {now : Timestamp} {s : TargetSchema} {event : ChangeEvent}
    {type : ColumnType} (h : event.change.request = .ok type) :
    (event.advance now s).names =
      if event.change.column ∈ s.names then s.names else s.names ++ [event.change.column] := by
  unfold advance SchemaChange.decide
  rw [h]
  simp only
  cases hdecision : accommodate now s event.change.column type with
  | apply next =>
    rcases accommodate_eq_apply_iff.1 hdecision with ⟨hmissing, rfl⟩ | ⟨field, hfield, _, _, rfl⟩
    · rw [if_neg (TargetSchema.field?_eq_none_iff.1 hmissing)]
      simp [Decision.after, TargetSchema.names, TargetSchema.next]
    · rw [if_pos (TargetSchema.mem_names_of_field? hfield)]
      exact map_name_retype _ _ _
  | unchanged =>
    obtain ⟨field, hfield, _⟩ := accommodate_eq_unchanged_iff.1 hdecision
    rw [if_pos (TargetSchema.mem_names_of_field? hfield), Decision.after]
  | skip reason =>
    obtain ⟨field, hfield, _⟩ := accommodate_eq_skip_iff.1 hdecision
    rw [if_pos (TargetSchema.mem_names_of_field? hfield), Decision.after]

/-- The fields are those of the table and those that are asked for, in the order of their first
appearance. -/
theorem names_processAt_of_requests {s : TargetSchema} (hs : s.names.Nodup)
    {arrivals : List (Timestamp × ChangeEvent)}
    (h : ∀ arrival ∈ arrivals, ∃ type, arrival.2.change.request = .ok type) :
    (processAt s arrivals).1.names =
      (s.names ++ arrivals.map (·.2.change.column)).eraseDups := by
  induction arrivals using List.reverseRecOn with
  | nil => simp [eraseDups_of_nodup hs]
  | append_singleton arrivals arrival ih =>
    obtain ⟨type, hrequest⟩ := h arrival (by simp)
    have hbefore := ih fun other hother => h other (List.mem_append_left _ hother)
    rw [processAt_append, processAt_cons, processAt_nil, names_advance_of_request hrequest,
      hbefore, List.map_append, List.map_singleton, ← List.append_assoc, eraseDups_concat]
    simp only [List.mem_eraseDups]

end ChangeEvent

/-! ## The types of the fields -/

section Additions

variable {first : SourceSchema} {rest : List SourceSchema} {s : TargetSchema}
  {arrivals : List (Timestamp × ChangeEvent)}

theorem mem_additions_iff {source : SourceSchema} {change : SchemaChange} :
    change ∈ source.additions ↔
      ∃ c ∈ source.columns, .addColumn c.name (.typed c.type) = change := by
  rw [SourceSchema.additions, List.mem_map]

theorem columns_additions (sources : List SourceSchema) :
    (sources.flatMap SourceSchema.additions).map SchemaChange.column =
      sources.flatMap (·.names) := by
  rw [List.map_flatMap]
  congr 1
  funext source
  simp only [SourceSchema.additions, SourceSchema.names, List.map_map]
  rfl

theorem exists_request_of_additions
    (harrivals : arrivals.map (·.2.change) = rest.flatMap SourceSchema.additions) :
    ∀ arrival ∈ arrivals, ∃ type, arrival.2.change.request = .ok type := by
  intro arrival harrival
  have hchange : arrival.2.change ∈ rest.flatMap SourceSchema.additions := by
    rw [← harrivals]
    exact List.mem_map_of_mem harrival
  obtain ⟨source, _, hsource⟩ := List.mem_flatMap.1 hchange
  obtain ⟨c, _, hc⟩ := mem_additions_iff.1 hsource
  rw [← hc]
  exact ⟨c.type, rfl⟩

/-- What the additions ask for is what the sources that are added declare. -/
theorem asked_iff_declared
    (harrivals : arrivals.map (·.2.change) = rest.flatMap SourceSchema.additions) {name : String}
    {type : ColumnType} :
    (∃ event ∈ arrivals.map (·.2), event.change.AsksFor name type) ↔
      ∃ source ∈ rest, { name, type } ∈ source.columns := by
  have hchanges : (arrivals.map (·.2)).map (·.change) = rest.flatMap SourceSchema.additions := by
    rw [List.map_map]
    exact harrivals
  constructor
  · intro h
    obtain ⟨event, hevent, hasks⟩ := h
    have hchange : event.change ∈ rest.flatMap SourceSchema.additions :=
      hchanges ▸ List.mem_map_of_mem hevent
    obtain ⟨source, hsource, hadded⟩ := List.mem_flatMap.1 hchange
    obtain ⟨c, hc, hadd⟩ := mem_additions_iff.1 hadded
    rw [← hadd] at hasks
    cases hasks with
    | add htype =>
      cases htype
      exact ⟨source, hsource, hc⟩
  · intro h
    obtain ⟨source, hsource, hc⟩ := h
    have hchange : .addColumn name (.typed type) ∈ rest.flatMap SourceSchema.additions :=
      List.mem_flatMap.2 ⟨source, hsource, mem_additions_iff.2 ⟨_, hc, rfl⟩⟩
    rw [← hchanges] at hchange
    obtain ⟨event, hevent, hadd⟩ := List.mem_map.1 hchange
    exact ⟨event, hevent, hadd ▸ .add rfl⟩

/-- What is wanted for a field is what the sources declare for it. -/
theorem wanted_iff_declares (hfirst : first.names.Nodup) (hfields : s.fields = first.columns)
    (harrivals : arrivals.map (·.2.change) = rest.flatMap SourceSchema.additions) {name : String}
    {type : ColumnType} :
    Wanted s (arrivals.map (·.2)) name type ↔ Declares (first :: rest) name type := by
  have hs : s.names.Nodup := by
    rw [TargetSchema.names, hfields]
    exact hfirst
  have htable : s.type? name = some type ↔ { name, type } ∈ first.columns := by
    rw [← hfields, TargetSchema.mem_fields_iff hs]
  rw [Wanted, htable, asked_iff_declared harrivals, Declares]
  simp only [List.mem_cons, exists_eq_or_imp]

theorem type?_processAt_additions (hfirst : first.names.Nodup) (hfields : s.fields = first.columns)
    (harrivals : arrivals.map (·.2.change) = rest.flatMap SourceSchema.additions) {name : String}
    {type : ColumnType} (h : IsWidest (first :: rest) name type) :
    (ChangeEvent.processAt s arrivals).1.type? name = some type := by
  apply ChangeEvent.type?_processAt_of_isWidestWanted
  refine ⟨(wanted_iff_declares hfirst hfields harrivals).2 h.declared, ?_⟩
  intro other hother
  exact h.widest other ((wanted_iff_declares hfirst hfields harrivals).1 hother)

theorem names_processAt_additions (hfirst : first.names.Nodup) (hfields : s.fields = first.columns)
    (harrivals : arrivals.map (·.2.change) = rest.flatMap SourceSchema.additions) :
    (ChangeEvent.processAt s arrivals).1.names =
      ((first :: rest).flatMap (·.names)).eraseDups := by
  have hs : s.names = first.names := by rw [TargetSchema.names, hfields, SourceSchema.names]
  have hcolumns : arrivals.map (·.2.change.column) = rest.flatMap (·.names) := by
    rw [← columns_additions, ← harrivals, List.map_map]
    rfl
  rw [ChangeEvent.names_processAt_of_requests (hs ▸ hfirst)
    (exists_request_of_additions harrivals), hs, hcolumns, List.flatMap_cons]

/-- Where every declared name has a widest type, the table reflects the sources in the end. -/
theorem reflects_processAt_additions (hfirst : first.names.Nodup)
    (hfields : s.fields = first.columns)
    (harrivals : arrivals.map (·.2.change) = rest.flatMap SourceSchema.additions)
    (hwidest : ∀ name, (∃ type, Declares (first :: rest) name type) →
      ∃ type, IsWidest (first :: rest) name type) :
    Reflects (first :: rest) (ChangeEvent.processAt s arrivals).1 := by
  refine ⟨?_, ?_⟩
  · intro name type htype
    have hname : name ∈ (ChangeEvent.processAt s arrivals).1.names :=
      TargetSchema.mem_names_of_field? (TargetSchema.type?_eq_some_iff.1 htype)
    rw [names_processAt_additions hfirst hfields harrivals, List.mem_eraseDups,
      ← exists_declares_iff] at hname
    obtain ⟨widest, hw⟩ := hwidest name hname
    rw [type?_processAt_additions hfirst hfields harrivals hw] at htype
    cases htype
    exact hw
  · intro name type hdeclared
    obtain ⟨widest, hw⟩ := hwidest name ⟨type, hdeclared⟩
    exact ⟨widest, type?_processAt_additions hfirst hfields harrivals hw⟩

/-! ## The result -/

/-- A table that starts with the first source and takes in the columns of the others one by one ends
with the fields of the merge, whatever it skips on the way. -/
theorem fields_processAt_additions {u : UnifiedSchema}
    (hnames : ∀ source ∈ first :: rest, source.names.Nodup)
    (hmerge : UnifiedSchema.merge (first :: rest) = .ok u) (hfields : s.fields = first.columns)
    (harrivals : arrivals.map (·.2.change) = rest.flatMap SourceSchema.additions) :
    (ChangeEvent.processAt s arrivals).1.fields = u.fields := by
  have hfirst : first.names.Nodup := hnames first List.mem_cons_self
  have hne : first :: rest ≠ [] := List.cons_ne_nil _ _
  have hwidest := (UnifiedSchema.exists_merge_eq_ok_iff hne hnames).1 ⟨u, hmerge⟩
  obtain ⟨merged, hmerged, hfind⟩ :=
    (reflects_processAt_additions hfirst hfields harrivals hwidest).exists_merge hne hnames
  rw [hmerge] at hmerged
  cases hmerged
  have hends := names_processAt_additions hfirst hfields harrivals
  have hunified : u.fields.map (·.name) = ((first :: rest).flatMap (·.names)).eraseDups := by
    rw [← (UnifiedSchema.unifies_of_merge hnames hmerge).names, UnifiedSchema.fields, List.map_map]
    rfl
  refine Column.ext_find? ?_ (hends.trans hunified.symm) fun name => (hfind name).symm
  rw [← TargetSchema.names, hends]
  exact nodup_eraseDups _

end Additions

/-- A table with the columns of the first one of `UnifiedSchema.reconciledSources`. -/
def startingTable : TargetSchema where
  version := 0
  fields := [⟨"id", .integer 32⟩, ⟨"price", .decimal 12 2⟩]
  primaryKeys := ["id"]
  updatedAt := default

/-- The columns of the other two sources, of which `DECIMAL(10, 4)` does not compare with the type
that the table has when it arrives. -/
def startingEvents : List (Timestamp × ChangeEvent) :=
  [(default, ⟨⟨"shop", "orders_2"⟩, .addColumn "price" (.typed (.decimal 10 4))⟩),
   (default, ⟨⟨"shop", "orders_2"⟩, .addColumn "note" (.typed .text)⟩),
   (default, ⟨⟨"shop", "orders_3"⟩, .addColumn "price" (.typed (.decimal 12 4))⟩)]

theorem fields_processAt_additions_reconciled :
    (∀ source ∈ UnifiedSchema.reconciledSources, source.names.Nodup) ∧
      startingEvents.map (·.2.change) =
        (UnifiedSchema.reconciledSources.drop 1).flatMap SourceSchema.additions ∧
      (ChangeEvent.processAt startingTable startingEvents).2.skipped.length = 1 ∧
      ∃ u, UnifiedSchema.merge UnifiedSchema.reconciledSources = .ok u ∧
        (ChangeEvent.processAt startingTable startingEvents).1.fields = u.fields := by
  have hnames : ∀ source ∈ UnifiedSchema.reconciledSources, source.names.Nodup := by decide
  exact ⟨hnames, rfl, rfl, _, rfl, fields_processAt_additions hnames rfl rfl rfl⟩

end ShardMerge
