import ShardMerge.Proofs.Change.Run
import ShardMerge.Proofs.Schema.Merge

/-!
# Following events and merging again

A target schema that follows the events of its sources has the types that a new merge of the
changed sources would give it, as long as no event was skipped.

* `SourceSchema.changed` and `follow` change the sources as their events say, and `Reported` says
  that each event fits the source that reports it.
* `Reflects` is the invariant: the type of each field is the widest one among the types that the
  sources declare now.  `Reflects.advance` is its step.
* `TakesOver` is all that the step needs to know about the sources: the requested type is declared
  from now on, and a type that no source declares any more fits in it.
-/

namespace ShardMerge

/-! ## Sources that change -/

namespace SourceSchema

/-- A source after a change of its own. -/
def changed (s : SourceSchema) (change : SchemaChange) : SourceSchema :=
  { s with
    columns :=
      match change with
      | .addColumn column type =>
        match type.resolve? with
        | some type => s.columns ++ [{ name := column, type }]
        | none => s.columns
      | .alterColumnType column _ newType =>
        match newType.resolve? with
        | some type => retype column type s.columns
        | none => s.columns
      | .dropColumn column => s.columns.filter fun c => c.name ≠ column }

end SourceSchema

namespace ChangeEvent

/-- The sources after an event: the source that reports it has changed. -/
def follow (sources : List SourceSchema) (event : ChangeEvent) : List SourceSchema :=
  sources.map fun s => if s.origin = event.origin then s.changed event.change else s

/-- An added column is new to the source that reports it, and an altered one has the type there
that is given as the old one. -/
def ReportedBy (sources : List SourceSchema) (event : ChangeEvent) : Prop :=
  match event.change with
  | .addColumn column _ => ∃ s ∈ sources, s.origin = event.origin ∧ column ∉ s.names
  | .alterColumnType column oldType _ =>
    ∃ s ∈ sources, s.origin = event.origin ∧
      ∃ field ∈ s.column? column, oldType.resolve? = some field.type
  | .dropColumn _ => True

instance (sources : List SourceSchema) : (event : ChangeEvent) →
    Decidable (event.ReportedBy sources)
  | ⟨origin, .addColumn column _⟩ =>
    inferInstanceAs (Decidable (∃ s ∈ sources, s.origin = origin ∧ column ∉ s.names))
  | ⟨origin, .alterColumnType column oldType _⟩ =>
    inferInstanceAs (Decidable (∃ s ∈ sources, s.origin = origin ∧
      ∃ field ∈ s.column? column, oldType.resolve? = some field.type))
  | ⟨_, .dropColumn _⟩ => inferInstanceAs (Decidable True)

/-- Each event is reported by its source as it is after the events before. -/
def Reported : List SourceSchema → List ChangeEvent → Prop
  | _, [] => True
  | sources, event :: events => event.ReportedBy sources ∧ Reported (follow sources event) events

instance decidableReported : (sources : List SourceSchema) → (events : List ChangeEvent) →
    Decidable (Reported sources events)
  | _, [] => inferInstanceAs (Decidable True)
  | sources, event :: events =>
    have := decidableReported (follow sources event) events
    inferInstanceAs (Decidable (event.ReportedBy sources ∧ Reported (follow sources event) events))

theorem origins_follow (sources : List SourceSchema) (event : ChangeEvent) :
    (follow sources event).map (·.origin) = sources.map (·.origin) := by
  rw [follow, List.map_map]
  apply List.map_congr_left
  intro s _
  by_cases h : s.origin = event.origin <;> simp [h, SourceSchema.changed]

end ChangeEvent

/-- A request is taken over: its type is declared afterwards, nothing else is new, and what is not
declared any more fits in it. -/
structure TakesOver (before after : List SourceSchema) (column : String) (type : ColumnType) :
    Prop where
  declared : Declares after column type
  old : ∀ name other, Declares after name other →
    Declares before name other ∨ name = column ∧ other = type
  kept : ∀ name other, Declares before name other →
    Declares after name other ∨ name = column ∧ other.fitsIn type = true

namespace TakesOver

variable {before after : List SourceSchema} {column : String} {type : ColumnType}

/-- A request in which all earlier declarations fit is the widest one. -/
theorem isWidest_of_wider (h : TakesOver before after column type)
    (hwider : ∀ other, Declares before column other → other.fitsIn type = true) :
    IsWidest after column type := by
  refine ⟨h.declared, ?_⟩
  intro other hother
  rcases h.old column other hother with hbefore | ⟨_, rfl⟩
  · exact hwider other hbefore
  · exact ColumnType.fitsIn_refl _

/-- A request that fits in the widest type leaves that the widest one. -/
theorem isWidest_of_covered (h : TakesOver before after column type) {current : ColumnType}
    (hwidest : IsWidest before column current) (hcovered : type.fitsIn current = true) :
    IsWidest after column current := by
  refine ⟨?_, ?_⟩
  · -- If `current` is not declared any more, it fits in the request, and the two are equal.
    rcases h.kept column current hwidest.declared with hkept | ⟨_, hfits⟩
    · exact hkept
    · rw [ColumnType.fitsIn_antisymm hfits hcovered]
      exact h.declared
  · intro other hother
    rcases h.old column other hother with hbefore | ⟨_, rfl⟩
    · exact hwidest.widest other hbefore
    · exact hcovered

/-- The columns of other names are as before. -/
theorem isWidest_of_ne (h : TakesOver before after column type) {name : String}
    (hname : name ≠ column) {current : ColumnType} (hwidest : IsWidest before name current) :
    IsWidest after name current := by
  refine ⟨?_, ?_⟩
  · exact (h.kept name current hwidest.declared).resolve_right fun hsame => hname hsame.1
  · intro other hother
    exact hwidest.widest other ((h.old name other hother).resolve_right fun hsame => hname hsame.1)

end TakesOver

/-! ## The invariant -/

/-- The fields of a target schema are the declared columns with their widest types. -/
structure Reflects (sources : List SourceSchema) (s : TargetSchema) : Prop where
  widest : ∀ name type, s.type? name = some type → IsWidest sources name type
  present : ∀ name type, Declares sources name type → ∃ current, s.type? name = some current

namespace Reflects

variable {before after : List SourceSchema} {s next : TargetSchema} {column : String}
  {type : ColumnType}

/-- A request that compares with its field raises that to the widest type again. -/
theorem isWidest_raise (h : Reflects before s) (htaken : TakesOver before after column type)
    (hcomparable : ∀ current, s.type? column = some current →
      type.fitsIn current = true ∨ current.fitsIn type = true) :
    IsWidest after column (.raise (s.type? column) type) := by
  cases hcurrent : s.type? column with
  | none =>
    apply htaken.isWidest_of_wider
    intro other hother
    obtain ⟨current, hsome⟩ := h.present column other hother
    rw [hcurrent] at hsome
    cases hsome
  | some current =>
    have hwidest := h.widest column current hcurrent
    rcases hcomparable current hcurrent with hcovered | hwider
    · rw [ColumnType.raise_of_fitsIn hcovered]
      exact htaken.isWidest_of_covered hwidest hcovered
    · rw [ColumnType.raise_of_wider hwider]
      apply htaken.isWidest_of_wider
      intro other hother
      exact ColumnType.fitsIn_trans (hwidest.widest other hother) hwider

/-- An accepted request keeps the invariant if the sources take it over. -/
theorem raise (h : Reflects before s) (htaken : TakesOver before after column type)
    (hcomparable : ∀ current, s.type? column = some current →
      type.fitsIn current = true ∨ current.fitsIn type = true)
    (hnext : ∀ name, next.type? name =
      if name = column then some (.raise (s.type? column) type) else s.type? name) :
    Reflects after next := by
  refine ⟨?_, ?_⟩
  · intro name found hfound
    rw [hnext] at hfound
    split at hfound
    · rename_i hname
      cases hfound
      rw [hname]
      exact h.isWidest_raise htaken hcomparable
    · rename_i hname
      exact htaken.isWidest_of_ne hname (h.widest name found hfound)
  · intro name other hother
    rw [hnext]
    split
    · exact ⟨_, rfl⟩
    · rename_i hname
      exact h.present name other
        ((htaken.old name other hother).resolve_right fun hsame => hname hsame.1)

end Reflects

/-! ## What an event does to the declared types -/

theorem mem_retype {columns : List Column} {column : String} {type : ColumnType} {c : Column} :
    c ∈ retype column type columns ↔
      c ∈ columns ∧ c.name ≠ column ∨ c = ⟨column, type⟩ ∧ column ∈ columns.map (·.name) := by
  simp only [retype, List.mem_map]
  constructor
  · intro hmem
    obtain ⟨d, hd, rfl⟩ := hmem
    by_cases hname : d.name = column
    · exact .inr ⟨by simp [hname], d, hd, hname⟩
    · exact .inl (by simp [hname, hd])
  · intro hmem
    rcases hmem with ⟨hc, hname⟩ | ⟨rfl, d, hd, hname⟩
    · exact ⟨c, hc, by simp [hname]⟩
    · exact ⟨d, hd, by simp [hname]⟩

namespace ChangeEvent

variable {sources : List SourceSchema} {origin : TableName} {column : String} {type : ColumnType}

theorem declares_follow_iff {event : ChangeEvent} {name : String} {other : ColumnType} :
    Declares (follow sources event) name other ↔
      ∃ s ∈ sources, { name, type := other } ∈
        (if s.origin = event.origin then s.changed event.change else s).columns := by
  simp [Declares, follow]

theorem takesOver_addColumn {declared : DeclaredType}
    (hsource : ∃ s ∈ sources, s.origin = origin ∧ column ∉ s.names)
    (htype : declared.resolve? = some type) :
    TakesOver sources (follow sources ⟨origin, .addColumn column declared⟩) column type := by
  obtain ⟨source, hsource, rfl, _⟩ := hsource
  refine ⟨?_, ?_, ?_⟩
  · rw [declares_follow_iff]
    exact ⟨source, hsource, by simp [SourceSchema.changed, htype]⟩
  · intro name other hother
    obtain ⟨s, hs, hmem⟩ := declares_follow_iff.1 hother
    split at hmem
    · simp only [SourceSchema.changed, htype, List.mem_append, List.mem_singleton] at hmem
      rcases hmem with hmem | hmem
      · exact .inl ⟨s, hs, hmem⟩
      · cases hmem
        exact .inr ⟨rfl, rfl⟩
    · exact .inl ⟨s, hs, hmem⟩
  · intro name other hother
    obtain ⟨s, hs, hmem⟩ := hother
    refine .inl (declares_follow_iff.2 ⟨s, hs, ?_⟩)
    split
    · simp [SourceSchema.changed, htype, hmem]
    · exact hmem

theorem takesOver_alterColumnType {oldType newType : DeclaredType}
    (horigins : (sources.map (·.origin)).Nodup) (hnames : ∀ s ∈ sources, s.names.Nodup)
    {source : SourceSchema} (hsource : source ∈ sources) {field : Column}
    (hfield : source.column? column = some field) (htype : newType.resolve? = some type)
    (hfits : field.type.fitsIn type = true) :
    TakesOver sources (follow sources ⟨source.origin, .alterColumnType column oldType newType⟩)
      column type := by
  have hname : field.name = column := Column.name_of_find? hfield
  have hmember : field ∈ source.columns := List.mem_of_find?_eq_some hfield
  refine ⟨?_, ?_, ?_⟩
  · refine declares_follow_iff.2 ⟨source, hsource, ?_⟩
    simp only [if_true, SourceSchema.changed, htype, mem_retype]
    exact .inr ⟨trivial, List.mem_map.2 ⟨field, hmember, hname⟩⟩
  · intro name other hother
    obtain ⟨s, hs, hmem⟩ := declares_follow_iff.1 hother
    split at hmem
    · simp only [SourceSchema.changed, htype, mem_retype] at hmem
      rcases hmem with ⟨hmem, _⟩ | ⟨hmem, _⟩
      · exact .inl ⟨s, hs, hmem⟩
      · cases hmem
        exact .inr ⟨rfl, rfl⟩
    · exact .inl ⟨s, hs, hmem⟩
  · intro name other hother
    obtain ⟨s, hs, hmem⟩ := hother
    by_cases hreporter : s.origin = source.origin
    · have hsame : s = source := List.inj_on_of_nodup_map horigins hs hsource hreporter
      subst hsame
      by_cases hcolumn : name = column
      · -- Names do not repeat, so this is the column that is altered.
        subst hcolumn
        have hfound := find?_of_mem (hnames s hs) hmem
        have hfield' : s.columns.find? (fun c => c.name = name) = some field := hfield
        rw [hfield'] at hfound
        cases hfound
        exact .inr ⟨rfl, hfits⟩
      · refine .inl (declares_follow_iff.2 ⟨s, hs, ?_⟩)
        simp only [if_true, SourceSchema.changed, htype, mem_retype]
        exact .inl ⟨hmem, hcolumn⟩
    · refine .inl (declares_follow_iff.2 ⟨s, hs, ?_⟩)
      simpa [hreporter] using hmem

/-- An accepted event of a source is taken over. -/
theorem takesOver_of_request {event : ChangeEvent} (horigins : (sources.map (·.origin)).Nodup)
    (hnames : ∀ s ∈ sources, s.names.Nodup) (hreported : event.ReportedBy sources)
    (hrequest : event.change.request = .ok type) :
    TakesOver sources (follow sources event) event.change.column type := by
  obtain ⟨origin, change⟩ := event
  cases change with
  | addColumn column declared =>
    exact takesOver_addColumn hreported (DeclaredType.resolve_eq_ok_iff.1 hrequest)
  | alterColumnType column oldType newType =>
    obtain ⟨source, hsource, horigin, field, hfield, hold⟩ := hreported
    have horigin' : source.origin = origin := horigin
    subst horigin'
    obtain ⟨hnew, old, hold', hfits⟩ :=
      SchemaChange.request_alterColumnType_eq_ok_iff.1 hrequest
    rw [hold] at hold'
    cases hold'
    exact takesOver_alterColumnType horigins hnames hsource hfield hnew hfits
  | dropColumn column => cases hrequest

/-- The columns of each source keep names of their own. -/
theorem names_nodup_follow {event : ChangeEvent} (horigins : (sources.map (·.origin)).Nodup)
    (hnames : ∀ s ∈ sources, s.names.Nodup) (hreported : event.ReportedBy sources) :
    ∀ s ∈ follow sources event, s.names.Nodup := by
  intro s hs
  obtain ⟨t, ht, rfl⟩ := List.mem_map.1 hs
  have hnodup := hnames t ht
  split
  · rename_i horigin
    obtain ⟨origin, change⟩ := event
    cases change with
    | addColumn column declared =>
      obtain ⟨source, hsource, horigin', hnew⟩ := hreported
      have hsame : t = source :=
        List.inj_on_of_nodup_map horigins ht hsource (horigin.trans horigin'.symm)
      subst hsame
      cases hdeclared : declared.resolve? with
      | none => simpa [SourceSchema.changed, SourceSchema.names, hdeclared] using hnodup
      | some type =>
        simp only [SourceSchema.changed, SourceSchema.names, hdeclared, List.map_append,
          List.map_singleton]
        rw [← List.concat_eq_append]
        exact hnodup.concat hnew
    | alterColumnType column oldType newType =>
      cases hnew : newType.resolve? with
      | none => simpa [SourceSchema.changed, SourceSchema.names, hnew] using hnodup
      | some type =>
        simpa only [SourceSchema.changed, SourceSchema.names, hnew, map_name_retype] using hnodup
    | dropColumn column => exact hnodup.sublist (List.filter_sublist.map _)
  · exact hnodup

/-- The step of the invariant. -/
theorem reflects_advance {now : Timestamp} {s : TargetSchema} {event : ChangeEvent}
    (horigins : (sources.map (·.origin)).Nodup) (hnames : ∀ s ∈ sources, s.names.Nodup)
    (h : Reflects sources s) (hreported : event.ReportedBy sources)
    (haccepted : (event.change.decide now s).isAccepted = true) :
    Reflects (follow sources event) (event.advance now s) := by
  obtain ⟨type, hrequest, hcomparable⟩ := SchemaChange.isAccepted_decide_iff.1 haccepted
  refine h.raise (takesOver_of_request horigins hnames hreported hrequest) ?_
    (type?_advance_of_request hrequest)
  intro current hcurrent
  exact hcomparable _ (TargetSchema.type?_eq_some_iff.1 hcurrent)

/-- The run of the invariant. -/
theorem reflects_processAt {s : TargetSchema} {arrivals : List (Timestamp × ChangeEvent)}
    (horigins : (sources.map (·.origin)).Nodup) (hnames : ∀ s ∈ sources, s.names.Nodup)
    (h : Reflects sources s) (hreported : Reported sources (arrivals.map (·.2)))
    (haccepted : (processAt s arrivals).2.skipped = []) :
    Reflects ((arrivals.map (·.2)).foldl follow sources) (processAt s arrivals).1 ∧
      ∀ s ∈ (arrivals.map (·.2)).foldl follow sources, s.names.Nodup := by
  induction arrivals generalizing sources s with
  | nil => exact ⟨h, hnames⟩
  | cons arrival arrivals ih =>
    obtain ⟨now, event⟩ := arrival
    obtain ⟨hevent, hrest⟩ := hreported
    rw [processAt_cons, ChangeReport.skipped_cons_eq_nil_iff] at haccepted
    rw [processAt_cons, List.map_cons, List.foldl_cons]
    refine ih ?_ (names_nodup_follow horigins hnames hevent)
      (reflects_advance horigins hnames h hevent haccepted.1) hrest haccepted.2
    rw [origins_follow]
    exact horigins

theorem length_foldl_follow (events : List ChangeEvent) (sources : List SourceSchema) :
    (events.foldl follow sources).length = sources.length := by
  induction events generalizing sources with
  | nil => rfl
  | cons event events ih => rw [List.foldl_cons, ih, follow, List.length_map]

end ChangeEvent

/-! ## The two ways to the same types -/

namespace Reflects

variable {sources : List SourceSchema} {s : TargetSchema}

theorem type?_eq_some_iff (h : Reflects sources s) {name : String} {type : ColumnType} :
    s.type? name = some type ↔ IsWidest sources name type := by
  constructor
  · exact h.widest name type
  · intro hwidest
    obtain ⟨current, hcurrent⟩ := h.present name type hwidest.declared
    rw [hcurrent, (h.widest name current hcurrent).unique hwidest]

/-- A table with the fields of a merge reflects the merged sources. -/
theorem of_merge {u : UnifiedSchema} (hnames : ∀ source ∈ sources, source.names.Nodup)
    (hmerge : UnifiedSchema.merge sources = .ok u) (hfields : s.fields = u.fields) :
    Reflects sources s := by
  have hunifies := UnifiedSchema.unifies_of_merge hnames hmerge
  have hne : sources ≠ [] := by
    intro hnil
    subst hnil
    cases hmerge
  have hfind (name : String) : s.field? name = Column.find? u.fields name := by
    rw [TargetSchema.field?, hfields]
  refine ⟨?_, ?_⟩
  · intro name type htype
    rw [TargetSchema.type?_eq_some_iff, hfind, hunifies.find?_fields_eq_some_iff] at htype
    exact htype.2
  · intro name type hdeclared
    obtain ⟨widest, hwidest⟩ :=
      (UnifiedSchema.exists_merge_eq_ok_iff hne hnames).1 ⟨u, hmerge⟩ name ⟨type, hdeclared⟩
    refine ⟨widest, ?_⟩
    rw [TargetSchema.type?_eq_some_iff, hfind, hunifies.find?_fields_eq_some_iff]
    exact ⟨rfl, hwidest⟩

/-- The sources that a table reflects merge to the fields of the table. -/
theorem exists_merge (h : Reflects sources s) (hne : sources ≠ [])
    (hnames : ∀ source ∈ sources, source.names.Nodup) :
    ∃ u, UnifiedSchema.merge sources = .ok u ∧
      ∀ name, Column.find? u.fields name = s.field? name := by
  have hwidest : ∀ name, (∃ type, Declares sources name type) →
      ∃ type, IsWidest sources name type := by
    intro name hdeclares
    obtain ⟨type, hdeclared⟩ := hdeclares
    obtain ⟨current, hcurrent⟩ := h.present name type hdeclared
    exact ⟨current, h.widest name current hcurrent⟩
  obtain ⟨u, hmerge⟩ := (UnifiedSchema.exists_merge_eq_ok_iff hne hnames).2 hwidest
  refine ⟨u, hmerge, ?_⟩
  intro name
  apply Option.ext
  intro field
  rw [(UnifiedSchema.unifies_of_merge hnames hmerge).find?_fields_eq_some_iff,
    ← h.type?_eq_some_iff, TargetSchema.type?_eq_some_iff]
  constructor
  · intro hfound
    obtain ⟨rfl, hfield⟩ := hfound
    exact hfield
  · intro hfield
    have hname : field.name = name := Column.name_of_find? hfield
    subst hname
    exact ⟨rfl, hfield⟩

end Reflects

/-- A table that has taken all reported events in has the types of a new merge. -/
theorem merge_foldl_follow {sources : List SourceSchema} {u : UnifiedSchema} {s : TargetSchema}
    {arrivals : List (Timestamp × ChangeEvent)} (horigins : (sources.map (·.origin)).Nodup)
    (hnames : ∀ source ∈ sources, source.names.Nodup)
    (hmerge : UnifiedSchema.merge sources = .ok u) (hfields : s.fields = u.fields)
    (hreported : ChangeEvent.Reported sources (arrivals.map (·.2)))
    (haccepted : (ChangeEvent.processAt s arrivals).2.skipped = []) :
    ∃ later, UnifiedSchema.merge ((arrivals.map (·.2)).foldl ChangeEvent.follow sources) =
        .ok later ∧
      ∀ name, Column.find? later.fields name = (ChangeEvent.processAt s arrivals).1.field? name := by
  obtain ⟨hreflects, hnames'⟩ := ChangeEvent.reflects_processAt horigins hnames
    (Reflects.of_merge hnames hmerge hfields) hreported haccepted
  refine hreflects.exists_merge ?_ hnames'
  intro hnil
  have hlength := ChangeEvent.length_foldl_follow (arrivals.map (·.2)) sources
  rw [hnil] at hlength
  have hempty : sources = [] := List.length_eq_zero_iff.1 hlength.symm
  subst hempty
  cases hmerge

/-- A table with the columns of `UnifiedSchema.reconciledSources`. -/
def reconciledTable : TargetSchema where
  version := 0
  fields := [⟨"id", .integer 32⟩, ⟨"price", .decimal 12 4⟩, ⟨"note", .text⟩]
  primaryKeys := ["id"]
  updatedAt := default

/-- Events of all three sources, some of which the table covers already. -/
def reconciledEvents : List (Timestamp × ChangeEvent) :=
  [(default, ⟨⟨"shop", "orders_1"⟩,
     .alterColumnType "price" (.native "decimal(12,2)") (.native "decimal(12,3)")⟩),
   (default, ⟨⟨"shop", "orders_2"⟩, .addColumn "id" (.native "bigint")⟩),
   (default, ⟨⟨"shop", "orders_1"⟩, .alterColumnType "id" (.native "int") (.native "bigint")⟩),
   (default, ⟨⟨"shop", "orders_3"⟩,
     .alterColumnType "price" (.typed (.decimal 12 4)) (.typed (.decimal 14 5))⟩),
   (default, ⟨⟨"shop", "orders_3"⟩, .addColumn "paid" (.typed .boolean)⟩)]

theorem merge_foldl_follow_reconciled :
    ((UnifiedSchema.reconciledSources.map (·.origin)).Nodup ∧
      (∀ source ∈ UnifiedSchema.reconciledSources, source.names.Nodup) ∧
      ChangeEvent.Reported UnifiedSchema.reconciledSources (reconciledEvents.map (·.2)) ∧
      (ChangeEvent.processAt reconciledTable reconciledEvents).2.skipped = []) ∧
    ∃ u later, UnifiedSchema.merge UnifiedSchema.reconciledSources = .ok u ∧
      reconciledTable.fields = u.fields ∧
      UnifiedSchema.merge ((reconciledEvents.map (·.2)).foldl ChangeEvent.follow
        UnifiedSchema.reconciledSources) = .ok later ∧
      ∀ name, Column.find? later.fields name =
        (ChangeEvent.processAt reconciledTable reconciledEvents).1.field? name := by
  have horigins : (UnifiedSchema.reconciledSources.map (·.origin)).Nodup := by decide
  have hnames : ∀ source ∈ UnifiedSchema.reconciledSources, source.names.Nodup := by decide
  have hreported :
      ChangeEvent.Reported UnifiedSchema.reconciledSources (reconciledEvents.map (·.2)) := by
    decide
  have haccepted : (ChangeEvent.processAt reconciledTable reconciledEvents).2.skipped = [] := rfl
  obtain ⟨later, hlater⟩ := merge_foldl_follow horigins hnames rfl rfl hreported haccepted
  exact ⟨⟨horigins, hnames, hreported, haccepted⟩, _, later, rfl, rfl, hlater⟩

end ShardMerge
