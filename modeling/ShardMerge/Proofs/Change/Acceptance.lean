import ShardMerge.Proofs.Change.Run

/-!
# Accepted changes

Which changes of a target schema are accepted, and what the schema is afterwards.

* `SchemaChange.Requests` reads the requested type off a change, and `request_eq_ok_iff` says that
  it is the one that is computed.
* `MakesRoom` is the frame of an accepted change: what the field of its column becomes, and that no
  other field changes.  `makesRoom_append`, `makesRoom_retype` and `makesRoom_refl_iff` are its three
  ways to hold, one for each branch of `accommodate`.
* `decide_outcome` puts them together.
-/

namespace ShardMerge

/-- One of two types fits in the other. -/
def ColumnType.Comparable (a b : ColumnType) : Prop :=
  a.fitsIn b = true ∨ b.fitsIn a = true

/-- A change asks for a type of its column: the one it adds, or the one that it widens to. -/
inductive SchemaChange.Requests : SchemaChange → ColumnType → Prop where
  | add {column : String} {declared : DeclaredType} {type : ColumnType}
      (h : declared.resolve? = some type) : Requests (.addColumn column declared) type
  | widen {column : String} {oldType newType : DeclaredType} {old type : ColumnType}
      (hold : oldType.resolve? = some old) (hnew : newType.resolve? = some type)
      (hfits : old.fitsIn type = true) : Requests (.alterColumnType column oldType newType) type

theorem SchemaChange.request_eq_ok_iff {change : SchemaChange} {type : ColumnType} :
    change.request = .ok type ↔ change.Requests type := by
  cases change with
  | addColumn column declared =>
    rw [request, DeclaredType.resolve_eq_ok_iff]
    constructor
    · exact .add
    · rintro ⟨h⟩
      exact h
  | alterColumnType column oldType newType =>
    rw [request_alterColumnType_eq_ok_iff]
    constructor
    · rintro ⟨hnew, old, hold, hfits⟩
      exact .widen hold hnew hfits
    · intro h
      cases h with
      | widen hold hnew hfits => exact ⟨hnew, _, hold, hfits⟩
  | dropColumn column =>
    constructor
    · intro h
      cases h
    · intro h
      cases h

/-! ## The frame of a change -/

/-- The later fields have room for a type in the column of a name, and differ from the earlier ones
in nothing else. -/
structure MakesRoom (name : String) (type : ColumnType) (earlier later : List Column) : Prop where
  /-- A column that is missing is appended. -/
  appended : name ∉ earlier.map (·.name) → later = earlier ++ [⟨name, type⟩]
  /-- A column that is there takes the wider of the two types, where it stands. -/
  widened : ∀ (i : Nat) (current : ColumnType), earlier[i]? = some ⟨name, current⟩ →
    ∃ wider, current.wider? type = some wider ∧ later[i]? = some ⟨name, wider⟩
  /-- Every other field keeps its name, its type and its place. -/
  kept : ∀ (i : Nat) (field : Column), earlier[i]? = some field → field.name ≠ name →
    later[i]? = some field
  length : name ∈ earlier.map (·.name) → later.length = earlier.length

variable {name : String} {type : ColumnType} {fields : List Column}

theorem makesRoom_append (h : name ∉ fields.map (·.name)) :
    MakesRoom name type fields (fields ++ [⟨name, type⟩]) := by
  refine ⟨fun _ => rfl, ?_, ?_, fun hmem => absurd hmem h⟩
  · intro i current hfield
    exact absurd (List.mem_map_of_mem (List.mem_of_getElem? hfield)) h
  · intro i field hfield _
    rw [List.getElem?_append_left (List.getElem?_eq_some_iff.1 hfield).1, hfield]

theorem makesRoom_retype (hnames : (fields.map (·.name)).Nodup) {current : ColumnType}
    (hcurrent : Column.find? fields name = some ⟨name, current⟩)
    (hwider : current.wider? type = some type) :
    MakesRoom name type fields (retype name type fields) := by
  have hmem : name ∈ fields.map (·.name) :=
    List.mem_map_of_mem (List.mem_of_find?_eq_some hcurrent)
  refine ⟨fun h => absurd hmem h, ?_, ?_, fun _ => by simp [retype]⟩
  · intro i other hother
    -- Names do not repeat, so this is the field that was found.
    have hsame : Column.find? fields name = some ⟨name, other⟩ :=
      find?_of_mem hnames (List.mem_of_getElem? hother)
    rw [hcurrent] at hsame
    cases hsame
    exact ⟨type, hwider, by simp [retype, hother]⟩
  · intro i field hfield hname
    simp [retype, hfield, hname]

/-- No field has to change if and only if the column is there and the type fits in it. -/
theorem makesRoom_refl_iff (hnames : (fields.map (·.name)).Nodup) :
    MakesRoom name type fields fields ↔
      ∃ current, Column.find? fields name = some ⟨name, current⟩ ∧
        type.fitsIn current = true := by
  constructor
  · intro h
    have hmem : name ∈ fields.map (·.name) := by
      by_contra hmissing
      have hlength := congrArg List.length (h.appended hmissing)
      simp at hlength
    obtain ⟨field, hfield, rfl⟩ := List.mem_map.1 hmem
    obtain ⟨i, hi⟩ := List.mem_iff_getElem?.1 hfield
    obtain ⟨wider, hwider, hsame⟩ := h.widened i field.type hi
    rw [hi] at hsame
    have htype : field.type = wider := congrArg Column.type (Option.some.inj hsame)
    refine ⟨field.type, find?_of_mem hnames hfield, ?_⟩
    rw [htype]
    exact (ColumnType.fitsIn_of_wider? hwider).2.2
  · rintro ⟨current, hcurrent, hfits⟩
    have hmem : name ∈ fields.map (·.name) :=
      List.mem_map_of_mem (List.mem_of_find?_eq_some hcurrent)
    refine ⟨fun h => absurd hmem h, ?_, fun _ _ hfield _ => hfield, fun _ => rfl⟩
    intro i other hother
    have hsame : Column.find? fields name = some ⟨name, other⟩ :=
      find?_of_mem hnames (List.mem_of_getElem? hother)
    rw [hcurrent] at hsame
    cases hsame
    exact ⟨current, by simp [ColumnType.wider?, hfits], hother⟩

/-! ## The outcome of a change -/

variable {now : Timestamp} {s : TargetSchema} {change : SchemaChange}

/-- A change is accepted if it asks for a type that compares with that of its column, if the schema
has that column. -/
theorem isAccepted_decide_iff_requests :
    (change.decide now s).isAccepted = true ↔
      ∃ type, change.Requests type ∧
        ∀ current, s.type? change.column = some current → type.Comparable current := by
  rw [SchemaChange.isAccepted_decide_iff]
  simp only [SchemaChange.request_eq_ok_iff, TargetSchema.type?, Option.map_eq_some_iff]
  constructor
  · rintro ⟨type, hrequest, hfield⟩
    refine ⟨type, hrequest, ?_⟩
    rintro current ⟨field, hfound, rfl⟩
    exact hfield field hfound
  · rintro ⟨type, hrequest, hcurrent⟩
    exact ⟨type, hrequest, fun field hfound => hcurrent field.type ⟨field, hfound, rfl⟩⟩

/-- What an accepted change leaves: room for what it asks for, and everything else as it was. -/
structure Accepts (s : TargetSchema) (change : SchemaChange) (type : ColumnType)
    (decision : Decision) : Prop where
  fields : MakesRoom change.column type s.fields (decision.after s).fields
  primaryKeys : (decision.after s).primaryKeys = s.primaryKeys
  partitionKeys : (decision.after s).partitionKeys = s.partitionKeys
  options : (decision.after s).options = s.options
  /-- A version is made only if the fields do not have room as they are. -/
  unchanged : decision = .unchanged ↔ MakesRoom change.column type s.fields s.fields

theorem accepts_decide (hnames : s.names.Nodup) {type : ColumnType} (hrequest : change.Requests type)
    (haccepted : (change.decide now s).isAccepted = true) :
    Accepts s change type (change.decide now s) := by
  have hdecide : change.decide now s = accommodate now s change.column type := by
    rw [SchemaChange.decide, SchemaChange.request_eq_ok_iff.2 hrequest]
  have hcovered : accommodate now s change.column type = .unchanged ↔
      MakesRoom change.column type s.fields s.fields := by
    rw [makesRoom_refl_iff hnames, accommodate_eq_unchanged_iff]
    constructor
    · rintro ⟨field, hfield, hfits⟩
      have hname : field.name = change.column := Column.name_of_find? hfield
      rw [← hname] at hfield ⊢
      exact ⟨field.type, hfield, hfits⟩
    · rintro ⟨current, hfield, hfits⟩
      exact ⟨_, hfield, hfits⟩
  rw [hdecide] at haccepted ⊢
  cases hdecision : accommodate now s change.column type with
  | unchanged =>
    exact ⟨hcovered.1 hdecision, rfl, rfl, rfl, hdecision ▸ hcovered⟩
  | skip reason =>
    rw [hdecision] at haccepted
    cases haccepted
  | apply next =>
    refine ⟨?_, ?_, ?_, ?_, hdecision ▸ hcovered⟩
    all_goals
      rcases accommodate_eq_apply_iff.1 hdecision with
        ⟨hfield, rfl⟩ | ⟨field, hfield, hfits, hwider, rfl⟩
    case refine_1.inl => exact makesRoom_append (TargetSchema.field?_eq_none_iff.1 hfield)
    case refine_1.inr =>
      have hname : field.name = change.column := Column.name_of_find? hfield
      rw [← hname] at hfield ⊢
      exact makesRoom_retype hnames hfield (by simp [ColumnType.wider?, hfits, hwider])
    all_goals rfl

/-- A change is accepted exactly if its types are understood, it widens, and the type that it asks
for compares with that of its column, if there is one.  Then the column has the wider of the two
afterwards, nothing else is different, and no version is made if the fields had room already. -/
theorem decide_outcome (hnames : s.names.Nodup) (now : Timestamp) (change : SchemaChange) :
    ((change.decide now s).isAccepted = true ↔
        ∃ type, change.Requests type ∧
          ∀ current, s.type? change.column = some current → type.Comparable current) ∧
      ∀ type, change.Requests type → (change.decide now s).isAccepted = true →
        Accepts s change type (change.decide now s) :=
  ⟨isAccepted_decide_iff_requests, fun _ => accepts_decide hnames⟩

/-- A change of a column whose old type the table holds with a greater precision and a smaller
scale. -/
def widenPrice : SchemaChange :=
  .alterColumnType "price" (.native "decimal(8,4)") (.typed (.decimal 12 4))

theorem decide_outcome_price :
    ChangeEvent.ordersTable.names.Nodup ∧ widenPrice.Requests (.decimal 12 4) ∧
      (widenPrice.decide default ChangeEvent.ordersTable).isAccepted = true ∧
      Accepts ChangeEvent.ordersTable widenPrice (.decimal 12 4)
        (widenPrice.decide default ChangeEvent.ordersTable) := by
  have hnames : ChangeEvent.ordersTable.names.Nodup := by decide
  have hold : (DeclaredType.native "decimal(8,4)").resolve? = some (.decimal 8 4) := rfl
  have hrequest : widenPrice.Requests (.decimal 12 4) := .widen hold rfl rfl
  have houtcome := decide_outcome hnames default widenPrice
  have haccepted : (widenPrice.decide default ChangeEvent.ordersTable).isAccepted = true := by
    refine houtcome.1.2 ⟨_, hrequest, ?_⟩
    intro current hcurrent
    cases hcurrent
    exact .inr rfl
  exact ⟨hnames, hrequest, haccepted, houtcome.2 _ hrequest haccepted⟩

end ShardMerge
