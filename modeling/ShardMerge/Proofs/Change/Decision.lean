import ShardMerge.Change.Live

/-!
# What one decision does

Every decision on a change comes down to `accommodate`, which makes room for a requested type.

* `accommodate_eq_apply_iff`, `accommodate_eq_unchanged_iff` and `accommodate_eq_skip_iff` say when
  it takes which way out.  `decide_eq_apply_iff` says when a change makes a new version, and
  `isAccepted_decide_iff` when it is not skipped.
* `type?_advance` is the meaning of an event: the field that it asks about takes the wider one of
  two types, and every other field keeps its own.
-/

namespace ShardMerge

/-! ## Fields by name -/

namespace Column

theorem name_of_find? {columns : List Column} {name : String} {c : Column}
    (h : find? columns name = some c) : c.name = name := by
  simpa using List.find?_some h

theorem find?_concat (columns : List Column) (c : Column) (name : String) :
    find? (columns ++ [c]) name =
      (find? columns name).or (if c.name = name then some c else none) := by
  by_cases h : c.name = name <;> simp [find?, h]

theorem find?_retype (columns : List Column) (name other : String) (type : ColumnType) :
    find? (retype name type columns) other =
      if other = name then (find? columns name).map fun _ => { name, type }
      else find? columns other := by
  induction columns with
  | nil => simp [retype, find?]
  | cons c rest ih =>
    unfold retype find? at ih ⊢
    rw [List.map_cons, List.find?_cons, ih]
    by_cases hother : other = name
    · subst hother
      by_cases hname : c.name = other <;> simp [hname]
    · by_cases hname : c.name = name
      · simp [hname, hother, Ne.symm hother]
      · simp [hname, hother, List.find?_cons]

end Column

namespace TargetSchema

/-- The type of the field of a name. -/
def type? (s : TargetSchema) (name : String) : Option ColumnType :=
  (s.field? name).map (·.type)

theorem type?_next (s : TargetSchema) (fields : List Column) (now : Timestamp) (name : String) :
    (s.next fields now).type? name = (Column.find? fields name).map (·.type) :=
  rfl

theorem type?_eq_some_iff {s : TargetSchema} {name : String} {type : ColumnType} :
    s.type? name = some type ↔ s.field? name = some { name, type } := by
  unfold type?
  cases hfield : s.field? name with
  | none => simp
  | some field =>
    obtain ⟨fieldName, fieldType⟩ := field
    have hname : fieldName = name := Column.name_of_find? hfield
    simp [hname]

end TargetSchema

/-! ## Making room for a type -/

section Accommodate

variable {now : Timestamp} {s next : TargetSchema} {name : String} {type : ColumnType}
  {reason : SkipReason}

theorem accommodate_eq_apply_iff :
    accommodate now s name type = .apply next ↔
      (s.field? name = none ∧ s.next (s.fields ++ [⟨name, type⟩]) now = next) ∨
      ∃ field, s.field? name = some field ∧ type.fitsIn field.type = false ∧
        field.type.fitsIn type = true ∧ s.next (retype name type s.fields) now = next := by
  unfold accommodate
  cases hfield : s.field? name with
  | none => simp
  | some field =>
    by_cases hcovered : type.fitsIn field.type = true
    · simp [hcovered]
    · by_cases hwider : field.type.fitsIn type = true <;> simp [hcovered, hwider]

theorem accommodate_eq_unchanged_iff :
    accommodate now s name type = .unchanged ↔
      ∃ field, s.field? name = some field ∧ type.fitsIn field.type = true := by
  unfold accommodate
  cases hfield : s.field? name with
  | none => simp
  | some field =>
    by_cases hcovered : type.fitsIn field.type = true
    · simp [hcovered]
    · by_cases hwider : field.type.fitsIn type = true <;> simp [hcovered, hwider]

theorem accommodate_eq_skip_iff :
    accommodate now s name type = .skip reason ↔
      ∃ field, s.field? name = some field ∧ type.fitsIn field.type = false ∧
        field.type.fitsIn type = false ∧ .incompatibleType field.type type = reason := by
  unfold accommodate
  cases hfield : s.field? name with
  | none => simp
  | some field =>
    by_cases hcovered : type.fitsIn field.type = true
    · simp [hcovered]
    · by_cases hwider : field.type.fitsIn type = true <;> simp [hcovered, hwider]

/-- A request is turned down only if it does not compare with its field. -/
theorem isAccepted_accommodate_iff :
    (accommodate now s name type).isAccepted = true ↔
      ∀ field, s.field? name = some field →
        type.fitsIn field.type = true ∨ field.type.fitsIn type = true := by
  unfold accommodate
  cases hfield : s.field? name with
  | none => simp [Decision.isAccepted]
  | some field =>
    by_cases hcovered : type.fitsIn field.type = true
    · simp [hcovered, Decision.isAccepted]
    · by_cases hwider : field.type.fitsIn type = true <;>
        simp [hcovered, hwider, Decision.isAccepted]

end Accommodate

/-! ## The type of a field after a request -/

namespace ColumnType

/-- The type of a field once a request for it is decided: the wider of the two types, or the one
that it had where they do not compare.  A missing field takes the requested type. -/
def raise (current : Option ColumnType) (requested : ColumnType) : ColumnType :=
  match current with
  | none => requested
  | some type => (type.wider? requested).getD type

theorem raise_of_fitsIn {a b : ColumnType} (h : b.fitsIn a = true) : raise (some a) b = a := by
  simp [raise, wider?, h]

theorem raise_of_wider {a b : ColumnType} (h : a.fitsIn b = true) : raise (some a) b = b := by
  by_cases hba : b.fitsIn a = true
  · rw [raise_of_fitsIn hba]
    exact fitsIn_antisymm h hba
  · simp [raise, wider?, h, hba]

theorem raise_of_incomparable {a b : ColumnType} (hab : a.fitsIn b = false)
    (hba : b.fitsIn a = false) : raise (some a) b = a := by
  simp [raise, wider?, hab, hba]

/-- A field never becomes narrower. -/
theorem fitsIn_raise (a b : ColumnType) : a.fitsIn (raise (some a) b) = true := by
  by_cases hba : b.fitsIn a = true
  · simp [raise_of_fitsIn hba]
  · by_cases hab : a.fitsIn b = true
    · simpa [raise_of_wider hab] using hab
    · simp [raise_of_incomparable (by simpa using hab) (by simpa using hba)]

end ColumnType

/-- Making room for a type raises the type of the named field and of no other. -/
theorem type?_accommodate (now : Timestamp) (s : TargetSchema) (name other : String)
    (type : ColumnType) :
    ((accommodate now s name type).after s).type? other =
      if other = name then some (.raise (s.type? name) type) else s.type? other := by
  cases hdecision : accommodate now s name type with
  | apply next =>
    rcases accommodate_eq_apply_iff.1 hdecision with ⟨hfield, rfl⟩ | ⟨field, hfield, _, hwider, rfl⟩
    · have htype : s.type? name = none := by simp [TargetSchema.type?, hfield]
      rw [Decision.after, TargetSchema.type?_next, Column.find?_concat, htype]
      by_cases hother : other = name
      · subst hother
        simp [ColumnType.raise, show Column.find? s.fields other = none from hfield]
      · simp [hother, Ne.symm hother, TargetSchema.type?, TargetSchema.field?]
    · have htype : s.type? name = some field.type := by simp [TargetSchema.type?, hfield]
      rw [Decision.after, TargetSchema.type?_next, Column.find?_retype, htype,
        ColumnType.raise_of_wider hwider]
      by_cases hother : other = name
      · simp [hother, show Column.find? s.fields name = some field from hfield]
      · simp [hother, TargetSchema.type?, TargetSchema.field?]
  | unchanged =>
    obtain ⟨field, hfield, hcovered⟩ := accommodate_eq_unchanged_iff.1 hdecision
    have htype : s.type? name = some field.type := by simp [TargetSchema.type?, hfield]
    rw [Decision.after, htype, ColumnType.raise_of_fitsIn hcovered]
    by_cases hother : other = name <;> simp [hother, htype]
  | skip reason =>
    obtain ⟨field, hfield, hnarrower, hwider, _⟩ := accommodate_eq_skip_iff.1 hdecision
    have htype : s.type? name = some field.type := by simp [TargetSchema.type?, hfield]
    rw [Decision.after, htype, ColumnType.raise_of_incomparable hwider hnarrower]
    by_cases hother : other = name <;> simp [hother, htype]

/-! ## The decision on an event -/

theorem SchemaChange.decide_eq_apply_iff {now : Timestamp} {s next : TargetSchema}
    {change : SchemaChange} :
    change.decide now s = .apply next ↔
      ∃ type, change.request = .ok type ∧
        accommodate now s change.column type = .apply next := by
  unfold decide
  cases change.request <;> simp

/-- A change is accepted if it asks for a type that compares with that of its field, if there is
one. -/
theorem SchemaChange.isAccepted_decide_iff {now : Timestamp} {s : TargetSchema}
    {change : SchemaChange} :
    (change.decide now s).isAccepted = true ↔
      ∃ type, change.request = .ok type ∧ ∀ field, s.field? change.column = some field →
        type.fitsIn field.type = true ∨ field.type.fitsIn type = true := by
  unfold decide
  cases change.request with
  | error reason => simp [Decision.isAccepted]
  | ok type => simp [isAccepted_accommodate_iff]

/-! ## What a change asks for -/

theorem DeclaredType.resolve_eq_ok_iff {declared : DeclaredType} {type : ColumnType} :
    declared.resolve = .ok type ↔ declared.resolve? = some type := by
  unfold resolve
  cases declared.resolve? <;> simp

theorem SchemaChange.request_alterColumnType_eq_ok_iff {column : String}
    {oldType newType : DeclaredType} {type : ColumnType} :
    (alterColumnType column oldType newType).request = .ok type ↔
      newType.resolve? = some type ∧
        ∃ old, oldType.resolve? = some old ∧ old.fitsIn type = true := by
  unfold request DeclaredType.resolve
  cases hold : oldType.resolve? with
  | none => simp [hold, bind, Except.bind]
  | some old =>
    cases hnew : newType.resolve? with
    | none => simp [hold, hnew, bind, Except.bind]
    | some new =>
      by_cases hfits : old.fitsIn new = true
      · simp only [hold, hnew, bind, Except.bind, hfits, if_true]
        constructor
        · intro hok
          cases hok
          exact ⟨rfl, old, rfl, hfits⟩
        · intro hwider
          cases hwider.1
          rfl
      · simp only [hold, hnew, bind, Except.bind, hfits]
        constructor
        · intro hok
          cases hok
        · intro hwider
          obtain ⟨hsame, _, hold', hfits'⟩ := hwider
          cases hsame
          cases hold'
          exact absurd hfits' hfits

namespace ChangeEvent

/-- The type that an event asks for in the field of a name. -/
def request? (event : ChangeEvent) (name : String) : Option ColumnType :=
  match event.change.request with
  | .ok type => if event.change.column = name then some type else none
  | .error _ => none

theorem request?_eq_some_iff {event : ChangeEvent} {name : String} {type : ColumnType} :
    event.request? name = some type ↔
      event.change.column = name ∧ event.change.request = .ok type := by
  unfold request?
  cases event.change.request with
  | error reason => simp
  | ok requested => by_cases hname : event.change.column = name <;> simp [hname]

/-- An event raises the type of the field that it asks about and of no other. -/
theorem type?_advance (now : Timestamp) (s : TargetSchema) (event : ChangeEvent) (name : String) :
    (event.advance now s).type? name =
      match event.request? name with
      | some type => some (.raise (s.type? name) type)
      | none => s.type? name := by
  unfold advance SchemaChange.decide request?
  cases event.change.request with
  | error reason => rfl
  | ok type =>
    simp only [type?_accommodate]
    by_cases hname : event.change.column = name
    · simp [hname]
    · simp [hname, Ne.symm hname]

theorem type?_advance_of_request {now : Timestamp} {s : TargetSchema} {event : ChangeEvent}
    {type : ColumnType} (h : event.change.request = .ok type) (name : String) :
    (event.advance now s).type? name =
      if name = event.change.column then some (.raise (s.type? event.change.column) type)
      else s.type? name := by
  unfold advance SchemaChange.decide
  rw [h]
  exact type?_accommodate now s event.change.column name type

/-- A field that exists keeps existing, and never becomes narrower. -/
theorem type?_advance_of_some {now : Timestamp} {s : TargetSchema} {event : ChangeEvent}
    {name : String} {type : ColumnType} (h : s.type? name = some type) :
    ∃ later, (event.advance now s).type? name = some later ∧ type.fitsIn later = true := by
  rw [type?_advance, h]
  cases event.request? name with
  | none => exact ⟨type, rfl, ColumnType.fitsIn_refl type⟩
  | some requested => exact ⟨_, rfl, ColumnType.fitsIn_raise type requested⟩

end ChangeEvent

end ShardMerge
