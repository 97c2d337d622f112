import ShardMerge.Proofs.Change.Decision
import ShardMerge.Proofs.Lists

/-!
# Runs of events

What every version of a target schema keeps of the versions before it, however many events of
whatever kind lie between them.

* `Evolves` is the relation between an earlier and a later version.  `evolves_of_decide` is its
  step: one applied change, which appends a field or makes one wider.
* `Evolves.trans` puts steps together, and `evolves_processAt` is the run.  An event that is decided
  alone is a run of one event.
-/

namespace ShardMerge

namespace TargetSchema

/-- The names of the fields in order. -/
def names (s : TargetSchema) : List String := s.fields.map (·.name)

theorem field?_eq_none_iff {s : TargetSchema} {name : String} :
    s.field? name = none ↔ name ∉ s.names := by
  simp [field?, Column.find?, names]

end TargetSchema

theorem map_name_retype (name : String) (type : ColumnType) (fields : List Column) :
    (retype name type fields).map (·.name) = fields.map (·.name) := by
  rw [retype, List.map_map]
  apply List.map_congr_left
  intro field _
  by_cases h : field.name = name <;> simp [h]

theorem toNat_nextVersion {version : UInt64} (h : version.toNat + 1 < UInt64.size) :
    (nextVersion version).toNat = version.toNat + 1 := by
  rw [nextVersion, if_pos h, UInt64.toNat_add]
  exact Nat.mod_eq_of_lt h

/-! ## Earlier and later versions -/

/-- What holds between a version and a later one, with so many applied changes between them. -/
structure Evolves (earlier later : TargetSchema) (applied : Nat) : Prop where
  nodup : later.names.Nodup
  isPrefix : earlier.names <+: later.names
  /-- At each place there is room for what was there before. -/
  widened : ∀ (i : Nat) (field : Column), earlier.fields[i]? = some field →
    ∃ wider, later.fields[i]? = some wider ∧ field.type.fitsIn wider.type = true
  primaryKeys : later.primaryKeys = earlier.primaryKeys
  partitionKeys : later.partitionKeys = earlier.partitionKeys
  options : later.options = earlier.options
  /-- Versions count the applied changes as long as there are numbers for them. -/
  version : earlier.version.toNat + applied < UInt64.size →
    later.version.toNat = earlier.version.toNat + applied

namespace Evolves

theorem refl {s : TargetSchema} (h : s.names.Nodup) : Evolves s s 0 := by
  refine ⟨h, List.prefix_refl _, ?_, rfl, rfl, rfl, fun _ => rfl⟩
  intro i field hfield
  exact ⟨field, hfield, ColumnType.fitsIn_refl _⟩

theorem trans {a b c : TargetSchema} {m n : Nat} (hab : Evolves a b m) (hbc : Evolves b c n) :
    Evolves a c (m + n) := by
  refine ⟨hbc.nodup, hab.isPrefix.trans hbc.isPrefix, ?_, hbc.primaryKeys.trans hab.primaryKeys,
    hbc.partitionKeys.trans hab.partitionKeys, hbc.options.trans hab.options, ?_⟩
  · intro i field hfield
    obtain ⟨between, hbetween, hfits⟩ := hab.widened i field hfield
    obtain ⟨wider, hwider, hfits'⟩ := hbc.widened i between hbetween
    exact ⟨wider, hwider, ColumnType.fitsIn_trans hfits hfits'⟩
  · intro hlt
    have hb := hab.version (by omega)
    have hc := hbc.version (by omega)
    omega

/-- A missing field is appended. -/
theorem append {s : TargetSchema} (h : s.names.Nodup) {name : String} (hnew : name ∉ s.names)
    (type : ColumnType) (now : Timestamp) :
    Evolves s (s.next (s.fields ++ [⟨name, type⟩]) now) 1 := by
  refine ⟨?_, ?_, ?_, rfl, rfl, rfl, toNat_nextVersion⟩
  · simp only [TargetSchema.names, TargetSchema.next, List.map_append, List.map_singleton]
    rw [← List.concat_eq_append]
    exact h.concat hnew
  · simp [TargetSchema.names, TargetSchema.next]
  · intro i field hfield
    have hi : i < s.fields.length := (List.getElem?_eq_some_iff.1 hfield).1
    refine ⟨field, ?_, ColumnType.fitsIn_refl _⟩
    rw [TargetSchema.next, List.getElem?_append_left hi, hfield]

/-- The field of a name is made wider where it stands. -/
theorem retype {s : TargetSchema} (h : s.names.Nodup) {field : Column}
    (hfield : s.field? field.name = some field) {type : ColumnType}
    (hwider : field.type.fitsIn type = true) (now : Timestamp) :
    Evolves s (s.next (retype field.name type s.fields) now) 1 := by
  have hnames : (s.next (ShardMerge.retype field.name type s.fields) now).names = s.names :=
    map_name_retype _ _ _
  refine ⟨?_, ?_, ?_, rfl, rfl, rfl, toNat_nextVersion⟩
  · rw [hnames]
    exact h
  · exact hnames ▸ List.prefix_refl s.names
  · intro i other hother
    simp only [TargetSchema.next, ShardMerge.retype, List.getElem?_map, hother, Option.map_some]
    by_cases hname : other.name = field.name
    · -- Names do not repeat, so this is the field itself.
      have hsame : s.field? other.name = some other :=
        find?_of_mem h (List.mem_of_getElem? hother)
      rw [hname, hfield] at hsame
      cases hsame
      exact ⟨_, rfl, by simpa using hwider⟩
    · exact ⟨_, rfl, by simp [hname]⟩

end Evolves

/-- One decision makes no new version or one that evolves from the current one by one change. -/
theorem evolves_of_decide {now : Timestamp} {s next : TargetSchema} {change : SchemaChange}
    (hs : s.names.Nodup) (h : change.decide now s = .apply next) : Evolves s next 1 := by
  obtain ⟨type, _, happly⟩ := SchemaChange.decide_eq_apply_iff.1 h
  rcases accommodate_eq_apply_iff.1 happly with ⟨hfield, rfl⟩ | ⟨field, hfield, _, hwider, rfl⟩
  · exact Evolves.append hs (TargetSchema.field?_eq_none_iff.1 hfield) type now
  · have hname : field.name = change.column := Column.name_of_find? hfield
    rw [← hname] at hfield ⊢
    exact Evolves.retype hs hfield hwider now

/-! ## Runs -/

theorem ChangeReport.skipped_cons_eq_nil_iff {event : ChangeEvent} {decision : Decision}
    {r : ChangeReport} :
    (r.cons event decision).skipped = [] ↔ decision.isAccepted = true ∧ r.skipped = [] := by
  cases decision <;> simp [cons, Decision.isAccepted]

namespace ChangeEvent

@[simp] theorem processAt_nil (s : TargetSchema) : processAt s [] = (s, {}) := rfl

theorem processAt_cons (s : TargetSchema) (now : Timestamp) (event : ChangeEvent)
    (events : List (Timestamp × ChangeEvent)) :
    processAt s ((now, event) :: events) =
      ((processAt (event.advance now s) events).1,
        (processAt (event.advance now s) events).2.cons event (event.change.decide now s)) := rfl

/-- A run goes on from where its first part leads. -/
theorem processAt_append (s : TargetSchema) (first later : List (Timestamp × ChangeEvent)) :
    (processAt s (first ++ later)).1 = (processAt (processAt s first).1 later).1 := by
  induction first generalizing s with
  | nil => rfl
  | cons arrival first ih =>
    rw [List.cons_append, processAt_cons, processAt_cons]
    exact ih _

/-- A run evolves its schema by the changes that it reports as applied. -/
theorem evolves_processAt {s : TargetSchema} (hs : s.names.Nodup)
    (events : List (Timestamp × ChangeEvent)) :
    Evolves s (processAt s events).1 (processAt s events).2.applied.length := by
  induction events generalizing s with
  | nil => exact Evolves.refl hs
  | cons arrival events ih =>
    obtain ⟨now, event⟩ := arrival
    rw [processAt_cons]
    unfold advance
    cases hdecision : event.change.decide now s with
    | apply next =>
      have hstep := evolves_of_decide hs hdecision
      have hrun := hstep.trans (ih hstep.nodup)
      simpa [Decision.after, ChangeReport.cons, Nat.add_comm] using hrun
    | unchanged => exact ih hs
    | skip reason => exact ih hs

/-- Of any two versions of a run the later one evolves from the earlier one by the changes that
were applied between them. -/
theorem evolves_between {s : TargetSchema} (hs : s.names.Nodup)
    (before between : List (Timestamp × ChangeEvent)) :
    Evolves (processAt s before).1 (processAt s (before ++ between)).1
      (processAt (processAt s before).1 between).2.applied.length := by
  have hearlier := evolves_processAt hs before
  rw [processAt_append]
  exact evolves_processAt hearlier.nodup between

/-- A table of two fields. -/
def ordersTable : TargetSchema where
  version := 0
  fields := [⟨"id", .integer 32⟩, ⟨"price", .decimal 10 2⟩]
  primaryKeys := ["id"]
  updatedAt := default

/-- Events of all kinds from two sources: the field `id` becomes wider, the types asked for in
`price` do not all compare, and a field `note` is added. -/
def ordersEvents : List (Timestamp × ChangeEvent) :=
  [(default, ⟨⟨"shop", "orders_1"⟩, .alterColumnType "id" (.native "int") (.native "bigint")⟩),
   (default, ⟨⟨"shop", "orders_1"⟩, .addColumn "price" (.typed (.decimal 8 4))⟩),
   (default, ⟨⟨"shop", "orders_2"⟩, .dropColumn "id"⟩),
   (default, ⟨⟨"shop", "orders_2"⟩, .addColumn "price" (.typed (.decimal 12 4))⟩),
   (default, ⟨⟨"shop", "orders_2"⟩, .addColumn "note" (.native "hyperloglog")⟩),
   (default, ⟨⟨"shop", "orders_2"⟩, .addColumn "note" (.native "varchar(20)")⟩)]

theorem evolves_between_orders :
    ordersTable.names.Nodup ∧
      Evolves (processAt ordersTable (ordersEvents.take 1)).1
        (processAt ordersTable (ordersEvents.take 1 ++ ordersEvents.drop 1)).1 2 := by
  have hnames : ordersTable.names.Nodup := by decide
  exact ⟨hnames, evolves_between hnames (ordersEvents.take 1) (ordersEvents.drop 1)⟩

end ChangeEvent

end ShardMerge
