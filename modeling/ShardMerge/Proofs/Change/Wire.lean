import ShardMerge.Change.Wire
import ShardMerge.Proofs.Schema.Wire

/-!
# Changes that are read back

What is written for a change is read back, by itself or among the fields of its event.

* `readsBack_declaredType` keeps the two kinds of declared types apart.  What is written for a
  column type is no text, and no text is a column type.
* `SchemaChange.read?_members` reads the fields of a change, whether or not its operation may be a
  number, and `readsBack_changeEvent` finds them beside the origin of the event.
-/

namespace ShardMerge

open Json

variable {room : Nat}

/-! ## Declared types -/

/-- A column type takes one level, and nothing in it is garbled. -/
theorem ColumnType.isWhole_write (type : ColumnType) (hroom : room ≠ 0) :
    type.write.isWhole room = true := by
  have hpos : 0 < room := Nat.pos_of_ne_zero hroom
  cases type with
  | string length | binary length =>
    cases length <;> simp [write, isWhole, membersAreWhole, toJson, hpos]
  | _ => simp [write, isWhole, membersAreWhole, toJson, hpos]

theorem isWhole_declaredType (type : DeclaredType) (hroom : room ≠ 0) :
    (toJson type).isWhole room = true := by
  cases type with
  | typed type => exact type.isWhole_write hroom
  | native definition => rfl

theorem readsBack_declaredType (type : DeclaredType) : ReadsBack 1 type where
  exact := by
    cases type with
    | typed type => exact (readsBack_columnType type).exact
    | native definition => rfl
  read room hroom := by
    have hne : room ≠ 0 := by omega
    simp only [JsonForm.ofJson?, isWhole_declaredType type hne, if_true]
    cases type with
    | typed type =>
      have hread : ColumnType.read? true room (toJson (DeclaredType.typed type)) = some type :=
        ColumnType.read?_write true type hne
      rw [hread]
    | native definition => rfl

/-! ## Changes -/

namespace SchemaChange

/-- The operation of a change that was written is found, with the rest of its fields. -/
theorem variant?_operation {operation : String} {fields : List (String × Json)} (numbered : Bool)
    (hoperation : operations.contains operation = true)
    (hfields : ∀ field ∈ fields, field.1 ≠ "op")
    (hwhole : membersAreWhole (room - 1) fields = true) (hroom : room ≠ 0) :
    variant? "op" operations numbered room (.object (("op", .string operation) :: fields)) =
      some (operation, .object fields) := by
  refine variant?_object hfields hoperation ?_ numbered
  simp [isWhole, membersAreWhole, hwhole, Nat.pos_of_ne_zero hroom]

/-- A change is read back from its members. -/
theorem read?_members (numbered : Bool) (change : SchemaChange) (hroom : 2 ≤ room) :
    read? numbered room (.object change.members) = some change := by
  have hne : room ≠ 0 := by omega
  have hcolumn (column : String) :
      (Slot.present (.string column)).required? (room - 1) = some column :=
    (readsBack_string column).required?_present (Nat.zero_le _)
  have htype (type : DeclaredType) :=
    (readsBack_declaredType type).required?_present (show 1 ≤ room - 1 by omega)
  have hwhole (type : DeclaredType) : (toJson type).isWhole (room - 1) = true :=
    isWhole_declaredType type (by omega)
  cases change with
  | addColumn column type =>
    have hfields : membersAreWhole (room - 1)
        [("column", .string column), ("column_type", toJson type)] = true := by
      simp [membersAreWhole, isWhole, hwhole]
    rw [members, read?, variant?_operation numbered (by decide) (by simp) hfields hne]
    simp only [Option.bind_eq_bind, Option.bind_some]
    simp [slots?, slot?, hne, hcolumn, htype]
  | alterColumnType column oldType newType =>
    have hfields : membersAreWhole (room - 1) [("column", .string column),
        ("old_type", toJson oldType), ("new_type", toJson newType)] = true := by
      simp [membersAreWhole, isWhole, hwhole]
    rw [members, read?, variant?_operation numbered (by decide) (by simp) hfields hne]
    simp only [Option.bind_eq_bind, Option.bind_some]
    simp [slots?, slot?, hne, hcolumn, htype]
  | dropColumn column =>
    rw [members, read?, variant?_operation numbered (by decide) (by simp) rfl hne]
    simp only [Option.bind_eq_bind, Option.bind_some]
    simp [slots?, slot?, hne, hcolumn]

theorem isExact_of_mem_members (change : SchemaChange) :
    ∀ member ∈ change.members, member.2.isExact = true := by
  have htype (type : DeclaredType) := (readsBack_declaredType type).exact
  cases change <;> simp [members, isExact, htype]

/-- No field of a change has the name of the origin of its event. -/
theorem ne_origin_of_mem_members (change : SchemaChange) :
    ∀ member ∈ change.members, member.1 ≠ "origin" := by
  cases change <;> simp [members]

end SchemaChange

theorem readsBack_schemaChange (change : SchemaChange) : ReadsBack 2 change where
  exact := isExact_object change.isExact_of_mem_members
  read _ hroom := SchemaChange.read?_members false change hroom

/-! ## Events -/

/-- An event is read back, although its change has no object of its own. -/
theorem readsBack_changeEvent (event : ChangeEvent) : ReadsBack 2 event where
  exact := isExact_object (List.forall_mem_cons.2
    ⟨(readsBack_tableName event.origin).exact, event.change.isExact_of_mem_members⟩)
  read room hroom := by
    have horigin : slot? (("origin", toJson event.origin) :: event.change.members) "origin" =
        some (.present (toJson event.origin)) := by
      rw [slot?, filter_tag event.change.ne_origin_of_mem_members]
    change (if room = 0 then none else _) = some event
    rw [if_neg (by omega)]
    simp only [horigin, filter_not_tag event.change.ne_origin_of_mem_members,
      Option.bind_eq_bind, Option.bind_some,
      (readsBack_tableName event.origin).required?_present (show 1 ≤ room - 1 by omega),
      SchemaChange.read?_members true event.change hroom]

end ShardMerge
