import ShardMerge.Proofs.Json.Record
import ShardMerge.Proofs.Time.Timestamp
import ShardMerge.Schema.Wire

/-!
# Schemas that are read back

What is written for schemas, merges, drafts and versions is read back.

* `ColumnType.read?_write` reads every column type, and the records follow from their fields.
* `readsBack_unifiedSchema` includes merges with contenders, which are written only where there are
  some.
* `readText?_toJson` is the text of a version.
-/

namespace ShardMerge

open Json

variable {room : Nat}

/-! ## Column types -/

namespace ColumnType

/-- The kind of a column type that was written is found, with the rest of its fields. -/
theorem variant?_kind {kind : String} {members : List (String × Json)} (numbered : Bool)
    (hkind : kinds.contains kind = true) (hmembers : ∀ member ∈ members, member.1 ≠ "kind")
    (hatoms : membersAreWhole (room - 1) members = true) (hroom : room ≠ 0) :
    variant? "kind" kinds numbered room (.object (("kind", .string kind) :: members)) =
      some (kind, .object members) := by
  refine variant?_object hmembers hkind ?_ numbered
  simp [isWhole, membersAreWhole, hatoms, Nat.pos_of_ne_zero hroom]

/-- A column type is read back from an object of one level, whether or not kinds may be numbers. -/
theorem read?_write (numbered : Bool) (type : ColumnType) (hroom : room ≠ 0) :
    read? numbered room type.write = some type := by
  have hbyte (n : UInt8) := (readsBack_uint8 n).required?_present (Nat.zero_le (room - 1))
  have hlength (length : Option UInt32) :
      (Slot.present (toJson length)).optional? (room - 1) = some length :=
    (readsBack_option readsBack_uint32 nofun).optional?_present (Nat.zero_le (room - 1))
  cases type with
  | integer bits | float bits =>
    rw [write, read?, variant?_kind numbered (by decide) (by simp) rfl hroom]
    simp only [Option.bind_eq_bind, Option.bind_some]
    simp [slots?, slot?, hroom, hbyte]
  | string length | binary length =>
    have hatoms : membersAreWhole (room - 1) [("max_length", toJson length)] = true := by
      cases length <;> rfl
    rw [write, read?, variant?_kind numbered (by decide) (by simp) hatoms hroom]
    simp only [Option.bind_eq_bind, Option.bind_some]
    simp [slots?, slot?, hroom, hlength]
  | decimal precision scale =>
    rw [write, read?, variant?_kind numbered (by decide) (by simp) rfl hroom]
    simp only [Option.bind_eq_bind, Option.bind_some]
    simp [slots?, slot?, hroom, hbyte]
  | boolean | date | time =>
    rw [write, read?, variant?_kind numbered (by decide) (by simp) rfl hroom]
    simp only [Option.bind_eq_bind, Option.bind_some]
    simp [slots?, hroom]
  | timestamp zone =>
    rw [write, read?, variant?_kind numbered (by decide) (by simp) rfl hroom]
    simp only [Option.bind_eq_bind, Option.bind_some]
    simp [slots?, slot?, hroom, (readsBack_bool zone).required?_present (Nat.zero_le (room - 1))]

end ColumnType

theorem readsBack_columnType (type : ColumnType) : ReadsBack 1 type where
  exact := by
    cases type with
    | string length | binary length => cases length <;> rfl
    | _ => rfl
  read room hroom := ColumnType.read?_write false type (Nat.ne_of_gt hroom)

/-! ## Source tables -/

theorem readsBack_strings (names : List String) : ReadsBack 1 names :=
  .list fun name _ => readsBack_string name

theorem readsBack_tableName (t : TableName) : ReadsBack 1 t where
  exact := rfl
  read room hroom := by
    have hslots : slots? ["database", "table"] room (toJson t) =
        some [.present (toJson t.database), .present (toJson t.table)] :=
      slots?_object rfl (by decide) (by omega)
    simp only [JsonForm.ofJson?, hslots, Option.bind_eq_bind, Option.bind_some,
      (readsBack_string _).required?_present (Nat.zero_le _)]

theorem readsBack_column (c : Column) : ReadsBack 2 c where
  exact := isExact_object (by simp [isExact, (readsBack_columnType c.type).exact])
  read room hroom := by
    have hslots : slots? ["name", "column_type"] room (toJson c) =
        some [.present (toJson c.name), .present (toJson c.type)] :=
      slots?_object rfl (by decide) (by omega)
    simp only [JsonForm.ofJson?, hslots, Option.bind_eq_bind, Option.bind_some,
      (readsBack_string c.name).required?_present (Nat.zero_le _),
      (readsBack_columnType c.type).required?_present (show 1 ≤ room - 1 by omega)]

theorem readsBack_columns (columns : List Column) : ReadsBack 3 columns :=
  .list fun c _ => readsBack_column c

theorem readsBack_sourceSchema (s : SourceSchema) : ReadsBack 4 s where
  exact := isExact_object (by simp [(readsBack_tableName _).exact, (readsBack_columns _).exact,
    (readsBack_strings _).exact])
  read room hroom := by
    have hslots : slots? ["origin", "columns", "primary_key"] room (toJson s) =
        some [.present (toJson s.origin), .present (toJson s.columns),
          .present (toJson s.primaryKey)] :=
      slots?_object rfl (by decide) (by omega)
    simp only [JsonForm.ofJson?, hslots, Option.bind_eq_bind, Option.bind_some,
      (readsBack_tableName _).required?_present (show 1 ≤ room - 1 by omega),
      (readsBack_columns _).required?_present (show 3 ≤ room - 1 by omega),
      (readsBack_strings _).orElse?_present (show 1 ≤ room - 1 by omega)]

/-! ## Merges -/

theorem readsBack_contender (c : Contender) : ReadsBack 2 c where
  exact := isExact_object (by simp [(readsBack_columnType _).exact, (readsBack_tableName _).exact])
  read room hroom := by
    have hslots : slots? ["column_type", "origin"] room (toJson c) =
        some [.present (toJson c.type), .present (toJson c.origin)] :=
      slots?_object rfl (by decide) (by omega)
    simp only [JsonForm.ofJson?, hslots, Option.bind_eq_bind, Option.bind_some,
      (readsBack_columnType _).required?_present (show 1 ≤ room - 1 by omega),
      (readsBack_tableName _).required?_present (show 1 ≤ room - 1 by omega)]

/-- A column is read back whether or not it has contenders. -/
theorem readsBack_unifiedColumn (c : UnifiedColumn) : ReadsBack 4 c := by
  have hcontenders : ReadsBack 3 c.contenders := .list fun contender _ =>
    readsBack_contender contender
  have hname := readsBack_string c.name
  have htype := readsBack_columnType c.type
  have horigin := readsBack_tableName c.origin
  constructor
  case exact =>
    refine isExact_object ?_
    split
    · simp [isExact, htype.exact, horigin.exact]
    · simp [isExact, htype.exact, horigin.exact, hcontenders.exact]
  case read =>
    intro room hroom
    have hslots : slots? ["name", "column_type", "origin", "contenders"] room (toJson c) =
        some [.present (toJson c.name), .present (toJson c.type), .present (toJson c.origin),
          writtenSlot c.contenders.isEmpty c.contenders] := by
      have hne : room ≠ 0 := by omega
      by_cases hnone : c.contenders.isEmpty <;>
        simp [toJson, slots?, slot?, writtenSlot, hnone, hne]
    have hflat : 1 ≤ room - 1 := by omega
    simp only [JsonForm.ofJson?, hslots, Option.bind_eq_bind, Option.bind_some,
      hname.required?_present (Nat.zero_le _), htype.required?_present hflat,
      horigin.required?_present hflat,
      hcontenders.orElse?_writtenSlot (show 3 ≤ room - 1 by omega) List.isEmpty_iff.1]

theorem readsBack_unifiedSchema (u : UnifiedSchema) : ReadsBack 6 u := by
  have hcolumns : ReadsBack 5 u.columns := .list fun c _ => readsBack_unifiedColumn c
  have horigins : ReadsBack 2 u.origins := .list fun origin _ => readsBack_tableName origin
  have hkey := readsBack_strings u.primaryKey
  constructor
  case exact => exact isExact_object (by simp [hcolumns.exact, hkey.exact, horigins.exact])
  case read =>
    intro room hroom
    have hslots : slots? ["columns", "primary_key", "origins"] room (toJson u) =
        some [.present (toJson u.columns), .present (toJson u.primaryKey),
          .present (toJson u.origins)] :=
      slots?_object rfl (by decide) (by omega)
    simp only [JsonForm.ofJson?, hslots, Option.bind_eq_bind, Option.bind_some,
      hcolumns.required?_present (show 5 ≤ room - 1 by omega),
      hkey.required?_present (show 1 ≤ room - 1 by omega),
      horigins.required?_present (show 2 ≤ room - 1 by omega)]

/-! ## Target tables -/

theorem readsBack_options (options : Dict String) : ReadsBack 1 options :=
  readsBack_dict fun entry _ => readsBack_string entry.2

theorem readsBack_targetDraft (d : TargetDraft) : ReadsBack 4 d where
  exact := isExact_object (by simp [(readsBack_columns _).exact, (readsBack_strings _).exact,
    (readsBack_options _).exact])
  read room hroom := by
    have hslots : slots? ["columns", "primary_keys", "partition_keys", "options"] room
        (toJson d) =
        some [.present (toJson d.columns), .present (toJson d.primaryKeys),
          .present (toJson d.partitionKeys), .present (toJson d.options)] :=
      slots?_object rfl (by decide) (by omega)
    simp only [JsonForm.ofJson?, hslots, Option.bind_eq_bind, Option.bind_some,
      (readsBack_columns _).required?_present (show 3 ≤ room - 1 by omega),
      (readsBack_strings _).required?_present (show 1 ≤ room - 1 by omega),
      (readsBack_options _).required?_present (show 1 ≤ room - 1 by omega)]

theorem readsBack_timestamp {t : Timestamp} (h : t.Valid) : ReadsBack 0 t where
  exact := rfl
  read _ _ := by
    change Timestamp.read? (String.ofList t.write).toList = some t
    rw [String.toList_ofList, Timestamp.read?_write h]

/-- A version is read back from its JSON form. -/
theorem readsBack_targetSchema {s : TargetSchema} (h : s.updatedAt.Valid) : ReadsBack 4 s where
  exact := isExact_object (by simp [(readsBack_uint64 _).exact, (readsBack_columns _).exact,
    (readsBack_strings _).exact, (readsBack_options _).exact, (readsBack_timestamp h).exact])
  read room hroom := by
    have hslots : slots? ["schema_id", "fields", "primary_keys", "partition_keys", "options",
        "updated_at"] room (toJson s) =
        some [.present (toJson s.version), .present (toJson s.fields),
          .present (toJson s.primaryKeys), .present (toJson s.partitionKeys),
          .present (toJson s.options), .present (toJson s.updatedAt)] :=
      slots?_object rfl (by decide) (by omega)
    have hflat : 1 ≤ room - 1 := by omega
    simp only [JsonForm.ofJson?, hslots, Option.bind_eq_bind, Option.bind_some,
      (readsBack_uint64 _).required?_present (Nat.zero_le _),
      (readsBack_columns _).required?_present (show 3 ≤ room - 1 by omega),
      (readsBack_strings _).required?_present hflat, (readsBack_strings _).orElse?_present hflat,
      (readsBack_options _).orElse?_present hflat,
      (readsBack_timestamp h).required?_present (Nat.zero_le _)]

/-- The text of a version stands for it. -/
theorem readText?_toJson {s : TargetSchema} (h : s.updatedAt.Valid) :
    Json.readText? (toJson s).pretty = some s :=
  (readsBack_targetSchema h).readText?_pretty (by decide)

end ShardMerge
