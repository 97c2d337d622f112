import ShardMerge.Proofs.Change.Wire
import ShardMerge.Source.Settings
import ShardMerge.Source.Snapshot

/-!
# The data model is read back

Every value of the data model is read back from its JSON text, in one line or over several.

* `readsBack_rawColumn` and `readsBack_snapshot` are records with fields that are left out where
  they hold nothing.
* `readsBack_syncConfig` and `readsBack_connectionSettings` are the settings.  A span is read back
  since its nanoseconds are below a second (`Span.carry?_nanos`).
* `roundTrips_dataModel` puts all types together.
-/

namespace ShardMerge

open Json

/-! ## Raw tables and snapshots -/

theorem readsBack_rawColumn (c : RawColumn) : ReadsBack 1 c := by
  obtain ⟨name, native, precision, scale⟩ := c
  have hsize (size : Option UInt32) : ReadsBack 0 size := readsBack_option readsBack_uint32 nofun
  constructor
  case exact => cases precision <;> cases scale <;> rfl
  case read =>
    intro room hroom
    have hslots : slots? ["name", "native_type", "precision", "scale"] room
        (toJson (RawColumn.mk name ⟨native, precision, scale⟩)) =
        some [.present (toJson name), .present (toJson native),
          writtenSlot precision.isNone precision, writtenSlot scale.isNone scale] := by
      have hne : room ≠ 0 := by omega
      cases precision <;> cases scale <;> simp [toJson, slots?, slot?, writtenSlot, hne]
    simp only [JsonForm.ofJson?, hslots, Option.bind_eq_bind, Option.bind_some,
      (readsBack_string _).required?_present (Nat.zero_le _),
      (hsize _).orElse?_writtenSlot (Nat.zero_le _) Option.isNone_iff_eq_none.1]

theorem readsBack_rawTable (t : RawTable) : ReadsBack 3 t := by
  have hcolumns : ReadsBack 2 t.columns := .list fun c _ => readsBack_rawColumn c
  have hkey := readsBack_strings t.primaryKey
  constructor
  case exact => exact isExact_object (by simp [hcolumns.exact, hkey.exact])
  case read =>
    intro room hroom
    have hslots : slots? ["columns", "primary_key"] room (toJson t) =
        some [.present (toJson t.columns), .present (toJson t.primaryKey)] :=
      slots?_object rfl (by decide) (by omega)
    simp only [JsonForm.ofJson?, hslots, Option.bind_eq_bind, Option.bind_some,
      hcolumns.required?_present (show 2 ≤ room - 1 by omega),
      hkey.orElse?_present (show 1 ≤ room - 1 by omega)]

theorem readsBack_snapshot (s : Snapshot) : ReadsBack 6 s := by
  have hdatabases : ReadsBack 5 s.databases := readsBack_dict fun database _ =>
    readsBack_dict fun table _ => readsBack_rawTable table.2
  have hsystem := readsBack_strings s.systemDatabases
  constructor
  case exact =>
    refine isExact_object ?_
    split
    · simp [hdatabases.exact]
    · simp [hdatabases.exact, hsystem.exact]
  case read =>
    intro room hroom
    have hslots : slots? ["databases", "system_databases"] room (toJson s) =
        some [.present (toJson s.databases),
          writtenSlot s.systemDatabases.isEmpty s.systemDatabases] := by
      have hne : room ≠ 0 := by omega
      by_cases hnone : s.systemDatabases.isEmpty <;>
        simp [toJson, slots?, slot?, writtenSlot, hnone, hne]
    simp only [JsonForm.ofJson?, hslots, Option.bind_eq_bind, Option.bind_some,
      hdatabases.orElse?_present (show 5 ≤ room - 1 by omega),
      hsystem.orElse?_writtenSlot (show 1 ≤ room - 1 by omega) List.isEmpty_iff.1]

/-! ## Settings -/

theorem readsBack_patternKind (kind : PatternKind) : ReadsBack 0 kind := by
  cases kind <;> exact ⟨rfl, fun _ _ => rfl⟩

theorem readsBack_discoveryConfig (c : DiscoveryConfig) : ReadsBack 1 c where
  exact := rfl
  read room hroom := by
    have hslots : slots? ["database_pattern", "table_pattern", "matcher", "max_concurrency",
        "include_system"] room (toJson c) =
        some [.present (toJson c.databasePattern), .present (toJson c.tablePattern),
          .present (toJson c.kind), .present (toJson c.maxConcurrency),
          .present (toJson c.includeSystem)] :=
      slots?_object rfl (by decide) (by omega)
    simp only [JsonForm.ofJson?, hslots, Option.bind_eq_bind, Option.bind_some,
      (readsBack_string _).required?_present (Nat.zero_le _),
      (readsBack_patternKind _).orElse?_present (Nat.zero_le _),
      (readsBack_uint64 _).required?_present (Nat.zero_le _),
      (readsBack_bool _).orElse?_present (Nat.zero_le _)]

theorem readsBack_syncConfig (c : SyncConfig) : ReadsBack 2 c where
  exact := isExact_object (by simp [(readsBack_discoveryConfig _).exact,
    (readsBack_tableName _).exact, (readsBack_strings _).exact, (readsBack_options _).exact,
    (readsBack_bool _).exact])
  read room hroom := by
    have hslots : slots? ["discovery", "target", "primary_keys", "partition_keys",
        "table_options", "dry_run"] room (toJson c) =
        some [.present (toJson c.discovery), .present (toJson c.target),
          .present (toJson c.primaryKeys), .present (toJson c.partitionKeys),
          .present (toJson c.tableOptions), .present (toJson c.dryRun)] :=
      slots?_object rfl (by decide) (by omega)
    have hflat : 1 ≤ room - 1 := by omega
    simp only [JsonForm.ofJson?, hslots, Option.bind_eq_bind, Option.bind_some,
      (readsBack_discoveryConfig _).required?_present hflat,
      (readsBack_tableName _).required?_present hflat,
      (readsBack_strings _).orElse?_present hflat, (readsBack_options _).orElse?_present hflat,
      (readsBack_bool _).orElse?_present (Nat.zero_le _)]

namespace Span

theorem toNat_ofNat_nanos (t : Span) : (UInt32.ofNat t.nanos).toNat = t.nanos :=
  UInt32.toNat_ofNat_of_lt' (Nat.lt_trans t.nanos_lt (by decide))

/-- Nanoseconds below a second carry nothing. -/
theorem carry?_nanos (t : Span) : carry? t.seconds (UInt32.ofNat t.nanos) = some t := by
  have hcarry : t.seconds.toNat + t.nanos / 1000000000 = t.seconds.toNat := by
    rw [Nat.div_eq_of_lt t.nanos_lt, Nat.add_zero]
  simp only [carry?, toNat_ofNat_nanos, hcarry, Nat.mod_eq_of_lt t.nanos_lt,
    if_pos t.seconds.toNat_lt, UInt64.ofNat_toNat]

theorem toJson_eq (t : Span) :
    toJson t = .object [("secs", toJson t.seconds), ("nanos", toJson (UInt32.ofNat t.nanos))] := by
  have hnanos : UInt64.ofNat t.nanos = (UInt32.ofNat t.nanos).toUInt64 := by
    rw [← UInt64.toNat_inj, UInt32.toNat_toUInt64, toNat_ofNat_nanos]
    exact UInt64.toNat_ofNat_of_lt' (Nat.lt_trans t.nanos_lt (by decide))
  change Json.object [("secs", toJson t.seconds), ("nanos", .natural _)] = _
  rw [hnanos]
  rfl

end Span

theorem readsBack_span (t : Span) : ReadsBack 1 t where
  exact := rfl
  read room hroom := by
    have hslots : slots? ["secs", "nanos"] room
        (.object [("secs", toJson t.seconds), ("nanos", toJson (UInt32.ofNat t.nanos))]) =
        some [.present (toJson t.seconds), .present (toJson (UInt32.ofNat t.nanos))] :=
      slots?_object rfl (by decide) (by omega)
    rw [t.toJson_eq]
    simp [JsonForm.ofJson?, hslots, (readsBack_uint64 _).required?_present (Nat.zero_le _),
      (readsBack_uint32 _).required?_present (Nat.zero_le _), Span.carry?_nanos]

theorem readsBack_connectionSettings (s : ConnectionSettings) : ReadsBack 2 s := by
  have hport : ReadsBack 0 s.port := readsBack_option readsBack_uint16 nofun
  have hname (name : Option String) : ReadsBack 0 name := readsBack_option readsBack_string nofun
  constructor
  case exact =>
    exact isExact_object (by simp [isExact, hport.exact, (hname _).exact,
      (readsBack_span _).exact, (readsBack_uint32 _).exact, (readsBack_bool _).exact])
  case read =>
    intro room hroom
    have hslots : slots? ["host", "port", "database", "username", "connect_timeout",
        "query_timeout", "max_connections", "read_only"] room (toJson s) =
        some [.present (toJson s.host), .present (toJson s.port), .present (toJson s.database),
          .present (toJson s.username), .present (toJson s.connectTimeout),
          .present (toJson s.queryTimeout), .present (toJson s.maxConnections),
          .present (toJson s.readOnly)] :=
      slots?_object rfl (by decide) (by omega)
    simp only [JsonForm.ofJson?, hslots, Option.bind_eq_bind, Option.bind_some,
      (readsBack_string _).required?_present (Nat.zero_le _),
      hport.optional?_present (Nat.zero_le _), (hname _).optional?_present (Nat.zero_le _),
      (readsBack_span _).required?_present (show 1 ≤ room - 1 by omega),
      (readsBack_uint32 _).required?_present (Nat.zero_le _),
      (readsBack_bool _).required?_present (Nat.zero_le _)]

/-! ## All types -/

/-- Every value of the data model is read back from its text. -/
theorem roundTrips_dataModel :
    (∀ type : ColumnType, RoundTrips type) ∧
    (∀ source : SourceSchema, RoundTrips source) ∧
    (∀ unified : UnifiedSchema, RoundTrips unified) ∧
    (∀ draft : TargetDraft, RoundTrips draft) ∧
    (∀ target : TargetSchema, target.updatedAt.Valid → RoundTrips target) ∧
    (∀ type : DeclaredType, RoundTrips type) ∧
    (∀ change : SchemaChange, RoundTrips change) ∧
    (∀ event : ChangeEvent, RoundTrips event) ∧
    (∀ column : RawColumn, RoundTrips column) ∧
    (∀ table : RawTable, RoundTrips table) ∧
    (∀ snapshot : Snapshot, RoundTrips snapshot) ∧
    (∀ config : DiscoveryConfig, RoundTrips config) ∧
    (∀ config : SyncConfig, RoundTrips config) ∧
    (∀ settings : ConnectionSettings, RoundTrips settings) := by
  refine ⟨?_, ?_, ?_, ?_, ?_, ?_, ?_, ?_, ?_, ?_, ?_, ?_, ?_, ?_⟩
  · exact fun type => (readsBack_columnType type).roundTrips (by decide)
  · exact fun source => (readsBack_sourceSchema source).roundTrips (by decide)
  · exact fun unified => (readsBack_unifiedSchema unified).roundTrips (by decide)
  · exact fun draft => (readsBack_targetDraft draft).roundTrips (by decide)
  · exact fun target htime => (readsBack_targetSchema htime).roundTrips (by decide)
  · exact fun type => (readsBack_declaredType type).roundTrips (by decide)
  · exact fun change => (readsBack_schemaChange change).roundTrips (by decide)
  · exact fun event => (readsBack_changeEvent event).roundTrips (by decide)
  · exact fun column => (readsBack_rawColumn column).roundTrips (by decide)
  · exact fun table => (readsBack_rawTable table).roundTrips (by decide)
  · exact fun snapshot => (readsBack_snapshot snapshot).roundTrips (by decide)
  · exact fun config => (readsBack_discoveryConfig config).roundTrips (by decide)
  · exact fun config => (readsBack_syncConfig config).roundTrips (by decide)
  · exact fun settings => (readsBack_connectionSettings settings).roundTrips (by decide)

/-- A version that is made in a leap second, a nanosecond after it began. -/
def leapSecondVersion : TargetSchema :=
  { version := 7, fields := [⟨"id", .integer 64⟩, ⟨"note \"α\"", .string none⟩],
    primaryKeys := ["id"], options := .ofList [("bucket", "4")],
    updatedAt := ⟨9999, 12, 31, 23, 59, 60, 1⟩ }

theorem roundTrips_dataModel_leapSecond :
    leapSecondVersion.updatedAt.Valid ∧ RoundTrips leapSecondVersion := by
  have htime : leapSecondVersion.updatedAt.Valid := by decide
  exact ⟨htime, roundTrips_dataModel.2.2.2.2.1 leapSecondVersion htime⟩

end ShardMerge
