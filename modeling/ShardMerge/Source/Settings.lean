import ShardMerge.Json.Record
import ShardMerge.Sync.Config
import ShardMerge.Text.Quoted
import ShardMerge.Time.Span

/-!
# Connection settings

Where a source is and how it is reached.  The settings hold no password.

* `ConnectionSettings.validate` names the first unusable setting.
-/

namespace ShardMerge

open Json

/-- Where a source is and how it is reached. -/
structure ConnectionSettings where
  host : String := "localhost"
  port : Option UInt16 := none
  database : Option String := none
  username : Option String := none
  connectTimeout : Span := .ofSeconds 30
  queryTimeout : Span := .ofSeconds 30
  maxConnections : UInt32 := 8
  readOnly : Bool := true
deriving DecidableEq, Repr, Inhabited

namespace ConnectionSettings

/-- The greatest number of connections. -/
def mostConnections : UInt32 := 100

/-- The longest timeout in seconds. -/
def longestTimeout : UInt64 := 300

/-- Host, port and database as messages show them. -/
def describe (s : ConnectionSettings) : String :=
  let port := s.port.elim "" fun port => s!":{port}"
  let database := s.database.elim "" fun database => s!"/{database}"
  s.host ++ port ++ database

instance : ToString ConnectionSettings := ⟨describe⟩

/-- Every setting with its name. -/
def details (s : ConnectionSettings) : String :=
  let shown (setting : Option String) := setting.elim "none" Text.quoted
  let settings : List (String × String) :=
    [("host", Text.quoted s.host), ("port", s.port.elim "none" toString),
      ("database", shown s.database), ("username", shown s.username),
      ("connect_timeout", s.connectTimeout.describe), ("query_timeout", s.queryTimeout.describe),
      ("max_connections", toString s.maxConnections), ("read_only", toString s.readOnly)]
  ", ".intercalate (settings.map fun (name, value) => name ++ ": " ++ value)

/-- Names a timeout that is too short or too long. -/
def validateTimeout (name : String) (timeout : Span) : Except Error Unit :=
  require (Span.ofSeconds 1 ≤ timeout ∧ timeout ≤ Span.ofSeconds longestTimeout)
    s!"{name} must be between 1s and {longestTimeout}s, got {timeout}"

/-- Names the first setting that is unusable. -/
def validate (s : ConnectionSettings) : Except Error Unit := do
  require (hasText s.host) "Source host cannot be empty"
  require (s.port ≠ some 0) "Source port must be greater than 0"
  require (1 ≤ s.maxConnections ∧ s.maxConnections ≤ mostConnections)
    s!"max_connections must be between 1 and {mostConnections}, got {s.maxConnections}"
  validateTimeout "connect_timeout" s.connectTimeout
  validateTimeout "query_timeout" s.queryTimeout

end ConnectionSettings

/-- A span has no fields besides its two, and its nanoseconds may be a second or more. -/
instance : JsonForm Span where
  toJson t :=
    .object [("secs", toJson t.seconds), ("nanos", .natural (UInt64.ofNat t.nanos))]
  ofJson? room json := do
    let known :=
      match json with
      | .object members => members.all fun member => member.1 = "secs" || member.1 = "nanos"
      | _ => true
    match known, ← slots? ["secs", "nanos"] room json with
    | true, [seconds, nanos] =>
      let seconds : UInt64 ← seconds.required? (room - 1)
      let nanos : UInt32 ← nanos.required? (room - 1)
      Span.carry? seconds nanos
    | _, _ => none

instance : JsonForm ConnectionSettings where
  toJson s :=
    .object [("host", .string s.host), ("port", toJson s.port), ("database", toJson s.database),
      ("username", toJson s.username), ("connect_timeout", toJson s.connectTimeout),
      ("query_timeout", toJson s.queryTimeout), ("max_connections", toJson s.maxConnections),
      ("read_only", toJson s.readOnly)]
  ofJson? room json := do
    let names :=
      ["host", "port", "database", "username", "connect_timeout", "query_timeout",
        "max_connections", "read_only"]
    match ← slots? names room json with
    | [host, port, database, username, connectTimeout, queryTimeout, maxConnections, readOnly] =>
      some {
        host := ← host.required? (room - 1)
        port := ← port.optional? (room - 1)
        database := ← database.optional? (room - 1)
        username := ← username.optional? (room - 1)
        connectTimeout := ← connectTimeout.required? (room - 1)
        queryTimeout := ← queryTimeout.required? (room - 1)
        maxConnections := ← maxConnections.required? (room - 1)
        readOnly := ← readOnly.required? (room - 1) }
    | _ => none

/-- The kinds of sources. -/
inductive SourceKind where
  | mysql
  | snapshot
deriving DecidableEq, Repr

namespace SourceKind

/-- The name in messages. -/
def describe : SourceKind → String
  | mysql => "MySQL"
  | snapshot => "Snapshot"

instance : ToString SourceKind := ⟨describe⟩

instance : JsonForm SourceKind where
  toJson
    | mysql => .string "mysql"
    | snapshot => .string "snapshot"
  ofJson? room json := do
    match ← plainVariant? ["mysql", "snapshot"] room json with
    | "mysql" => some .mysql
    | "snapshot" => some .snapshot
    | _ => none

end SourceKind

end ShardMerge
