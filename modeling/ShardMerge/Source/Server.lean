import ShardMerge.Journal
import ShardMerge.Source.Pool
import ShardMerge.Text.Decimal
import ShardMerge.Url.Query
import ShardMerge.Url.Reader

/-!
# Database servers as sources

What a connection string says about a server, and what keeps it from being used.

* `ConnectionSettings.ofUrl` reads the settings out of a connection string.
* `Server.Driver` prepares the connections.  It reads the connection string by itself, takes the
  names in it for text and knows more parameters, and so may refuse what has settings:
  `Server.LawfulDriver`.
-/

namespace ShardMerge

open Text

namespace Server

/-- The scheme of connection strings. -/
def scheme : List Char := "mysql".toList

/-- The port of a server that names none. -/
def usualPort : UInt16 := 3306

/-- The databases that belong to a server itself. -/
def systemDatabases : List String := ["mysql", "information_schema", "performance_schema", "sys"]

/-- Whether a name in any case is that of a database of the server itself. -/
def isSystemDatabase (database : String) : Bool :=
  systemDatabases.contains (String.ofList (lowercase database.toList))

variable [Url.DomainNames]

/-- Reads a connection string as a URL. -/
def readUrl (connection : String) : Except Error Url :=
  match Url.ofText connection with
  | .ok url => .ok url
  | .error e => .error (.configuration s!"Invalid MySQL connection string format: {e}")

/-- Reads a connection string that names a host. -/
def urlWithHost (connection : String) : Except Error Url := do
  let url ← readUrl connection
  require (url.scheme = scheme) "Connection string must use mysql:// scheme"
  require url.host?.isSome "Connection string must specify a host"
  .ok url

/-- The path of a URL without the slashes at its front. -/
def databasePath (url : Url) : List Char := url.path.write.dropWhile (· = '/')

/-- The pairs in the query of a URL. -/
def parameters (url : Url) : List (String × String) :=
  (url.query.map Url.queryPairs).getD []

/-- A number of seconds from one up to the longest timeout. -/
def readTimeout? (value : String) : Option Span := do
  let seconds ← Decimal.readUInt64 value.toList
  if 0 < seconds ∧ seconds ≤ ConnectionSettings.longestTimeout then some (.ofSeconds seconds)
  else none

/-- A number of connections from one up to the greatest. -/
def readPoolSize? (value : String) : Option UInt32 := do
  let size ← Decimal.readUInt32 value.toList
  if 0 < size ∧ size ≤ ConnectionSettings.mostConnections then some size else none

/-- Applies one parameter; an unknown one and an unusable value change nothing. -/
def applyParameter (s : ConnectionSettings) (parameter : String × String) : ConnectionSettings :=
  match parameter with
  | ("connect_timeout", value) =>
    { s with connectTimeout := (readTimeout? value).getD s.connectTimeout }
  | ("query_timeout", value) => { s with queryTimeout := (readTimeout? value).getD s.queryTimeout }
  | ("pool_max_conns", value) =>
    { s with maxConnections := (readPoolSize? value).getD s.maxConnections }
  | _ => s

/-- The longest name of a database. -/
def longestDatabase : Nat := 64

/-- The longest name of a user. -/
def longestUsername : Nat := 32

/-- A part of a URL as text, unless it is empty. -/
def nonEmpty (part : List Char) : Option String :=
  if part.isEmpty then none else some (String.ofList part)

end Server

open Server

variable [Url.DomainNames]

/-- Reads the settings out of a connection string. -/
def ConnectionSettings.ofUrl (connection : String) : Except Error ConnectionSettings := do
  let url ← urlWithHost connection
  let port := url.port?.getD usualPort
  require (port ≠ 0) "Invalid port number: must be greater than 0"
  let database := databasePath url
  require (database.length ≤ longestDatabase) "Database name too long: maximum 64 characters"
  let username := url.username
  require (username.length ≤ longestUsername)
    "Username too long: maximum 32 characters for MySQL"
  let base : ConnectionSettings :=
    { host := String.ofList (url.host?.getD "localhost".toList)
      port := some port
      database := nonEmpty database
      username := nonEmpty username }
  let settings := (parameters url).foldl applyParameter base
  settings.validate
  .ok settings

namespace Server

/-- The modes of encryption. -/
def sslModes : List String := ["disabled", "preferred", "required", "verify_ca", "verify_identity"]

/-- Whether a parameter can be used to prepare connections. -/
def isUsable (parameter : String × String) : Bool :=
  match parameter with
  | ("sslmode", value) | ("ssl-mode", value) =>
    sslModes.contains (String.ofList (value.toList.map Char.toLower))
  | ("statement-cache-capacity", value) => (Decimal.readUInt64 value.toList).isSome
  | _ => true

/-- Whether a URL can be read for connections: the names in it are text, and every parameter is
usable. -/
def canConnect (usable : String × String → Bool) (url : Url) : Bool :=
  (Url.percentDecodeText? url.username).isSome &&
    (url.password?.all fun password => (Url.percentDecodeText? password).isSome) &&
    (Url.percentDecodeText? (databasePath url)).isSome && (parameters url).all usable

/-- Whether a connection string is a URL that can be read for connections. -/
def canRead (usable : String × String → Bool) (connection : String) : Bool :=
  match Url.ofText connection with
  | .ok url => canConnect usable url
  | .error _ => false

/-- What prepares the connections to a server. -/
class Driver where
  /-- The connections that a connection string leads to; nothing if it cannot be read. -/
  pool? : (connection : String) → Option Pool

/-- Drivers agree on what they can read, apart from the parameters that they take for usable. -/
class LawfulDriver [Driver] : Prop where
  isSome_pool? : ∃ usable : String × String → Bool, ∀ connection,
    (Driver.pool? connection).isSome = canRead usable connection

/-- The driver of the program.  It speaks to no server, so there is no answer to any question. -/
instance (priority := low) silentDriver : Driver where
  pool? connection := if canRead isUsable connection then some {} else none

instance : LawfulDriver where
  isSome_pool? := ⟨isUsable, fun connection => by
    cases h : canRead isUsable connection <;> simp [Driver.pool?, h]⟩

variable [Driver]

/-- The connections to a server.  The error hides the password. -/
def pool (connection : String) : Except Error Pool :=
  match Driver.pool? connection with
  | some pool => .ok pool
  | none =>
    .error (.collection s!"Failed to create MySQL connection pool to {Url.redact connection}")

/-- The settings of a server whose connections can be prepared. -/
def connect (connection : String) : Except Error ConnectionSettings := do
  let settings ← ConnectionSettings.ofUrl connection
  let _ ← pool connection
  .ok settings

/-- What is reported of a server whose connections can be prepared. -/
def connectNote (settings : ConnectionSettings) : Entry :=
  ⟨.debug, s!"Created MySQL connection pool for {settings}"⟩

/-- The same with settings that are not those of the connection string. -/
def connectWith (connection : String) (settings : ConnectionSettings) :
    Except Error ConnectionSettings := do
  settings.validate
  let _ ← urlWithHost connection
  let _ ← pool connection
  .ok settings

end Server

end ShardMerge
