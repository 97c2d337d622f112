import ShardMerge.Error
import ShardMerge.Text.Split
import ShardMerge.Url.Reader

/-!
# Credentials

Passwords in connection strings.  A password goes into a connection string only when it is used, and
a message shows a connection string only with its password hidden.
-/

namespace ShardMerge

open Text

variable [Url.DomainNames]

/-- A connection string with another password. -/
def withPassword (connection password : String) : Except Error String :=
  match Url.ofText connection with
  | .error e =>
    .error (.configuration s!"Invalid source URL '{Url.redact connection}': {e}")
  | .ok url =>
    match url.setPassword? password.toList with
    | some url => .ok (toString url)
    | none =>
      .error (.configuration s!"Source URL '{Url.redact connection}' cannot carry a password")

/-- Whether a connection string looks like a URL. -/
def looksLikeUrl (connection : String) : Bool := holds "://".toList connection.toList

/-- A connection string as messages show it. -/
def describeConnection (connection : String) : String :=
  if looksLikeUrl connection then Url.redact connection else connection

end ShardMerge
