import ShardMerge.Files.Host
import ShardMerge.Source.Basic
import ShardMerge.Source.Credentials

/-!
# Opening sources

From a connection string to a source.

* `Source.openAt` reads a snapshot from its file or prepares the connections to a server.
* `resolveConnection` asks for the password first, if that is wanted.
-/

namespace ShardMerge

open Text

variable {m : Type → Type} [Monad m] [Host m]

/-- Reads a snapshot from a file. -/
def Snapshot.readFile (path : String) : ExceptT Error m Snapshot := do
  let text ← orFail s!"Failed to read source snapshot {path}" (Host.readText path)
  let snapshot ← liftExcept (Snapshot.ofText s!"Failed to parse source snapshot {path}" text)
  Host.record ⟨.debug, s!"Loaded source snapshot from {path}"⟩
  return snapshot

/-- The path of a snapshot in a connection string. -/
def snapshotPath (connection : String) : String :=
  match dropFront? "snapshot:".toList connection.toList with
  | some path => String.ofList path
  | none => connection

variable [Url.DomainNames] [Server.Driver]

/-- Opens the source that a connection string names. -/
def Source.openAt (connection : String) : ExceptT Error m Source := do
  match ← liftExcept (SourceKind.ofConnection connection) with
  | .mysql =>
    let settings ← liftExcept (Server.connect connection)
    Host.record (Server.connectNote settings)
    return .server settings (← liftExcept (Server.pool connection))
  | .snapshot =>
    let path := snapshotPath connection
    return .snapshot (some path) (← Snapshot.readFile path)

/-- The connection string to use: if `ask`, a password is asked for and put into a URL. -/
def resolveConnection (connection : String) (ask : Bool) : ExceptT Error m String := do
  if !ask then return connection
  else if !looksLikeUrl connection then
    Host.record ⟨.warn, "--password-prompt ignored for snapshot source"⟩
    return connection
  else
    match ← Host.askPassword "Source database password: " with
    | some password => liftExcept (withPassword connection password)
    | none => throw (.io "Failed to read password")

end ShardMerge
