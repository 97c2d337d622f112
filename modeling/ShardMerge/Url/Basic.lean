import ShardMerge.Url.Host

/-!
# URLs

A URL in its parts, each in the form in which it is written.

* `Url.write` puts the parts together.
* `Url.setPassword?` exchanges the password and `Url.hidePassword` hides it.
-/

namespace ShardMerge

namespace Url

/-- The path of a URL. -/
inductive UrlPath where
  /-- A path that is not cut at slashes. -/
  | plain (text : List Char)
  /-- Each part has a slash before it. -/
  | slashed (parts : List (List Char))
deriving DecidableEq, Repr

namespace UrlPath

/-- The path as a URL shows it. -/
def write : UrlPath → List Char
  | plain text => text
  | slashed parts => parts.flatMap ('/' :: ·)

end UrlPath

/-- Who asks which host. -/
structure Authority where
  username : List Char := []
  /-- An empty password is none. -/
  password : Option (List Char) := none
  host : Host
  port : Option UInt16 := none
deriving DecidableEq, Repr

namespace Authority

/-- The user name, the password and the mark after them. -/
def writeUser (a : Authority) : List Char :=
  match a.password with
  | some password => a.username ++ ':' :: (password ++ ['@'])
  | none => if a.username.isEmpty then [] else a.username ++ ['@']

/-- The authority as a URL shows it. -/
def write (a : Authority) : List Char :=
  let port :=
    match a.port with
    | some port => ':' :: Nat.toDigits 10 port.toNat
    | none => []
  a.writeUser ++ a.host.write ++ port

end Authority

end Url

open Url

/-- A URL. -/
structure Url where
  scheme : List Char
  authority : Option Authority := none
  path : UrlPath
  query : Option (List Char) := none
  fragment : Option (List Char) := none
deriving DecidableEq, Repr

namespace Url

/-- A part that follows a mark if it is there. -/
def writeAfter (mark : Char) : Option (List Char) → List Char
  | some part => mark :: part
  | none => []

/-- The authority or, in front of a path that would read as one, a part that changes nothing. -/
def writeAuthority (u : Url) : List Char :=
  match u.authority, u.path with
  | some authority, _ => '/' :: '/' :: authority.write
  | none, .slashed ([] :: _ :: _) => ['/', '.']
  | none, _ => []

/-- The text of a URL. -/
def write (u : Url) : List Char :=
  u.scheme ++ ':' :: (u.writeAuthority ++ u.path.write ++ writeAfter '?' u.query ++
    writeAfter '#' u.fragment)

instance : ToString Url := ⟨fun u => String.ofList u.write⟩

/-- The host as a URL shows it; nothing if the URL names none. -/
def host? (u : Url) : Option (List Char) :=
  match u.authority with
  | some authority => if authority.host = .name [] then none else some authority.host.write
  | none => none

/-- The user name, empty if there is none. -/
def username (u : Url) : List Char := (u.authority.map Authority.username).getD []

/-- The password. -/
def password? (u : Url) : Option (List Char) := u.authority.bind Authority.password

/-- The port. -/
def port? (u : Url) : Option UInt16 := u.authority.bind Authority.port

/-- Exchanges the password, which is removed if the new one is empty.  Only a URL that names a host
and that is not the name of a file has a place for it. -/
def setPassword? (u : Url) (password : List Char) : Option Url :=
  match u.authority with
  | some authority =>
    if authority.host = .name [] ∨ u.scheme = "file".toList then none
    else
      let encoded := percentEncode .userinfo password
      let authority :=
        { authority with password := if password.isEmpty then none else some encoded }
      some { u with authority := some authority }
  | none => none

/-- Shows a password as asterisks. -/
def hidePassword (u : Url) : Url :=
  if u.password?.isSome then (u.setPassword? "****".toList).getD u else u

end Url

end ShardMerge
