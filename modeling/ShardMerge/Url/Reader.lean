import ShardMerge.Text.Decimal
import ShardMerge.Url.Basic

/-!
# Reading URLs

The standard reading of URLs, without a base that they could be relative to.

* `Url.ofText` reads a URL.
* A few schemes are special: their host is a domain, their path is never empty, and a backslash is
  as good as a slash.  Files are special in their own way.
-/

namespace ShardMerge.Url

open Text

/-- The rules that a scheme follows. -/
inductive SchemeKind where
  | file
  | special
  | general
deriving DecidableEq, Repr

/-- The special schemes with their usual ports. -/
def specialPorts : List (String × UInt16) :=
  [("http", 80), ("https", 443), ("ws", 80), ("wss", 443), ("ftp", 21)]

namespace SchemeKind

/-- The rules of a scheme. -/
def ofScheme (scheme : List Char) : SchemeKind :=
  if scheme = "file".toList then .file
  else if specialPorts.any fun (name, _) => name.toList = scheme then .special
  else .general

/-- The kind has rules of its own. -/
def isSpecial (kind : SchemeKind) : Bool := kind != .general

/-- The character separates parts of a path. -/
def isSlash (kind : SchemeKind) (c : Char) : Bool :=
  c = '/' || (kind.isSpecial && c = '\\')

end SchemeKind

/-- Drops blanks and control characters at both ends, and tabs and line breaks everywhere. -/
def clean (s : List Char) : List Char :=
  (dropEndWhile (·.toNat ≤ 32) (s.dropWhile (·.toNat ≤ 32))).filter fun c =>
    c != '\t' && c != '\n' && c != '\r'

/-- Takes the scheme in lower case and its colon. -/
def takeScheme (s : List Char) : Option (List Char × List Char) := do
  let (scheme, rest) ← cutFirst ':' s
  let isSchemeChar (c : Char) := c.isAlphanum || c = '+' || c = '-' || c = '.'
  match scheme with
  | [] => none
  | c :: _ =>
    if c.isAlpha ∧ scheme.all isSchemeChar then some (scheme.map Char.toLower, rest) else none

/-! ## Paths -/

/-- The part stands for the directory itself. -/
def isSingleDot (part : List Char) : Bool :=
  part.map Char.toLower ∈ [".", "%2e"].map String.toList

/-- The part stands for the directory above. -/
def isDoubleDot (part : List Char) : Bool :=
  part.map Char.toLower ∈ ["..", ".%2e", "%2e.", "%2e%2e"].map String.toList

/-- The part names a drive by a letter. -/
def isDrive : List Char → Bool
  | [c, mark] => c.isAlpha && (mark = ':' || mark = '|')
  | _ => false

/-- Drops the last part of a path, unless it is the drive that a file is on. -/
def shorten (kind : SchemeKind) (parts : List (List Char)) : List (List Char) :=
  match kind, parts with
  | .file, [part] => if isDrive part then parts else []
  | _, parts => parts.dropLast

/-- Adds a part to the parts before it; `last` says whether none follows. -/
def addPart (kind : SchemeKind) (parts : List (List Char)) (part : List Char) (last : Bool) :
    List (List Char) :=
  if isDoubleDot part then
    let parts := shorten kind parts
    if last then parts ++ [[]] else parts
  else if isSingleDot part then if last then parts ++ [[]] else parts
  else
    match kind, parts, part with
    | .file, [], [c, '|'] => if c.isAlpha then [[c, ':']] else [part]
    | _, _, _ => parts ++ [part]

/-- Adds the parts of a path from first to last. -/
def addParts (kind : SchemeKind) (parts : List (List Char)) : List (List Char) → List (List Char)
  | [] => parts
  | [part] => addPart kind parts part true
  | part :: rest => addParts kind (addPart kind parts part false) rest

/-- The parts of a path whose first slash has been taken. -/
def readParts (kind : SchemeKind) (s : List Char) : List (List Char) :=
  addParts kind [] ((splitWhen kind.isSlash s).map (percentEncode .path))

/-- The path after an authority. -/
def readPath (kind : SchemeKind) (s : List Char) : UrlPath :=
  match s with
  | [] => .slashed (if kind.isSpecial then [[]] else [])
  | c :: r => .slashed (readParts kind (if kind.isSlash c then r else c :: r))

/-! ## Authorities -/

/-- The user name and the password before the mark. -/
def readUser (s : List Char) : List Char × Option (List Char) :=
  let encode := percentEncode .userinfo
  match cutFirst ':' s with
  | none => (encode s, none)
  | some (username, password) =>
    (encode username, if password.isEmpty then none else some (encode password))

/-- Takes the host up to a colon outside of brackets. -/
def takeHost (inside : Bool) : List Char → List Char × List Char
  | [] => ([], [])
  | c :: r =>
    if c = ':' ∧ !inside then ([], c :: r)
    else
      let (host, rest) := takeHost (if c = '[' then true else if c = ']' then false else inside) r
      (c :: host, rest)

/-- Reads a port, which is left out if it is the usual one. -/
def readPort (usual : Option UInt16) (s : List Char) : Except UrlError (Option UInt16) :=
  if s.isEmpty then .ok none
  else
    match Decimal.ofDigits? s with
    | some n =>
      if n < UInt16.size then
        let port := UInt16.ofNat n
        .ok (if some port = usual then none else some port)
      else .error .invalidPort
    | none => .error .invalidPort

variable [DomainNames]

/-- Reads an authority. -/
def readAuthority (kind : SchemeKind) (usual : Option UInt16) (s : List Char) :
    Except UrlError Authority := do
  let (user, place) := (cutLast '@' s).getD ([], s)
  let (username, password) := readUser user
  let (hostText, portText) := takeHost false place
  let host ←
    if kind.isSpecial then
      if hostText.isEmpty then .error .emptyHost else Host.readDomain hostText
    else Host.readOpaque hostText
  if host = .name [] ∧ (!portText.isEmpty ∨ !username.isEmpty ∨ password.isSome) then
    .error .emptyHost
  else
    let port ← readPort usual portText.tail
    .ok { username, password, host, port }

/-! ## Whole URLs -/

/-- The fragment and what stands before it. -/
def cutFragment (s : List Char) : List Char × Option (List Char) :=
  match cutFirst '#' s with
  | some (before, fragment) => (before, some (percentEncode .fragment fragment))
  | none => (s, none)

/-- The query and what stands before it. -/
def cutQuery (kind : SchemeKind) (s : List Char) : List Char × Option (List Char) :=
  match cutFirst '?' s with
  | some (before, query) =>
    (before, some (percentEncode (if kind.isSpecial then .specialQuery else .query) query))
  | none => (s, none)

/-- The host of a file; the machine itself is not named. -/
def readFileHost (s : List Char) : Except UrlError Host :=
  if s.isEmpty then .ok (.name [])
  else do
    let host ← Host.readDomain s
    .ok (if host = .name "localhost".toList then .name [] else host)

/-- Drops the empty parts at the front of a path, which never gets empty. -/
def dropEmptyParts (parts : List (List Char)) : List (List Char) :=
  match parts.dropWhile List.isEmpty with
  | [] => [[]]
  | parts => parts

/-- The authority and the path of a file. -/
def readFile (s : List Char) : Except UrlError (Authority × UrlPath) :=
  let path (s : List Char) := UrlPath.slashed (dropEmptyParts (readParts .file s))
  let slash := SchemeKind.isSlash .file
  let local_ : Authority := { host := .name [] }
  match s with
  | [] => .ok (local_, path [])
  | [c] => .ok (local_, path (if slash c then [] else s))
  | c :: d :: r =>
    if slash c ∧ slash d then
      let text := r.takeWhile fun c => !slash c
      if isDrive text then .ok (local_, path r)
      else do
        let host ← readFileHost text
        .ok ({ host }, path ((r.dropWhile fun c => !slash c).drop 1))
    else .ok (local_, path (if slash c then d :: r else s))

/-- The authority and the path after a scheme.  A mark that ends an empty user name has to be
followed by a host if anything follows it; `more` says whether a query or a fragment does. -/
def readHierarchy (kind : SchemeKind) (usual : Option UInt16) (more : Bool) (s : List Char) :
    Except UrlError (Option Authority × UrlPath) :=
  let withAuthority (s : List Char) : Except UrlError (Option Authority × UrlPath) := do
    let text := s.takeWhile fun c => !kind.isSlash c
    let rest := s.dropWhile fun c => !kind.isSlash c
    if text = ['@'] ∧ (more ∨ !rest.isEmpty) then .error .emptyHost
    else
      let authority ← readAuthority kind usual text
      .ok (some authority, readPath kind rest)
  match kind with
  | .file => do
    let (authority, path) ← readFile s
    .ok (some authority, path)
  | .special => withAuthority (s.dropWhile kind.isSlash)
  | .general =>
    match s with
    | '/' :: '/' :: r => withAuthority r
    | '/' :: r => .ok (none, .slashed (readParts kind r))
    | s => .ok (none, .plain (percentEncode .controls s))

/-- Reads a URL. -/
def ofText (text : String) : Except UrlError Url :=
  match takeScheme (clean text.toList) with
  | none => .error .missingBase
  | some (scheme, rest) => do
    let kind := SchemeKind.ofScheme scheme
    let usual := (specialPorts.find? fun (name, _) => name.toList = scheme).map (·.2)
    let (rest, fragment) := cutFragment rest
    let (rest, query) := cutQuery kind rest
    let (authority, path) ← readHierarchy kind usual (query.isSome || fragment.isSome) rest
    .ok { scheme, authority, path, query, fragment }

/-- The text of a URL with its password hidden.  A text that is no URL is hidden as a whole. -/
def redact (text : String) : String :=
  match ofText text with
  | .ok url => toString url.hidePassword
  | .error _ => "<redacted>"

end ShardMerge.Url
