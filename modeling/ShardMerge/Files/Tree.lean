import ShardMerge.Files.Path

/-!
# File trees

Directories, files with text, and symbolic links, as a finite map from locations to nodes.  Paths are
resolved against the top of the tree.

* `Tree.resolve` follows a path to its location.
* `readText`, `listNames`, `isPresent`, `createDirectories`, `createNew` and `writeText` are the
  operations on files.  Each either succeeds or gives a `Fault`.
-/

namespace ShardMerge

open Text

/-- Why a file operation fails. -/
inductive Fault where
  | notFound
  | alreadyExists
  | other
deriving DecidableEq, Repr

/-- What is at a location. -/
inductive Node where
  | directory
  | file (text : String)
  /-- A symbolic link with the path that it stands for. -/
  | link (target : String)
deriving DecidableEq, Repr

/-- A tree of files: the nodes at locations, which are the names on the way from the top. -/
structure Tree where
  nodes : List (List String × Node) := []
deriving DecidableEq, Repr, Inhabited

/-- A location that a path leads to, and what is there. -/
structure Spot where
  location : List String
  node : Option Node
deriving DecidableEq, Repr

namespace Tree

/-- What is at a location.  The top is a directory. -/
def find? (t : Tree) (location : List String) : Option Node :=
  if location = [] then some .directory
  else (t.nodes.find? fun entry => entry.1 = location).map (·.2)

/-- Puts a node at a location. -/
def put (t : Tree) (location : List String) (node : Node) : Tree :=
  if (t.find? location).isSome then
    { nodes := t.nodes.map fun entry => if entry.1 = location then (location, node) else entry }
  else { nodes := t.nodes ++ [(location, node)] }

/-- The names of the entries of a directory. -/
def entries (t : Tree) (location : List String) : List String :=
  t.nodes.filterMap fun (place, _) =>
    match place.getLast? with
    | some name => if place.dropLast = location then some name else none
    | none => none

/-! ## Paths -/

/-- The names in the text of a path; a slash at its end asks for a directory. -/
def components (text : String) : List String :=
  let names := (splitWhen (· = '/') text.toList).filter fun name => !name.isEmpty
  names.map String.ofList ++ if text.endsWith "/" then ["."] else []

/-- The longest name in bytes. -/
def longestName : Nat := 255

/-- Follows names from a location.  Where a link has to be followed, `again` goes on from the
directory that the link is in. -/
def walk (t : Tree) (follow : Bool) (again : List String → List String → Except Fault Spot) :
    (location names : List String) → Except Fault Spot
  | location, [] => .ok { location, node := t.find? location }
  | location, name :: rest =>
    if name = "." then walk t follow again location rest
    else if name = ".." then walk t follow again location.dropLast rest
    else if longestName < name.utf8ByteSize then .error .other
    else
      let here := location ++ [name]
      match t.find? here with
      | none => if rest.isEmpty then .ok { location := here, node := none } else .error .notFound
      | some .directory => walk t follow again here rest
      | some (.file text) =>
        if rest.isEmpty then .ok { location := here, node := some (.file text) } else .error .other
      | some (.link target) =>
        if rest.isEmpty && !follow then
          .ok { location := here, node := some (.link target) }
        else again (if target.startsWith "/" then [] else location) (components target ++ rest)

/-- Follows names from a location through at most so many links. -/
def walkLinks (t : Tree) (follow : Bool) : (links : Nat) → (location names : List String) →
    Except Fault Spot
  | 0 => walk t follow fun _ _ => .error .other
  | links + 1 => walk t follow (walkLinks t follow links)

/-- The greatest number of links on the way to a location. -/
def mostLinks : Nat := 40

/-- The longest path in bytes. -/
def longestPath : Nat := 4095

/-- Whether a path cannot be handed to a file system at all. -/
def isBeyondLimits (path : String) : Bool :=
  path.toList.contains (Char.ofNat 0) || longestPath < path.utf8ByteSize

/-- The location of a path; a link at its end is followed if `follow`. -/
def resolve (t : Tree) (follow : Bool) (path : String) : Except Fault Spot :=
  if path.isEmpty then .error .notFound
  else if isBeyondLimits path then .error .other
  else walkLinks t follow mostLinks [] (components path)

/-! ## Reading -/

/-- The text of a file. -/
def readText (t : Tree) (path : String) : Except Fault String := do
  match (← t.resolve true path).node with
  | some (.file text) => .ok text
  | none => .error .notFound
  | _ => .error .other

/-- The names of the entries of a directory. -/
def listNames (t : Tree) (path : String) : Except Fault (List String) := do
  let spot ← t.resolve true path
  match spot.node with
  | some .directory => .ok (t.entries spot.location)
  | none => .error .notFound
  | _ => .error .other

/-- Whether there is something at a path.  A path that goes through a file is a fault. -/
def isPresent (t : Tree) (path : String) : Except Fault Bool :=
  match t.resolve true path with
  | .ok spot => .ok spot.node.isSome
  | .error .notFound => .ok false
  | .error fault => .error fault

/-- Whether a path leads to a directory. -/
def isDirectory (t : Tree) (path : String) : Bool :=
  match t.resolve true path with
  | .ok spot => spot.node = some .directory
  | .error _ => false

/-! ## Writing -/

/-- Creates a directory whose parent exists. -/
def createDirectory (t : Tree) (path : String) : Except Fault Tree := do
  let trimmed := String.ofList (dropSlashes path.toList)
  let spot ← t.resolve false trimmed
  match spot.node with
  | none => .ok (t.put spot.location .directory)
  | some _ => .error .alreadyExists
where
  dropSlashes (s : List Char) : List Char :=
    let front := (s.reverse.dropWhile (· = '/')).reverse
    if front.isEmpty then s else front

/-- Creates a directory unless it is there. -/
def ensureDirectory (t : Tree) (path : String) : Except Fault Tree :=
  match t.createDirectory path with
  | .ok t => .ok t
  | .error fault => if t.isDirectory path then .ok t else .error fault

/-- The paths of the directories above, from the top down. -/
def ancestors (path : String) : List String :=
  let names := ((splitWhen (· = '/') path.toList).map String.ofList).filter fun name =>
    name != "" && name != "."
  let top := if path.startsWith "/" then "/" else ""
  ((List.range names.length).drop 1).map fun n => top ++ "/".intercalate (names.take n)

/-- Creates directories in order unless they are there, up to the first that fails. -/
def ensureDirectories (t : Tree) : List String → Except Fault Unit × Tree
  | [] => (.ok (), t)
  | path :: rest =>
    match t.ensureDirectory path with
    | .ok t => ensureDirectories t rest
    | .error fault => (.error fault, t)

/-- Creates a directory and those above it, as far as they are missing.  Those that were created
before a fault stay, but a path beyond the limits is refused as a whole. -/
def createDirectories (t : Tree) (path : String) : Except Fault Unit × Tree :=
  if path.isEmpty then (.ok (), t)
  else if isBeyondLimits path then (.error .other, t)
  else t.ensureDirectories (ancestors path ++ [path])

/-- Creates a file where there is nothing, not even a link. -/
def createNew (t : Tree) (path text : String) : Except Fault Tree := do
  let spot ← t.resolve false path
  match spot.node with
  | none => .ok (t.put spot.location (.file text))
  | some _ => .error .alreadyExists

/-- Creates or replaces a file. -/
def writeText (t : Tree) (path text : String) : Except Fault Tree := do
  let spot ← t.resolve true path
  match spot.node with
  | none | some (.file _) => .ok (t.put spot.location (.file text))
  | _ => .error .other

/-! ## Whole trees -/

/-- Puts a link where there is nothing. -/
def createLink (t : Tree) (path target : String) : Except Fault Tree := do
  let spot ← t.resolve false path
  match spot.node with
  | none => .ok (t.put spot.location (.link target))
  | some _ => .error .alreadyExists

/-- Removes a file, a link, or a directory with everything below it. -/
def remove (t : Tree) (path : String) : Except Fault Tree := do
  let spot ← t.resolve false path
  if spot.node.isNone then .error .notFound
  else
    .ok { nodes := t.nodes.filter fun entry => !spot.location.isPrefixOf entry.1 }

/-- The locations below one, in the byte order of their paths; the path of a directory, and of a
link to one, ends in a slash. -/
def listing (t : Tree) (location : List String) : List String :=
  let shown := t.nodes.filterMap fun (place, node) =>
    if location.isPrefixOf place && place != location then
      let path := "/".intercalate (place.drop location.length)
      let isDirectory :=
        match node with
        | .directory => true
        | .file _ => false
        | .link _ => t.isDirectory ("/".intercalate place)
      some (if isDirectory then path ++ "/" else path)
    else none
  shown.mergeSort fun a b => decide (a ≤ b)

end Tree

end ShardMerge
