import ShardMerge.Text.Split

/-!
# Paths

The paths of files, as a place to start from and the names below it.

* `Path.text` is the path as it is shown and as it is handed to a file system.
-/

namespace ShardMerge

/-- A path: a place given by its text, and names below it. -/
structure Path where
  root : String
  below : List String := []
deriving DecidableEq, Repr, Inhabited

namespace Path

/-- The path of an entry of a directory. -/
def child (p : Path) (name : String) : Path := { p with below := p.below ++ [name] }

/-- Adds a name with a slash before it, unless there is one already or nothing to separate. -/
def addName (text name : String) : String :=
  if text.isEmpty || text.endsWith "/" then text ++ name else text ++ "/" ++ name

/-- The text of a path. -/
def text (p : Path) : String := p.below.foldl addName p.root

instance : ToString Path := ⟨text⟩

end Path

end ShardMerge
