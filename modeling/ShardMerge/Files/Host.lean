import ShardMerge.Files.Tree
import ShardMerge.Journal
import ShardMerge.Time.Timestamp

/-!
# Hosts

What a command needs from its surroundings: files, a clock, a journal and someone who knows the
password.

* `Host` lists these operations for a monad.
* `World` is a host without effects: a file tree, a clock, and the journal so far.
-/

namespace ShardMerge

/-- The surroundings of a command.  File operations take the text of a path. -/
class Host (m : Type → Type) where
  readText : String → m (Except Fault String)
  listNames : String → m (Except Fault (List String))
  isPresent : String → m (Except Fault Bool)
  createDirectories : String → m (Except Fault Unit)
  /-- Creates a file that must not exist. -/
  createNew : String → (text : String) → m (Except Fault Unit)
  writeText : String → (text : String) → m (Except Fault Unit)
  now : m Timestamp
  record : Entry → m Unit
  /-- Asks for a password; nothing if nobody can answer. -/
  askPassword : (question : String) → m (Option String)

/-- Records entries in order. -/
def Host.recordAll {m : Type → Type} [Monad m] [Host m] : List Entry → m Unit
  | [] => pure ()
  | entry :: entries => do
    Host.record entry
    recordAll entries

/-- A host below a layer of state. -/
instance {m : Type → Type} {σ : Type} [Monad m] [Host m] : Host (StateT σ m) where
  readText path := StateT.lift (Host.readText path)
  listNames path := StateT.lift (Host.listNames path)
  isPresent path := StateT.lift (Host.isPresent path)
  createDirectories path := StateT.lift (Host.createDirectories path)
  createNew path text := StateT.lift (Host.createNew path text)
  writeText path text := StateT.lift (Host.writeText path text)
  now := StateT.lift Host.now
  record entry := StateT.lift (Host.record entry)
  askPassword question := StateT.lift (Host.askPassword question)

/-- A host below a layer of errors. -/
instance {m : Type → Type} {ε : Type} [Monad m] [Host m] : Host (ExceptT ε m) where
  readText path := ExceptT.lift (Host.readText path)
  listNames path := ExceptT.lift (Host.listNames path)
  isPresent path := ExceptT.lift (Host.isPresent path)
  createDirectories path := ExceptT.lift (Host.createDirectories path)
  createNew path text := ExceptT.lift (Host.createNew path text)
  writeText path text := ExceptT.lift (Host.writeText path text)
  now := ExceptT.lift Host.now
  record entry := ExceptT.lift (Host.record entry)
  askPassword question := ExceptT.lift (Host.askPassword question)

/-- The outcome of a file operation, with a message if it failed. -/
def orFail {m : Type → Type} {α : Type} [Monad m] (context : String)
    (operation : ExceptT Error m (Except Fault α)) : ExceptT Error m α := do
  match ← operation with
  | .ok value => return value
  | .error _ => throw (.io context)

/-- The state of a host without effects, where nobody knows a password. -/
structure World where
  tree : Tree := {}
  clock : Clock
  /-- The entries recorded so far, the last one first. -/
  journal : List Entry := []

namespace World

/-- The world once its clock has been read. -/
def ticked (w : World) : World := { w with clock := w.clock.after 1 }

/-- Changes the tree, unless that fails. -/
def change (f : Tree → Except Fault Tree) : StateM World (Except Fault Unit) := fun w =>
  match f w.tree with
  | .ok tree => (.ok (), { w with tree })
  | .error fault => (.error fault, w)

instance : Host (StateM World) where
  readText path := fun w => (w.tree.readText path, w)
  listNames path := fun w => (w.tree.listNames path, w)
  isPresent path := fun w => (w.tree.isPresent path, w)
  createDirectories path := fun w =>
    let (outcome, tree) := w.tree.createDirectories path
    (outcome, { w with tree })
  createNew path text := change fun t => t.createNew path text
  writeText path text := change fun t => t.writeText path text
  now := fun w => (w.clock.now, w.ticked)
  record entry := fun w => ((), { w with journal := entry :: w.journal })
  askPassword _ := fun w => (none, w)

/-- The entries of the journal in order. -/
def entries (w : World) : List Entry := w.journal.reverse

end World

end ShardMerge
