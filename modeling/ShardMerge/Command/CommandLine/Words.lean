import ShardMerge.Command.CommandLine.CommandName

/-!
# Words

How words are read as options with their values.

* `Given` holds the options that have been read so far.  An option whose value is still to come is
  pending; it is checked only when the next option or the end is reached, so a mistake further on can
  be noticed first.
* `readWords` reads the words of one level: those in front of a command, or those behind it.
-/

namespace ShardMerge

namespace CommandLine

open Text

/-- The options that have been read. -/
structure Given where
  /-- The options with their values in order; an option without a value has the empty one. -/
  values : List (Parameter × String) := []
  /-- The last option that takes a value, with the value once that has been read.  It is checked when
  the next option or the end is reached. -/
  pending : Option (Parameter × Option String) := none

namespace Given

/-- Whether an option has been read. -/
def has (g : Given) (p : Parameter) : Bool := g.values.any fun value => value.1 = p

/-- Adds an option with the values that it stands for. -/
def accept (g : Given) (p : Parameter) (values : List String) : Except UsageError Given := do
  if g.has p && !p.mayRepeat then .error .argumentConflict
  else
    values.forM p.checkValue
    .ok { g with values := g.values ++ values.map fun value => (p, value) }

/-- Checks the last option that takes a value. -/
def settle (g : Given) : Except UsageError Given :=
  match g.pending with
  | none => .ok g
  | some (_, none) => .error .invalidValue
  | some (p, some value) => { g with pending := none }.accept p (p.splitValue value)

/-- Whether a value has to follow. -/
def isWaiting (g : Given) : Bool :=
  match g.pending with
  | some (_, none) => true
  | _ => false

/-- Reads an option without a value. -/
def readFlag (g : Given) (p : Parameter) : Except UsageError Given := do
  let g ← g.settle
  match p.arity with
  | .display what => .error what
  | _ => g.accept p [""]

/-- Reads an option with a value that is attached to it. -/
def readAttached (g : Given) (p : Parameter) (value : String) : Except UsageError Given := do
  (← g.settle).accept p (p.splitValue value)

/-- Reads an option whose value follows. -/
def readOpen (g : Given) (p : Parameter) : Except UsageError Given := do
  .ok { ← g.settle with pending := some (p, none) }

/-- Reads a word that begins with two dashes. -/
def readLong (allowed : List Parameter) (g : Given) (word : List Char) :
    Except UsageError Given :=
  let (name, value) :=
    match cutFirst '=' word with
    | some (name, value) => (name, some (String.ofList value))
    | none => (word, none)
  match allowed.find? fun p => p.long.toList = name with
  | none => .error .unknownArgument
  | some p =>
    match p.takesValue, value with
    | true, some value => g.readAttached p value
    | true, none => g.readOpen p
    | false, some _ => .error .tooManyValues
    | false, none => g.readFlag p

/-- Reads the letters of a word that begins with one dash. -/
def readShort (allowed : List Parameter) (g : Given) : List Char → Except UsageError Given
  | [] => .ok g
  | c :: rest =>
    match allowed.find? fun p => p.short? = some c with
    | none => .error .unknownArgument
    | some p =>
      if p.takesValue then
        match rest with
        | [] => g.readOpen p
        | '=' :: value => g.readAttached p (String.ofList value)
        | value => g.readAttached p (String.ofList value)
      else do readShort allowed (← g.readFlag p) rest

end Given

/-- What the words of one level come to: the options and, if a command follows, its word and the
words after it. -/
abbrev Level := Given × Option (String × List String)

/-- Reads words up to a command, where `top` says whether one may follow. -/
def readWords (top : Bool) (allowed : List Parameter) : Given → List String →
    Except UsageError Level
  | g, [] => .ok (g, none)
  | g, word :: rest =>
    if top && !g.isWaiting && isCommandWord word then .ok (g, some (word, rest))
    else
      match word.toList with
      | ['-', '-'] =>
        match rest with
        | [] => .ok (g, none)
        | next :: _ =>
          .error (if top && !isCommandWord next then .invalidSubcommand else .unknownArgument)
      | '-' :: '-' :: name => do readWords top allowed (← g.readLong allowed name) rest
      | '-' :: c :: letters => do readWords top allowed (← g.readShort allowed (c :: letters)) rest
      | _ =>
        match g.pending with
        | some (p, none) => readWords top allowed { g with pending := some (p, some word) } rest
        | _ => .error (if top then .invalidSubcommand else .unknownArgument)

end CommandLine

end ShardMerge
