import ShardMerge.Error
import ShardMerge.Json.Printer
import ShardMerge.Text.Blank
import ShardMerge.Text.Decimal
import ShardMerge.Text.Lowercase
import ShardMerge.Text.Quoted
import ShardMerge.Text.Split
import ShardMerge.Text.Unicode.Word

/-!
# The journal

What a command reports while it runs: entries with a severity, and the lines that show them.

* `Entry.line` gives the line of an entry as text or as JSON.
* `severityFor` chooses the least severe entries that are shown, and `Threshold.ofDirectives?` reads
  the setting that takes precedence over that choice.
-/

namespace ShardMerge

open Text

/-- The name of the program, with which the names of its parts begin. -/
def programName : String := "cdcsync"

/-- How important an entry is, from the most to the least. -/
inductive Severity where
  | error
  | warn
  | info
  | debug
  | trace
deriving DecidableEq, Repr

namespace Severity

/-- The name in the lines of the journal. -/
def name : Severity → String
  | error => "ERROR"
  | warn => "WARN"
  | info => "INFO"
  | debug => "DEBUG"
  | trace => "TRACE"

/-- The place in the order, which is also the number that stands for the severity in settings. -/
def rank : Severity → Nat
  | error => 1
  | warn => 2
  | info => 3
  | debug => 4
  | trace => 5

end Severity

/-- A report of one step. -/
structure Entry where
  severity : Severity
  message : String
deriving DecidableEq, Repr

/-- How the lines of the journal are written. -/
inductive LogFormat where
  | text
  | json
deriving DecidableEq, Repr, Inhabited

namespace LogFormat

/-- The name in settings. -/
def name : LogFormat → String
  | text => "text"
  | json => "json"

/-- The format of a name in any case. -/
def ofText (text : String) : Except Error LogFormat :=
  let lower := String.ofList (lowercase text.toList)
  if lower = "text" then .ok .text
  else if lower = "json" then .ok .json
  else .error (.configuration s!"Unknown log format '{lower}': expected text or json")

end LogFormat

namespace Entry

/-- A control character that could disturb a terminal is shown by its number. -/
def plainChar (c : Char) : List Char :=
  let n := c.toNat
  if n = 0x1B ∨ n = 0x07 ∨ n = 0x08 ∨ n = 0x0C ∨ n = 0x7F then
    ['\\', 'x', Nat.digitChar (n / 16), Nat.digitChar (n % 16)]
  else if 0x80 ≤ n ∧ n < 0xA0 then ['\\', 'u', '\x7b'] ++ hexDigits n ++ ['\x7d']
  else [c]

/-- The line of an entry, with its line break, that was made at `time`. -/
def line (format : LogFormat) (time : String) (entry : Entry) : String :=
  match format with
  | .text =>
    let name := entry.severity.name
    let indent := String.ofList (List.replicate (5 - name.length) ' ')
    let message := String.ofList (entry.message.toList.flatMap plainChar)
    s!"{time} {indent}{name} {message}\n"
  | .json =>
    (Json.object [("timestamp", .string time), ("level", .string entry.severity.name),
      ("fields", .object [("message", .string entry.message)])]).compact ++ "\n"

end Entry

/-- The entries of a run over a list: those of each step in the state that the steps before it
lead to. -/
def foldNotes {σ α : Type} (step : σ → α → σ) (note : σ → α → List Entry) :
    σ → List α → List Entry
  | _, [] => []
  | state, a :: rest => note state a ++ foldNotes step note (step state a) rest

/-- The least severe entries shown for a number of requests for more and one for silence. -/
def severityFor (verbose : Nat) (quiet : Bool) : Severity :=
  if quiet then .error
  else
    match verbose with
    | 0 => .info
    | 1 => .debug
    | _ => .trace

/-- The least severe entries that are shown; nothing if none are. -/
abbrev Threshold := Option Severity

namespace Threshold

/-- Whether entries of a severity are shown. -/
def shows (threshold : Threshold) (severity : Severity) : Bool :=
  threshold.any fun least => severity.rank ≤ least.rank

/-- The threshold with a number. -/
def ofRank? : Nat → Option Threshold
  | 0 => some none
  | 1 => some (some .error)
  | 2 => some (some .warn)
  | 3 => some (some .info)
  | 4 => some (some .debug)
  | 5 => some (some .trace)
  | _ => none

/-- The threshold that a number or a word in any case stands for; no word stands for errors. -/
def ofWord? (word : String) : Option Threshold :=
  match Decimal.readUInt64 word.toList with
  | some rank => ofRank? rank.toNat
  | none =>
    match String.ofList (word.toList.map Char.toLower) with
    | "off" => some none
    | "" | "error" => some (some .error)
    | "warn" => some (some .warn)
    | "info" => some (some .info)
    | "debug" => some (some .debug)
    | "trace" => some (some .trace)
    | _ => none

/-- One directive: a threshold for the parts of the program whose names begin with `target`. -/
structure Directive where
  target : String
  threshold : Threshold

/-- The characters that a directive can begin with. -/
def isTargetChar (c : Char) : Bool := Unicode.isWord c || c = ':' || c = '-'

/-- Reads a threshold for everything, or a target with a threshold that may be left out. -/
def Directive.ofText? (text : String) : Option Directive :=
  if !((trim text.toList).head?.any isTargetChar) then none
  else
    match cutFirst '=' text.toList with
    | some (target, word) =>
      (ofWord? (String.ofList word)).map fun threshold =>
        { target := String.ofList target, threshold }
    | none =>
      match ofWord? text with
      | some threshold => some { target := "", threshold }
      | none => some { target := text, threshold := some .trace }

/-- Reads directives with commas between them.  The one with the longest target that fits the
program decides, a later one before an earlier one; where none fits nothing is shown, and without
any directive errors are. -/
def ofDirectives? (text : String) : Option Threshold := do
  let parts := (splitWhen (· = ',') text.toList).filter fun part => !part.isEmpty
  let directives ← parts.mapM fun part => Directive.ofText? (String.ofList part)
  if directives.isEmpty then some (some .error)
  else
    let fitting := directives.filter fun d => d.target.toList.isPrefixOf programName.toList
    let best := fitting.foldl (fun (best : Option Directive) d =>
      match best with
      | some b => if d.target.length < b.target.length then some b else some d
      | none => some d) none
    some (best.bind Directive.threshold)

end Threshold

end ShardMerge
