import ShardMerge.Error
import ShardMerge.Json.Record
import ShardMerge.Pattern.Glob
import ShardMerge.Pattern.Regex.Match
import ShardMerge.Pattern.Regex.Reader
import ShardMerge.Text.Lowercase
import ShardMerge.Text.Split

/-!
# Name patterns

How databases and tables are selected by their names.  A pattern is a regular expression, a wildcard
pattern or a list of names, and always has to cover the whole name.
-/

namespace ShardMerge

open Text

/-- The notation of a pattern. -/
inductive PatternKind where
  | regex
  | glob
  /-- Names with commas between them. -/
  | exact
deriving DecidableEq, Repr, Inhabited

namespace PatternKind

/-- The name of a notation. -/
def name : PatternKind → String
  | regex => "regex"
  | glob => "glob"
  | exact => "exact"

/-- The notation of a lower-case name. -/
def ofName? : String → Option PatternKind
  | "regex" => some .regex
  | "glob" => some .glob
  | "exact" => some .exact
  | _ => none

/-- The notation of a name in any case. -/
def ofText (text : String) : Except Error PatternKind :=
  let lower := String.ofList (lowercase text.toList)
  match ofName? lower with
  | some kind => .ok kind
  | none =>
    .error (.configuration s!"Unknown matcher kind '{lower}': expected regex, glob or exact")

instance : JsonForm PatternKind where
  toJson kind := .string kind.name
  ofJson? room json := (Json.plainVariant? ["regex", "glob", "exact"] room json).bind ofName?

end PatternKind

/-- The properties of characters that a regular expression can name. -/
class CharacterProperties where
  property? : (name : List Char) → Option CharClass

/-- The program comes without tables of properties. -/
instance (priority := low) noProperties : CharacterProperties where
  property? _ := none

/-- A pattern that names are compared with. -/
inductive NamePattern where
  | regex (expression : Regex)
  | glob (pattern : List Char)
  | exact (names : List String)
deriving Repr

namespace NamePattern

/-- The names in a list with commas, without the blanks around them; an empty one names nothing. -/
def listedNames (text : String) : List String :=
  (((splitWhen (· = ',') text.toList).map trim).filter fun name => !name.isEmpty).map String.ofList

/-- The pattern between the assertions that make it cover a whole name. -/
def anchored (text : String) : List Char :=
  ['^', '(', '?', ':'] ++ text.toList ++ [')', '$']

/-- Reads a regular expression that can name some properties of characters. -/
def ofRegex (property? : List Char → Option CharClass) (text : String) :
    Except Error NamePattern :=
  match Regex.ofText? property? (anchored text) with
  | some expression => .ok (.regex expression)
  | none => .error (.invalidPattern text)

/-- Reads a pattern. -/
def ofText [CharacterProperties] (kind : PatternKind) (text : String) : Except Error NamePattern :=
  match kind with
  | .regex => ofRegex CharacterProperties.property? text
  | .glob => .ok (.glob text.toList)
  | .exact => .ok (.exact (listedNames text))

/-- Whether a name is selected. -/
def selects (pattern : NamePattern) (name : String) : Bool :=
  match pattern with
  | regex expression => expression.isMatch name.toList
  | glob pattern => Glob.matchesName pattern name.toList
  | exact names => names.contains name

end NamePattern

/-- A way to select names, with the text that stands for it in messages. -/
structure NameMatcher where
  text : String
  selects : String → Bool

/-- The names that a pattern selects. -/
def NamePattern.matcher (pattern : NamePattern) (text : String) : NameMatcher where
  text
  selects := pattern.selects

end ShardMerge
