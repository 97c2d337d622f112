/-!
# Wildcards

Patterns in which `*` stands for any characters, none included, `?` for exactly one, and every other
character for itself.  A pattern covers the whole name.

* `Glob.matchesName` decides whether a pattern covers a name, in time proportional to the product of
  their lengths.
* `Glob.search` decides it by position, and goes back to a star when the rest does not fit.  It reads
  characters that may not be there, so its answer may be missing.
* `Glob.Covers` says what that means by cutting the name into pieces.
-/

namespace ShardMerge.Glob

/-- Whether the entry or a later one holds, for each entry. -/
def orLater : List Bool → List Bool
  | [] => []
  | b :: r =>
    let later := orLater r
    (b || later.headD false) :: later

/-- For each ending of a name, the longest first, whether the pattern covers it. -/
def endings (name : List Char) : (pattern : List Char) → List Bool
  | [] => name.map (fun _ => false) ++ [true]
  | c :: pattern =>
    let rest := endings name pattern
    if c = '*' then orLater rest
    else if c = '?' then rest.tail ++ [false]
    else (List.zipWith (fun d covered => d = c && covered) name rest.tail) ++ [false]

/-- Whether the pattern covers the name. -/
def matchesName (pattern name : List Char) : Bool :=
  (endings name pattern).headD false

/-- The first position from `i` on where the pattern has no star. -/
def pastStars (pattern : List Char) (i : Nat) : Option { k : Nat // i ≤ k } :=
  if i < pattern.length then
    match pattern[i]? with
    | none => none
    | some c =>
      if c = '*' then
        (pastStars pattern (i + 1)).map fun ⟨k, hk⟩ => ⟨k, Nat.le_of_succ_le hk⟩
      else some ⟨i, Nat.le_refl i⟩
  else some ⟨i, Nat.le_refl i⟩
termination_by pattern.length - i

mutual

/-- Whether the pattern from `i` on covers the name from `j` on.  There is no answer if a character
is read that is not there. -/
def search (pattern name : List Char) (i j : Nat) : Option Bool :=
  if i < pattern.length then
    match pattern[i]? with
    | none => none
    | some c =>
      if c = '*' then
        match pastStars pattern (i + 1) with
        | none => none
        | some ⟨k, _⟩ => if k = pattern.length then some true else searchFrom pattern name k j
      else if c = '?' then
        if j < name.length then search pattern name (i + 1) (j + 1) else some false
      else if j < name.length then
        match name[j]? with
        | none => none
        | some d => if d = c then search pattern name (i + 1) (j + 1) else some false
      else some false
  else some (j = name.length)
termination_by (pattern.length - i, 0, 0)

/-- Whether the pattern from `i` on covers the name from `j` or a later position on. -/
def searchFrom (pattern name : List Char) (i j : Nat) : Option Bool :=
  if j ≤ name.length then
    match search pattern name i j with
    | none => none
    | some true => some true
    | some false => searchFrom pattern name i (j + 1)
  else some false
termination_by (pattern.length - i, 1, name.length + 1 - j)

end

/-- The name can be cut into pieces, one for each character of the pattern. -/
inductive Covers : (pattern name : List Char) → Prop where
  | nil : Covers [] []
  | any (piece : List Char) {pattern name : List Char} (h : Covers pattern name) :
      Covers ('*' :: pattern) (piece ++ name)
  | one (c : Char) {pattern name : List Char} (h : Covers pattern name) :
      Covers ('?' :: pattern) (c :: name)
  | itself {c : Char} {pattern name : List Char} (hs : c ≠ '*') (hq : c ≠ '?')
      (h : Covers pattern name) : Covers (c :: pattern) (c :: name)

end ShardMerge.Glob
