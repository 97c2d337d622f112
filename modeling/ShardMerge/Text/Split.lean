import ShardMerge.Text.Blank

/-!
# Splitting text

Cutting a text at separator characters.  Every separator cuts, so two in a row leave an empty
piece between them.

* `splitWhen` cuts at every separator, `cutFirst` and `cutLast` at one.
* `join` puts pieces back together with a separator between them.
* `words` and `lines` are the two cuts that have rules of their own.
-/

namespace ShardMerge.Text

/-- The pieces between the characters that satisfy `p`; there is always at least one. -/
def splitWhen (p : Char → Bool) : List Char → List (List Char)
  | [] => [[]]
  | c :: r =>
    if p c then [] :: splitWhen p r
    else
      match splitWhen p r with
      | [] => [[c]]
      | piece :: rest => (c :: piece) :: rest

/-- What stands before and after the first `sep`. -/
def cutFirst (sep : Char) : List Char → Option (List Char × List Char)
  | [] => none
  | c :: r =>
    if c = sep then some ([], r)
    else (cutFirst sep r).map fun (before, after) => (c :: before, after)

/-- What stands before and after the last `sep`. -/
def cutLast (sep : Char) (s : List Char) : Option (List Char × List Char) :=
  (cutFirst sep s.reverse).map fun (after, before) => (before.reverse, after.reverse)

/-- The pieces with `sep` between neighbours. -/
def join (sep : List Char) : List (List Char) → List Char
  | [] => []
  | [piece] => piece
  | piece :: rest => piece ++ sep ++ join sep rest

/-- The maximal runs of characters that are not blank. -/
def words (s : List Char) : List (List Char) :=
  (splitWhen isBlank s).filter fun piece => !piece.isEmpty

/-- A line loses one carriage return at its end. -/
def dropReturn (line : List Char) : List Char :=
  if line.getLast? = some '\r' then line.dropLast else line

/-- The lines of a text.  A line ends at a line feed, with or without a carriage return before
it; what follows the last line feed is a line unless it is empty, and keeps its carriage
return. -/
def lines (s : List Char) : List (List Char) :=
  let pieces := splitWhen (· = '\n') s
  let ended := pieces.dropLast.map dropReturn
  match pieces.getLast? with
  | none => ended
  | some [] => ended
  | some tail => ended ++ [tail]

/-- Drops `front` from the start of a text that begins with it. -/
def dropFront? : (front s : List Char) → Option (List Char)
  | [], s => some s
  | _ :: _, [] => none
  | f :: front, c :: s => if f = c then dropFront? front s else none

/-- Drops `back` from the end of a text that ends with it. -/
def dropBack? (back s : List Char) : Option (List Char) :=
  (dropFront? back.reverse s.reverse).map List.reverse

/-- A text that holds `part` somewhere as a run of neighbours. -/
def holds (part : List Char) : List Char → Bool
  | [] => part.isEmpty
  | c :: r => part.isPrefixOf (c :: r) || holds part r

theorem splitWhen_ne_nil (p : Char → Bool) (s : List Char) : splitWhen p s ≠ [] := by
  cases s with
  | nil => simp [splitWhen]
  | cons c r =>
    unfold splitWhen
    split
    · simp
    · split <;> simp

theorem splitWhen_cons_sep {p : Char → Bool} {c : Char} (h : p c = true) (r : List Char) :
    splitWhen p (c :: r) = [] :: splitWhen p r := by
  simp [splitWhen, h]

/-- A text without a separator is one piece. -/
theorem splitWhen_eq_singleton {p : Char → Bool} {s : List Char} (h : ∀ c ∈ s, p c = false) :
    splitWhen p s = [s] := by
  induction s with
  | nil => rfl
  | cons c r ih =>
    have hr := ih fun d hd => h d (List.mem_cons_of_mem _ hd)
    simp [splitWhen, hr, h c]

theorem dropFront?_append (front s : List Char) : dropFront? front (front ++ s) = some s := by
  induction front with
  | nil => rfl
  | cons f front ih => simp [dropFront?, ih]

/-- Dropping a front succeeds exactly on the texts that begin with it. -/
theorem dropFront?_eq_some_iff {front s rest : List Char} :
    dropFront? front s = some rest ↔ s = front ++ rest := by
  constructor
  · intro h
    induction front generalizing s with
    | nil => simpa [dropFront?] using h
    | cons f front ih =>
      cases s with
      | nil => simp [dropFront?] at h
      | cons c s =>
        by_cases hc : f = c
        · subst hc
          simp only [dropFront?, ↓reduceIte] at h
          rw [ih h, List.cons_append]
        · simp [dropFront?, hc] at h
  · rintro rfl
    exact dropFront?_append front rest

/-- Dropping a back succeeds exactly on the texts that end with it. -/
theorem dropBack?_eq_some_iff {back s rest : List Char} :
    dropBack? back s = some rest ↔ s = rest ++ back := by
  simp only [dropBack?, Option.map_eq_some_iff, dropFront?_eq_some_iff]
  constructor
  · rintro ⟨r, hr, rfl⟩
    have := congrArg List.reverse hr
    simpa using this
  · rintro rfl
    exact ⟨rest.reverse, by simp, by simp⟩

/-- A cut is at the first separator. -/
theorem cutFirst_eq_some_iff {sep : Char} {s before after : List Char} :
    cutFirst sep s = some (before, after) ↔ s = before ++ sep :: after ∧ sep ∉ before := by
  induction s generalizing before with
  | nil => simp [cutFirst]
  | cons c s ih =>
    by_cases hc : c = sep
    · cases before with
      | nil => simp [cutFirst, hc]
      | cons d before =>
        simp only [cutFirst, hc, if_true, Option.some.injEq, Prod.mk.injEq, List.nil_eq,
          reduceCtorEq, false_and, List.cons_append, List.cons.injEq, List.mem_cons, not_or,
          false_iff]
        intro h
        exact h.2.1 h.1.1
    · cases before with
      | nil => simp [cutFirst, hc]
      | cons d before =>
        have hstep : cutFirst sep (c :: s) = some (d :: before, after) ↔
            c = d ∧ cutFirst sep s = some (before, after) := by
          rw [cutFirst, if_neg hc]
          rcases cutFirst sep s with _ | ⟨front, back⟩ <;> simp [and_assoc]
        rw [hstep, ih, List.cons_append, List.cons.injEq, List.mem_cons, not_or]
        constructor
        · rintro ⟨rfl, rfl, hnone⟩
          exact ⟨⟨rfl, rfl⟩, Ne.symm hc, hnone⟩
        · rintro ⟨⟨rfl, rfl⟩, _, hnone⟩
          exact ⟨rfl, rfl, hnone⟩

end ShardMerge.Text
