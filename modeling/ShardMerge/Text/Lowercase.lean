import ShardMerge.Text.Unicode.Case

/-!
# Lower case

The full mapping of a text to lower case.  It maps character by character with two exceptions:
`U+0130` becomes two characters, and a capital sigma at the end of a word becomes the final sigma
`U+03C2` where it is `U+03C3` elsewhere.

`lowercase_ascii` says that a text of ASCII characters is mapped as ASCII is.
-/

namespace ShardMerge.Text

open Unicode

/-- The lower case of one character without regard to its neighbours. -/
def lowercaseChar (c : Char) : List Char :=
  if c.toNat < 0x80 then [c.toLower]
  else if c.toNat = 0x130 then ['i', Char.ofNat 0x307]
  else [Char.ofNat (applyRuns lowercaseRuns c.toNat)]

/-- The first character that is not case-ignorable has a case. -/
def meetsCased (s : List Char) : Bool :=
  match s.dropWhile fun c => inRanges c.toNat caseIgnorableRanges with
  | [] => false
  | c :: _ => inRanges c.toNat casedRanges

/-- The lower case of a text whose earlier characters, last first, are `before`. -/
def lowercaseAfter (before : List Char) : List Char → List Char
  | [] => []
  | c :: r =>
    let lower :=
      if c.toNat = 0x3A3 then
        if meetsCased before && !meetsCased r then [Char.ofNat 0x3C2] else [Char.ofNat 0x3C3]
      else lowercaseChar c
    lower ++ lowercaseAfter (c :: before) r

/-- The lower case of a text. -/
def lowercase (s : List Char) : List Char :=
  lowercaseAfter [] s

theorem lowercaseAfter_ascii {s : List Char} (h : ∀ c ∈ s, c.toNat < 0x80)
    (before : List Char) : lowercaseAfter before s = s.map Char.toLower := by
  induction s generalizing before with
  | nil => rfl
  | cons c r ih =>
    have hc : c.toNat < 0x80 := h c (by simp)
    have hs : c.toNat ≠ 0x3A3 := by omega
    rw [lowercaseAfter, ih fun d hd => h d (List.mem_cons_of_mem _ hd)]
    simp [lowercaseChar, hc, hs]

/-- On ASCII the mapping is the one of ASCII. -/
theorem lowercase_ascii {s : List Char} (h : ∀ c ∈ s, c.toNat < 0x80) :
    lowercase s = s.map Char.toLower :=
  lowercaseAfter_ascii h []

end ShardMerge.Text
