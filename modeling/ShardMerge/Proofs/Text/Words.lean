import Mathlib.Data.List.Induction
import ShardMerge.Proofs.Lists
import ShardMerge.Proofs.Text.Cut
import ShardMerge.Text.Lowercase

/-!
# Words in lower case

The lower case of a word does not depend on the words around it, although that of a sigma depends on
the characters around it.

* `SeparatesCase` says which characters end what the case of a sigma depends on: every blank and
  both parentheses do.  `lowercase_append` cuts a text there.
* `lowerWords` are the words of a text in lower case.  `lowerWords_append` cuts them at a blank, and
  `lowerWords_trim` says that blanks at the ends do not matter.
* `exists_word_of_isInfix` finds a run of characters that has no blank within one word.
-/

namespace ShardMerge.Text

open Unicode

/-- The character is its own lower case, and what stands before it and what stands after it do not
decide the case of each other. -/
structure SeparatesCase (c : Char) : Prop where
  ne_sigma : c.toNat ≠ 0x3A3
  lowercaseChar_eq : lowercaseChar c = [c]
  not_ignorable : inRanges c.toNat caseIgnorableRanges = false
  not_cased : inRanges c.toNat casedRanges = false

variable {c : Char}

theorem SeparatesCase.meetsCased_append (hc : SeparatesCase c) (s t : List Char) :
    meetsCased (s ++ c :: t) = meetsCased s := by
  unfold meetsCased
  rw [dropWhile_append_cons hc.not_ignorable]
  cases s.dropWhile fun c => inRanges c.toNat caseIgnorableRanges with
  | nil => exact hc.not_cased
  | cons d s => rfl

/-- What stands before the character does not matter after it. -/
theorem SeparatesCase.lowercaseAfter_append (hc : SeparatesCase c) (s before t : List Char) :
    lowercaseAfter (s ++ c :: before) t = lowercaseAfter s t := by
  induction t generalizing s with
  | nil => rfl
  | cons d t ih =>
    rw [lowercaseAfter, lowercaseAfter, hc.meetsCased_append, ← List.cons_append, ih]

/-- What stands after the character does not matter before it. -/
theorem SeparatesCase.lowercase_append (hc : SeparatesCase c) (s t : List Char) :
    lowercase (s ++ c :: t) = lowercase s ++ c :: lowercase t := by
  have hafter (before : List Char) :
      lowercaseAfter before (s ++ c :: t) = lowercaseAfter before s ++ c :: lowercase t := by
    induction s generalizing before with
    | nil =>
      simp only [List.nil_append, lowercaseAfter, if_neg hc.ne_sigma, hc.lowercaseChar_eq]
      exact congrArg (c :: ·) (hc.lowercaseAfter_append [] before t)
    | cons d s ih =>
      rw [List.cons_append, lowercaseAfter, lowercaseAfter, hc.meetsCased_append, ih,
        List.append_assoc]
  exact hafter []

/-- The code points of blanks. -/
def blankCodes : List Nat :=
  [9, 10, 11, 12, 13, 0x20, 0x85, 0xA0, 0x1680, 0x2000, 0x2001, 0x2002, 0x2003, 0x2004, 0x2005,
    0x2006, 0x2007, 0x2008, 0x2009, 0x200A, 0x2028, 0x2029, 0x202F, 0x205F, 0x3000]

theorem mem_blankCodes (hc : isBlank c = true) : c.toNat ∈ blankCodes := by
  simp only [isBlank, Bool.or_eq_true, Bool.and_eq_true, decide_eq_true_eq, beq_iff_eq] at hc
  simp only [blankCodes, List.mem_cons, List.not_mem_nil, or_false]
  omega

theorem separatesCase_of_isBlank (hc : isBlank c = true) : SeparatesCase c := by
  have hall : ∀ n ∈ blankCodes, n ≠ 0x3A3 ∧ lowercaseChar (Char.ofNat n) = [Char.ofNat n] ∧
      inRanges n caseIgnorableRanges = false ∧ inRanges n casedRanges = false := by
    decide +kernel
  obtain ⟨hsigma, hlower, hignorable, hcased⟩ := hall _ (mem_blankCodes hc)
  rw [Char.ofNat_toNat] at hlower
  exact ⟨hsigma, hlower, hignorable, hcased⟩

theorem separatesCase_paren : SeparatesCase '(' ∧ SeparatesCase ')' := by
  constructor <;> constructor <;> decide +kernel

/-! ## Words -/

/-- The words of a text in lower case. -/
def lowerWords (s : List Char) : List (List Char) := words (lowercase s)

theorem lowerWords_append (hc : isBlank c = true) (s t : List Char) :
    lowerWords (s ++ c :: t) = lowerWords s ++ lowerWords t := by
  rw [lowerWords, (separatesCase_of_isBlank hc).lowercase_append, words_append hc]
  rfl

theorem lowerWords_dropWhile (s : List Char) : lowerWords (s.dropWhile isBlank) = lowerWords s := by
  induction s with
  | nil => rfl
  | cons c s ih =>
    rw [List.dropWhile_cons]
    split
    · rename_i hc
      rw [ih]
      exact (lowerWords_append hc [] s).symm
    · rfl

theorem lowerWords_dropEndWhile (s : List Char) :
    lowerWords (dropEndWhile isBlank s) = lowerWords s := by
  induction s using List.reverseRecOn with
  | nil => rfl
  | append_singleton s c ih =>
    rw [dropEndWhile, List.reverse_concat, List.dropWhile_cons]
    split
    · rename_i hc
      have hnil : lowerWords [] = [] := rfl
      rw [lowerWords_append hc, hnil, List.append_nil]
      exact ih
    · rw [← List.reverse_concat, List.reverse_reverse]

theorem lowerWords_trim (s : List Char) : lowerWords (trim s) = lowerWords s := by
  rw [trim, lowerWords_dropEndWhile, lowerWords_dropWhile]

/-! ## Runs of characters -/

variable {part s t : List Char}

theorem holds_iff_isInfix : holds part s = true ↔ part <:+: s := by
  induction s with
  | nil => simp [holds]
  | cons c s ih => rw [holds, Bool.or_eq_true, ih, List.isPrefixOf_iff_prefix, List.infix_cons_iff]

/-- A run of other characters stands on one side of a character. -/
theorem infix_append_cons_iff (hc : c ∉ part) :
    part <:+: s ++ c :: t ↔ part <:+: s ∨ part <:+: t := by
  constructor
  · intro h
    obtain ⟨before, after, h⟩ := h
    rcases List.append_eq_append_iff.1 h with ⟨rest, hs, _⟩ | ⟨rest, hpart, hrest⟩
    · exact .inl ⟨before, rest, hs.symm⟩
    · cases rest with
      | nil => exact .inl ⟨before, [], by simpa using hpart⟩
      | cons d rest =>
        obtain ⟨rfl, ht⟩ := List.cons.inj hrest
        rcases List.append_eq_append_iff.1 hpart with ⟨_, _, hmem⟩ | ⟨between, _, hbetween⟩
        · exact absurd (hmem ▸ by simp) hc
        · cases between with
          | nil =>
            have hmem : c ∈ [] ++ part := hbetween ▸ List.mem_cons_self
            exact absurd hmem hc
          | cons d between =>
            obtain ⟨_, hrest⟩ := List.cons.inj hbetween
            exact .inr ⟨between, after, by rw [ht, hrest]; rfl⟩
  · rintro (h | h)
    · exact h.trans (List.prefix_append _ _).isInfix
    · exact h.trans ((List.suffix_cons _ _).trans (List.suffix_append _ _)).isInfix

/-- A run of characters that are not blank stands within one word. -/
theorem exists_word_of_isInfix (hne : part ≠ []) (hpart : ∀ c ∈ part, isBlank c = false)
    (h : part <:+: s) : ∃ word ∈ words s, part <:+: word := by
  induction hlength : s.length using Nat.strongRecOn generalizing s with
  | ind n ih =>
    by_cases hall : ∀ c ∈ s, isBlank c = false
    · have hs : s ≠ [] := by
        rintro rfl
        exact hne (List.infix_nil.1 h)
      exact ⟨s, by simp [words, splitWhen_eq_singleton hall, hs], h⟩
    · obtain ⟨before, c, after, rfl, _, hc⟩ := exists_first_not hall
      have hblank : isBlank c = true := by simpa using hc
      have hmem : c ∉ part := fun hmem => hc (hpart c hmem)
      rw [List.length_append, List.length_cons] at hlength
      rw [words_append hblank]
      rcases (infix_append_cons_iff hmem).1 h with h | h
      · obtain ⟨word, hword, hin⟩ := ih before.length (by omega) h rfl
        exact ⟨word, List.mem_append_left _ hword, hin⟩
      · obtain ⟨word, hword, hin⟩ := ih after.length (by omega) h rfl
        exact ⟨word, List.mem_append_right _ hword, hin⟩

end ShardMerge.Text
