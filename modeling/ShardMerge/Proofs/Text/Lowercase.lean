import ShardMerge.Proofs.Text.Words

/-!
# Characters in lower case

What the mapping to lower case makes of single characters, and of the words of a text one by one.

* `exists_run_of_mem_lowercaseChar` finds the run of the table that moves a character, and the run
  says where it is moved from.
* `isBlank_of_mem_lowercaseChar` says that no other character becomes a blank, and
  `ascii_of_mem_lowercaseChar` which characters become one of ASCII.
* `toLower_of_mem_lowercase` says that nothing is left in upper case.
* `lowerWords_eq_map` maps the words of a text one at a time.
* `lowercase_map_toLower` says that it does not matter whether ASCII is mapped before, and
  `lowercase_eq_iff` that this is all there is to it where the outcome is of ASCII and has no `k`.
-/

namespace ShardMerge.Text

open Unicode

variable {c d : Char} {s t : List Char}

/-! ## ASCII -/

/-- What holds of the first 128 code points holds of every character of ASCII. -/
theorem of_ascii {P : Char → Prop} (h : ∀ n < 128, P (Char.ofNat n)) (hc : c.toNat < 128) : P c := by
  have hp := h c.toNat hc
  rwa [Char.ofNat_toNat] at hp

theorem toLower_eq_self (hc : 128 ≤ c.toNat) : c.toLower = c := by
  refine dif_neg ?_
  rintro ⟨_, hlast⟩
  have hz : c.toNat ≤ 'Z'.toNat := hlast
  have hvalue : 'Z'.toNat = 90 := rfl
  omega

theorem toLower_toLower (c : Char) : c.toLower.toLower = c.toLower := by
  by_cases hc : c.toNat < 128
  · exact of_ascii (P := fun c => c.toLower.toLower = c.toLower) (by decide) hc
  · rw [toLower_eq_self (Nat.le_of_not_lt hc), toLower_eq_self (Nat.le_of_not_lt hc)]

theorem toNat_toLower_lt_iff : c.toLower.toNat < 128 ↔ c.toNat < 128 := by
  by_cases hc : c.toNat < 128
  · exact iff_of_true (of_ascii (P := fun c => c.toLower.toNat < 128) (by decide) hc) hc
  · rw [toLower_eq_self (Nat.le_of_not_lt hc)]

theorem map_toLower_toLower (s : List Char) :
    (s.map Char.toLower).map Char.toLower = s.map Char.toLower := by
  rw [List.map_map]
  exact List.map_congr_left fun c _ => toLower_toLower c

/-! ## The table -/

/-- The run moves one code point to the other. -/
structure Moves (run : CaseRun) (n m : Nat) : Prop where
  first_le : run.first ≤ n
  le_last : n ≤ run.last
  eq_add : (m : Int) = n + run.distance

/-- No run goes below the first code point, or to one that is no character. -/
theorem lowercaseRuns_within : ∀ run ∈ lowercaseRuns, 0 ≤ run.first + run.distance ∧
    (run.last + run.distance < 0xD800 ∨
      0xDFFF < run.first + run.distance ∧ run.last + run.distance < 0x110000) := by
  decide +kernel

theorem moves_of_map? {run : CaseRun} {n m : Nat} (hrun : run ∈ lowercaseRuns)
    (h : run.map? n = some m) : Moves run n m := by
  have hfirst := (lowercaseRuns_within run hrun).1
  unfold CaseRun.map? at h
  split at h
  · rename_i hcovers
    have hm := Option.some.inj h
    simp only [CaseRun.covers, Bool.and_eq_true, decide_eq_true_eq] at hcovers
    exact ⟨hcovers.1.1, hcovers.1.2, by omega⟩
  · cases h

/-- A code point is in lower case as it is, or a run moves it. -/
theorem applyRuns_cases (n : Nat) :
    applyRuns lowercaseRuns n = n ∨
      ∃ run ∈ lowercaseRuns, Moves run n (applyRuns lowercaseRuns n) := by
  unfold applyRuns
  cases hfound : lowercaseRuns.findSome? (·.map? n) with
  | none => exact .inl rfl
  | some m =>
    obtain ⟨run, hrun, hm⟩ := List.exists_of_findSome?_eq_some hfound
    exact .inr ⟨run, hrun, moves_of_map? hrun hm⟩

theorem isValidChar_applyRuns (c : Char) : (applyRuns lowercaseRuns c.toNat).isValidChar := by
  rcases applyRuns_cases c.toNat with hsame | ⟨run, hrun, hfirst, hlast, hmoved⟩
  · rw [hsame]
    exact c.valid
  · have hwithin := lowercaseRuns_within run hrun
    rw [Nat.isValidChar]
    omega

/-- The character that a character outside of ASCII becomes, and where it comes from. -/
theorem exists_run_of_mem_lowercaseChar (hc : 128 ≤ c.toNat) (hd : d ∈ lowercaseChar c) :
    c.toNat = 0x130 ∧ (d = 'i' ∨ d = Char.ofNat 0x307) ∨
      d = c ∨ ∃ run ∈ lowercaseRuns, Moves run c.toNat d.toNat := by
  have hascii : ¬ c.toNat < 0x80 := Nat.not_lt.2 hc
  rw [lowercaseChar, if_neg hascii] at hd
  split at hd
  · rename_i hdotted
    exact .inl ⟨hdotted, by simpa using hd⟩
  · right
    rw [List.mem_singleton] at hd
    have hvalue : d.toNat = applyRuns lowercaseRuns c.toNat := by
      rw [hd, Char.ofNat, dif_pos (isValidChar_applyRuns c)]
      rfl
    rcases applyRuns_cases c.toNat with hsame | hmoved
    · rw [hsame] at hvalue
      exact .inl (Char.toNat_inj.1 hvalue)
    · rw [← hvalue] at hmoved
      exact .inr hmoved

/-! ## Single characters -/

/-- No character but `U+0130` and the sign for degrees Kelvin becomes one of ASCII. -/
theorem ascii_of_mem_lowercaseChar (hc : 128 ≤ c.toNat) (hd : d ∈ lowercaseChar c)
    (hascii : d.toNat < 128) : d = 'k' ∨ c.toNat = 0x130 ∧ d = 'i' := by
  have htable : ∀ run ∈ lowercaseRuns, run.last < 128 ∨ 128 ≤ run.first + run.distance ∨
      run.first = run.last ∧ run.first + run.distance = 'k'.toNat := by
    decide +kernel
  rcases exists_run_of_mem_lowercaseChar hc hd with
    ⟨hdotted, rfl | rfl⟩ | rfl | ⟨run, hrun, hfirst, hlast, hmoved⟩
  · exact .inr ⟨hdotted, rfl⟩
  · exact absurd hascii (by decide)
  · omega
  · left
    rcases htable run hrun with hbelow | habove | ⟨hsingle, hkelvin⟩
    · omega
    · omega
    · exact Char.toNat_inj.1 (by omega)

/-- A character outside of ASCII does not become a text of ASCII without a `k`. -/
theorem exists_mem_lowercaseChar (hc : 128 ≤ c.toNat) :
    ∃ d ∈ lowercaseChar c, 128 ≤ d.toNat ∨ d = 'k' := by
  by_cases hdotted : c.toNat = 0x130
  · refine ⟨Char.ofNat 0x307, ?_, .inl (by decide)⟩
    simp [lowercaseChar, hdotted]
  · have hascii : ¬ c.toNat < 0x80 := Nat.not_lt.2 hc
    have hlower : lowercaseChar c = [Char.ofNat (applyRuns lowercaseRuns c.toNat)] := by
      rw [lowercaseChar, if_neg hascii, if_neg hdotted]
    have hmem := hlower ▸ List.mem_singleton_self (Char.ofNat (applyRuns lowercaseRuns c.toNat))
    refine ⟨_, hmem, ?_⟩
    by_contra hnone
    rw [not_or] at hnone
    rcases ascii_of_mem_lowercaseChar hc hmem (Nat.lt_of_not_le hnone.1) with hk | ⟨hsame, _⟩
    · exact hnone.2 hk
    · exact hdotted hsame

/-- A character that is no blank does not become one. -/
theorem isBlank_of_mem_lowercaseChar (hd : d ∈ lowercaseChar c) (hblank : isBlank d = true) :
    isBlank c = true := by
  have htable : ∀ run ∈ lowercaseRuns, ∀ m ∈ blankCodes,
      m < run.first + run.distance ∨ run.last + run.distance < m := by
    decide +kernel
  by_cases hc : c.toNat < 128
  · have hself : isBlank c.toLower = isBlank c :=
      of_ascii (P := fun c => isBlank c.toLower = isBlank c) (by decide) hc
    rw [lowercaseChar, if_pos hc, List.mem_singleton] at hd
    rw [← hself, ← hd, hblank]
  · rcases exists_run_of_mem_lowercaseChar (Nat.le_of_not_lt hc) hd with
      ⟨_, rfl | rfl⟩ | rfl | ⟨run, hrun, hfirst, hlast, hmoved⟩
    · exact absurd hblank (by decide)
    · exact absurd hblank (by decide)
    · exact hblank
    · have houtside := htable run hrun _ (mem_blankCodes hblank)
      omega

theorem toLower_of_mem_lowercaseChar (hd : d ∈ lowercaseChar c) : d.toLower = d := by
  by_cases hc : c.toNat < 128
  · rw [lowercaseChar, if_pos hc, List.mem_singleton] at hd
    rw [hd, toLower_toLower]
  · by_cases hascii : d.toNat < 128
    · rcases ascii_of_mem_lowercaseChar (Nat.le_of_not_lt hc) hd hascii with rfl | ⟨_, rfl⟩ <;> decide
    · exact toLower_eq_self (Nat.le_of_not_lt hascii)

theorem lowercaseChar_ne_nil (c : Char) : lowercaseChar c ≠ [] := by
  unfold lowercaseChar
  split_ifs <;> simp

theorem lowercaseChar_toLower (c : Char) : lowercaseChar c.toLower = lowercaseChar c := by
  by_cases hc : c.toNat < 128
  · rw [lowercaseChar, lowercaseChar, if_pos hc, if_pos (toNat_toLower_lt_iff.2 hc),
      toLower_toLower]
  · rw [toLower_eq_self (Nat.le_of_not_lt hc)]

/-! ## Texts -/

/-- The two letters that a capital sigma can become. -/
def sigmas : List Char := [Char.ofNat 0x3C3, Char.ofNat 0x3C2]

theorem of_mem_sigmas (hd : d ∈ sigmas) : 128 ≤ d.toNat ∧ d.toLower = d ∧ isBlank d = false := by
  rcases List.mem_pair.1 hd with rfl | rfl <;> decide

/-- What a character becomes in a text. -/
theorem exists_lowercaseAfter_cons (before : List Char) (c : Char) (s : List Char) :
    ∃ lower, lowercaseAfter before (c :: s) = lower ++ lowercaseAfter (c :: before) s ∧
      (lower = lowercaseChar c ∨ c.toNat = 0x3A3 ∧ ∃ sigma ∈ sigmas, lower = [sigma]) := by
  rw [lowercaseAfter]
  refine ⟨_, rfl, ?_⟩
  split
  · rename_i hsigma
    right
    refine ⟨hsigma, ?_⟩
    split
    · exact ⟨_, by decide, rfl⟩
    · exact ⟨_, by decide, rfl⟩
  · exact .inl rfl

/-- What stands in the lower case of a text comes from one of its characters. -/
theorem exists_of_mem_lowercaseAfter {before : List Char} (hd : d ∈ lowercaseAfter before s) :
    ∃ c ∈ s, d ∈ lowercaseChar c ∨ d ∈ sigmas := by
  induction s generalizing before with
  | nil => cases hd
  | cons c s ih =>
    obtain ⟨lower, hlower, hcases⟩ := exists_lowercaseAfter_cons before c s
    rw [hlower, List.mem_append] at hd
    rcases hd with hd | hd
    · refine ⟨c, List.mem_cons_self, ?_⟩
      rcases hcases with rfl | ⟨_, sigma, hsigma, rfl⟩
      · exact .inl hd
      · exact .inr (List.mem_singleton.1 hd ▸ hsigma)
    · obtain ⟨e, he, hd⟩ := ih hd
      exact ⟨e, List.mem_cons_of_mem _ he, hd⟩

/-- A text that is not all ASCII does not become one of ASCII without a `k`. -/
theorem exists_mem_lowercaseAfter (before : List Char) (hc : c ∈ s) (hascii : 128 ≤ c.toNat) :
    ∃ d ∈ lowercaseAfter before s, 128 ≤ d.toNat ∨ d = 'k' := by
  induction s generalizing before with
  | nil => cases hc
  | cons e s ih =>
    obtain ⟨lower, hlower, hcases⟩ := exists_lowercaseAfter_cons before e s
    rw [hlower]
    rcases List.mem_cons.1 hc with rfl | hc
    · rcases hcases with rfl | ⟨_, sigma, hsigma, rfl⟩
      · obtain ⟨d, hd, houtside⟩ := exists_mem_lowercaseChar hascii
        exact ⟨d, List.mem_append_left _ hd, houtside⟩
      · exact ⟨sigma, List.mem_append_left _ (List.mem_singleton_self _),
          .inl (of_mem_sigmas hsigma).1⟩
    · obtain ⟨d, hd, houtside⟩ := ih (e :: before) hc
      exact ⟨d, List.mem_append_right _ hd, houtside⟩

/-- Nothing is left in upper case. -/
theorem toLower_of_mem_lowercase (hd : d ∈ lowercase s) : d.toLower = d := by
  obtain ⟨c, _, hd | hd⟩ := exists_of_mem_lowercaseAfter hd
  · exact toLower_of_mem_lowercaseChar hd
  · exact (of_mem_sigmas hd).2.1

/-- A text without a blank has none in lower case. -/
theorem isBlank_of_mem_lowercase (hs : ∀ c ∈ s, isBlank c = false) (hd : d ∈ lowercase s) :
    isBlank d = false := by
  obtain ⟨c, hc, hd | hd⟩ := exists_of_mem_lowercaseAfter hd
  · by_contra hblank
    have hsource := isBlank_of_mem_lowercaseChar hd (by simpa using hblank)
    rw [hs c hc] at hsource
    cases hsource
  · exact (of_mem_sigmas hd).2.2

theorem lowercase_ne_nil (hs : s ≠ []) : lowercase s ≠ [] := by
  obtain ⟨c, s, rfl⟩ := List.exists_cons_of_ne_nil hs
  obtain ⟨lower, hlower, hcases⟩ := exists_lowercaseAfter_cons [] c s
  intro hnil
  rw [lowercase, hlower, List.append_eq_nil_iff] at hnil
  rcases hcases with rfl | ⟨_, sigma, _, rfl⟩
  · exact lowercaseChar_ne_nil c hnil.1
  · cases hnil.1

/-- The words of a text are mapped one at a time. -/
theorem lowerWords_eq_map (s : List Char) : lowerWords s = (words s).map lowercase := by
  induction hlength : s.length using Nat.strongRecOn generalizing s with
  | ind n ih =>
    by_cases hall : ∀ c ∈ s, isBlank c = false
    · have hlower : ∀ d ∈ lowercase s, isBlank d = false := fun d => isBlank_of_mem_lowercase hall
      rw [lowerWords, words, words, splitWhen_eq_singleton hall, splitWhen_eq_singleton hlower]
      by_cases hs : s = []
      · subst hs
        rfl
      · simp [hs, lowercase_ne_nil hs]
    · obtain ⟨before, c, after, rfl, _, hc⟩ := exists_first_not hall
      have hblank : isBlank c = true := by simpa using hc
      rw [List.length_append, List.length_cons] at hlength
      rw [lowerWords_append hblank, words_append hblank, List.map_append,
        ih before.length (by omega) before rfl, ih after.length (by omega) after rfl]

/-! ## Texts in which ASCII has been mapped -/

theorem meetsCased_map_toLower (s : List Char) : meetsCased (s.map Char.toLower) = meetsCased s := by
  have hranges (c : Char) : inRanges c.toLower.toNat caseIgnorableRanges =
      inRanges c.toNat caseIgnorableRanges ∧
        inRanges c.toLower.toNat casedRanges = inRanges c.toNat casedRanges := by
    by_cases hc : c.toNat < 128
    · exact of_ascii (P := fun c => inRanges c.toLower.toNat caseIgnorableRanges =
        inRanges c.toNat caseIgnorableRanges ∧
          inRanges c.toLower.toNat casedRanges = inRanges c.toNat casedRanges)
        (by decide +kernel) hc
    · rw [toLower_eq_self (Nat.le_of_not_lt hc)]
      exact ⟨rfl, rfl⟩
  induction s with
  | nil => rfl
  | cons c s ih =>
    unfold meetsCased at ih ⊢
    rw [List.map_cons, List.dropWhile_cons, List.dropWhile_cons, (hranges c).1]
    cases inRanges c.toNat caseIgnorableRanges with
    | true => exact ih
    | false => exact (hranges c).2

/-- It does not matter whether ASCII is mapped before. -/
theorem lowercase_map_toLower (s : List Char) : lowercase (s.map Char.toLower) = lowercase s := by
  have hsigma (c : Char) : c.toLower.toNat = 0x3A3 ↔ c.toNat = 0x3A3 := by
    by_cases hc : c.toNat < 128
    · have hlower := toNat_toLower_lt_iff.2 hc
      omega
    · rw [toLower_eq_self (Nat.le_of_not_lt hc)]
  have hafter (before : List Char) :
      lowercaseAfter (before.map Char.toLower) (s.map Char.toLower) = lowercaseAfter before s := by
    induction s generalizing before with
    | nil => rfl
    | cons c s ih =>
      simp only [List.map_cons, lowercaseAfter, meetsCased_map_toLower, lowercaseChar_toLower,
        hsigma]
      rw [← List.map_cons, ih]
  exact hafter []

/-- A text of ASCII without a `k` is the lower case of just those texts that become it when ASCII
alone is mapped. -/
theorem lowercase_eq_iff (ht : ∀ d ∈ t, d.toNat < 128 ∧ d ≠ 'k') :
    lowercase s = t ↔ s.map Char.toLower = t := by
  constructor
  · intro h
    have hs : ∀ c ∈ s, c.toNat < 0x80 := by
      intro c hc
      by_contra hascii
      obtain ⟨d, hd, houtside⟩ := exists_mem_lowercaseAfter [] hc
        (Nat.le_of_not_lt hascii)
      obtain ⟨hbelow, hk⟩ := ht d (h ▸ hd)
      exact houtside.elim (Nat.not_le.2 hbelow) hk
    rw [← lowercase_ascii hs, h]
  · rintro rfl
    have hs : ∀ c ∈ s, c.toNat < 0x80 := by
      intro c hc
      exact toNat_toLower_lt_iff.1 (ht _ (List.mem_map_of_mem hc)).1
    exact lowercase_ascii hs

end ShardMerge.Text
