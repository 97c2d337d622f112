import ShardMerge.Text.Split

/-!
# Cutting a text in two

What the cuts of a text make of two texts with a separator between them.

* `dropWhile_append_cons` and `dropEndWhile_append_cons` are about dropping from either end.
* `cutFirst_eq_none_iff` and `cutLast_append_cons` are about cutting at one separator.
* `splitWhen_append` and `words_append` are about cutting at all of them.  `join_splitWhen` and
  `splitWhen_join` say that the pieces are put back together as they were.
-/

namespace ShardMerge.Text

variable {p : Char → Bool} {c sep : Char} {s before after piece : List Char}
  {pieces : List (List Char)}

/-! ## Ends -/

theorem dropWhile_append_cons (hc : p c = false) (s t : List Char) :
    (s ++ c :: t).dropWhile p = s.dropWhile p ++ c :: t := by
  rw [List.dropWhile_append]
  split
  · rename_i hnil
    rw [List.isEmpty_iff.1 hnil, List.dropWhile_cons_of_neg (by simp [hc]), List.nil_append]
  · rfl

theorem dropEndWhile_append_cons (hc : p c = false) (s t : List Char) :
    dropEndWhile p (s ++ c :: t) = s ++ c :: dropEndWhile p t := by
  have hreverse : (s ++ c :: t).reverse = t.reverse ++ c :: s.reverse := by simp
  rw [dropEndWhile, hreverse, dropWhile_append_cons hc, dropEndWhile]
  simp

theorem dropEndWhile_sublist (p : Char → Bool) (s : List Char) : (dropEndWhile p s).Sublist s := by
  simpa [dropEndWhile] using (List.dropWhile_sublist (l := s.reverse) p).reverse

/-! ## One separator -/

theorem cutFirst_append (h : cutFirst sep s = some (before, after)) (t : List Char) :
    cutFirst sep (s ++ t) = some (before, after ++ t) := by
  obtain ⟨rfl, hbefore⟩ := cutFirst_eq_some_iff.1 h
  exact cutFirst_eq_some_iff.2 ⟨by simp, hbefore⟩

theorem cutFirst_eq_none_iff : cutFirst sep s = none ↔ sep ∉ s := by
  induction s with
  | nil => simp [cutFirst]
  | cons c s ih =>
    by_cases hc : c = sep
    · simp [cutFirst, hc]
    · simp [cutFirst, hc, ih, Ne.symm hc]

theorem cutLast_eq_none_iff : cutLast sep s = none ↔ sep ∉ s := by
  rw [cutLast, Option.map_eq_none_iff, cutFirst_eq_none_iff, List.mem_reverse]

/-- A cut at the last separator. -/
theorem cutLast_append_cons (h : sep ∉ after) (before : List Char) :
    cutLast sep (before ++ sep :: after) = some (before, after) := by
  have hcut : cutFirst sep (before ++ sep :: after).reverse =
      some (after.reverse, before.reverse) :=
    cutFirst_eq_some_iff.2 ⟨by simp, by simpa using h⟩
  rw [cutLast, hcut]
  simp

/-! ## All separators -/

/-- The pieces of two texts with a separator between them. -/
theorem splitWhen_append (hsep : p sep = true) (s t : List Char) :
    splitWhen p (s ++ sep :: t) = splitWhen p s ++ splitWhen p t := by
  induction s with
  | nil => exact splitWhen_cons_sep hsep t
  | cons c s ih =>
    rw [List.cons_append, splitWhen, splitWhen]
    by_cases hc : p c = true
    · rw [if_pos hc, if_pos hc, ih, List.cons_append]
    · rw [if_neg hc, if_neg hc, ih]
      cases h : splitWhen p s with
      | nil => exact absurd h (splitWhen_ne_nil p s)
      | cons piece rest => rfl

/-- A text in front of a separator that has none in it is the first piece. -/
theorem splitWhen_append_sep (h : ∀ c ∈ piece, p c = false) (hsep : p sep = true)
    (rest : List Char) : splitWhen p (piece ++ sep :: rest) = piece :: splitWhen p rest := by
  rw [splitWhen_append hsep, splitWhen_eq_singleton h, List.singleton_append]

/-- A piece has characters of the text, and no separator among them. -/
theorem of_mem_splitWhen (h : piece ∈ splitWhen p s) (hc : c ∈ piece) : c ∈ s ∧ p c = false := by
  induction s generalizing piece with
  | nil =>
    rw [splitWhen, List.mem_singleton] at h
    rw [h] at hc
    cases hc
  | cons d s ih =>
    rw [splitWhen] at h
    split at h
    · rcases List.mem_cons.1 h with rfl | h
      · cases hc
      · exact (ih h hc).imp_left (List.mem_cons_of_mem _)
    · rename_i hd
      split at h
      · rw [List.mem_singleton] at h
        rw [h, List.mem_singleton] at hc
        exact ⟨hc ▸ List.mem_cons_self, by simpa [hc] using hd⟩
      · rename_i first rest hsplit
        rw [hsplit] at ih
        rcases List.mem_cons.1 h with rfl | h
        · rcases List.mem_cons.1 hc with rfl | hc
          · exact ⟨List.mem_cons_self, by simpa using hd⟩
          · exact (ih List.mem_cons_self hc).imp_left (List.mem_cons_of_mem _)
        · exact (ih (List.mem_cons_of_mem _ h) hc).imp_left (List.mem_cons_of_mem _)

theorem join_cons (hpieces : pieces ≠ []) (sep piece : List Char) :
    join sep (piece :: pieces) = piece ++ sep ++ join sep pieces := by
  cases pieces with
  | nil => exact absurd rfl hpieces
  | cons second rest => rfl

/-- A text is put back together from its pieces. -/
theorem join_splitWhen (sep : Char) (s : List Char) : join [sep] (splitWhen (· = sep) s) = s := by
  induction s with
  | nil => rfl
  | cons c s ih =>
    have hne := splitWhen_ne_nil (fun c => decide (c = sep)) s
    rw [splitWhen]
    split
    · rename_i hc
      rw [join_cons hne, ih]
      simp [of_decide_eq_true hc]
    · cases hsplit : splitWhen (fun c => decide (c = sep)) s with
      | nil => exact absurd hsplit hne
      | cons first rest =>
        rw [hsplit] at ih
        rw [← ih]
        cases rest <;> rfl

/-- Pieces without a separator are found again. -/
theorem splitWhen_join (hsep : p sep = true) (hpieces : pieces ≠ [])
    (h : ∀ piece ∈ pieces, ∀ c ∈ piece, p c = false) : splitWhen p (join [sep] pieces) = pieces := by
  induction pieces with
  | nil => exact absurd rfl hpieces
  | cons piece rest ih =>
    rw [List.forall_mem_cons] at h
    by_cases hrest : rest = []
    · rw [hrest, join, splitWhen_eq_singleton h.1]
    · rw [join_cons hrest, List.append_assoc, List.singleton_append, splitWhen_append_sep h.1 hsep,
        ih hrest h.2]

theorem mem_of_mem_join {sep : List Char} (h : c ∈ join sep pieces) :
    c ∈ sep ∨ ∃ piece ∈ pieces, c ∈ piece := by
  induction pieces with
  | nil => cases h
  | cons piece rest ih =>
    by_cases hrest : rest = []
    · subst hrest
      exact .inr ⟨piece, List.mem_cons_self, h⟩
    · rw [join_cons hrest, List.mem_append, List.mem_append] at h
      rcases h with (h | h) | h
      · exact .inr ⟨piece, List.mem_cons_self, h⟩
      · exact .inl h
      · rcases ih h with hsep | ⟨other, hother, hc⟩
        · exact .inl hsep
        · exact .inr ⟨other, List.mem_cons_of_mem _ hother, hc⟩

theorem words_append (hc : isBlank c = true) (s t : List Char) :
    words (s ++ c :: t) = words s ++ words t := by
  rw [words, splitWhen_append hc, List.filter_append]
  rfl

end ShardMerge.Text
