import ShardMerge.Pattern.Glob

/-!
# What wildcards cover

A pattern covers a name exactly if the name can be cut into pieces, one for each character of the
pattern.

* `Tells` reads a table of answers, one for each ending of a name.  `tells_endings` is the induction
  on the pattern, with one lemma for each kind of character.
* `search_eq` says that the search by position always has an answer, and that both ways to decide
  agree.
-/

namespace ShardMerge.Glob

variable {pattern name : List Char} {c : Char}

/-! ## Pieces -/

@[simp] theorem covers_nil_iff : Covers [] name ↔ name = [] := by
  constructor
  · rintro ⟨⟩
    rfl
  · rintro rfl
    exact .nil

theorem covers_star_iff :
    Covers ('*' :: pattern) name ↔ ∃ rest, rest <:+ name ∧ Covers pattern rest := by
  constructor
  · intro h
    cases h with
    | @any piece _ rest h => exact ⟨rest, List.suffix_append piece rest, h⟩
    | itself hs _ _ => exact absurd rfl hs
  · rintro ⟨rest, ⟨piece, rfl⟩, h⟩
    exact .any piece h

theorem covers_one_iff :
    Covers ('?' :: pattern) name ↔ ∃ d rest, name = d :: rest ∧ Covers pattern rest := by
  constructor
  · intro h
    cases h with
    | one d h => exact ⟨d, _, rfl, h⟩
    | itself _ hq _ => exact absurd rfl hq
  · rintro ⟨d, rest, rfl, h⟩
    exact .one d h

theorem covers_itself_iff (hs : c ≠ '*') (hq : c ≠ '?') :
    Covers (c :: pattern) name ↔ ∃ rest, name = c :: rest ∧ Covers pattern rest := by
  constructor
  · intro h
    cases h with
    | any piece h => exact absurd rfl hs
    | one d h => exact absurd rfl hq
    | itself _ _ h => exact ⟨_, rfl, h⟩
  · rintro ⟨rest, rfl, h⟩
    exact .itself hs hq h

/-! ## The table of endings -/

/-- The entries of a table say which endings of a name have a property, the longest first. -/
inductive Tells (P : List Char → Prop) : (table : List Bool) → (name : List Char) → Prop where
  | nil {b : Bool} (h : b = true ↔ P []) : Tells P [b] []
  | cons {b : Bool} {table : List Bool} {c : Char} {name : List Char} (h : b = true ↔ P (c :: name))
      (later : Tells P table name) : Tells P (b :: table) (c :: name)

namespace Tells

variable {P Q : List Char → Prop} {table : List Bool}

theorem congr (hPQ : ∀ ending, P ending ↔ Q ending) (h : Tells P table name) :
    Tells Q table name := by
  induction h with
  | nil h => exact .nil (h.trans (hPQ []))
  | cons h _ ih => exact .cons (h.trans (hPQ _)) ih

theorem headD_iff (h : Tells P table name) : table.headD false = true ↔ P name := by
  cases h with
  | nil h => exact h
  | cons h _ => exact h

theorem orLater (h : Tells P table name) :
    Tells (fun ending => ∃ rest, rest <:+ ending ∧ P rest) (Glob.orLater table) name := by
  induction h with
  | nil h => exact .nil (by simp [Glob.orLater, h])
  | cons h later ih =>
    refine .cons ?_ ih
    rw [Bool.or_eq_true, h, ih.headD_iff]
    simp only [List.suffix_cons_iff, or_and_right, exists_or, exists_eq_left]

/-- Each entry moves to the ending that is longer by one character. -/
theorem longer (h : Tells P table name) :
    Tells (fun ending => ∃ c rest, ending = c :: rest ∧ P rest) (table.tail ++ [false]) name := by
  induction h with
  | nil h => exact .nil (by simp)
  | @cons b table c name h later ih =>
    cases later with
    | nil hrest => exact .cons (by simp [hrest, and_assoc]) ih
    | cons hrest _ => exact .cons (by simp [hrest, and_assoc]) ih

/-- Each entry moves to the ending that is longer by a certain character. -/
theorem longerBy (c : Char) (h : Tells P table name) :
    Tells (fun ending => ∃ rest, ending = c :: rest ∧ P rest)
      (List.zipWith (fun d covered => d = c && covered) name table.tail ++ [false]) name := by
  induction h with
  | nil h => exact .nil (by simp)
  | @cons b table d name h later ih =>
    cases later with
    | nil hrest => exact .cons (by simp [hrest, and_assoc]) ih
    | cons hrest _ => exact .cons (by simp [hrest, and_assoc]) ih

end Tells

theorem tells_endings (pattern name : List Char) :
    Tells (Covers pattern) (endings name pattern) name := by
  induction pattern with
  | nil =>
    unfold endings
    induction name with
    | nil => exact .nil (by simp)
    | cons c name ih => exact .cons (by simp) ih
  | cons c pattern ih =>
    rw [endings]
    by_cases hstar : c = '*'
    · subst hstar
      exact ih.orLater.congr fun _ => covers_star_iff.symm
    · by_cases hone : c = '?'
      · subst hone
        exact ih.longer.congr fun _ => covers_one_iff.symm
      · simp only [hstar, hone, if_false]
        exact (ih.longerBy c).congr fun _ => (covers_itself_iff hstar hone).symm

theorem matchesName_iff (pattern name : List Char) :
    matchesName pattern name = true ↔ Covers pattern name :=
  (tells_endings pattern name).headD_iff

/-! ## One character of a pattern -/

theorem matchesName_nil : matchesName [] name = decide (name = []) := by
  rw [Bool.eq_iff_iff, matchesName_iff, covers_nil_iff, decide_eq_true_iff]

theorem matchesName_one_nil : matchesName ('?' :: pattern) [] = false := by
  rw [Bool.eq_false_iff, ne_eq, matchesName_iff, covers_one_iff]
  rintro ⟨d, rest, h, -⟩
  cases h

theorem matchesName_one_cons (d : Char) :
    matchesName ('?' :: pattern) (d :: name) = matchesName pattern name := by
  rw [Bool.eq_iff_iff, matchesName_iff, matchesName_iff, covers_one_iff]
  simp [and_assoc]

theorem matchesName_itself_nil (hs : c ≠ '*') (hq : c ≠ '?') :
    matchesName (c :: pattern) [] = false := by
  rw [Bool.eq_false_iff, ne_eq, matchesName_iff, covers_itself_iff hs hq]
  rintro ⟨rest, h, -⟩
  cases h

theorem matchesName_itself_cons (hs : c ≠ '*') (hq : c ≠ '?') (d : Char) :
    matchesName (c :: pattern) (d :: name) = if d = c then matchesName pattern name else false := by
  rw [Bool.eq_iff_iff, matchesName_iff, covers_itself_iff hs hq]
  by_cases hd : d = c
  · simp [hd, matchesName_iff]
  · simp [hd]

theorem matchesName_star_nil : matchesName ('*' :: pattern) [] = matchesName pattern [] := by
  rw [Bool.eq_iff_iff, matchesName_iff, matchesName_iff, covers_star_iff]
  simp

/-- A star takes nothing, or it takes the first character and goes on. -/
theorem matchesName_star_cons (d : Char) :
    matchesName ('*' :: pattern) (d :: name) =
      (matchesName pattern (d :: name) || matchesName ('*' :: pattern) name) := by
  rw [Bool.eq_iff_iff, Bool.or_eq_true]
  simp only [matchesName_iff, covers_star_iff, List.suffix_cons_iff, or_and_right, exists_or,
    exists_eq_left]

theorem matchesName_star : matchesName ['*'] name = true := by
  rw [matchesName_iff, covers_star_iff]
  exact ⟨[], List.nil_suffix, .nil⟩

/-- Stars in a row are as good as one. -/
theorem matchesName_star_star :
    matchesName ('*' :: '*' :: pattern) name = matchesName ('*' :: pattern) name := by
  induction name with
  | nil => rw [matchesName_star_nil]
  | cons d name ih => rw [matchesName_star_cons, ih, matchesName_star_cons, Bool.or_assoc,
      Bool.or_self]

/-! ## The search by position -/

theorem pastStars_eq {i : Nat} (hi : i ≤ pattern.length) :
    ∃ k hk, pastStars pattern i = some ⟨k, hk⟩ ∧ k ≤ pattern.length ∧
      ∀ name, matchesName ('*' :: pattern.drop i) name =
        matchesName ('*' :: pattern.drop k) name := by
  induction hn : pattern.length - i generalizing i with
  | zero =>
    have hend : ¬i < pattern.length := by omega
    exact ⟨i, Nat.le_refl i, by rw [pastStars, if_neg hend], hi, fun _ => rfl⟩
  | succ n ih =>
    have hlt : i < pattern.length := by omega
    rw [pastStars, if_pos hlt, List.getElem?_eq_getElem hlt]
    by_cases hstar : pattern[i] = '*'
    · obtain ⟨k, hk, hpast, hle, hcovers⟩ := ih hlt (by omega)
      refine ⟨k, Nat.le_of_succ_le hk, by simp [hstar, hpast], hle, ?_⟩
      intro name
      rw [List.drop_eq_getElem_cons hlt, hstar, matchesName_star_star]
      exact hcovers name
    · exact ⟨i, Nat.le_refl i, by simp [hstar], hi, fun _ => rfl⟩

/-- Where the search from each position is right, the search from all later ones is. -/
theorem searchFrom_eq {i : Nat}
    (h : ∀ j, j ≤ name.length →
      search pattern name i j = some (matchesName (pattern.drop i) (name.drop j)))
    {j : Nat} (hj : j ≤ name.length) :
    searchFrom pattern name i j = some (matchesName ('*' :: pattern.drop i) (name.drop j)) := by
  induction hn : name.length - j generalizing j with
  | zero =>
    have hend : j = name.length := by omega
    subst hend
    have hbeyond : searchFrom pattern name i (name.length + 1) = some false := by
      rw [searchFrom, if_neg (by omega)]
    rw [searchFrom, if_pos hj, h _ hj, List.drop_length, matchesName_star_nil, hbeyond]
    cases matchesName (pattern.drop i) [] <;> rfl
  | succ n ih =>
    have hlt : j < name.length := by omega
    rw [searchFrom, if_pos hj, h j hj, ih hlt (by omega), List.drop_eq_getElem_cons hlt,
      matchesName_star_cons]
    cases matchesName (pattern.drop i) (name[j] :: name.drop (j + 1)) <;> rfl

/-- The search always has an answer, and it is that of the table. -/
theorem search_eq {i j : Nat} (hi : i ≤ pattern.length) (hj : j ≤ name.length) :
    search pattern name i j = some (matchesName (pattern.drop i) (name.drop j)) := by
  induction hn : pattern.length - i using Nat.strongRecOn generalizing i j with
  | ind n ih =>
    rw [search]
    by_cases hlt : i < pattern.length
    · rw [if_pos hlt, List.getElem?_eq_getElem hlt, List.drop_eq_getElem_cons hlt]
      have hnext {j : Nat} (hj : j < name.length) := ih _ (by omega) hlt (Nat.succ_le_of_lt hj) rfl
      generalize pattern[i] = c
      by_cases hstar : c = '*'
      · -- The search goes on behind the stars, where less of the pattern is left.
        subst hstar
        obtain ⟨k, hk, hpast, hle, hcovers⟩ := pastStars_eq (Nat.succ_le_of_lt hlt)
        have hfrom := searchFrom_eq (fun j hj => ih _ (by omega) hle hj rfl) hj
        simp only [hpast, hcovers, if_true]
        split
        · rename_i hend
          rw [hend, List.drop_length, matchesName_star]
        · exact hfrom
      · by_cases hone : c = '?'
        · subst hone
          simp only [hstar, if_false, if_true]
          by_cases hj' : j < name.length
          · rw [if_pos hj', hnext hj', List.drop_eq_getElem_cons hj', matchesName_one_cons]
          · rw [if_neg hj', List.drop_eq_nil_of_le (Nat.le_of_not_lt hj'), matchesName_one_nil]
        · simp only [hstar, hone, if_false]
          by_cases hj' : j < name.length
          · simp only [if_pos hj', List.getElem?_eq_getElem hj', hnext hj']
            rw [List.drop_eq_getElem_cons hj', matchesName_itself_cons hstar hone]
            split <;> rfl
          · rw [if_neg hj', List.drop_eq_nil_of_le (Nat.le_of_not_lt hj'),
              matchesName_itself_nil hstar hone]
    · have hend : i = pattern.length := by omega
      subst hend
      rw [if_neg hlt, List.drop_length, matchesName_nil]
      simp only [Option.some.injEq, decide_eq_decide, List.drop_eq_nil_iff]
      omega

/-- The search by position always has an answer, so it reads no character that is not there.  It is
that of the table, and both say whether the name can be cut into pieces. -/
theorem search_covers (pattern name : List Char) :
    search pattern name 0 0 = some (matchesName pattern name) ∧
      (matchesName pattern name = true ↔ Covers pattern name) :=
  ⟨search_eq (Nat.zero_le _) (Nat.zero_le _), matchesName_iff pattern name⟩

end ShardMerge.Glob
