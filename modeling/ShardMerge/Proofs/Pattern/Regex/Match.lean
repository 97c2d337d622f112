import ShardMerge.Pattern.Regex.Match

/-!
# What a search for a match finds

The search follows all ways to match at once, and cuts every repetition off after one more round
than the text has characters.  That loses nothing: a match never moves back and never leaves the
text, so a longer chain of rounds has a round that stays where it is, which may be left out or
doubled.

* `Times` is a chain of rounds.  `Advances.times_min_iff` says that long chains are as good as
  chains of the length at which the search stops.
* `mem_steps_iff` and `mem_spread_iff` say which positions the two loops of the search reach.
* `Regex.mem_reach_iff` puts them together by recursion on the expression: the search reaches
  exactly the ends of the matches, if no repetition asks for more rounds than it allows.
* `Regex.isMatch_whole_iff` is the case of an expression between the two ends of the text.
-/

namespace ShardMerge

/-! ## Rounds of a repetition -/

/-- A relation leads from one position to another in so many rounds. -/
inductive Times (R : Nat → Nat → Prop) : Nat → Nat → Nat → Prop where
  | zero {p : Nat} : Times R 0 p p
  | succ {k p q r : Nat} (h : R p q) (rest : Times R k q r) : Times R (k + 1) p r

/-- A round never moves back, and leaves a text of `n` characters only where it began outside. -/
def Advances (n : Nat) (R : Nat → Nat → Prop) : Prop :=
  ∀ p q, R p q → p ≤ q ∧ q ≤ max p n

section

variable {R : Nat → Nat → Prop} {n k p q : Nat}

theorem times_add_iff {j : Nat} :
    Times R (k + j) p q ↔ ∃ m, Times R k p m ∧ Times R j m q := by
  constructor
  · intro h
    induction k generalizing p with
    | zero => exact ⟨p, .zero, by simpa using h⟩
    | succ k ih =>
      rw [show k + 1 + j = (k + j) + 1 by omega] at h
      cases h with
      | succ h rest =>
        obtain ⟨m, h₁, h₂⟩ := ih rest
        exact ⟨m, .succ h h₁, h₂⟩
  · rintro ⟨m, h₁, h₂⟩
    induction h₁ with
    | zero => simpa using h₂
    | @succ k _ _ _ h _ ih =>
      rw [show k + 1 + j = (k + j) + 1 by omega]
      exact .succ h (ih h₂)

theorem Advances.times (hR : Advances n R) (h : Times R k p q) : p ≤ q ∧ q ≤ max p n := by
  induction h with
  | zero => omega
  | succ h _ ih =>
    have := hR _ _ h
    omega

/-- A chain with more rounds than it moves has a round that stays where it is. -/
theorem Advances.times_pred_succ (hR : Advances n R) (h : Times R (k + 1) p q)
    (hk : q - p < k + 1) : Times R k p q ∧ Times R (k + 2) p q := by
  induction k generalizing p with
  | zero =>
    cases h with
    | @succ _ _ m _ h rest =>
      cases rest
      obtain rfl : q = p := by have := hR _ _ h; omega
      exact ⟨.zero, .succ h (.succ h .zero)⟩
  | succ k ih =>
    cases h with
    | @succ _ _ m _ h rest =>
      obtain ⟨hpm, _⟩ := hR _ _ h
      obtain rfl | hlt : p = m ∨ p < m := by omega
      · exact ⟨rest, .succ h (.succ h rest)⟩
      · obtain ⟨hpred, hsucc⟩ := ih rest (by omega)
        exact ⟨.succ h hpred, .succ h hsucc⟩

/-- Any number of rounds beyond the length of the text is as good as any other. -/
theorem Advances.times_enough_iff (hR : Advances n R) (hk : n < k) :
    Times R k p q ↔ Times R (n + 1) p q := by
  induction hk with
  | refl => rfl
  | @step k hk ih =>
    have hlt : n < k := hk
    rw [← ih]
    constructor
    · intro h
      have := hR.times h
      exact (hR.times_pred_succ h (by omega)).1
    · intro h
      have := hR.times h
      obtain ⟨j, rfl⟩ : ∃ j, k = j + 1 := ⟨k - 1, by omega⟩
      exact (hR.times_pred_succ h (by omega)).2

theorem Advances.times_min_iff (hR : Advances n R) :
    Times R (min k (n + 1)) p q ↔ Times R k p q := by
  obtain hk | hk : k ≤ n + 1 ∨ n < k := by omega
  · rw [Nat.min_eq_left hk]
  · rw [Nat.min_eq_right (by omega), hR.times_enough_iff hk]

theorem Advances.exists_times_min_iff (hR : Advances n R) :
    (∃ j ≤ min k (n + 1), Times R j p q) ↔ ∃ j ≤ k, Times R j p q := by
  constructor
  · rintro ⟨j, hj, h⟩
    exact ⟨j, by omega, h⟩
  · rintro ⟨j, hj, h⟩
    exact ⟨min j (n + 1), by omega, hR.times_min_iff.2 h⟩

/-- How often the search goes on after the rounds that have to be done. -/
theorem Advances.exists_times_further_iff (hR : Advances n R) {least : Nat} {most : Option Nat} :
    (∃ j ≤ (match most with
      | none => n + 1
      | some most => min (most - least) (n + 1)), Times R j p q) ↔
      ∃ j, (∀ k ∈ most, j ≤ k - least) ∧ Times R j p q := by
  cases most with
  | none =>
    constructor
    · rintro ⟨j, -, h⟩
      exact ⟨j, by simp, h⟩
    · rintro ⟨j, -, h⟩
      exact ⟨min j (n + 1), Nat.min_le_right .., hR.times_min_iff.2 h⟩
  | some most => simpa using hR.exists_times_min_iff

/-! ## The loops of the search -/

variable {step : List Nat → List Nat} {positions : List Nat}

theorem mem_steps_iff (hs : ∀ positions q, q ∈ step positions ↔ ∃ p ∈ positions, R p q) :
    q ∈ steps step k positions ↔ ∃ p ∈ positions, Times R k p q := by
  induction k generalizing positions with
  | zero =>
    constructor
    · intro h
      exact ⟨q, h, .zero⟩
    · rintro ⟨p, hp, h⟩
      cases h
      exact hp
  | succ k ih =>
    cases positions with
    | nil => simp [steps]
    | cons first others =>
      simp only [steps, List.isEmpty_cons, Bool.false_eq_true, if_false, ih, hs]
      constructor
      · rintro ⟨m, ⟨p, hp, h⟩, rest⟩
        exact ⟨p, hp, .succ h rest⟩
      · rintro ⟨p, hp, h⟩
        cases h with
        | succ h rest => exact ⟨_, ⟨p, hp, h⟩, rest⟩

theorem mem_of_mem_spread_of_subset {reached last : List Nat} (h : p ∈ reached) :
    p ∈ spread step k reached last := by
  induction k generalizing reached last with
  | zero => exact h
  | succ k ih =>
    unfold spread
    dsimp only
    split
    · exact h
    · exact ih (by simp [h])

/-- What is spread is reached from what has been reached: every round is taken from the positions
of the round before it. -/
theorem exists_of_mem_spread (hs : ∀ positions q, q ∈ step positions ↔ ∃ p ∈ positions, R p q)
    {reached last : List Nat} (h : q ∈ spread step k reached last) :
    q ∈ reached ∨ ∃ j ≤ k, ∃ p ∈ last, Times R j p q := by
  induction k generalizing reached last with
  | zero => exact .inl h
  | succ k ih =>
    unfold spread at h
    dsimp only at h
    split at h
    · exact .inl h
    · obtain h | ⟨j, hj, m, hm, rest⟩ := ih h
      · obtain h | h := List.mem_append.1 h
        · exact .inl h
        · simp only [List.mem_eraseDups, List.mem_filter, hs] at h
          obtain ⟨⟨p, hp, h⟩, -⟩ := h
          exact .inr ⟨1, by omega, p, hp, .succ h .zero⟩
      · simp only [List.mem_eraseDups, List.mem_filter, hs] at hm
        obtain ⟨⟨p, hp, hm⟩, -⟩ := hm
        exact .inr ⟨j + 1, by omega, p, hp, .succ hm rest⟩

/-- What so many rounds reach is spread, as long as only the positions of the last round may have
successors that have not been reached. -/
theorem mem_spread_of_times (hs : ∀ positions q, q ∈ step positions ↔ ∃ p ∈ positions, R p q)
    {reached last : List Nat} (hr : ∀ p ∈ reached, ∀ q, R p q → p ∈ last ∨ q ∈ reached)
    {j : Nat} (hj : j ≤ k) (hp : p ∈ reached) (h : Times R j p q) :
    q ∈ spread step k reached last := by
  induction k generalizing reached last j p with
  | zero =>
    obtain rfl : j = 0 := by omega
    cases h
    exact hp
  | succ k ih =>
    have hnext : ∀ p ∈ reached, ∀ q, R p q → q ∈ reached ∨
        q ∈ ((step last).filter fun p => !reached.contains p).eraseDups := by
      intro p hp q h
      by_cases hq : q ∈ reached
      · exact .inl hq
      · have hl : p ∈ last := (hr p hp q h).resolve_right hq
        simp only [List.mem_eraseDups, List.mem_filter, hs]
        exact .inr ⟨⟨p, hl, h⟩, by simpa using hq⟩
    unfold spread
    dsimp only
    split
    · rename_i hf
      -- no round leaves what has been reached, however many follow
      rw [List.isEmpty_iff] at hf
      simp only [hf, List.not_mem_nil, or_false] at hnext
      clear ih hj hr
      induction h with
      | zero => exact hp
      | succ h _ ihr => exact ihr (hnext _ hp _ h)
    · cases h with
      | zero => exact mem_of_mem_spread_of_subset (by simp [hp])
      | succ h rest =>
        refine ih ?_ (by omega) (List.mem_append.2 (hnext p hp _ h)) rest
        intro p hp q h
        obtain hp | hp := List.mem_append.1 hp
        · exact .inr (List.mem_append.2 (hnext p hp q h))
        · exact .inl hp

theorem mem_spread_iff (hs : ∀ positions q, q ∈ step positions ↔ ∃ p ∈ positions, R p q) :
    q ∈ spread step k positions positions ↔ ∃ p ∈ positions, ∃ j ≤ k, Times R j p q := by
  constructor
  · intro h
    obtain h | ⟨j, hj, p, hp, h⟩ := exists_of_mem_spread hs h
    · exact ⟨q, h, 0, by omega, .zero⟩
    · exact ⟨p, hp, j, hj, h⟩
  · rintro ⟨p, hp, j, hj, h⟩
    exact mem_spread_of_times hs (fun p hp q _ => .inl hp) hj hp h

end

/-! ## The ends of the matches -/

namespace Regex

variable {text : List Char} {p q : Nat}

/-- No repetition asks for more rounds than it allows. -/
def IsOrdered : Regex → Prop
  | empty | one _ | look _ => True
  | seq first second | alt first second => first.IsOrdered ∧ second.IsOrdered
  | repeated least most body => (∀ n ∈ most, least ≤ n) ∧ body.IsOrdered

theorem spans_empty_iff : Spans text .empty p q ↔ p = q :=
  ⟨fun h => by cases h; rfl, fun h => h ▸ .empty⟩

theorem spans_one_iff {set : CharClass} :
    Spans text (.one set) p q ↔ (∃ c, text[p]? = some c ∧ set.contains c = true) ∧ q = p + 1 := by
  constructor
  · intro h
    cases h with
    | one hc hs => exact ⟨⟨_, hc, hs⟩, rfl⟩
  · rintro ⟨⟨c, hc, hs⟩, rfl⟩
    exact .one hc hs

theorem spans_look_iff {condition : Look} : Spans text (.look condition) p q ↔
    condition.holds (charBefore text p) text[p]? = true ∧ p = q := by
  constructor
  · intro h
    cases h with
    | look h => exact ⟨h, rfl⟩
  · rintro ⟨h, rfl⟩
    exact .look h

theorem spans_seq_iff {first second : Regex} : Spans text (.seq first second) p q ↔
    ∃ m, Spans text first p m ∧ Spans text second m q := by
  constructor
  · intro h
    cases h with
    | seq h₁ h₂ => exact ⟨_, h₁, h₂⟩
  · rintro ⟨m, h₁, h₂⟩
    exact .seq h₁ h₂

theorem spans_alt_iff {first second : Regex} : Spans text (.alt first second) p q ↔
    Spans text first p q ∨ Spans text second p q := by
  constructor
  · intro h
    cases h with
    | altLeft h => exact .inl h
    | altRight h => exact .inr h
  · rintro (h | h)
    · exact .altLeft h
    · exact .altRight h

/-- A repetition is a chain of rounds of an allowed length. -/
theorem spans_repeated_iff {least : Nat} {most : Option Nat} {body : Regex} :
    Spans text (.repeated least most body) p q ↔
      ∃ k, least ≤ k ∧ (∀ n ∈ most, k ≤ n) ∧ Times (Spans text body) k p q := by
  constructor
  · intro h
    generalize hr : Regex.repeated least most body = r at h
    induction h generalizing least most with
    | stop =>
      cases hr
      exact ⟨0, Nat.le_refl 0, by simp, .zero⟩
    | again hm h₁ _ _ ih =>
      cases hr
      obtain ⟨k, hk, hkm, rest⟩ := ih rfl
      refine ⟨k + 1, by omega, ?_, .succ h₁ rest⟩
      intro n hn
      have hpos := hm n hn
      have := hkm (n - 1) (by simpa using ⟨n, hn, rfl⟩)
      omega
    | empty => cases hr
    | one => cases hr
    | look => cases hr
    | seq => cases hr
    | altLeft => cases hr
    | altRight => cases hr
  · rintro ⟨k, hk, hkm, h⟩
    induction h generalizing least most with
    | zero =>
      obtain rfl : least = 0 := by omega
      exact .stop
    | @succ k _ _ _ h _ ih =>
      refine .again (fun n hn => by have := hkm n hn; omega) h (ih (by omega) ?_)
      intro n hn
      obtain ⟨n', hn', rfl⟩ := Option.map_eq_some_iff.1 hn
      have := hkm n' hn'
      omega

/-- A repetition does the rounds that it has to do first, and then as many as it may. -/
theorem spans_repeated_iff_rounds {least : Nat} {most : Option Nat} {body : Regex}
    (ho : ∀ n ∈ most, least ≤ n) : Spans text (.repeated least most body) p q ↔
      ∃ m, Times (Spans text body) least p m ∧
        ∃ j, (∀ n ∈ most, j ≤ n - least) ∧ Times (Spans text body) j m q := by
  rw [spans_repeated_iff]
  constructor
  · rintro ⟨k, hk, hkm, h⟩
    obtain ⟨j, rfl⟩ := Nat.exists_eq_add_of_le hk
    obtain ⟨m, h₁, h₂⟩ := times_add_iff.1 h
    exact ⟨m, h₁, j, fun n hn => by have := hkm n hn; omega, h₂⟩
  · rintro ⟨m, h₁, j, hj, h₂⟩
    refine ⟨least + j, by omega, fun n hn => ?_, times_add_iff.2 ⟨m, h₁, h₂⟩⟩
    have := hj n hn
    have := ho n hn
    omega

/-- A match never moves back, and never leaves the text. -/
theorem advances_spans (text : List Char) (r : Regex) : Advances text.length (Spans text r) := by
  induction r with
  | empty =>
    intro p q h
    rw [spans_empty_iff] at h
    omega
  | one set =>
    intro p q h
    rw [spans_one_iff] at h
    obtain ⟨⟨c, hc, -⟩, rfl⟩ := h
    have := (List.getElem?_eq_some_iff.1 hc).1
    omega
  | look condition =>
    intro p q h
    rw [spans_look_iff] at h
    omega
  | seq first second ih₁ ih₂ =>
    intro p q h
    obtain ⟨m, h₁, h₂⟩ := spans_seq_iff.1 h
    have := ih₁ p m h₁
    have := ih₂ m q h₂
    omega
  | alt first second ih₁ ih₂ =>
    intro p q h
    obtain h | h := spans_alt_iff.1 h
    · exact ih₁ p q h
    · exact ih₂ p q h
  | repeated least most body ih =>
    intro p q h
    obtain ⟨k, -, -, h⟩ := spans_repeated_iff.1 h
    exact ih.times h

theorem mem_merge_iff {a b : List Nat} : q ∈ merge a b ↔ q ∈ a ∨ q ∈ b := by
  simp only [merge, List.mem_append, List.mem_eraseDups, List.mem_filter, List.contains_eq_mem]
  by_cases h : q ∈ a <;> simp [h]

/-- The search reaches the ends of the matches from where it begins, and nothing else. -/
theorem mem_reach_iff {r : Regex} (hr : r.IsOrdered) {positions : List Nat} :
    q ∈ reach text r positions ↔ ∃ p ∈ positions, Spans text r p q := by
  induction r generalizing positions q with
  | empty => simp [reach, spans_empty_iff]
  | one set =>
    simp only [reach, List.mem_filterMap, spans_one_iff, Option.ite_none_right_eq_some,
      Option.some.injEq, Option.any_eq_true]
    constructor
    · rintro ⟨p, hp, hc, rfl⟩
      exact ⟨p, hp, hc, rfl⟩
    · rintro ⟨p, hp, hc, rfl⟩
      exact ⟨p, hp, hc, rfl⟩
  | look condition =>
    simp only [reach, List.mem_filter, spans_look_iff]
    constructor
    · rintro ⟨hq, h⟩
      exact ⟨q, hq, h, rfl⟩
    · rintro ⟨p, hp, h, rfl⟩
      exact ⟨hp, h⟩
  | seq first second ih₁ ih₂ =>
    simp only [reach, ih₂ hr.2, ih₁ hr.1, spans_seq_iff]
    constructor
    · rintro ⟨m, ⟨p, hp, h₁⟩, h₂⟩
      exact ⟨p, hp, m, h₁, h₂⟩
    · rintro ⟨p, hp, m, h₁, h₂⟩
      exact ⟨m, ⟨p, hp, h₁⟩, h₂⟩
  | alt first second ih₁ ih₂ =>
    simp only [reach, mem_merge_iff, ih₁ hr.1, ih₂ hr.2, spans_alt_iff]
    constructor
    · rintro (⟨p, hp, h⟩ | ⟨p, hp, h⟩)
      · exact ⟨p, hp, .inl h⟩
      · exact ⟨p, hp, .inr h⟩
    · rintro ⟨p, hp, h | h⟩
      · exact .inl ⟨p, hp, h⟩
      · exact .inr ⟨p, hp, h⟩
  | repeated least most body ih =>
    have hbody := advances_spans text body
    have hstep : ∀ positions q, q ∈ reach text body positions ↔
        ∃ p ∈ positions, Spans text body p q := fun _ _ => ih hr.2
    simp only [reach, mem_spread_iff hstep, mem_steps_iff hstep, hbody.times_min_iff,
      spans_repeated_iff_rounds hr.1]
    constructor
    · rintro ⟨m, ⟨p, hp, h₁⟩, h₂⟩
      exact ⟨p, hp, m, h₁, hbody.exists_times_further_iff.1 h₂⟩
    · rintro ⟨p, hp, m, h₁, h₂⟩
      exact ⟨m, ⟨p, hp, h₁⟩, hbody.exists_times_further_iff.2 h₂⟩

theorem isMatch_iff {r : Regex} (hr : r.IsOrdered) :
    isMatch r text = true ↔ ∃ p ≤ text.length, ∃ q, Spans text r p q := by
  simp only [isMatch, Bool.not_eq_true', List.isEmpty_eq_false_iff_exists_mem, mem_reach_iff hr,
    List.mem_range, Nat.lt_succ_iff]
  constructor
  · rintro ⟨q, p, hp, h⟩
    exact ⟨p, hp, q, h⟩
  · rintro ⟨p, hp, q, h⟩
    exact ⟨q, p, hp, h⟩

/-- The start of the text is where nothing stands before a position. -/
theorem charBefore_isNone_iff (hp : p ≤ text.length) : (charBefore text p).isNone ↔ p = 0 := by
  unfold charBefore
  split
  · simp [*]
  · simp only [Option.isNone_iff_eq_none, List.getElem?_eq_none_iff]
    omega

/-- An expression between the two ends of the text matches the whole text or nothing. -/
theorem isMatch_whole_iff {r : Regex} (hr : r.IsOrdered) :
    isMatch (.seq (.look .textStart) (.seq r (.look .textEnd))) text = true ↔
      Spans text r 0 text.length := by
  have ho : (Regex.seq (.look .textStart) (.seq r (.look .textEnd))).IsOrdered :=
    show True ∧ r.IsOrdered ∧ True from ⟨trivial, hr, trivial⟩
  rw [isMatch_iff ho]
  simp only [spans_seq_iff, spans_look_iff, Look.holds]
  constructor
  · rintro ⟨p, hp, q, m, ⟨hstart, rfl⟩, m', h, hend, rfl⟩
    obtain rfl := (charBefore_isNone_iff hp).1 hstart
    have hle : text.length ≤ m' := by simpa using hend
    have := (advances_spans text r 0 m' h).2
    obtain rfl : m' = text.length := by omega
    exact h
  · intro h
    refine ⟨0, by omega, text.length, 0, ⟨?_, rfl⟩, text.length, h, ?_, rfl⟩
    · exact (charBefore_isNone_iff (by omega)).2 rfl
    · simp

end Regex

end ShardMerge
