import ShardMerge.Pattern.Regex.Escape
import ShardMerge.Text.Split

/-!
# Readers of a text that goes on

The readers of parts of a pattern take something from the start of a text and leave the rest.  Here a
closing parenthesis, and more of the same line, is put after the text.  Three things can happen: what
was taken is taken again, and the parenthesis stays with the rest; or a comment was open at the end of
the text, which now takes the parenthesis as well; or there was nothing to take, because the text
ended too early or because it is no pattern, and then whatever is taken now takes the parenthesis.

* `Continues` is one of the three.  A reader that always does one of them, and always leaves an
  ending of its text, `IsLocal`.
* `IsLocal.bind`, `IsLocal.uncons` and the others carry this through the ways to build readers, so
  that the lemma about a reader follows the definition of the reader.
* `IsFirm` is a reader that is tried first: the next one may only be tried if the longer text fails
  as well.
-/

namespace ShardMerge

open Text

variable {α β γ : Type}

/-- What a reader does at the end of a text, and what it does where a closing parenthesis follows
there, and after it more of the line. -/
inductive Continues (x : Option (α × List Char)) (y : List Char → Option (α × List Char)) :
    Prop where
  /-- It takes the same. -/
  | settled (a : α) (r : List Char) (hx : x = some (a, r))
      (hy : ∀ t, '\n' ∉ t → y t = some (a, r ++ ')' :: t))
  /-- It takes the same and skips the rest of the line. -/
  | swallowed (a : α) (hx : x = some (a, [])) (hy : ∀ t, '\n' ∉ t → y t = some (a, []))
  /-- It fails, or it takes the parenthesis. -/
  | unread (hx : x = none) (hy : ∀ t, '\n' ∉ t → ∀ a r, y t = some (a, r) → r <:+ t)

/-- A reader that leaves an ending of its text, and that a closing parenthesis after the text does
not keep from taking what it takes without. -/
structure IsLocal (g : List Char → Option (α × List Char)) : Prop where
  isSuffix : ∀ {s a r}, g s = some (a, r) → r <:+ s
  continues : ∀ s, Continues (g s) fun t => g (s ++ ')' :: t)

/-- A reader that a closing parenthesis does not keep from failing. -/
structure IsFirm (g : List Char → Option (α × List Char)) : Prop extends IsLocal g where
  fails : ∀ {s t}, '\n' ∉ t → g s = none → g (s ++ ')' :: t) = none

theorem Continues.congr {x : Option (α × List Char)} {y z : List Char → Option (α × List Char)}
    (h : Continues x y) (hz : ∀ t, '\n' ∉ t → z t = y t) : Continues x z := by
  cases h with
  | settled a r hx hy => exact .settled a r hx fun t ht => (hz t ht).trans (hy t ht)
  | swallowed a hx hy => exact .swallowed a hx fun t ht => (hz t ht).trans (hy t ht)
  | unread hx hy => exact .unread hx fun t ht a r h => hy t ht a r ((hz t ht).symm.trans h)

theorem not_mem_of_isSuffix {c : Char} {s t : List Char} (hs : s <:+ t) (ht : c ∉ t) : c ∉ s :=
  fun h => ht (hs.subset h)

/-! ## Ways to build readers -/

theorem IsLocal.congr {g k : List Char → Option (α × List Char)} (hk : IsLocal k)
    (h : ∀ s, g s = k s) : IsLocal g :=
  funext h ▸ hk

theorem IsFirm.congr {g k : List Char → Option (α × List Char)} (hk : IsFirm k)
    (h : ∀ s, g s = k s) : IsFirm g :=
  funext h ▸ hk

theorem isLocal_none : IsLocal (fun _ => (none : Option (α × List Char))) where
  isSuffix h := nomatch h
  continues _ := .unread rfl fun _ _ _ _ h => nomatch h

theorem continues_none : Continues (none : Option (α × List Char)) fun _ => none :=
  isLocal_none.continues []

theorem isLocal_pure (a : α) : IsLocal (fun s => some (a, s)) where
  isSuffix h := by cases h; exact List.suffix_rfl
  continues s := .settled a s rfl fun _ _ => rfl

theorem IsLocal.bind {g : List Char → Option (α × List Char)}
    {f : α → List Char → Option (β × List Char)} (hg : IsLocal g) (hf : ∀ a, IsLocal (f a)) :
    IsLocal fun s => (g s).bind fun x => f x.1 x.2 where
  isSuffix h := by
    obtain ⟨⟨a, r⟩, ha, hb⟩ := Option.bind_eq_some_iff.1 h
    exact ((hf a).isSuffix hb).trans (hg.isSuffix ha)
  continues s := by
    cases hg.continues s with
    | settled a r hx hy =>
      cases (hf a).continues r with
      | settled b r' hx' hy' =>
        exact .settled b r' (by simp [hx, hx']) fun t ht => by simp [hy t ht, hy' t ht]
      | swallowed b hx' hy' =>
        exact .swallowed b (by simp [hx, hx']) fun t ht => by simp [hy t ht, hy' t ht]
      | unread hx' hy' =>
        refine .unread (by simp [hx, hx']) fun t ht b r' h => hy' t ht b r' ?_
        simpa [hy t ht] using h
    | swallowed a hx hy =>
      -- nothing is left, with the parenthesis or without
      cases h : f a [] with
      | none =>
        exact .unread (by simp [hx, h]) fun t ht b r' h' => by simp [hy t ht, h] at h'
      | some result =>
        obtain ⟨b, r⟩ := result
        obtain rfl : r = [] := List.suffix_nil.1 ((hf a).isSuffix h)
        exact .swallowed b (by simp [hx, h]) fun t ht => by simp [hy t ht, h]
    | unread hx hy =>
      refine .unread (by simp [hx]) fun t ht b r h => ?_
      obtain ⟨⟨a, r'⟩, ha, hb⟩ := Option.bind_eq_some_iff.1 h
      exact ((hf a).isSuffix hb).trans (hy t ht a r' ha)

theorem IsLocal.map {g : List Char → Option (α × List Char)} (hg : IsLocal g) (f : α → β) :
    IsLocal fun s => (g s).map fun x => (f x.1, x.2) := by
  simp only [Option.map_eq_bind]
  exact hg.bind fun a => isLocal_pure (f a)

theorem Continues.map {x : Option (α × List Char)} {y : List Char → Option (α × List Char)}
    (h : Continues x y) (f : α → β) :
    Continues (x.map fun p => (f p.1, p.2)) fun t => (y t).map fun p => (f p.1, p.2) := by
  cases h with
  | settled a r hx hy => exact .settled (f a) r (by simp [hx]) fun t ht => by simp [hy t ht]
  | swallowed a hx hy => exact .swallowed (f a) (by simp [hx]) fun t ht => by simp [hy t ht]
  | unread hx hy =>
    refine .unread (by simp [hx]) fun t ht b r h => ?_
    obtain ⟨⟨a, r'⟩, ha, he⟩ := Option.map_eq_some_iff.1 h
    cases he
    exact hy t ht a _ ha

/-- A value that does not come from the text may be missing. -/
theorem IsLocal.given {f : γ → List Char → Option (β × List Char)} (value : Option γ)
    (hf : ∀ c, IsLocal (f c)) : IsLocal fun s => value.bind fun c => f c s := by
  cases value with
  | none => exact isLocal_none
  | some c => exact hf c

theorem IsLocal.ite (p : Prop) [Decidable p] {f g : List Char → Option (α × List Char)}
    (hf : IsLocal f) (hg : IsLocal g) : IsLocal fun s => if p then f s else g s := by
  split
  · exact hf
  · exact hg

theorem isLocal_value (value : Option α) : IsLocal fun s => value.map fun a => (a, s) := by
  cases value with
  | none => exact isLocal_none
  | some a => exact isLocal_pure a

/-- A reader of the first character may see the parenthesis, and then takes it. -/
theorem IsLocal.uncons {f : Char → List Char → Option (β × List Char)}
    (hf : ∀ c, IsLocal (f c)) :
    IsLocal fun s => (s.head?).bind fun c => f c s.tail where
  isSuffix {s} _ _ h := by
    cases s with
    | nil => cases h
    | cons c r => exact ((hf c).isSuffix h).trans (List.suffix_cons c r)
  continues s := by
    cases s with
    | nil => exact .unread rfl fun t _ _ _ h => (hf ')').isSuffix h
    | cons c r => exact (hf c).continues r

/-- Of two readers the second is tried if the first fails. -/
theorem IsFirm.orElse {g : List Char → Option (α × List Char)}
    {f : α → List Char → Option (β × List Char)} {k : List Char → Option (β × List Char)}
    (hg : IsFirm g) (hf : ∀ a, IsLocal (f a)) (hk : IsLocal k) :
    IsLocal fun s => (g s).elim (k s) fun x => f x.1 x.2 where
  isSuffix {s} _ _ h := by
    cases hs : g s with
    | none => exact hk.isSuffix (by simpa [hs] using h)
    | some x => exact ((hf x.1).isSuffix (by simpa [hs] using h)).trans (hg.isSuffix hs)
  continues s := by
    have hb := (hg.toIsLocal.bind hf).continues s
    cases hs : g s with
    | none =>
      have hy : ∀ t, '\n' ∉ t → (g (s ++ ')' :: t)).elim (k (s ++ ')' :: t)) (fun x => f x.1 x.2) =
          k (s ++ ')' :: t) := fun t ht => by simp [hg.fails ht hs]
      exact (hk.continues s).congr hy
    | some x =>
      have hy : ∀ t, '\n' ∉ t → (g (s ++ ')' :: t)).elim (k (s ++ ')' :: t)) (fun x => f x.1 x.2) =
          (g (s ++ ')' :: t)).bind fun x => f x.1 x.2 := by
        intro t ht
        cases hg.continues s with
        | settled a r _ hy => simp [hy t ht]
        | swallowed a _ hy => simp [hy t ht]
        | unread hx _ => simp [hs] at hx
      simp only [hs, Option.bind_some] at hb
      exact hb.congr hy

/-! ## Front marks -/

theorem dropFront?_append {front : List Char} (hf : ')' ∉ front) (s t : List Char) :
    dropFront? front (s ++ ')' :: t) = (dropFront? front s).map (· ++ ')' :: t) := by
  induction front generalizing s with
  | nil => simp [dropFront?]
  | cons f front ih =>
    rw [List.mem_cons, not_or] at hf
    cases s with
    | nil => simp [dropFront?, Ne.symm hf.1]
    | cons c s =>
      simp only [dropFront?, List.cons_append]
      split
      · exact ih hf.2 s
      · rfl

theorem dropFront?_eq_none_iff {front s : List Char} :
    dropFront? front s = none ↔ ∀ r, s ≠ front ++ r := by
  simp only [Option.eq_none_iff_forall_ne_some, ne_eq, dropFront?_eq_some_iff]

/-- A mark at the front of a text that is no parenthesis. -/
theorem isFirm_dropFront? {front : List Char} (hf : ')' ∉ front) :
    IsFirm fun s => (dropFront? front s).map fun r => ((), r) where
  isSuffix {s} _ r h := by
    obtain ⟨r', hr, h⟩ := Option.map_eq_some_iff.1 h
    cases h
    exact ⟨front, (dropFront?_eq_some_iff.1 hr).symm⟩
  continues s := by
    cases h : dropFront? front s with
    | none =>
      exact .unread (by simp) fun t _ _ _ h' => by simp [dropFront?_append hf, h] at h'
    | some r =>
      exact .settled () r (by simp) fun t _ => by simp [dropFront?_append hf, h]
  fails := by
    intro s t _ h
    rw [Option.map_eq_none_iff] at h
    simp [dropFront?_append hf, h]

/-- The text is read in one way after a mark, and in another way without the mark. -/
theorem IsLocal.onFront {front : List Char} (hf : ')' ∉ front)
    {f k : List Char → Option (β × List Char)} (h : IsLocal f) (hk : IsLocal k) :
    IsLocal fun s => (dropFront? front s).elim (k s) f := by
  have ho := (isFirm_dropFront? hf).orElse (fun _ => h) hk
  simpa [Option.elim_map, Function.comp_def] using ho

theorem IsFirm.onFront {front : List Char} (hf : ')' ∉ front)
    {g : List Char → Option (α × List Char)} (hg : IsFirm g) :
    IsFirm fun s => (dropFront? front s).bind g where
  toIsLocal := by
    refine (IsLocal.onFront hf hg.toIsLocal isLocal_none).congr fun s => ?_
    cases dropFront? front s <;> rfl
  fails {s} _ ht h := by
    rw [dropFront?_append hf]
    cases hs : dropFront? front s with
    | none => rfl
    | some r => exact hg.fails ht (by simpa [hs] using h)

theorem apply_head?_append {p : Option Char → Bool} (hp : p (some ')') = p none)
    (s t : List Char) : p (s ++ ')' :: t).head? = p s.head? := by
  cases s with
  | nil => exact hp
  | cons c r => rfl

/-- A test of the first character that makes no difference between a parenthesis and the end. -/
theorem isFirm_head {p : Option Char → Bool} (hp : p (some ')') = p none) :
    IsFirm fun s => if p s.head? then some ((), s) else none where
  isSuffix h := by
    obtain ⟨-, h⟩ := Option.ite_none_right_eq_some.1 h
    cases h
    exact List.suffix_rfl
  continues s := by
    simp only [apply_head?_append hp]
    split
    · exact .settled () s rfl fun _ _ => rfl
    · exact .unread rfl fun _ _ _ _ h => nomatch h
  fails {s} t _ h := by
    simp only [apply_head?_append hp]
    split at h
    · cases h
    · rename_i hn
      rw [if_neg hn]

end ShardMerge
