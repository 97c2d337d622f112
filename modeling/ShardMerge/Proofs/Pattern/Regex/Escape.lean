import ShardMerge.Proofs.Pattern.Regex.Locality
import ShardMerge.Proofs.Text.Cut

/-!
# Escapes before more text

The readers of escapes, and what they are built from, are local.

* `PatternFlags.isLocal_skip` is the one step that can take what stands after the text: a comment
  that is open there goes on to the end of the line.
* `Escape.isLocal_read` is the reader of escapes.
-/

namespace ShardMerge

open Text

/-! ## Blanks and comments -/

namespace PatternFlags

theorem isSuffix_dropSpace (inComment : Bool) (s : List Char) : dropSpace inComment s <:+ s := by
  induction s generalizing inComment with
  | nil => simp [dropSpace]
  | cons c r ih =>
    unfold dropSpace
    split
    · exact (ih _).trans (List.suffix_cons c r)
    · split
      · exact (ih _).trans (List.suffix_cons c r)
      · split
        · exact (ih _).trans (List.suffix_cons c r)
        · exact List.suffix_rfl

/-- A comment takes the whole line. -/
theorem dropSpace_of_not_mem {t : List Char} (ht : '\n' ∉ t) : dropSpace true t = [] := by
  induction t with
  | nil => rfl
  | cons c r ih =>
    rw [List.mem_cons, not_or] at ht
    simp [dropSpace, Ne.symm ht.1, ih ht.2]

theorem isLocal_dropSpace (inComment : Bool) :
    IsLocal fun s => some ((), dropSpace inComment s) where
  isSuffix h := by cases h; exact isSuffix_dropSpace _ _
  continues s := by
    induction s generalizing inComment with
    | nil =>
      cases inComment with
      | true =>
        exact .swallowed () rfl fun t ht => by simp [dropSpace, dropSpace_of_not_mem ht]
      | false => exact .settled () [] rfl fun t _ => rfl
    | cons c r ih =>
      simp only [List.cons_append, dropSpace]
      split
      · exact ih _
      · split
        · exact ih _
        · split
          · exact ih _
          · exact .settled () (c :: r) rfl fun t _ => rfl

theorem isLocal_skip (flags : PatternFlags) : IsLocal fun s => some ((), flags.skip s) := by
  unfold skip
  split
  · exact isLocal_dropSpace false
  · exact isLocal_pure ()

theorem isSuffix_skip (flags : PatternFlags) (s : List Char) : flags.skip s <:+ s :=
  (flags.isLocal_skip).isSuffix rfl

@[simp] theorem skip_nil (flags : PatternFlags) : flags.skip [] = [] :=
  List.suffix_nil.1 (flags.isSuffix_skip [])

theorem skip_append_of_cons {flags : PatternFlags} {s r t : List Char} {c : Char}
    (hs : flags.skip s = c :: r) (ht : '\n' ∉ t) :
    flags.skip (s ++ ')' :: t) = c :: (r ++ ')' :: t) := by
  cases (flags.isLocal_skip).continues s with
  | settled _ r' hx hy =>
    obtain rfl : c :: r = r' := by simpa [hs] using hx
    simpa using hy t ht
  | swallowed _ hx _ => simp [hs] at hx
  | unread hx _ => cases hx

/-- What is skipped may be skipped before a reader that is tried first. -/
theorem isFirm_skip (flags : PatternFlags) {α : Type} {g : List Char → Option (α × List Char)}
    (hg : IsFirm g) : IsFirm fun s => g (flags.skip s) where
  toIsLocal := (flags.isLocal_skip).bind fun _ => hg.toIsLocal
  fails {s} t ht h := by
    cases (flags.isLocal_skip).continues s with
    | settled _ r hx hy =>
      cases hx
      have hs : flags.skip (s ++ ')' :: t) = flags.skip s ++ ')' :: t := by simpa using hy t ht
      rw [hs]
      exact hg.fails ht h
    | swallowed _ hx hy =>
      have hs : flags.skip (s ++ ')' :: t) = flags.skip s := by
        simpa using (hy t ht).trans hx.symm
      rw [hs]
      exact h
    | unread hx _ => cases hx

theorem skipped?_parenthesis (flags : PatternFlags) (inComment : Bool) :
    flags.skipped? inComment ')' = if inComment then some true else none := by
  have hb : isBlank ')' = false := by decide
  cases inComment <;> simp [skipped?, hb]

theorem skipped?_of_ne {flags : PatternFlags} {c : Char} (hc : '\n' ≠ c) :
    flags.skipped? true c = some true := by
  simp [skipped?, Ne.symm hc]

end PatternFlags

theorem isLocal_dropBlanks : IsLocal fun s => some ((), s.dropWhile isBlank) where
  isSuffix h := by cases h; exact List.dropWhile_suffix _
  continues s := by
    refine .settled () _ rfl fun t _ => ?_
    induction s with
    | nil => rfl
    | cons c r ih =>
      simp only [List.cons_append, List.dropWhile_cons]
      split
      · exact ih
      · rfl

theorem isSuffix_cutFirst {sep : Char} {s a r : List Char} (h : cutFirst sep s = some (a, r)) :
    r <:+ s :=
  ⟨a ++ [sep], by simp [(cutFirst_eq_some_iff.1 h).1]⟩

theorem isLocal_cutFirst {sep : Char} (hs : ')' ≠ sep) : IsLocal (cutFirst sep) where
  isSuffix := isSuffix_cutFirst
  continues s := by
    induction s with
    | nil =>
      refine .unread rfl fun t _ a r h => ?_
      simp only [List.nil_append, cutFirst, if_neg hs] at h
      obtain ⟨⟨a', r'⟩, h', he⟩ := Option.map_eq_some_iff.1 h
      cases he
      exact isSuffix_cutFirst h'
    | cons c s ih =>
      simp only [List.cons_append, cutFirst]
      split
      · exact .settled [] s rfl fun t _ => rfl
      · exact ih.map (c :: ·)

/-- What is cut off beyond a text without the separator has the parenthesis after it. -/
theorem mem_of_cutFirst_append {sep : Char} (hs : ')' ≠ sep) {s t a r : List Char}
    (h : cutFirst sep s = none) (hl : cutFirst sep (s ++ ')' :: t) = some (a, r)) : ')' ∈ a := by
  induction s generalizing a with
  | nil =>
    simp only [List.nil_append, cutFirst, if_neg hs] at hl
    obtain ⟨_, -, he⟩ := Option.map_eq_some_iff.1 hl
    cases he
    exact List.mem_cons_self
  | cons c s ih =>
    simp only [List.cons_append, cutFirst] at h hl
    split at h
    · cases h
    · rename_i hc
      rw [if_neg hc] at hl
      obtain ⟨_, hcut, he⟩ := Option.map_eq_some_iff.1 hl
      cases he
      exact List.mem_cons_of_mem c (ih (Option.map_eq_none_iff.1 h) hcut)

/-! ## Escapes -/

namespace Escape

variable (flags : PatternFlags)

theorem isLocal_takeHex (count value : Nat) : IsLocal (takeHex flags count value) := by
  induction count generalizing value with
  | zero => exact isLocal_pure value
  | succ count ih =>
    refine IsLocal.congr ((flags.isLocal_skip).bind fun _ => .uncons fun c =>
      .given (Json.hexValue? c) fun digit => ih (value * 16 + digit)) fun s => ?_
    simp only [takeHex, Option.bind_some]
    cases flags.skip s <;> rfl

variable {flags} in
theorem isSuffix_takeBraced {inComment : Bool} {s a r : List Char}
    (h : takeBraced flags inComment s = some (a, r)) : r <:+ s := by
  induction s generalizing inComment a with
  | nil => cases h
  | cons c s ih =>
    unfold takeBraced at h
    split at h
    · exact (ih h).trans (List.suffix_cons c s)
    · split at h
      · cases h
        exact List.suffix_cons c _
      · obtain ⟨⟨a', r'⟩, h', he⟩ := Option.map_eq_some_iff.1 h
        cases he
        exact (ih h').trans (List.suffix_cons c s)

theorem isLocal_takeBraced (inComment : Bool) : IsLocal (takeBraced flags inComment) where
  isSuffix := isSuffix_takeBraced
  continues s := by
    induction s generalizing inComment with
    | nil =>
      refine .unread rfl fun t _ a r h => ?_
      simp only [List.nil_append, takeBraced, PatternFlags.skipped?_parenthesis] at h
      cases inComment with
      | true => exact isSuffix_takeBraced h
      | false =>
        obtain ⟨⟨a', r'⟩, h', he⟩ := Option.map_eq_some_iff.1 h
        cases he
        exact isSuffix_takeBraced h'
    | cons c s ih =>
      simp only [List.cons_append, takeBraced]
      split
      · exact ih _
      · split
        · exact .settled [] s rfl fun t _ => rfl
        · exact (ih false).map (c :: ·)

theorem isLocal_takeScalar (count : Nat) : IsLocal (takeScalar flags count) := by
  have hchar (n : Nat) (kind : Char → Escape) : IsLocal fun r =>
      (scalar? n).bind fun c => some (kind c, flags.skip r) :=
    .given _ fun c => (flags.isLocal_skip).map fun _ => kind c
  have hbraced := (isLocal_takeBraced flags false).bind fun digits =>
    .ite digits.isEmpty isLocal_none (.given (hexNumber? digits) fun n => hchar n .char)
  have hplain := (isLocal_takeHex flags count 0).bind fun value =>
    hchar value fun c => if !flags.unicode ∧ count = 2 ∧ 128 ≤ value then Escape.byte else .char c
  refine ((flags.isLocal_skip).bind fun _ =>
    .onFront (show ')' ∉ ['\x7b'] by decide) hbraced hplain).congr fun s => ?_
  simp only [takeScalar, Option.bind_some]
  split
  · rename_i r h
    simp only [h, dropFront?]
    rfl
  · rename_i h
    rw [dropFront?_eq_none_iff.2 h]
    rfl

theorem isLocal_takeProperty (negated : Bool) : IsLocal (takeProperty flags negated) := by
  have hletter (c : Char) : IsLocal fun r =>
      (property? flags negated [c]).map fun escape => (escape, flags.skip r) := by
    cases property? flags negated [c] with
    | none => exact isLocal_none
    | some escape => exact (flags.isLocal_skip).map fun _ => escape
  have hbraced := (isLocal_takeBraced flags false).bind fun name =>
    isLocal_value (property? flags negated name)
  have hplain := IsLocal.uncons fun c => .ite (c = '\\') isLocal_none (hletter c)
  refine ((flags.isLocal_skip).bind fun _ =>
    .onFront (show ')' ∉ ['\x7b'] by decide) hbraced hplain).congr fun s => ?_
  simp only [takeProperty, Option.bind_some]
  generalize flags.skip s = w
  split
  · rfl
  · rename_i c r h
    rw [dropFront?_eq_none_iff.2 fun r' hr => h (List.cons.inj hr).1]
    rfl
  · rfl

theorem isFirm_openEdge? : IsFirm fun s => (openEdge? flags s).map fun r => ((), r) := by
  have hp : Option.any isEdgeChar (some ')') = Option.any isEdgeChar none := by decide
  refine (IsFirm.onFront (show ')' ∉ ['\x7b'] by decide)
    (flags.isFirm_skip (isFirm_head hp))).congr fun s => ?_
  unfold openEdge?
  split
  · simp only [dropFront?, if_true, Option.bind_some]
    split <;> rfl
  · rename_i h
    rw [dropFront?_eq_none_iff.2 h]
    rfl

theorem isLocal_readEdge : IsLocal (readEdge flags) := by
  have hname := (isLocal_takeBraced flags false).bind fun name =>
    isLocal_value (edge? (String.ofList name))
  refine ((isFirm_openEdge? flags).orElse (fun _ => hname) (isLocal_pure .boundary)).congr
    fun s => ?_
  unfold readEdge
  cases openEdge? flags s with
  | none => rfl
  | some r => rfl

theorem isLocal_read : IsLocal (Escape.read flags) := by
  refine (IsLocal.uncons fun c =>
    .ite (c = 'x') (isLocal_takeScalar flags 2) <|
    .ite (c = 'u') (isLocal_takeScalar flags 4) <|
    .ite (c = 'U') (isLocal_takeScalar flags 8) <|
    .ite (c = 'p' ∨ c = 'P') (isLocal_takeProperty flags (c = 'P')) <|
    .ite (c = 'b') ((isLocal_readEdge flags).map fun edge => Escape.look (.word edge !flags.unicode)) <|
    .ite (standsForItself c) (isLocal_pure (.char c)) <|
    isLocal_value (ofLetter? flags c)).congr fun s => ?_
  cases s <;> rfl

end Escape

end ShardMerge
