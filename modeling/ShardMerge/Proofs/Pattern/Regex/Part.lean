import ShardMerge.Pattern.Regex.Part
import ShardMerge.Proofs.Pattern.Regex.Brackets

/-!
# Parts before more text

* `PatternPart.isLocal_read` says that every part of a pattern is read in the same way where a
  closing parenthesis follows, unless the part takes the parenthesis.
* `PatternPart.arises_of_read` says which parts there are.
-/

namespace ShardMerge

open Text

namespace PatternPart

variable (flags : PatternFlags)

theorem isSuffix_takeFlags {flags : PatternFlags} {seen : List Char} {negative dangling : Bool}
    {s r : List Char} {part : PatternPart}
    (h : takeFlags flags seen negative dangling s = some (part, r)) : r <:+ s := by
  induction s generalizing flags seen negative dangling with
  | nil => cases h
  | cons c s ih =>
    unfold takeFlags at h
    split at h
    · split at h
      · cases h
      · split at h
        · cases h
          exact List.suffix_cons c _
        · split at h
          · cases h
          · cases h
            exact List.suffix_cons c _
    · split at h
      · split at h
        · cases h
        · exact (ih h).trans (List.suffix_cons c s)
      · split at h
        · cases h
        · obtain ⟨_, -, h⟩ := Option.bind_eq_some_iff.1 h
          exact (ih h).trans (List.suffix_cons c s)

theorem isLocal_takeFlags (flags : PatternFlags) (seen : List Char) (negative dangling : Bool) :
    IsLocal (takeFlags flags seen negative dangling) where
  isSuffix := isSuffix_takeFlags
  continues s := by
    induction s generalizing flags seen negative dangling with
    | nil =>
      refine .unread rfl fun t _ part r h => ?_
      simp only [List.nil_append, takeFlags, or_true, if_true, Char.reduceEq, if_false] at h
      split at h
      · cases h
      · split at h
        · cases h
        · cases h
          exact List.suffix_rfl
    | cons c s ih =>
      simp only [List.cons_append, takeFlags]
      split
      · split
        · exact continues_none
        · split
          · exact .settled _ s rfl fun _ _ => rfl
          · split
            · exact continues_none
            · exact .settled _ s rfl fun _ _ => rfl
      · split
        · split
          · exact continues_none
          · exact ih ..
        · split
          · exact continues_none
          · cases flags.set? c !negative with
            | none => exact continues_none
            | some flags => exact ih ..

theorem isLocal_takeGroupName : IsLocal (takeGroupName flags) :=
  (isLocal_cutFirst (show ')' ≠ '>' by decide)).bind fun name =>
    .ite (isGroupName name) (isLocal_pure (PatternPart.opening flags (some name))) isLocal_none

theorem isLocal_readGroup : IsLocal (readGroup flags) := by
  refine ((flags.isLocal_skip).bind fun _ =>
    .onFront (show ')' ∉ ['?', 'P', '<'] by decide) (isLocal_takeGroupName flags) <|
    .onFront (show ')' ∉ ['?', '<'] by decide) (isLocal_takeGroupName flags) <|
    .onFront (show ')' ∉ ['?'] by decide) (isLocal_takeFlags flags [] false false)
      (isLocal_pure (.opening flags none))).congr fun s => ?_
  simp only [readGroup, Option.bind_some]
  generalize flags.skip s = w
  split
  · rfl
  · rfl
  · rename_i r hP hName
    rw [dropFront?_eq_none_iff.2 fun r' hr => hP r' (List.cons.inj hr).2,
      dropFront?_eq_none_iff.2 fun r' hr => hName r' (List.cons.inj hr).2]
    rfl
  · rename_i hP hName hFlags
    rw [dropFront?_eq_none_iff.2 hP, dropFront?_eq_none_iff.2 hName,
      dropFront?_eq_none_iff.2 hFlags]
    rfl

theorem takeDigits_of_not_mem {t : List Char} (ht : '\n' ∉ t) :
    takeDigits flags true t = ([], []) := by
  induction t with
  | nil => rfl
  | cons c r ih =>
    rw [List.mem_cons, not_or] at ht
    simp [takeDigits, PatternFlags.skipped?_of_ne ht.1, ih ht.2]

theorem isSuffix_takeDigits (inComment : Bool) (s : List Char) :
    (takeDigits flags inComment s).2 <:+ s := by
  induction s generalizing inComment with
  | nil => exact List.suffix_rfl
  | cons c s ih =>
    unfold takeDigits
    split
    · exact (ih _).trans (List.suffix_cons c s)
    · split
      · exact (ih _).trans (List.suffix_cons c s)
      · exact List.suffix_rfl

theorem isLocal_takeDigits (inComment : Bool) :
    IsLocal fun s => some (takeDigits flags inComment s) where
  isSuffix {s a r} h := by
    have hr : takeDigits flags inComment s = (a, r) := Option.some.inj h
    simpa [hr] using isSuffix_takeDigits flags inComment s
  continues s := by
    induction s generalizing inComment with
    | nil =>
      cases inComment with
      | true =>
        refine .swallowed [] rfl fun t ht => ?_
        simp [takeDigits, PatternFlags.skipped?_parenthesis, takeDigits_of_not_mem flags ht]
      | false =>
        refine .settled [] [] rfl fun t ht => ?_
        simp [takeDigits, PatternFlags.skipped?_parenthesis]
    | cons c s ih =>
      simp only [List.cons_append, takeDigits]
      split
      · exact ih _
      · split
        · exact (ih false).map (c :: ·)
        · exact .settled [] (c :: s) rfl fun t _ => rfl

theorem isLocal_takeCount : IsLocal (takeCount flags) := by
  have hrest (count : Nat) := isLocal_dropBlanks.bind fun _ =>
    (flags.isLocal_skip).map fun _ => count
  have h := isLocal_dropBlanks.bind fun _ => (isLocal_takeDigits flags false).bind fun digits =>
    .given (Decimal.readBelow UInt32.size digits) hrest
  exact h.congr fun s => rfl

theorem isLocal_dropLazyMark : IsLocal fun s => some ((), dropLazyMark s) := by
  refine (IsLocal.onFront (show ')' ∉ ['?'] by decide) (isLocal_pure ())
    (isLocal_pure ())).congr fun s => ?_
  unfold dropLazyMark
  split
  · rfl
  · rename_i h
    rw [dropFront?_eq_none_iff.2 h]
    rfl

theorem isLocal_readMost (least : Nat) : IsLocal (readMost flags least) := by
  let p : Option Char → Bool := fun c => c = some '\x7d'
  have hp : p (some ')') = p none := by decide
  refine (IsLocal.onFront (show ')' ∉ [','] by decide) ((flags.isLocal_skip).bind fun _ =>
    (isFirm_head hp).orElse (fun _ => isLocal_pure none) ((isLocal_takeCount flags).map some))
    (isLocal_pure (some least))).congr fun s => ?_
  unfold readMost
  split
  · simp only [dropFront?, if_true, Option.elim_some, Option.bind_some, p, decide_eq_true_eq]
    split <;> rfl
  · rename_i h
    rw [dropFront?_eq_none_iff.2 h]
    rfl

theorem isLocal_closeCounts (least : Nat) (most : Option Nat) :
    IsLocal (closeCounts flags least most) := by
  have hmark := (flags.isLocal_skip).bind fun _ =>
    isLocal_dropLazyMark.map fun _ => PatternPart.repetition least most
  refine (IsLocal.onFront (show ')' ∉ ['\x7d'] by decide)
    (.ite (most.all (least ≤ ·)) hmark isLocal_none) isLocal_none).congr fun s => ?_
  unfold closeCounts
  split
  · rfl
  · rename_i h
    rw [dropFront?_eq_none_iff.2 h]
    rfl

theorem isLocal_readCounts : IsLocal (readCounts flags) :=
  (flags.isLocal_skip).bind fun _ => (isLocal_takeCount flags).bind fun least =>
    (isLocal_readMost flags least).bind fun most => isLocal_closeCounts flags least most

theorem isLocal_readEscape : IsLocal (readEscape flags) :=
  (Escape.isLocal_read flags).bind fun escape => isLocal_value (ofEscape? flags escape)

/-- The length of the text only limits how long the reader may go on. -/
theorem isLocal_readSet : IsLocal (readSet flags) where
  isSuffix h := by
    obtain ⟨⟨set, r⟩, h, he⟩ := Option.map_eq_some_iff.1 h
    cases he
    exact (Brackets.isLocal_read_readMore flags _).1.isSuffix h
  continues s := by
    let fuel := 2 * s.length + 2
    suffices h : Continues (Brackets.read flags fuel s) fun t =>
        Brackets.read flags (fuel + 2 * (t.length + 1)) (s ++ ')' :: t) by
      refine (h.map fun set : Nested CharClass =>
        PatternPart.node { value := .one set.value, depth := set.depth }).congr fun t _ => ?_
      have hlength : 2 * (s ++ ')' :: t).length + 2 = fuel + 2 * (t.length + 1) := by
        simp only [List.length_append, List.length_cons, fuel]
        omega
      simp only [readSet, hlength]
    cases (Brackets.isLocal_read_readMore flags fuel).1.continues s with
    | settled set r hx hy =>
      refine .settled set r hx fun t ht => ?_
      rw [Brackets.read_eq (.inl (by simp [hy t ht])), hy t ht]
    | swallowed set hx hy =>
      refine .swallowed set hx fun t ht => ?_
      rw [Brackets.read_eq (.inl (by simp [hy t ht])), hy t ht]
    | unread hx _ =>
      refine .unread hx fun t ht set r h => ?_
      have hmore (k : Nat) : Brackets.read flags (fuel + k) s = none := by
        rw [Brackets.read_eq (.inr (Nat.le_refl _)), hx]
      cases (Brackets.isLocal_read_readMore flags (fuel + 2 * (t.length + 1))).1.continues s with
      | settled _ _ hx _ => simp [hmore] at hx
      | swallowed _ hx _ => simp [hmore] at hx
      | unread _ hy => exact hy t ht set r h

theorem isLocal_repeats (least : Nat) (most : Option Nat) : IsLocal (repeats least most) :=
  isLocal_dropLazyMark.map fun _ => PatternPart.repetition least most

/-- Every part is read locally. -/
theorem isLocal_read (c : Char) : IsLocal (PatternPart.read flags c) := by
  unfold PatternPart.read
  split
  · exact isLocal_readGroup flags
  · exact isLocal_pure _
  · exact isLocal_pure _
  · exact isLocal_readSet flags
  · exact isLocal_repeats 0 (some 1)
  · exact isLocal_repeats 0 none
  · exact isLocal_repeats 1 none
  · exact isLocal_readCounts flags
  · exact isLocal_readEscape flags
  · split
    · exact isLocal_pure _
    · exact isLocal_none
  · exact isLocal_pure _
  · exact isLocal_pure _
  · exact isLocal_pure _

/-! ## The parts that are read -/

/-- A part that is read where a character begins it.  Only a closing parenthesis closes a group, and
no repetition asks for more rounds than it allows. -/
inductive Arises (c : Char) : PatternPart → Prop where
  | one (set : CharClass) (depth : Nat) : Arises c (.node { value := .one set, depth })
  | look (condition : Look) : Arises c (look condition)
  | opening (flags : PatternFlags) (name : Option (List Char)) : Arises c (.opening flags name)
  | closing (hc : c = ')') : Arises c .closing
  | change (flags : PatternFlags) : Arises c (.change flags)
  | bar : Arises c .bar
  | repetition (least : Nat) (most : Option Nat) (h : ∀ n ∈ most, least ≤ n) :
      Arises c (.repetition least most)

variable {flags} {c : Char} {s r : List Char} {part : PatternPart}

theorem Arises.eq_parenthesis (h : Arises c .closing) : c = ')' := by
  cases h with
  | closing hc => exact hc

theorem arises_of_takeFlags {flags : PatternFlags} {seen : List Char} {negative dangling : Bool}
    (h : takeFlags flags seen negative dangling s = some (part, r)) : Arises c part := by
  induction s generalizing flags seen negative dangling with
  | nil => cases h
  | cons d s ih =>
    unfold takeFlags at h
    split at h
    · split at h
      · cases h
      · split at h
        · cases h
          exact .opening _ _
        · split at h
          · cases h
          · cases h
            exact .change _
    · split at h
      · split at h
        · cases h
        · exact ih h
      · split at h
        · cases h
        · obtain ⟨_, -, h⟩ := Option.bind_eq_some_iff.1 h
          exact ih h

theorem arises_of_takeGroupName (h : takeGroupName flags s = some (part, r)) : Arises c part := by
  obtain ⟨⟨name, rest⟩, -, h⟩ := Option.bind_eq_some_iff.1 h
  obtain ⟨-, h⟩ := Option.ite_none_right_eq_some.1 h
  cases h
  exact .opening _ _

theorem arises_of_readGroup (h : readGroup flags s = some (part, r)) : Arises c part := by
  unfold readGroup at h
  split at h
  · exact arises_of_takeGroupName h
  · exact arises_of_takeGroupName h
  · exact arises_of_takeFlags h
  · cases h
    exact .opening _ _

theorem arises_of_readCounts (h : readCounts flags s = some (part, r)) : Arises c part := by
  obtain ⟨⟨least, _⟩, -, h⟩ := Option.bind_eq_some_iff.1 h
  obtain ⟨⟨most, _⟩, -, h⟩ := Option.bind_eq_some_iff.1 h
  dsimp only at h
  unfold closeCounts at h
  split at h
  · obtain ⟨hm, h⟩ := Option.ite_none_right_eq_some.1 h
    cases h
    exact .repetition least most fun n hn => by
      simpa using (Option.all_eq_true _ _).1 hm n hn
  · cases h

theorem arises_of_readEscape (h : readEscape flags s = some (part, r)) : Arises c part := by
  obtain ⟨⟨escape, _⟩, -, h⟩ := Option.bind_eq_some_iff.1 h
  obtain ⟨part, hpart, h⟩ := Option.map_eq_some_iff.1 h
  cases h
  cases escape with
  | char c =>
    cases hpart
    exact .one _ _
  | byte => cases hpart
  | set a =>
    cases hpart
    exact .one a _
  | look condition =>
    cases hpart
    exact .look condition

theorem arises_of_read (h : PatternPart.read flags c s = some (part, r)) : Arises c part := by
  unfold PatternPart.read at h
  split at h
  · exact arises_of_readGroup h
  · cases h
    exact .closing rfl
  · cases h
    exact .bar
  · obtain ⟨_, -, h⟩ := Option.map_eq_some_iff.1 h
    cases h
    exact .one _ _
  · cases h
    exact .repetition 0 (some 1) (by simp)
  · cases h
    exact .repetition 0 none (by simp)
  · cases h
    exact .repetition 1 none (by simp)
  · exact arises_of_readCounts h
  · exact arises_of_readEscape h
  · split at h
    · cases h
      exact .one _ _
    · cases h
  · cases h
    exact .look _
  · cases h
    exact .look _
  · cases h
    exact .one _ _

end PatternPart

end ShardMerge
