import ShardMerge.Pattern.Regex.Brackets
import ShardMerge.Proofs.Pattern.Regex.Escape

/-!
# Sets in brackets before more text

The reader of sets is local for every amount of fuel, since both texts use it up in step.

* `Brackets.isLocal_read_readMore` is the induction, on the fuel.
* `Brackets.read_eq` says that more fuel makes no difference once there is enough: a set that
  begins at a text takes at most two rounds for each character.
-/

namespace ShardMerge

open Text

namespace Brackets

variable (flags : PatternFlags)

theorem isLocal_takeItem : IsLocal (takeItem flags) := by
  have hescape := (Escape.isLocal_read flags).bind fun escape =>
    isLocal_value (SetItem.ofEscape? escape)
  have hchar := IsLocal.uncons fun c =>
    .ite (flags.unicode ∨ c.toNat < 128) (isLocal_pure (SetItem.char c)) isLocal_none
  refine (IsLocal.onFront (show ')' ∉ ['\\'] by decide) hescape hchar).congr fun s => ?_
  unfold takeItem
  split
  · rfl
  · rfl
  · rename_i h
    rw [dropFront?_eq_none_iff.2 fun r' hr => h (List.cons.inj hr).1]
    rfl

theorem isLocal_takeRangeEnd (first : SetItem) : IsLocal (takeRangeEnd flags first) :=
  (isLocal_takeItem flags).bind fun last => isLocal_value (first.range? last)

theorem isFirm_openRange? : IsFirm fun s => (openRange? flags s).map fun r => ((), r) := by
  let p : Option Char → Bool := fun c => ¬ (c = some ']' ∨ c = some '-')
  have hp : p (some ')') = p none := by decide
  refine (IsFirm.onFront (show ')' ∉ ['-'] by decide)
    (flags.isFirm_skip (isFirm_head hp))).congr fun s => ?_
  unfold openRange?
  split
  · simp only [dropFront?, if_true, Option.bind_some, p, decide_not, Bool.not_eq_true',
      decide_eq_false_iff_not]
    split <;> simp [*]
  · rename_i h
    rw [dropFront?_eq_none_iff.2 h]
    rfl

theorem isLocal_finishRange (first : SetItem) : IsLocal (finishRange flags first) := by
  refine ((flags.isLocal_skip).bind fun _ => (isFirm_openRange? flags).orElse
    (fun _ => isLocal_takeRangeEnd flags first) (isLocal_pure first.toClass)).congr fun s => ?_
  simp only [finishRange, Option.bind_some]
  cases openRange? flags (flags.skip s) <;> rfl

theorem isLocal_takeRange : IsLocal (takeRange flags) :=
  (isLocal_takeItem flags).bind (isLocal_finishRange flags)

theorem isLocal_takeCaret : IsLocal fun s => some (takeCaret s) := by
  refine (IsLocal.onFront (show ')' ∉ ['^'] by decide) (isLocal_pure true)
    (isLocal_pure false)).congr fun s => ?_
  unfold takeCaret
  split
  · rfl
  · rename_i h
    rw [dropFront?_eq_none_iff.2 h]
    rfl

theorem takeCaret_append (s t : List Char) :
    takeCaret (s ++ ')' :: t) = ((takeCaret s).1, (takeCaret s).2 ++ ')' :: t) := by
  cases s with
  | nil => rfl
  | cons c r =>
    by_cases hc : c = '^'
    · subst hc
      rfl
    · simp [takeCaret, hc]

/-- No name of a class has a parenthesis. -/
theorem ofName?_of_mem {name : List Char} (h : ')' ∈ name) :
    CharClass.ofName? (String.ofList name) = none := by
  unfold CharClass.ofName?
  split
  all_goals first
    | rfl
    | rename_i he
      have hl : ')' ∈ (String.ofList name).toList := by simpa using h
      rw [he] at hl
      revert hl
      decide

theorem isLocal_closeName (negated : Bool) (name : List Char) :
    IsLocal (closeName negated name) := by
  have hvalue := (isLocal_value (CharClass.ofName? (String.ofList name))).map fun a => (negated, a)
  refine (IsLocal.onFront (show ')' ∉ [']'] by decide) hvalue isLocal_none).congr fun s => ?_
  unfold closeName
  split
  · cases CharClass.ofName? (String.ofList name) <;> rfl
  · rename_i h
    rw [dropFront?_eq_none_iff.2 h]
    rfl

theorem isFirm_closeName (negated : Bool) (name : List Char) :
    IsFirm (closeName negated name) where
  toIsLocal := isLocal_closeName negated name
  fails {s t} _ h := by
    cases s with
    | nil => rfl
    | cons c r =>
      by_cases hc : c = ']'
      · subst hc
        simpa [closeName] using h
      · simp [closeName, hc]

theorem closeName_of_mem {name : List Char} (h : ')' ∈ name) (negated : Bool) (s : List Char) :
    closeName negated name s = none := by
  unfold closeName
  split
  · rw [ofName?_of_mem h]
    rfl
  · rfl

theorem isLocal_takeName : IsLocal takeName := by
  refine (IsLocal.onFront (show ')' ∉ [':'] by decide) ((isLocal_takeCaret).bind fun negated =>
    (isLocal_cutFirst (show ')' ≠ ':' by decide)).bind fun name => isLocal_closeName negated name)
    isLocal_none).congr fun s => ?_
  unfold takeName
  split
  · rfl
  · rename_i h
    rw [dropFront?_eq_none_iff.2 h]
    rfl

/-- The name of a class ends at the next colon.  If that stands after the parenthesis, the name has
the parenthesis in it. -/
theorem isFirm_takeName : IsFirm takeName where
  toIsLocal := isLocal_takeName
  fails {s t} ht h := by
    unfold takeName at h ⊢
    split at h
    · rename_i r
      simp only [List.cons_append, takeCaret_append, Option.bind_eq_bind] at h ⊢
      cases hcut : cutFirst ':' (takeCaret r).2 with
      | none =>
        rw [Option.bind_eq_none_iff]
        rintro ⟨name, rest⟩ hlong
        exact closeName_of_mem (mem_of_cutFirst_append (by decide) hcut hlong) _ _
      | some cut =>
        rw [cutFirst_append hcut]
        simp only [hcut, Option.bind_some] at h ⊢
        exact (isFirm_closeName _ _).fails ht h
    · rename_i hc
      cases s with
      | nil => rfl
      | cons c r =>
        split
        · rename_i he
          exact (hc _ (by rw [← (List.cons.inj he).1])).elim
        · rfl

theorem takeLeading_of_not_mem {t : List Char} (ht : '\n' ∉ t) (acc : OpenSet) :
    takeLeading flags true acc t = (acc, []) := by
  induction t with
  | nil => rfl
  | cons c r ih =>
    rw [List.mem_cons, not_or] at ht
    simp [takeLeading, PatternFlags.skipped?_of_ne ht.1, ih ht.2]

theorem isSuffix_takeLeading (inComment : Bool) (acc : OpenSet) (s : List Char) :
    (takeLeading flags inComment acc s).2 <:+ s := by
  induction s generalizing inComment acc with
  | nil => exact List.suffix_rfl
  | cons c s ih =>
    unfold takeLeading
    split
    · exact (ih _ _).trans (List.suffix_cons c s)
    · split
      · exact (ih _ _).trans (List.suffix_cons c s)
      · split
        · exact List.suffix_cons c s
        · exact List.suffix_rfl

theorem isLocal_takeLeading (inComment : Bool) (acc : OpenSet) :
    IsLocal fun s => some (takeLeading flags inComment acc s) where
  isSuffix {s a r} h := by
    have hr : takeLeading flags inComment acc s = (a, r) := Option.some.inj h
    simpa [hr] using isSuffix_takeLeading flags inComment acc s
  continues s := by
    induction s generalizing inComment acc with
    | nil =>
      cases inComment with
      | true =>
        refine .swallowed acc rfl fun t ht => ?_
        simp [takeLeading, PatternFlags.skipped?_parenthesis, takeLeading_of_not_mem flags ht]
      | false =>
        refine .settled acc [] rfl fun t ht => ?_
        simp [takeLeading, PatternFlags.skipped?_parenthesis]
    | cons c s ih =>
      simp only [List.cons_append, takeLeading]
      split
      · exact ih _ _
      · split
        · exact ih _ _
        · split
          · exact .settled _ s rfl fun t _ => rfl
          · exact .settled _ (c :: s) rfl fun t _ => rfl

variable {fuel : Nat}

theorem isLocal_read_succ (hMore : ∀ acc, IsLocal (readMore flags fuel acc)) :
    IsLocal (Brackets.read flags (fuel + 1)) := by
  have hend (negated : Bool) (inner : Nested CharClass) :=
    IsLocal.given (finish flags negated inner.value) fun value =>
      isLocal_pure (Nested.mk value (inner.depth + 1))
  exact (flags.isLocal_skip).bind fun _ => (isLocal_takeCaret).bind fun negated =>
    (isLocal_takeLeading flags false {}).bind fun leading => (hMore leading).bind (hend negated)

theorem isLocal_readMore_succ (hRead : IsLocal (Brackets.read flags fuel))
    (hMore : ∀ acc, IsLocal (readMore flags fuel acc)) (acc : OpenSet) :
    IsLocal (readMore flags (fuel + 1) acc) := by
  have hname (x : Bool × CharClass) := IsLocal.given (finish flags x.1 x.2) fun value =>
    hMore (acc.add { value })
  have hinner := hRead.bind fun inner => hMore (acc.add inner)
  refine ((flags.isLocal_skip).bind fun _ =>
    .onFront (show ')' ∉ [']'] by decide) (isLocal_pure (acc.value flags)) <|
    .onFront (show ')' ∉ ['['] by decide) (isFirm_takeName.orElse hname hinner) <|
    .onFront (show ')' ∉ ['&', '&'] by decide) (hMore (acc.operate flags .inter)) <|
    .onFront (show ')' ∉ ['-', '-'] by decide) (hMore (acc.operate flags .diff)) <|
    .onFront (show ')' ∉ ['~', '~'] by decide) (hMore (acc.operate flags .symmDiff)) <|
    (isLocal_takeRange flags).bind fun value => hMore (acc.add { value })).congr fun s => ?_
  simp only [readMore, Option.bind_some]
  generalize flags.skip s = w
  split
  · rfl
  · rfl
  · rename_i r
    simp only [dropFront?, Char.reduceEq, if_true, if_false, Option.elim_none, Option.elim_some]
    cases takeName r <;> rfl
  · rfl
  · rfl
  · rfl
  · rename_i hEnd hClose hOpen hInter hDiff hSymm
    rw [dropFront?_eq_none_iff.2 hClose, dropFront?_eq_none_iff.2 hOpen,
      dropFront?_eq_none_iff.2 hInter, dropFront?_eq_none_iff.2 hDiff,
      dropFront?_eq_none_iff.2 hSymm]
    rfl

theorem isLocal_read_readMore (fuel : Nat) :
    IsLocal (Brackets.read flags fuel) ∧ ∀ acc, IsLocal (readMore flags fuel acc) := by
  induction fuel with
  | zero => exact ⟨isLocal_none, fun _ => isLocal_none⟩
  | succ fuel ih => exact ⟨isLocal_read_succ flags ih.2, isLocal_readMore_succ flags ih.1 ih.2⟩

/-! ## Fuel -/

variable {flags}

theorem length_lt_of_takeItem {s r : List Char} {item : SetItem}
    (h : takeItem flags s = some (item, r)) : r.length < s.length := by
  unfold takeItem at h
  split at h
  · cases h
  · obtain ⟨⟨escape, r'⟩, hr, h⟩ := Option.bind_eq_some_iff.1 h
    obtain ⟨_, -, he⟩ := Option.map_eq_some_iff.1 h
    cases he
    exact Nat.lt_succ_of_le ((Escape.isLocal_read flags).isSuffix hr).length_le
  · obtain ⟨-, h⟩ := Option.ite_none_right_eq_some.1 h
    cases h
    exact Nat.lt_succ_self _

theorem length_lt_of_takeRange {s r : List Char} {a : CharClass}
    (h : takeRange flags s = some (a, r)) : r.length < s.length := by
  obtain ⟨⟨first, rest⟩, hfirst, h⟩ := Option.bind_eq_some_iff.1 h
  have hr : r <:+ rest := (isLocal_finishRange flags first).isSuffix h
  exact Nat.lt_of_le_of_lt hr.length_le (length_lt_of_takeItem hfirst)

/-- More fuel makes no difference to a set that could be read, or had enough fuel for its text. -/
def ReadsOn (flags : PatternFlags) (fuel : Nat) : Prop :=
  ∀ s, (Brackets.read flags fuel s).isSome ∨ 2 * s.length + 2 ≤ fuel →
    Brackets.read flags (fuel + 1) s = Brackets.read flags fuel s

/-- The same for the rest of a set. -/
def ReadsMoreOn (flags : PatternFlags) (fuel : Nat) : Prop :=
  ∀ acc s, (readMore flags fuel acc s).isSome ∨ 2 * s.length + 1 ≤ fuel →
    readMore flags (fuel + 1) acc s = readMore flags fuel acc s

theorem readsOn_succ (hMore : ReadsMoreOn flags fuel) : ReadsOn flags (fuel + 1) := by
  intro s h
  have hskip : (flags.skip s).length ≤ s.length := (flags.isSuffix_skip s).length_le
  have hcaret : (takeCaret (flags.skip s)).2.length ≤ (flags.skip s).length :=
    ((isLocal_takeCaret).isSuffix rfl).length_le
  have hleading := (isSuffix_takeLeading flags false {} (takeCaret (flags.skip s)).2).length_le
  simp only [Brackets.read, Option.bind_eq_bind] at h ⊢
  rw [hMore _ _ (h.imp Option.isSome_of_isSome_bind fun h => by omega)]

/-- A set within a set and what follows it. -/
theorem readInner_succ (hRead : ReadsOn flags fuel) (hMore : ReadsMoreOn flags fuel)
    (acc : OpenSet) {r : List Char}
    (h : ((Brackets.read flags fuel r).bind fun x =>
      readMore flags fuel (acc.add x.1) x.2).isSome ∨ 2 * r.length + 2 ≤ fuel) :
    ((Brackets.read flags (fuel + 1) r).bind fun x => readMore flags (fuel + 1) (acc.add x.1) x.2) =
      (Brackets.read flags fuel r).bind fun x => readMore flags fuel (acc.add x.1) x.2 := by
  rw [hRead r (h.imp Option.isSome_of_isSome_bind id)]
  cases hread : Brackets.read flags fuel r with
  | none => rfl
  | some x =>
    have hr := ((isLocal_read_readMore flags fuel).1.isSuffix hread).length_le
    exact hMore _ _ (h.imp (fun h => by simpa [hread] using h) fun h => by omega)

theorem readsMoreOn_succ (hRead : ReadsOn flags fuel) (hMore : ReadsMoreOn flags fuel) :
    ReadsMoreOn flags (fuel + 1) := by
  intro acc s h
  have hskip : (flags.skip s).length ≤ s.length := (flags.isSuffix_skip s).length_le
  revert h
  simp only [readMore, Option.bind_eq_bind]
  generalize flags.skip s = w at hskip ⊢
  split
  · intro _
    rfl
  · intro _
    rfl
  · rename_i r
    simp only [List.length_cons] at hskip
    cases hname : takeName r with
    | some x =>
      have hr := ((isFirm_takeName).isSuffix hname).length_le
      dsimp only
      cases finish flags x.1.1 x.1.2 with
      | none =>
        intro _
        rfl
      | some value => exact fun h => hMore _ _ (h.imp id fun h => by omega)
    | none => exact fun h => readInner_succ hRead hMore acc (h.imp id fun h => by omega)
  · simp only [List.length_cons] at hskip
    exact fun h => hMore _ _ (h.imp id fun h => by omega)
  · simp only [List.length_cons] at hskip
    exact fun h => hMore _ _ (h.imp id fun h => by omega)
  · simp only [List.length_cons] at hskip
    exact fun h => hMore _ _ (h.imp id fun h => by omega)
  · cases hrange : takeRange flags w with
    | none =>
      intro _
      rfl
    | some x =>
      have hr := length_lt_of_takeRange hrange
      exact fun h => hMore _ _ (h.imp id fun h => by omega)

theorem readsOn_readsMoreOn (flags : PatternFlags) (fuel : Nat) :
    ReadsOn flags fuel ∧ ReadsMoreOn flags fuel := by
  induction fuel with
  | zero =>
    constructor
    · intro s h
      simp [Brackets.read] at h
    · intro acc s h
      simp [readMore] at h
  | succ fuel ih => exact ⟨readsOn_succ ih.2, readsMoreOn_succ ih.1 ih.2⟩

theorem read_eq {s : List Char}
    (h : (Brackets.read flags fuel s).isSome ∨ 2 * s.length + 2 ≤ fuel) (k : Nat) :
    Brackets.read flags (fuel + k) s = Brackets.read flags fuel s := by
  induction k with
  | zero => rfl
  | succ k ih =>
    rw [← ih] at h ⊢
    exact (readsOn_readsMoreOn flags (fuel + k)).1 s (h.imp id fun h => by omega)

end Brackets

end ShardMerge
