import ShardMerge.Pattern.Regex.Reader
import ShardMerge.Proofs.Pattern.Regex.Part

/-!
# Patterns before more text

A pattern is read part by part, so what is said about parts carries over to patterns.  The text of a
pattern is put into a group of a longer pattern: other scopes stand around the scopes of the pattern,
and after its text come a closing parenthesis and more of the line.

* `PatternReader.Reads` is the run of the reader as a relation, without fuel.
* `PatternReader.take_within` says that scopes around the open ones change nothing, unless a part
  closes a group that the pattern never opened.
* `PatternReader.Reads.within` is the run of a pattern that can be read by itself: the longer text is
  read up to the parenthesis, or the last comment of the pattern takes the rest of the line.
* `PatternReader.outer_ne_nil_of_not_reads` is the run of a pattern that cannot be read by itself: a
  group stays open, unless the pattern closes a group that it never opened.
-/

namespace ShardMerge

open Text

namespace PatternReader

/-! ## Runs -/

/-- The reader comes from one state to another by reading a text. -/
inductive Reads : PatternReader → List Char → PatternReader → Prop where
  | done {p : PatternReader} {s : List Char} (hs : p.scope.flags.skip s = []) : Reads p s p
  | part {p p' q : PatternReader} {s r rest : List Char} {c : Char} {part : PatternPart}
      (hs : p.scope.flags.skip s = c :: r)
      (hr : PatternPart.read p.scope.flags c r = some (part, rest)) (ht : p.take part = some p')
      (h : Reads p' rest q) : Reads p s q

variable {p p' q : PatternReader} {s r rest : List Char} {c : Char} {part : PatternPart}

theorem reads_iff_of_nil (hs : p.scope.flags.skip s = []) : Reads p s q ↔ q = p := by
  constructor
  · intro h
    cases h with
    | done => rfl
    | part hs' => simp [hs] at hs'
  · rintro rfl
    exact .done hs

theorem reads_iff_of_cons (hs : p.scope.flags.skip s = c :: r) :
    Reads p s q ↔ ∃ part rest p', PatternPart.read p.scope.flags c r = some (part, rest) ∧
      p.take part = some p' ∧ Reads p' rest q := by
  constructor
  · intro h
    cases h with
    | done hs' => simp [hs] at hs'
    | part hs' hr ht h =>
      rw [hs] at hs'
      cases hs'
      exact ⟨_, _, _, hr, ht, h⟩
  · rintro ⟨part, rest, p', hr, ht, h⟩
    exact .part hs hr ht h

theorem reads_iff_of_part (hs : p.scope.flags.skip s = c :: r)
    (hr : PatternPart.read p.scope.flags c r = some (part, rest)) (ht : p.take part = some p') :
    Reads p s q ↔ Reads p' rest q := by
  rw [reads_iff_of_cons hs]
  constructor
  · rintro ⟨part', rest', p'', hr', ht', h⟩
    rw [hr] at hr'
    cases hr'
    rw [ht] at ht'
    cases ht'
    exact h
  · intro h
    exact ⟨part, rest, p', hr, ht, h⟩

/-- What is skipped makes no difference. -/
theorem reads_congr {t : List Char} (h : p.scope.flags.skip s = p.scope.flags.skip t) :
    Reads p s q ↔ Reads p t q := by
  cases ht : p.scope.flags.skip t with
  | nil => rw [reads_iff_of_nil ht, reads_iff_of_nil (h.trans ht)]
  | cons c r => rw [reads_iff_of_cons ht, reads_iff_of_cons (h.trans ht)]

theorem length_rest_lt (hs : p.scope.flags.skip s = c :: r)
    (hr : PatternPart.read p.scope.flags c r = some (part, rest)) : rest.length < s.length := by
  have hskip := (p.scope.flags.isSuffix_skip s).length_le
  have hrest := ((PatternPart.isLocal_read p.scope.flags c).isSuffix hr).length_le
  simp only [hs, List.length_cons] at hskip
  omega

/-- The fuel of a run is enough if it is more than the length of the text. -/
theorem run_eq_some_iff {fuel : Nat} (hf : s.length < fuel) : run fuel p s = some q ↔ Reads p s q := by
  induction fuel generalizing p s with
  | zero => omega
  | succ fuel ih =>
    unfold run
    split
    · rename_i hs
      rw [reads_iff_of_nil hs, Option.some.injEq, eq_comm]
    · rename_i c r hs
      simp only [reads_iff_of_cons hs, Option.bind_eq_bind, Option.bind_eq_some_iff]
      constructor
      · rintro ⟨⟨part, rest⟩, hr, p', ht, h⟩
        have hlt : rest.length < s.length := length_rest_lt hs hr
        exact ⟨part, rest, p', hr, ht, (ih (by omega)).1 h⟩
      · rintro ⟨part, rest, p', hr, ht, h⟩
        have hlt : rest.length < fuel := by
          have := length_rest_lt hs hr
          omega
        exact ⟨(part, rest), hr, p', ht, (ih hlt).2 h⟩

/-! ## Scopes around the open ones -/

/-- The same state with more scopes around it. -/
def within (p : PatternReader) (around : List PatternScope) : PatternReader :=
  { p with outer := p.outer ++ around }

@[simp] theorem scope_within (p : PatternReader) (around : List PatternScope) :
    (p.within around).scope = p.scope := rfl

@[simp] theorem outer_within (p : PatternReader) (around : List PatternScope) :
    (p.within around).outer = p.outer ++ around := rfl

theorem take_within (ht : p.take part = some p') (around : List PatternScope) :
    (p.within around).take part = some (p'.within around) := by
  cases part with
  | node node =>
    cases ht
    rfl
  | opening flags name =>
    cases name with
    | none =>
      cases ht
      rfl
    | some name =>
      obtain ⟨hn, ht⟩ := Option.ite_none_left_eq_some.1 ht
      cases ht
      exact if_neg hn
  | closing =>
    simp only [take, closeGroup] at ht ⊢
    cases ho : p.outer with
    | nil => simp [ho] at ht
    | cons scope outer =>
      simp only [ho, Option.some.injEq] at ht
      simp [ho, ← ht, within]
  | change flags =>
    cases ht
    rfl
  | bar =>
    cases ht
    rfl
  | repetition least most =>
    obtain ⟨scope, hscope, he⟩ := Option.map_eq_some_iff.1 ht
    cases he
    simp [take, hscope, within]

/-- A part that is refused is refused with more scopes around, but for the end of a group that was
not opened. -/
theorem take_within_eq_none (ht : p.take part = none)
    (hc : ¬ (part = .closing ∧ p.outer = [])) (around : List PatternScope) :
    (p.within around).take part = none := by
  cases part with
  | node node => cases ht
  | opening flags name =>
    cases name with
    | none => cases ht
    | some name =>
      simp only [take, openNamed, ite_eq_left_iff] at ht ⊢
      exact fun hn => nomatch ht hn
  | closing =>
    simp only [true_and] at hc
    simp only [take, closeGroup] at ht
    cases ho : p.outer with
    | nil => exact (hc ho).elim
    | cons scope outer => simp [ho] at ht
  | change flags => cases ht
  | bar => cases ht
  | repetition least most =>
    simp only [take, Option.map_eq_none_iff] at ht ⊢
    exact ht

/-- Only the end of a group leaves a scope. -/
theorem outer_ne_nil_of_take (ht : p.take part = some p') (hp : part ≠ .closing)
    (ho : p.outer ≠ []) : p'.outer ≠ [] := by
  cases part with
  | node node =>
    cases ht
    exact ho
  | opening flags name =>
    cases name with
    | none =>
      cases ht
      exact List.cons_ne_nil _ _
    | some name =>
      obtain ⟨-, ht⟩ := Option.ite_none_left_eq_some.1 ht
      cases ht
      exact List.cons_ne_nil _ _
  | closing => exact (hp rfl).elim
  | change flags =>
    cases ht
    exact ho
  | bar =>
    cases ht
    exact ho
  | repetition least most =>
    obtain ⟨scope, -, he⟩ := Option.map_eq_some_iff.1 ht
    cases he
    exact ho

/-- A text without a closing parenthesis leaves the open groups open. -/
theorem Reads.outer_ne_nil (h : Reads p s q) (hs : ')' ∉ s) (ho : p.outer ≠ []) :
    q.outer ≠ [] := by
  induction h with
  | done => exact ho
  | @part p p' q s r rest c part hskip hr ht _ ih =>
    have hsuffix : c :: r <:+ s := hskip ▸ p.scope.flags.isSuffix_skip s
    have hc : c ≠ ')' := by
      rintro rfl
      exact hs (hsuffix.subset List.mem_cons_self)
    have hrest : rest <:+ s := (((PatternPart.isLocal_read _ c).isSuffix hr).trans
      (List.suffix_cons c r)).trans hsuffix
    have hpart : part ≠ .closing := by
      rintro rfl
      exact hc ((PatternPart.arises_of_read hr).eq_parenthesis)
    exact ih (not_mem_of_isSuffix hrest hs) (outer_ne_nil_of_take ht hpart ho)

/-! ## A text that goes on -/

theorem skip_parenthesis (flags : PatternFlags) (t : List Char) :
    flags.skip (')' :: t) = ')' :: t := by
  unfold PatternFlags.skip
  split <;> rfl

theorem reads_parenthesis_iff {t : List Char} :
    Reads p (')' :: t) q ↔ ∃ p', p.closeGroup = some p' ∧ Reads p' t q := by
  rw [reads_iff_of_cons (skip_parenthesis _ t)]
  constructor
  · rintro ⟨part, rest, p', hr, ht, h⟩
    cases hr
    exact ⟨p', ht, h⟩
  · rintro ⟨p', ht, h⟩
    exact ⟨.closing, t, p', rfl, ht, h⟩

/-- A text that can be read by itself is read in the same way within other scopes.  What follows it
is read next, or belongs to a comment that is still open. -/
theorem Reads.within (h : Reads p s q) :
    (∀ t, '\n' ∉ t → ∀ around q',
      Reads (p.within around) (s ++ ')' :: t) q' ↔ Reads (q.within around) (')' :: t) q') ∨
    (∀ t, '\n' ∉ t → ∀ around q',
      Reads (p.within around) (s ++ ')' :: t) q' ↔ q' = q.within around) := by
  induction h with
  | @done p s hs =>
    cases (p.scope.flags.isLocal_skip).continues s with
    | settled _ r hx hy =>
      refine .inl fun t ht around q' => reads_congr ?_
      obtain rfl : r = [] := by simpa [hs] using hx.symm
      have hskip := hy t ht
      simp only [Option.some.injEq, Prod.mk.injEq, true_and, List.nil_append] at hskip
      rw [scope_within, hskip, skip_parenthesis]
    | swallowed _ _ hy =>
      refine .inr fun t ht around q' => reads_iff_of_nil ?_
      simpa using hy t ht
    | unread hx _ => cases hx
  | @part p p' q s r rest c part hs hr ht h ih =>
    have hlong : ∀ t, '\n' ∉ t → ∀ around,
        (p.within around).scope.flags.skip (s ++ ')' :: t) = c :: (r ++ ')' :: t) :=
      fun t htn _ => PatternFlags.skip_append_of_cons hs htn
    cases (PatternPart.isLocal_read p.scope.flags c).continues r with
    | settled part' rest' hx hy =>
      obtain ⟨rfl, rfl⟩ : part = part' ∧ rest = rest' := by simpa [hr] using hx
      have hstep : ∀ t, '\n' ∉ t → ∀ around q', Reads (p.within around) (s ++ ')' :: t) q' ↔
          Reads (p'.within around) (rest ++ ')' :: t) q' := fun t htn around q' =>
        reads_iff_of_part (hlong t htn around) (hy t htn) (take_within ht around)
      refine ih.imp (fun ih t htn around q' => ?_) fun ih t htn around q' => ?_
      · rw [hstep t htn, ih t htn]
      · rw [hstep t htn, ih t htn]
    | swallowed part' hx hy =>
      obtain ⟨rfl, rfl⟩ : part = part' ∧ rest = [] := by simpa [hr] using hx
      obtain rfl : q = p' := (reads_iff_of_nil (PatternFlags.skip_nil _)).1 h
      refine .inr fun t htn around q' => ?_
      rw [reads_iff_of_part (hlong t htn around) (hy t htn) (take_within ht around)]
      exact reads_iff_of_nil (PatternFlags.skip_nil _)
    | unread hx _ => simp [hr] at hx

/-- The text closes a group that it did not open. -/
inductive ClosesOutside : PatternReader → List Char → Prop where
  | here {p : PatternReader} {s r : List Char} (ho : p.outer = [])
      (hs : p.scope.flags.skip s = ')' :: r) : ClosesOutside p s
  | later {p p' : PatternReader} {s r rest : List Char} {c : Char} {part : PatternPart}
      (hs : p.scope.flags.skip s = c :: r)
      (hr : PatternPart.read p.scope.flags c r = some (part, rest)) (ht : p.take part = some p')
      (h : ClosesOutside p' rest) : ClosesOutside p s

/-- A text that can be read by itself closes only groups that it opened. -/
theorem ClosesOutside.not_reads (h : ClosesOutside p s) : ¬ Reads p s q := by
  induction h with
  | here ho hs =>
    intro h
    rw [reads_congr (hs.trans (skip_parenthesis _ _).symm), reads_parenthesis_iff] at h
    obtain ⟨p', hp', -⟩ := h
    simp [closeGroup, ho] at hp'
  | later hs hr ht _ ih =>
    rw [reads_iff_of_part hs hr ht]
    exact ih

/-- A text that cannot be read by itself is not read to the end of a group around it either, unless it
closes a group that it did not open. -/
theorem outer_ne_nil_of_not_reads (hn : ∀ q, ¬ Reads p s q) (hc : ¬ ClosesOutside p s)
    {t : List Char} (htn : '\n' ∉ t) (htp : ')' ∉ t) {around : List PatternScope}
    (ha : around ≠ []) {q' : PatternReader} (h : Reads (p.within around) (s ++ ')' :: t) q') :
    q'.outer ≠ [] := by
  generalize hlength : s.length = n
  induction n using Nat.strongRecOn generalizing p s with
  | ind n ih =>
  subst hlength
  cases hs : p.scope.flags.skip s with
  | nil => exact (hn p (.done hs)).elim
  | cons c r =>
    have hlong : (p.within around).scope.flags.skip (s ++ ')' :: t) = c :: (r ++ ')' :: t) :=
      PatternFlags.skip_append_of_cons hs htn
    obtain ⟨part', rest', p'', hr', ht', h⟩ := (reads_iff_of_cons hlong).1 h
    -- a part that takes nothing of what follows is taken by the pattern alone as well
    have hshort {rest : List Char} (hr : PatternPart.read p.scope.flags c r = some (part', rest)) :
        ∃ p', p.take part' = some p' ∧ p'' = p'.within around := by
      cases ht : p.take part' with
      | none =>
        refine absurd (take_within_eq_none ht ?_ around) (by simp [ht'])
        rintro ⟨rfl, ho⟩
        exact hc (.here ho ((PatternPart.arises_of_read hr).eq_parenthesis ▸ hs))
      | some p' =>
        rw [take_within ht, Option.some.injEq] at ht'
        exact ⟨p', rfl, ht'.symm⟩
    cases (PatternPart.isLocal_read p.scope.flags c).continues r with
    | settled part rest hx hy =>
      obtain ⟨rfl, rfl⟩ : part' = part ∧ rest' = rest ++ ')' :: t := by
        simpa [hy t htn] using hr'.symm
      obtain ⟨p', ht, rfl⟩ := hshort hx
      exact ih rest.length (length_rest_lt hs hx) (fun q hq => hn q (.part hs hx ht hq))
        (fun h => hc (.later hs hx ht h)) h rfl
    | swallowed part hx hy =>
      obtain ⟨rfl, rfl⟩ : part' = part ∧ rest' = [] := by simpa [hy t htn] using hr'.symm
      obtain ⟨p', ht, rfl⟩ := hshort hx
      exact (hn p' (.part hs hx ht (.done (PatternFlags.skip_nil _)))).elim
    | unread hx hy =>
      have hpart : part' ≠ .closing := by
        rintro rfl
        obtain rfl := (PatternPart.arises_of_read hr').eq_parenthesis
        cases hx
      exact h.outer_ne_nil (not_mem_of_isSuffix (hy t htn _ _ hr') htp)
        (outer_ne_nil_of_take ht' hpart (by simp [ha]))

end PatternReader

end ShardMerge
