import Mathlib.Logic.Relation
import ShardMerge.Proofs.Computation

/-!
# Reading ahead

Several reads of a list can run at once, and any of them can be done first.  Their results are still
collected in the order of the list, and the first one in that order that fails ends it all.

* `ReadAhead.Step` is what can happen next while at most `limit` reads run, and `ReadAhead.Ends`
  when it is over.
* `Step.expected_eq` is the invariant: what has been collected, followed by what is still to come,
  does not change.
* `Step.weight_lt` says that no more happens than a certain number of steps, and `ends_or_step` that
  nothing gets stuck before the end.
* `results_iff` puts them together: for each limit there is an end to come to, and all ends are
  that of reading one after another.
-/

namespace ShardMerge

open Relation (ReflTransGen)

/-- Reads of which several can run at once. -/
structure ReadAhead (α β : Type) where
  /-- What is not being read yet. -/
  waiting : List α
  /-- What is being read, the oldest first, and whether that is done. -/
  running : List (α × Bool)
  /-- The results that come before. -/
  collected : List β

namespace ReadAhead

variable {α β ε : Type} {read : α → Except ε β} {limit : Nat} {s t : ReadAhead α β}
  {outcome : Except ε (List β)}

/-- What can happen next. -/
inductive Step (read : α → Except ε β) (limit : Nat) : ReadAhead α β → ReadAhead α β → Prop
  /-- The next read starts if fewer than the limit run. -/
  | start {a : α} {waiting : List α} {running : List (α × Bool)} {collected : List β}
      (h : running.length < limit) :
      Step read limit ⟨a :: waiting, running, collected⟩
        ⟨waiting, running ++ [(a, false)], collected⟩
  /-- Any read that runs is done. -/
  | finish {a : α} {waiting : List α} {before after : List (α × Bool)} {collected : List β} :
      Step read limit ⟨waiting, before ++ (a, false) :: after, collected⟩
        ⟨waiting, before ++ (a, true) :: after, collected⟩
  /-- The oldest read is done, and its result is collected. -/
  | collect {a : α} {b : β} {waiting : List α} {running : List (α × Bool)} {collected : List β}
      (h : read a = .ok b) :
      Step read limit ⟨waiting, (a, true) :: running, collected⟩
        ⟨waiting, running, collected ++ [b]⟩

/-- When it is over. -/
inductive Ends (read : α → Except ε β) : ReadAhead α β → Except ε (List β) → Prop
  /-- All results are collected. -/
  | all {collected : List β} : Ends read ⟨[], [], collected⟩ (.ok collected)
  /-- The oldest read has failed. -/
  | failed {a : α} {e : ε} {waiting : List α} {running : List (α × Bool)} {collected : List β}
      (h : read a = .error e) : Ends read ⟨waiting, (a, true) :: running, collected⟩ (.error e)

/-- The outcomes of reading a list. -/
def Results (read : α → Except ε β) (limit : Nat) (l : List α) (outcome : Except ε (List β)) :
    Prop :=
  ∃ s, ReflTransGen (Step read limit) ⟨l, [], []⟩ s ∧ Ends read s outcome

/-! ## What comes out -/

/-- What has been collected, followed by what is still to come if it is read in order. -/
def expected (read : α → Except ε β) (s : ReadAhead α β) : Except ε (List β) :=
  ((s.running.map (·.1) ++ s.waiting).mapM read).map (s.collected ++ ·)

theorem Step.expected_eq (h : Step read limit s t) : expected read s = expected read t := by
  cases h with
  | start => simp [expected]
  | finish => simp [expected]
  | @collect a b waiting running _ ha =>
    simp only [expected, List.map_cons, List.cons_append, List.mapM_cons, ha, ok_bind]
    cases (running.map (·.1) ++ waiting).mapM read <;> simp [bind, Except.bind, pure, Except.pure,
      Except.map]

theorem Ends.eq_expected (h : Ends read s outcome) : outcome = expected read s := by
  cases h with
  | all => simp [expected, pure, Except.pure, Except.map]
  | failed ha =>
    simp only [expected, List.map_cons, List.cons_append, List.mapM_cons, ha, error_bind,
      Except.map]

theorem expected_of_steps (h : ReflTransGen (Step read limit) s t) :
    expected read s = expected read t := by
  induction h with
  | refl => rfl
  | tail _ hstep ih => exact ih.trans hstep.expected_eq

theorem expected_start (read : α → Except ε β) (l : List α) :
    expected read ⟨l, [], []⟩ = l.mapM read := by
  change (l.mapM read).map ([] ++ ·) = _
  cases l.mapM read <;> rfl

/-- Whatever happens in between, the outcome is that of reading one after another. -/
theorem Results.eq_mapM {l : List α} (h : Results read limit l outcome) :
    outcome = l.mapM read := by
  obtain ⟨s, hsteps, hends⟩ := h
  rw [hends.eq_expected, ← expected_of_steps hsteps, expected_start]

/-! ## There is an end -/

/-- How many steps can still be made: three for each read that waits, two for each that runs, and
one for each that is done. -/
def weight (s : ReadAhead α β) : Nat :=
  3 * s.waiting.length + s.running.length + s.running.countP fun r => !r.2

theorem Step.weight_lt (h : Step read limit s t) : t.weight < s.weight := by
  cases h with
  | start => simp [weight]; omega
  | finish => simp [weight]
  | collect => simp [weight]

/-- Nothing gets stuck. -/
theorem ends_or_step (read : α → Except ε β) (hlimit : 0 < limit) (s : ReadAhead α β) :
    (∃ outcome, Ends read s outcome) ∨ ∃ t, Step read limit s t := by
  obtain ⟨waiting, running, collected⟩ := s
  cases running with
  | nil =>
    cases waiting with
    | nil => exact .inl ⟨_, .all⟩
    | cons a waiting => exact .inr ⟨_, .start hlimit⟩
  | cons r running =>
    obtain ⟨a, finished⟩ := r
    cases finished with
    | false =>
      have hstep : Step read limit ⟨waiting, [] ++ (a, false) :: running, collected⟩ _ := .finish
      exact .inr ⟨_, hstep⟩
    | true =>
      cases ha : read a with
      | error e => exact .inl ⟨_, .failed ha⟩
      | ok b => exact .inr ⟨_, .collect ha⟩

theorem exists_end (read : α → Except ε β) (hlimit : 0 < limit) (s : ReadAhead α β) :
    ∃ t outcome, ReflTransGen (Step read limit) s t ∧ Ends read t outcome := by
  -- Any step does, since each lowers the weight.
  induction hweight : s.weight using Nat.strongRecOn generalizing s with
  | ind n ih =>
    rcases ends_or_step read hlimit s with ⟨outcome, hends⟩ | ⟨t, hstep⟩
    · exact ⟨s, outcome, .refl, hends⟩
    · obtain ⟨u, outcome, hsteps, hends⟩ := ih t.weight (hweight ▸ hstep.weight_lt) t rfl
      exact ⟨u, outcome, .head hstep hsteps, hends⟩

/-- With any number of reads at once a list is read as one after another. -/
theorem results_iff (hlimit : 0 < limit) {l : List α} :
    Results read limit l outcome ↔ outcome = l.mapM read := by
  refine ⟨Results.eq_mapM, ?_⟩
  rintro rfl
  obtain ⟨t, outcome, hsteps, hends⟩ := exists_end read hlimit ⟨l, [], []⟩
  have hresults : Results read limit l outcome := ⟨t, hsteps, hends⟩
  exact hresults.eq_mapM ▸ hresults

end ReadAhead

end ShardMerge
