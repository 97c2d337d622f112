import ShardMerge.Proofs.Pattern.Regex.Match
import ShardMerge.Proofs.Pattern.Regex.Reading

/-!
# Repetitions in patterns

What is read from a pattern has no repetition that asks for more rounds than it allows, so the search
finds exactly its matches.

* `PatternScope.IsOrdered` and `PatternReader.IsOrdered` say it of what is open.
* `PatternReader.take_isOrdered` is the step and `PatternReader.Reads.isOrdered` the run.
-/

namespace ShardMerge

namespace PatternScope

/-- No repetition in a scope asks for more rounds than it allows. -/
structure IsOrdered (s : PatternScope) : Prop where
  branches : ∀ b ∈ s.branches, b.value.IsOrdered
  items : ∀ item ∈ s.items, item.node.value.IsOrdered

variable {s : PatternScope}

theorem IsOrdered.add (hs : s.IsOrdered) {node : Nested Regex} (hn : node.value.IsOrdered) :
    (s.add node).IsOrdered where
  branches := hs.branches
  items := List.forall_mem_cons.2 ⟨hn, hs.items⟩

theorem IsOrdered.change (hs : s.IsOrdered) (flags : PatternFlags) :
    (s.change flags).IsOrdered where
  branches := hs.branches
  items := List.forall_mem_cons.2 ⟨trivial, hs.items⟩

theorem isOrdered_foldl_seq {items : List PatternItem} {tail : Regex} (ht : tail.IsOrdered)
    (hi : ∀ item ∈ items, item.node.value.IsOrdered) :
    (items.foldl (fun tail item => .seq item.node.value tail) tail).IsOrdered := by
  induction items generalizing tail with
  | nil => exact ht
  | cons item items ih =>
    rw [List.forall_mem_cons] at hi
    exact ih (And.intro hi.1 ht) hi.2

theorem isOrdered_foldl_alt {branches : List (Nested Regex)} {tail : Regex} (ht : tail.IsOrdered)
    (hb : ∀ b ∈ branches, b.value.IsOrdered) :
    (branches.foldl (fun tail b => .alt b.value tail) tail).IsOrdered := by
  induction branches generalizing tail with
  | nil => exact ht
  | cons b branches ih =>
    rw [List.forall_mem_cons] at hb
    exact ih (And.intro hb.1 ht) hb.2

theorem IsOrdered.branch (hs : s.IsOrdered) : s.branch.value.IsOrdered := by
  have hi := hs.items
  unfold PatternScope.branch
  split
  · trivial
  · rename_i item hitem
    exact hi item (by simp [hitem])
  · rename_i last items _ hitems
    rw [hitems, List.forall_mem_cons] at hi
    exact isOrdered_foldl_seq hi.1 hi.2

theorem IsOrdered.nextBranch (hs : s.IsOrdered) : s.nextBranch.IsOrdered where
  branches := List.forall_mem_cons.2 ⟨hs.branch, hs.branches⟩
  items := nofun

theorem IsOrdered.finish (hs : s.IsOrdered) : s.finish.value.IsOrdered := by
  unfold PatternScope.finish
  dsimp only
  split
  · exact hs.branch
  · exact isOrdered_foldl_alt hs.branch hs.branches

theorem IsOrdered.repeatLast (hs : s.IsOrdered) {least : Nat} {most : Option Nat}
    (hm : ∀ n ∈ most, least ≤ n) {s' : PatternScope} (h : s.repeatLast least most = some s') :
    s'.IsOrdered := by
  have hi := hs.items
  unfold PatternScope.repeatLast at h
  split at h
  · cases h
  · rename_i item items hitems
    rw [hitems, List.forall_mem_cons] at hi
    obtain ⟨-, h⟩ := Option.ite_none_right_eq_some.1 h
    cases h
    have hrest : { s with items }.IsOrdered := ⟨hs.branches, hi.2⟩
    exact hrest.add (And.intro hm hi.1)

end PatternScope

namespace PatternReader

/-- No repetition in any scope asks for more rounds than it allows. -/
structure IsOrdered (p : PatternReader) : Prop where
  scope : p.scope.IsOrdered
  outer : ∀ scope ∈ p.outer, scope.IsOrdered

theorem isOrdered_start (property? : List Char → Option CharClass) :
    (start property?).IsOrdered where
  scope := { branches := nofun, items := nofun }
  outer := nofun

variable {p p' q : PatternReader} {c : Char} {part : PatternPart} {s : List Char}

theorem take_isOrdered (hp : p.IsOrdered) (hpart : PatternPart.Arises c part)
    (ht : p.take part = some p') : p'.IsOrdered := by
  have hopen (flags : PatternFlags) (names : List (List Char)) :
      ({ p with names }.openGroup flags).IsOrdered :=
    { scope := { branches := nofun, items := nofun }
      outer := List.forall_mem_cons.2 ⟨hp.scope, hp.outer⟩ }
  cases hpart with
  | one set depth =>
    cases ht
    exact ⟨hp.scope.add trivial, hp.outer⟩
  | look condition =>
    cases ht
    exact ⟨hp.scope.add trivial, hp.outer⟩
  | opening flags name =>
    cases name with
    | none =>
      cases ht
      exact hopen flags p.names
    | some name =>
      obtain ⟨-, ht⟩ := Option.ite_none_left_eq_some.1 ht
      cases ht
      exact hopen flags (name :: p.names)
  | closing =>
    have ho := hp.outer
    simp only [take, closeGroup] at ht
    split at ht
    · cases ht
    · rename_i scope outer houter
      rw [houter, List.forall_mem_cons] at ho
      cases ht
      exact ⟨ho.1.add hp.scope.finish, ho.2⟩
  | change flags =>
    cases ht
    exact ⟨hp.scope.change flags, hp.outer⟩
  | bar =>
    cases ht
    exact ⟨hp.scope.nextBranch, hp.outer⟩
  | repetition least most hm =>
    obtain ⟨scope, hscope, he⟩ := Option.map_eq_some_iff.1 ht
    cases he
    exact ⟨hp.scope.repeatLast hm hscope, hp.outer⟩

theorem Reads.isOrdered (h : Reads p s q) (hp : p.IsOrdered) : q.IsOrdered := by
  induction h with
  | done => exact hp
  | part _ hr ht _ ih => exact ih (take_isOrdered hp (PatternPart.arises_of_read hr) ht)

end PatternReader

end ShardMerge
