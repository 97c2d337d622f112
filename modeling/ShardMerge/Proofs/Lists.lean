import Mathlib.Data.List.Induction
import Mathlib.Data.List.Nodup

/-!
# Lists

What the proofs need of `List.eraseDups`, of looking up the element of a key, of the first element
without a property, and of `List.mapM`.
-/

namespace ShardMerge

variable {α β γ : Type} [DecidableEq β]

theorem eraseDups_concat (l : List β) (b : β) :
    (l ++ [b]).eraseDups = if b ∈ l then l.eraseDups else l.eraseDups ++ [b] := by
  rw [List.eraseDups_append]
  by_cases h : b ∈ l <;> simp [h, List.removeAll, List.eraseDups_cons]

theorem nodup_eraseDups (l : List β) : l.eraseDups.Nodup := by
  induction l using List.reverseRecOn with
  | nil => exact List.nodup_nil
  | append_singleton l b ih =>
    rw [eraseDups_concat]
    split
    · exact ih
    · rename_i hb
      have hnew : b ∉ l.eraseDups := mt List.mem_eraseDups.1 hb
      rw [← List.concat_eq_append]
      exact ih.concat hnew

theorem eraseDups_of_nodup {l : List β} (h : l.Nodup) : l.eraseDups = l := by
  induction l using List.reverseRecOn with
  | nil => rfl
  | append_singleton l b ih =>
    obtain ⟨hl, _, hnew⟩ := List.nodup_append.1 h
    have hb : b ∉ l := by
      intro hmem
      exact hnew b hmem b (List.mem_singleton_self b) rfl
    rw [eraseDups_concat, if_neg hb, ih hl]

/-- Where keys do not repeat, an element is found by its key. -/
theorem find?_of_mem {key : α → β} {l : List α} (h : (l.map key).Nodup) {a : α} (ha : a ∈ l) :
    l.find? (fun b => key b = key a) = some a := by
  induction l with
  | nil => cases ha
  | cons b rest ih =>
    rw [List.map_cons, List.nodup_cons] at h
    rcases List.mem_cons.1 ha with rfl | ha
    · simp
    · have hne : key b ≠ key a := by
        intro hkey
        exact h.1 (hkey ▸ List.mem_map_of_mem ha)
      simpa [hne] using ih h.2 ha

omit [DecidableEq β] in
/-- If not all elements have a property, there is a first one without it. -/
theorem exists_first_not {P : α → Prop} {l : List α} (h : ¬∀ a ∈ l, P a) :
    ∃ before a after, l = before ++ a :: after ∧ (∀ b ∈ before, P b) ∧ ¬P a := by
  induction l with
  | nil => exact absurd nofun h
  | cons a l ih =>
    by_cases ha : P a
    · have hrest : ¬∀ b ∈ l, P b := fun hall => h (List.forall_mem_cons.2 ⟨ha, hall⟩)
      obtain ⟨before, b, after, rfl, hbefore, hb⟩ := ih hrest
      exact ⟨a :: before, b, after, rfl, List.forall_mem_cons.2 ⟨ha, hbefore⟩, hb⟩
    · exact ⟨[], a, l, rfl, nofun, ha⟩

omit [DecidableEq β] in
/-- If each element has an answer, the list has those. -/
theorem mapM_map_eq_some {f : α → β} {g : β → Option γ} {answer : α → γ} {l : List α}
    (h : ∀ a ∈ l, g (f a) = some (answer a)) : (l.map f).mapM g = some (l.map answer) := by
  induction l with
  | nil => rfl
  | cons a l ih =>
    rw [List.forall_mem_cons] at h
    rw [List.map_cons, List.mapM_cons, h.1, ih h.2]
    rfl

omit [DecidableEq β] in
theorem exists_of_mem_mapM {f : α → Option β} {l : List α} {answers : List β}
    (h : l.mapM f = some answers) {answer : β} (hanswer : answer ∈ answers) :
    ∃ a ∈ l, f a = some answer := by
  induction l generalizing answers with
  | nil =>
    rw [List.mapM_nil] at h
    rw [← Option.some.inj h] at hanswer
    cases hanswer
  | cons a l ih =>
    rw [List.mapM_cons] at h
    obtain ⟨first, hfirst, h⟩ := Option.bind_eq_some_iff.1 h
    obtain ⟨rest, hrest, h⟩ := Option.bind_eq_some_iff.1 h
    rw [← Option.some.inj h] at hanswer
    rcases List.mem_cons.1 hanswer with rfl | hanswer
    · exact ⟨a, List.mem_cons_self, hfirst⟩
    · obtain ⟨b, hb, hread⟩ := ih hrest hanswer
      exact ⟨b, List.mem_cons_of_mem _ hb, hread⟩

end ShardMerge
