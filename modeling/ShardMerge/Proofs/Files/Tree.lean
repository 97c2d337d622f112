import Mathlib.Data.List.Basic
import Mathlib.Data.List.Induction
import ShardMerge.Files.Tree

/-!
# What file trees hold

A tree is known by the nodes at its locations.

* `find?_put` and `entries_put` are what putting a node does to every location and to the entries of
  every directory.
* `Tree.Extends` relates a tree to one that has everything that it has and maybe more.
* `Tree.Grounded` is what file systems keep to: whatever there is, it is in a directory.
  `Grounded.eq_none_append` draws the consequence that counts here: there is nothing below a location
  where there is nothing.
-/

namespace ShardMerge.Tree

variable {t t' t'' : Tree} {location other : List String} {node : Node}

/-! ## Nodes -/

theorem find?_eq (hne : location ≠ []) :
    t.find? location = (t.nodes.find? fun entry => entry.1 = location).map (·.2) := by
  rw [find?, if_neg hne]

theorem find?_nil (t : Tree) : t.find? [] = some .directory := rfl

/-- Putting a node changes what is at its location and nowhere else. -/
theorem find?_put (hne : location ≠ []) (t : Tree) (node : Node) (other : List String) :
    (t.put location node).find? other =
      if other = location then some node else t.find? other := by
  by_cases hother : other = []
  · rw [hother, find?_nil, find?_nil, if_neg (Ne.symm hne)]
  rw [find?_eq hother, find?_eq hother]
  unfold put
  split
  · -- A node that is there is replaced wherever its location occurs.
    rename_i hthere
    have hkeep : (fun entry : List String × Node => decide (entry.1 = other)) ∘
        (fun entry => if entry.1 = location then (location, node) else entry) =
          fun entry => decide (entry.1 = other) := by
      funext entry
      by_cases hentry : entry.1 = location <;> simp [hentry]
    rw [List.find?_map, hkeep]
    by_cases heq : other = location
    · subst heq
      rw [find?_eq hother, Option.isSome_map] at hthere
      obtain ⟨entry, hentry⟩ := Option.isSome_iff_exists.1 hthere
      have hkey : entry.1 = other := by simpa using List.find?_some hentry
      simp [hentry, hkey]
    · rw [if_neg heq]
      cases hentry : t.nodes.find? fun entry => decide (entry.1 = other) with
      | none => rfl
      | some entry =>
        have hkey : entry.1 = other := by simpa using List.find?_some hentry
        simp [hkey, heq]
  · rename_i hmissing
    rw [List.find?_append]
    by_cases heq : other = location
    · subst heq
      rw [find?_eq hother, Option.isSome_map, Option.not_isSome_iff_eq_none] at hmissing
      simp [hmissing]
    · simp [heq, Ne.symm heq]

/-! ## Entries of a directory -/

/-- The location of an entry of a directory. -/
theorem getLast?_eq_some_and_dropLast_eq_iff {place : List String} {name : String} :
    place.getLast? = some name ∧ place.dropLast = location ↔ place = location ++ [name] := by
  constructor
  · intro h
    obtain ⟨hlast, hfront⟩ := h
    have hne : place ≠ [] := by
      rintro rfl
      cases hlast
    rw [List.getLast?_eq_some_getLast hne, Option.some.injEq] at hlast
    rw [← List.dropLast_append_getLast hne, hfront, hlast]
  · rintro rfl
    simp

theorem mem_entries_iff {name : String} :
    name ∈ t.entries location ↔ (t.find? (location ++ [name])).isSome = true := by
  have hmem : name ∈ t.entries location ↔
      ∃ entry ∈ t.nodes, entry.1 = location ++ [name] := by
    unfold entries
    rw [List.mem_filterMap]
    constructor
    · intro h
      obtain ⟨⟨place, node⟩, hentry, hname⟩ := h
      refine ⟨(place, node), hentry, getLast?_eq_some_and_dropLast_eq_iff.1 ?_⟩
      cases hlast : place.getLast? with
      | none => simp [hlast] at hname
      | some last =>
        simp only [hlast] at hname
        split at hname
        · rename_i hfront
          cases hname
          exact ⟨rfl, hfront⟩
        · cases hname
    · intro h
      obtain ⟨⟨place, node⟩, hentry, hplace⟩ := h
      obtain ⟨hlast, hfront⟩ := getLast?_eq_some_and_dropLast_eq_iff.2 hplace
      exact ⟨(place, node), hentry, by simp [hlast, hfront]⟩
  rw [hmem, find?_eq (by simp), Option.isSome_map, List.find?_isSome]
  simp

theorem entries_put (hne : location ≠ []) (t : Tree) (node : Node) (other : List String) :
    (t.put location node).entries other =
      if (t.find? location).isSome = true ∨ location.dropLast ≠ other then t.entries other
      else t.entries other ++ [location.getLast hne] := by
  unfold put
  by_cases hthere : (t.find? location).isSome = true
  · rw [if_pos hthere, if_pos (.inl hthere)]
    unfold entries
    rw [List.filterMap_map]
    congr 1
    funext entry
    by_cases hentry : entry.1 = location
    · simp [hentry]
    · simp [hentry]
  · rw [if_neg hthere]
    unfold entries
    rw [List.filterMap_append]
    by_cases hfront : location.dropLast = other
    · simp [hthere, hfront, List.getLast?_eq_some_getLast hne]
    · simp [hfront, List.getLast?_eq_some_getLast hne]

/-! ## Trees with more -/

/-- Whatever the first tree has is in the second one too. -/
def Extends (t t' : Tree) : Prop :=
  ∀ location node, t.find? location = some node → t'.find? location = some node

theorem Extends.refl (t : Tree) : t.Extends t := fun _ _ h => h

theorem Extends.trans (h : t.Extends t') (h' : t'.Extends t'') : t.Extends t'' :=
  fun location node hnode => h' location node (h location node hnode)

theorem extends_put (h : t.find? location = none) (node : Node) :
    t.Extends (t.put location node) := by
  have hne : location ≠ [] := by
    rintro rfl
    cases h
  intro other there hthere
  rw [find?_put hne]
  by_cases hother : other = location
  · rw [hother, h] at hthere
    cases hthere
  · rw [if_neg hother, hthere]

/-! ## Grounded trees -/

/-- Whatever is in the tree, it is in a directory. -/
def Grounded (t : Tree) : Prop :=
  ∀ location name, (t.find? (location ++ [name])).isSome = true →
    t.find? location = some .directory

/-- There is nothing below a location. -/
def NothingBelow (t : Tree) (location : List String) : Prop :=
  ∀ names, names ≠ [] → t.find? (location ++ names) = none

theorem grounded_empty : Grounded {} := by
  intro location name h
  simp [find?_eq] at h

theorem Grounded.put {name : String} (h : t.Grounded)
    (hdirectory : t.find? location = some .directory)
    (hnone : t.find? (location ++ [name]) = none) (node : Node) :
    (t.put (location ++ [name]) node).Grounded := by
  have hne : location ++ [name] ≠ [] := by simp
  intro other last hthere
  rw [find?_put hne] at hthere ⊢
  by_cases hnew : other ++ [last] = location ++ [name]
  · obtain ⟨rfl, _⟩ := List.append_inj' hnew rfl
    rw [if_neg (by simp), hdirectory]
  · rw [if_neg hnew] at hthere
    have hother := h other last hthere
    by_cases hplace : other = location ++ [name]
    · rw [hplace, hnone] at hother
      cases hother
    · rw [if_neg hplace, hother]

/-- There is nothing below a location where there is nothing. -/
theorem Grounded.eq_none_append (h : t.Grounded) (hnone : t.find? location = none)
    (names : List String) : t.find? (location ++ names) = none := by
  induction names using List.reverseRecOn with
  | nil => rw [List.append_nil, hnone]
  | append_singleton names name ih =>
    rw [← List.append_assoc]
    cases hthere : t.find? (location ++ names ++ [name]) with
    | none => rfl
    | some node =>
      rw [h _ name (by rw [hthere]; rfl)] at ih
      cases ih

/-- A new directory has nothing below it. -/
theorem Grounded.nothingBelow_put (h : t.Grounded) (hnone : t.find? location = none)
    (node : Node) : (t.put location node).NothingBelow location := by
  have hne : location ≠ [] := by
    rintro rfl
    cases hnone
  intro names hnames
  rw [find?_put hne, if_neg (by simpa using hnames), h.eq_none_append hnone]

end ShardMerge.Tree
