/-!
# Dictionaries with text keys

A dictionary is the list of its entries in strictly ascending order of their keys, which is the
byte order of their UTF-8 forms.  Two dictionaries with the same entries are therefore equal, and
walking one lists it in the order that every answer shows.

* `find?`, `insert`, `ofList` and `keys` are the operations.
* `find?_insert` says what an insertion does to every look-up, and `ext_find?` that a dictionary
  is determined by its look-ups.
-/

namespace ShardMerge

/-- Entries in strictly ascending order of their keys. -/
structure Dict (α : Type) where
  entries : List (String × α)
  sorted : entries.Pairwise fun a b => a.1 < b.1
deriving Repr

namespace Dict

variable {α : Type}

instance [DecidableEq α] : DecidableEq (Dict α) := fun d e =>
  if h : d.entries = e.entries then
    .isTrue (by cases d; cases e; simp_all)
  else .isFalse fun he => h (by rw [he])

/-- The dictionary without entries. -/
def empty : Dict α := ⟨[], .nil⟩

instance : Inhabited (Dict α) := ⟨empty⟩

/-- The keys in ascending order. -/
def keys (d : Dict α) : List String := d.entries.map (·.1)

/-- The value of a key in a list of entries. -/
def lookup (key : String) : List (String × α) → Option α
  | [] => none
  | (k, v) :: rest => if k = key then some v else lookup key rest

/-- The value of a key. -/
def find? (d : Dict α) (key : String) : Option α := lookup key d.entries

/-- Whether a key has a value. -/
def contains (d : Dict α) (key : String) : Bool := (d.find? key).isSome

/-- Puts an entry at its place in an ascending list, in place of an entry with the same key. -/
def place (key : String) (value : α) : List (String × α) → List (String × α)
  | [] => [(key, value)]
  | (k, v) :: rest =>
    if key < k then (key, value) :: (k, v) :: rest
    else if key = k then (key, value) :: rest
    else (k, v) :: place key value rest

theorem key_of_mem_place {key : String} {value : α} {l : List (String × α)} {e : String × α}
    (h : e ∈ place key value l) : e.1 = key ∨ e ∈ l := by
  induction l with
  | nil => simp_all [place]
  | cons head rest ih =>
    obtain ⟨k, v⟩ := head
    unfold place at h
    split at h
    · rcases List.mem_cons.1 h with rfl | h
      · exact .inl rfl
      · exact .inr h
    · split at h
      · rcases List.mem_cons.1 h with rfl | h
        · exact .inl rfl
        · exact .inr (List.mem_cons_of_mem _ h)
      · rcases List.mem_cons.1 h with rfl | h
        · exact .inr (by simp)
        · rcases ih h with h | h
          · exact .inl h
          · exact .inr (List.mem_cons_of_mem _ h)

theorem lt_of_not_lt_of_ne {a b : String} (h : ¬ a < b) (hne : a ≠ b) : b < a := by
  apply Decidable.byContradiction
  intro h'
  exact hne (String.le_antisymm (String.not_lt.1 h') (String.not_lt.1 h))

theorem lt_or_lt_of_ne {a b : String} (hne : a ≠ b) : a < b ∨ b < a := by
  by_cases h : a < b
  · exact .inl h
  · exact .inr (lt_of_not_lt_of_ne h hne)

theorem pairwise_place (key : String) (value : α) {l : List (String × α)}
    (h : l.Pairwise fun a b => a.1 < b.1) :
    (place key value l).Pairwise fun a b => a.1 < b.1 := by
  induction l with
  | nil => simp [place]
  | cons head rest ih =>
    obtain ⟨k, v⟩ := head
    obtain ⟨hk, hr⟩ := List.pairwise_cons.1 h
    unfold place
    split
    · rename_i hlt
      refine List.pairwise_cons.2 ⟨fun e he => ?_, h⟩
      rcases List.mem_cons.1 he with rfl | he
      · exact hlt
      · exact String.lt_trans hlt (hk e he)
    · rename_i hnlt
      split
      · rename_i heq
        subst heq
        exact List.pairwise_cons.2 ⟨fun e he => hk e he, hr⟩
      · rename_i hne
        refine List.pairwise_cons.2 ⟨fun e he => ?_, ih hr⟩
        rcases key_of_mem_place he with he | he
        · rw [he]; exact lt_of_not_lt_of_ne hnlt hne
        · exact hk e he

/-- Adds an entry or replaces the one with the same key. -/
def insert (d : Dict α) (key : String) (value : α) : Dict α :=
  ⟨place key value d.entries, pairwise_place key value d.sorted⟩

/-- Inserts the entries from left to right, so that the last one of a key stays. -/
def ofList (l : List (String × α)) : Dict α :=
  l.foldl (fun d e => d.insert e.1 e.2) empty

@[simp] theorem find?_empty (key : String) : (empty : Dict α).find? key = none := rfl

theorem lookup_place (key other : String) (value : α) (l : List (String × α)) :
    lookup other (place key value l) =
      if other = key then some value else lookup other l := by
  induction l with
  | nil => simp [place, lookup, eq_comm]
  | cons head rest ih =>
    obtain ⟨k, v⟩ := head
    unfold place
    split
    · by_cases h : other = key
      · simp [lookup, h]
      · simp [lookup, h, Ne.symm h]
    · split
      · rename_i heq
        subst heq
        by_cases h : other = key
        · simp [lookup, h]
        · simp [lookup, h, Ne.symm h]
      · rename_i hne
        rw [lookup, ih]
        by_cases h : other = key
        · subst h
          simp [Ne.symm hne]
        · simp [lookup, h]

/-- An insertion changes the look-up of its own key and no other. -/
@[simp] theorem find?_insert (d : Dict α) (key other : String) (value : α) :
    (d.insert key value).find? other = if other = key then some value else d.find? other :=
  lookup_place key other value d.entries

theorem contains_insert (d : Dict α) (key other : String) (value : α) :
    (d.insert key value).contains other = (decide (other = key) || d.contains other) := by
  by_cases h : other = key <;> simp [contains, h]

theorem lookup_eq_none_of_lt {key : String} {l : List (String × α)}
    (h : ∀ e ∈ l, key < e.1) : lookup key l = none := by
  induction l with
  | nil => rfl
  | cons head rest ih =>
    obtain ⟨k, v⟩ := head
    have hk : key < k := h (k, v) (by simp)
    have hne : k ≠ key := fun he => String.lt_irrefl key (he ▸ hk)
    rw [lookup, if_neg hne, ih fun e he => h e (List.mem_cons_of_mem _ he)]

theorem lookup_eq_some_iff {key : String} {value : α} {l : List (String × α)}
    (h : l.Pairwise fun a b => a.1 < b.1) :
    lookup key l = some value ↔ (key, value) ∈ l := by
  induction l with
  | nil => simp [lookup]
  | cons head rest ih =>
    obtain ⟨k, v⟩ := head
    obtain ⟨hk, hr⟩ := List.pairwise_cons.1 h
    rw [lookup]
    split
    · rename_i he
      subst he
      simp only [Option.some.injEq, List.mem_cons, Prod.mk.injEq, true_and]
      constructor
      · rintro rfl; exact .inl rfl
      · rintro (rfl | hm)
        · rfl
        · exact absurd (hk _ hm) (String.lt_irrefl _)
    · rename_i hne
      rw [ih hr, List.mem_cons, Prod.mk.injEq]
      constructor
      · exact .inr
      · rintro (⟨rfl, _⟩ | hm)
        · exact absurd rfl hne
        · exact hm

/-- A look-up answers the value of the entry with that key. -/
theorem find?_eq_some_iff {d : Dict α} {key : String} {value : α} :
    d.find? key = some value ↔ (key, value) ∈ d.entries :=
  lookup_eq_some_iff d.sorted

theorem mem_keys_iff {d : Dict α} {key : String} :
    key ∈ d.keys ↔ ∃ value, d.find? key = some value := by
  simp [keys, find?_eq_some_iff]

theorem entries_ext {l m : List (String × α)} (hl : l.Pairwise fun a b => a.1 < b.1)
    (hm : m.Pairwise fun a b => a.1 < b.1) (h : ∀ key, lookup key l = lookup key m) : l = m := by
  induction l generalizing m with
  | nil =>
    cases m with
    | nil => rfl
    | cons e m => simpa [lookup] using h e.1
  | cons e l ih =>
    cases m with
    | nil => simpa [lookup] using h e.1
    | cons f m =>
      obtain ⟨k, v⟩ := e
      obtain ⟨k', v'⟩ := f
      obtain ⟨hk, hl⟩ := List.pairwise_cons.1 hl
      obtain ⟨hk', hm'⟩ := List.pairwise_cons.1 hm
      have heq : k = k' := by
        apply Decidable.byContradiction
        intro hne
        rcases lt_or_lt_of_ne hne with hlt | hlt
        · have hnone : lookup k ((k', v') :: m) = none := lookup_eq_none_of_lt fun e he => by
            rcases List.mem_cons.1 he with rfl | he
            · exact hlt
            · exact String.lt_trans hlt (hk' e he)
          have := h k
          rw [hnone] at this
          simp [lookup] at this
        · have hnone : lookup k' ((k, v) :: l) = none := lookup_eq_none_of_lt fun e he => by
            rcases List.mem_cons.1 he with rfl | he
            · exact hlt
            · exact String.lt_trans hlt (hk e he)
          have := h k'
          rw [hnone] at this
          simp [lookup] at this
      subst heq
      have hv : v = v' := by simpa [lookup] using h k
      subst hv
      congr 1
      refine ih hl hm' fun key => ?_
      have := h key
      by_cases hkey : k = key
      · subst hkey
        rw [lookup_eq_none_of_lt fun e he => hk e he, lookup_eq_none_of_lt fun e he => hk' e he]
      · simpa [lookup, hkey] using this

/-- Dictionaries with the same look-ups are equal. -/
theorem ext_find? {d e : Dict α} (h : ∀ key, d.find? key = e.find? key) : d = e := by
  obtain ⟨l, hl⟩ := d
  obtain ⟨m, hm⟩ := e
  have := entries_ext hl hm h
  subst this
  rfl

end Dict

end ShardMerge
