import Mathlib.Data.List.Induction
import Mathlib.Data.List.Pairwise
import Mathlib.Tactic.ByContra
import ShardMerge.Schema.Unified

/-!
# The types that a column holds

A unified column holds its own type and the contenders beside it.  `HoldsMaximal` is the invariant
of a merge: the held types are the maximal ones among those declared so far, each with the source
that declares it first.

* `absorb_eq_self` and `held_absorb` say what `UnifiedColumn.absorb` does to the held types: a type
  that fits in a held one changes nothing, any other drives out the held types that fit in it.
* `HoldsMaximal.absorb` is the step and `holdsDeclared_foldl` the run over all declarations of a
  name.
* `HoldsMaximal.tail_eq_nil_iff` reads the outcome off the invariant: one type is left exactly if
  one declared type is wide enough for all others.
-/

namespace ShardMerge

/-- The types that a column holds, its own first, each with its source. -/
def UnifiedColumn.held (c : UnifiedColumn) : List Contender :=
  { type := c.type, origin := c.origin } :: c.contenders

/-- Neither type fits in the other. -/
def Contender.Incomparable (a b : Contender) : Prop :=
  a.type.fitsIn b.type = false ∧ b.type.fitsIn a.type = false

instance : Std.Symm Contender.Incomparable := ⟨fun _ _ h => ⟨h.2, h.1⟩⟩

/-- The held types are those that no other declared type exceeds. -/
structure HoldsMaximal (held declared : List Contender) : Prop where
  incomparable : held.Pairwise Contender.Incomparable
  /-- Each held type has the source that declares it first. -/
  first : ∀ h ∈ held, (declared.find? fun d => d.type = h.type) = some h
  covers : ∀ d ∈ declared, ∃ h ∈ held, d.type.fitsIn h.type = true

/-! ## What taking in a type does to the held types -/

namespace UnifiedColumn

@[simp] theorem name_absorb (c : UnifiedColumn) (type : ColumnType) (origin : TableName) :
    (c.absorb type origin).name = c.name := by
  unfold absorb
  cases c.absorption type <;> rfl

/-- A declared type is compared with every held one before it is compared with the column. -/
theorem absorption_eq (c : UnifiedColumn) (type : ColumnType) :
    c.absorption type =
      if ∃ h ∈ c.held, type.fitsIn h.type = true then .covered
      else if c.type.fitsIn type then .widened
      else .contended := by
  unfold absorption held
  by_cases hrival : ∃ rival ∈ c.contenders, type.fitsIn rival.type = true
  · simp [hrival]
  · by_cases hcurrent : type.fitsIn c.type = true
    · simp [hrival, hcurrent, ColumnType.wider?]
    · by_cases hwider : c.type.fitsIn type = true
      · have hne : type ≠ c.type := by
          intro h
          exact hcurrent (h ▸ ColumnType.fitsIn_refl type)
        simp [hrival, hcurrent, hwider, hne, ColumnType.wider?]
      · simp [hrival, hcurrent, hwider, ColumnType.wider?]

/-- A type that fits in a held one changes nothing. -/
theorem absorb_eq_self {c : UnifiedColumn} {type : ColumnType} (origin : TableName)
    (h : ∃ held ∈ c.held, type.fitsIn held.type = true) : c.absorb type origin = c := by
  rw [absorb, absorption_eq, if_pos h]

/-- Any other type is held from then on, and the held types that fit in it are not. -/
theorem held_absorb {c : UnifiedColumn} {type : ColumnType} (origin : TableName)
    (h : ¬ ∃ held ∈ c.held, type.fitsIn held.type = true) :
    (c.absorb type origin).held.Perm
      ({ type, origin } :: c.held.filter fun held => !held.type.fitsIn type) := by
  rw [absorb, absorption_eq, if_neg h]
  by_cases hwider : c.type.fitsIn type = true
  · simp [held, hwider]
  · rw [if_neg hwider, held, held, List.filter_cons_of_pos (by simpa using hwider)]
    exact ((List.perm_append_singleton _ _).cons _).trans (List.Perm.swap _ _ _)

end UnifiedColumn

/-! ## The invariant of a merge -/

namespace HoldsMaximal

variable {held declared : List Contender}

theorem single (d : Contender) : HoldsMaximal [d] [d] := by
  refine ⟨by simp, ?_, ?_⟩
  · intro h hh
    simp [List.mem_singleton.1 hh]
  · intro d' hd'
    exact ⟨d, by simp, by simp [List.mem_singleton.1 hd']⟩

theorem perm {held' : List Contender} (h : HoldsMaximal held declared) (hp : held.Perm held') :
    HoldsMaximal held' declared := by
  refine ⟨?_, ?_, ?_⟩
  · exact hp.pairwise h.incomparable fun hab => ⟨hab.2, hab.1⟩
  · intro a ha
    exact h.first a (hp.mem_iff.2 ha)
  · intro d hd
    obtain ⟨a, ha, hfits⟩ := h.covers d hd
    exact ⟨a, hp.mem_iff.1 ha, hfits⟩

/-- A held type is a declared one. -/
theorem mem_declared (h : HoldsMaximal held declared) {a : Contender} (ha : a ∈ held) :
    a ∈ declared :=
  List.mem_of_find?_eq_some (h.first a ha)

/-- A declared type that a held one covers leaves the held types as they are. -/
theorem covered (h : HoldsMaximal held declared) {d : Contender}
    (hd : ∃ a ∈ held, d.type.fitsIn a.type = true) : HoldsMaximal held (declared ++ [d]) := by
  refine ⟨h.incomparable, ?_, ?_⟩
  · intro a ha
    rw [List.find?_append, h.first a ha, Option.some_or]
  · intro e he
    rcases List.mem_append.1 he with he | he
    · exact h.covers e he
    · rw [List.mem_singleton.1 he]
      exact hd

/-- A declared type that no held one covers drives out those that it covers. -/
theorem driven (h : HoldsMaximal held declared) {d : Contender}
    (hd : ¬ ∃ a ∈ held, d.type.fitsIn a.type = true) :
    HoldsMaximal (d :: held.filter fun a => !a.type.fitsIn d.type) (declared ++ [d]) := by
  have hnot : ∀ a ∈ held, d.type.fitsIn a.type = false := by
    intro a ha
    by_contra hfits
    exact hd ⟨a, ha, by simpa using hfits⟩
  refine ⟨?_, ?_, ?_⟩
  · refine List.pairwise_cons.2 ⟨?_, h.incomparable.filter _⟩
    intro a ha
    obtain ⟨ha, hstays⟩ := List.mem_filter.1 ha
    exact ⟨hnot a ha, by simpa using hstays⟩
  · intro a ha
    rcases List.mem_cons.1 ha with rfl | ha
    · -- Had the type been declared before, a held type would cover it.
      have hnew : (declared.find? fun e => e.type = a.type) = none := by
        rw [List.find?_eq_none]
        intro e he hsame
        obtain ⟨b, hb, hfits⟩ := h.covers e he
        have hsame : e.type = a.type := by simpa using hsame
        rw [hsame, hnot b hb] at hfits
        cases hfits
      simp [List.find?_append, hnew]
    · rw [List.find?_append, h.first a (List.mem_filter.1 ha).1, Option.some_or]
  · intro e he
    rcases List.mem_append.1 he with he | he
    · obtain ⟨a, ha, hfits⟩ := h.covers e he
      by_cases hdriven : a.type.fitsIn d.type = true
      · exact ⟨d, List.mem_cons_self, ColumnType.fitsIn_trans hfits hdriven⟩
      · exact ⟨a, List.mem_cons_of_mem _ (List.mem_filter.2 ⟨ha, by simpa using hdriven⟩), hfits⟩
    · rw [List.mem_singleton.1 he]
      exact ⟨d, List.mem_cons_self, ColumnType.fitsIn_refl _⟩

/-- The step of the invariant. -/
theorem absorb {c : UnifiedColumn} (h : HoldsMaximal c.held declared) (d : Contender) :
    HoldsMaximal (c.absorb d.type d.origin).held (declared ++ [d]) := by
  by_cases hd : ∃ a ∈ c.held, d.type.fitsIn a.type = true
  · rw [UnifiedColumn.absorb_eq_self d.origin hd]
    exact h.covered hd
  · exact (h.driven hd).perm (UnifiedColumn.held_absorb d.origin hd).symm

/-- A held type and a declared one in which it fits are the same. -/
theorem eq_of_fitsIn (h : HoldsMaximal held declared) {a d : Contender} (ha : a ∈ held)
    (hd : d ∈ declared) (hfits : a.type.fitsIn d.type = true) : a.type = d.type := by
  obtain ⟨b, hb, hdb⟩ := h.covers d hd
  by_cases hab : a = b
  · subst hab
    exact ColumnType.fitsIn_antisymm hfits hdb
  · have hincomparable : a.Incomparable b := h.incomparable.forall ha hb hab
    have hab' : a.type.fitsIn b.type = true := ColumnType.fitsIn_trans hfits hdb
    rw [hincomparable.1] at hab'
    cases hab'

/-- A held type without any other one is the widest. -/
theorem widest {a : Contender} (h : HoldsMaximal [a] declared) :
    ∀ d ∈ declared, d.type.fitsIn a.type = true := by
  intro d hd
  obtain ⟨b, hb, hfits⟩ := h.covers d hd
  rwa [List.mem_singleton.1 hb] at hfits

/-- One type is left exactly if one declared type is wide enough for all others. -/
theorem tail_eq_nil_iff {a : Contender} {rest : List Contender}
    (h : HoldsMaximal (a :: rest) declared) :
    rest = [] ↔ ∃ w ∈ declared, ∀ d ∈ declared, d.type.fitsIn w.type = true := by
  constructor
  · intro hrest
    subst hrest
    exact ⟨a, h.mem_declared List.mem_cons_self, h.widest⟩
  · intro hsome
    obtain ⟨w, hw, hwidest⟩ := hsome
    have haw : a.type = w.type :=
      h.eq_of_fitsIn List.mem_cons_self hw (hwidest a (h.mem_declared List.mem_cons_self))
    rw [List.eq_nil_iff_forall_not_mem]
    intro b hb
    have hba : b.type.fitsIn a.type = true := by
      rw [haw]
      exact hwidest b (h.mem_declared (List.mem_cons_of_mem _ hb))
    have hincomparable : a.Incomparable b := (List.pairwise_cons.1 h.incomparable).1 b hb
    rw [hincomparable.2] at hba
    cases hba

end HoldsMaximal

/-! ## The run over all declarations of a name -/

/-- A column after one more declaration of its name; the first one makes the column. -/
def UnifiedColumn.declare (name : String) (column : Option UnifiedColumn) (d : Contender) :
    Option UnifiedColumn :=
  match column with
  | none => some { name, type := d.type, origin := d.origin }
  | some c => some (c.absorb d.type d.origin)

/-- A column is what the declarations of its name have made of it so far. -/
def HoldsDeclared (name : String) (declared : List Contender) : Option UnifiedColumn → Prop
  | none => declared = []
  | some c => c.name = name ∧ HoldsMaximal c.held declared

theorem HoldsDeclared.declare {name : String} {declared : List Contender}
    {column : Option UnifiedColumn} (h : HoldsDeclared name declared column) (d : Contender) :
    HoldsDeclared name (declared ++ [d]) (UnifiedColumn.declare name column d) := by
  cases column with
  | none =>
    have hnil : declared = [] := h
    subst hnil
    exact ⟨rfl, HoldsMaximal.single d⟩
  | some c =>
    obtain ⟨hname, hholds⟩ := h
    exact ⟨(c.name_absorb d.type d.origin).trans hname, hholds.absorb d⟩

/-- All declarations of a name in order make the column that holds the maximal ones. -/
theorem holdsDeclared_foldl (name : String) (declared : List Contender) :
    HoldsDeclared name declared (declared.foldl (UnifiedColumn.declare name) none) := by
  induction declared using List.reverseRecOn with
  | nil => exact rfl
  | append_singleton declared d ih =>
    rw [List.foldl_append]
    exact ih.declare d

end ShardMerge
