import Mathlib.Data.List.Nodup
import ShardMerge.Proofs.Catalog.Lookup
import ShardMerge.Proofs.Text.Digits

/-!
# Names that are taken for versions

Which names in the directory of a table are taken for versions, and which versions are listed then.

* `VersionFile.Spells` says which names stand for a version: those with its number between the front
  and the back that all such names have.  A number may have zeros and a plus sign in front, so a
  version has more names than the one that its file gets.  `read?_eq_some_iff` says that these are
  the names that are read.
* `pairwise_versionsOf` and `count_versionsOf` are about the versions of a list of names: they are in
  order, and each is there as often as it is spelled.
* `versions_listing` is what is listed of a directory.  The versions are those with a file of their
  own, each of them once, exactly if no other name spells a version.
-/

namespace ShardMerge

open Text

variable {names : List String} {file : String} {version : UInt64}

/-! ## Numbers -/

namespace Text.Decimal

/-- The text is a number in decimal: digits, with zeros in front or not, and with a plus sign before
them or not. -/
inductive Spells : List Char → Nat → Prop where
  | plain {digits : List Char} {n : Nat} (h : ofDigits? digits = some n) : Spells digits n
  | plus {digits : List Char} {n : Nat} (h : ofDigits? digits = some n) : Spells ('+' :: digits) n

theorem ofDigits?_dropPlus_eq_some_iff {s : List Char} {n : Nat} :
    ofDigits? (dropPlus s) = some n ↔ Spells s n := by
  constructor
  · intro h
    unfold dropPlus at h
    split at h
    · exact .plus h
    · exact .plain h
  · intro h
    cases h with
    | plain h => rwa [dropPlus_digits (ofDigits?_eq_some_iff.1 h).2.1]
    | plus h => exact h

/-- A number is read if it has a place in 64 bits. -/
theorem readUInt64_eq_some_iff {s : List Char} {n : UInt64} :
    readUInt64 s = some n ↔ Spells s n.toNat := by
  rw [← ofDigits?_dropPlus_eq_some_iff, readUInt64, readBelow]
  cases h : ofDigits? (dropPlus s) with
  | none => simp
  | some m =>
    simp only [Option.bind_eq_bind, Option.bind_some, Option.some.injEq]
    split
    · rename_i hm
      rw [Option.map_some, Option.some.injEq, ← UInt64.toNat_inj, UInt64.toNat_ofNat_of_lt' hm]
    · rename_i hm
      have hn := n.toNat_lt_size
      constructor
      · intro hnone
        cases hnone
      · omega

end Text.Decimal

/-! ## Names of a version -/

namespace VersionFile

/-- The name stands for a version. -/
def Spells (file : String) (version : UInt64) : Prop :=
  ∃ number, file.toList = front.toList ++ (number ++ back.toList) ∧
    Decimal.Spells number version.toNat

theorem read?_eq_some_iff : read? file = some version ↔ Spells file version := by
  simp only [read?, Option.bind_eq_bind, Option.bind_eq_some_iff, dropFront?_eq_some_iff,
    dropBack?_eq_some_iff, Decimal.readUInt64_eq_some_iff]
  constructor
  · intro h
    obtain ⟨rest, hfile, number, rfl, hnumber⟩ := h
    exact ⟨number, hfile, hnumber⟩
  · intro h
    obtain ⟨number, hfile, hnumber⟩ := h
    exact ⟨_, hfile, number, rfl, hnumber⟩

instance (file : String) (version : UInt64) : Decidable (Spells file version) :=
  decidable_of_iff _ read?_eq_some_iff

/-- The name of the file of a version stands for it. -/
theorem spells_name (version : UInt64) : Spells (name version) version :=
  read?_eq_some_iff.1 (read?_name version)

/-- A name stands for a version only if it is that of its file. -/
def OnlyOwnNames (names : List String) : Prop :=
  ∀ file ∈ names, ∀ version, Spells file version → file = name version

instance (names : List String) : Decidable (OnlyOwnNames names) :=
  decidable_of_iff
    ((names.all fun file => (read? file).all fun version => file = name version) = true) (by
      simp [OnlyOwnNames, ← read?_eq_some_iff, Option.all_eq_true])

end VersionFile

/-! ## Versions of a list of names -/

namespace Warehouse

open VersionFile

variable {warehouse : Warehouse} {t : Tree} {table : TableName} {directory : Path}

theorem pairwise_versionsOf (names : List String) : (versionsOf names).Pairwise (· ≤ ·) := by
  have htrans (a b c : UInt64) (hab : decide (a ≤ b) = true) (hbc : decide (b ≤ c) = true) :
      decide (a ≤ c) = true := by
    rw [decide_eq_true_eq] at hab hbc ⊢
    exact UInt64.le_trans hab hbc
  have htotal (a b : UInt64) : (decide (a ≤ b) || decide (b ≤ a)) = true := by
    rw [Bool.or_eq_true, decide_eq_true_eq, decide_eq_true_eq]
    exact UInt64.le_total a b
  exact (List.pairwise_mergeSort htrans htotal _).imp fun h => of_decide_eq_true h

theorem versionsOf_eq {versions : List UInt64} (hsorted : versions.Pairwise (· ≤ ·))
    (hperm : (names.filterMap read?).Perm versions) : versionsOf names = versions :=
  ((List.mergeSort_perm _ _).trans hperm).eq_of_pairwise (fun _ _ _ _ => UInt64.le_antisymm)
    (pairwise_versionsOf names) hsorted

/-- A version is found as often as it is spelled. -/
theorem count_versionsOf (names : List String) (version : UInt64) :
    (versionsOf names).count version = names.countP fun file => Spells file version := by
  rw [versionsOf, (List.mergeSort_perm _ _).count_eq, List.count_filterMap]
  refine List.countP_congr fun file _ => ?_
  rw [beq_iff_eq, decide_eq_true_eq, read?_eq_some_iff]

theorem mem_versionsOf_iff : version ∈ versionsOf names ↔ ∃ file ∈ names, Spells file version := by
  rw [← List.count_pos_iff, count_versionsOf, List.countP_pos_iff]
  simp only [decide_eq_true_eq]

/-- Without other names, a version is found as often as the name of its file. -/
theorem count_versionsOf_of_onlyOwnNames (h : OnlyOwnNames names) (version : UInt64) :
    (versionsOf names).count version = names.count (name version) := by
  rw [count_versionsOf, List.count_eq_countP]
  refine List.countP_congr fun file hfile => ?_
  rw [decide_eq_true_eq, beq_iff_eq]
  constructor
  · exact h file hfile version
  · intro hname
    rw [hname]
    exact spells_name version

/-- Where versions do not repeat, each is spelled by one name. -/
theorem eq_of_spells (hnodup : (versionsOf names).Nodup) {other : String} (hfile : file ∈ names)
    (hother : other ∈ names) (h : Spells file version) (h' : Spells other version) :
    file = other := by
  have hcount := List.nodup_iff_count_le_one.1 hnodup version
  rw [count_versionsOf, List.countP_eq_length_filter] at hcount
  have hmem : ∀ file' ∈ names, Spells file' version →
      file' ∈ names.filter fun file => Spells file version := by
    intro file' hfile' h'
    exact List.mem_filter.2 ⟨hfile', decide_eq_true h'⟩
  have hfirst := hmem file hfile h
  have hsecond := hmem other hother h'
  match hfilter : names.filter fun file => Spells file version with
  | [] => rw [hfilter] at hfirst; cases hfirst
  | [found] =>
    rw [hfilter, List.mem_singleton] at hfirst hsecond
    rw [hfirst, hsecond]
  | _ :: _ :: _ =>
    rw [hfilter] at hcount
    simp at hcount

/-- The versions are those with a file of their own, each of them once, exactly if no other name
stands for a version. -/
theorem onlyOwnNames_iff (hdistinct : names.Nodup) :
    OnlyOwnNames names ↔
      (versionsOf names).Pairwise (· < ·) ∧
        ∀ version, version ∈ versionsOf names ↔ name version ∈ names := by
  constructor
  · intro h
    have hcount := count_versionsOf_of_onlyOwnNames h
    have hnodup : (versionsOf names).Nodup := by
      rw [List.nodup_iff_count_le_one]
      intro version
      rw [hcount]
      exact List.nodup_iff_count_le_one.1 hdistinct _
    constructor
    · exact ((pairwise_versionsOf names).and hnodup).imp fun h => UInt64.lt_of_le_of_ne h.1 h.2
    · intro version
      rw [← List.count_pos_iff, hcount, List.count_pos_iff]
  · intro h file hfile version hspells
    have hnodup : (versionsOf names).Nodup := h.1.imp UInt64.ne_of_lt
    have hversion : version ∈ versionsOf names := mem_versionsOf_iff.2 ⟨file, hfile, hspells⟩
    exact eq_of_spells hnodup hfile ((h.2 version).1 hversion) hspells (spells_name version)

/-! ## Versions of a directory -/

/-- The names in a directory; there are none if it is missing. -/
def contentsIn (t : Tree) (directory : Path) : Except Fault (List String) :=
  match t.listNames directory.text with
  | .error .notFound => .ok []
  | outcome => outcome

theorem versionsIn_of_contentsIn (hdirectory : warehouse.schemaDirectory table = .ok directory)
    (hnames : contentsIn t directory = .ok names) :
    warehouse.versionsIn t table = .ok (versionsOf names) := by
  rw [versionsIn, hdirectory, ok_bind]
  unfold contentsIn at hnames
  split at hnames
  · rename_i hmissing
    cases hnames
    simp [hmissing, versionsOf]
  · rw [hnames]

/-- What is listed of the directory of a table, whatever is in it.

* The versions are in order, and each is there as often as a name spells it.
* They are those with a file of their own, each of them once, exactly if no other name spells a
  version. -/
theorem versions_listing (w : World) (hdirectory : warehouse.schemaDirectory table = .ok directory)
    (hnames : contentsIn w.tree directory = .ok names) (hdistinct : names.Nodup) :
    ∃ versions, w.exec (warehouse.versions table : World.Action (List UInt64)) = (.ok versions, w) ∧
      versions.Pairwise (· ≤ ·) ∧
      (∀ version, versions.count version = names.countP fun file => Spells file version) ∧
      (OnlyOwnNames names ↔
        versions.Pairwise (· < ·) ∧ ∀ version, version ∈ versions ↔ name version ∈ names) := by
  refine ⟨versionsOf names, ?_, pairwise_versionsOf names, count_versionsOf names,
    onlyOwnNames_iff hdistinct⟩
  rw [exec_versions, versionsIn_of_contentsIn hdirectory hnames]

/-- A warehouse in which the directory of a table has some files. -/
def ordersHolding (files : List (String × String)) : World where
  tree := {
    nodes := [(["w"], .directory), (["w", "dw.db"], .directory),
        (["w", "dw.db", "orders"], .directory), (["w", "dw.db", "orders", "schema"], .directory)] ++
      files.map fun file => (["w", "dw.db", "orders", "schema", file.1], .file file.2) }
  clock := default

theorem versions_listing_orders :
    let w := ordersHolding [("schema-10.json", ""), ("notes", ""), ("schema-9.json", "")]
    let directory : Path := ⟨"w", ["dw.db", "orders", "schema"]⟩
    let names := ["schema-10.json", "notes", "schema-9.json"]
    (Warehouse.mk "w").schemaDirectory ⟨"dw", "orders"⟩ = .ok directory ∧
      contentsIn w.tree directory = .ok names ∧ names.Nodup ∧ OnlyOwnNames names ∧
      ∃ versions, w.exec ((Warehouse.mk "w").versions ⟨"dw", "orders"⟩ :
          World.Action (List UInt64)) = (.ok versions, w) ∧
        versions.Pairwise (· < ·) ∧ 9 ∈ versions ∧ 10 ∈ versions ∧ 11 ∉ versions := by
  intro w directory names
  have hdirectory : (Warehouse.mk "w").schemaDirectory ⟨"dw", "orders"⟩ = .ok directory := rfl
  have hnames : contentsIn w.tree directory = .ok names := by decide +kernel
  have hdistinct : names.Nodup := by decide
  have honly : OnlyOwnNames names := by decide +kernel
  obtain ⟨versions, hexec, _, _, hown⟩ := versions_listing w hdirectory hnames hdistinct
  obtain ⟨hsorted, hmem⟩ := hown.1 honly
  refine ⟨hdirectory, hnames, hdistinct, honly, versions, hexec, hsorted, ?_⟩
  rw [hmem, hmem, hmem]
  decide +kernel

/-- A number with a plus sign is taken for a version that has no file, and cannot be read. -/
theorem versions_listing_stray :
    let w := ordersHolding [("schema-0.json", ""), ("schema-+1.json", "")]
    let directory : Path := ⟨"w", ["dw.db", "orders", "schema"]⟩
    let names := ["schema-0.json", "schema-+1.json"]
    contentsIn w.tree directory = .ok names ∧
      w.exec ((Warehouse.mk "w").versions ⟨"dw", "orders"⟩ : World.Action (List UInt64)) =
        (.ok [0, 1], w) ∧
      name 1 ∉ names ∧
      (w.exec ((Warehouse.mk "w").readVersion ⟨"dw", "orders"⟩ 1 :
        World.Action TargetSchema)).1 =
          .error (.io "Failed to read w/dw.db/orders/schema/schema-1.json") := by
  intro w directory names
  have hdirectory : (Warehouse.mk "w").schemaDirectory ⟨"dw", "orders"⟩ = .ok directory := rfl
  have hnames : contentsIn w.tree directory = .ok names := by decide +kernel
  have hversions : versionsOf names = [0, 1] :=
    versionsOf_eq (by decide) (List.Perm.of_eq (by decide +kernel))
  refine ⟨hnames, ?_, by decide +kernel, by decide +kernel⟩
  rw [exec_versions, versionsIn_of_contentsIn hdirectory hnames, hversions]

end Warehouse

end ShardMerge
