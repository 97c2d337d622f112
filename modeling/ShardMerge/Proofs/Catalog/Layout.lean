import ShardMerge.Catalog.Layout
import ShardMerge.Proofs.Files.Path

/-!
# Where versions are kept

A name that is plain stands for one entry of a directory, so the files of a table are below the
warehouse.

* `TableName.place` are the names from a warehouse to the directory of the versions of a table.
  `schemaDirectory_eq` and `versionPath_eq` are the paths to it and to a version, and
  `schemaDirectory_eq_error` says that names which are not plain have none.
* `VersionFile.read?_name` says that a version is read back from the name of its file.
-/

namespace ShardMerge

open Text ShardMerge.Tree

variable {database text : String} {table : TableName} {version : UInt64}

/-! ## Names of files -/

theorem Text.Decimal.readUInt64_toString (n : UInt64) :
    Decimal.readUInt64 (toString n).toList = some n := by
  change (Decimal.readBelow UInt64.size (toString n.toNat).toList).map UInt64.ofNat = _
  rw [Decimal.readBelow_toString n.toNat_lt_size, Option.map_some, UInt64.ofNat_toNat]

namespace VersionFile

/-- A character takes at most four bytes. -/
theorem utf8Len_le (s : List Char) : String.utf8Len s ≤ 4 * s.length := by
  induction s with
  | nil => exact Nat.le_refl 0
  | cons c s ih =>
    have hc := c.utf8Size_le_four
    rw [String.utf8Len_cons, List.length_cons]
    omega

theorem toList_name (version : UInt64) :
    (name version).toList = front.toList ++ ((toString version).toList ++ back.toList) := by
  rw [name, String.toList_append, String.toList_append, List.append_assoc]

/-- A version is read back from the name of its file. -/
theorem read?_name (version : UInt64) : read? (name version) = some version := by
  have hfront : dropFront? front.toList (name version).toList =
      some ((toString version).toList ++ back.toList) := by
    rw [toList_name, dropFront?_append]
  have hback : dropBack? back.toList ((toString version).toList ++ back.toList) =
      some (toString version).toList := dropBack?_eq_some_iff.2 rfl
  simp only [read?, hfront, hback, Option.bind_eq_bind, Option.bind_some,
    Decimal.readUInt64_toString]

theorem name_injective : Function.Injective name := by
  intro version other h
  have hread := read?_name version
  rw [h, read?_name] at hread
  exact (Option.some.inj hread).symm

theorem toList_toString (version : UInt64) :
    (toString version).toList = Nat.toDigits 10 version.toNat := by
  change (toString version.toNat).toList = _
  rw [Nat.toString_eq_ofList_toDigits, String.toList_ofList]

theorem isDigit_of_mem {c : Char} (h : c ∈ (toString version).toList) : c.isDigit = true := by
  rw [toList_toString] at h
  exact Nat.isDigit_of_mem_toDigits (by omega) (by omega) h

theorem isPiece_name (version : UInt64) : IsPiece (name version) where
  ne_empty h := by
    have hlist := congrArg String.toList h
    rw [toList_name] at hlist
    cases hlist
  no_slash h := by
    rw [toList_name, List.mem_append, List.mem_append] at h
    rcases h with h | h | h
    · revert h; decide
    · have := isDigit_of_mem h
      revert this; decide
    · revert h; decide

theorem ne_dot (version : UInt64) : name version ≠ "." ∧ name version ≠ ".." := by
  constructor
  all_goals
    intro h
    have hlist := congrArg String.toList h
    rw [toList_name] at hlist
    injection hlist with hhead
    revert hhead
    decide

/-- The name of a file of a version is one that a directory can hold. -/
theorem isEntryName (version : UInt64) : IsEntryName (name version) where
  ne_dot := (ne_dot version).1
  ne_dotDot := (ne_dot version).2
  short := by
    have hdigits : (toString version).toList.length ≤ 20 := by
      rw [toList_toString, Nat.length_toDigits_le_iff (by omega) (by omega)]
      exact version.toNat_lt_size.trans (by decide)
    have hsize := utf8Len_le (name version).toList
    rw [String.utf8Len_toList, toList_name, List.length_append, List.length_append] at hsize
    have hfront : front.toList.length = 7 := by decide
    have hback : back.toList.length = 5 := by decide
    unfold longestName
    omega

end VersionFile

/-! ## Plain names -/

theorem isPlainName_iff :
    isPlainName text = true ↔ text ≠ "" ∧ text ≠ "." ∧ text ≠ ".." ∧
      ∀ c ∈ text.toList, c ≠ '/' ∧ c ≠ '\\' ∧ c ≠ Char.ofNat 0 := by
  simp [isPlainName, and_assoc]

theorem isPiece_of_isPlainName (h : isPlainName text = true) : IsPiece text := by
  obtain ⟨hne, _, _, hchars⟩ := isPlainName_iff.1 h
  exact ⟨hne, fun hslash => (hchars '/' hslash).1 rfl⟩

/-- The directory of a database. -/
def databaseName (database : String) : String := database ++ ".db"

theorem isPiece_databaseName (h : isPlainName database = true) : IsPiece (databaseName database) := by
  constructor
  · intro hempty
    have hlist := congrArg String.toList hempty
    simp [databaseName] at hlist
  · have hslash := (isPiece_of_isPlainName h).no_slash
    simpa [databaseName] using hslash

theorem databaseName_ne_dot (database : String) :
    databaseName database ≠ "." ∧ databaseName database ≠ ".." := by
  constructor
  all_goals
    intro h
    have hlast := congrArg (fun s : String => s.toList.getLast?) h
    simp [databaseName] at hlast

theorem databaseName_injective : Function.Injective databaseName := by
  intro database other h
  have hlist := congrArg String.toList h
  simp only [databaseName, String.toList_append] at hlist
  exact String.toList_inj.1 (List.append_cancel_right hlist)

/-- A table whose files can be in a warehouse. -/
structure TableName.IsPlain (table : TableName) : Prop where
  database : isPlainName table.database = true
  table : isPlainName table.table = true

instance (table : TableName) : Decidable table.IsPlain :=
  decidable_of_iff (isPlainName table.database = true ∧ isPlainName table.table = true)
    ⟨fun h => ⟨h.1, h.2⟩, fun h => ⟨h.database, h.table⟩⟩

/-- The names from a warehouse to the directory of the versions of a table. -/
def TableName.place (table : TableName) : List String :=
  [databaseName table.database, table.table, "schema"]

/-- Tables have places of their own. -/
theorem TableName.eq_of_names {other : TableName}
    (hdatabase : databaseName table.database = databaseName other.database)
    (htable : table.table = other.table) : table = other := by
  obtain ⟨database, name⟩ := table
  obtain ⟨database', name'⟩ := other
  cases databaseName_injective hdatabase
  cases htable
  rfl

theorem TableName.IsPlain.isPiece (h : table.IsPlain) : ∀ name ∈ table.place, IsPiece name := by
  intro name hname
  simp only [place, List.mem_cons, List.not_mem_nil, or_false] at hname
  rcases hname with rfl | rfl | rfl
  · exact isPiece_databaseName h.database
  · exact isPiece_of_isPlainName h.table
  · exact ⟨by decide, by decide⟩

theorem TableName.IsPlain.isPiece_version (h : table.IsPlain) (version : UInt64) :
    ∀ name ∈ table.place ++ [VersionFile.name version], IsPiece name :=
  List.forall_mem_append.2
    ⟨h.isPiece, List.forall_mem_singleton.2 (VersionFile.isPiece_name version)⟩

theorem TableName.IsPlain.ne_dot (h : table.IsPlain) :
    ∀ name ∈ table.place, name ≠ "." ∧ name ≠ ".." := by
  intro name hname
  simp only [place, List.mem_cons, List.not_mem_nil, or_false] at hname
  rcases hname with rfl | rfl | rfl
  · exact databaseName_ne_dot _
  · obtain ⟨_, hdot, hdotDot, _⟩ := isPlainName_iff.1 h.table
    exact ⟨hdot, hdotDot⟩
  · exact ⟨by decide, by decide⟩

namespace Warehouse

theorem databasePath_eq (warehouse : Warehouse) (h : isPlainName database = true) :
    warehouse.databasePath database = .ok ⟨warehouse.path, [databaseName database]⟩ := by
  simp only [databasePath, checkName, if_pos h]
  rfl

theorem databasePath_eq_error (warehouse : Warehouse) (h : isPlainName database = false) :
    ∃ message, warehouse.databasePath database = .error (.configuration message) := by
  simp only [databasePath, checkName, h, Bool.false_eq_true, if_false]
  exact ⟨_, rfl⟩

theorem schemaDirectory_eq (warehouse : Warehouse) (h : table.IsPlain) :
    warehouse.schemaDirectory table = .ok ⟨warehouse.path, table.place⟩ := by
  simp only [schemaDirectory, checkName, if_pos h.table, databasePath_eq warehouse h.database]
  rfl

/-- Names that are not plain have no place in a warehouse. -/
theorem schemaDirectory_eq_error (warehouse : Warehouse) (h : ¬table.IsPlain) :
    ∃ message, warehouse.schemaDirectory table = .error (.configuration message) := by
  unfold schemaDirectory checkName
  by_cases htable : isPlainName table.table = true
  · obtain ⟨message, hdatabase⟩ := databasePath_eq_error warehouse
      (by simpa using fun hdatabase => h ⟨hdatabase, htable⟩ : isPlainName table.database = false)
    exact ⟨message, by rw [if_pos htable, hdatabase]; rfl⟩
  · exact ⟨_, by rw [if_neg htable]; rfl⟩

theorem versionPath_eq (warehouse : Warehouse) (h : table.IsPlain) (version : UInt64) :
    warehouse.versionPath table version =
      .ok ⟨warehouse.path, table.place ++ [VersionFile.name version]⟩ := by
  simp only [versionPath, schemaDirectory_eq warehouse h]
  rfl

end Warehouse

end ShardMerge
