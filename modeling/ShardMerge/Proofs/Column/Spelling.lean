import ShardMerge.Proofs.Column.Definition
import ShardMerge.Proofs.Text.Lowercase

/-!
# Spellings of native types

A native type can be spelled in upper or lower case, with any blanks between its words, and with the
modifiers of its sign anywhere among them.

* `spelledWords` are the words of a name with ASCII in lower case, `nameWords` those of them that are
  no modifiers of the sign, and `SaysUnsigned` says that one of them takes the sign away.
* `ofList_lowercase_mem_iff` is why ASCII is enough here: no other letter becomes one of those that a
  modifier is spelled with, apart from one that leaves an accent behind.
* `filter_lowerWords` and `any_lowerWords_iff` find the name and the sign in the words as they are
  read, and `columnType?_eq_of_spelling` says that nothing else matters.
-/

namespace ShardMerge

open Text

namespace NativeType

/-- The words of a name with ASCII in lower case. -/
def spelledWords (name : String) : List (List Char) :=
  (words name.toList).map fun w => w.map Char.toLower

/-- The words of a name that are no modifiers of the sign. -/
def nameWords (name : String) : List (List Char) :=
  (spelledWords name).filter fun w => String.ofList w ∉ signWords

/-- A word of the name takes the sign away. -/
def SaysUnsigned (name : String) : Prop :=
  ∃ w ∈ spelledWords name, String.ofList w ∈ NativeName.unsignedWords

theorem map_toLower_of_mem_spelledWords {name : String} {w : List Char}
    (hw : w ∈ spelledWords name) : w.map Char.toLower = w := by
  obtain ⟨spelled, _, rfl⟩ := List.mem_map.1 hw
  exact map_toLower_toLower spelled

/-- No modifier of the sign has a letter that a character outside of ASCII can become. -/
theorem ofList_lowercase_mem_iff {modifiers : List String} (hsub : modifiers ⊆ signWords)
    {w : List Char} (hw : w.map Char.toLower = w) :
    String.ofList (lowercase w) ∈ modifiers ↔ String.ofList w ∈ modifiers := by
  have hletters : ∀ modifier ∈ signWords, ∀ d ∈ modifier.toList, d.toNat < 128 ∧ d ≠ 'k' := by
    have hall : (signWords.all fun modifier =>
        modifier.toList.all fun d => d.toNat < 128 && d != 'k') = true := by decide
    simpa using hall
  constructor
  · intro h
    have hmodifier := hletters _ (hsub h)
    rw [String.toList_ofList] at hmodifier
    have hspelled : w.map Char.toLower = lowercase w := (lowercase_eq_iff hmodifier).1 rfl
    rwa [← hspelled, hw] at h
  · intro h
    have hmodifier := hletters _ (hsub h)
    rw [String.toList_ofList] at hmodifier
    have hlower : lowercase w = w := (lowercase_eq_iff hmodifier).2 hw
    rwa [hlower]

/-- The words as they are read are those that are spelled. -/
theorem lowerWords_eq_spelledWords (name : String) :
    lowerWords name.toList = (spelledWords name).map lowercase := by
  rw [lowerWords_eq_map, spelledWords, List.map_map]
  exact List.map_congr_left fun w _ => (lowercase_map_toLower w).symm

theorem filter_lowerWords (name : String) :
    ((lowerWords name.toList).map String.ofList).filter (fun w => w ∉ signWords) =
      (nameWords name).map fun w => String.ofList (lowercase w) := by
  have hname : ∀ w ∈ spelledWords name,
      decide (String.ofList (lowercase w) ∉ signWords) = decide (String.ofList w ∉ signWords) := by
    intro w hw
    have hiff := ofList_lowercase_mem_iff (List.Subset.refl _) (map_toLower_of_mem_spelledWords hw)
    exact decide_eq_decide.2 (not_congr hiff)
  rw [lowerWords_eq_spelledWords, List.map_map, List.filter_map, nameWords,
    ← List.filter_congr hname]
  rfl

theorem any_lowerWords_iff (name : String) :
    ((lowerWords name.toList).map String.ofList).any NativeName.unsignedWords.contains = true ↔
      SaysUnsigned name := by
  have hsub : NativeName.unsignedWords ⊆ signWords := List.subset_append_left _ _
  have hsign : ∀ w ∈ spelledWords name,
      (String.ofList (lowercase w) ∈ NativeName.unsignedWords ↔
        String.ofList w ∈ NativeName.unsignedWords) :=
    fun w hw => ofList_lowercase_mem_iff hsub (map_toLower_of_mem_spelledWords hw)
  rw [lowerWords_eq_spelledWords, List.map_map, List.any_map, List.any_eq_true]
  simp only [Function.comp_apply, List.contains_iff_mem]
  constructor
  · rintro ⟨w, hw, hmem⟩
    exact ⟨w, hw, (hsign w hw).1 hmem⟩
  · rintro ⟨w, hw, hmem⟩
    exact ⟨w, hw, (hsign w hw).2 hmem⟩

/-- Names with the same words apart from modifiers of the sign, which both or neither are unsigned,
have the same column type, or neither has one. -/
theorem columnType?_eq_of_spelling {a b : String} (hnames : nameWords a = nameWords b)
    (hsign : SaysUnsigned a ↔ SaysUnsigned b) (precision scale : Option UInt32) :
    columnType? { name := a, precision, scale } = columnType? { name := b, precision, scale } := by
  have hbase := congrArg (List.map fun w => String.ofList (lowercase w)) hnames
  rw [← filter_lowerWords, ← filter_lowerWords] at hbase
  have hunsigned : ((lowerWords a.toList).map String.ofList).any NativeName.unsignedWords.contains =
      ((lowerWords b.toList).map String.ofList).any NativeName.unsignedWords.contains := by
    rw [Bool.eq_iff_iff, any_lowerWords_iff, any_lowerWords_iff, hsign]
  simp only [columnType?_eq, typeOfWords, ofWords_eq, hbase, hunsigned]

theorem columnType?_eq_of_spelling_bigint :
    nameWords "BIGINT Unsigned" = nameWords "zerofill\tsigned  bigint\u00a0ZEROFILL" ∧
      (SaysUnsigned "BIGINT Unsigned" ↔ SaysUnsigned "zerofill\tsigned  bigint\u00a0ZEROFILL") ∧
      columnType? { name := "BIGINT Unsigned" } =
        columnType? { name := "zerofill\tsigned  bigint\u00a0ZEROFILL" } := by
  have hnames : nameWords "BIGINT Unsigned" =
      nameWords "zerofill\tsigned  bigint\u00a0ZEROFILL" := by decide +kernel
  have hsign : SaysUnsigned "BIGINT Unsigned" ↔
      SaysUnsigned "zerofill\tsigned  bigint\u00a0ZEROFILL" := by
    refine iff_of_true ⟨"unsigned".toList, ?_, ?_⟩ ⟨"zerofill".toList, ?_, ?_⟩ <;> decide +kernel
  exact ⟨hnames, hsign, columnType?_eq_of_spelling hnames hsign none none⟩

end NativeType

end ShardMerge
