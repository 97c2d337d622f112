import ShardMerge.Proofs.Column.Definition

/-!
# Declared sizes

Whether a column type is as large as the definition that it is read from.  It is, unless the size
does not fit in 32 bits: such a size is dropped, and a type that needs one then gets that of a
definition without a size.

* `ColumnType.KeepsSize` says what it means to be as large as declared.
* `NativeType.sized` are the names of the types with a size, and `NativeType.unlimited` those among
  them that need none.
* `keepsSize_columnTypeOf_iff` says what becomes of a size: `keepsSize_of_lt` if it fits,
  `keepsSize_iff_of_le` if not.
* `ColumnType.keepsSize_declared_iff` puts them together for a whole definition.
-/

namespace ShardMerge

open Text

/-- A type is as large as its definition declares it: `n` characters, bytes, bits or digits. -/
def ColumnType.KeepsSize (name : String) (n : Nat) : ColumnType → Prop
  | .string (some length) => n ≤ length.toNat
  | .string none => True
  | .binary (some length) => if name = "bit" then n ≤ 8 * length.toNat else n ≤ length.toNat
  | .binary none => True
  | .boolean => n = 1
  | .decimal precision _ => n ≤ precision.toNat
  | _ => False

namespace NativeType

variable {digits : List Char} {n : Nat}

/-- The names of types that are as large as their first argument. -/
def sized : List String :=
  ["char", "varchar", "nchar", "nvarchar", "binary", "varbinary", "bit", "decimal", "numeric"]

/-- The names among them that have no limit unless a size is declared. -/
def unlimited : List String := ["varchar", "nvarchar", "varbinary"]

/-- Several bits are as many bytes as hold them. -/
theorem keepsSize_bitType (hn : n < UInt32.size) :
    (bitType (some (UInt32.ofNat n))).KeepsSize "bit" n := by
  have hto : (UInt32.ofNat n).toNat = n := UInt32.toNat_ofNat_of_lt' hn
  have hbytes : (UInt32.ofNat ((n + 7) / 8)).toNat = (n + 7) / 8 :=
    UInt32.toNat_ofNat_of_lt' (by omega)
  by_cases hone : n = 1
  · subst hone
    exact rfl
  · have hbits : UInt32.ofNat n ≠ 1 := fun h => hone (hto.symm.trans (congrArg UInt32.toNat h))
    rw [bitType, if_neg hbits, hto]
    change n ≤ 8 * (UInt32.ofNat ((n + 7) / 8)).toNat
    omega

/-- A decimal keeps its precision or becomes text. -/
theorem keepsSize_decimalType (name : String) (hn : n < UInt32.size) :
    (decimalType (some (UInt32.ofNat n)) none).KeepsSize name n := by
  have hto : (UInt32.ofNat n).toNat = n := UInt32.toNat_ofNat_of_lt' hn
  unfold decimalType
  simp only [Option.getD_some]
  split
  · rename_i hwide
    have hle : n ≤ 38 := hto ▸ UInt32.le_iff_toNat_le.1 hwide.1
    have hsmall : n % 2 ^ 8 = n := Nat.mod_eq_of_lt (by omega)
    exact Nat.le_of_eq (by rw [UInt32.toNat_toUInt8, hto, hsmall])
  · exact trivial

/-- A size that fits in 32 bits is kept. -/
theorem keepsSize_of_lt (unsigned : Bool) {name : String} (hname : name ∈ sized)
    (hn : n < UInt32.size) :
    ∃ type, columnTypeOf unsigned (some (UInt32.ofNat n)) none name = some type ∧
      type.KeepsSize name n := by
  have hle : n ≤ (UInt32.ofNat n).toNat := Nat.le_of_eq (UInt32.toNat_ofNat_of_lt' hn).symm
  simp only [sized, List.mem_cons, List.not_mem_nil, or_false] at hname
  rcases hname with rfl | rfl | rfl | rfl | rfl | rfl | rfl | rfl | rfl
  · exact ⟨_, rfl, hle⟩
  · exact ⟨_, rfl, hle⟩
  · exact ⟨_, rfl, hle⟩
  · exact ⟨_, rfl, hle⟩
  · exact ⟨_, rfl, hle⟩
  · exact ⟨_, rfl, hle⟩
  · exact ⟨_, rfl, keepsSize_bitType hn⟩
  · exact ⟨_, rfl, keepsSize_decimalType "decimal" hn⟩
  · exact ⟨_, rfl, keepsSize_decimalType "numeric" hn⟩

/-- Without a size, only a type that needs none holds what does not fit in 32 bits. -/
theorem keepsSize_iff_of_le (unsigned : Bool) {name : String} (hname : name ∈ sized)
    (hn : UInt32.size ≤ n) :
    ∃ type, columnTypeOf unsigned none none name = some type ∧
      (type.KeepsSize name n ↔ name ∈ unlimited) := by
  have hsize : UInt32.size = 4294967296 := rfl
  have hone : ¬ n ≤ 1 := by omega
  have hten : ¬ n ≤ 10 := by omega
  simp only [sized, List.mem_cons, List.not_mem_nil, or_false] at hname
  rcases hname with rfl | rfl | rfl | rfl | rfl | rfl | rfl | rfl | rfl
  · exact ⟨_, rfl, iff_of_false hone (by decide)⟩
  · exact ⟨_, rfl, iff_of_true trivial (by decide)⟩
  · exact ⟨_, rfl, iff_of_false hone (by decide)⟩
  · exact ⟨_, rfl, iff_of_true trivial (by decide)⟩
  · exact ⟨_, rfl, iff_of_false hone (by decide)⟩
  · exact ⟨_, rfl, iff_of_true trivial (by decide)⟩
  · exact ⟨_, rfl, iff_of_false (fun h : n = 1 => hone (Nat.le_of_eq h)) (by decide)⟩
  · exact ⟨_, rfl, iff_of_false hten (by decide)⟩
  · exact ⟨_, rfl, iff_of_false hten (by decide)⟩

/-- What a size leads to. -/
theorem keepsSize_columnTypeOf_iff (unsigned : Bool) {name : String} (hname : name ∈ sized)
    (n : Nat) :
    ∃ type, columnTypeOf unsigned
      (if n < UInt32.size then some (UInt32.ofNat n) else none) none name = some type ∧
        (type.KeepsSize name n ↔ n < UInt32.size ∨ name ∈ unlimited) := by
  by_cases hn : n < UInt32.size
  · obtain ⟨type, htype, hkeeps⟩ := keepsSize_of_lt unsigned hname hn
    exact ⟨type, by rw [if_pos hn, htype], iff_of_true hkeeps (.inl hn)⟩
  · obtain ⟨type, htype, hkeeps⟩ := keepsSize_iff_of_le unsigned hname (Nat.not_lt.1 hn)
    exact ⟨type, by rw [if_neg hn, htype], by simp [hkeeps, hn]⟩

/-! ## Definitions -/

/-- No name of a type goes on after one that has a size. -/
theorem not_mem_names_of_sized {name : String} (hname : name ∈ sized) (rest : String) :
    name ++ " " ++ rest ∉ names := by
  have hnone : ∀ name ∈ sized, ∀ longer ∈ names, ¬ (name ++ " ").toList <+: longer.toList := by
    decide +kernel
  refine fun hmem => hnone name hname _ hmem ?_
  rw [@String.toList_append (name ++ " ") rest]
  exact List.prefix_append _ _

/-- A word that is no modifier of the sign makes another name of a type that has a size. -/
theorem base_ofWords_of_not_sign {name w : String} {words : List String} (hname : name ∈ sized)
    (hw : w ∈ words) (hsign : w ∉ signWords) :
    ∃ rest, (NativeName.ofWords (name :: words)).base = name ++ " " ++ rest := by
  have hnot : ∀ name ∈ sized, name ∉ signWords := by decide
  have hother : words.filter (fun w => w ∉ signWords) ≠ [] :=
    List.ne_nil_of_mem (List.mem_filter.2 ⟨hw, by simpa using hsign⟩)
  refine ⟨" ".intercalate (words.filter fun w => w ∉ signWords), ?_⟩
  rw [ofWords_eq, List.filter_cons, if_pos (by simpa using hnot name hname)]
  exact String.intercalate_cons_of_ne_nil hother

variable {base modifiers : List Char} {name : String}

theorem not_mem_of_lowercase (hname : name ∈ sized) (hbase : lowercase base = name.toList) :
    '(' ∉ base := by
  have hnot : ∀ name ∈ sized, '(' ∉ name.toList := by decide
  intro hmem
  obtain ⟨before, after, rfl⟩ := List.append_of_mem hmem
  rw [separatesCase_paren.1.lowercase_append] at hbase
  exact hnot name hname (hbase ▸ by simp)

/-- The words of such a definition are its name and its modifiers. -/
theorem ofDefinition?_sized (hname : name ∈ sized) (hbase : lowercase base = name.toList)
    (hdigits : Decimal.ofDigits? digits = some n) (hmodifiers : ')' ∉ modifiers) :
    ColumnType.ofDefinition? (String.ofList (base ++ '(' :: (digits ++ ')' :: modifiers))) =
      typeOfWords (name.toList :: lowerWords modifiers)
        (if n < UInt32.size then some (UInt32.ofNat n) else none) none := by
  have hwords : ∀ name ∈ sized, words name.toList = [name.toList] := by decide
  rw [ofDefinition?_eq (not_mem_of_lowercase hname hbase) hmodifiers, sizeArguments_digits hdigits,
    lowerWords, hbase, hwords name hname]
  rfl

end NativeType

open NativeType

namespace ColumnType

variable {base digits modifiers : List Char} {name : String} {n : Nat}

/-- A definition of a type with a size is understood exactly if only modifiers of the sign follow,
and its type is as large as declared exactly if the size fits in 32 bits or may be missing. -/
theorem keepsSize_declared_iff (hname : name ∈ sized) (hbase : lowercase base = name.toList)
    (hdigits : Decimal.ofDigits? digits = some n) (hmodifiers : ')' ∉ modifiers) :
    ((ofDefinition? (String.ofList (base ++ '(' :: (digits ++ ')' :: modifiers)))).isSome = true ↔
      ∀ word ∈ lowerWords modifiers, String.ofList word ∈ signWords) ∧
    ∀ type,
      ofDefinition? (String.ofList (base ++ '(' :: (digits ++ ')' :: modifiers))) = some type →
      (type.KeepsSize name n ↔ n < UInt32.size ∨ name ∈ unlimited) := by
  rw [ofDefinition?_sized hname hbase hdigits hmodifiers, typeOfWords, List.map_cons,
    String.ofList_toList]
  by_cases hsigns : ∀ word ∈ lowerWords modifiers, String.ofList word ∈ signWords
  · have hself : ∀ name ∈ sized, (NativeName.ofWords [name]).base = name := by decide
    have hwords : ∀ w ∈ (lowerWords modifiers).map String.ofList, w ∈ signWords := by
      simpa using hsigns
    have happend := ofWords_append [name] hwords
    rw [List.singleton_append, hself name hname] at happend
    obtain ⟨type, htype, hkeeps⟩ := keepsSize_columnTypeOf_iff _ hname n
    rw [happend, htype]
    refine ⟨iff_of_true rfl hsigns, fun type' h => ?_⟩
    cases h
    exact hkeeps
  · -- A word that is no modifier makes a longer name, and no longer name has a type.
    obtain ⟨word, hword, hsign⟩ :
        ∃ word ∈ lowerWords modifiers, String.ofList word ∉ signWords := by
      simpa using hsigns
    obtain ⟨rest, hrest⟩ := base_ofWords_of_not_sign hname (List.mem_map_of_mem hword) hsign
    have hnone (unsigned : Bool) (precision : Option UInt32) :
        columnTypeOf unsigned precision none (name ++ " " ++ rest) = none :=
      Option.eq_none_iff_forall_ne_some.2 fun type h =>
        not_mem_names_of_sized hname rest (mem_names_of_columnTypeOf h)
    rw [hrest, hnone]
    exact ⟨iff_of_false (by simp) hsigns, fun type h => nomatch h⟩

/-- A decimal of more than 32 bits of digits gets the precision of one that declares none. -/
theorem keepsSize_declared_iff_decimal :
    ∃ type, ofDefinition? (String.ofList ("Decimal".toList ++ '(' ::
      ("4294967296".toList ++ ')' :: " unsigned".toList))) = some type ∧
        ¬ type.KeepsSize "decimal" 4294967296 := by
  have hbase : lowercase "Decimal".toList = "decimal".toList := by decide +kernel
  have hdigits : Decimal.ofDigits? "4294967296".toList = some 4294967296 := by decide +kernel
  have hmodifiers : ')' ∉ " unsigned".toList := by decide
  obtain ⟨hunderstood, hlarge⟩ := keepsSize_declared_iff (by decide) hbase hdigits hmodifiers
  obtain ⟨type, htype⟩ := Option.isSome_iff_exists.1 (hunderstood.2 (by decide +kernel))
  exact ⟨type, htype, fun hkeeps => absurd ((hlarge type htype).1 hkeeps) (by decide)⟩

/-- Not every size is kept: `char(4294967296)` is a single character. -/
theorem declared_size_dropped :
    ¬ ∀ (name : String) (base digits modifiers : List Char) (n : Nat) (type : ColumnType),
      name ∈ sized → lowercase base = name.toList → Decimal.ofDigits? digits = some n →
      '(' ∉ modifiers → ')' ∉ modifiers →
      ofDefinition? (String.ofList (base ++ '(' :: (digits ++ ')' :: modifiers))) = some type →
      type.KeepsSize name n := by
  intro h
  have hone : 4294967296 ≤ (1 : UInt32).toNat :=
    h "char" "char".toList "4294967296".toList [] 4294967296 (.string (some 1)) (by decide)
      (by decide +kernel) (by decide +kernel) (by decide) (by decide) (by decide +kernel)
  exact absurd hone (by decide)

end ColumnType

end ShardMerge
