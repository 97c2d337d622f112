import ShardMerge.Column.Native
import ShardMerge.Proofs.Text.Digits
import ShardMerge.Proofs.Text.Words

/-!
# Definitions of native types

What a definition such as `decimal(10,2) unsigned` is taken for.

* `typeOfWords` is the column type of the words of a name.  `columnType?_eq` says that nothing else
  of a native name matters, and `ofDefinition?_eq` that the words of a definition are those in front
  of the parentheses and those after them.
* `mem_names_of_columnTypeOf` says which names have a column type at all.
* `ofWords_append` adds modifiers of the sign, and `infix_base_ofWords` says that every other word
  is part of the name.
-/

namespace ShardMerge

open Text

namespace NativeType

variable {base arguments modifiers digits : List Char} {n : Nat} {precision scale : Option UInt32}

/-- The column type of the words of a name in lower case. -/
def typeOfWords (words : List (List Char)) (precision scale : Option UInt32) : Option ColumnType :=
  let name := NativeName.ofWords (words.map String.ofList)
  columnTypeOf name.unsigned precision scale name.base

theorem columnType?_eq (native : NativeType) :
    native.columnType? =
      typeOfWords (lowerWords native.name.toList) native.precision native.scale := rfl

/-- A definition is cut at the first opening and at the last closing parenthesis. -/
theorem ofDefinition?_eq (hbase : '(' ∉ base) (hmodifiers : ')' ∉ modifiers) :
    ColumnType.ofDefinition? (String.ofList (base ++ '(' :: (arguments ++ ')' :: modifiers))) =
      typeOfWords (lowerWords base ++ lowerWords modifiers) (sizeArguments arguments).1
        (sizeArguments arguments).2 := by
  have htrim : trim (base ++ '(' :: (arguments ++ ')' :: modifiers)) =
      base.dropWhile isBlank ++ '(' :: (arguments ++ ')' :: dropEndWhile isBlank modifiers) := by
    have hback := dropEndWhile_append_cons (p := isBlank) (c := ')') (by decide)
      (base.dropWhile isBlank ++ '(' :: arguments) modifiers
    rw [trim, dropWhile_append_cons (by decide)]
    simpa using hback
  have hfirst : cutFirst '('
      (base.dropWhile isBlank ++ '(' :: (arguments ++ ')' :: dropEndWhile isBlank modifiers)) =
        some (base.dropWhile isBlank, arguments ++ ')' :: dropEndWhile isBlank modifiers) :=
    cutFirst_eq_some_iff.2 ⟨rfl, fun hmem => hbase ((List.dropWhile_sublist _).mem hmem)⟩
  have hlast : cutLast ')' (arguments ++ ')' :: dropEndWhile isBlank modifiers) =
      some (arguments, dropEndWhile isBlank modifiers) := by
    refine cutLast_append_cons (fun hmem => hmodifiers ?_) arguments
    exact (dropEndWhile_sublist isBlank modifiers).mem hmem
  have hwords : lowerWords (trim (trim (base.dropWhile isBlank) ++
      ' ' :: trim (dropEndWhile isBlank modifiers))) = lowerWords base ++ lowerWords modifiers := by
    rw [lowerWords_trim, lowerWords_append (by decide), lowerWords_trim, lowerWords_trim,
      lowerWords_dropWhile, lowerWords_dropEndWhile]
  unfold ColumnType.ofDefinition? ofDefinition?
  rw [String.toList_ofList, htrim]
  simp only [hfirst, hlast]
  rw [if_neg (by simp)]
  simp [columnType?_eq, hwords]

/-- A number in digits is read as a size if it fits in 32 bits. -/
theorem sizeArguments_digits (h : Decimal.ofDigits? digits = some n) :
    sizeArguments digits = (if n < UInt32.size then some (UInt32.ofNat n) else none, none) := by
  obtain ⟨_, hdigits, _⟩ := Decimal.ofDigits?_eq_some_iff.1 h
  rw [sizeArguments, splitWhen_digits (by decide) hdigits, List.map_singleton, trim_digits hdigits,
    Decimal.readUInt32_digits h]
  by_cases hn : n < UInt32.size
  · simp [hn]
  · simp [hn]

/-! ## Names -/

/-- Every name that has a column type. -/
def names : List String :=
  listed ++ spatialNames ++ ["national char", "national varchar"]

theorem mem_names_of_columnTypeOf {unsigned : Bool} {name : String} {type : ColumnType}
    (h : columnTypeOf unsigned precision scale name = some type) : name ∈ names := by
  unfold columnTypeOf at h
  split at h <;> try decide
  split at h
  · rename_i hspatial
    exact List.mem_append_left _ (List.mem_append_right _ (List.contains_iff_mem.1 hspatial))
  · cases h

/-! ## Modifiers of the sign -/

/-- The words that are no part of a name. -/
def signWords : List String := NativeName.unsignedWords ++ ["signed"]

variable {words : List String}

theorem ofWords_eq (words : List String) :
    NativeName.ofWords words =
      { base := " ".intercalate (words.filter fun w => w ∉ signWords)
        unsigned := words.any NativeName.unsignedWords.contains } := by
  have hnaming (w : String) :
      (!NativeName.unsignedWords.contains w && w != "signed") = decide (w ∉ signWords) := by
    rw [Bool.eq_iff_iff]
    simp [signWords]
  simp only [NativeName.ofWords, hnaming]

/-- Words that are modifiers of the sign can only make a type unsigned. -/
theorem ofWords_append (words : List String) {signs : List String}
    (hsigns : ∀ w ∈ signs, w ∈ signWords) :
    NativeName.ofWords (words ++ signs) =
      { base := (NativeName.ofWords words).base
        unsigned := (NativeName.ofWords words).unsigned ||
          signs.any NativeName.unsignedWords.contains } := by
  have hnone : signs.filter (fun w => w ∉ signWords) = [] :=
    List.filter_eq_nil_iff.2 fun w hw => by simp [hsigns w hw]
  simp only [ofWords_eq, List.filter_append, hnone, List.append_nil, List.any_append]

theorem infix_intercalate {separator w : String} (hw : w ∈ words) :
    w.toList <:+: (separator.intercalate words).toList := by
  induction words with
  | nil => cases hw
  | cons first rest ih =>
    by_cases hrest : rest = []
    · subst hrest
      have hwhole : separator.intercalate [first] = w := by
        rw [String.intercalate_singleton, List.mem_singleton.1 hw]
      exact hwhole ▸ List.infix_rfl
    · rw [String.intercalate_cons_of_ne_nil hrest, String.toList_append, String.toList_append]
      rcases List.mem_cons.1 hw with rfl | hw
      · exact ((List.prefix_append _ _).trans (List.prefix_append _ _)).isInfix
      · exact (ih hw).trans (List.suffix_append _ _).isInfix

/-- A word that is no modifier of the sign is part of the name. -/
theorem infix_base_ofWords {w : String} (hw : w ∈ words) (hsign : w ∉ signWords) :
    w.toList <:+: (NativeName.ofWords words).base.toList := by
  rw [ofWords_eq]
  exact infix_intercalate (List.mem_filter.2 ⟨hw, by simpa using hsign⟩)

end NativeType

end ShardMerge
