import ShardMerge.Proofs.Column.Definition
import ShardMerge.Source.Raw

/-!
# Types in metadata and in definitions

A column that a server's own tables describe has the type that its full type has as a definition.
The two are read in different ways: the metadata give the name and the sizes apart, and the sign by
a look for `unsigned` anywhere in the full type; a definition is cut at its parentheses.

* `sizedType` and `listedType` are the full types that a server writes, with one of `signSuffixes`.
* `typeOfWords_of_isInfix` says why it does no harm to find `unsigned` within a name: no longer word
  that has it within is a word of a name that has a column type.
* `sizeArguments_sizesText` reads the sizes back, and `not_infix_sizesText` says that they do not
  look like a sign.
* `columnType?_ofMetadata_words` is the type of a column whose full type has such sizes, and
  `typeOfWords_listed` the type of one with values.
* `RawColumn.ofMetadata_agrees` is the agreement.
-/

namespace ShardMerge

open Text NativeType

/-- What may follow the parentheses of a full type. -/
def signSuffixes : List String := ["", " ", " unsigned", " unsigned zerofill"]

/-- The sizes of a full type. -/
def sizesText (precision : UInt32) : Option UInt32 → String
  | none => toString precision.toNat
  | some scale => toString precision.toNat ++ "," ++ toString scale.toNat

/-- A full type with sizes, such as `decimal(10,2) unsigned`. -/
def sizedType (dataType : String) (precision : UInt32) (scale : Option UInt32) (suffix : String) :
    String :=
  dataType ++ "(" ++ sizesText precision scale ++ ")" ++ suffix

/-- A full type with values, such as `enum('small','large')`. -/
def listedType (dataType : String) (values : List String) (suffix : String) : String :=
  dataType ++ "(" ++ ",".intercalate (values.map fun value => "'" ++ value ++ "'") ++ ")" ++ suffix

/-- The word that tells that a type has no sign. -/
def unsignedWord : List Char := "unsigned".toList

variable {base : List Char} {signs words : List (List Char)} {precision scale : Option UInt32}

/-! ## The look for a sign -/

theorem eq_of_isInfix_unsignedWord {w : String} (hw : w ∈ signWords)
    (h : unsignedWord <:+: w.toList) : w = "unsigned" := by
  have honly : ∀ w ∈ signWords, holds unsignedWord w.toList = true → w = "unsigned" := by
    decide +kernel
  exact honly w hw (holds_iff_isInfix.2 h)

theorem not_infix_of_mem_names {name : String} (hname : name ∈ names) :
    ¬ unsignedWord <:+: name.toList := by
  have hnone : ∀ name ∈ names, holds unsignedWord name.toList = false := by decide +kernel
  rw [← holds_iff_isInfix, hnone name hname]
  exact Bool.false_ne_true

/-- It does not matter how a type is said to be unsigned. -/
theorem typeOfWords_append_signs (hsigns : ∀ w ∈ signs, String.ofList w ∈ signWords)
    (hunsigned : ∃ w ∈ signs, NativeName.unsignedWords.contains (String.ofList w) = true) :
    typeOfWords (words ++ signs) precision scale =
      columnTypeOf true precision scale (NativeName.ofWords (words.map String.ofList)).base := by
  have hmapped : ∀ w ∈ signs.map String.ofList, w ∈ signWords := by simpa using hsigns
  have hany : (signs.map String.ofList).any NativeName.unsignedWords.contains = true := by
    obtain ⟨w, hw, hunsigned⟩ := hunsigned
    exact List.any_eq_true.2 ⟨_, List.mem_map_of_mem hw, hunsigned⟩
  rw [typeOfWords, List.map_append, ofWords_append _ hmapped, hany, Bool.or_true]

/-- A name that has `unsigned` anywhere in it is unsigned already or has no column type. -/
theorem typeOfWords_of_isInfix (h : unsignedWord <:+: lowercase base) :
    typeOfWords (lowerWords base) precision scale = columnTypeOf true precision scale
      (NativeName.ofWords ((lowerWords base).map String.ofList)).base := by
  have hblank : ∀ c ∈ unsignedWord, isBlank c = false := by
    have hany : unsignedWord.any isBlank = false := by decide
    simpa [List.any_eq_false] using hany
  obtain ⟨word, hword, hin⟩ := exists_word_of_isInfix (by decide) hblank h
  have hmem : String.ofList word ∈ (lowerWords base).map String.ofList := List.mem_map_of_mem hword
  by_cases hsign : String.ofList word ∈ signWords
  · have hunsigned : ((lowerWords base).map String.ofList).any
        NativeName.unsignedWords.contains = true := by
      refine List.any_eq_true.2 ⟨_, hmem, ?_⟩
      rw [eq_of_isInfix_unsignedWord hsign (by simpa using hin)]
      decide
    simp only [typeOfWords, ofWords_eq, hunsigned]
  · -- A word with more than `unsigned` in it stays in the name, which is no name of a type then.
    have hnone (unsigned : Bool) : columnTypeOf unsigned precision scale
        (NativeName.ofWords ((lowerWords base).map String.ofList)).base = none := by
      refine Option.eq_none_iff_forall_ne_some.2 fun type htype => ?_
      have hbase := infix_base_ofWords hmem hsign
      rw [String.toList_ofList] at hbase
      exact not_infix_of_mem_names (mem_names_of_columnTypeOf htype) (hin.trans hbase)
    rw [typeOfWords, hnone, hnone]

/-! ## Sizes -/

theorem isDigit_toString (n : UInt32) : ∀ c ∈ (toString n.toNat).toList, c.isDigit = true :=
  (Decimal.ofDigits?_eq_some_iff.1 (Decimal.ofDigits?_toString _)).2.1

theorem toList_sizesText_some (precision scale : UInt32) :
    (sizesText precision (some scale)).toList =
      (toString precision.toNat).toList ++ ',' :: (toString scale.toNat).toList := by
  simp [sizesText]

theorem sizeArguments_sizesText (precision : UInt32) (scale : Option UInt32) :
    sizeArguments (sizesText precision scale).toList = (some precision, scale) := by
  cases scale with
  | none =>
    rw [sizesText, sizeArguments_digits (Decimal.ofDigits?_toString _),
      if_pos precision.toNat_lt_size, UInt32.ofNat_toNat]
  | some scale =>
    have hread (n : UInt32) : Decimal.readUInt32 (toString n.toNat).toList = some n := by
      rw [Decimal.readUInt32_digits (Decimal.ofDigits?_toString _), if_pos n.toNat_lt_size,
        UInt32.ofNat_toNat]
    have hpiece (n : UInt32) :
        splitWhen (· = ',') (toString n.toNat).toList = [(toString n.toNat).toList] :=
      splitWhen_digits (by decide) (isDigit_toString n)
    rw [sizeArguments, toList_sizesText_some, splitWhen_append (by decide), hpiece, hpiece]
    simp only [List.singleton_append, List.map_cons, List.map_nil,
      trim_digits (isDigit_toString _), hread]

/-- No letter stands in the sizes. -/
theorem not_infix_sizesText (precision : UInt32) (scale : Option UInt32) :
    ¬ unsignedWord <:+: lowercase (sizesText precision scale).toList := by
  have hdigit (n : UInt32) {c : Char} (hc : c ∈ (toString n.toNat).toList) : c.toNat < 58 :=
    Nat.lt_succ_of_le (toNat_of_isDigit (isDigit_toString n c hc)).2
  have hchars : ∀ c ∈ (sizesText precision scale).toList, c.toNat < 58 := by
    intro c hc
    cases scale with
    | none => exact hdigit _ hc
    | some scale =>
      rw [toList_sizesText_some, List.mem_append, List.mem_cons] at hc
      rcases hc with hc | rfl | hc
      · exact hdigit _ hc
      · decide
      · exact hdigit _ hc
  have hlower : ∀ n < 58, Char.toLower (Char.ofNat n) ≠ 'u' := by decide
  rw [lowercase_ascii fun c hc => Nat.lt_trans (hchars c hc) (by decide)]
  intro h
  obtain ⟨c, hc, hu⟩ := List.mem_map.1 (h.mem (a := 'u') (by decide))
  exact hlower c.toNat (hchars c hc) (by rw [Char.ofNat_toNat, hu])

/-! ## Columns -/

theorem size?_toNat (n : UInt32) : RawColumn.size? n.toNat = some n := by
  rw [RawColumn.size?, if_pos ⟨by omega, by simpa using n.toNat_lt_size⟩]
  simp

/-- The look for a sign adds a word to the name. -/
theorem columnType?_ofMetadata (name dataType fullType : String) (precision scale : Option Int) :
    (RawColumn.ofMetadata name dataType fullType precision scale).type.columnType? =
      typeOfWords (lowerWords dataType.toList ++
        if holds unsignedWord (lowercase fullType.toList) = true then [unsignedWord] else [])
        (precision.bind RawColumn.size?) (scale.bind RawColumn.size?) := by
  have hname : lowerWords (dataType ++ " unsigned").toList =
      lowerWords dataType.toList ++ [unsignedWord] := by
    rw [String.toList_append]
    exact lowerWords_append (c := ' ') (by decide) dataType.toList unsignedWord
  rw [columnType?_eq]
  by_cases hheld : holds unsignedWord (lowercase fullType.toList) = true
  · have hmodified : (RawColumn.ofMetadata name dataType fullType precision scale).type.name =
        dataType ++ " unsigned" := if_pos hheld
    rw [hmodified, hname, if_pos hheld]
    rfl
  · have hplain : (RawColumn.ofMetadata name dataType fullType precision scale).type.name =
        dataType := if_neg hheld
    rw [hplain, if_neg hheld, List.append_nil]
    rfl

/-- The last two suffixes tell that a type has no sign. -/
theorem lowerWords_suffix {suffix : String} (h : suffix ∈ signSuffixes) :
    ')' ∉ suffix.toList ∧
    (lowerWords suffix.toList = [] ∧ ¬ unsignedWord <:+: lowercase suffix.toList ∨
      (∀ w ∈ lowerWords suffix.toList, String.ofList w ∈ signWords) ∧
        unsignedWord ∈ lowerWords suffix.toList ∧ unsignedWord <:+: lowercase suffix.toList) := by
  have hall : ∀ suffix ∈ signSuffixes, ')' ∉ suffix.toList ∧
      (lowerWords suffix.toList = [] ∧ holds unsignedWord (lowercase suffix.toList) = false ∨
        (∀ w ∈ lowerWords suffix.toList, String.ofList w ∈ signWords) ∧
          unsignedWord ∈ lowerWords suffix.toList ∧
            holds unsignedWord (lowercase suffix.toList) = true) := by
    decide +kernel
  simpa only [← holds_iff_isInfix, Bool.not_eq_true] using hall suffix h

/-- A column has the type of the words in front of the parentheses and after them, unless what
stands between them looks like a sign. -/
theorem columnType?_ofMetadata_words (name : String) {dataType arguments suffix fullType : String}
    (hsuffix : suffix ∈ signSuffixes)
    (hfull : fullType.toList =
      dataType.toList ++ '(' :: (arguments.toList ++ ')' :: suffix.toList))
    (harguments : ¬ unsignedWord <:+: lowercase arguments.toList) (precision scale : Option Int) :
    (RawColumn.ofMetadata name dataType fullType precision scale).type.columnType? =
      typeOfWords (lowerWords dataType.toList ++ lowerWords suffix.toList)
        (precision.bind RawColumn.size?) (scale.bind RawColumn.size?) := by
  have hlook : holds unsignedWord (lowercase fullType.toList) = true ↔
      unsignedWord <:+: lowercase dataType.toList ∨ unsignedWord <:+: lowercase suffix.toList := by
    rw [holds_iff_isInfix, hfull, separatesCase_paren.1.lowercase_append,
      separatesCase_paren.2.lowercase_append, infix_append_cons_iff (by decide),
      infix_append_cons_iff (by decide), or_iff_right harguments]
  have hone : ∀ w ∈ [unsignedWord], String.ofList w ∈ signWords := by decide
  have hcontains : NativeName.unsignedWords.contains (String.ofList unsignedWord) = true := by
    decide
  rw [columnType?_ofMetadata]
  obtain ⟨_, ⟨hnil, hnot⟩ | ⟨hsigns, hmem, hin⟩⟩ := lowerWords_suffix hsuffix
  · rw [hnil, List.append_nil]
    split
    · -- With no sign after the parentheses, one can only have been found within the name.
      rename_i hheld
      have hbase := (hlook.1 hheld).resolve_right hnot
      rw [typeOfWords_append_signs hone ⟨_, List.mem_singleton_self _, hcontains⟩,
        typeOfWords_of_isInfix hbase]
    · rw [List.append_nil]
  · rw [if_pos (hlook.2 (.inr hin)),
      typeOfWords_append_signs hone ⟨_, List.mem_singleton_self _, hcontains⟩,
      typeOfWords_append_signs hsigns ⟨_, hmem, hcontains⟩]

/-- An enumeration and a set are text, whatever is said of their sign. -/
theorem typeOfWords_listed {dataType : String} (hlisted : dataType ∈ ["enum", "set"])
    (hsigns : ∀ w ∈ signs, String.ofList w ∈ signWords) :
    typeOfWords (lowerWords dataType.toList ++ signs) precision scale = some .text := by
  have hself : ∀ dataType ∈ ["enum", "set"], lowerWords dataType.toList = [dataType.toList] ∧
      (NativeName.ofWords [dataType]).base = dataType := by
    decide +kernel
  obtain ⟨hwords, hbase⟩ := hself dataType hlisted
  have hmapped : ∀ w ∈ signs.map String.ofList, w ∈ signWords := by simpa using hsigns
  rw [typeOfWords, hwords, List.map_append, List.map_singleton, String.ofList_toList,
    ofWords_append _ hmapped, hbase]
  simp only [List.mem_cons, List.not_mem_nil, or_false] at hlisted
  rcases hlisted with rfl | rfl <;> rfl

theorem ofDefinition?_of_toList {dataType arguments suffix fullType : String}
    (hsuffix : suffix ∈ signSuffixes) (hdata : '(' ∉ dataType.toList)
    (hfull : fullType.toList =
      dataType.toList ++ '(' :: (arguments.toList ++ ')' :: suffix.toList)) :
    ColumnType.ofDefinition? fullType =
      typeOfWords (lowerWords dataType.toList ++ lowerWords suffix.toList)
        (sizeArguments arguments.toList).1 (sizeArguments arguments.toList).2 := by
  rw [← String.ofList_toList (s := fullType), hfull,
    ofDefinition?_eq hdata (lowerWords_suffix hsuffix).1]

/-- A column that the metadata describe has the type that its full type has as a definition: with
sizes, for every name; with values, for an enumeration and a set. -/
theorem RawColumn.ofMetadata_agrees (name : String) {suffix : String}
    (hsuffix : suffix ∈ signSuffixes) :
    (∀ (dataType : String) (precision : UInt32) (scale : Option UInt32), '(' ∉ dataType.toList →
      (RawColumn.ofMetadata name dataType (sizedType dataType precision scale suffix)
        (some precision.toNat) (scale.map fun n => n.toNat)).type.columnType? =
          ColumnType.ofDefinition? (sizedType dataType precision scale suffix)) ∧
    ∀ dataType ∈ ["enum", "set"], ∀ (values : List String) (precision scale : Option Int),
      (RawColumn.ofMetadata name dataType (listedType dataType values suffix)
        precision scale).type.columnType? = some .text ∧
      ColumnType.ofDefinition? (listedType dataType values suffix) = some .text := by
  constructor
  · intro dataType precision scale hdata
    have hfull : (sizedType dataType precision scale suffix).toList = dataType.toList ++
        '(' :: ((sizesText precision scale).toList ++ ')' :: suffix.toList) := by
      simp [sizedType]
    have hscale : (scale.map fun n => (n.toNat : Int)).bind RawColumn.size? = scale := by
      cases scale with
      | none => rfl
      | some n => exact size?_toNat n
    rw [columnType?_ofMetadata_words name hsuffix hfull (not_infix_sizesText precision scale),
      ofDefinition?_of_toList hsuffix hdata hfull, sizeArguments_sizesText, Option.bind_some,
      size?_toNat, hscale]
  · intro dataType hlisted values precision scale
    have hdata : ∀ dataType ∈ ["enum", "set"], '(' ∉ dataType.toList := by decide
    have hfull : (listedType dataType values suffix).toList = dataType.toList ++
        '(' :: ((",".intercalate (values.map fun value => "'" ++ value ++ "'")).toList ++
          ')' :: suffix.toList) := by
      simp [listedType]
    have hsigns : ∀ w ∈ lowerWords suffix.toList, String.ofList w ∈ signWords := by
      obtain ⟨_, ⟨hnil, _⟩ | ⟨hsigns, _⟩⟩ := lowerWords_suffix hsuffix
      · simp [hnil]
      · exact hsigns
    rw [columnType?_ofMetadata, ofDefinition?_of_toList hsuffix (hdata dataType hlisted) hfull]
    refine ⟨typeOfWords_listed hlisted ?_, typeOfWords_listed hlisted hsigns⟩
    split
    · decide
    · simp

theorem RawColumn.ofMetadata_agrees_price :
    (RawColumn.ofMetadata "price" "decimal" (sizedType "decimal" 10 (some 2) " unsigned") (some 10)
      (some 2)).type.columnType? =
        ColumnType.ofDefinition? (sizedType "decimal" 10 (some 2) " unsigned") ∧
    (RawColumn.ofMetadata "size" "enum" (listedType "enum" ["a,b)", "unsigned(1)"] "") (some 11)
      none).type.columnType? = some .text :=
  ⟨(RawColumn.ofMetadata_agrees "price" (by decide)).1 "decimal" 10 (some 2) (by decide),
    ((RawColumn.ofMetadata_agrees "size" (by decide)).2 "enum" (by decide) ["a,b)", "unsigned(1)"]
      (some 11) none).1⟩

end ShardMerge
