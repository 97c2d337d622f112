import Mathlib.Tactic.SplitIfs
import ShardMerge.Column.Type
import ShardMerge.Text.Decimal
import ShardMerge.Text.Split

/-!
# Descriptions of column types

Two types never have the same description, so a message that describes two types tells them apart.

* A description is a word with sizes after it: `toList_describe`.
* `ofDescription?` reads a description, and `ofDescription?_describe` says that it gives the type
  back.  `describe_injective` follows from that.
-/

namespace ShardMerge.ColumnType

open Text

/-! ## Words and sizes -/

/-- The letters of a description. -/
def word : ColumnType → String
  | integer bits =>
    if bits = 8 then "TINYINT"
    else if bits = 16 then "SMALLINT"
    else if bits = 64 then "BIGINT"
    else "INT"
  | float bits => if bits = 64 then "DOUBLE" else "FLOAT"
  | string (some _) => "VARCHAR"
  | string none => "STRING"
  | binary (some _) => "BINARY"
  | binary none => "BYTES"
  | decimal _ _ => "DECIMAL"
  | boolean => "BOOLEAN"
  | date => "DATE"
  | time => "TIME"
  | timestamp false => "TIMESTAMP"
  | timestamp true => "TIMESTAMP WITH TIME ZONE"

/-- Sizes in brackets. -/
def bracketed (s : List Char) : List Char := '(' :: (s ++ [')'])

/-- What a description has after its letters.  Only a width without a word of its own is written. -/
def sizes : ColumnType → List Char
  | integer bits =>
    if bits = 8 ∨ bits = 16 ∨ bits = 32 ∨ bits = 64 then [] else Nat.toDigits 10 bits.toNat
  | float bits => if bits = 32 ∨ bits = 64 then [] else Nat.toDigits 10 bits.toNat
  | string (some length) | binary (some length) => bracketed (Nat.toDigits 10 length.toNat)
  | decimal precision scale =>
    bracketed (Nat.toDigits 10 precision.toNat ++ ',' :: ' ' :: Nat.toDigits 10 scale.toNat)
  | _ => []

theorem toList_toString_uint8 (n : UInt8) : (toString n).toList = Nat.toDigits 10 n.toNat := by
  change (toString n.toNat).toList = _
  rw [Nat.toString_eq_ofList_toDigits, String.toList_ofList]

theorem toList_toString_uint32 (n : UInt32) : (toString n).toList = Nat.toDigits 10 n.toNat := by
  change (toString n.toNat).toList = _
  rw [Nat.toString_eq_ofList_toDigits, String.toList_ofList]

theorem toString_text (s : String) : toString s = s := rfl

/-- A description is a word with sizes after it. -/
theorem toList_describe (t : ColumnType) : t.describe.toList = t.word.toList ++ t.sizes := by
  cases t with
  | integer bits =>
    simp only [describe, word, sizes]
    split_ifs <;> simp_all [toString_text, toList_toString_uint8]
  | float bits =>
    simp only [describe, word, sizes]
    split_ifs <;> simp_all [toString_text, toList_toString_uint8]
  | string length =>
    cases length <;> simp [describe, word, sizes, bracketed, toString_text, toList_toString_uint32]
  | binary length =>
    cases length <;> simp [describe, word, sizes, bracketed, toString_text, toList_toString_uint32]
  | decimal precision scale =>
    simp [describe, word, sizes, bracketed, toString_text, toList_toString_uint8]
  | timestamp zone => cases zone <;> rfl
  | boolean | date | time => rfl

/-- A letter of a word, or a blank between two words. -/
def isWordChar (c : Char) : Bool := c.isUpper || c = ' '

theorem isWordChar_of_mem {t : ColumnType} : ∀ c ∈ t.word.toList, isWordChar c = true := by
  rw [← List.all_eq_true]
  unfold word
  split
  · split_ifs <;> decide
  · split_ifs <;> decide
  all_goals decide

theorem isWordChar_of_isDigit {c : Char} (h : c.isDigit = true) : isWordChar c = false := by
  have hlow : c.toNat ≤ 57 := by
    simp only [Char.isDigit, Bool.and_eq_true, decide_eq_true_eq] at h
    exact UInt32.le_iff_toNat_le.1 h.2
  have hupper : c.isUpper = false := by
    apply decide_eq_false
    intro hupper
    have hhigh : 65 ≤ c.toNat := UInt32.le_iff_toNat_le.1 hupper.1
    omega
  have hblank : c ≠ ' ' := by
    rintro rfl
    revert h
    decide
  simp [isWordChar, hupper, hblank]

theorem takeWhile_isWordChar_toDigits (n : Nat) :
    (Nat.toDigits 10 n).takeWhile isWordChar = [] := by
  cases hdigits : Nat.toDigits 10 n with
  | nil => rfl
  | cons c digits =>
    have hdigit : c.isDigit = true :=
      Nat.isDigit_of_mem_toDigits (n := n) (b := 10) (by omega) (by omega) (hdigits ▸ .head _)
    simp [isWordChar_of_isDigit hdigit]

/-- The sizes begin where the word ends. -/
theorem takeWhile_isWordChar_sizes (t : ColumnType) : t.sizes.takeWhile isWordChar = [] := by
  unfold sizes
  split
  · split_ifs
    · rfl
    · exact takeWhile_isWordChar_toDigits _
  · split_ifs
    · rfl
    · exact takeWhile_isWordChar_toDigits _
  all_goals rfl

/-! ## Reading a description -/

/-- The type of a word and sizes. -/
def ofParts? (word : String) (sizes : List Char) : Option ColumnType :=
  let inside := sizes.tail.dropLast
  match word with
  | "TINYINT" => some (.integer 8)
  | "SMALLINT" => some (.integer 16)
  | "BIGINT" => some (.integer 64)
  | "INT" => some (.integer ((Decimal.ofDigits? sizes).elim 32 UInt8.ofNat))
  | "DOUBLE" => some (.float 64)
  | "FLOAT" => some (.float ((Decimal.ofDigits? sizes).elim 32 UInt8.ofNat))
  | "VARCHAR" => (Decimal.ofDigits? inside).map fun n => .string (some (UInt32.ofNat n))
  | "STRING" => some .text
  | "BINARY" => (Decimal.ofDigits? inside).map fun n => .binary (some (UInt32.ofNat n))
  | "BYTES" => some .bytes
  | "DECIMAL" => do
    let (precision, scale) ← cutFirst ',' inside
    let precision ← Decimal.ofDigits? precision
    let scale ← Decimal.ofDigits? scale.tail
    some (.decimal (UInt8.ofNat precision) (UInt8.ofNat scale))
  | "BOOLEAN" => some .boolean
  | "DATE" => some .date
  | "TIME" => some .time
  | "TIMESTAMP" => some (.timestamp false)
  | "TIMESTAMP WITH TIME ZONE" => some (.timestamp true)
  | _ => none

theorem dropLast_tail_bracketed (s : List Char) : (bracketed s).tail.dropLast = s := by
  rw [bracketed, List.tail_cons, List.dropLast_concat]

theorem cutFirst_comma_toDigits (n : Nat) (rest : List Char) :
    cutFirst ',' (Nat.toDigits 10 n ++ ',' :: rest) = some (Nat.toDigits 10 n, rest) := by
  refine cutFirst_eq_some_iff.2 ⟨rfl, fun hcomma => ?_⟩
  have hdigit := Nat.isDigit_of_mem_toDigits (b := 10) (by omega) (by omega) hcomma
  revert hdigit
  decide

theorem ofParts?_word (t : ColumnType) : ofParts? t.word t.sizes = some t := by
  have hnil : Decimal.ofDigits? [] = none := rfl
  cases t with
  | integer bits =>
    simp only [word, sizes]
    split_ifs <;> simp_all [ofParts?, Decimal.ofDigits?_toDigits]
  | float bits =>
    simp only [word, sizes]
    split_ifs <;> simp_all [ofParts?, Decimal.ofDigits?_toDigits]
  | string length =>
    cases length <;>
      simp [word, sizes, ofParts?, dropLast_tail_bracketed, Decimal.ofDigits?_toDigits, text]
  | binary length =>
    cases length <;>
      simp [word, sizes, ofParts?, dropLast_tail_bracketed, Decimal.ofDigits?_toDigits, bytes]
  | decimal precision scale =>
    simp [word, sizes, ofParts?, dropLast_tail_bracketed, cutFirst_comma_toDigits,
      Decimal.ofDigits?_toDigits]
  | timestamp zone => cases zone <;> rfl
  | boolean | date | time => rfl

/-- Reads a description. -/
def ofDescription? (description : String) : Option ColumnType :=
  ofParts? (String.ofList (description.toList.takeWhile isWordChar))
    (description.toList.dropWhile isWordChar)

/-- A description is read back. -/
theorem ofDescription?_describe (t : ColumnType) : ofDescription? t.describe = some t := by
  have htake : t.describe.toList.takeWhile isWordChar = t.word.toList := by
    rw [toList_describe, List.takeWhile_append_of_pos isWordChar_of_mem,
      takeWhile_isWordChar_sizes, List.append_nil]
  have hdrop : t.describe.toList.dropWhile isWordChar = t.sizes := by
    have hsizes := List.takeWhile_append_dropWhile (p := isWordChar) (l := t.sizes)
    rw [takeWhile_isWordChar_sizes, List.nil_append] at hsizes
    rw [toList_describe, List.dropWhile_append_of_pos isWordChar_of_mem, hsizes]
  rw [ofDescription?, htake, hdrop, String.ofList_toList, ofParts?_word]

/-- Types that differ have descriptions that differ. -/
theorem describe_injective : Function.Injective describe := by
  intro a b h
  have hread := ofDescription?_describe a
  rw [h, ofDescription?_describe] at hread
  exact (Option.some.inj hread).symm

end ShardMerge.ColumnType
