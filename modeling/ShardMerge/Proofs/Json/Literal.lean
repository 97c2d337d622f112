import Mathlib.Tactic.SplitIfs
import ShardMerge.Json.Literal

/-!
# Literals that are read back

A string or a natural number that is written is read back, whatever text follows it.

* `takeCodeUnits_escapeChar` is one character of a string, `takeCodeUnits_escaped` all of them, and
  `ofCodeUnits?_map_toNat` says that no character is half a surrogate pair.  `readString_escaped`
  puts them together.
* `readNumber_toDigits` reads the decimal form of a number up to a character that ends it, and
  `toJson_toDigits` gives the number.
-/

namespace ShardMerge.Json

/-! ## Strings -/

theorem hexValue?_digitChar {n : Nat} (h : n < 16) : hexValue? (Nat.digitChar n) = some n := by
  revert n
  decide

/-- Four hexadecimal digits are read back. -/
theorem codeUnit?_fourHexDigits {n : Nat} (h : n < 256) :
    codeUnit? '0' '0' (Nat.digitChar (n / 16)) (Nat.digitChar (n % 16)) = some n := by
  have hzero : hexValue? '0' = some 0 := by decide
  have hhigh := hexValue?_digitChar (n := n / 16) (by omega)
  have hlow := hexValue?_digitChar (n := n % 16) (by omega)
  simp only [codeUnit?, hzero, hhigh, hlow, Option.bind_eq_bind, Option.bind_some]
  congr 1
  omega

/-- A character that needs no escape is taken as it is. -/
theorem takeCodeUnits_cons {c : Char} (hquote : c ≠ '"') (hbackslash : c ≠ '\\')
    (hcontrol : ¬c.toNat < 32) (rest : List Char) :
    takeCodeUnits (c :: rest) =
      (takeCodeUnits rest).map fun taken => (c.toNat :: taken.1, taken.2) := by
  rw [takeCodeUnits]
  · rw [if_neg (by simp [hcontrol, hbackslash])]
    cases takeCodeUnits rest <;> rfl
  · exact fun h => hquote h
  · exact fun _ _ _ _ _ h => absurd h hbackslash
  · exact fun _ _ h => absurd h hbackslash

/-- A character is written as an escape of one letter, by its number, or as it is. -/
theorem escapeChar_cases (c : Char) :
    (∃ letter, letter ≠ 'u' ∧ unescape? letter = some c ∧ escapeChar c = ['\\', letter]) ∨
      c.toNat < 32 ∧ escapeChar c = '\\' :: 'u' :: fourHexDigits c.toNat ∨
        c ≠ '"' ∧ c ≠ '\\' ∧ ¬c.toNat < 32 ∧ escapeChar c = [c] := by
  have hnumber {n : Nat} (h : c.toNat = n) : c = Char.ofNat n := by
    rw [← h, Char.ofNat_toNat]
  unfold escapeChar
  split_ifs with hquote hbackslash hline hreturn htab hback hfeed hcontrol
  · exact .inl ⟨'"', by decide, by rw [hquote]; decide, rfl⟩
  · exact .inl ⟨'\\', by decide, by rw [hbackslash]; decide, rfl⟩
  · exact .inl ⟨'n', by decide, by rw [hline]; decide, rfl⟩
  · exact .inl ⟨'r', by decide, by rw [hreturn]; decide, rfl⟩
  · exact .inl ⟨'t', by decide, by rw [htab]; decide, rfl⟩
  · exact .inl ⟨'b', by decide, by rw [hnumber hback]; decide, rfl⟩
  · exact .inl ⟨'f', by decide, by rw [hnumber hfeed]; decide, rfl⟩
  · exact .inr (.inl ⟨hcontrol, rfl⟩)
  · exact .inr (.inr ⟨hquote, hbackslash, hcontrol, rfl⟩)

/-- The code unit of a written character is taken. -/
theorem takeCodeUnits_escapeChar (c : Char) (rest : List Char) :
    takeCodeUnits (escapeChar c ++ rest) =
      (takeCodeUnits rest).map fun taken => (c.toNat :: taken.1, taken.2) := by
  rcases escapeChar_cases c with ⟨letter, hu, hletter, hescape⟩ | ⟨hcontrol, hescape⟩ |
    ⟨hquote, hbackslash, hcontrol, hescape⟩
  · rw [hescape, List.cons_append, List.cons_append, List.nil_append, takeCodeUnits]
    · rw [hletter]
      cases takeCodeUnits rest <;> rfl
    · exact fun _ _ _ _ _ h => absurd h hu
  · have hunit := codeUnit?_fourHexDigits (n := c.toNat) (by omega)
    rw [hescape]
    simp only [fourHexDigits, List.cons_append, List.nil_append, takeCodeUnits, hunit]
    cases takeCodeUnits rest <;> rfl
  · rw [hescape]
    exact takeCodeUnits_cons hquote hbackslash hcontrol rest

theorem takeCodeUnits_escaped (s rest : List Char) :
    takeCodeUnits (s.flatMap escapeChar ++ '"' :: rest) = some (s.map Char.toNat, rest) := by
  induction s with
  | nil => simp [takeCodeUnits]
  | cons c s ih =>
    rw [List.flatMap_cons, List.append_assoc, takeCodeUnits_escapeChar, ih]
    rfl

/-- A character is not half a surrogate pair. -/
theorem not_isSurrogate (c : Char) :
    isHighSurrogate c.toNat = false ∧ isLowSurrogate c.toNat = false := by
  have hvalid : c.toNat < 0xD800 ∨ 0xDFFF < c.toNat ∧ c.toNat < 0x110000 := c.valid
  simp only [isHighSurrogate, isLowSurrogate, Bool.and_eq_false_iff, decide_eq_false_iff_not]
  omega

theorem ofCodeUnits?_map_toNat (s : List Char) : ofCodeUnits? (s.map Char.toNat) = some s := by
  induction s with
  | nil => rfl
  | cons c s ih =>
    obtain ⟨hhigh, hlow⟩ := not_isSurrogate c
    unfold ofCodeUnits?
    simp [hhigh, hlow, ih]

theorem readString_escaped (text : String) (rest : List Char) :
    readString (text.toList.flatMap escapeChar ++ '"' :: rest) = some (some text, rest) := by
  rw [readString, takeCodeUnits_escaped]
  simp [ofCodeUnits?_map_toNat]

/-! ## Numbers -/

/-- A text that begins with none of the characters with which a number goes on. -/
def EndsNumber (s : List Char) : Prop :=
  ∀ c ∈ s.head?, c.isDigit = false ∧ c ≠ '.' ∧ c ≠ 'e' ∧ c ≠ 'E'

theorem takeDigits_append {digits rest : List Char} (hdigits : ∀ c ∈ digits, c.isDigit = true)
    (hrest : ∀ c ∈ rest.head?, c.isDigit = false) :
    takeDigits (digits ++ rest) = (digits, rest) := by
  rw [takeDigits, List.takeWhile_append_of_pos hdigits, List.dropWhile_append_of_pos hdigits]
  cases rest with
  | nil => simp
  | cons c rest => simp [hrest c rfl]

theorem takeFraction_of_ends {s : List Char} (h : EndsNumber s) :
    takeFraction s = some ([], s) := by
  unfold takeFraction
  split
  · exact absurd rfl (h '.' rfl).2.1
  · rfl

theorem takeExponent_of_ends {s : List Char} (h : EndsNumber s) :
    takeExponent s = some (none, s) := by
  cases s with
  | nil => rfl
  | cons c s =>
    obtain ⟨_, _, hsmall, hcapital⟩ := h c rfl
    simp [takeExponent, hsmall, hcapital]

theorem isDigit_of_mem_toDigits {n : Nat} {c : Char} (h : c ∈ Nat.toDigits 10 n) :
    c.isDigit = true :=
  Nat.isDigit_of_mem_toDigits (by decide) (by decide) h

/-- The decimal form of a number begins with a zero only if that is all of it. -/
theorem toDigits_cases (n : Nat) :
    Nat.toDigits 10 n = ['0'] ∨ ∃ c r, Nat.toDigits 10 n = c :: r ∧ c ≠ '0' := by
  induction n using Nat.strongRecOn with
  | ind n ih =>
    rw [Nat.toDigits_eq_if (by decide)]
    split
    · by_cases hzero : n = 0
      · exact .inl (by rw [hzero]; rfl)
      · exact .inr ⟨n.digitChar, [], rfl, fun h => hzero (Nat.digitChar_eq_zero.1 h)⟩
    · rename_i hlarge
      rcases ih (n / 10) (by omega) with hzero | ⟨c, r, hcons, hc⟩
      · -- The number before the last digit is not zero.
        have hvalue := Nat.ofDigitChars_ten_toDigits (n := n / 10)
        rw [hzero] at hvalue
        change 0 = n / 10 at hvalue
        omega
      · exact .inr ⟨c, r ++ [(n % 10).digitChar], by rw [hcons]; rfl, hc⟩

theorem takeWhole_toDigits (n : Nat) {rest : List Char}
    (hrest : ∀ c ∈ rest.head?, c.isDigit = false) :
    takeWhole (Nat.toDigits 10 n ++ rest) = some (Nat.toDigits 10 n, rest) := by
  rcases toDigits_cases n with hzero | ⟨c, r, hcons, hc⟩
  · rw [hzero]
    rfl
  · have htaken := takeDigits_append (fun _ => isDigit_of_mem_toDigits (n := n)) hrest
    rw [hcons, List.cons_append] at htaken ⊢
    unfold takeWhole
    split
    · rename_i heq
      exact absurd (List.cons.inj heq).1 hc
    · rw [htaken]
      rfl

/-- The decimal form of a number is read up to what ends it. -/
theorem readNumber_toDigits (n : Nat) {rest : List Char} (hrest : EndsNumber rest) :
    readNumber (Nat.toDigits 10 n ++ rest) =
      some (⟨false, Nat.toDigits 10 n, [], none⟩, rest) := by
  have hwhole := takeWhole_toDigits n fun c hc => (hrest c hc).1
  have hsign : ∀ r, Nat.toDigits 10 n ++ rest ≠ '-' :: r := by
    intro r hminus
    obtain ⟨c, digits, hcons⟩ := List.exists_cons_of_ne_nil (Nat.toDigits_ne_nil (b := 10) (n := n))
    have hdigit := isDigit_of_mem_toDigits (n := n) (c := c) (by rw [hcons]; exact .head _)
    rw [hcons, List.cons_append] at hminus
    rw [(List.cons.inj hminus).1] at hdigit
    exact absurd hdigit (by decide)
  simp only [readNumber, hwhole, takeFraction_of_ends hrest, takeExponent_of_ends hrest,
    Option.bind_eq_bind, Option.bind_some]

theorem toJson_toDigits (n : UInt64) :
    NumberLiteral.toJson ⟨false, Nat.toDigits 10 n.toNat, [], none⟩ = .natural n := by
  have hlt : n.toNat < UInt64.size := n.toNat_lt
  simp [NumberLiteral.toJson, Nat.ofDigitChars_ten_toDigits, hlt]

end ShardMerge.Json
