import ShardMerge.Proofs.Url.Names

/-!
# Encoding and decoding

What encoding leaves of a text, and what the text stands for afterwards.

* `PercentSet.Allows` says which characters are left as they are.  `mem_percentEncode` and
  `allows_of_mem_percentEncode` say that no others are left, so that encoding a second time changes
  nothing: `percentEncode_of_allows`.
* A percent sign is not encoded, and neither are the digits behind it.  So a text stands for the same
  bytes after it has been encoded, `percentDecode_percentEncode`, and it stands for itself exactly if
  none of its percent signs is read as the beginning of a byte: `percentDecodeText?_percentEncode_iff`.
* `Scanned` takes a text apart as it is decoded, which is what the inductions follow.
-/

namespace ShardMerge.Url

open Text

variable {set : PercentSet} {c : Char} {s t : List Char}

/-! ## What is left -/

/-- The character is not encoded. -/
def PercentSet.Allows (set : PercentSet) (c : Char) : Prop :=
  32 ≤ c.toNat ∧ c.toNat ≤ 126 ∧ c ∉ set

theorem PercentSet.Allows.ne {set : PercentSet} (h : set.Allows c) {mark : Char}
    (hmark : mark ∈ set) : c ≠ mark :=
  fun hc => h.2.2 (hc ▸ hmark)

theorem PercentSet.Allows.printable {set : PercentSet} (h : set.Allows c) (hspace : ' ' ∈ set) :
    32 < c.toNat := by
  refine Nat.lt_of_le_of_ne h.1 fun hc => ?_
  obtain rfl : c = ' ' := Char.toNat_inj.1 hc.symm
  exact h.2.2 hspace

theorem percentEncodeChar_of_allows (h : set.Allows c) : percentEncodeChar set c = [c] :=
  percentEncodeChar_eq_self h.1 h.2.1 h.2.2

theorem allows_or_percentEncodeChar_eq (set : PercentSet) (c : Char) :
    set.Allows c ∨ percentEncodeChar set c =
      (String.utf8EncodeChar c).flatMap fun b => '%' :: hexByte b := by
  by_cases h : set.Allows c
  · exact .inl h
  · right
    rw [percentEncodeChar, if_pos]
    rw [List.contains_iff_mem]
    by_contra hnone
    simp only [not_or, Nat.not_lt] at hnone
    exact h ⟨hnone.1, hnone.2.1, hnone.2.2⟩

/-- Only the sign and the digits of encoded characters are added. -/
theorem mem_percentEncode (h : c ∈ percentEncode set s) :
    c ∈ s ∧ set.Allows c ∨ c = '%' ∨ (Json.hexValue? c).isSome = true := by
  obtain ⟨d, hd, hc⟩ := List.mem_flatMap.1 h
  rcases allows_or_percentEncodeChar_eq set d with hallowed | hencoded
  · rw [percentEncodeChar_of_allows hallowed, List.mem_singleton] at hc
    exact .inl (hc ▸ ⟨hd, hallowed⟩)
  · rw [hencoded] at hc
    exact .inr ((writesBytes_flatMap _).eq_or_isSome_of_mem hc)

theorem PercentSet.LeavesBytes.allows (hset : set.LeavesBytes)
    (h : c = '%' ∨ (Json.hexValue? c).isSome = true) : set.Allows c := by
  rcases h with rfl | hdigit
  · exact ⟨by decide, by decide, fun hmem => (hset _ hmem).1 rfl⟩
  · obtain ⟨hfirst, hlast⟩ := bounds_of_hexValue? hdigit
    refine ⟨Nat.le_of_lt hfirst, hlast, fun hmem => ?_⟩
    rw [(hset c hmem).2] at hdigit
    cases hdigit

theorem allows_of_mem_percentEncode (hset : set.LeavesBytes) (h : c ∈ percentEncode set s) :
    set.Allows c := by
  rcases mem_percentEncode h with ⟨_, hallowed⟩ | hbyte
  · exact hallowed
  · exact hset.allows hbyte

theorem percentEncode_of_allows (h : ∀ c ∈ s, set.Allows c) : percentEncode set s = s := by
  rw [percentEncode, List.flatMap_congr fun c hc => percentEncodeChar_of_allows (h c hc),
    List.flatMap_singleton']

theorem percentEncode_ne_nil (hs : s ≠ []) : percentEncode set s ≠ [] := by
  have hlength : s.length ≤ (percentEncode set s).length := length_le_percentEncode
  rw [← List.length_pos_iff] at hs ⊢
  omega

/-! ## What a text stands for -/

/-- The text begins with two hexadecimal digits. -/
def beginsWithByte : List Char → Bool
  | high :: low :: _ => (Json.hexValue? high).isSome && (Json.hexValue? low).isSome
  | _ => false

theorem percentDecode_percent (h : beginsWithByte t = false) :
    percentDecode ('%' :: t) = '%'.toUInt8 :: percentDecode t := by
  rcases t with _ | ⟨high, _ | ⟨low, t⟩⟩
  · rfl
  · rfl
  · rw [percentDecode]
    split
    · rename_i hhigh hlow
      simp [beginsWithByte, hhigh, hlow] at h
    · rfl

/-- A text taken apart as it is decoded: a byte in digits, a percent sign that stands for itself, or
another character. -/
inductive Scanned : List Char → Prop
  | nil : Scanned []
  | byte {high low : Char} {s : List Char} (hbyte : beginsWithByte (high :: low :: s) = true)
    (h : Scanned s) : Scanned ('%' :: high :: low :: s)
  | sign {s : List Char} (hsign : beginsWithByte s = false) (h : Scanned s) : Scanned ('%' :: s)
  | other {c : Char} {s : List Char} (hc : c ≠ '%') (h : Scanned s) : Scanned (c :: s)

theorem scanned (s : List Char) : Scanned s := by
  induction hlength : s.length using Nat.strongRecOn generalizing s with
  | ind n ih =>
    cases s with
    | nil => exact .nil
    | cons c s =>
      rw [List.length_cons] at hlength
      have hrest : Scanned s := ih s.length (by omega) s rfl
      by_cases hc : c = '%'
      · subst hc
        cases hbyte : beginsWithByte s with
        | false => exact .sign hbyte hrest
        | true =>
          rcases s with _ | ⟨high, _ | ⟨low, s⟩⟩
          · cases hbyte
          · cases hbyte
          · rw [List.length_cons, List.length_cons] at hlength
            exact .byte hbyte (ih s.length (by omega) s rfl)
      · exact .other hc hrest

theorem percentDecode_byte {high low : Char} (h : beginsWithByte (high :: low :: s) = true) :
    ∃ byte, ∀ t, percentDecode ('%' :: high :: low :: t) = byte :: percentDecode t := by
  rw [beginsWithByte, Bool.and_eq_true] at h
  obtain ⟨x, hx⟩ := Option.isSome_iff_exists.1 h.1
  obtain ⟨y, hy⟩ := Option.isSome_iff_exists.1 h.2
  exact ⟨UInt8.ofNat (16 * x + y), fun t => by simp only [percentDecode, hx, hy]⟩

theorem percentEncode_cons_of_allows (h : set.Allows c) (s : List Char) :
    percentEncode set (c :: s) = c :: percentEncode set s := by
  rw [percentEncode, List.flatMap_cons, percentEncodeChar_of_allows h]
  rfl

/-- An encoded character begins with a percent sign, which is no digit. -/
theorem percentEncode_cons_cases (hset : set.LeavesBytes) (c : Char) (s : List Char) :
    percentEncode set (c :: s) = c :: percentEncode set s ∨
      Json.hexValue? c = none ∧ ∃ rest, percentEncode set (c :: s) = '%' :: rest := by
  rcases allows_or_percentEncodeChar_eq set c with hallowed | hencoded
  · exact .inl (percentEncode_cons_of_allows hallowed s)
  · by_cases hdigit : (Json.hexValue? c).isSome = true
    · exact .inl (percentEncode_cons_of_allows (hset.allows (.inr hdigit)) s)
    · right
      refine ⟨by simpa using hdigit, ?_⟩
      obtain ⟨b, bytes, hbytes⟩ := List.exists_cons_of_ne_nil (String.utf8EncodeChar_ne_nil (c := c))
      exact ⟨_, by rw [percentEncode, List.flatMap_cons, hencoded, hbytes]; rfl⟩

/-- Encoding neither makes nor breaks a byte behind a percent sign. -/
theorem beginsWithByte_percentEncode (hset : set.LeavesBytes) (s : List Char) :
    beginsWithByte (percentEncode set s) = beginsWithByte s := by
  have hpercent : Json.hexValue? '%' = none := by decide
  rcases s with _ | ⟨high, s⟩
  · rfl
  rcases percentEncode_cons_cases hset high s with hkept | ⟨hnone, rest, hrest⟩
  · rw [hkept]
    rcases s with _ | ⟨low, s⟩
    · rfl
    rcases percentEncode_cons_cases hset low s with hkept | ⟨hnone, rest, hrest⟩
    · rw [hkept]
      rfl
    · rw [hrest, beginsWithByte, beginsWithByte, hnone, hpercent]
  · rw [hrest]
    rcases rest with _ | ⟨_, rest⟩ <;> rcases s with _ | ⟨_, s⟩ <;>
      simp [beginsWithByte, hnone, hpercent]

/-- A text stands for the same bytes when it is encoded. -/
theorem percentDecode_percentEncode (hset : set.LeavesBytes) (s : List Char) :
    percentDecode (percentEncode set s) = percentDecode s := by
  have hsign : set.Allows '%' := hset.allows (.inl rfl)
  induction scanned s with
  | nil => rfl
  | @byte high low s hbyte _ ih =>
    obtain ⟨byte, hread⟩ := percentDecode_byte hbyte
    rw [beginsWithByte, Bool.and_eq_true] at hbyte
    rw [percentEncode_cons_of_allows hsign, percentEncode_cons_of_allows (hset.allows (.inr hbyte.1)),
      percentEncode_cons_of_allows (hset.allows (.inr hbyte.2)), hread, hread, ih]
  | @sign s hbyte _ ih =>
    rw [percentEncode_cons_of_allows hsign, percentDecode_percent hbyte,
      percentDecode_percent (by rw [beginsWithByte_percentEncode hset, hbyte]), ih]
  | @other c s hc _ ih =>
    rw [percentDecode_cons hc]
    rcases allows_or_percentEncodeChar_eq set c with hallowed | hencoded
    · rw [percentEncode_cons_of_allows hallowed, percentDecode_cons hc, ih]
    · rw [percentEncode, List.flatMap_cons, hencoded, (writesBytes_flatMap _).percentDecode_eq]
      exact congrArg (String.utf8EncodeChar c ++ ·) ih

/-- A percent sign of the text is read as the beginning of a byte. -/
def HoldsByte (s : List Char) : Prop :=
  ∃ after, '%' :: after <:+ s ∧ beginsWithByte after = true

theorem holdsByte_cons_iff :
    HoldsByte (c :: s) ↔ c = '%' ∧ beginsWithByte s = true ∨ HoldsByte s := by
  unfold HoldsByte
  constructor
  · rintro ⟨after, hsuffix, hbyte⟩
    rcases List.suffix_cons_iff.1 hsuffix with hwhole | hrest
    · obtain ⟨rfl, rfl⟩ := List.cons.inj hwhole
      exact .inl ⟨rfl, hbyte⟩
    · exact .inr ⟨after, hrest, hbyte⟩
  · rintro (⟨rfl, hbyte⟩ | ⟨after, hrest, hbyte⟩)
    · exact ⟨s, List.suffix_rfl, hbyte⟩
    · exact ⟨after, hrest.trans (List.suffix_cons _ _), hbyte⟩

theorem not_holdsByte_nil : ¬HoldsByte [] := by
  rintro ⟨after, hsuffix, _⟩
  simp at hsuffix

instance decidableHoldsByte : (s : List Char) → Decidable (HoldsByte s)
  | [] => .isFalse not_holdsByte_nil
  | _ :: s =>
    have := decidableHoldsByte s
    decidable_of_iff _ holdsByte_cons_iff.symm

/-- A text without such a percent sign stands for its own bytes, and any other one for fewer. -/
theorem percentDecode_cases (s : List Char) :
    ¬HoldsByte s ∧ percentDecode s = s.flatMap String.utf8EncodeChar ∨
      HoldsByte s ∧ (percentDecode s).length < (s.flatMap String.utf8EncodeChar).length := by
  have hshorter {s : List Char} (h : ¬HoldsByte s ∧
      percentDecode s = s.flatMap String.utf8EncodeChar ∨
        HoldsByte s ∧ (percentDecode s).length < (s.flatMap String.utf8EncodeChar).length) :
      (percentDecode s).length ≤ (s.flatMap String.utf8EncodeChar).length := by
    rcases h with ⟨_, heq⟩ | ⟨_, hlt⟩
    · exact Nat.le_of_eq (congrArg List.length heq)
    · exact Nat.le_of_lt hlt
  have hpercent : String.utf8EncodeChar '%' = ['%'.toUInt8] := by decide
  induction scanned s with
  | nil => exact .inl ⟨not_holdsByte_nil, rfl⟩
  | @byte high low s hbyte _ ih =>
    right
    obtain ⟨byte, hread⟩ := percentDecode_byte hbyte
    have hlength := hshorter ih
    have hhigh : 0 < (String.utf8EncodeChar high).length :=
      List.length_pos_iff.2 String.utf8EncodeChar_ne_nil
    refine ⟨holdsByte_cons_iff.2 (.inl ⟨rfl, hbyte⟩), ?_⟩
    rw [hread]
    simp only [List.flatMap_cons, List.length_append, List.length_cons, hpercent]
    omega
  | @sign s hsign _ ih =>
    rw [holdsByte_cons_iff, percentDecode_percent hsign, hsign, List.flatMap_cons, hpercent]
    rcases ih with ⟨hnone, heq⟩ | ⟨hsome, hlt⟩
    · exact .inl ⟨by simp [hnone], by rw [heq]; rfl⟩
    · exact .inr ⟨.inr hsome, by simpa using hlt⟩
  | @other c s hc _ ih =>
    rw [holdsByte_cons_iff, percentDecode_cons hc, List.flatMap_cons]
    rcases ih with ⟨hnone, heq⟩ | ⟨hsome, hlt⟩
    · exact .inl ⟨by simp [hnone, hc], by rw [heq]⟩
    · exact .inr ⟨.inr hsome, by simpa using hlt⟩

theorem textOfBytes?_eq_some_iff {bytes : List UInt8} {name : String} :
    textOfBytes? bytes = some name ↔ bytes = name.toList.flatMap String.utf8EncodeChar := by
  constructor
  · intro h
    unfold textOfBytes? String.fromUTF8? at h
    split at h
    · have hbytes : (⟨bytes.toArray⟩ : ByteArray) = name.toByteArray :=
        congrArg String.toByteArray (Option.some.inj h)
      rw [← String.utf8Encode_toList, List.utf8Encode] at hbytes
      have hdata := congrArg (fun b => b.data.toList) hbytes
      rwa [List.data_toByteArray] at hdata
    · cases h
  · rintro rfl
    rw [textOfBytes?_flatMap, String.ofList_toList]

/-- An encoded text stands for itself exactly if none of its percent signs is read as the beginning
of a byte. -/
theorem percentDecodeText?_percentEncode_iff (hset : set.LeavesBytes) (name : String) :
    percentDecodeText? (percentEncode set name.toList) = some name ↔ ¬HoldsByte name.toList := by
  rw [percentDecodeText?, percentDecode_percentEncode hset, textOfBytes?_eq_some_iff]
  rcases percentDecode_cases name.toList with ⟨hnone, heq⟩ | ⟨hsome, hlt⟩
  · exact iff_of_true heq hnone
  · refine iff_of_false (fun heq => ?_) (not_not_intro hsome)
    rw [heq] at hlt
    exact Nat.lt_irrefl _ hlt

end ShardMerge.Url
