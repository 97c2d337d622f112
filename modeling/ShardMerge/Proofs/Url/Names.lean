import Mathlib.Tactic.SplitIfs
import ShardMerge.Proofs.Url.Password

/-!
# Names in URLs

The ways in which a name can be written in a part of a URL, and what is read back.

* `Denotes` ties a text to the name that it stands for: each character of the name stands there as it
  is, where it may, or is written as the bytes of its UTF-8 form.  `denotes_percentEncode` says that
  each name can be written.
* `Denotes.percentDecodeText?_eq` says that the name is read back, and `Denotes.percentEncode` that the
  text stands for the same name once a URL has been read.
* `Denotes.length_le` and `Denotes.eq_of_length_le` compare the length of the text to that of the name:
  they agree only where nothing is encoded.
* `clean_eq_self`, `readHierarchy_append` and `readParts_eq` read a text that has such names between its
  marks.
-/

namespace ShardMerge.Url

open Text

variable {set : PercentSet} {c : Char} {text name part : List Char} {bytes : List UInt8}

/-! ## Bytes -/

/-- A text writes each of some bytes as a percent sign and two digits in either case. -/
inductive WritesBytes : List Char → List UInt8 → Prop
  | nil : WritesBytes [] []
  | cons {high low : Char} {x y : Nat} {text : List Char} {bytes : List UInt8}
    (hhigh : Json.hexValue? high = some x) (hlow : Json.hexValue? low = some y)
    (h : WritesBytes text bytes) :
    WritesBytes ('%' :: high :: low :: text) (UInt8.ofNat (16 * x + y) :: bytes)

theorem WritesBytes.percentDecode_eq (h : WritesBytes text bytes) (rest : List Char) :
    percentDecode (text ++ rest) = bytes ++ percentDecode rest := by
  induction h with
  | nil => rfl
  | cons hhigh hlow _ ih =>
    simp only [List.cons_append, percentDecode, hhigh, hlow, ih]

theorem WritesBytes.length_eq (h : WritesBytes text bytes) : text.length = 3 * bytes.length := by
  induction h with
  | nil => rfl
  | cons _ _ _ ih =>
    simp only [List.length_cons]
    omega

theorem WritesBytes.eq_or_isSome_of_mem (h : WritesBytes text bytes) (hc : c ∈ text) :
    c = '%' ∨ (Json.hexValue? c).isSome = true := by
  induction h with
  | nil => cases hc
  | cons hhigh hlow _ ih =>
    simp only [List.mem_cons] at hc
    rcases hc with rfl | rfl | rfl | hc
    · exact .inl rfl
    · exact .inr (by rw [hhigh]; rfl)
    · exact .inr (by rw [hlow]; rfl)
    · exact ih hc

theorem hexValue?_toUpper_digitChar {n : Nat} (h : n < 16) :
    Json.hexValue? (Nat.digitChar n).toUpper = some n := by
  revert n
  decide

theorem writesBytes_flatMap (bytes : List UInt8) :
    WritesBytes (bytes.flatMap fun b => '%' :: hexByte b) bytes := by
  induction bytes with
  | nil => exact .nil
  | cons b bytes ih =>
    have hb := b.toNat_lt
    have hhigh := hexValue?_toUpper_digitChar (n := b.toNat / 16) (by omega)
    have hlow := hexValue?_toUpper_digitChar (n := b.toNat % 16) (by omega)
    have hvalue : UInt8.ofNat (16 * (b.toNat / 16) + b.toNat % 16) = b := by
      rw [Nat.div_add_mod, UInt8.ofNat_toNat]
    have hcons := WritesBytes.cons hhigh hlow ih
    rwa [hvalue] at hcons

/-! ## Names -/

/-- A character stands for itself in a part of a URL. -/
structure StandsFor (set : PercentSet) (c : Char) : Prop where
  printable : 32 < c.toNat
  allowed : c ∉ set
  ne_percent : c ≠ '%'
  ne_slash : c ≠ '/'

/-- A text stands for a name in a part of a URL. -/
inductive Denotes (set : PercentSet) : List Char → List Char → Prop
  | nil : Denotes set [] []
  | kept {c : Char} {text name : List Char} (hc : StandsFor set c) (h : Denotes set text name) :
    Denotes set (c :: text) (c :: name)
  | encoded {c : Char} {written text name : List Char}
    (hc : WritesBytes written (String.utf8EncodeChar c)) (h : Denotes set text name) :
    Denotes set (written ++ text) (c :: name)

theorem percentDecode_cons (hc : c ≠ '%') (text : List Char) :
    percentDecode (c :: text) = String.utf8EncodeChar c ++ percentDecode text := by
  rw [percentDecode]
  intro _ _ _ hpercent
  exact absurd hpercent hc

theorem Denotes.percentDecode_eq (h : Denotes set text name) :
    percentDecode text = name.flatMap String.utf8EncodeChar := by
  induction h with
  | nil => rfl
  | kept hc _ ih => rw [percentDecode_cons hc.ne_percent, ih, List.flatMap_cons]
  | encoded hc _ ih => rw [hc.percentDecode_eq, ih, List.flatMap_cons]

theorem textOfBytes?_flatMap (name : List Char) :
    textOfBytes? (name.flatMap String.utf8EncodeChar) = some (.ofList name) := by
  have hbytes : (⟨(name.flatMap String.utf8EncodeChar).toArray⟩ : ByteArray) =
      (String.ofList name).toByteArray := by
    rw [← String.utf8Encode_toList, String.toList_ofList, List.utf8Encode]
    apply ByteArray.ext
    rw [List.data_toByteArray]
  rw [textOfBytes?, hbytes, String.fromUTF8?, dif_pos (String.isValidUTF8 _)]
  rfl

/-- The name is read back. -/
theorem Denotes.percentDecodeText?_eq (h : Denotes set text name) :
    percentDecodeText? text = some (.ofList name) := by
  rw [percentDecodeText?, h.percentDecode_eq, textOfBytes?_flatMap]

/-! ## Lengths -/

/-- A character that is encoded takes three characters or more. -/
theorem WritesBytes.three_le (h : WritesBytes text (String.utf8EncodeChar c)) :
    3 ≤ text.length := by
  have hbytes : 0 < (String.utf8EncodeChar c).length :=
    List.length_pos_iff.2 String.utf8EncodeChar_ne_nil
  have hlength := h.length_eq
  omega

/-- A name is no longer than what stands for it. -/
theorem Denotes.length_le (h : Denotes set text name) : name.length ≤ text.length := by
  induction h with
  | nil => exact Nat.le_refl 0
  | kept _ _ ih => exact Nat.succ_le_succ ih
  | encoded hc _ ih =>
    have hwritten := hc.three_le
    rw [List.length_append, List.length_cons]
    omega

/-- A text that is as short as its name is the name. -/
theorem Denotes.eq_of_length_le (h : Denotes set text name) (hlength : text.length ≤ name.length) :
    text = name := by
  induction h with
  | nil => rfl
  | kept _ _ ih => rw [ih (Nat.le_of_succ_le_succ hlength)]
  | encoded hc hrest _ =>
    have hwritten := hc.three_le
    have hle := hrest.length_le
    rw [List.length_append, List.length_cons] at hlength
    omega

theorem Denotes.length_eq_iff (h : Denotes set text name) :
    text.length = name.length ↔ text = name :=
  ⟨fun hlength => h.eq_of_length_le (Nat.le_of_eq hlength), congrArg List.length⟩

/-! ## What a URL keeps -/

theorem Denotes.standsFor_or_of_mem (h : Denotes set text name) (hc : c ∈ text) :
    StandsFor set c ∨ c = '%' ∨ (Json.hexValue? c).isSome = true := by
  induction h with
  | nil => cases hc
  | kept hkept _ ih =>
    rcases List.mem_cons.1 hc with rfl | hc
    · exact .inl hkept
    · exact ih hc
  | encoded hwritten _ ih =>
    rcases List.mem_append.1 hc with hc | hc
    · exact .inr (hwritten.eq_or_isSome_of_mem hc)
    · exact ih hc

/-- Neither the percent sign nor a digit is encoded. -/
def PercentSet.LeavesBytes (set : PercentSet) : Prop :=
  ∀ c ∈ set, c ≠ '%' ∧ Json.hexValue? c = none

instance (set : PercentSet) : Decidable set.LeavesBytes :=
  decidable_of_iff ((set.all fun c => c ≠ '%' && (Json.hexValue? c).isNone) = true) (by
    simp [PercentSet.LeavesBytes])

/-- What separates parts of a URL is not in a text that stands for a name. -/
theorem Denotes.not_mem (h : Denotes set text name)
    (hc : (c ∈ set ∨ c = '/') ∧ c ≠ '%' ∧ Json.hexValue? c = none) : c ∉ text := by
  obtain ⟨hset, hpercent, hdigit⟩ := hc
  intro hmem
  rcases h.standsFor_or_of_mem hmem with hkept | rfl | hhex
  · exact hset.elim hkept.allowed hkept.ne_slash
  · exact hpercent rfl
  · rw [hdigit] at hhex
    cases hhex

theorem bounds_of_hexValue? (h : (Json.hexValue? c).isSome = true) :
    32 < c.toNat ∧ c.toNat ≤ 126 := by
  have hbetween {a b : Char} (h : a ≤ c ∧ c ≤ b) (ha : 32 < a.toNat) (hb : b.toNat ≤ 126) :
      32 < c.toNat ∧ c.toNat ≤ 126 :=
    ⟨Nat.lt_of_lt_of_le ha h.1, Nat.le_trans h.2 hb⟩
  unfold Json.hexValue? at h
  split_ifs at h with hdigit hlower hupper
  · rw [Char.isDigit, Bool.and_eq_true, decide_eq_true_eq, decide_eq_true_eq] at hdigit
    exact hbetween (a := '0') (b := '9') hdigit (by decide) (by decide)
  · exact hbetween hlower (by decide) (by decide)
  · exact hbetween hupper (by decide) (by decide)
  · cases h

theorem percentEncodeChar_eq_self (hfirst : 32 ≤ c.toNat) (hlast : c.toNat ≤ 126) (hc : c ∉ set) :
    percentEncodeChar set c = [c] := by
  rw [percentEncodeChar, if_neg]
  rw [List.contains_iff_mem]
  exact not_or.2 ⟨Nat.not_lt.2 hfirst, not_or.2 ⟨Nat.not_lt.2 hlast, hc⟩⟩

theorem percentEncodeChar_eq_flatMap (h : 126 < c.toNat ∨ c ∈ set) :
    percentEncodeChar set c = (String.utf8EncodeChar c).flatMap fun b => '%' :: hexByte b := by
  rw [percentEncodeChar, if_pos]
  rw [List.contains_iff_mem]
  exact .inr h

theorem Denotes.printable (h : Denotes set text name) (hc : c ∈ text) : 32 < c.toNat := by
  rcases h.standsFor_or_of_mem hc with hkept | rfl | hhex
  · exact hkept.printable
  · decide
  · exact (bounds_of_hexValue? hhex).1

/-- What is written for bytes is kept where neither the sign nor a digit is encoded. -/
theorem percentEncode_of_writesBytes (hset : set.LeavesBytes)
    (h : WritesBytes text bytes) : percentEncode set text = text := by
  have hkept : ∀ c ∈ text, percentEncodeChar set c = [c] := by
    intro c hc
    rcases h.eq_or_isSome_of_mem hc with rfl | hdigit
    · exact percentEncodeChar_eq_self (by decide) (by decide) fun hmem => (hset _ hmem).1 rfl
    · obtain ⟨hfirst, hlast⟩ := bounds_of_hexValue? hdigit
      refine percentEncodeChar_eq_self (Nat.le_of_lt hfirst) hlast fun hmem => ?_
      rw [(hset c hmem).2] at hdigit
      cases hdigit
  rw [percentEncode, List.flatMap_congr hkept, List.flatMap_singleton']

/-- A part of a URL stands for the name that it was written for. -/
theorem Denotes.percentEncode (hset : set.LeavesBytes)
    (h : Denotes set text name) : Denotes set (percentEncode set text) name := by
  induction h with
  | nil => exact .nil
  | @kept c text name hc _ ih =>
    rw [Url.percentEncode, List.flatMap_cons]
    by_cases hlast : c.toNat ≤ 126
    · rw [percentEncodeChar_eq_self (Nat.le_of_lt hc.printable) hlast hc.allowed]
      exact .kept hc ih
    · rw [percentEncodeChar_eq_flatMap (.inl (Nat.lt_of_not_le hlast))]
      exact .encoded (writesBytes_flatMap _) ih
  | @encoded c written text name hc _ ih =>
    rw [percentEncode_append, percentEncode_of_writesBytes hset hc]
    exact .encoded hc ih

/-- Each name can be written, with no more encoded than has to be. -/
theorem denotes_percentEncode (hspace : ' ' ∈ set) (name : List Char) :
    Denotes set (percentEncode ('%' :: '/' :: set) name) name := by
  induction name with
  | nil => exact .nil
  | cons c name ih =>
    rw [percentEncode, List.flatMap_cons, percentEncodeChar]
    split
    · exact .encoded (writesBytes_flatMap _) ih
    · rename_i hkept
      rw [List.contains_iff_mem, List.mem_cons, List.mem_cons] at hkept
      simp only [not_or] at hkept
      obtain ⟨hcontrol, _, hpercent, hslash, hallowed⟩ := hkept
      have hblank : c.toNat ≠ 32 := by
        intro hc
        have hc' : c = ' ' := Char.toNat_inj.1 hc
        exact hallowed (hc' ▸ hspace)
      exact .kept ⟨by omega, hallowed, hpercent, hslash⟩ ih

/-! ## Reading -/

/-- A text without blanks and control characters is kept as it is. -/
theorem clean_eq_self (h : ∀ c ∈ text, 32 < c.toNat) : clean text = text := by
  have hkept : ∀ c ∈ text, decide (c.toNat ≤ 32) = false := by
    intro c hc
    have hprintable := h c hc
    simp only [decide_eq_false_iff_not]
    omega
  have hfront : text.dropWhile (·.toNat ≤ 32) = text := by
    cases text with
    | nil => rfl
    | cons c rest => rw [List.dropWhile_cons_of_neg (by simp [hkept c List.mem_cons_self])]
  have hback : dropEndWhile (·.toNat ≤ 32) text = text :=
    dropEndWhile_eq_self fun c hc => hkept c (List.mem_of_getLast? hc)
  rw [clean, hfront, hback, List.filter_eq_self]
  intro c hc
  have hprintable := h c hc
  simp only [Bool.and_eq_true, bne_iff_ne]
  refine ⟨⟨?_, ?_⟩, ?_⟩
  all_goals
    rintro rfl
    exact absurd hprintable (by decide)

/-- A scheme without rules of its own has no separator but the slash. -/
theorem isSlash_eq_false (hslash : '/' ∉ text) :
    ∀ c ∈ text, SchemeKind.isSlash .general c = false := by
  intro c hc
  simp only [SchemeKind.isSlash, Bool.or_eq_false_iff, decide_eq_false_iff_not]
  exact ⟨fun h => hslash (h ▸ hc), rfl⟩

/-- A part of a path that is read from its text; dots stand for a directory. -/
def pathPart (part : List Char) : List Char :=
  if isSingleDot part || isDoubleDot part then [] else part

theorem addParts_singleton (part : List Char) :
    addParts .general [] [part] = [pathPart part] := by
  simp only [addParts, addPart, pathPart, shorten]
  cases isDoubleDot part with
  | true => simp
  | false => cases isSingleDot part <;> simp

theorem readParts_eq (hslash : '/' ∉ text) :
    readParts .general text = [pathPart (percentEncode .path text)] := by
  rw [readParts, splitWhen_eq_singleton (isSlash_eq_false hslash), List.map_singleton,
    addParts_singleton]

theorem length_le_of_dots (h : (isSingleDot part || isDoubleDot part) = true) :
    part.length ≤ 6 := by
  have hshort : ∀ dots ∈ [".", "%2e", "..", ".%2e", "%2e.", "%2e%2e"].map String.toList,
      dots.length ≤ 6 := by decide
  rw [Bool.or_eq_true, isSingleDot, isDoubleDot, decide_eq_true_eq, decide_eq_true_eq] at h
  rw [← List.length_map Char.toLower]
  exact hshort _ (List.mem_append.2 h)

/-- What stands between two slashes and the next one is the authority, and the rest is the path. -/
theorem readHierarchy_append [DomainNames] {kind : SchemeKind} {usual : Option UInt16}
    {authority : Authority} {rest : List Char} (hkind : kind ≠ .file) (htext : ∀ c ∈ text, kind.isSlash c = false)
    (hne : text ≠ []) (hmark : text ≠ ['@']) (hrest : ∀ c ∈ rest.head?, kind.isSlash c = true)
    (hread : readAuthority kind usual text = .ok authority) (more : Bool) :
    readHierarchy kind usual more ('/' :: '/' :: (text ++ rest)) =
      .ok (some authority, readPath kind rest) := by
  have hnone : ∀ c ∈ text, (!kind.isSlash c) = true := fun c hc => by rw [htext c hc]; rfl
  have hcut : rest.takeWhile (fun c => !kind.isSlash c) = [] ∧
      rest.dropWhile (fun c => !kind.isSlash c) = rest := by
    cases rest with
    | nil => exact ⟨rfl, rfl⟩
    | cons c rest => simp [hrest c rfl]
  have htake : (text ++ rest).takeWhile (fun c => !kind.isSlash c) = text := by
    rw [List.takeWhile_append_of_pos hnone, hcut.1, List.append_nil]
  have hdrop : (text ++ rest).dropWhile (fun c => !kind.isSlash c) = rest := by
    rw [List.dropWhile_append_of_pos hnone, hcut.2]
  have hslashes : ('/' :: '/' :: (text ++ rest)).dropWhile kind.isSlash = text ++ rest := by
    obtain ⟨c, more, rfl⟩ := List.exists_cons_of_ne_nil hne
    have hslash : kind.isSlash '/' = true := by cases kind <;> decide
    simp [hslash, htext c List.mem_cons_self]
  unfold readHierarchy
  cases kind with
  | file => exact absurd rfl hkind
  | special => simp only [hslashes, htake, hdrop, hmark, false_and, if_false, hread, ok_bind]
  | general => simp only [htake, hdrop, hmark, false_and, if_false, hread, ok_bind]

end ShardMerge.Url
