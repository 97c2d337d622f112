import Mathlib.Algebra.Group.Nat.Defs
import ShardMerge.Proofs.Json.Literal
import ShardMerge.Proofs.Lists
import ShardMerge.Proofs.Text.Cut
import ShardMerge.Proofs.Text.Digits
import ShardMerge.Url.Host

/-!
# Written addresses

The addresses that a host can be, and how they are read back.

* `lt_of_readIpv4?` and `isGroups_of_readIpv6?` bound what is read: an address of version 4 has 32 bits,
  and one of version 6 has eight groups of 16 bits, whatever its spelling.
* `readIpv4?_write` and `readIpv6?_writeIpv6` read such an address back from its shortest form.
* `cutGap_writeGroups_append` finds the gap where it was put, as groups have no two colons in a row;
  `eq_append_longestGap` says that only zeros were left out there.
-/

namespace ShardMerge.Url.Host

open Text

variable {n : Nat} {c : Char} {s : List Char} {groups : List Nat}

/-! ## Addresses of version 4 -/

/-- Parts of eight bits take as many bits together. -/
theorem foldl_parts_lt {parts : List Nat} (h : ∀ part ∈ parts, part ≤ 255) (n : Nat) :
    parts.foldl (fun n part => n * 256 + part) n < (n + 1) * 256 ^ parts.length := by
  induction parts generalizing n with
  | nil => simp
  | cons part parts ih =>
    rw [List.forall_mem_cons] at h
    have hfirst : n * 256 + part + 1 ≤ (n + 1) * 256 := by omega
    calc (part :: parts).foldl (fun n part => n * 256 + part) n
        < (n * 256 + part + 1) * 256 ^ parts.length := ih h.2 _
      _ ≤ (n + 1) * 256 * 256 ^ parts.length := Nat.mul_le_mul_right _ hfirst
      _ = (n + 1) * 256 ^ (part :: parts).length := by
        rw [List.length_cons, Nat.pow_succ, Nat.mul_assoc, Nat.mul_comm 256]

theorem lt_of_readIpv4? (h : readIpv4? s = some n) : n < 2 ^ 32 := by
  unfold readIpv4? at h
  obtain ⟨numbers, _, h⟩ := Option.bind_eq_some_iff.1 h
  split at h
  · cases h
  · rename_i hlength
    obtain ⟨last, hlast, h⟩ := Option.bind_eq_some_iff.1 h
    have hpos : 0 < numbers.length := List.length_pos_iff.2 (List.ne_nil_of_mem
      (List.mem_of_getLast? hlast))
    simp only at h
    split at h
    · rename_i hparts
      obtain ⟨hleading, hlt⟩ := hparts
      have hbytes : ∀ part ∈ numbers.dropLast, part ≤ 255 := by simpa using hleading
      have hfold := foldl_parts_lt hbytes 0
      have hsum : numbers.dropLast.length + (4 - numbers.dropLast.length) = 4 := by
        rw [List.length_dropLast]
        omega
      generalize numbers.dropLast.foldl (fun n part => n * 256 + part) 0 = front at h hfold
      rw [Nat.zero_add, Nat.one_mul] at hfold
      change last < 256 ^ _ at hlt
      rw [← Option.some.inj h]
      calc front * 256 ^ (4 - numbers.dropLast.length) + last
          < (front + 1) * 256 ^ (4 - numbers.dropLast.length) := by
            rw [Nat.add_mul, Nat.one_mul]
            omega
        _ ≤ 256 ^ numbers.dropLast.length * 256 ^ (4 - numbers.dropLast.length) :=
            Nat.mul_le_mul_right _ hfold
        _ = 256 ^ 4 := by rw [← Nat.pow_add, hsum]
        _ = 2 ^ 32 := by decide
    · cases h

theorem readIpv4Number?_toDigits (n : Nat) : readIpv4Number? (Nat.toDigits 10 n) = some n := by
  have hdigits : (Nat.toDigits 10 n).all Char.isDigit = true :=
    List.all_eq_true.2 fun _ => Json.isDigit_of_mem_toDigits
  have hvalue := Nat.ofDigitChars_ten_toDigits (n := n)
  rcases Json.toDigits_cases n with hzero | ⟨c, r, hcons, hc⟩
  · rw [hzero] at hvalue ⊢
    exact congrArg some hvalue
  · rw [hcons] at hdigits hvalue ⊢
    unfold readIpv4Number?
    split
    case h_1 heq => cases heq
    case h_5 => rw [if_pos hdigits, hvalue]
    all_goals
      rename_i heq
      exact absurd (List.cons.inj heq).1 hc

/-- The four parts of an address. -/
def ipv4Parts (n : Nat) : List Nat := [n / 16777216, n / 65536 % 256, n / 256 % 256, n % 256]

theorem dotted_write_ipv4 (n : Nat) :
    dotted (ipv4 n).write = (ipv4Parts n).map (Nat.toDigits 10) := by
  have hdot : ∀ digits ∈ (ipv4Parts n).map (Nat.toDigits 10), ∀ c ∈ digits,
      decide (c = '.') = false := by
    intro digits hdigits c hc
    obtain ⟨part, _, rfl⟩ := List.mem_map.1 hdigits
    exact decide_eq_false (ne_of_isDigit (Json.isDigit_of_mem_toDigits hc) (by decide))
  have hsplit : splitWhen (· = '.') (ipv4 n).write = (ipv4Parts n).map (Nat.toDigits 10) :=
    splitWhen_join (by decide) (by simp) hdot
  rw [dotted, hsplit]
  exact if_neg fun h => Nat.toDigits_ne_nil (Option.some.inj h.1)

/-- Such a name has to be an address. -/
theorem endsInNumber_write_ipv4 (n : Nat) : endsInNumber (ipv4 n).write = true := by
  have hdigits : (Nat.toDigits 10 (n % 256)).all Char.isDigit = true :=
    List.all_eq_true.2 fun _ => Json.isDigit_of_mem_toDigits
  rw [endsInNumber, dotted_write_ipv4]
  simp only [ipv4Parts, List.map_cons, List.map_nil, List.getLast?_cons_cons,
    List.getLast?_singleton]
  split
  · rename_i heq
    cases heq
  · rename_i heq
    exact absurd (Option.some.inj heq) Nat.toDigits_ne_nil
  · rename_i heq
    rw [← Option.some.inj heq, hdigits, Bool.true_or]

theorem readIpv4?_write (h : n < 2 ^ 32) : readIpv4? (ipv4 n).write = some n := by
  have hnumbers : ((ipv4Parts n).map (Nat.toDigits 10)).mapM readIpv4Number? =
      some (ipv4Parts n) := by
    rw [mapM_map_eq_some fun part _ => readIpv4Number?_toDigits part, List.map_id']
  have hfirst : n / 16777216 ≤ 255 := by omega
  have hrest (m : Nat) : m % 256 ≤ 255 := by omega
  have hvalue : ((n / 16777216 * 256 + n / 65536 % 256) * 256 + n / 256 % 256) * 256 + n % 256 =
      n := by omega
  rw [readIpv4?, dotted_write_ipv4, hnumbers]
  simp [ipv4Parts, hfirst, hrest, Nat.mod_lt, hvalue]

/-! ## Hexadecimal groups -/

/-- The number of hexadecimal digits, after digits that stand for a number. -/
def readHex? (n : Nat) (s : List Char) : Option Nat :=
  s.foldlM (fun n c => (Json.hexValue? c).map (n * 16 + ·)) n

theorem readHex?_toDigits (n : Nat) : readHex? 0 (Nat.toDigits 16 n) = some n := by
  induction n using Nat.strongRecOn with
  | ind n ih =>
    rw [Nat.toDigits_eq_if (by decide)]
    split
    · rename_i hsmall
      simp [readHex?, Json.hexValue?_digitChar hsmall]
    · have hquotient := ih (n / 16) (by omega)
      have hdigit := Json.hexValue?_digitChar (Nat.mod_lt n (by decide : 0 < 16))
      rw [readHex?] at hquotient ⊢
      rw [List.foldlM_append, hquotient]
      simp [hdigit]
      omega

theorem isSome_of_mem_toDigits (h : c ∈ Nat.toDigits 16 n) : (Json.hexValue? c).isSome = true := by
  induction n using Nat.strongRecOn with
  | ind n ih =>
    rw [Nat.toDigits_eq_if (by decide)] at h
    split at h
    · rename_i hsmall
      rw [List.mem_singleton.1 h, Json.hexValue?_digitChar hsmall]
      rfl
    · rcases List.mem_append.1 h with h | h
      · exact ih (n / 16) (by omega) h
      · rw [List.mem_singleton.1 h, Json.hexValue?_digitChar (Nat.mod_lt n (by decide))]
        rfl

theorem not_mem_toDigits (hc : Json.hexValue? c = none) : c ∉ Nat.toDigits 16 n := by
  intro h
  have hsome := isSome_of_mem_toDigits h
  rw [hc] at hsome
  cases hsome

theorem hexValue?_lt {value : Nat} (h : Json.hexValue? c = some value) : value < 16 := by
  unfold Json.hexValue? at h
  split at h
  · rename_i hdigit
    have hbounds := toNat_of_isDigit hdigit
    have hzero : '0'.toNat = 48 := rfl
    rw [← Option.some.inj h]
    omega
  · split at h
    · rename_i hlower
      have hlast : c.toNat ≤ 'f'.toNat := hlower.2
      have hends : 'a'.toNat = 97 ∧ 'f'.toNat = 102 := ⟨rfl, rfl⟩
      rw [← Option.some.inj h]
      omega
    · split at h
      · rename_i hupper
        have hlast : c.toNat ≤ 'F'.toNat := hupper.2
        have hends : 'A'.toNat = 65 ∧ 'F'.toNat = 70 := ⟨rfl, rfl⟩
        rw [← Option.some.inj h]
        omega
      · cases h

theorem lt_of_readHex? {value : Nat} (h : readHex? n s = some value) :
    value < (n + 1) * 16 ^ s.length := by
  induction s generalizing n with
  | nil =>
    rw [← Option.some.inj h]
    simp
  | cons c s ih =>
    rw [readHex?, List.foldlM_cons] at h
    obtain ⟨next, hnext, h⟩ := Option.bind_eq_some_iff.1 h
    obtain ⟨digit, hdigit, rfl⟩ := Option.map_eq_some_iff.1 hnext
    have hlt := hexValue?_lt hdigit
    have hfirst : n * 16 + digit + 1 ≤ (n + 1) * 16 := by omega
    calc value < (n * 16 + digit + 1) * 16 ^ s.length := ih h
      _ ≤ (n + 1) * 16 * 16 ^ s.length := Nat.mul_le_mul_right _ hfirst
      _ = (n + 1) * 16 ^ (c :: s).length := by
        rw [List.length_cons, Nat.pow_succ, Nat.mul_assoc, Nat.mul_comm 16]

theorem readGroup?_toDigits (h : n < 65536) : readGroup? (Nat.toDigits 16 n) = some n := by
  have hlength : (Nat.toDigits 16 n).length ≤ 4 :=
    (Nat.length_toDigits_le_iff (by decide) (by decide)).2 h
  rw [readGroup?, if_neg]
  · exact readHex?_toDigits n
  · rw [List.isEmpty_iff]
    exact not_or.2 ⟨Nat.toDigits_ne_nil, Nat.not_lt.2 hlength⟩

theorem lt_of_readGroup? (h : readGroup? s = some n) : n < 65536 := by
  unfold readGroup? at h
  split at h
  · cases h
  · rename_i hlength
    have hlt := lt_of_readHex? (n := 0) h
    have hpow : 16 ^ s.length ≤ 16 ^ 4 :=
      Nat.pow_le_pow_right (by decide) (Nat.not_lt.1 (not_or.1 hlength).2)
    omega

theorem lt_of_readByte? (h : readByte? s = some n) : n < 256 := by
  unfold readByte? at h
  split at h
  · cases h
  · simp only at h
    split at h
    · rename_i hlt
      rwa [← Option.some.inj h]
    · cases h

/-! ## Groups -/

/-- Numbers of 16 bits. -/
def AreGroups (groups : List Nat) : Prop := ∀ group ∈ groups, group < 65536

theorem areGroups_of_readEmbedded? (h : readEmbedded? s = some groups) : AreGroups groups := by
  unfold readEmbedded? at h
  obtain ⟨bytes, hbytes, h⟩ := Option.bind_eq_some_iff.1 h
  split at h
  · rename_i a b c d
    have hlt : ∀ byte ∈ [a, b, c, d], byte < 256 := by
      intro byte hbyte
      obtain ⟨part, _, hpart⟩ := exists_of_mem_mapM hbytes hbyte
      exact lt_of_readByte? hpart
    simp only [List.forall_mem_cons] at hlt
    rw [← Option.some.inj h]
    simp only [AreGroups, List.forall_mem_cons]
    exact ⟨by omega, by omega, nofun⟩
  · cases h

theorem areGroups_of_readGroups? {parts : List (List Char)} (h : readGroups? parts = some groups) :
    AreGroups groups := by
  induction parts using readGroups?.induct generalizing groups with
  | case1 =>
    rw [← Option.some.inj h]
    nofun
  | case2 last hdot =>
    rw [readGroups?, if_pos hdot] at h
    exact areGroups_of_readEmbedded? h
  | case3 last hdot =>
    rw [readGroups?, if_neg hdot] at h
    obtain ⟨n, hn, rfl⟩ := Option.map_eq_some_iff.1 h
    simpa [AreGroups] using lt_of_readGroup? hn
  | case4 group rest hrest ih =>
    rw [readGroups?] at h
    · obtain ⟨n, hn, h⟩ := Option.bind_eq_some_iff.1 h
      obtain ⟨more, hmore, h⟩ := Option.bind_eq_some_iff.1 h
      rw [← Option.some.inj h]
      exact List.forall_mem_cons.2 ⟨lt_of_readGroup? hn, ih hmore⟩
    · exact hrest

theorem areGroups_of_readSide? (h : readSide? s = some groups) : AreGroups groups := by
  unfold readSide? at h
  split at h
  · rw [← Option.some.inj h]
    nofun
  · exact areGroups_of_readGroups? h

theorem readGroups?_map (h : AreGroups groups) :
    readGroups? (groups.map (Nat.toDigits 16)) = some groups := by
  induction groups with
  | nil => rfl
  | cons group rest ih =>
    obtain ⟨hgroup, hrest⟩ := List.forall_mem_cons.1 h
    have hread := readGroup?_toDigits hgroup
    cases rest with
    | nil =>
      have hdot : (Nat.toDigits 16 group).contains '.' = false := by
        rw [Bool.eq_false_iff, ne_eq, List.contains_iff_mem]
        exact not_mem_toDigits rfl
      rw [List.map_singleton, readGroups?, hdot, if_neg Bool.false_ne_true, hread]
      rfl
    | cons next rest =>
      rw [List.map_cons, readGroups?, hread, ih hrest]
      · rfl
      · nofun

theorem writeGroups_cons (h : groups ≠ []) (group : Nat) :
    writeGroups (group :: groups) = Nat.toDigits 16 group ++ ':' :: writeGroups groups := by
  rw [writeGroups, List.map_cons, join_cons (by simpa using h), List.append_assoc]
  rfl

theorem mem_writeGroups (h : c ∈ writeGroups groups) :
    c = ':' ∨ (Json.hexValue? c).isSome = true := by
  rcases mem_of_mem_join h with hcolon | ⟨digits, hdigits, hc⟩
  · exact .inl (List.mem_singleton.1 hcolon)
  · obtain ⟨_, _, rfl⟩ := List.mem_map.1 hdigits
    exact .inr (isSome_of_mem_toDigits hc)

/-- Groups begin with a digit. -/
theorem exists_writeGroups_cons (group : Nat) (groups : List Nat) :
    ∃ c rest, writeGroups (group :: groups) = c :: rest ∧ c ≠ ':' := by
  obtain ⟨c, digits, hcons⟩ := List.exists_cons_of_ne_nil (Nat.toDigits_ne_nil (b := 16) (n := group))
  have hc : c ≠ ':' := by
    rintro rfl
    exact not_mem_toDigits (n := group) (c := ':') rfl (hcons ▸ List.mem_cons_self)
  by_cases h : groups = []
  · subst h
    exact ⟨c, digits, hcons, hc⟩
  · exact ⟨c, _, by rw [writeGroups_cons h, hcons, List.cons_append], hc⟩

theorem readSide?_writeGroups (h : AreGroups groups) : readSide? (writeGroups groups) = some groups := by
  cases groups with
  | nil => rfl
  | cons group rest =>
    obtain ⟨c, more, hcons, _⟩ := exists_writeGroups_cons group rest
    have hcolon : ∀ digits ∈ (group :: rest).map (Nat.toDigits 16), ∀ c ∈ digits,
        decide (c = ':') = false := by
      intro digits hdigits c hc
      obtain ⟨_, _, rfl⟩ := List.mem_map.1 hdigits
      exact decide_eq_false fun hcolon => not_mem_toDigits rfl (hcolon ▸ hc)
    rw [readSide?, if_neg (by simp [hcons]), writeGroups,
      splitWhen_join (by decide) (by simp) hcolon, readGroups?_map h]

/-! ## The gap -/

theorem cutGap_append (h : ':' ∉ s) (t : List Char) :
    cutGap (s ++ t) = (cutGap t).map fun (before, after) => (s ++ before, after) := by
  induction s with
  | nil => simp
  | cons c s ih =>
    obtain ⟨hc, hs⟩ := not_or.1 (mt List.mem_cons.2 h)
    rw [List.cons_append, cutGap, ih hs, Option.map_map]
    · rfl
    · intro _ hcolon
      exact absurd hcolon.symm hc

/-- One colon makes no gap. -/
theorem cutGap_colon (hc : c ≠ ':') (t : List Char) :
    cutGap (':' :: c :: t) = (cutGap (c :: t)).map fun (before, after) => (':' :: before, after) := by
  rw [cutGap]
  intro _ _ hcolon
  exact hc (List.cons.inj hcolon).1

theorem cutGap_writeGroups_append (groups : List Nat) (t : List Char) :
    cutGap (writeGroups groups ++ t) =
      (cutGap t).map fun (before, after) => (writeGroups groups ++ before, after) := by
  have hdigits (n : Nat) : ':' ∉ Nat.toDigits 16 n := not_mem_toDigits rfl
  induction groups with
  | nil => simp [writeGroups, join]
  | cons group rest ih =>
    cases rest with
    | nil => exact cutGap_append (hdigits group) t
    | cons next rest =>
      obtain ⟨c, more, hcons, hc⟩ := exists_writeGroups_cons next rest
      rw [writeGroups_cons (by simp), List.append_assoc, List.cons_append,
        cutGap_append (hdigits group)]
      rw [hcons, List.cons_append] at ih ⊢
      rw [cutGap_colon hc, ih, Option.map_map, Option.map_map]
      simp [Function.comp_def]

/-- Only zeros are counted. -/
theorem eq_append_of_le_zeroRun (h : n ≤ zeroRun groups) :
    groups = List.replicate n 0 ++ groups.drop n := by
  induction n generalizing groups with
  | zero => simp
  | succ n ih =>
    cases groups with
    | nil => simp [zeroRun] at h
    | cons group rest =>
      by_cases hzero : group = 0
      · subst hzero
        have hrest : n ≤ zeroRun rest := by simpa [zeroRun] using h
        rw [List.replicate_succ, List.drop_succ_cons, List.cons_append, ← ih hrest]
      · simp [zeroRun, hzero] at h

theorem longestGap_le (groups : List Nat) :
    (longestGap groups).2 ≤ zeroRun (groups.drop (longestGap groups).1) := by
  unfold longestGap
  refine List.foldlRecOn (motive := fun best : Nat × Nat => best.2 ≤ zeroRun (groups.drop best.1))
    _ _ (Nat.zero_le _) fun best hbest i _ => ?_
  simp only
  split
  · exact Nat.le_refl _
  · exact hbest

/-- Zeros alone are left out. -/
theorem eq_append_longestGap (groups : List Nat) {place length : Nat}
    (h : longestGap groups = (place, length)) :
    groups = groups.take place ++ List.replicate length 0 ++ groups.drop (place + length) := by
  have hle := longestGap_le groups
  rw [h] at hle
  have hdrop := eq_append_of_le_zeroRun hle
  rw [List.drop_drop] at hdrop
  rw [List.append_assoc, ← hdrop, List.take_append_drop]

/-! ## Addresses of version 6 -/

theorem readIpv6?_writeGroups (hlength : groups.length = 8) (h : AreGroups groups) :
    readIpv6? (writeGroups groups) = some groups := by
  have hnone : cutGap (writeGroups groups) = none := by
    have hcut := cutGap_writeGroups_append groups []
    rwa [List.append_nil] at hcut
  rw [readIpv6?, hnone]
  simp only [readSide?_writeGroups h, Option.bind_eq_bind, Option.bind_some, if_pos hlength]

/-- A gap is filled with the zeros that are missing. -/
theorem readIpv6?_gap {before after : List Nat} (hbefore : AreGroups before)
    (hafter : AreGroups after) (hgiven : before.length + after.length < 8) :
    readIpv6? (writeGroups before ++ ':' :: ':' :: writeGroups after) =
      some (before ++ List.replicate (8 - (before.length + after.length)) 0 ++ after) := by
  have hsome : cutGap (writeGroups before ++ ':' :: ':' :: writeGroups after) =
      some (writeGroups before, writeGroups after) := by
    rw [cutGap_writeGroups_append]
    simp [cutGap]
  have hdot : (writeGroups before).contains '.' = false := by
    rw [Bool.eq_false_iff, ne_eq, List.contains_iff_mem]
    intro hmem
    rcases mem_writeGroups hmem with hcolon | hdigit
    · exact absurd hcolon (by decide)
    · exact absurd hdigit (by decide)
  rw [readIpv6?, hsome]
  simp only [hdot, Bool.false_eq_true, if_false, readSide?_writeGroups hbefore,
    readSide?_writeGroups hafter, Option.bind_eq_bind, Option.bind_some, if_pos hgiven]

/-- An address is read back from its shortest form. -/
theorem readIpv6?_writeIpv6 (hlength : groups.length = 8) (h : AreGroups groups) :
    readIpv6? (writeIpv6 groups) = some groups := by
  rcases hgap : longestGap groups with ⟨place, length⟩
  rw [writeIpv6, hgap]
  simp only
  split
  · exact readIpv6?_writeGroups hlength h
  · rename_i hlong
    have hgroups := eq_append_longestGap groups hgap
    have hsum := congrArg List.length hgroups
    simp only [List.length_append, List.length_replicate, hlength] at hsum
    have hread := readIpv6?_gap (fun group hmem => h group (List.mem_of_mem_take hmem))
      (fun group hmem => h group (List.mem_of_mem_drop hmem))
      (by omega : (groups.take place).length + (groups.drop (place + length)).length < 8)
    have hmissing :
        8 - ((groups.take place).length + (groups.drop (place + length)).length) = length := by omega
    rw [hmissing, ← hgroups] at hread
    rwa [List.append_assoc]

/-- What is read is eight groups. -/
theorem isGroups_of_readIpv6? (h : readIpv6? s = some groups) :
    groups.length = 8 ∧ AreGroups groups := by
  unfold readIpv6? at h
  split at h
  · obtain ⟨all, hall, h⟩ := Option.bind_eq_some_iff.1 h
    split at h
    · rename_i hlength
      rw [← Option.some.inj h]
      exact ⟨hlength, areGroups_of_readSide? hall⟩
    · cases h
  · split at h
    · cases h
    · obtain ⟨before, hbefore, h⟩ := Option.bind_eq_some_iff.1 h
      obtain ⟨after, hafter, h⟩ := Option.bind_eq_some_iff.1 h
      simp only at h
      split at h
      · rename_i hgiven
        rw [← Option.some.inj h]
        refine ⟨by simp; omega, fun group hmem => ?_⟩
        rw [List.mem_append, List.mem_append] at hmem
        rcases hmem with (hmem | hmem) | hmem
        · exact areGroups_of_readSide? hbefore group hmem
        · rw [List.eq_of_mem_replicate hmem]
          decide
        · exact areGroups_of_readSide? hafter group hmem
      · cases h

end ShardMerge.Url.Host
