import ShardMerge.Proofs.Text.Lowercase
import ShardMerge.Proofs.Url.Address
import ShardMerge.Proofs.Url.Percent

/-!
# Written hosts

The hosts that reading a URL leaves, and how they are read back.

* `Host.Settled` says which hosts are left by the two ways to read one: names without the characters
  that no host has, and addresses in their bounds.  `Host.settled_of_read` is that they are.
* `Host.Settled.read_write` reads such a host back from what a URL shows.  The name of a domain has
  been decoded and written in ASCII, and neither changes it again: `readDomain_eq`.
* Lower case and labels in ASCII are a lawful way to write domains in ASCII: `Label.toAscii_labels`.
* `Host.Settled.takeHost_write` finds the host before a port, and `Host.Settled.standsInside` says
  that it can be seen, and that nothing in it separates parts of a URL.
-/

namespace ShardMerge.Url

open Text

variable {c : Char} {s text : List Char} {kind : SchemeKind} {host : Host}

/-- What ends an authority, and the mark before a host. -/
def separators : List Char := ['#', '/', '?', '@', '\\']

/-- The character can be seen, and does not separate parts of a URL. -/
structure StandsInside (c : Char) : Prop where
  printable : 32 < c.toNat
  ascii : c.toNat ≤ 126
  not_separator : c ∉ separators

theorem StandsInside.ne (h : StandsInside c) {mark : Char} (hmark : mark ∈ separators) : c ≠ mark :=
  fun hc => h.not_separator (hc ▸ hmark)

theorem standsInside_of_hexValue? (h : (Json.hexValue? c).isSome = true) : StandsInside c := by
  have hleaves : PercentSet.LeavesBytes separators := by decide
  obtain ⟨hfirst, hlast⟩ := bounds_of_hexValue? h
  exact ⟨hfirst, hlast, (hleaves.allows (.inr h)).2.2⟩

theorem isSome_hexValue? (h : c.isDigit = true) : (Json.hexValue? c).isSome = true := by
  rw [Json.hexValue?, if_pos h]
  rfl

/-! ## Labels of a domain -/

namespace Label

/-- A label in ASCII needs no other form. -/
theorem toAscii_of_ascii (h : ∀ c ∈ s, c.toNat < 128) : toAscii s = s := by
  have hbasic : s.filter (·.toNat < 128) = s :=
    List.filter_eq_self.2 fun c hc => decide_eq_true (h c hc)
  rw [toAscii, hbasic, if_pos rfl]

/-- The character is in ASCII, and not in upper case. -/
structure IsPlain (c : Char) : Prop where
  ascii : c.toNat < 128
  lower : c.toLower = c

theorem isPlain_of_isDigit (h : c.isDigit = true) : IsPlain c := by
  have hascii : c.toNat < 128 :=
    Nat.lt_of_le_of_lt (bounds_of_hexValue? (isSome_hexValue? h)).2 (by decide)
  have hlower : c.isDigit = true → c.toLower = c :=
    of_ascii (P := fun c => c.isDigit = true → c.toLower = c) (by decide) hascii
  exact ⟨hascii, hlower h⟩

theorem isPlain_dot : IsPlain '.' := ⟨by decide, by decide⟩

/-- Digits of base 36. -/
def AreDigits (s : List Char) : Prop := ∀ c ∈ s, ∃ n < 36, c = digitChar n

theorem threshold_le (bias place : Nat) : threshold bias place ≤ 26 := by
  unfold threshold
  split
  · omega
  · split <;> omega

theorem areDigits_writeDelta (bias fuel place q : Nat) :
    AreDigits (writeDelta bias fuel place q) := by
  have ht := threshold_le bias
  induction fuel generalizing place q with
  | zero => nofun
  | succ fuel ih =>
    have hplace := ht place
    rw [writeDelta]
    split
    · rename_i hsmall
      rw [AreDigits, List.forall_mem_singleton]
      exact ⟨q, by omega, rfl⟩
    · have hdigit := Nat.mod_lt (q - threshold bias place) (y := 36 - threshold bias place) (by omega)
      rw [AreDigits, List.forall_mem_cons]
      exact ⟨⟨_, by omega, rfl⟩, ih _ _⟩

/-- A character that is passed adds digits at most. -/
theorem areDigits_pass {next : Nat} {scan : Scan} (h : AreDigits scan.output) (n : Nat) :
    AreDigits (scan.pass next n).output := by
  unfold Scan.pass
  split
  · exact h
  · split
    · exact List.forall_mem_append.2 ⟨h, areDigits_writeDelta _ _ _ _⟩
    · exact h

theorem areDigits_insertAll {label : List Nat} {scan : Scan} (h : AreDigits scan.output)
    (fuel done : Nat) : AreDigits (insertAll label fuel done scan).output := by
  induction fuel generalizing done scan with
  | zero => exact h
  | succ fuel ih =>
    rw [insertAll]
    split
    · exact h
    · rename_i next _
      refine ih ?_ _
      refine List.foldlRecOn (motive := fun scan : Scan => AreDigits scan.output) label _ ?_ ?_
      · exact h
      · intro scan hscan n _
        exact areDigits_pass hscan n

/-- The other form is in ASCII, and has nothing in upper case either. -/
theorem isPlain_of_mem_toAscii (h : ∀ c ∈ s, c.toLower = c) (hc : c ∈ toAscii s) : IsPlain c := by
  have hdigits : ∀ n < 36, (digitChar n).toNat < 128 ∧ (digitChar n).toLower = digitChar n := by
    decide
  have hstart (handled : Nat) : AreDigits ({ handled } : Scan).output := nofun
  have hbasic : ∀ c ∈ s.filter (·.toNat < 128), IsPlain c := fun c hc =>
    ⟨of_decide_eq_true (List.mem_filter.1 hc).2, h c (List.mem_of_mem_filter hc)⟩
  unfold toAscii at hc
  simp only at hc
  split at hc
  · rename_i hlength
    rw [← List.filter_eq_self.2 (List.length_filter_eq_length_iff.1 hlength)] at hc
    exact hbasic c hc
  · rw [List.mem_append, List.mem_append] at hc
    rcases hc with (hc | hc) | hc
    · have hmark : c ∈ ['x', 'n', '-'] := by simpa using hc
      rcases List.mem_cons.1 hmark with rfl | hmark
      · exact ⟨by decide, by decide⟩
      · rcases List.mem_pair.1 hmark with rfl | rfl
        all_goals exact ⟨by decide, by decide⟩
    · split at hc
      · cases hc
      · rcases List.mem_append.1 hc with hc | hc
        · exact hbasic c hc
        · rw [List.mem_singleton.1 hc]
          exact ⟨by decide, by decide⟩
    · obtain ⟨n, hn, rfl⟩ := areDigits_insertAll (hstart _) _ _ c hc
      exact ⟨(hdigits n hn).1, (hdigits n hn).2⟩

/-- Lower case and labels in ASCII change nothing in a domain that has both. -/
theorem toAscii_labels (h : ∀ c ∈ text, IsPlain c) :
    join ['.'] ((splitWhen (· = '.') (lowercase text)).map toAscii) = text := by
  have hlower : lowercase text = text := by
    rw [lowercase_ascii fun c hc => (h c hc).ascii,
      List.map_congr_left fun c hc => (h c hc).lower, List.map_id']
  have hlabel : ∀ label ∈ splitWhen (· = '.') text, toAscii label = label :=
    fun label hlabel => toAscii_of_ascii fun c hc => (h c (of_mem_splitWhen hlabel hc).1).ascii
  rw [hlower, List.map_congr_left hlabel, List.map_id', join_splitWhen]

end Label

instance : LawfulDomainNames where
  toAscii?_toAscii? := by
    intro domain text h
    have htext : ∀ c ∈ text, Label.IsPlain c := by
      intro c hc
      rw [← Option.some.inj h] at hc
      rcases mem_of_mem_join hc with hdot | ⟨_, hlabel, hc⟩
      · exact List.mem_singleton.1 hdot ▸ Label.isPlain_dot
      · obtain ⟨label, hmem, rfl⟩ := List.mem_map.1 hlabel
        exact Label.isPlain_of_mem_toAscii
          (fun c hc => toLower_of_mem_lowercase (of_mem_splitWhen hmem hc).1) hc
    change some _ = some text
    rw [String.toList_ofList, Label.toAscii_labels htext]
  toAscii?_numbers := by
    intro text h
    change some _ = some text
    rw [String.toList_ofList, Label.toAscii_labels]
    intro c hc
    rcases h c hc with hdigit | rfl
    · exact Label.isPlain_of_isDigit hdigit
    · exact Label.isPlain_dot

namespace Host

/-! ## Characters of hosts -/

/-- The character stands for itself in the name of a host. -/
structure IsNameChar (c : Char) : Prop where
  printable : 32 < c.toNat
  ascii : c.toNat ≤ 126
  allowed : c ∉ forbidden

/-- The character stands for itself in the name of a domain. -/
structure IsDomainChar (c : Char) : Prop extends IsNameChar c where
  ne_percent : c ≠ '%'

theorem IsNameChar.standsInside (h : IsNameChar c) : StandsInside c := by
  have hforbidden : separators ⊆ forbidden := by decide
  exact ⟨h.printable, h.ascii, fun hc => h.allowed (hforbidden hc)⟩

theorem IsNameChar.ne (h : IsNameChar c) {mark : Char} (hmark : mark ∈ forbidden) : c ≠ mark :=
  fun hc => h.allowed (hc ▸ hmark)

theorem isNameChar_of_hexValue? (h : (Json.hexValue? c).isSome = true) : IsNameChar c := by
  have hleaves : PercentSet.LeavesBytes forbidden := by decide
  obtain ⟨hfirst, hlast⟩ := bounds_of_hexValue? h
  exact ⟨hfirst, hlast, (hleaves.allows (.inr h)).2.2⟩

theorem isDomainChar_of_isDigit (h : c.isDigit = true) : IsDomainChar c :=
  ⟨isNameChar_of_hexValue? (isSome_hexValue? h), ne_of_isDigit h (by decide)⟩

theorem mem_write_ipv4 {n : Nat} (h : c ∈ (ipv4 n).write) : c.isDigit = true ∨ c = '.' := by
  rcases mem_of_mem_join h with hdot | ⟨digits, hdigits, hc⟩
  · exact .inr (List.mem_singleton.1 hdot)
  · obtain ⟨part, _, rfl⟩ := List.mem_map.1 hdigits
    exact .inl (Json.isDigit_of_mem_toDigits hc)

theorem isDomainChar_of_mem_write_ipv4 {n : Nat} (h : c ∈ (ipv4 n).write) : IsDomainChar c := by
  rcases mem_write_ipv4 h with hdigit | rfl
  · exact isDomainChar_of_isDigit hdigit
  · exact ⟨⟨by decide, by decide, by decide⟩, by decide⟩

theorem mem_writeIpv6 {groups : List Nat} (h : c ∈ writeIpv6 groups) :
    c = ':' ∨ (Json.hexValue? c).isSome = true := by
  unfold writeIpv6 at h
  simp only at h
  split at h
  · exact mem_writeGroups h
  · rw [List.mem_append, List.mem_append] at h
    rcases h with (h | h) | h
    · exact mem_writeGroups h
    · exact .inl (by simpa using h)
    · exact mem_writeGroups h

/-- The characters of a domain name that has been checked. -/
theorem isDomainChar_of_checked (h : ¬text.any (fun c =>
    c.toNat < 33 || 126 < c.toNat || c = '%' || forbidden.contains c) = true) :
    ∀ c ∈ text, IsDomainChar c := by
  intro c hc
  have hpasses : ¬(c.toNat < 33 || 126 < c.toNat || c = '%' || forbidden.contains c) = true :=
    fun hbad => h (List.any_eq_true.2 ⟨c, hc, hbad⟩)
  simp only [Bool.or_eq_true, decide_eq_true_eq, List.contains_iff_mem, not_or, Nat.not_lt]
    at hpasses
  obtain ⟨⟨⟨hfirst, hlast⟩, hpercent⟩, hallowed⟩ := hpasses
  exact ⟨⟨hfirst, hlast, hallowed⟩, hpercent⟩

/-! ## Names and addresses read back -/

theorem readBracketed_write {groups : List Nat} (hlength : groups.length = 8)
    (hgroups : AreGroups groups) :
    readBracketed (writeIpv6 groups ++ [']']) = .ok (.ipv6 groups) := by
  unfold readBracketed
  rw [List.getLast?_concat, List.dropLast_concat]
  simp only [readIpv6?_writeIpv6 hlength hgroups]

theorem readOpaque_eq (hchars : ∀ c ∈ text, IsNameChar c) : readOpaque text = .ok (.name text) := by
  have hforbidden : ¬text.any forbidden.contains = true := by
    intro hbad
    obtain ⟨c, hc, hbad⟩ := List.any_eq_true.1 hbad
    exact (hchars c hc).allowed (List.contains_iff_mem.1 hbad)
  have hkept : percentEncode .controls text = text :=
    percentEncode_of_allows fun c hc =>
      ⟨Nat.le_of_lt (hchars c hc).printable, (hchars c hc).ascii, List.not_mem_nil⟩
  unfold readOpaque
  split
  · exact absurd rfl ((hchars _ List.mem_cons_self).ne (by decide))
  · rw [if_neg hforbidden, hkept]

/-- Without percent signs a text stands for itself. -/
theorem percentDecodeText?_eq_self (h : '%' ∉ s) : percentDecodeText? s = some (.ofList s) := by
  rcases percentDecode_cases s with ⟨_, hdecode⟩ | ⟨⟨_, hsuffix, _⟩, _⟩
  · rw [percentDecodeText?, hdecode, textOfBytes?_flatMap]
  · exact absurd (hsuffix.mem List.mem_cons_self) h

/-- What comes first on the way to the colon before a port. -/
theorem takeHost_append {inside : Bool} (h : ∀ c ∈ s, c ≠ '[' ∧ c ≠ ']' ∧ (c = ':' → inside = true))
    (rest : List Char) :
    takeHost inside (s ++ rest) =
      (s ++ (takeHost inside rest).1, (takeHost inside rest).2) := by
  induction s with
  | nil => rfl
  | cons c s ih =>
    rw [List.forall_mem_cons] at h
    obtain ⟨⟨hopen, hclose, hcolon⟩, hs⟩ := h
    have hgoes : ¬(c = ':' ∧ (!inside) = true) := by
      rintro ⟨hc, houtside⟩
      rw [hcolon hc] at houtside
      cases houtside
    rw [List.cons_append, takeHost, if_neg hgoes, if_neg hopen, if_neg hclose, ih hs]
    rfl

theorem takeHost_port {port : List Char} (h : ∀ c ∈ port.head?, c = ':') :
    takeHost false port = ([], port) := by
  cases port with
  | nil => rfl
  | cons c port =>
    rw [h c rfl]
    rfl

/-! ## What is left -/

variable [DomainNames]

/-- The ASCII form of a domain, in which every character stands for itself. -/
structure IsDomain (text : List Char) : Prop where
  chars : ∀ c ∈ text, IsDomainChar c
  exists_domain : ∃ domain, DomainNames.toAscii? domain = some text

theorem isDomain_write_ipv4 [LawfulDomainNames] (n : Nat) : IsDomain (ipv4 n).write :=
  ⟨fun _ => isDomainChar_of_mem_write_ipv4,
    _, LawfulDomainNames.toAscii?_numbers fun _ => mem_write_ipv4⟩

/-- A host as reading a URL leaves it. -/
inductive Settled (kind : SchemeKind) : Host → Prop
  | name {text : List Char} (hne : text ≠ []) (hchars : ∀ c ∈ text, IsNameChar c)
    (hdomain : kind.isSpecial = true → IsDomain text ∧ endsInNumber text = false) :
    Settled kind (.name text)
  | ipv4 {n : Nat} (hspecial : kind.isSpecial = true) (hlt : n < 2 ^ 32) : Settled kind (.ipv4 n)
  | ipv6 {groups : List Nat} (hlength : groups.length = 8) (hgroups : AreGroups groups) :
    Settled kind (.ipv6 groups)

/-- Reads a host as a kind of scheme does. -/
def read (kind : SchemeKind) (s : List Char) : Except UrlError Host :=
  if kind.isSpecial then if s.isEmpty then .error .emptyHost else readDomain s else readOpaque s

theorem settled_of_readBracketed (h : readBracketed s = .ok host) : host.Settled kind := by
  unfold readBracketed at h
  split at h
  · split at h
    · rename_i groups hgroups
      obtain ⟨hlength, hlt⟩ := isGroups_of_readIpv6? hgroups
      rw [← Except.ok.inj h]
      exact .ipv6 hlength hlt
    · cases h
  · cases h

theorem settled_of_readOpaque (h : readOpaque s = .ok host) (hhost : host ≠ .name []) :
    host.Settled .general := by
  have hspecial : SchemeKind.isSpecial .general ≠ true := by decide
  unfold readOpaque at h
  split at h
  · exact settled_of_readBracketed h
  · split at h
    · cases h
    · rename_i hforbidden
      rw [← Except.ok.inj h] at hhost ⊢
      refine .name (fun hnil => hhost (congrArg _ hnil)) (fun c hc => ?_)
        fun hkind => absurd hkind hspecial
      rcases mem_percentEncode hc with ⟨hmem, hallowed⟩ | rfl | hdigit
      · have hc' : c ∉ forbidden := fun hbad =>
          hforbidden (List.any_eq_true.2 ⟨c, hmem, List.contains_iff_mem.2 hbad⟩)
        have hspace : c.toNat ≠ 32 := by
          intro hspace
          obtain rfl : c = ' ' := Char.toNat_inj.1 hspace
          exact hc' (by decide)
        exact ⟨Nat.lt_of_le_of_ne hallowed.1 (Ne.symm hspace), hallowed.2.1, hc'⟩
      · exact ⟨by decide, by decide, by decide⟩
      · exact isNameChar_of_hexValue? hdigit

theorem settled_of_readDomain (hkind : kind.isSpecial = true)
    (h : readDomain s = .ok host) : host.Settled kind := by
  unfold readDomain at h
  split at h
  · exact settled_of_readBracketed h
  · split at h
    · cases h
    · rename_i text htext
      obtain ⟨domain, _, hascii⟩ := Option.bind_eq_some_iff.1 htext
      split at h
      · cases h
      · rename_i hchecked
        have hchars := isDomainChar_of_checked hchecked
        split at h
        · cases h
        · rename_i hempty
          split at h
          · split at h
            · rename_i hread
              rw [← Except.ok.inj h]
              exact .ipv4 hkind (lt_of_readIpv4? hread)
            · cases h
          · rename_i hnumber
            rw [← Except.ok.inj h]
            refine .name (by simpa using hempty) (fun c hc => (hchars c hc).toIsNameChar) fun _ => ?_
            exact ⟨⟨hchars, domain, hascii⟩, by simpa using hnumber⟩

/-- A host that is named is settled once it has been read. -/
theorem settled_of_read (h : read kind s = .ok host) (hhost : host ≠ .name []) :
    host.Settled kind := by
  unfold read at h
  split at h
  · rename_i hspecial
    split at h
    · cases h
    · exact settled_of_readDomain hspecial h
  · rename_i hgeneral
    obtain rfl : kind = .general := by cases kind <;> simp_all [SchemeKind.isSpecial]
    exact settled_of_readOpaque h hhost

/-! ## Reading back -/

/-- A domain in ASCII is read without a change. -/
theorem readDomain_eq [LawfulDomainNames] (hne : text ≠ []) (h : IsDomain text) :
    readDomain text =
      if endsInNumber text then
        match readIpv4? text with
        | some address => .ok (.ipv4 address)
        | none => .error .invalidIpv4
      else .ok (.name text) := by
  have hchecked : ¬text.any (fun c =>
      c.toNat < 33 || 126 < c.toNat || c = '%' || forbidden.contains c) = true := by
    intro hbad
    obtain ⟨c, hc, hbad⟩ := List.any_eq_true.1 hbad
    have hchar := h.chars c hc
    simp only [Bool.or_eq_true, decide_eq_true_eq, List.contains_iff_mem] at hbad
    rcases hbad with ((hfirst | hlast) | hpercent) | hbad
    · exact absurd hchar.printable (by omega)
    · exact absurd hchar.ascii (by omega)
    · exact hchar.ne_percent hpercent
    · exact hchar.allowed hbad
  unfold readDomain
  split
  · exact absurd rfl ((h.chars _ List.mem_cons_self).ne (by decide))
  · rw [percentDecodeText?_eq_self fun hpercent => (h.chars _ hpercent).ne_percent rfl]
    obtain ⟨domain, hdomain⟩ := h.exists_domain
    simp only [Option.bind_some, LawfulDomainNames.toAscii?_toAscii? hdomain]
    exact (if_neg hchecked).trans (if_neg (by simpa using hne))

theorem Settled.write_ne_nil (h : host.Settled kind) : host.write ≠ [] := by
  cases h with
  | name hne _ _ => exact hne
  | ipv4 _ _ => simp [write, join]
  | ipv6 _ _ => exact List.cons_ne_nil _ _

theorem Settled.ne_name_nil (h : host.Settled kind) : host ≠ .name [] :=
  fun hname => h.write_ne_nil (congrArg write hname)

/-- A settled host is read back from what a URL shows. -/
theorem Settled.read_write [LawfulDomainNames] (h : host.Settled kind) :
    read kind host.write = .ok host := by
  have hne := h.write_ne_nil
  unfold read
  by_cases hspecial : kind.isSpecial = true
  · rw [if_pos hspecial, if_neg (by simpa using hne)]
    cases h with
    | name htext _ hdomain =>
      obtain ⟨hascii, hnumber⟩ := hdomain hspecial
      rw [write, readDomain_eq htext hascii, hnumber, if_neg Bool.false_ne_true]
    | ipv4 _ hlt =>
      rw [readDomain_eq hne (isDomain_write_ipv4 _), endsInNumber_write_ipv4, if_pos rfl,
        readIpv4?_write hlt]
    | ipv6 hlength hgroups => exact readBracketed_write hlength hgroups
  · rw [if_neg hspecial]
    cases h with
    | name _ hchars _ => exact readOpaque_eq hchars
    | ipv4 hkind _ => exact absurd hkind hspecial
    | ipv6 hlength hgroups => exact readBracketed_write hlength hgroups

/-- Nothing in a host separates parts of a URL. -/
theorem Settled.standsInside (h : host.Settled kind) (hc : c ∈ host.write) : StandsInside c := by
  cases h with
  | name _ hchars _ => exact (hchars c hc).standsInside
  | ipv4 _ _ => exact (isDomainChar_of_mem_write_ipv4 hc).standsInside
  | ipv6 _ _ =>
    rw [write, List.mem_cons, List.mem_append, List.mem_singleton] at hc
    rcases hc with rfl | hc | rfl
    · exact ⟨by decide, by decide, by decide⟩
    · rcases mem_writeIpv6 hc with rfl | hdigit
      · exact ⟨by decide, by decide, by decide⟩
      · exact standsInside_of_hexValue? hdigit
    · exact ⟨by decide, by decide, by decide⟩

/-! ## Before a port -/

/-- A host ends where the port begins. -/
theorem Settled.takeHost_write (h : host.Settled kind) {port : List Char}
    (hport : ∀ c ∈ port.head?, c = ':') :
    takeHost false (host.write ++ port) = (host.write, port) := by
  have hname {text : List Char} (hchars : ∀ c ∈ text, IsNameChar c) :
      takeHost false (text ++ port) = (text, port) := by
    have hmarks : ∀ c ∈ text, c ≠ '[' ∧ c ≠ ']' ∧ (c = ':' → false = true) := by
      intro c hc
      exact ⟨(hchars c hc).ne (by decide), (hchars c hc).ne (by decide),
        fun hcolon => absurd hcolon ((hchars c hc).ne (by decide))⟩
    rw [takeHost_append hmarks, takeHost_port hport, List.append_nil]
  cases h with
  | name _ hchars _ => exact hname hchars
  | ipv4 _ _ => exact hname fun c hc => (isDomainChar_of_mem_write_ipv4 hc).toIsNameChar
  | @ipv6 groups _ _ =>
    have hinside : ∀ c ∈ writeIpv6 groups, c ≠ '[' ∧ c ≠ ']' ∧ (c = ':' → true = true) := by
      intro c hc
      rcases mem_writeIpv6 hc with rfl | hdigit
      · decide
      · refine ⟨?_, ?_, fun _ => rfl⟩
        all_goals
          rintro rfl
          cases hdigit
    have hclose : takeHost true (']' :: port) = ([']'], port) := by
      rw [takeHost, if_neg (by decide), if_neg (by decide), if_pos rfl, takeHost_port hport]
    rw [write, List.cons_append, List.append_assoc, List.singleton_append, takeHost,
      if_neg (by decide), if_pos rfl, takeHost_append hinside, hclose]

end Host

end ShardMerge.Url
