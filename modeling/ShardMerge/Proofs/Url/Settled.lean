import ShardMerge.Proofs.Url.Authority
import ShardMerge.Proofs.Url.Path

/-!
# Written URLs

A URL that has been read and that names a host is read back from its text.

* `Url.Settled` says what reading leaves of each part.  `settled_of_ofText` is that nothing else is
  left, of whatever text.
* `Settled.ofText_toString` reads a settled URL back: no part has a mark in it that would end it, and
  what encoding, or a change to lower case, has made of a part is not changed again.
* `Settled.setPassword?` says that a password of any text can be put into a settled URL, as it is
  encoded on the way.
-/

namespace ShardMerge.Url

open Text

variable {c : Char} {s : List Char} {kind : SchemeKind} {usual : Option UInt16}

/-! ## Schemes -/

/-- A scheme as reading leaves it. -/
structure IsScheme (scheme : List Char) : Prop where
  head : ∃ c ∈ scheme.head?, c.isAlpha = true
  chars : ∀ c ∈ scheme, isSchemeChar c = true
  lower : ∀ c ∈ scheme, c.toLower = c

theorem toLower_of_isSchemeChar :
    (c.isAlpha = true → c.toLower.isAlpha = true) ∧
      (isSchemeChar c = true → isSchemeChar c.toLower = true) := by
  by_cases hc : c.toNat < 128
  · exact of_ascii (P := fun c => (c.isAlpha = true → c.toLower.isAlpha = true) ∧
      (isSchemeChar c = true → isSchemeChar c.toLower = true)) (by decide +kernel) hc
  · rw [toLower_eq_self (Nat.le_of_not_lt hc)]
    exact ⟨id, id⟩

theorem printable_of_isSchemeChar (h : isSchemeChar c = true) : 32 < c.toNat := by
  by_cases hc : c.toNat < 128
  · exact of_ascii (P := fun c => isSchemeChar c = true → 32 < c.toNat) (by decide) hc h
  · omega

theorem isScheme_of_takeScheme {scheme rest : List Char} (h : takeScheme s = some (scheme, rest)) :
    IsScheme scheme := by
  obtain ⟨front, _, ⟨c, hhead, halpha⟩, hchars, rfl⟩ := takeScheme_eq_some_iff.1 h
  refine ⟨⟨c.toLower, ?_, toLower_of_isSchemeChar.1 halpha⟩, ?_, ?_⟩
  · rw [List.head?_map, hhead]
    rfl
  · exact List.forall_mem_map.2 fun c hc => toLower_of_isSchemeChar.2 (hchars c hc)
  · exact List.forall_mem_map.2 fun c _ => toLower_toLower c

theorem IsScheme.takeScheme_append {scheme : List Char} (h : IsScheme scheme) (rest : List Char) :
    takeScheme (scheme ++ ':' :: rest) = some (scheme, rest) := by
  refine takeScheme_eq_some_iff.2 ⟨scheme, rfl, h.head, h.chars, ?_⟩
  rw [List.map_congr_left h.lower, List.map_id']

theorem ofScheme_ne_file {scheme : List Char} (h : scheme ≠ "file".toList) :
    SchemeKind.ofScheme scheme ≠ .file := by
  rw [SchemeKind.ofScheme, if_neg h]
  split <;> decide

/-! ## Queries and fragments -/

/-- The characters that a query does not allow. -/
def querySet (kind : SchemeKind) : PercentSet := if kind.isSpecial then .specialQuery else .query

theorem leavesBytes_querySet (kind : SchemeKind) : (querySet kind).LeavesBytes := by
  cases kind <;> decide

theorem mem_querySet (kind : SchemeKind) : ' ' ∈ querySet kind ∧ '#' ∈ querySet kind := by
  cases kind <;> decide

theorem of_mem_writeAfter {mark : Char} {part : Option (List Char)} (h : c ∈ writeAfter mark part) :
    c = mark ∨ ∃ text ∈ part, c ∈ text := by
  cases part with
  | none => cases h
  | some text => exact (List.mem_cons.1 h).imp_right fun hc => ⟨text, rfl, hc⟩

/-- The part after a mark, and what stands before it. -/
def cutPart (mark : Char) (set : PercentSet) (s : List Char) : List Char × Option (List Char) :=
  match cutFirst mark s with
  | some (before, part) => (before, some (percentEncode set part))
  | none => (s, none)

theorem cutQuery_eq (kind : SchemeKind) (s : List Char) :
    cutQuery kind s = cutPart '?' (querySet kind) s := rfl

theorem cutFragment_eq (s : List Char) : cutFragment s = cutPart '#' .fragment s := rfl

theorem cutPart_writeAfter {mark : Char} {set : PercentSet} {part : Option (List Char)}
    (hmark : mark ∉ s) (hpart : ∀ text ∈ part, ∀ c ∈ text, set.Allows c) :
    cutPart mark set (s ++ writeAfter mark part) = (s, part) := by
  unfold cutPart
  cases part with
  | none => rw [writeAfter, List.append_nil, cutFirst_eq_none_iff.2 hmark]
  | some text =>
    have hcut : cutFirst mark (s ++ mark :: text) = some (s, text) :=
      cutFirst_eq_some_iff.2 ⟨rfl, hmark⟩
    rw [writeAfter, hcut]
    simp only [percentEncode_of_allows (hpart text rfl)]

theorem allows_of_cutPart {mark : Char} {set : PercentSet} (hset : set.LeavesBytes) :
    ∀ text ∈ (cutPart mark set s).2, ∀ c ∈ text, set.Allows c := by
  unfold cutPart
  split
  · intro text htext c hc
    rw [← Option.some.inj htext] at hc
    exact allows_of_mem_percentEncode hset hc
  · nofun

/-! ## Hierarchies -/

variable [DomainNames]

theorem Authority.Settled.isSlash_eq_false {a : Authority} (h : a.Settled kind usual) :
    ∀ c ∈ a.write, kind.isSlash c = false := by
  have hslashes : ['/', '\\'] ⊆ separators := by decide
  intro c hc
  rcases h.standsInside hc with rfl | hinside
  · exact isSlash_of_not_separator (by decide)
  · exact isSlash_of_not_separator fun hc => hinside.not_separator (hslashes hc)

/-- Two slashes announce an authority, and the next one begins the path. -/
theorem Authority.Settled.readHierarchy_write [LawfulDomainNames] (hkind : kind ≠ .file)
    {a : Authority} (h : a.Settled kind usual) {path : UrlPath} (hpath : path.Settled kind)
    (more : Bool) :
    readHierarchy kind usual more ('/' :: '/' :: (a.write ++ path.write)) = .ok (some a, path) := by
  have hslash : ∀ c ∈ path.write.head?, kind.isSlash c = true := by
    intro c hc
    rw [hpath.head?_write c hc, isSlash_slash]
  rw [readHierarchy_append hkind h.isSlash_eq_false h.write_ne.1 h.write_ne.2 hslash
    h.readAuthority_write, hpath.readPath_write hkind]

theorem Authority.Settled.of_mem_hierarchy {a : Authority} (h : a.Settled kind usual)
    {path : UrlPath} (hpath : path.Settled kind) (hc : c ∈ '/' :: '/' :: (a.write ++ path.write)) :
    32 < c.toNat ∧ c ≠ '#' ∧ c ≠ '?' := by
  have hmark {c : Char} (hc : c = '/' ∨ c = '@') : 32 < c.toNat ∧ c ≠ '#' ∧ c ≠ '?' := by
    rcases hc with rfl | rfl <;> decide
  simp only [List.mem_cons, List.mem_append] at hc
  rcases hc with rfl | rfl | hc | hc
  · exact hmark (.inl rfl)
  · exact hmark (.inl rfl)
  · rcases h.standsInside hc with rfl | hinside
    · exact hmark (.inr rfl)
    · exact ⟨hinside.printable, hinside.ne (by decide), hinside.ne (by decide)⟩
  · rcases hpath.of_mem_write hc with rfl | hallowed
    · exact hmark (.inl rfl)
    · exact ⟨hallowed.printable (by decide), hallowed.ne (by decide), hallowed.ne (by decide)⟩

theorem settled_of_readHierarchy (hkind : kind ≠ .file) {more : Bool} {a : Authority}
    {path : UrlPath} (h : readHierarchy kind usual more s = .ok (some a, path))
    (hhost : a.host ≠ .name []) : a.Settled kind usual ∧ path.Settled kind := by
  unfold readHierarchy at h
  simp only at h
  split at h
  · exact absurd rfl hkind
  · split at h
    · cases h
    · obtain ⟨authority, hauthority, h⟩ := bind_eq_ok_iff.1 h
      cases h
      exact ⟨Authority.settled_of_readAuthority hauthority hhost, UrlPath.settled_readPath hkind _⟩
  · split at h
    · split at h
      · cases h
      · obtain ⟨authority, hauthority, h⟩ := bind_eq_ok_iff.1 h
        cases h
        exact ⟨Authority.settled_of_readAuthority hauthority hhost,
          UrlPath.settled_readPath hkind _⟩
    · cases h
    · cases h

/-! ## Whole URLs -/

/-- The usual port of a special scheme. -/
def specialPort? (scheme : List Char) : Option UInt16 :=
  (specialPorts.find? fun (name, _) => name.toList = scheme).map (·.2)

/-- A URL that names a host, as reading leaves it. -/
structure Settled (u : Url) : Prop where
  scheme : IsScheme u.scheme
  not_file : SchemeKind.ofScheme u.scheme ≠ .file
  authority : ∃ a, u.authority = some a ∧
    a.Settled (SchemeKind.ofScheme u.scheme) (specialPort? u.scheme)
  path : u.path.Settled (SchemeKind.ofScheme u.scheme)
  query : ∀ q ∈ u.query, ∀ c ∈ q, (querySet (SchemeKind.ofScheme u.scheme)).Allows c
  fragment : ∀ f ∈ u.fragment, ∀ c ∈ f, PercentSet.fragment.Allows c

/-- Reading leaves settled URLs only. -/
theorem settled_of_ofText {text : String} {u : Url} (h : ofText text = .ok u)
    (hhost : u.host?.isSome = true) (hscheme : u.scheme ≠ "file".toList) : u.Settled := by
  unfold ofText at h
  split at h
  · cases h
  · rename_i scheme rest htake
    obtain ⟨⟨authority, path⟩, hread, hu⟩ := bind_eq_ok_iff.1 h
    cases hu
    have hkind := ofScheme_ne_file hscheme
    cases authority with
    | none => cases hhost
    | some a =>
      have hname : a.host ≠ .name [] := by
        intro hname
        simp [host?, hname] at hhost
      obtain ⟨hauthority, hpath⟩ := settled_of_readHierarchy hkind hread hname
      exact ⟨isScheme_of_takeScheme htake, hkind, ⟨a, rfl, hauthority⟩, hpath,
        allows_of_cutPart (leavesBytes_querySet _), allows_of_cutPart (by decide)⟩

namespace Settled

variable {u : Url}

/-- What stands between the scheme and the query is read as an authority and a path. -/
theorem exists_front [LawfulDomainNames] (h : u.Settled) : ∃ front,
    u.write = u.scheme ++ ':' :: (front ++ writeAfter '?' u.query ++ writeAfter '#' u.fragment) ∧
      (∀ c ∈ front, 32 < c.toNat ∧ c ≠ '#' ∧ c ≠ '?') ∧
        ∀ more, readHierarchy (SchemeKind.ofScheme u.scheme) (specialPort? u.scheme) more front =
          .ok (u.authority, u.path) := by
  obtain ⟨a, ha, hauthority⟩ := h.authority
  refine ⟨'/' :: '/' :: (a.write ++ u.path.write), ?_, fun _ => hauthority.of_mem_hierarchy h.path, ?_⟩
  · simp [write, writeAuthority, ha]
  · rw [ha]
    exact hauthority.readHierarchy_write h.not_file h.path

theorem printable [LawfulDomainNames] (h : u.Settled) (hc : c ∈ u.write) : 32 < c.toNat := by
  obtain ⟨front, hwrite, hfront, _⟩ := h.exists_front
  rw [hwrite] at hc
  simp only [List.mem_append, List.mem_cons] at hc
  rcases hc with hc | rfl | (hc | hc) | hc
  · exact printable_of_isSchemeChar (h.scheme.chars c hc)
  · decide
  · exact (hfront c hc).1
  · rcases of_mem_writeAfter hc with rfl | ⟨q, hq, hc⟩
    · decide
    · exact (h.query q hq c hc).printable (mem_querySet _).1
  · rcases of_mem_writeAfter hc with rfl | ⟨f, hf, hc⟩
    · decide
    · exact (h.fragment f hf c hc).printable (by decide)

/-- A settled URL is read back from its text. -/
theorem ofText_toString [LawfulDomainNames] (h : u.Settled) : ofText (toString u) = .ok u := by
  obtain ⟨front, hwrite, hfront, hread⟩ := h.exists_front
  have htext : (toString u).toList = u.write := String.toList_ofList
  have hquery : '?' ∉ front := fun hmem => (hfront _ hmem).2.2 rfl
  have hfragment : '#' ∉ front ++ writeAfter '?' u.query := by
    intro hmem
    rcases List.mem_append.1 hmem with hmem | hmem
    · exact (hfront _ hmem).2.1 rfl
    · rcases of_mem_writeAfter hmem with hmark | ⟨q, hq, hmem⟩
      · exact absurd hmark (by decide)
      · exact (h.query q hq _ hmem).ne (mem_querySet _).2 rfl
  unfold ofText
  rw [htext, clean_eq_self fun _ => h.printable, hwrite, h.scheme.takeScheme_append]
  simp only [cutFragment_eq, cutPart_writeAfter hfragment h.fragment, cutQuery_eq,
    cutPart_writeAfter hquery h.query]
  change (readHierarchy _ (specialPort? u.scheme) _ front >>= _) = _
  rw [hread, ok_bind]

/-- A password is encoded when it is put into a URL. -/
theorem setPassword? (h : u.Settled) {password : List Char} (hpassword : password ≠ []) :
    ∃ v, u.setPassword? password = some v ∧ v.Settled ∧
      v.withoutPassword = u.withoutPassword ∧
        v.password? = some (percentEncode .userinfo password) := by
  obtain ⟨a, ha, hauthority⟩ := h.authority
  have hfile : u.scheme ≠ "file".toList := by
    intro hfile
    refine h.not_file ?_
    rw [hfile]
    decide
  let changed : Authority := { a with password := some (percentEncode .userinfo password) }
  refine ⟨{ u with authority := some changed }, ?_, ⟨h.scheme, h.not_file,
    ⟨changed, rfl, hauthority.setPassword hpassword⟩, h.path, h.query, h.fragment⟩, ?_, rfl⟩
  · rw [Url.setPassword?, ha]
    simp only [hauthority.host.ne_name_nil, hfile, or_self, if_false, List.isEmpty_iff, hpassword, changed]
  · simp [withoutPassword, ha, changed]

end Settled

end ShardMerge.Url
