import ShardMerge.Proofs.Url.Host

/-!
# Authorities

The authorities that reading a URL leaves, how they are read back, and what may follow them.

* `Authority.Settled` says what is left of each part.  `Authority.settled_of_readAuthority` is that
  nothing else is, if a host is named.
* `Authority.Settled.readAuthority_write` reads a settled authority back from what a URL shows: its
  only mark is the one before the host, and its colons are where they were.
* `ofText_append_query` says that a query can be added to a URL that names a host, and changes no
  other part of it: a text is cut at its marks before any part of it is read.
-/

namespace ShardMerge.Url

open Text

variable {c : Char} {s : List Char} {kind : SchemeKind} {usual : Option UInt16}

/-! ## Users and ports -/

theorem standsInside_of_userinfo (h : PercentSet.userinfo.Allows c) : StandsInside c := by
  have hset : separators ⊆ PercentSet.userinfo := by decide
  exact ⟨h.printable (by decide), h.2.1, fun hc => h.2.2 (hset hc)⟩

/-- The port as an authority shows it. -/
def writePort : Option UInt16 → List Char
  | some port => ':' :: Nat.toDigits 10 port.toNat
  | none => []

theorem standsInside_of_mem_writePort {port : Option UInt16} (h : c ∈ writePort port) :
    StandsInside c := by
  cases port with
  | none => cases h
  | some port =>
    rcases List.mem_cons.1 h with rfl | h
    · exact ⟨by decide, by decide, by decide⟩
    · exact standsInside_of_hexValue? (isSome_hexValue? (Json.isDigit_of_mem_toDigits h))

theorem head?_writePort (port : Option UInt16) : ∀ c ∈ (writePort port).head?, c = ':' := by
  cases port with
  | none => nofun
  | some port => simp [writePort]

theorem readPort_writePort {port : Option UInt16} (h : ∀ p ∈ port, some p ≠ usual) :
    readPort usual (writePort port).tail = .ok port := by
  cases port with
  | none => rfl
  | some port =>
    have hlt : port.toNat < UInt16.size := port.toNat_lt
    rw [writePort, List.tail_cons, readPort, if_neg (by simp [Nat.toDigits_ne_nil])]
    simp only [Decimal.ofDigits?_toDigits, if_pos hlt, UInt16.ofNat_toNat, if_neg (h port rfl)]

theorem ne_usual_of_readPort {port : Option UInt16} (h : readPort usual s = .ok port) :
    ∀ p ∈ port, some p ≠ usual := by
  unfold readPort at h
  split at h
  · rw [← Except.ok.inj h]
    nofun
  · split at h
    · split at h
      · rw [← Except.ok.inj h]
        intro p hp
        split at hp
        · cases hp
        · rename_i husual
          rwa [← Option.some.inj hp]
      · cases h
    · cases h

/-- What can be left of a password. -/
structure IsPassword (password : List Char) : Prop where
  ne_nil : password ≠ []
  allowed : ∀ c ∈ password, PercentSet.userinfo.Allows c

theorem isPassword_percentEncode (h : s ≠ []) : IsPassword (percentEncode .userinfo s) :=
  ⟨percentEncode_ne_nil h, fun _ => allows_of_mem_percentEncode (by decide)⟩

theorem readUser_username {username : List Char}
    (husername : ∀ c ∈ username, PercentSet.userinfo.Allows c) :
    readUser username = (username, none) := by
  have hcolon : ':' ∉ username := fun hmem => (husername _ hmem).2.2 (by decide)
  rw [readUser, cutFirst_eq_none_iff.2 hcolon]
  simp only [percentEncode_of_allows husername]

theorem readUser_password {username password : List Char}
    (husername : ∀ c ∈ username, PercentSet.userinfo.Allows c) (hpassword : IsPassword password) :
    readUser (username ++ ':' :: password) = (username, some password) := by
  have hcolon : ':' ∉ username := fun hmem => (husername _ hmem).2.2 (by decide)
  have hcut : cutFirst ':' (username ++ ':' :: password) = some (username, password) :=
    cutFirst_eq_some_iff.2 ⟨rfl, hcolon⟩
  rw [readUser, hcut]
  simp only [percentEncode_of_allows husername, percentEncode_of_allows hpassword.allowed,
    List.isEmpty_iff, hpassword.ne_nil, if_false]

theorem settled_readUser (s : List Char) :
    (∀ c ∈ (readUser s).1, PercentSet.userinfo.Allows c) ∧
      ∀ password ∈ (readUser s).2, IsPassword password := by
  have hencode (s : List Char) : ∀ c ∈ percentEncode .userinfo s, PercentSet.userinfo.Allows c :=
    fun _ => allows_of_mem_percentEncode (by decide)
  unfold readUser
  split
  · exact ⟨hencode s, nofun⟩
  · rename_i username password _
    refine ⟨hencode username, fun encoded hencoded => ?_⟩
    split at hencoded
    · cases hencoded
    · rename_i hne
      rw [← Option.some.inj hencoded]
      exact isPassword_percentEncode (by simpa using hne)

/-! ## Authorities -/

namespace Authority

theorem write_eq (a : Authority) : a.write = a.writeUser ++ (a.host.write ++ writePort a.port) := by
  obtain ⟨_, _, _, _ | _⟩ := a <;> exact List.append_assoc ..

variable [DomainNames]

/-- An authority as reading leaves it, where the usual port is known. -/
structure Settled (kind : SchemeKind) (usual : Option UInt16) (a : Authority) : Prop where
  username : ∀ c ∈ a.username, PercentSet.userinfo.Allows c
  password : ∀ password ∈ a.password, IsPassword password
  host : a.host.Settled kind
  port : ∀ port ∈ a.port, some port ≠ usual

/-- An authority is cut at its mark, and then at the colon before its port. -/
theorem readAuthority_of_cut {user place : List Char}
    (hcut : (cutLast '@' s).getD ([], s) = (user, place)) :
    readAuthority kind usual s = (Host.read kind (takeHost false place).1 >>= fun host =>
      if host = .name [] ∧ (!(takeHost false place).2.isEmpty ∨ !(readUser user).1.isEmpty ∨
          (readUser user).2.isSome) then .error .emptyHost
      else readPort usual (takeHost false place).2.tail >>= fun port =>
        .ok { username := (readUser user).1, password := (readUser user).2, host, port }) := by
  unfold readAuthority Host.read
  rw [hcut]
  simp only
  split
  · split <;> rfl
  · rfl

theorem settled_of_readAuthority {a : Authority} (h : readAuthority kind usual s = .ok a)
    (hhost : a.host ≠ .name []) : a.Settled kind usual := by
  rcases hcut : (cutLast '@' s).getD ([], s) with ⟨user, place⟩
  rw [readAuthority_of_cut hcut] at h
  obtain ⟨host, hread, h⟩ := bind_eq_ok_iff.1 h
  split at h
  · cases h
  · obtain ⟨port, hport, ha⟩ := bind_eq_ok_iff.1 h
    obtain ⟨husername, hpassword⟩ := settled_readUser user
    cases ha
    exact ⟨husername, hpassword, Host.settled_of_read hread hhost, ne_usual_of_readPort hport⟩

namespace Settled

variable {a : Authority}

/-- What follows the user has no mark. -/
theorem standsInside_place (h : a.Settled kind usual) (hc : c ∈ a.host.write ++ writePort a.port) :
    StandsInside c :=
  (List.mem_append.1 hc).elim h.host.standsInside standsInside_of_mem_writePort

theorem cutLast_write (h : a.Settled kind usual) :
    ∃ user, (cutLast '@' a.write).getD ([], a.write) = (user, a.host.write ++ writePort a.port) ∧
      readUser user = (a.username, a.password) := by
  have hmark : '@' ∉ a.host.write ++ writePort a.port := fun hmem =>
    (h.standsInside_place hmem).not_separator (by decide)
  rw [a.write_eq, writeUser]
  cases hpassword : a.password with
  | some password =>
    refine ⟨a.username ++ ':' :: password, ?_,
      readUser_password h.username (h.password password hpassword)⟩
    have hcut := cutLast_append_cons hmark (a.username ++ ':' :: password)
    simp only [List.append_assoc, List.cons_append, List.nil_append] at hcut ⊢
    rw [hcut]
    rfl
  | none =>
    refine ⟨a.username, ?_, readUser_username h.username⟩
    by_cases hname : a.username = []
    · simp [hname, cutLast_eq_none_iff.2 hmark]
    · have hcut := cutLast_append_cons hmark a.username
      simp only [List.isEmpty_iff, hname, if_false, List.append_assoc, List.cons_append,
        List.nil_append] at hcut ⊢
      rw [hcut]
      rfl

/-- A settled authority is read back from what a URL shows. -/
theorem readAuthority_write [LawfulDomainNames] (h : a.Settled kind usual) :
    readAuthority kind usual a.write = .ok a := by
  obtain ⟨user, hcut, huser⟩ := h.cutLast_write
  rw [readAuthority_of_cut hcut, huser, h.host.takeHost_write (head?_writePort a.port),
    h.host.read_write, ok_bind, if_neg fun hname => h.host.ne_name_nil hname.1,
    readPort_writePort h.port]
  rfl

/-- Only the mark before the host is a separator. -/
theorem standsInside (h : a.Settled kind usual) (hc : c ∈ a.write) : c = '@' ∨ StandsInside c := by
  rw [a.write_eq, List.mem_append] at hc
  rcases hc with hc | hc
  · unfold writeUser at hc
    split at hc
    · rename_i password hpassword
      simp only [List.mem_append, List.mem_cons, List.not_mem_nil, or_false] at hc
      rcases hc with hc | rfl | hc | rfl
      · exact .inr (standsInside_of_userinfo (h.username c hc))
      · exact .inr ⟨by decide, by decide, by decide⟩
      · exact .inr (standsInside_of_userinfo ((h.password password hpassword).allowed c hc))
      · exact .inl rfl
    · split at hc
      · cases hc
      · rcases List.mem_append.1 hc with hc | hc
        · exact .inr (standsInside_of_userinfo (h.username c hc))
        · exact .inl (List.mem_singleton.1 hc)
  · exact .inr (h.standsInside_place hc)

/-- There is more to an authority than its mark. -/
theorem write_ne (h : a.Settled kind usual) : a.write ≠ [] ∧ a.write ≠ ['@'] := by
  obtain ⟨c, rest, hcons⟩ := List.exists_cons_of_ne_nil h.host.write_ne_nil
  have hmem : c ∈ a.write := by
    rw [a.write_eq, hcons]
    simp
  have hc : c ≠ '@' := by
    rintro rfl
    exact (h.host.standsInside (hcons ▸ List.mem_cons_self)).not_separator (by decide)
  refine ⟨List.ne_nil_of_mem hmem, fun hmark => ?_⟩
  rw [hmark, List.mem_singleton] at hmem
  exact hc hmem

theorem setPassword (h : a.Settled kind usual) (hs : s ≠ []) :
    { a with password := some (percentEncode .userinfo s) : Authority }.Settled kind usual := by
  refine ⟨h.username, fun password hpassword => ?_, h.host, h.port⟩
  rw [← Option.some.inj hpassword]
  exact isPassword_percentEncode hs

end Settled

end Authority

/-! ## Adding a query -/

theorem clean_append_mark {front : List Char} (hend : ∀ c ∈ front.getLast?, 32 < c.toNat)
    (back : List Char) : clean (front ++ '?' :: back) = clean front ++ '?' :: cleanBack back := by
  have hkept : ∀ c ∈ (front.dropWhile (·.toNat ≤ 32)).getLast?, decide (c.toNat ≤ 32) = false := by
    intro c hc
    obtain ⟨before, hbefore⟩ := List.getLast?_eq_some_iff.1 hc
    obtain ⟨dropped, hdropped⟩ := List.dropWhile_suffix (l := front) (·.toNat ≤ 32)
    have hlast : c ∈ front.getLast? := by
      rw [← hdropped, hbefore, ← List.append_assoc]
      simp
    have := hend c hlast
    simp only [decide_eq_false_iff_not]
    omega
  rw [clean, clean, dropWhile_append_cons (by decide), dropEndWhile_append_cons (by decide),
    dropEndWhile_eq_self hkept, List.filter_append, List.filter_cons_of_pos (by decide)]
  rfl

theorem takeScheme_append {scheme rest : List Char} (h : takeScheme s = some (scheme, rest))
    (t : List Char) : takeScheme (s ++ t) = some (scheme, rest ++ t) := by
  obtain ⟨front, rfl, hfront⟩ := takeScheme_eq_some_iff.1 h
  exact takeScheme_eq_some_iff.2 ⟨front, by simp, hfront⟩

theorem cutFragment_append_mark {s : List Char} (h : '#' ∉ s) (back : List Char) :
    ∃ query fragment, cutFragment (s ++ '?' :: back) = (s ++ '?' :: query, fragment) := by
  unfold cutFragment
  cases hback : cutFirst '#' back with
  | none =>
    have hcut : cutFirst '#' (s ++ '?' :: back) = none := by
      rw [cutFirst_eq_none_iff] at hback ⊢
      simp [h, hback]
    rw [hcut]
    exact ⟨back, none, rfl⟩
  | some parts =>
    obtain ⟨query, fragment⟩ := parts
    obtain ⟨rfl, hquery⟩ := cutFirst_eq_some_iff.1 hback
    have hcut : cutFirst '#' (s ++ '?' :: (query ++ '#' :: fragment)) =
        some (s ++ '?' :: query, fragment) :=
      cutFirst_eq_some_iff.2 ⟨by simp, by simp [h, hquery]⟩
    rw [hcut]
    exact ⟨query, _, rfl⟩

theorem cutQuery_append_mark {s : List Char} (h : '?' ∉ s) (kind : SchemeKind)
    (query : List Char) : ∃ encoded, cutQuery kind (s ++ '?' :: query) = (s, some encoded) := by
  have hcut : cutFirst '?' (s ++ '?' :: query) = some (s, query) :=
    cutFirst_eq_some_iff.2 ⟨rfl, h⟩
  exact ⟨_, by rw [cutQuery, hcut]⟩

/-- Only an authority that names no host is read otherwise if something follows it. -/
theorem readHierarchy_more [DomainNames] {usual : Option UInt16} {s : List Char} {a : Authority}
    {path : UrlPath} (h : readHierarchy .general usual false s = .ok (some a, path))
    (hhost : a.host ≠ .name []) :
    readHierarchy .general usual true s = .ok (some a, path) := by
  unfold readHierarchy at h ⊢
  simp only at h ⊢
  split at h
  · split at h
    · cases h
    · rename_i r hmark
      obtain ⟨authority, hauthority, h⟩ := bind_eq_ok_iff.1 h
      cases h
      -- A mark alone would be read as the end of an empty user name in front of no host.
      have hname : (r.takeWhile fun c => !SchemeKind.general.isSlash c) ≠ ['@'] := by
        intro hname
        have hread : readAuthority .general usual ['@'] = .ok { host := .name [] } := rfl
        rw [hname, hread] at hauthority
        cases hauthority
        exact hhost rfl
      rw [if_neg fun hboth => hname hboth.1, hauthority]
      rfl
  · cases h
  · cases h

theorem clean_sublist (s : List Char) : (clean s).Sublist s :=
  List.filter_sublist.trans ((dropEndWhile_sublist _ _).trans (List.dropWhile_sublist _))

/-- A query can be added to a URL that names a host, and no other part of it changes. -/
theorem ofText_append_query [DomainNames] {front : String} {u : Url} (h : ofText front = .ok u)
    (hkind : SchemeKind.ofScheme u.scheme = .general) (hhost : u.host?.isSome = true)
    (hmarks : '?' ∉ front.toList ∧ '#' ∉ front.toList)
    (hend : ∀ c ∈ front.toList.getLast?, 32 < c.toNat) (query : String) :
    ∃ encoded fragment,
      ofText (front ++ "?" ++ query) = .ok { u with query := some encoded, fragment } := by
  have htext : (front ++ "?" ++ query).toList = front.toList ++ '?' :: query.toList := by simp
  unfold ofText at h ⊢
  split at h
  · cases h
  · rename_i scheme rest hscheme
    have hrest : ∀ c ∈ rest, c ∈ front.toList := by
      obtain ⟨before, hbefore, _⟩ := takeScheme_eq_some_iff.1 hscheme
      intro c hc
      exact (clean_sublist _).mem (by simp [hbefore, hc])
    have hfragment : '#' ∉ rest := fun hmark => hmarks.2 (hrest _ hmark)
    have hquery : '?' ∉ rest := fun hmark => hmarks.1 (hrest _ hmark)
    have hcutFragment : cutFragment rest = (rest, none) := by
      rw [cutFragment, cutFirst_eq_none_iff.2 hfragment]
    have hcutQuery (kind : SchemeKind) : cutQuery kind rest = (rest, none) := by
      rw [cutQuery, cutFirst_eq_none_iff.2 hquery]
    simp only [hcutFragment, hcutQuery] at h
    obtain ⟨⟨authority, path⟩, hread, hu⟩ := bind_eq_ok_iff.1 h
    cases hu
    simp only at hkind
    obtain ⟨added, fragment, hadded⟩ := cutFragment_append_mark hfragment (cleanBack query.toList)
    obtain ⟨encoded, hencoded⟩ := cutQuery_append_mark hquery .general added
    rw [htext, clean_append_mark hend, takeScheme_append hscheme]
    simp only [hkind, hadded, hencoded, Option.isSome_some, Bool.true_or]
    cases authority with
    | none => cases hhost
    | some a =>
      have hname : a.host ≠ .name [] := by
        intro hname
        simp [Url.host?, hname] at hhost
      rw [hkind] at hread
      rw [readHierarchy_more hread hname]
      exact ⟨encoded, fragment, rfl⟩

end ShardMerge.Url
