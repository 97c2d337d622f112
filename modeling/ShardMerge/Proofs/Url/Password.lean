import Mathlib.Data.List.Flatten
import ShardMerge.Proofs.Computation
import ShardMerge.Proofs.Text.Cut
import ShardMerge.Url.Reader

/-!
# Passwords in URLs

URLs that differ in the password alone, and the texts that they are read from.

* `Url.withoutPassword` forgets the password.  `eq_of_withoutPassword` says that what is asked of
  URLs without regard to it has the same answer for both, and `hidePassword_eq` that they look the
  same once it is hidden.
* `Url.Spells` ties a text to its URL and to the password in it.  `takeScheme_of_password` finds
  the two slashes that stand between the scheme and the password there.
* `takeScheme_eq_some_iff` says where the scheme of a URL ends, and how it is spelled.
* `clean_append_slash` and `append_slash_inj` cut a text at its first slash, before and after it has
  been cleaned.
* `eq_of_sublist_of_percentEncode` recovers a text from a part of it that is as long when both are
  encoded.
-/

namespace ShardMerge.Url

open Text

variable {u v : Url} {α : Type}

/-! ## Everything but the password -/

/-- The URL without its password. -/
def withoutPassword (u : Url) : Url :=
  { u with authority := u.authority.map fun authority => { authority with password := none } }

theorem host?_withoutPassword (u : Url) : u.withoutPassword.host? = u.host? := by
  obtain ⟨_, _ | _, _, _, _⟩ := u <;> rfl

theorem port?_withoutPassword (u : Url) : u.withoutPassword.port? = u.port? := by
  obtain ⟨_, _ | _, _, _, _⟩ := u <;> rfl

theorem username_withoutPassword (u : Url) : u.withoutPassword.username = u.username := by
  obtain ⟨_, _ | _, _, _, _⟩ := u <;> rfl

/-- A password is put in place of the old one, if there is a place for it. -/
theorem setPassword?_withoutPassword (u : Url) (password : List Char) :
    u.withoutPassword.setPassword? password = u.setPassword? password := by
  obtain ⟨_, _ | _, _, _, _⟩ := u <;> rfl

theorem eq_of_withoutPassword {f : Url → α} (hf : ∀ u : Url, f u.withoutPassword = f u)
    (h : u.withoutPassword = v.withoutPassword) : f u = f v := by
  rw [← hf u, h, hf v]

theorem isSome_setPassword? (hhost : u.host?.isSome = true) (hscheme : u.scheme ≠ "file".toList)
    (password : List Char) : (u.setPassword? password).isSome = true := by
  unfold setPassword?
  unfold host? at hhost
  split
  · rename_i authority hauthority
    have hname : authority.host ≠ .name [] := by
      intro hname
      simp [hauthority, hname] at hhost
    rw [if_neg (not_or.2 ⟨hname, hscheme⟩)]
    rfl
  · rename_i hauthority
    simp [hauthority] at hhost

/-- URLs that differ in the password alone look the same once it is hidden. -/
theorem hidePassword_eq (h : u.withoutPassword = v.withoutPassword)
    (hu : u.password?.isSome = true) (hv : v.password?.isSome = true)
    (hhost : u.host?.isSome = true) (hscheme : u.scheme ≠ "file".toList) :
    u.hidePassword = v.hidePassword := by
  have hset : u.setPassword? "****".toList = v.setPassword? "****".toList :=
    eq_of_withoutPassword (f := fun u => u.setPassword? "****".toList)
      (fun u => setPassword?_withoutPassword u _) h
  obtain ⟨shown, hshown⟩ := Option.isSome_iff_exists.1 (isSome_setPassword? hhost hscheme
    "****".toList)
  rw [hidePassword, hidePassword, if_pos hu, if_pos hv, ← hset, hshown]
  rfl

/-! ## Encoded characters -/

/-- A character is written as it is, or as more than one. -/
theorem percentEncodeChar_cases (set : PercentSet) (c : Char) :
    percentEncodeChar set c = [c] ∨ 1 < (percentEncodeChar set c).length := by
  unfold percentEncodeChar
  split
  · right
    cases hbytes : String.utf8EncodeChar c with
    | nil => exact absurd hbytes String.utf8EncodeChar_ne_nil
    | cons b bytes => simp [hexByte]
  · exact .inl rfl

theorem length_percentEncodeChar_pos (set : PercentSet) (c : Char) :
    0 < (percentEncodeChar set c).length := by
  rcases percentEncodeChar_cases set c with h | h
  · rw [h]
    exact Nat.one_pos
  · exact Nat.zero_lt_of_lt h

variable {set : PercentSet} {s t : List Char} {c : Char}

theorem percentEncode_append (set : PercentSet) (s t : List Char) :
    percentEncode set (s ++ t) = percentEncode set s ++ percentEncode set t :=
  List.flatMap_append

theorem length_percentEncode_cons :
    (percentEncode set (c :: s)).length =
      (percentEncodeChar set c).length + (percentEncode set s).length := by
  rw [percentEncode, List.flatMap_cons, List.length_append]
  rfl

theorem length_le_percentEncode : s.length ≤ (percentEncode set s).length := by
  induction s with
  | nil => exact Nat.zero_le _
  | cons c s ih =>
    have hpos := length_percentEncodeChar_pos set c
    rw [length_percentEncode_cons, List.length_cons]
    omega

/-- A text that is no longer when it is encoded has no encoded characters. -/
theorem percentEncode_eq_self (h : (percentEncode set s).length ≤ s.length) :
    percentEncode set s = s := by
  induction s with
  | nil => rfl
  | cons c s ih =>
    have hrest : s.length ≤ (percentEncode set s).length := length_le_percentEncode
    rw [length_percentEncode_cons, List.length_cons] at h
    rcases percentEncodeChar_cases set c with hc | hc
    · rw [hc, List.length_singleton] at h
      rw [percentEncode, List.flatMap_cons, hc]
      exact congrArg (c :: ·) (ih (by omega))
    · omega

/-- What is left out of a text is missing when it is encoded. -/
theorem eq_of_sublist_of_percentEncode (hsub : s.Sublist t)
    (h : (percentEncode set t).length ≤ (percentEncode set s).length) : s = t := by
  induction hsub with
  | slnil => rfl
  | cons c hsub ih =>
    have hpos := length_percentEncodeChar_pos set c
    have hless := (hsub.flatMap (percentEncodeChar set)).length_le
    rw [length_percentEncode_cons] at h
    simp only [percentEncode] at h hless
    omega
  | cons_cons c hsub ih =>
    rw [length_percentEncode_cons, length_percentEncode_cons] at h
    rw [ih (by omega)]

/-! ## Where a password can stand -/

/-- A text is a URL with a password, which is encoded there if it has to be. -/
structure Spells [DomainNames] (text : String) (password : List Char) (u : Url) : Prop where
  url : ofText text = .ok u
  password : u.password? = some (percentEncode .userinfo password)

/-- What reading keeps of a text up to a slash. -/
def cleanFront (s : List Char) : List Char :=
  (s.dropWhile (·.toNat ≤ 32)).filter fun c => c != '\t' && c != '\n' && c != '\r'

/-- What reading keeps of a text after a slash. -/
def cleanBack (s : List Char) : List Char :=
  (dropEndWhile (·.toNat ≤ 32) s).filter fun c => c != '\t' && c != '\n' && c != '\r'

theorem cleanFront_sublist (s : List Char) : (cleanFront s).Sublist s :=
  List.filter_sublist.trans (List.dropWhile_sublist _)

/-- What is dropped before a slash does not depend on what follows it, nor the other way round. -/
theorem clean_append_slash (front back : List Char) :
    clean (front ++ '/' :: back) = cleanFront front ++ '/' :: cleanBack back := by
  rw [clean, dropWhile_append_cons (by decide), dropEndWhile_append_cons (by decide),
    List.filter_append, List.filter_cons_of_pos (by decide)]
  rfl

theorem cleanBack_slash (s : List Char) : cleanBack ('/' :: s) = '/' :: cleanBack s := by
  have h := dropEndWhile_append_cons (p := (·.toNat ≤ 32)) (c := '/') (by decide) [] s
  rw [List.nil_append, List.nil_append] at h
  rw [cleanBack, h, List.filter_cons_of_pos (by decide)]
  rfl

/-- The first slash of a text is in one place. -/
theorem append_slash_inj {front front' back back' : List Char} (hfront : '/' ∉ front)
    (hfront' : '/' ∉ front') (h : front ++ '/' :: back = front' ++ '/' :: back') :
    front = front' ∧ back = back' := by
  have hcut : cutFirst '/' (front ++ '/' :: back) = some (front, back) :=
    cutFirst_eq_some_iff.2 ⟨rfl, hfront⟩
  rw [cutFirst_eq_some_iff.2 ⟨h, hfront'⟩] at hcut
  cases hcut
  exact ⟨rfl, rfl⟩

/-- What has no slash stands in front of the first one. -/
theorem exists_of_append_slash {front back s t : List Char} (hs : '/' ∉ s)
    (h : front ++ '/' :: back = s ++ t) : ∃ between, front = s ++ between ∧
      t = between ++ '/' :: back := by
  rcases List.append_eq_append_iff.1 h with ⟨more, hsmore, hback⟩ | ⟨between, hfront, ht⟩
  · cases more with
    | nil =>
      rw [List.append_nil] at hsmore
      rw [List.nil_append] at hback
      exact ⟨[], by rw [hsmore, List.append_nil], hback.symm⟩
    | cons c more =>
      obtain ⟨rfl, _⟩ := List.cons.inj hback
      exact absurd (hsmore ▸ by simp) hs
  · exact ⟨between, hfront, ht⟩

/-- The character can stand in a scheme. -/
def isSchemeChar (c : Char) : Bool := c.isAlphanum || c = '+' || c = '-' || c = '.'

/-- A scheme is what stands before the first colon, in lower case. -/
theorem takeScheme_eq_some_iff {scheme rest : List Char} :
    takeScheme s = some (scheme, rest) ↔ ∃ front, s = front ++ ':' :: rest ∧
      (∃ c ∈ front.head?, c.isAlpha = true) ∧ (∀ c ∈ front, isSchemeChar c = true) ∧
        front.map Char.toLower = scheme := by
  constructor
  · intro h
    unfold takeScheme at h
    obtain ⟨⟨front, after⟩, hcut, h⟩ := Option.bind_eq_some_iff.1 h
    obtain ⟨hs, _⟩ := cutFirst_eq_some_iff.1 hcut
    cases front with
    | nil => cases h
    | cons c front =>
      simp only at h
      split at h
      · rename_i hfront
        cases h
        exact ⟨c :: front, hs, ⟨c, rfl, hfront.1⟩, List.all_eq_true.1 hfront.2, rfl⟩
      · cases h
  · rintro ⟨front, rfl, ⟨c, hhead, halpha⟩, hchars, rfl⟩
    have hcolon : ':' ∉ front := fun hmem => absurd (hchars _ hmem) (by decide)
    have hcut : cutFirst ':' (front ++ ':' :: rest) = some (front, rest) :=
      cutFirst_eq_some_iff.2 ⟨rfl, hcolon⟩
    cases front with
    | nil => cases hhead
    | cons d front =>
      obtain rfl := Option.some.inj hhead
      rw [takeScheme, hcut]
      exact if_pos ⟨halpha, List.all_eq_true.2 hchars⟩

theorem scheme_of_takeScheme [DomainNames] {text : String} {scheme rest : List Char}
    (h : ofText text = .ok u) (hscheme : takeScheme (clean text.toList) = some (scheme, rest)) :
    u.scheme = scheme := by
  unfold ofText at h
  rw [hscheme] at h
  obtain ⟨_, _, hu⟩ := bind_eq_ok_iff.1 h
  cases hu
  rfl

/-- A text is read by what is left of it after it has been cleaned and its scheme taken. -/
theorem ofText_eq_of_takeScheme [DomainNames] {text text' : String}
    (h : takeScheme (clean text.toList) = takeScheme (clean text'.toList)) :
    ofText text = ofText text' := by
  rw [ofText, ofText, h]

theorem isPrefix_of_cutFirst {mark : Char} {before after : List Char}
    (h : cutFirst mark s = some (before, after)) : before <+: s :=
  ⟨mark :: after, (cutFirst_eq_some_iff.1 h).1.symm⟩

theorem fst_cutFragment_isPrefix (s : List Char) : (cutFragment s).1 <+: s := by
  unfold cutFragment
  cases hcut : cutFirst '#' s with
  | none => exact List.prefix_refl s
  | some parts => exact isPrefix_of_cutFirst hcut

theorem fst_cutQuery_isPrefix (kind : SchemeKind) (s : List Char) : (cutQuery kind s).1 <+: s := by
  unfold cutQuery
  cases hcut : cutFirst '?' s with
  | none => exact List.prefix_refl s
  | some parts => exact isPrefix_of_cutFirst hcut

/-- Only two slashes announce an authority. -/
theorem slashes_of_readHierarchy [DomainNames] {usual : Option UInt16} {more : Bool}
    {authority : Authority} {path : UrlPath}
    (h : readHierarchy .general usual more s = .ok (some authority, path)) :
    ['/', '/'] <+: s := by
  unfold readHierarchy at h
  simp only at h
  split at h
  · exact ⟨_, rfl⟩
  · cases h
  · cases h

/-- The slashes in front of a password follow the scheme. -/
theorem takeScheme_of_password [DomainNames] {text : String} {password : List Char}
    (h : ofText text = .ok u) (hpassword : u.password? = some password)
    (hkind : SchemeKind.ofScheme u.scheme = .general) :
    ∃ rest, takeScheme (clean text.toList) = some (u.scheme, '/' :: '/' :: rest) := by
  unfold ofText at h
  split at h
  · cases h
  · rename_i scheme rest hscheme
    obtain ⟨⟨authority, path⟩, hread, hu⟩ := bind_eq_ok_iff.1 h
    cases hu
    simp only [password?] at hpassword
    cases authority with
    | none => cases hpassword
    | some authority =>
      rw [hkind] at hread
      have hslashes := slashes_of_readHierarchy hread
      obtain ⟨more, hrest⟩ := hslashes.trans
        ((fst_cutQuery_isPrefix _ _).trans (fst_cutFragment_isPrefix rest))
      exact ⟨more, by rw [hscheme, ← hrest]; rfl⟩

end ShardMerge.Url
