import ShardMerge.Proofs.Url.Settled
import ShardMerge.Source.Credentials

/-!
# Passwords in connection strings

What a connection string is once a password has been put into it.

* `withPassword_cases` says that a password finds a place in every URL that names a host, other than
  that of a file, and that where there is none the error does not tell the password.
* `withPassword_splices` is about two passwords: they lead to the same error, or to URLs that look the
  same in a message and that are read back with nothing else changed.
* The password that is read back is the one that was put in, unless one of its percent signs is read
  as the beginning of a byte: `withPassword_shop_percent` is such a password.
-/

namespace ShardMerge

open Text Url

theorem setPassword?_eq_none {u : Url} (h : u.host?.isSome = false ∨ u.scheme = "file".toList)
    (password : List Char) : u.setPassword? password = none := by
  unfold Url.setPassword?
  split
  · rename_i authority hauthority
    refine if_pos (h.imp_left fun hhost => ?_)
    by_contra hname
    simp [host?, hauthority, hname] at hhost
  · rfl

section

variable [DomainNames] {connection p q : String}

/-- A connection string has no place for a password. -/
def HasNoPlace (connection : String) : Prop :=
  ∀ u, ofText connection = .ok u → u.host?.isSome = false ∨ u.scheme = "file".toList

/-- A text is a URL with a password, and otherwise the same as another URL. -/
def Carries (text : String) (u : Url) (password : String) : Prop :=
  ∃ v, ofText text = .ok v ∧ v.withoutPassword = u.withoutPassword ∧
    v.password? = some (percentEncode .userinfo password.toList)

/-- The error does not tell the password, and the text that carries it is read back. -/
theorem withPassword_cases [LawfulDomainNames] (connection : String) :
    (HasNoPlace connection ∧ ∃ e, ∀ password, withPassword connection password = .error e) ∨
      ∃ u, ofText connection = .ok u ∧ u.host?.isSome = true ∧ u.scheme ≠ "file".toList ∧
        ∀ password : String, password ≠ "" →
          ∃ spliced, withPassword connection password = .ok spliced ∧ Carries spliced u password := by
  unfold withPassword
  cases hread : ofText connection with
  | error e => exact .inl ⟨fun u hu => absurd (hread.symm.trans hu) nofun, _, fun _ => rfl⟩
  | ok u =>
    by_cases hplace : u.host?.isSome = false ∨ u.scheme = "file".toList
    · left
      refine ⟨fun v hv => ?_,
        .configuration s!"Source URL '{redact connection}' cannot carry a password", fun password => ?_⟩
      · obtain rfl := Except.ok.inj (hread.symm.trans hv)
        exact hplace
      · simp only [setPassword?_eq_none hplace]
    · right
      rw [not_or, Bool.not_eq_false] at hplace
      have hsettled := settled_of_ofText hread hplace.1 hplace.2
      refine ⟨u, rfl, hplace.1, hplace.2, fun password hpassword => ?_⟩
      obtain ⟨v, hset, hv, hsame, hencoded⟩ :=
        hsettled.setPassword? (mt String.toList_eq_nil_iff.1 hpassword)
      exact ⟨toString v, by simp only [hset], ⟨v, hv.ofText_toString, hsame, hencoded⟩⟩

/-- Texts that differ in the password that they carry look the same in a message. -/
theorem redact_of_carries {text text' : String} {u : Url} (hhost : u.host?.isSome = true)
    (hscheme : u.scheme ≠ "file".toList) (h : Carries text u p) (h' : Carries text' u q) :
    redact text = redact text' := by
  obtain ⟨v, hread, hsame, hencoded⟩ := h
  obtain ⟨v', hread', hsame', hencoded'⟩ := h'
  have hhost' : v.host?.isSome = true :=
    (congrArg Option.isSome (eq_of_withoutPassword host?_withoutPassword hsame)).trans hhost
  have hscheme' : v.scheme ≠ "file".toList := by
    have heq : v.scheme = u.scheme := eq_of_withoutPassword (f := Url.scheme) (fun _ => rfl) hsame
    rwa [heq]
  rw [redact, redact, hread, hread']
  simp only [hidePassword_eq (hsame.trans hsame'.symm) (by simp [hencoded]) (by simp [hencoded'])
    hhost' hscheme']

/-- Two passwords lead to the same error, if the connection string has no place for one.  Otherwise
both are put into it: the connection strings look the same in a message, and each is read back with
nothing but the password changed.  The password stands for itself, unless one of its percent signs is
followed by two hexadecimal digits. -/
theorem withPassword_splices [LawfulDomainNames] (connection : String) {p q : String}
    (hp : p ≠ "") (hq : q ≠ "") :
    (HasNoPlace connection ∧
      ∃ e, withPassword connection p = .error e ∧ withPassword connection q = .error e) ∨
      ∃ u spliced spliced', ofText connection = .ok u ∧
        withPassword connection p = .ok spliced ∧ withPassword connection q = .ok spliced' ∧
          redact spliced = redact spliced' ∧
            ∃ v, ofText spliced = .ok v ∧ v.withoutPassword = u.withoutPassword ∧
              (v.password?.bind percentDecodeText? = some p ↔ ¬HoldsByte p.toList) := by
  rcases withPassword_cases connection with ⟨hnone, e, herror⟩ | ⟨u, hread, hhost, hscheme, hsplice⟩
  · exact .inl ⟨hnone, e, herror p, herror q⟩
  · right
    obtain ⟨spliced, hspliced, hcarries⟩ := hsplice p hp
    obtain ⟨spliced', hspliced', hcarries'⟩ := hsplice q hq
    have hredact := redact_of_carries hhost hscheme hcarries hcarries'
    obtain ⟨v, hback, hsame, hencoded⟩ := hcarries
    refine ⟨u, spliced, spliced', hread, hspliced, hspliced', hredact, v, hback, hsame, ?_⟩
    rw [hencoded, Option.bind_some]
    exact percentDecodeText?_percentEncode_iff (by decide) p

end

theorem withPassword_splices_shop :
    let password := "p@ss/50% \u00e9"
    let spliced := "mysql://app:p%40ss%2F50%%20%C3%A9@db/shop"
    password ≠ "" ∧ "new" ≠ "" ∧ ¬HoldsByte password.toList ∧
      withPassword "mysql://app:old@db/shop" password = .ok spliced ∧
        withPassword "mysql://app:old@db/shop" "new" = .ok "mysql://app:new@db/shop" ∧
          redact spliced = redact "mysql://app:new@db/shop" ∧
            ∃ v, ofText spliced = .ok v ∧ v.password?.bind percentDecodeText? = some password := by
  have hp : "p@ss/50% \u00e9" ≠ "" := by decide
  have hq : "new" ≠ "" := by decide
  have hbyte : ¬HoldsByte "p@ss/50% \u00e9".toList := by decide
  have hspliced : withPassword "mysql://app:old@db/shop" "p@ss/50% \u00e9" =
      .ok "mysql://app:p%40ss%2F50%%20%C3%A9@db/shop" := by decide +kernel
  have hspliced' : withPassword "mysql://app:old@db/shop" "new" =
      .ok "mysql://app:new@db/shop" := by decide +kernel
  refine ⟨hp, hq, hbyte, hspliced, hspliced', ?_⟩
  rcases withPassword_splices "mysql://app:old@db/shop" hp hq with
    ⟨_, e, herror, _⟩ | ⟨u, spliced, spliced', _, hok, hok', hredact, v, hread, _, hpassword⟩
  · rw [hspliced] at herror
    cases herror
  · obtain rfl := Except.ok.inj (hspliced.symm.trans hok)
    obtain rfl := Except.ok.inj (hspliced'.symm.trans hok')
    exact ⟨hredact, v, hread, hpassword.2 hbyte⟩

/-- A percent sign in front of two digits is not encoded, so that another password is read back. -/
theorem withPassword_shop_percent :
    withPassword "mysql://app@db/shop" "a%41b" = .ok "mysql://app:a%41b@db/shop" ∧
      ∃ v, ofText "mysql://app:a%41b@db/shop" = .ok v ∧
        v.password?.bind percentDecodeText? = some "aAb" ∧ "aAb" ≠ "a%41b" := by
  let shop : Url :=
    { scheme := "mysql".toList
      authority := some
        { username := "app".toList, password := some "a%41b".toList, host := .name "db".toList }
      path := .slashed ["shop".toList] }
  exact ⟨by decide +kernel, shop, by decide +kernel, by decide +kernel, by decide⟩

end ShardMerge
