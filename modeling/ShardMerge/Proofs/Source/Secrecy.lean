import ShardMerge.Proofs.Computation
import ShardMerge.Proofs.Url.Password
import ShardMerge.Source.Open

/-!
# What opening a source tells of a password

Opening a source does the same for connection strings that differ in the password alone: the source
has the same settings, or the error is the same.

* `DifferInPassword` says that two connection strings are such.
* `startsWith_of_differ` is what keeps the kind of the source: the password of a URL is no part of
  the scheme, even if the two texts differ where the scheme is.
* `connect_of_differ` follows both strings through the checks of a server, whose driver may refuse a
  password that is no text, and `shown_cases_of_differ` through the opening of the source.
  `openAt_of_differ` is the result.
* A string that is taken for the path of a snapshot is shown as it is, with the password that it may
  have: `openAt_shows_password`.
-/

namespace ShardMerge

open Text Url

/-- Connection strings that are URLs and differ in their passwords alone. -/
structure DifferInPassword [DomainNames] (a b p q : String) (u v : Url) : Prop where
  first : Spells (a ++ p ++ b) p.toList u
  second : Spells (a ++ q ++ b) q.toList v
  same : u.withoutPassword = v.withoutPassword
  first_ne : p ≠ ""
  second_ne : q ≠ ""
  /-- The passwords stand after the scheme of a server, or have no slash, which would end the part
  of a URL in which a password stands. -/
  place : a.startsWith "mysql://" = true ∨ '/' ∉ p.toList ∧ '/' ∉ q.toList

namespace DifferInPassword

variable [DomainNames] {a b p q : String} {u v : Url}

theorem symm (h : DifferInPassword a b p q u v) : DifferInPassword a b q p v u :=
  ⟨h.second, h.first, h.same.symm, h.second_ne, h.first_ne, h.place.imp id And.symm⟩

/-- The other parts of the URLs are the same. -/
theorem eq (h : DifferInPassword a b p q u v) {α : Type} {f : Url → α}
    (hf : ∀ u : Url, f u.withoutPassword = f u) : f u = f v :=
  eq_of_withoutPassword hf h.same

theorem scheme (h : DifferInPassword a b p q u v) : u.scheme = v.scheme := h.eq fun _ => rfl

theorem host? (h : DifferInPassword a b p q u v) : u.host? = v.host? := h.eq host?_withoutPassword

theorem port? (h : DifferInPassword a b p q u v) : u.port? = v.port? := h.eq port?_withoutPassword

theorem username (h : DifferInPassword a b p q u v) : u.username = v.username :=
  h.eq username_withoutPassword

theorem databasePath (h : DifferInPassword a b p q u v) :
    Server.databasePath u = Server.databasePath v := h.eq fun _ => rfl

theorem parameters (h : DifferInPassword a b p q u v) :
    Server.parameters u = Server.parameters v := h.eq fun _ => rfl

end DifferInPassword

/-! ## The scheme of a server -/

/-- The scheme of a server in any case, and nothing else with it, if it is as long when it is
encoded. -/
theorem eq_of_sublist_scheme {front s : List Char} (hlength : front.length = Server.scheme.length)
    (hsub : (front ++ [':']).Sublist s)
    (h : percentEncode .userinfo s = percentEncode .userinfo (Server.scheme ++ [':'])) :
    s = Server.scheme ++ [':'] := by
  have hcolon : percentEncode .userinfo [':'] = ['%', '3', 'A'] := by decide +kernel
  have hscheme : percentEncode .userinfo Server.scheme = Server.scheme := by decide +kernel
  have hfront : front.length ≤ (percentEncode .userinfo front).length := length_le_percentEncode
  have hwhole : front ++ [':'] = s := by
    have hlonger : (percentEncode .userinfo s).length ≤
        (percentEncode .userinfo (front ++ [':'])).length := by
      rw [h, percentEncode_append, percentEncode_append, hcolon, hscheme, List.length_append,
        List.length_append]
      omega
    exact eq_of_sublist_of_percentEncode hsub hlonger
  rw [← hwhole, percentEncode_append, percentEncode_append, hcolon, hscheme] at h
  obtain ⟨hsame, _⟩ := List.append_inj' h rfl
  have hself : percentEncode .userinfo front = front := by
    refine percentEncode_eq_self ?_
    rw [hsame]
    omega
  rw [← hwhole, ← hself, hsame]

/-- A text that begins with the scheme of a server and two slashes. -/
theorem takeScheme_server (back : List Char) :
    takeScheme (clean (Server.scheme ++ [':'] ++ '/' :: '/' :: back)) =
      some (Server.scheme, '/' :: '/' :: cleanBack back) := by
  have hfront : cleanFront (Server.scheme ++ [':']) = Server.scheme ++ [':'] := by decide
  have hcut : cutFirst ':' (Server.scheme ++ [':'] ++ '/' :: '/' :: cleanBack back) =
      some (Server.scheme, '/' :: '/' :: cleanBack back) :=
    cutFirst_eq_some_iff.2 ⟨by simp, by decide⟩
  have hscheme : Server.scheme = ['m', 'y', 's', 'q', 'l'] := by decide
  rw [clean_append_slash, cleanBack_slash, hfront, takeScheme, hcut, hscheme]
  rfl

/-- The first slashes of the URL of a server with a password follow its scheme, whatever is dropped
or written in another case there. -/
theorem takeScheme_of_slashes [DomainNames] {text : String} {u : Url}
    {password front back : List Char} (h : ofText text = .ok u) (hpassword : u.password? = some password)
    (hscheme : u.scheme = Server.scheme) (htext : text.toList = front ++ '/' :: '/' :: back)
    (hslash : '/' ∉ front) :
    takeScheme (clean text.toList) = some (Server.scheme, '/' :: '/' :: cleanBack back) ∧
      ∃ letters, letters.length = Server.scheme.length ∧ (letters ++ [':']).Sublist front := by
  have hkind : SchemeKind.ofScheme u.scheme = .general := by
    rw [hscheme]
    decide
  obtain ⟨rest, htake⟩ := takeScheme_of_password h hpassword hkind
  rw [hscheme] at htake
  obtain ⟨letters, hclean, _, _, hlower⟩ := takeScheme_eq_some_iff.1 htake
  have hletters : '/' ∉ letters ++ [':'] := by
    intro hmem
    have hmem := (List.mem_append.1 hmem).resolve_right (by decide)
    have hlower' : Char.toLower '/' ∈ Server.scheme := hlower ▸ List.mem_map_of_mem hmem
    revert hlower'
    decide
  have hcleaned : '/' ∉ cleanFront front := fun hmem => hslash ((cleanFront_sublist front).mem hmem)
  have hcut : cleanFront front ++ '/' :: '/' :: cleanBack back =
      letters ++ [':'] ++ '/' :: '/' :: rest := by
    rw [List.append_assoc, List.singleton_append, ← hclean, htext, clean_append_slash,
      cleanBack_slash]
  obtain ⟨hfront, hback⟩ := append_slash_inj hcleaned hletters hcut
  refine ⟨by rw [htake, hback], letters, ?_, hfront ▸ cleanFront_sublist front⟩
  rw [← hlower, List.length_map]

/-- If a part of the scheme were the password, another password would be the same part. -/
theorem eq_scheme_of_differ [DomainNames] {a b p q : String} {u v : Url}
    (h : DifferInPassword a b p q u v) (hq : '/' ∉ q.toList) {between back : List Char}
    (hfront : a.toList ++ p.toList ++ between = Server.scheme ++ [':'])
    (hback : b.toList = between ++ '/' :: '/' :: back) :
    a.toList ++ q.toList ++ between = Server.scheme ++ [':'] := by
  have hslash : '/' ∉ a.toList ++ q.toList ++ between := by
    have hscheme : '/' ∉ Server.scheme ++ [':'] := by decide
    rw [← hfront] at hscheme
    simp only [List.mem_append, not_or] at hscheme ⊢
    exact ⟨⟨hscheme.1.1, hq⟩, hscheme.2⟩
  have hfirst : (a ++ p ++ b).toList = Server.scheme ++ [':'] ++ '/' :: '/' :: back := by
    rw [String.toList_append, String.toList_append, hback, ← hfront, List.append_assoc _ between]
  have hsecond : (a ++ q ++ b).toList =
      a.toList ++ q.toList ++ between ++ '/' :: '/' :: back := by
    rw [String.toList_append, String.toList_append, hback, List.append_assoc _ between]
  have htake := takeScheme_server back
  rw [← hfirst] at htake
  have hu : u.scheme = Server.scheme := scheme_of_takeScheme h.first.url htake
  obtain ⟨htake', letters, hlength, hsub⟩ := takeScheme_of_slashes h.second.url h.second.password
    (h.scheme ▸ hu) hsecond hslash
  -- Both texts are the same URL, so they have the same password when it is encoded.
  have huv : u = v := by
    have hread := ofText_eq_of_takeScheme (htake.trans htake'.symm)
    rw [h.first.url, h.second.url] at hread
    exact Except.ok.inj hread
  have hencode : percentEncode .userinfo p.toList = percentEncode .userinfo q.toList := by
    have hpassword := h.first.password
    rw [huv, h.second.password] at hpassword
    exact (Option.some.inj hpassword).symm
  refine eq_of_sublist_scheme hlength hsub ?_
  rw [← hfront]
  simp only [percentEncode_append, hencode]

/-- The scheme of a server stands in front of the password. -/
theorem startsWith_of_differ [DomainNames] {a b p q : String} {u v : Url}
    (h : DifferInPassword a b p q u v) (hstart : (a ++ p ++ b).startsWith "mysql://" = true) :
    (a ++ q ++ b).startsWith "mysql://" = true := by
  have hmarks : "mysql://".toList = Server.scheme ++ [':'] ++ ['/', '/'] := by decide
  have hscheme : '/' ∉ Server.scheme ++ [':'] := by decide
  rw [String.startsWith_string_iff, String.toList_append, String.toList_append] at hstart ⊢
  rcases h.place with hplace | ⟨hp, hq⟩
  · rw [String.startsWith_string_iff] at hplace
    rw [List.append_assoc]
    exact hplace.trans (List.prefix_append _ _)
  rw [hmarks] at hstart ⊢
  obtain ⟨back, hback⟩ := hstart
  have hslashes : Server.scheme ++ [':'] ++ '/' :: '/' :: back =
      a.toList ++ p.toList ++ b.toList := by
    rw [← hback]
    simp
  by_cases ha : '/' ∈ a.toList
  · -- The first slash is in front of the password, and the password does not begin with the second.
    obtain ⟨front, more, ha, hfront⟩ := List.eq_append_cons_of_mem ha
    have hcut : Server.scheme ++ [':'] ++ '/' :: '/' :: back =
        front ++ '/' :: (more ++ (p.toList ++ b.toList)) := by
      rw [hslashes, ha]
      simp
    obtain ⟨hsame, hmore⟩ := append_slash_inj hscheme hfront hcut
    cases more with
    | nil =>
      cases hpassword : p.toList with
      | nil => exact absurd (String.toList_eq_nil_iff.1 hpassword) h.first_ne
      | cons c rest =>
        rw [hpassword, List.nil_append, List.cons_append] at hmore
        obtain ⟨rfl, _⟩ := List.cons.inj hmore
        exact absurd (hpassword ▸ List.mem_cons_self) hp
    | cons c more =>
      obtain ⟨rfl, _⟩ := List.cons.inj hmore
      refine ⟨more ++ (q.toList ++ b.toList), ?_⟩
      rw [ha, ← hsame]
      simp
  · have hap : '/' ∉ a.toList ++ p.toList := by
      rw [List.mem_append, not_or]
      exact ⟨ha, hp⟩
    obtain ⟨between, hfront, hb⟩ := exists_of_append_slash hap hslashes
    refine ⟨back, ?_⟩
    rw [hb, ← eq_scheme_of_differ h hq hfront.symm hb]
    simp

/-- Both strings name the same kind of source, unless one is taken for the path of a snapshot. -/
theorem ofConnection_eq_of_differ [DomainNames] {a b p q : String} {u v : Url}
    (h : DifferInPassword a b p q u v)
    (hfirst : SourceKind.ofConnection (a ++ p ++ b) ≠ .ok .snapshot)
    (hsecond : SourceKind.ofConnection (a ++ q ++ b) ≠ .ok .snapshot) :
    SourceKind.ofConnection (a ++ p ++ b) = SourceKind.ofConnection (a ++ q ++ b) := by
  have hstart : (a ++ p ++ b).startsWith "mysql://" = (a ++ q ++ b).startsWith "mysql://" :=
    Bool.eq_iff_iff.2 ⟨startsWith_of_differ h, startsWith_of_differ h.symm⟩
  unfold SourceKind.ofConnection at hfirst hsecond ⊢
  rw [hstart] at hfirst ⊢
  cases hserver : (a ++ q ++ b).startsWith "mysql://" with
  | true => rfl
  | false =>
    simp only [hserver, Bool.false_eq_true, if_false] at hfirst hsecond ⊢
    rw [if_neg fun hpath => hfirst (if_pos hpath), if_neg fun hpath => hsecond (if_pos hpath)]

/-! ## The checks of a server -/

namespace Server

/-- A server takes a password that is text, once percent signs have been taken for bytes. -/
def takesPassword (password : List Char) : Bool :=
  (percentDecodeText? (percentEncode .userinfo password)).isSome

section

variable [DomainNames] {a b p q : String} {u v : Url}

/-- A host is found in both URLs or in neither. -/
theorem urlWithHost_of_differ (h : DifferInPassword a b p q u v) :
    (∃ e, urlWithHost (a ++ p ++ b) = .error e ∧ urlWithHost (a ++ q ++ b) = .error e) ∨
      urlWithHost (a ++ p ++ b) = .ok u ∧ urlWithHost (a ++ q ++ b) = .ok v ∧
        u.scheme = scheme ∧ u.host?.isSome = true := by
  unfold urlWithHost readUrl
  rw [h.first.url, h.second.url]
  simp only [ok_bind]
  rw [← h.scheme, ← h.host?]
  by_cases hscheme : u.scheme = scheme
  · cases hsome : u.host?.isSome with
    | true =>
      right
      simp [require, hscheme, ok_bind]
    | false =>
      left
      simp [require, hscheme, ok_bind, error_bind]
  · left
    simp [require, hscheme, error_bind]

/-- The settings hold no password. -/
theorem ofUrl_of_differ (h : DifferInPassword a b p q u v) :
    ConnectionSettings.ofUrl (a ++ p ++ b) = ConnectionSettings.ofUrl (a ++ q ++ b) := by
  unfold ConnectionSettings.ofUrl
  rcases urlWithHost_of_differ h with ⟨e, hfirst, hsecond⟩ | ⟨hfirst, hsecond, _, _⟩
  · rw [hfirst, hsecond]
  · simp only [hfirst, hsecond, ok_bind, h.port?, h.databasePath, h.username, h.host?, h.parameters]

/-- Only the URL of a server that names a host has settings. -/
theorem of_ofUrl_eq_ok (h : DifferInPassword a b p q u v) {settings : ConnectionSettings}
    (hsettings : ConnectionSettings.ofUrl (a ++ p ++ b) = .ok settings) :
    u.scheme = scheme ∧ u.host?.isSome = true := by
  rcases urlWithHost_of_differ h with ⟨e, hfirst, _⟩ | ⟨_, _, hscheme, hhost⟩
  · rw [ConnectionSettings.ofUrl, hfirst] at hsettings
    cases hsettings
  · exact ⟨hscheme, hhost⟩

theorem canConnect_of_differ (h : DifferInPassword a b p q u v)
    (htext : takesPassword p.toList = takesPassword q.toList) (usable : String × String → Bool) :
    canConnect usable u = canConnect usable v := by
  unfold takesPassword at htext
  simp only [canConnect, h.first.password, h.second.password, Option.all_some, h.databasePath,
    h.username, h.parameters, htext]

/-- Both strings look the same in a message. -/
theorem redact_of_differ (h : DifferInPassword a b p q u v) (hscheme : u.scheme = scheme)
    (hhost : u.host?.isSome = true) : redact (a ++ p ++ b) = redact (a ++ q ++ b) := by
  have hfile : u.scheme ≠ "file".toList := by
    rw [hscheme]
    decide
  rw [redact, redact, h.first.url, h.second.url]
  simp only [hidePassword_eq h.same (by simp [h.first.password]) (by simp [h.second.password])
    hhost hfile]

/-- The error for connections that cannot be prepared. -/
def noPool (connection : String) : Error :=
  .collection s!"Failed to create MySQL connection pool to {redact connection}"

/-- A URL is refused by the driver with a message that hides its password. -/
theorem connect_eq [Driver] {usable : String × String → Bool}
    (hreads : ∀ connection, (Driver.pool? connection).isSome = canRead usable connection)
    {connection : String} (h : ofText connection = .ok u) {settings : ConnectionSettings}
    (hsettings : ConnectionSettings.ofUrl connection = .ok settings) :
    connect connection =
      if canConnect usable u then .ok settings else .error (noPool connection) := by
  have hread : (Driver.pool? connection).isSome = canConnect usable u := by
    rw [hreads, canRead, h]
  rw [connect, hsettings, ok_bind, pool, ← hread]
  cases Driver.pool? connection <;> rfl

/-- Both strings have no usable settings, or the same settings, which only the password can keep
from being used. -/
theorem connect_of_differ [Driver] {usable : String × String → Bool}
    (hreads : ∀ connection, (Driver.pool? connection).isSome = canRead usable connection)
    (h : DifferInPassword a b p q u v) :
    (∃ e, connect (a ++ p ++ b) = .error e ∧ connect (a ++ q ++ b) = .error e) ∨
      ∃ settings refusal,
        connect (a ++ p ++ b) = (if canConnect usable u then .ok settings else .error refusal) ∧
          connect (a ++ q ++ b) = if canConnect usable v then .ok settings else .error refusal := by
  have hsame := ofUrl_of_differ h
  cases hsettings : ConnectionSettings.ofUrl (a ++ p ++ b) with
  | error e =>
    rw [connect, connect, ← hsame, hsettings]
    exact .inl ⟨e, rfl, rfl⟩
  | ok settings =>
    obtain ⟨hscheme, hhost⟩ := of_ofUrl_eq_ok h hsettings
    have hredact : noPool (a ++ p ++ b) = noPool (a ++ q ++ b) := by
      rw [noPool, noPool, redact_of_differ h hscheme hhost]
    refine .inr ⟨settings, noPool (a ++ p ++ b), connect_eq hreads h.first.url hsettings, ?_⟩
    rw [hredact]
    exact connect_eq hreads h.second.url (hsame ▸ hsettings)

end

end Server

/-! ## Opening -/

theorem eq_of_eq_error {α : Type} {x y : Except Error α} (h : x = y) {e e' : Error}
    (hx : x = .error e) (hy : y = .error e') : e = e' := by
  rw [h, hy] at hx
  exact (Except.error.inj hx).symm

/-- What a source tells of itself. -/
def Source.shown (source : Source) : SourceKind × ConnectionSettings :=
  (source.kind, source.settings)

section

variable [DomainNames] [Server.Driver]

/-- A server is opened as soon as its connections are prepared. -/
theorem exec_openAt_mysql {connection : String}
    (h : SourceKind.ofConnection connection = .ok .mysql) (w : World) :
    w.exec (Source.shown <$> Source.openAt connection) =
      match Server.connect connection with
      | .ok settings =>
        (.ok (.mysql, settings), { w with journal := Server.connectNote settings :: w.journal })
      | .error e => (.error e, w) := by
  rw [World.exec_map, Source.openAt]
  simp only [World.exec_bind, World.exec_liftExcept, h]
  cases hconnect : Server.connect connection with
  | error e => rfl
  | ok settings =>
    obtain ⟨_, _, hpool⟩ := bind_eq_ok_iff.1 hconnect
    obtain ⟨pool, hpool, _⟩ := bind_eq_ok_iff.1 hpool
    simp only [World.exec_record, hpool]
    rfl

theorem exec_openAt_unknown {connection : String} {e : Error}
    (h : SourceKind.ofConnection connection = .error e) (w : World) :
    w.exec (Source.shown <$> Source.openAt connection) = (.error e, w) := by
  rw [World.exec_map, Source.openAt, World.exec_bind, World.exec_liftExcept, h]
  rfl

theorem exec_shown_eq_error {connection : String} {w : World} {e : Error}
    (h : (w.exec (Source.openAt connection)).1 = .error e) :
    (w.exec (Source.shown <$> Source.openAt connection)).1 = .error e := by
  rw [World.exec_map, h]
  rfl

/-- Both strings have the same outcome, unless the driver takes only one of the passwords.  Then the
string with that one is opened. -/
theorem shown_cases_of_differ [Server.LawfulDriver] {a b p q : String} {u v : Url}
    (h : DifferInPassword a b p q u v)
    (hfirst : SourceKind.ofConnection (a ++ p ++ b) ≠ .ok .snapshot)
    (hsecond : SourceKind.ofConnection (a ++ q ++ b) ≠ .ok .snapshot) (w : World) :
    w.exec (Source.shown <$> Source.openAt (a ++ p ++ b)) =
        w.exec (Source.shown <$> Source.openAt (a ++ q ++ b)) ∨
      Server.takesPassword p.toList ≠ Server.takesPassword q.toList ∧
        ((∃ shown, (w.exec (Source.shown <$> Source.openAt (a ++ p ++ b))).1 = .ok shown) ∨
          ∃ shown, (w.exec (Source.shown <$> Source.openAt (a ++ q ++ b))).1 = .ok shown) := by
  have hkind := ofConnection_eq_of_differ h hfirst hsecond
  cases hfound : SourceKind.ofConnection (a ++ p ++ b) with
  | error e =>
    rw [exec_openAt_unknown hfound, exec_openAt_unknown (hkind ▸ hfound)]
    exact .inl rfl
  | ok kind =>
    cases kind with
    | snapshot => exact absurd hfound hfirst
    | mysql =>
      obtain ⟨usable, hreads⟩ := Server.LawfulDriver.isSome_pool?
      rw [exec_openAt_mysql hfound, exec_openAt_mysql (hkind ▸ hfound)]
      rcases Server.connect_of_differ hreads h with ⟨e, hp, hq⟩ | ⟨settings, refusal, hp, hq⟩
      · rw [hp, hq]
        exact .inl rfl
      · rw [hp, hq]
        by_cases hsame : Server.canConnect usable u = Server.canConnect usable v
        · rw [hsame]
          exact .inl rfl
        · refine .inr ⟨fun htext => hsame (Server.canConnect_of_differ h htext usable), ?_⟩
          -- One of the strings is not refused, so it is opened.
          cases hu : Server.canConnect usable u with
          | true => exact .inl ⟨_, rfl⟩
          | false =>
            have hv : Server.canConnect usable v = true := by simpa [hu] using hsame
            rw [hv]
            exact .inr ⟨_, rfl⟩

/-- Opening a source does not depend on the password in its connection string: what the source tells
of itself, or the error, is the same, and so are the reports.  A server may refuse a password that is
no text; but if both strings fail, they fail with the same error.  All this is so as long as no
string is taken for the path of a snapshot. -/
theorem openAt_of_differ [Server.LawfulDriver] {a b p q : String} {u v : Url}
    (h : DifferInPassword a b p q u v)
    (hfirst : SourceKind.ofConnection (a ++ p ++ b) ≠ .ok .snapshot)
    (hsecond : SourceKind.ofConnection (a ++ q ++ b) ≠ .ok .snapshot) (w : World) :
    (Server.takesPassword p.toList = Server.takesPassword q.toList →
      w.exec (Source.shown <$> Source.openAt (a ++ p ++ b)) =
        w.exec (Source.shown <$> Source.openAt (a ++ q ++ b))) ∧
    ∀ e e', (w.exec (Source.openAt (a ++ p ++ b))).1 = .error e →
      (w.exec (Source.openAt (a ++ q ++ b))).1 = .error e' → e = e' := by
  rcases shown_cases_of_differ h hfirst hsecond w with
    hsame | ⟨htext, ⟨shown, hopened⟩ | ⟨shown, hopened⟩⟩
  · exact ⟨fun _ => hsame, fun e e' he he' => eq_of_eq_error (congrArg Prod.fst hsame)
      (exec_shown_eq_error he) (exec_shown_eq_error he')⟩
  · exact ⟨fun hsame => absurd hsame htext,
      fun e e' he _ => absurd (hopened.symm.trans (exec_shown_eq_error he)) nofun⟩
  · exact ⟨fun hsame => absurd hsame htext,
      fun e e' _ he' => absurd (hopened.symm.trans (exec_shown_eq_error he')) nofun⟩

end

/-- The URL of a shop's server with its password. -/
def shopUrl (password : String) : Url where
  scheme := "mysql".toList
  authority := some
    { username := "app".toList, password := some password.toList, host := .name "db".toList }
  path := .slashed ["shop".toList]

theorem openAt_of_differ_shop :
    let w : World := { tree := {}, clock := default }
    DifferInPassword "mysql://app:" "@db/shop" "one" "two" (shopUrl "one") (shopUrl "two") ∧
      SourceKind.ofConnection ("mysql://app:" ++ "one" ++ "@db/shop") ≠ .ok .snapshot ∧
      SourceKind.ofConnection ("mysql://app:" ++ "two" ++ "@db/shop") ≠ .ok .snapshot ∧
      Server.takesPassword "one".toList = Server.takesPassword "two".toList ∧
      w.exec (Source.shown <$> Source.openAt ("mysql://app:" ++ "one" ++ "@db/shop")) =
        w.exec (Source.shown <$> Source.openAt ("mysql://app:" ++ "two" ++ "@db/shop")) := by
  have h : DifferInPassword "mysql://app:" "@db/shop" "one" "two" (shopUrl "one")
      (shopUrl "two") :=
    ⟨⟨by decide +kernel, by decide +kernel⟩, ⟨by decide +kernel, by decide +kernel⟩,
      by simp [withoutPassword, shopUrl], by decide, by decide, .inl (by decide +kernel)⟩
  have hfirst : SourceKind.ofConnection ("mysql://app:" ++ "one" ++ "@db/shop") ≠
      .ok .snapshot := by decide +kernel
  have hsecond : SourceKind.ofConnection ("mysql://app:" ++ "two" ++ "@db/shop") ≠
      .ok .snapshot := by decide +kernel
  have htext : Server.takesPassword "one".toList = Server.takesPassword "two".toList := by
    decide +kernel
  exact ⟨h, hfirst, hsecond, htext, (openAt_of_differ h hfirst hsecond _).1 htext⟩

/-- A URL whose scheme is not in lower case, and whose database is named like a file, is taken for
the path of a snapshot.  The error shows its password. -/
theorem openAt_shows_password :
    let url (password : String) : Url :=
      { shopUrl password with path := .slashed ["shop.json".toList] }
    let w : World := { tree := {}, clock := default }
    let opened (password : String) :=
      (w.exec (Source.openAt ("MYSQL://app:" ++ password ++ "@db/shop.json"))).1.map Source.settings
    DifferInPassword "MYSQL://app:" "@db/shop.json" "one" "two" (url "one") (url "two") ∧
      Server.takesPassword "one".toList = Server.takesPassword "two".toList ∧
      opened "one" =
        .error (.io "Failed to read source snapshot MYSQL://app:one@db/shop.json") ∧
      opened "two" =
        .error (.io "Failed to read source snapshot MYSQL://app:two@db/shop.json") ∧
      opened "one" ≠ opened "two" := by
  refine ⟨⟨⟨?_, ?_⟩, ⟨?_, ?_⟩, by simp [withoutPassword, shopUrl], ?_, ?_, ?_⟩, ?_⟩
  all_goals decide +kernel

end ShardMerge
