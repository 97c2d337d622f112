import ShardMerge.Proofs.Source.Parameters
import ShardMerge.Proofs.Url.Names

/-!
# Limits on names

How long the names of a database and of a user may be in a connection string.

* `ofText_serverText` reads a connection string with two names in it, and `databasePath_serverUrl`
  finds the name of the database again.
* `checkUrl_serverUrl` says what is checked of the names.
* `ConnectionSettings.ofUrl_names` says what becomes of the settings: the limits are on the names as
  the URL writes them, which is more than their characters where something is encoded.
-/

namespace ShardMerge

open Text Url

namespace Server

variable {userText databaseText user database part : List Char}

/-! ## Reading -/

/-- The name of a host. -/
def hostName : List Char := "host".toList

/-- The text of a connection string with the names of a user and of a database. -/
def serverText (userText databaseText : List Char) : String :=
  "mysql://" ++ .ofList userText ++ "@host/" ++ .ofList databaseText

theorem toList_serverText (userText databaseText : List Char) :
    (serverText userText databaseText).toList =
      scheme ++ ':' :: '/' :: '/' :: ((userText ++ '@' :: hostName) ++ '/' :: databaseText) := by
  have hfront : "mysql://".toList = scheme ++ [':', '/', '/'] := by decide
  have hback : "@host/".toList = '@' :: (hostName ++ ['/']) := by decide
  simp only [serverText, String.toList_append, String.toList_ofList, hfront, hback,
    List.append_assoc, List.cons_append, List.nil_append]

/-- The URL of the connection string. -/
def serverUrl (userPart databasePart : List Char) : Url where
  scheme := scheme
  authority := some { username := userPart, host := .name hostName }
  path := .slashed [pathPart databasePart]

theorem readAuthority_eq [DomainNames] (hcolon : ':' ∉ userText) :
    readAuthority .general none (userText ++ '@' :: hostName) =
      .ok { username := percentEncode .userinfo userText, host := .name hostName } := by
  have hcut : cutLast '@' (userText ++ '@' :: hostName) = some (userText, hostName) :=
    cutLast_append_cons (by decide) userText
  have huser : readUser userText = (percentEncode .userinfo userText, none) := by
    rw [readUser, cutFirst_eq_none_iff.2 hcolon]
  have hhost : takeHost false hostName = (hostName, []) := by decide
  have hread : Host.readOpaque hostName = .ok (.name hostName) := by decide +kernel
  have hkind : SchemeKind.isSpecial .general = false := by decide
  have hname : ¬Host.name hostName = .name [] := by decide
  simp only [readAuthority, hcut, Option.getD_some, huser, hhost, hkind, Bool.false_eq_true,
    if_false, hread, ok_bind, hname, false_and]
  rfl

/-- The text of a connection string is all kept, and cut after the scheme. -/
theorem takeScheme_serverText (huser : Denotes .userinfo userText user)
    (hdatabase : Denotes .path databaseText database) :
    takeScheme (clean (serverText userText databaseText).toList) =
      some (scheme, '/' :: '/' :: ((userText ++ '@' :: hostName) ++ '/' :: databaseText)) := by
  rw [toList_serverText, clean_eq_self]
  · have hcut (rest : List Char) : cutFirst ':' (scheme ++ ':' :: rest) = some (scheme, rest) :=
      cutFirst_eq_some_iff.2 ⟨rfl, by decide⟩
    simp only [takeScheme, hcut]
    rfl
  · have hprintable {s : List Char} (h : s.all (fun c => 32 < c.toNat) = true) :
        ∀ c ∈ s, 32 < c.toNat := by simpa using h
    simp only [List.forall_mem_append, List.forall_mem_cons]
    exact ⟨hprintable (by decide), by decide, by decide, by decide,
      ⟨fun c => huser.printable, by decide, hprintable (by decide)⟩, by decide,
      fun c => hdatabase.printable⟩

theorem ofText_serverText [DomainNames] (huser : Denotes .userinfo userText user)
    (hdatabase : Denotes .path databaseText database) :
    ofText (serverText userText databaseText) =
      .ok (serverUrl (percentEncode .userinfo userText) (percentEncode .path databaseText)) := by
  have hcolon : ':' ∉ userText := huser.not_mem (by decide)
  have hslash : '/' ∉ userText ++ '@' :: hostName := by
    rw [List.mem_append]
    exact not_or.2 ⟨huser.not_mem (by decide), by decide⟩
  have hlong : userText ++ '@' :: hostName ≠ ['@'] := by
    intro h
    have hlength := congrArg List.length h
    simp [hostName] at hlength
  have hmark (c : Char) (hc : c = '#' ∨ c = '?') : cutFirst c
      ('/' :: '/' :: ((userText ++ '@' :: hostName) ++ '/' :: databaseText)) = none := by
    have hfront : c ∉ userText := huser.not_mem (by rcases hc with rfl | rfl <;> decide)
    have hback : c ∉ databaseText :=
      hdatabase.not_mem (by rcases hc with rfl | rfl <;> decide)
    have hbetween : c ∉ '/' :: '@' :: hostName := by rcases hc with rfl | rfl <;> decide
    rw [List.mem_cons, not_or] at hbetween
    simp only [cutFirst_eq_none_iff, List.mem_cons, List.mem_append, hbetween, hfront, hback,
      or_self, not_false_eq_true]
  have hslashes : ∀ c ∈ ('/' :: databaseText).head?, SchemeKind.isSlash .general c = true := by
    intro c hc
    rw [← Option.some.inj hc]
    decide
  have hhierarchy := readHierarchy_append (by decide) (isSlash_eq_false hslash) (by simp) hlong
    hslashes (readAuthority_eq hcolon) false
  have hkind : SchemeKind.ofScheme scheme = .general := by decide
  have husual : specialPorts.find? (fun port => port.1.toList = scheme) = none := by decide
  have hpath : readPath .general ('/' :: databaseText) =
      .slashed [pathPart (percentEncode .path databaseText)] :=
    congrArg UrlPath.slashed (readParts_eq (hdatabase.not_mem (by decide)))
  rw [ofText, takeScheme_serverText huser hdatabase]
  simp only [cutFragment, hmark '#' (.inl rfl), cutQuery, hmark '?' (.inr rfl), hkind, husual,
    Option.map_none, Option.isSome_none, Bool.or_self, hhierarchy, ok_bind, hpath]
  rfl

/-! ## Limits -/

theorem databasePath_serverUrl (userPart : List Char) (hslash : '/' ∉ part) :
    databasePath (serverUrl userPart part) = pathPart part := by
  have hpart : '/' ∉ pathPart part := by
    unfold pathPart
    split
    · exact List.not_mem_nil
    · exact hslash
  have hwrite : (serverUrl userPart part).path.write = '/' :: pathPart part :=
    List.append_nil _
  rw [databasePath, hwrite, List.dropWhile_cons_of_pos (by decide)]
  cases hcases : pathPart part with
  | nil => rfl
  | cons c rest =>
    rw [hcases, List.mem_cons, not_or] at hpart
    exact List.dropWhile_cons_of_neg (by simpa using Ne.symm hpart.1)

/-- Dots are so few that they make no difference to the limit. -/
theorem length_pathPart_le_iff :
    (pathPart part).length ≤ longestDatabase ↔ part.length ≤ longestDatabase := by
  unfold pathPart
  split
  · rename_i hdots
    have hshort := length_le_of_dots hdots
    simp only [longestDatabase, List.length_nil]
    omega
  · exact Iff.rfl

/-- The error for the name of a database. -/
def databaseTooLong : Error := .configuration "Database name too long: maximum 64 characters"

/-- The error for the name of a user. -/
def usernameTooLong : Error := .configuration "Username too long: maximum 32 characters for MySQL"

/-- The settings that two parts of a URL lead to. -/
def serverSettings (userPart databasePart : List Char) : ConnectionSettings where
  host := "host"
  port := some usualPort
  database := nonEmpty (pathPart databasePart)
  username := nonEmpty userPart

/-- The limits are all that is checked of the parts. -/
theorem checkUrl_serverUrl (userPart : List Char) (hslash : '/' ∉ part) :
    checkUrl (serverUrl userPart part) =
      if longestDatabase < part.length then .error databaseTooLong
      else if longestUsername < userPart.length then .error usernameTooLong
      else .ok () := by
  have hscheme : (serverUrl userPart part).scheme = scheme := rfl
  have hhost : (serverUrl userPart part).host?.isSome = true := rfl
  have hport : decide ((serverUrl userPart part).port?.getD usualPort ≠ 0) = true := rfl
  have husername : (serverUrl userPart part).username = userPart := rfl
  simp only [checkUrl, require, hscheme, hhost, husername,
    databasePath_serverUrl userPart hslash, length_pathPart_le_iff, decide_true, if_true, ok_bind,
    decide_eq_true_eq]
  rw [if_pos (of_decide_eq_true hport), ok_bind]
  by_cases hdatabase : part.length ≤ longestDatabase
  · rw [if_pos hdatabase, if_neg (Nat.not_lt.2 hdatabase), ok_bind]
    by_cases huser : userPart.length ≤ longestUsername
    · rw [if_pos huser, if_neg (Nat.not_lt.2 huser)]
    · rw [if_neg huser, if_pos (Nat.lt_of_not_le huser)]
      rfl
  · rw [if_neg hdatabase, if_pos (Nat.lt_of_not_le hdatabase)]
    rfl

theorem configured_serverUrl (userPart : List Char) (hslash : '/' ∉ part) :
    configured (partSettings (serverUrl userPart part)) (parameters (serverUrl userPart part)) =
      serverSettings userPart part := by
  have hparts : partSettings (serverUrl userPart part) = serverSettings userPart part := by
    rw [partSettings, databasePath_serverUrl userPart hslash]
    rfl
  rw [hparts]
  rfl

theorem ofUrl_serverText [DomainNames] (huser : Denotes .userinfo userText user)
    (hdatabase : Denotes .path databaseText database) :
    ConnectionSettings.ofUrl (serverText userText databaseText) =
      if longestDatabase < (percentEncode .path databaseText).length then .error databaseTooLong
      else if longestUsername < (percentEncode .userinfo userText).length then
        .error usernameTooLong
      else .ok (serverSettings (percentEncode .userinfo userText)
        (percentEncode .path databaseText)) := by
  have hslash : '/' ∉ percentEncode .path databaseText :=
    (hdatabase.percentEncode (by decide)).not_mem (by decide)
  rw [ofUrl_eq, readUrl_eq_ok_iff.2 (ofText_serverText huser hdatabase), ok_bind,
    checkUrl_serverUrl _ hslash, configured_serverUrl _ hslash]
  split_ifs <;> rfl

end Server

open Server

/-- How long two names may be in a connection string, whatever characters they have.

* The names are read back from the parts of the URL.
* The limits are on the parts, in which a character can take more than one.
* A part is as long as its name only if nothing of it is encoded, and then the limits are on the
  characters of the names.
* A name that has more characters is refused in any case. -/
theorem ConnectionSettings.ofUrl_names [DomainNames]
    {userText databaseText user database : List Char} (huser : Denotes .userinfo userText user)
    (hdatabase : Denotes .path databaseText database) :
    let connection := serverText userText databaseText
    let userPart := percentEncode .userinfo userText
    let databasePart := percentEncode .path databaseText
    ofText connection = .ok (serverUrl userPart databasePart) ∧
    (percentDecodeText? userPart = some (.ofList user) ∧
      percentDecodeText? databasePart = some (.ofList database)) ∧
    (ofUrl connection =
      if 64 < databasePart.length then .error databaseTooLong
      else if 32 < userPart.length then .error usernameTooLong
      else .ok (serverSettings userPart databasePart)) ∧
    (user.length ≤ userPart.length ∧ (userPart.length = user.length ↔ userPart = user)) ∧
    (database.length ≤ databasePart.length ∧
      (databasePart.length = database.length ↔ databasePart = database)) ∧
    (userPart = user → databasePart = database →
      ((∃ settings, ofUrl connection = .ok settings) ↔ database.length ≤ 64 ∧ user.length ≤ 32)) ∧
    (64 < database.length → ofUrl connection = .error databaseTooLong) ∧
    (32 < user.length → ofUrl connection = .error databaseTooLong ∨
      ofUrl connection = .error usernameTooLong) := by
  intro connection userPart databasePart
  have huserPart : Denotes .userinfo userPart user := huser.percentEncode (by decide)
  have hdatabasePart : Denotes .path databasePart database := hdatabase.percentEncode (by decide)
  have houtcome : ofUrl connection =
      if 64 < databasePart.length then .error databaseTooLong
      else if 32 < userPart.length then .error usernameTooLong
      else .ok (serverSettings userPart databasePart) := ofUrl_serverText huser hdatabase
  refine ⟨ofText_serverText huser hdatabase,
    ⟨huserPart.percentDecodeText?_eq, hdatabasePart.percentDecodeText?_eq⟩, houtcome,
    ⟨huserPart.length_le, huserPart.length_eq_iff⟩,
    ⟨hdatabasePart.length_le, hdatabasePart.length_eq_iff⟩, ?_, ?_, ?_⟩
  · intro hplain hplain'
    rw [houtcome, hplain, hplain']
    split_ifs with hlong hlong' <;> simp <;> omega
  · intro hlong
    rw [houtcome, if_pos (Nat.lt_of_lt_of_le hlong hdatabasePart.length_le)]
  · intro hlong
    rw [houtcome, if_pos (Nat.lt_of_lt_of_le hlong huserPart.length_le)]
    split_ifs
    · exact .inl rfl
    · exact .inr rfl

theorem ConnectionSettings.ofUrl_names_shop :
    let written := fun (set : PercentSet) (name : String) =>
      percentEncode ('%' :: '/' :: set) name.toList
    let long := String.ofList (List.replicate 65 'ö')
    Denotes .userinfo (written .userinfo "app") "app".toList ∧
      Denotes .userinfo (written .userinfo long) long.toList ∧
      Denotes .path (written .path "shop") "shop".toList ∧
      Denotes .path (written .path long) long.toList ∧
      (∃ settings, ofUrl (serverText (written .userinfo "app") (written .path "shop")) =
        .ok settings) ∧
      ofUrl (serverText (written .userinfo "app") (written .path long)) = .error databaseTooLong ∧
      ofUrl (serverText (written .userinfo long) (written .path "shop")) =
        .error usernameTooLong := by
  intro written long
  have huser (name : String) : Denotes .userinfo (written .userinfo name) name.toList :=
    denotes_percentEncode (by decide) _
  have hdatabase (name : String) : Denotes .path (written .path name) name.toList :=
    denotes_percentEncode (by decide) _
  have hlong : long.toList.length = 65 := by
    rw [String.toList_ofList, List.length_replicate]
  obtain ⟨_, _, _, _, _, hplain, _, _⟩ := ofUrl_names (huser "app") (hdatabase "shop")
  obtain ⟨_, _, _, _, _, _, hrefused, _⟩ := ofUrl_names (huser "app") (hdatabase long)
  obtain ⟨_, _, houtcome, _, _, _, _, hrefused'⟩ := ofUrl_names (huser long) (hdatabase "shop")
  refine ⟨huser _, huser _, hdatabase _, hdatabase _, ?_, hrefused (by omega), ?_⟩
  · exact (hplain (by decide +kernel) (by decide +kernel)).2 (by decide +kernel)
  · refine (hrefused' (by omega)).resolve_left fun hother => ?_
    rw [houtcome, if_neg (by decide +kernel)] at hother
    split_ifs at hother
    simp [databaseTooLong, usernameTooLong] at hother

/-- A name of six characters is refused because it is written with more. -/
theorem ConnectionSettings.ofUrl_names_accented :
    let user := "éééééé".toList
    let userText := percentEncode ('%' :: '/' :: PercentSet.userinfo) user
    user.length ≤ 32 ∧ Denotes .userinfo userText user ∧
      serverText userText "shop".toList =
        "mysql://%C3%A9%C3%A9%C3%A9%C3%A9%C3%A9%C3%A9@host/shop" ∧
      ofUrl (serverText userText "shop".toList) =
        .error (.configuration "Username too long: maximum 32 characters for MySQL") :=
  ⟨by decide, denotes_percentEncode (by decide) _, by decide +kernel, by decide +kernel⟩

end ShardMerge
