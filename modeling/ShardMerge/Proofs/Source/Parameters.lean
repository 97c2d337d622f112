import Mathlib.Data.List.Induction
import ShardMerge.Proofs.Computation
import ShardMerge.Proofs.Url.Settled
import ShardMerge.Source.Server

/-!
# Parameters of connection strings

What the query of a connection string changes: two timeouts and the number of connections, and
nothing else.

* `lastNumber?` is the last usable value of a parameter.  `foldl_applyParameter` says that applying
  all parameters in turn sets each of the three settings to it.
* `validate_configured` and `hasText_host` are why no parameter leads to settings that are refused:
  what a parameter sets is within the bounds, and the host comes from another part of the URL.
* `ofUrl_eq` puts this together: the settings of a URL are read at once, after checks that do not
  see the query.  `exists_of_ofUrl_eq_error` lists what is left to fail.
* `ofUrl_of_differInQuery` compares two connection strings, and
  `ConnectionSettings.ofUrl_parameters` says all of this of one.
-/

namespace ShardMerge

open Text Url

namespace Server

/-! ## One parameter -/

/-- The number that a text stands for, if it is between one and `most`. -/
def number? (most : Nat) (value : String) : Option Nat := do
  let n ← Decimal.ofDigits? (Decimal.dropPlus value.toList)
  if 1 ≤ n ∧ n ≤ most then some n else none

/-- The number that a parameter gives to the setting `name`. -/
def given? (name : String) (most : Nat) (parameter : String × String) : Option Nat :=
  if parameter.1 = name then number? most parameter.2 else none

/-- A timeout of so many seconds. -/
def timeout (seconds : Nat) : Span := .ofSeconds (UInt64.ofNat seconds)

theorem bounds_of_number? {most n : Nat} {value : String} (h : number? most value = some n) :
    1 ≤ n ∧ n ≤ most := by
  obtain ⟨m, _, hm⟩ := Option.bind_eq_some_iff.1 h
  split at hm
  · rename_i hbounds
    cases hm
    exact hbounds
  · cases hm

/-- A number that is small enough is read whatever the width is that it has to fit in. -/
theorem number?_eq_of_lt {most : Nat} (limit : Nat) (h : most < limit) (value : String) :
    number? most value =
      (Decimal.readBelow limit value.toList).bind fun n =>
        if 1 ≤ n ∧ n ≤ most then some n else none := by
  unfold Decimal.readBelow number?
  cases Decimal.ofDigits? (Decimal.dropPlus value.toList) with
  | none => rfl
  | some n =>
    by_cases hlimit : n < limit
    · simp [hlimit]
    · have hmost : ¬(1 ≤ n ∧ n ≤ most) := by omega
      simp only [Option.bind_eq_bind, Option.bind_some, hmost, hlimit, if_false, Option.bind_none]

theorem readTimeout?_eq (value : String) :
    readTimeout? value = (number? 300 value).map timeout := by
  rw [number?_eq_of_lt UInt64.size (by decide), readTimeout?, Decimal.readUInt64]
  cases hread : Decimal.readBelow UInt64.size value.toList with
  | none => rfl
  | some n =>
    have hto : (UInt64.ofNat n).toNat = n :=
      UInt64.toNat_ofNat_of_lt' (Decimal.lt_of_readBelow hread)
    have hbound : (0 < UInt64.ofNat n ∧ UInt64.ofNat n ≤ ConnectionSettings.longestTimeout) ↔
        1 ≤ n ∧ n ≤ 300 := by
      rw [UInt64.lt_iff_toNat_lt, UInt64.le_iff_toNat_le, hto]
      exact Iff.rfl
    by_cases h : 1 ≤ n ∧ n ≤ 300 <;> simp [hbound, h, timeout]

theorem readPoolSize?_eq (value : String) :
    readPoolSize? value = (number? 100 value).map UInt32.ofNat := by
  rw [number?_eq_of_lt UInt32.size (by decide), readPoolSize?, Decimal.readUInt32]
  cases hread : Decimal.readBelow UInt32.size value.toList with
  | none => rfl
  | some n =>
    have hto : (UInt32.ofNat n).toNat = n :=
      UInt32.toNat_ofNat_of_lt' (Decimal.lt_of_readBelow hread)
    have hbound : (0 < UInt32.ofNat n ∧ UInt32.ofNat n ≤ ConnectionSettings.mostConnections) ↔
        1 ≤ n ∧ n ≤ 100 := by
      rw [UInt32.lt_iff_toNat_lt, UInt32.le_iff_toNat_le, hto]
      exact Iff.rfl
    by_cases h : 1 ≤ n ∧ n ≤ 100 <;> simp [hbound, h]

/-- A parameter sets what it names and is usable for. -/
theorem applyParameter_eq (s : ConnectionSettings) (p : String × String) :
    applyParameter s p =
      { s with
        connectTimeout := ((given? "connect_timeout" 300 p).map timeout).getD s.connectTimeout
        queryTimeout := ((given? "query_timeout" 300 p).map timeout).getD s.queryTimeout
        maxConnections :=
          ((given? "pool_max_conns" 100 p).map UInt32.ofNat).getD s.maxConnections } := by
  unfold applyParameter given?
  split
  · simp [readTimeout?_eq]
  · simp [readTimeout?_eq]
  · simp [readPoolSize?_eq]
  · rename_i hconnect hquery hpool
    obtain ⟨name, value⟩ := p
    have hconnect' : name ≠ "connect_timeout" := fun h => hconnect value (by rw [h])
    have hquery' : name ≠ "query_timeout" := fun h => hquery value (by rw [h])
    have hpool' : name ≠ "pool_max_conns" := fun h => hpool value (by rw [h])
    simp [hconnect', hquery', hpool']

/-! ## All parameters -/

/-- The number that the last usable parameter gives to the setting `name`. -/
def lastNumber? (name : String) (most : Nat) (parameters : List (String × String)) : Option Nat :=
  (parameters.filterMap (given? name most)).getLast?

theorem lastNumber?_concat (name : String) (most : Nat) (parameters : List (String × String))
    (p : String × String) :
    lastNumber? name most (parameters ++ [p]) =
      (given? name most p).or (lastNumber? name most parameters) := by
  unfold lastNumber?
  rw [List.filterMap_append]
  cases h : given? name most p with
  | none => simp [h]
  | some n => simp [h]

/-- A number that is given is within its bounds. -/
theorem bounds_of_lastNumber? {name : String} {most n : Nat} {parameters : List (String × String)}
    (h : lastNumber? name most parameters = some n) : 1 ≤ n ∧ n ≤ most := by
  obtain ⟨p, _, hp⟩ := List.mem_filterMap.1 (List.mem_of_getLast? h)
  unfold given? at hp
  split at hp
  · exact bounds_of_number? hp
  · cases hp

/-- Only the parameters of its own name matter to a setting. -/
theorem lastNumber?_filter (name : String) (most : Nat) (parameters : List (String × String)) :
    lastNumber? name most (parameters.filter fun p => p.1 = name) =
      lastNumber? name most parameters := by
  unfold lastNumber?
  rw [List.filterMap_filter]
  congr 2
  funext p
  by_cases h : p.1 = name <;> simp [given?, h]

/-- What the parameters change in settings. -/
def withParameters (s : ConnectionSettings) (parameters : List (String × String)) :
    ConnectionSettings :=
  { s with
    connectTimeout :=
      ((lastNumber? "connect_timeout" 300 parameters).map timeout).getD s.connectTimeout
    queryTimeout := ((lastNumber? "query_timeout" 300 parameters).map timeout).getD s.queryTimeout
    maxConnections :=
      ((lastNumber? "pool_max_conns" 100 parameters).map UInt32.ofNat).getD s.maxConnections }

/-- Applied in turn, the parameters set what the last usable ones give. -/
theorem foldl_applyParameter (s : ConnectionSettings) (parameters : List (String × String)) :
    parameters.foldl applyParameter s = withParameters s parameters := by
  induction parameters using List.reverseRecOn with
  | nil => rfl
  | append_singleton parameters p ih =>
    have hor {α : Type} (a b : Option Nat) (f : Nat → α) (c : α) :
        (a.map f).getD ((b.map f).getD c) = ((a.or b).map f).getD c := by
      cases a <;> rfl
    rw [List.foldl_append, ih, List.foldl_cons, List.foldl_nil, applyParameter_eq]
    simp only [withParameters, lastNumber?_concat, hor]

/-- The parameters that settings know. -/
def parameterNames : List String := ["connect_timeout", "query_timeout", "pool_max_conns"]

/-- Settings with what parameters say about them, or the usual values where they say nothing. -/
def configured (s : ConnectionSettings) (parameters : List (String × String)) :
    ConnectionSettings :=
  { s with
    connectTimeout := timeout ((lastNumber? "connect_timeout" 300 parameters).getD 30)
    queryTimeout := timeout ((lastNumber? "query_timeout" 300 parameters).getD 30)
    maxConnections := UInt32.ofNat ((lastNumber? "pool_max_conns" 100 parameters).getD 8) }

/-- What parameters say about settings is within the bounds that settings have. -/
theorem bounds_of_getD {name : String} {most usual : Nat} {parameters : List (String × String)}
    (husual : 1 ≤ usual ∧ usual ≤ most) :
    1 ≤ (lastNumber? name most parameters).getD usual ∧
      (lastNumber? name most parameters).getD usual ≤ most := by
  cases h : lastNumber? name most parameters with
  | none => exact husual
  | some n => exact bounds_of_lastNumber? h

theorem validateTimeout_timeout (name : String) {n : Nat} (h : 1 ≤ n ∧ n ≤ 300) :
    ConnectionSettings.validateTimeout name (timeout n) = .ok () := by
  have hto : (UInt64.ofNat n).toNat = n := UInt64.toNat_ofNat_of_lt' (by unfold UInt64.size; omega)
  have hleast : Span.ofSeconds 1 ≤ timeout n := by
    change 1000000000 ≤ (UInt64.ofNat n).toNat * 1000000000 + 0
    omega
  have hmost : timeout n ≤ Span.ofSeconds ConnectionSettings.longestTimeout := by
    change (UInt64.ofNat n).toNat * 1000000000 + 0 ≤ 300000000000
    omega
  rw [ConnectionSettings.validateTimeout, decide_eq_true ⟨hleast, hmost⟩]
  rfl

theorem toNat_maxConnections_configured (s : ConnectionSettings)
    (parameters : List (String × String)) :
    (configured s parameters).maxConnections.toNat =
      (lastNumber? "pool_max_conns" 100 parameters).getD 8 := by
  have hmost : (lastNumber? "pool_max_conns" 100 parameters).getD 8 ≤ 100 :=
    (bounds_of_getD (by decide)).2
  exact UInt32.toNat_ofNat_of_lt' (by unfold UInt32.size; omega)

/-- No parameter leads to settings that are refused. -/
theorem validate_configured {s : ConnectionSettings} (parameters : List (String × String))
    (hhost : hasText s.host = true) (hport : s.port ≠ some 0) :
    (configured s parameters).validate = .ok () := by
  have hpool : 1 ≤ (configured s parameters).maxConnections ∧
      (configured s parameters).maxConnections ≤ ConnectionSettings.mostConnections := by
    rw [UInt32.le_iff_toNat_le, UInt32.le_iff_toNat_le, toNat_maxConnections_configured]
    exact bounds_of_getD (by decide)
  have hconnect : ConnectionSettings.validateTimeout "connect_timeout"
      (configured s parameters).connectTimeout = .ok () :=
    validateTimeout_timeout _ (bounds_of_getD (by decide))
  have hquery : ConnectionSettings.validateTimeout "query_timeout"
      (configured s parameters).queryTimeout = .ok () :=
    validateTimeout_timeout _ (bounds_of_getD (by decide))
  have hhost' : hasText (configured s parameters).host = true := hhost
  have hport' : (configured s parameters).port ≠ some 0 := hport
  unfold ConnectionSettings.validate
  simp only [require, hhost', decide_eq_true hport', decide_eq_true hpool, if_true, ok_bind,
    hconnect, hquery]

/-! ## Hosts -/

theorem hasText_ofList {s : List Char} {c : Char} (hc : c ∈ s) (h : isBlank c = false) :
    hasText (String.ofList s) = true := by
  rw [hasText, isBlankText, String.toList_ofList, Bool.not_eq_true', List.all_eq_false]
  exact ⟨c, hc, by simp [h]⟩

/-- A server that is named has a name that can be seen. -/
theorem hasText_host [DomainNames] {connection : String} {url : Url} {host : List Char}
    (h : ofText connection = .ok url) (hscheme : url.scheme = scheme)
    (hhost : url.host? = some host) : hasText (String.ofList host) = true := by
  have hfile : scheme ≠ "file".toList := by decide
  have hsettled := settled_of_ofText h (by rw [hhost]; rfl) (hscheme ▸ hfile)
  obtain ⟨a, ha, hauthority⟩ := hsettled.authority
  obtain ⟨c, rest, hwrite⟩ := List.exists_cons_of_ne_nil hauthority.host.write_ne_nil
  have hc : c ∈ a.host.write := hwrite ▸ List.mem_cons_self
  have hvisible := hauthority.host.standsInside hc
  have hblank : isBlank c = false := by
    have hfirst := hvisible.printable
    have hlast := hvisible.ascii
    simp [isBlank]
    omega
  simp only [Url.host?, ha] at hhost
  split at hhost
  · cases hhost
  · rw [← Option.some.inj hhost]
    exact hasText_ofList hc hblank

/-! ## The settings of a connection string -/

/-- What a URL has to be like to have settings. -/
def checkUrl (url : Url) : Except Error Unit := do
  require (url.scheme = scheme) "Connection string must use mysql:// scheme"
  require url.host?.isSome "Connection string must specify a host"
  require (url.port?.getD usualPort ≠ 0) "Invalid port number: must be greater than 0"
  require ((databasePath url).length ≤ longestDatabase)
    "Database name too long: maximum 64 characters"
  require (url.username.length ≤ longestUsername)
    "Username too long: maximum 32 characters for MySQL"

/-- What a URL says in front of its query. -/
def partSettings (url : Url) : ConnectionSettings where
  host := String.ofList (url.host?.getD "localhost".toList)
  port := some (url.port?.getD usualPort)
  database := nonEmpty (databasePath url)
  username := nonEmpty url.username

theorem checkUrl_eq_ok_iff {url : Url} {done : Unit} :
    checkUrl url = .ok done ↔
      url.scheme = scheme ∧ url.host?.isSome = true ∧ url.port?.getD usualPort ≠ 0 ∧
        (databasePath url).length ≤ longestDatabase ∧ url.username.length ≤ longestUsername := by
  simp only [checkUrl, bind_eq_ok_iff, require_eq_ok_iff, exists_const, decide_eq_true_eq]

theorem readUrl_eq_ok_iff [DomainNames] {connection : String} {url : Url} :
    readUrl connection = .ok url ↔ ofText connection = .ok url := by
  unfold readUrl
  cases ofText connection <;> simp

theorem foldl_partSettings (url : Url) (parameters : List (String × String)) :
    parameters.foldl applyParameter (partSettings url) =
      configured (partSettings url) parameters := by
  have hgiven {α : Type} (f : Nat → α) (usual : Nat) (n : Option Nat) :
      f (n.getD usual) = (n.map f).getD (f usual) := (Option.getD_map f usual n).symm
  rw [foldl_applyParameter]
  simp only [withParameters, configured, hgiven timeout, hgiven UInt32.ofNat]
  rfl

/-- The settings of a connection string are those of the parts of its URL, with what its parameters
say about them.  The checks are made before the parameters are looked at. -/
theorem ofUrl_eq [DomainNames] (connection : String) :
    ConnectionSettings.ofUrl connection = (do
      let url ← readUrl connection
      checkUrl url
      .ok (configured (partSettings url) (parameters url))) := by
  have hread : ConnectionSettings.ofUrl connection = (do
      let url ← readUrl connection
      checkUrl url
      let settings := (parameters url).foldl applyParameter (partSettings url)
      settings.validate
      .ok settings) := by
    simp only [ConnectionSettings.ofUrl, urlWithHost, checkUrl, bind_assoc]
    rfl
  rw [hread]
  cases hurl : readUrl connection with
  | error e => rfl
  | ok url =>
    simp only [ok_bind]
    cases hcheck : checkUrl url with
    | error e => rfl
    | ok done =>
      obtain ⟨hscheme, hhost, hport, _, _⟩ := checkUrl_eq_ok_iff.1 hcheck
      obtain ⟨host, hhost⟩ := Option.isSome_iff_exists.1 hhost
      have hpart : hasText (partSettings url).host = true := by
        rw [partSettings, hhost]
        exact hasText_host (readUrl_eq_ok_iff.1 hurl) hscheme hhost
      have hvalid : (configured (partSettings url) (parameters url)).validate = .ok () :=
        validate_configured _ hpart (by simpa [partSettings] using hport)
      rw [foldl_partSettings, hvalid]
      rfl

theorem ofUrl_eq_ok_iff [DomainNames] {connection : String} {settings : ConnectionSettings} :
    ConnectionSettings.ofUrl connection = .ok settings ↔
      ∃ url, ofText connection = .ok url ∧ checkUrl url = .ok () ∧
        settings = configured (partSettings url) (parameters url) := by
  simp only [ofUrl_eq, bind_eq_ok_iff, readUrl_eq_ok_iff, Except.ok.injEq]
  constructor
  · intro h
    obtain ⟨url, hurl, _, hcheck, rfl⟩ := h
    exact ⟨url, hurl, hcheck, rfl⟩
  · intro h
    obtain ⟨url, hurl, hcheck, rfl⟩ := h
    exact ⟨url, hurl, (), hcheck, rfl⟩

/-- What keeps a URL from having settings.  Nothing of it is about a parameter. -/
def refusals : List String :=
  ["Connection string must use mysql:// scheme", "Connection string must specify a host",
    "Invalid port number: must be greater than 0", "Database name too long: maximum 64 characters",
    "Username too long: maximum 32 characters for MySQL"]

theorem exists_refusal_of_checkUrl {url : Url} {e : Error} (h : checkUrl url = .error e) :
    ∃ message ∈ refusals, e = .configuration message := by
  simp only [checkUrl, bind_eq_error_iff, require_eq_error_iff] at h
  simp only [refusals, List.mem_cons, List.not_mem_nil, or_false]
  rcases h with h | ⟨_, _, h | ⟨_, _, h | ⟨_, _, h | ⟨_, _, h⟩⟩⟩⟩ <;>
    exact ⟨_, by simp, h.2⟩

theorem exists_of_ofUrl_eq_error [DomainNames] {connection : String} {e : Error}
    (h : ConnectionSettings.ofUrl connection = .error e) :
    (∃ fault, ofText connection = .error fault ∧
      e = .configuration s!"Invalid MySQL connection string format: {fault}") ∨
      ∃ message ∈ refusals, e = .configuration message := by
  rw [ofUrl_eq, readUrl] at h
  cases htext : ofText connection with
  | error fault =>
    rw [htext] at h
    cases h
    exact .inl ⟨fault, rfl, rfl⟩
  | ok url =>
    rw [htext] at h
    simp only [ok_bind] at h
    right
    cases hcheck : checkUrl url with
    | error e' =>
      rw [hcheck] at h
      cases h
      exact exists_refusal_of_checkUrl hcheck
    | ok u =>
      rw [hcheck] at h
      cases h

/-! ## Queries that differ -/

/-- Connection strings whose URLs have the same parts in front of their queries. -/
structure DifferInQuery [DomainNames] (a b : String) (u v : Url) : Prop where
  first : ofText a = .ok u
  second : ofText b = .ok v
  same : { u with query := none, fragment := none } = { v with query := none, fragment := none }

/-- Settings follow from the parameters that they know. -/
theorem configured_eq_of_filter_eq {p q : List (String × String)} (s : ConnectionSettings)
    (h : ∀ name ∈ parameterNames,
      p.filter (fun parameter => parameter.1 = name) =
        q.filter fun parameter => parameter.1 = name) :
    configured s p = configured s q := by
  have hlast (name : String) (most : Nat) (hname : name ∈ parameterNames) :
      lastNumber? name most p = lastNumber? name most q := by
    rw [← lastNumber?_filter name most p, h name hname, lastNumber?_filter]
  simp only [configured, hlast "connect_timeout" 300 (by simp [parameterNames]),
    hlast "query_timeout" 300 (by simp [parameterNames]),
    hlast "pool_max_conns" 100 (by simp [parameterNames])]

/-- Other parameters lead to other values of what they set, and to nothing else. -/
theorem ofUrl_of_differInQuery [DomainNames] {a b : String} {u v : Url} (h : DifferInQuery a b u v) :
    ConnectionSettings.ofUrl b =
      (ConnectionSettings.ofUrl a).map fun s => configured s (parameters v) := by
  have hv : v = { u with query := v.query, fragment := v.fragment } := by
    have hsame := h.same
    simp only [Url.mk.injEq, and_true] at hsame
    obtain ⟨hscheme, hauthority, hpath⟩ := hsame
    rw [hscheme, hauthority, hpath]
  have hcheck : checkUrl v = checkUrl u := by
    rw [hv]
    rfl
  have hpart : partSettings v = partSettings u := by
    rw [hv]
    rfl
  rw [ofUrl_eq, ofUrl_eq, readUrl_eq_ok_iff.2 h.first, readUrl_eq_ok_iff.2 h.second]
  simp only [ok_bind, hcheck, hpart]
  cases checkUrl u <;> rfl

end Server

open Server

/-- What the query of a connection string does to the settings.

* A timeout is the last value of its parameter that is a number from 1 to 300, or 30 seconds, and
  the number of connections the last one from 1 to 100, or 8.
* With another query a connection string is refused for the same reason as before, or has the same
  settings but for these three.
* Parameters of other names, wherever they stand, change nothing.
* Any query can be added to a connection string that has settings.
* What a connection string can be refused for is not a timeout, and not a number of connections. -/
theorem ConnectionSettings.ofUrl_parameters [DomainNames] (connection : String) :
    (∀ settings, ofUrl connection = .ok settings →
      ∃ url, ofText connection = .ok url ∧
        settings.connectTimeout =
          timeout ((lastNumber? "connect_timeout" 300 (parameters url)).getD 30) ∧
        settings.queryTimeout =
          timeout ((lastNumber? "query_timeout" 300 (parameters url)).getD 30) ∧
        settings.maxConnections.toNat =
          (lastNumber? "pool_max_conns" 100 (parameters url)).getD 8) ∧
    (∀ other u v, DifferInQuery connection other u v →
      ofUrl other = (ofUrl connection).map fun s => configured s (parameters v)) ∧
    (∀ other u v, DifferInQuery connection other u v →
      (∀ name ∈ parameterNames,
        (parameters u).filter (fun p => p.1 = name) =
          (parameters v).filter fun p => p.1 = name) →
      ofUrl other = ofUrl connection) ∧
    (∀ settings query, ofUrl connection = .ok settings →
      '?' ∉ connection.toList ∧ '#' ∉ connection.toList →
      (∀ c ∈ connection.toList.getLast?, 32 < c.toNat) →
      ∃ url, ofText (connection ++ "?" ++ query) = .ok url ∧
        ofUrl (connection ++ "?" ++ query) = .ok (configured settings (parameters url))) ∧
    ∀ e, ofUrl connection = .error e →
      (∃ fault, ofText connection = .error fault ∧
        e = .configuration s!"Invalid MySQL connection string format: {fault}") ∨
      ∃ message ∈ refusals, e = .configuration message := by
  refine ⟨?_, fun other u v h => ofUrl_of_differInQuery h, ?_, ?_,
    fun e => exists_of_ofUrl_eq_error⟩
  · intro settings h
    obtain ⟨url, hurl, _, rfl⟩ := ofUrl_eq_ok_iff.1 h
    exact ⟨url, hurl, rfl, rfl, toNat_maxConnections_configured _ _⟩
  · intro other u v h hfilter
    have hsame := ofUrl_of_differInQuery ⟨h.first, h.first, rfl⟩
    rw [ofUrl_of_differInQuery h, hsame]
    cases ofUrl connection with
    | error e => rfl
    | ok s => exact congrArg Except.ok (configured_eq_of_filter_eq s hfilter).symm
  · intro settings query h hmarks hend
    obtain ⟨url, hurl, hcheck, _⟩ := ofUrl_eq_ok_iff.1 h
    obtain ⟨hscheme, hhost, _⟩ := checkUrl_eq_ok_iff.1 hcheck
    have hkind : SchemeKind.ofScheme url.scheme = .general := by
      rw [hscheme]
      decide
    obtain ⟨encoded, fragment, hadded⟩ :=
      ofText_append_query hurl hkind hhost hmarks hend query
    refine ⟨_, hadded, ?_⟩
    rw [ofUrl_of_differInQuery ⟨hurl, hadded, rfl⟩, h]
    rfl

/-- The URL of a shop's server with a query. -/
def shopUrlWith (query : Option String) : Url where
  scheme := "mysql".toList
  authority := some { username := "app".toList, host := .name "db".toList }
  path := .slashed ["shop".toList]
  query := query.map String.toList

theorem ConnectionSettings.ofUrl_parameters_shop :
    let query := "connect_timeout=5&connect_timeout=301&pool_max_conns=%2B4"
    let plain := "mysql://app@db/shop"
    let other := "mysql://app@db/shop?x=1&" ++ query ++ "&connect-timeout=7"
    let refused := "mysql:///shop?connect_timeout=0"
    let base : ConnectionSettings :=
      { host := "db", port := some 3306, database := some "shop", username := some "app" }
    let asked := { base with connectTimeout := timeout 5, maxConnections := 4 }
    ofUrl plain = .ok base ∧ ('?' ∉ plain.toList ∧ '#' ∉ plain.toList) ∧
      (∀ c ∈ plain.toList.getLast?, 32 < c.toNat) ∧
      ofUrl (plain ++ "?" ++ query) = .ok asked ∧
      DifferInQuery (plain ++ "?" ++ query) other (shopUrlWith (some query))
        (shopUrlWith (some ("x=1&" ++ query ++ "&connect-timeout=7"))) ∧
      ofUrl other = .ok asked ∧
      asked.connectTimeout = timeout ((lastNumber? "connect_timeout" 300
        (parameters (shopUrlWith (some query)))).getD 30) ∧
      ofUrl refused = .error (.configuration "Connection string must specify a host") ∧
      "Connection string must specify a host" ∈ refusals := by
  intro query plain other refused base asked
  have hplain : ofUrl plain = .ok base := by decide +kernel
  have hmarks : '?' ∉ plain.toList ∧ '#' ∉ plain.toList := by decide +kernel
  have hlast : plain.toList.getLast? = some 'p' := by decide +kernel
  have hend : ∀ c ∈ plain.toList.getLast?, 32 < c.toNat := by
    intro c hc
    rw [hlast, Option.mem_some_iff] at hc
    rw [← hc]
    decide
  have hdiffer : DifferInQuery (plain ++ "?" ++ query) other (shopUrlWith (some query))
      (shopUrlWith (some ("x=1&" ++ query ++ "&connect-timeout=7"))) :=
    ⟨by decide +kernel, by decide +kernel, rfl⟩
  have hasked : ofUrl (plain ++ "?" ++ query) = .ok asked := by
    obtain ⟨url, hurl, hsettings⟩ :=
      (ofUrl_parameters plain).2.2.2.1 base query hplain hmarks hend
    rw [hdiffer.first] at hurl
    cases hurl
    rw [hsettings]
    decide +kernel
  have hrefused :
      ofUrl refused = .error (.configuration "Connection string must specify a host") := by
    decide +kernel
  refine ⟨hplain, hmarks, hend, hasked, hdiffer, ?_, ?_, hrefused, ?_⟩
  · rw [← hasked]
    exact (ofUrl_parameters _).2.2.1 _ _ _ hdiffer (by decide +kernel)
  · obtain ⟨url, hurl, hconnect, _⟩ := (ofUrl_parameters _).1 asked hasked
    rw [hdiffer.first] at hurl
    cases hurl
    exact hconnect
  · rcases (ofUrl_parameters refused).2.2.2.2 _ hrefused with ⟨fault, hfault, _⟩ | h
    · have hread : (ofText refused).isOk = true := by decide +kernel
      rw [hfault] at hread
      cases hread
    · obtain ⟨message, hmessage, h⟩ := h
      cases h
      exact hmessage

end ShardMerge
