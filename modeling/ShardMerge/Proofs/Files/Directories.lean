import ShardMerge.Proofs.Files.Path

/-!
# Creating directories

A path is created from the top down: each of the directories above it, and the directory itself,
unless they are there.

* `createDirectory_eq_ok_iff` and `ensureDirectory_cases` say what is created: a directory in one
  that is there already, or nothing.
* `createDirectories_eq` lists the paths that are created, and `ensureDirectories_invariant` is the
  induction over them.
* `createDirectories_leads` says where the path leads after a success, and that it leads to an empty
  directory if anything was created.
* `createDirectories_eq_self` says that nothing is created where something is, even if that is no
  directory.
* `IsNewPath.createDirectories_eq` says which directories are created where there was nothing, and
  `createNew_cases` that a file can be created there.
-/

namespace ShardMerge.Tree

variable {t t' : Tree} {follow : Bool} {name path : String} {location base ns pre post : List String}
  {rest : List String} {count : Nat}

/-! ## Where a path leads -/

theorem names_filter (path : String) : (names path).filter (· ≠ ".") = names path := by
  rw [← filter_components, List.filter_filter]
  simp

/-- A path leads to a directory if its names do. -/
theorem walks_components_iff :
    t.Walks true mostLinks [] (components path) ⟨location, some .directory⟩ ↔
      t.Leads (names path) location := by
  constructor
  · intro h
    exact h.of_filter_eq (by rw [filter_components, names_filter])
  · intro h
    exact Walks.of_filter_eq h (by rw [filter_components, names_filter])

theorem isDirectory_iff :
    t.isDirectory path = true ↔ Usable path ∧ ∃ location, t.Leads (names path) location := by
  simp only [isDirectory]
  constructor
  · intro h
    split at h
    · rename_i spot hspot
      obtain ⟨husable, hwalks⟩ := resolve_eq_ok_iff.1 hspot
      obtain ⟨location, node⟩ := spot
      simp only [decide_eq_true_eq] at h
      subst h
      exact ⟨husable, location, walks_components_iff.1 hwalks⟩
    · cases h
  · intro h
    obtain ⟨husable, location, hleads⟩ := h
    rw [resolve_eq_ok_iff.2 ⟨husable, walks_components_iff.2 hleads⟩]
    rfl

/-- The directories on the way to a directory. -/
theorem Leads.of_append (h : t.Leads (pre ++ post) location) : ∃ base, t.Leads pre base := by
  by_cases hpost : post = []
  · rw [hpost, List.append_nil] at h
    exact ⟨location, h⟩
  · exact Walks.of_append h hpost (solid_nil t)

theorem Leads.take (h : t.Leads ns location) (count : Nat) : ∃ base, t.Leads (ns.take count) base := by
  rw [← List.take_append_drop count ns] at h
  exact h.of_append

/-- The entries of a directory that are directories. -/
theorem Leads.enter (h : t.Leads ns base) (hname : IsEntryName name)
    (hthere : t.find? (base ++ [name]) = some .directory) :
    t.Leads (ns ++ [name]) (base ++ [name]) := by
  obtain ⟨left, hleft⟩ := h.append
  rw [Leads, ← walkLinks_eq_ok_iff, hleft true [name] (List.cons_ne_nil _ _),
    walkLinks_enter hname hthere, walkLinks_nil, hthere]

theorem Leads.ne_none (h : t.Leads ns base) (hname : t.Leads (ns ++ [name]) location)
    (hdot : name ≠ ".") (hdotDot : name ≠ "..") : t.find? (base ++ [name]) ≠ none := by
  obtain ⟨left, hleft⟩ := h.append
  have hwalk := hname.walkLinks_eq
  rw [hleft true [name] (List.cons_ne_nil _ _)] at hwalk
  intro hnone
  by_cases hshort : name.utf8ByteSize ≤ longestName
  · rw [walkLinks_name ⟨hdot, hdotDot, hshort⟩, hnone] at hwalk
    cases hwalk
  · rw [walkLinks_long hdot hdotDot (Nat.not_le.1 hshort)] at hwalk
    cases hwalk

/-- The names in the text of a path. -/
theorem names_text (hpieces : ∀ name ∈ ns, IsPiece name) (hdot : ∀ name ∈ ns, name ≠ ".")
    (root : String) : names (Path.text ⟨root, ns⟩) = names root ++ ns := by
  rw [names, pieces_text hpieces, List.filter_append, names, List.append_cancel_left_eq,
    List.filter_eq_self]
  simpa using hdot

/-- Names below a directory are followed from there. -/
theorem resolve_text {root : String} (hleads : t.Leads (names root ++ pre) base)
    (hpieces : ∀ name ∈ pre ++ post, IsPiece name) (hne : post ≠ [])
    (husable : Usable (Path.text ⟨root, pre ++ post⟩)) :
    ∃ left, ∀ follow, t.resolve follow (Path.text ⟨root, pre ++ post⟩) =
      t.walkLinks follow left base post := by
  have hcomponents : components (Path.text ⟨root, pre ++ post⟩) =
      pieces root.toList ++ pre ++ post := by
    rw [components_text hpieces (by simp [hne]), List.append_assoc]
  have hbase : t.Walks true mostLinks [] (pieces root.toList ++ pre) ⟨base, some .directory⟩ := by
    refine Walks.of_filter_eq hleads ?_
    rw [List.filter_append, names_filter, List.filter_append, names]
  obtain ⟨left, hleft⟩ := hbase.append
  refine ⟨left, fun follow => ?_⟩
  rw [resolve_eq husable, hcomponents, hleft follow post hne]

/-- Where there is nothing, a path ends, unless it is beyond the limits. -/
theorem resolve_missing {root : String} (hleads : t.Leads (names root ++ pre) base)
    (hpieces : ∀ other ∈ pre ++ name :: post, IsPiece other) (hdot : name ≠ ".")
    (hdotDot : name ≠ "..") (hnone : t.find? (base ++ [name]) = none) (follow : Bool) :
    t.resolve follow (Path.text ⟨root, pre ++ name :: post⟩) = .error .other ∨
      Usable (Path.text ⟨root, pre ++ name :: post⟩) ∧ IsEntryName name ∧
        t.resolve follow (Path.text ⟨root, pre ++ name :: post⟩) =
          if post = [] then .ok ⟨base ++ [name], none⟩ else .error .notFound := by
  by_cases husable : Usable (Path.text ⟨root, pre ++ name :: post⟩)
  · obtain ⟨left, hleft⟩ := resolve_text hleads hpieces (List.cons_ne_nil _ _) husable
    rw [hleft follow]
    by_cases hshort : name.utf8ByteSize ≤ longestName
    · refine .inr ⟨husable, ⟨hdot, hdotDot, hshort⟩, ?_⟩
      rw [walkLinks_name ⟨hdot, hdotDot, hshort⟩, hnone]
      simp
    · exact .inl (walkLinks_long hdot hdotDot (Nat.not_le.1 hshort) ..)
  · exact .inl (resolve_of_not_usable husable (text_ne_empty hpieces (by simp)) ..)

/-- Where there is nothing, a path within the limits ends. -/
theorem resolve_ne_of_missing {root : String} (hleads : t.Leads (names root ++ pre) base)
    (hpieces : ∀ other ∈ pre ++ name :: post, IsPiece other) (hname : IsEntryName name)
    (hnone : t.find? (base ++ [name]) = none)
    (husable : Usable (Path.text ⟨root, pre ++ name :: post⟩)) (follow : Bool) :
    t.resolve follow (Path.text ⟨root, pre ++ name :: post⟩) ≠ .error .other := by
  obtain ⟨left, hleft⟩ := resolve_text hleads hpieces (List.cons_ne_nil _ _) husable
  rw [hleft follow, walkLinks_name hname, hnone]
  cases post with
  | nil => exact nofun
  | cons next post => exact nofun

/-! ## One directory -/

theorem createDirectory_eq_ok_iff :
    t.createDirectory path = .ok t' ↔ ∃ location,
      t.resolve false (String.ofList (createDirectory.dropSlashes path.toList)) =
        .ok ⟨location, none⟩ ∧ t' = t.put location .directory := by
  unfold createDirectory
  cases hspot : t.resolve false (String.ofList (createDirectory.dropSlashes path.toList)) with
  | error e => simp [hspot, bind, Except.bind]
  | ok spot =>
    obtain ⟨location, node⟩ := spot
    cases node with
    | some node => simp [hspot, bind, Except.bind]
    | none => simp [hspot, bind, Except.bind, eq_comm]

/-- What is a directory cannot be created. -/
theorem not_created_of_leads (h : t.Leads (names path) location) :
    t.createDirectory path ≠ .ok t' := by
  intro hcreate
  obtain ⟨place, hresolve, _⟩ := createDirectory_eq_ok_iff.1 hcreate
  obtain ⟨_, hwalks⟩ := resolve_eq_ok_iff.1 hresolve
  -- The path leads to the directory without the slashes too.
  rw [← names_dropSlashes path] at h
  exact (walks_components_iff.2 h).not_missing rfl hwalks

/-- What is missing is named last: nothing is looked for in it. -/
theorem eq_nil_of_missing (h : t.Walks false mostLinks [] (ns ++ rest) ⟨location, none⟩)
    (hrest : rest.filter (· ≠ ".") = []) : rest = [] := by
  by_contra hne
  obtain ⟨place, hplace⟩ := h.of_append hne (solid_nil t)
  have hsame : t.Walks true mostLinks [] (ns ++ rest) ⟨place, some .directory⟩ :=
    hplace.of_filter_eq (by rw [List.filter_append _ rest, hrest, List.append_nil])
  exact hsame.not_missing rfl h

/-- What is created is an entry of the directory that the other names lead to. -/
theorem createDirectory_eq_ok (hnames : names path = ns ++ [name]) (hleads : t.Leads ns base)
    (hdotDot : name ≠ "..") (h : t.createDirectory path = .ok t') :
    IsEntryName name ∧ t.find? (base ++ [name]) = none ∧
      t' = t.put (base ++ [name]) .directory := by
  obtain ⟨location, hresolve, rfl⟩ := createDirectory_eq_ok_iff.1 h
  obtain ⟨_, hwalks⟩ := resolve_eq_ok_iff.1 hresolve
  have hfilter := filter_components (String.ofList (createDirectory.dropSlashes path.toList))
  rw [names_dropSlashes, hnames] at hfilter
  obtain ⟨front, back, heq, hfront, hback⟩ := List.filter_eq_append_iff.1 hfilter
  obtain ⟨dots, rest, rfl, hdots, hname, hrest⟩ := List.filter_eq_cons_iff.1 hback
  have hdot : name ≠ "." := by simpa using hname
  have hlast : rest = [] := by
    rw [heq, ← List.append_assoc, ← List.singleton_append, ← List.append_assoc] at hwalks
    exact eq_nil_of_missing hwalks hrest
  have hbase : t.Walks true mostLinks [] (front ++ dots) ⟨base, some .directory⟩ := by
    refine Walks.of_filter_eq hleads ?_
    have hnone : dots.filter (· ≠ ".") = [] := by
      rw [List.filter_eq_nil_iff]
      simpa using hdots
    rw [List.filter_append, hfront, hnone, List.append_nil, ← hfront, List.filter_filter]
    simp
  obtain ⟨left, hleft⟩ := hbase.append
  have hwalk := hwalks.walkLinks_eq
  rw [heq, hlast, ← List.append_assoc, hleft false [name] (List.cons_ne_nil _ _)] at hwalk
  by_cases hshort : name.utf8ByteSize ≤ longestName
  · have hentry : IsEntryName name := ⟨hdot, hdotDot, hshort⟩
    rw [walkLinks_name hentry] at hwalk
    split at hwalk
    · rename_i hnone
      cases hwalk
      exact ⟨hentry, hnone, rfl⟩
    · rename_i hthere
      rw [walkLinks_nil, hthere] at hwalk
      cases hwalk
    · cases hwalk
    · cases hwalk
  · rw [walkLinks_long hdot hdotDot (Nat.not_le.1 hshort)] at hwalk
    cases hwalk

/-- A directory can be created where there is nothing, in a directory. -/
theorem createDirectory_eq (husable : Usable path) (hcomponents : components path = ns ++ [name])
    (hleads : t.Leads (ns.filter (· ≠ ".")) base) (hname : IsEntryName name)
    (hnone : t.find? (base ++ [name]) = none) :
    t.createDirectory path = .ok (t.put (base ++ [name]) .directory) := by
  have hslash : ¬∃ front, path.toList = front ++ ['/'] := by
    intro hslash
    rw [components_eq, if_pos (endsWith_slash_iff.2 hslash)] at hcomponents
    have hdot := (List.append_inj' hcomponents rfl).2
    injection hdot with hdot
    exact hname.ne_dot hdot.symm
  rw [createDirectory_eq_ok_iff, dropSlashes_eq hslash]
  refine ⟨base ++ [name], ?_, rfl⟩
  have hbase : t.Walks true mostLinks [] ns ⟨base, some .directory⟩ := by
    refine Walks.of_filter_eq hleads ?_
    rw [List.filter_filter]
    simp
  obtain ⟨left, hleft⟩ := hbase.append
  rw [resolve_eq husable, hcomponents, hleft false [name] (List.cons_ne_nil _ _),
    walkLinks_name hname, hnone]
  rfl

/-! ## Unless it is there -/

theorem ensureDirectory_of_leads (h : t.Leads (names path) location)
    (hok : t.ensureDirectory path = .ok t') : t' = t := by
  unfold ensureDirectory at hok
  split at hok
  · rename_i hcreate
    exact absurd hcreate (not_created_of_leads h)
  · split at hok
    · cases hok
      rfl
    · cases hok

theorem ensureDirectory_eq_self (husable : Usable path) (h : t.Leads (names path) location) :
    t.ensureDirectory path = .ok t := by
  unfold ensureDirectory
  split
  · rename_i hcreate
    exact absurd hcreate (not_created_of_leads h)
  · rw [if_pos (isDirectory_iff.2 ⟨husable, location, h⟩)]

theorem ensureDirectory_of_createDirectory (h : t.createDirectory path = .ok t') :
    t.ensureDirectory path = .ok t' := by
  rw [ensureDirectory, h]

/-- A directory is there, or it is created in the directory that the other names lead to. -/
theorem ensureDirectory_cases (hnames : names path = ns ++ [name]) (hleads : t.Leads ns base)
    (hdotDot : name ≠ "..") (h : t.ensureDirectory path = .ok t') :
    (t' = t ∧ ∃ location, t.Leads (names path) location) ∨
      (IsEntryName name ∧ t.find? (base ++ [name]) = none ∧
        t' = t.put (base ++ [name]) .directory) := by
  unfold ensureDirectory at h
  split at h
  · rename_i hcreate
    cases h
    exact .inr (createDirectory_eq_ok hnames hleads hdotDot hcreate)
  · split at h
    · rename_i hthere
      cases h
      exact .inl ⟨rfl, (isDirectory_iff.1 hthere).2⟩
    · cases h

/-! ## Directories in order -/

/-- A path cut after some of its names; after all of them it is the path as it is given. -/
def station (path : String) (count : Nat) : String :=
  if count < (names path).length then upTo path count else path

theorem names_upTo (path : String) (count : Nat) :
    names (upTo path count) = (names path).take count := by
  rw [names, pieces_upTo, List.filter_eq_self]
  intro name hname
  simpa using ne_dot_of_mem_names (List.mem_of_mem_take hname)

theorem names_station (path : String) (count : Nat) :
    names (station path count) = (names path).take count := by
  unfold station
  split
  · exact names_upTo path count
  · rw [List.take_of_length_le (by omega)]

theorem usable_station (h : Usable path) (hcount : 0 < count) : Usable (station path count) := by
  unfold station
  split
  · rename_i hless
    have hnames : names path ≠ [] := List.ne_nil_of_length_pos (by omega)
    refine h.of_sublist ?_ (upTo_sublist path count)
    intro hempty
    have hcomponents := components_upTo hcount hnames
    rw [hempty, eq_comm] at hcomponents
    simp only [components_eq, String.toList_empty, pieces_nil] at hcomponents
    have hnone : (names path).take count = [] := by
      rw [hcomponents]
      simp [endsWith_slash_iff]
    simp [hnames, Nat.pos_iff_ne_zero.1 hcount] at hnone
  · exact h

/-- The directories above a path are created before the path. -/
theorem createDirectories_eq (husable : Usable path) (h : names path ≠ []) (t : Tree) :
    t.createDirectories path =
      t.ensureDirectories ((List.range' 1 (names path).length).map (station path)) := by
  have hlength : 0 < (names path).length := List.length_pos_iff.2 h
  have hempty : ¬path.isEmpty = true := by simpa using husable.ne_empty
  have hlimits : ¬isBeyondLimits path = true := by
    rw [(isBeyondLimits_eq_false_iff husable.ne_empty).2 husable]
    exact Bool.false_ne_true
  have hstations : ancestors path ++ [path] =
      (List.range' 1 (names path).length).map (station path) := by
    obtain ⟨count, hcount⟩ := Nat.exists_eq_succ_of_ne_zero (Nat.pos_iff_ne_zero.1 hlength)
    have habove : (List.range' 1 count).map (upTo path) = (List.range' 1 count).map (station path) := by
      apply List.map_congr_left
      intro n hn
      have hless : n < (names path).length := by
        rw [List.mem_range'_1] at hn
        omega
      rw [station, if_pos hless]
    have hlast : station path (1 + count) = path := by
      rw [station, if_neg (by omega)]
    rw [ancestors_eq, List.range_eq_range', List.drop_range', hcount, Nat.succ_sub_one, Nat.zero_add,
      Nat.succ_eq_add_one, List.range'_1_concat, List.map_append, habove, List.map_singleton, hlast]
  rw [createDirectories, if_neg hempty, if_neg hlimits, hstations]

/-- A path that is created is within the limits. -/
theorem usable_of_created (h : names path ≠ []) (hok : t.createDirectories path = (.ok (), t')) :
    Usable path := by
  have hne : path ≠ "" := by
    rintro rfl
    exact h rfl
  rw [← isBeyondLimits_eq_false_iff hne, ← Bool.not_eq_true]
  intro hlimits
  rw [createDirectories, if_neg (by simpa using hne), if_pos hlimits] at hok
  cases hok

/-- What creating one directory takes from each number of names to the next holds after all of
them. -/
theorem ensureDirectories_invariant {I : Nat → Tree → Prop} {f : Nat → String} {last : Nat}
    (hstep : ∀ n t t', n < last → I n t → t.ensureDirectory (f (n + 1)) = .ok t' → I (n + 1) t')
    {first : Nat} (h : I first t) {count : Nat} (hcount : first + count = last)
    (hok : t.ensureDirectories ((List.range' (first + 1) count).map f) = (.ok (), t')) :
    I last t' := by
  induction count generalizing first t with
  | zero =>
    cases hok
    rwa [← hcount]
  | succ count ih =>
    rw [List.range'_succ, List.map_cons, ensureDirectories] at hok
    split at hok
    · rename_i between hbetween
      exact ih (hstep first t between (by omega) h hbetween) (by omega) hok
    · cases hok

theorem ensureDirectories_eq_ok {I : Nat → Tree → Prop} {f : Nat → String} {last : Nat}
    (hstep : ∀ n t, n < last → I n t → ∃ t', t.ensureDirectory (f (n + 1)) = .ok t' ∧ I (n + 1) t')
    {first : Nat} (h : I first t) {count : Nat} (hcount : first + count = last) :
    ∃ t', t.ensureDirectories ((List.range' (first + 1) count).map f) = (.ok (), t') ∧ I last t' := by
  induction count generalizing first t with
  | zero => exact ⟨t, rfl, by rwa [← hcount]⟩
  | succ count ih =>
    obtain ⟨between, hbetween, hnext⟩ := hstep first t (by omega) h
    rw [List.range'_succ, List.map_cons, ensureDirectories, hbetween]
    exact ih hnext (by omega)

theorem createDirectories_of_names_eq_nil (hnames : names path = [])
    (hok : t.createDirectories path = (.ok (), t')) : t' = t := by
  unfold createDirectories at hok
  split_ifs at hok
  · cases hok
    rfl
  · cases hok
  · rw [ancestors_eq, hnames] at hok
    simp only [List.length_nil, List.range_zero, List.drop_nil, List.map_nil, List.nil_append,
      ensureDirectories] at hok
    split at hok
    · rename_i hensure
      cases hok
      exact ensureDirectory_of_leads (hnames ▸ leads_nil t) hensure
    · cases hok

/-- How far a path has been created after some of its names, of which the first ones lead to a
directory anyway. -/
structure Descended (t : Tree) (pre all : List String) (count : Nat) (tree : Tree) : Prop where
  grounded : tree.Grounded
  keeps : t.Extends tree
  unchanged : count ≤ pre.length → tree = t
  /-- A directory that is new has nothing below it. -/
  leads : ∃ location, tree.Leads (all.take count) location ∧
    (tree = t ∨ tree.NothingBelow location)

theorem Descended.step {tree tree' : Tree} (hnames : names path = pre ++ post)
    (hpre : t.Leads pre base) (hpost : ".." ∉ post) (hcount : count < (names path).length)
    (h : Descended t pre (names path) count tree)
    (hensure : tree.ensureDirectory (station path (count + 1)) = .ok tree') :
    Descended t pre (names path) (count + 1) tree' := by
  obtain ⟨location, hleads, hempty⟩ := h.leads
  have htake : (names path).take (count + 1) =
      (names path).take count ++ [(names path)[count]] := List.take_succ_eq_append_getElem hcount
  have hstation : names (station path (count + 1)) = (names path).take (count + 1) :=
    names_station path (count + 1)
  by_cases hthere : count + 1 ≤ pre.length
  · obtain rfl := h.unchanged (by omega)
    obtain ⟨place, hplace⟩ := hpre.take (count + 1)
    rw [← List.take_append_of_le_length hthere, ← hnames] at hplace
    have hdirectory : tree.Leads (names (station path (count + 1))) place := by
      rw [hstation]
      exact hplace
    obtain rfl := ensureDirectory_of_leads hdirectory hensure
    exact ⟨h.grounded, h.keeps, fun _ => rfl, place, hplace, .inl rfl⟩
  · have hmem : (names path)[count] ∈ post := by
      simp only [hnames]
      rw [List.getElem_append_right (by omega)]
      exact List.getElem_mem _
    have hdotDot : (names path)[count] ≠ ".." := fun h => hpost (h ▸ hmem)
    have hdot : (names path)[count] ≠ "." := ne_dot_of_mem_names (List.getElem_mem hcount)
    rcases ensureDirectory_cases (hstation.trans htake) hleads hdotDot hensure with
      ⟨rfl, place, hplace⟩ | ⟨hentry, hnone, rfl⟩
    · rw [hstation] at hplace
      refine ⟨h.grounded, h.keeps, by omega, place, hplace, ?_⟩
      rcases hempty with rfl | hempty
      · exact .inl rfl
      · rw [htake] at hplace
        exact absurd (hempty _ (List.cons_ne_nil _ _)) (hleads.ne_none hplace hdot hdotDot)
    · have hnew := extends_put hnone .directory
      refine ⟨h.grounded.put hleads.find?_eq hnone _, h.keeps.trans hnew, by omega,
        location ++ [(names path)[count]], ?_, .inr (h.grounded.nothingBelow_put hnone _)⟩
      rw [htake]
      exact (hleads.of_extends hnew).enter hentry (by rw [find?_put (by simp), if_pos rfl])

/-- Below a directory that is there, a path leads to a directory after it has been created, and to
one with nothing below it if anything was created. -/
theorem createDirectories_leads (hgrounded : t.Grounded) (hnames : names path = pre ++ post)
    (hpre : t.Leads pre base) (hpost : ".." ∉ post)
    (hok : t.createDirectories path = (.ok (), t')) :
    t'.Grounded ∧ t.Extends t' ∧
      ∃ location, t'.Leads (names path) location ∧ (t' = t ∨ t'.NothingBelow location) := by
  by_cases hnil : names path = []
  · obtain rfl := createDirectories_of_names_eq_nil hnil hok
    exact ⟨hgrounded, .refl t', [], hnil ▸ leads_nil t', .inl rfl⟩
  rw [createDirectories_eq (usable_of_created hnil hok) hnil] at hok
  have hstart : Descended t pre (names path) 0 t :=
    ⟨hgrounded, .refl t, fun _ => rfl, [], leads_nil t, .inl rfl⟩
  have hend := ensureDirectories_invariant
    (fun _ _ _ hcount h => h.step hnames hpre hpost hcount) hstart (Nat.zero_add _) hok
  obtain ⟨location, hleads, hempty⟩ := hend.leads
  rw [List.take_length] at hleads
  exact ⟨hend.grounded, hend.keeps, location, hleads, hempty⟩

/-- Nothing is created where there is a directory. -/
theorem createDirectories_of_leads (h : t.Leads (names path) location)
    (hok : t.createDirectories path = (.ok (), t')) : t' = t := by
  by_cases hnil : names path = []
  · exact createDirectories_of_names_eq_nil hnil hok
  rw [createDirectories_eq (usable_of_created hnil hok) hnil] at hok
  refine ensureDirectories_invariant (I := fun _ tree => tree = t) ?_ rfl (Nat.zero_add _) hok
  intro n tree tree' hn hsame hensure
  obtain ⟨place, hplace⟩ := h.take (n + 1)
  rw [← names_station, ← hsame] at hplace
  rw [ensureDirectory_of_leads hplace hensure, hsame]

/-- What is there cannot be created. -/
theorem not_created_of_present {spot : Spot} (hspot : t.resolve true path = .ok spot)
    (hsome : spot.node.isSome = true) : t.createDirectory path ≠ .ok t' := by
  obtain ⟨husable, hwalks⟩ := resolve_eq_ok_iff.1 hspot
  by_cases hslash : ∃ front, path.toList = front ++ ['/']
  · -- Only a directory is found with a slash at the end.
    rw [components_eq, if_pos (endsWith_slash_iff.2 hslash)] at hwalks
    obtain ⟨place, hplace⟩ := hwalks.of_append (List.cons_ne_nil _ _) (solid_nil t)
    have hleads : t.Leads (names path) place :=
      hplace.of_filter_eq (by rw [names_filter, names])
    exact not_created_of_leads hleads
  · intro hcreate
    obtain ⟨location, hnone, _⟩ := createDirectory_eq_ok_iff.1 hcreate
    rw [dropSlashes_eq hslash] at hnone
    exact hwalks.not_missing hsome (resolve_eq_ok_iff.1 hnone).2

/-- The names of a path that leads somewhere lead to directories, except for the last one. -/
theorem exists_leads_take {spot : Spot} (hspot : t.resolve true path = .ok spot)
    (hcount : count < (names path).length) :
    ∃ location, t.Leads ((names path).take count) location := by
  obtain ⟨_, hwalks⟩ := resolve_eq_ok_iff.1 hspot
  have hfilter := filter_components path
  rw [← List.take_append_drop count (names path)] at hfilter
  obtain ⟨front, back, heq, hfront, hback⟩ := List.filter_eq_append_iff.1 hfilter
  have hne : back ≠ [] := by
    rintro rfl
    have hlength := congrArg List.length hback
    simp at hlength
    omega
  rw [heq] at hwalks
  obtain ⟨place, hplace⟩ := hwalks.of_append hne (solid_nil t)
  refine ⟨place, hplace.of_filter_eq ?_⟩
  rw [hfront, List.filter_eq_self.2]
  intro name hname
  simpa using ne_dot_of_mem_names (List.mem_of_mem_take hname)

/-- A path that leads to something leads to a directory if it can be created, and nothing is
created. -/
theorem createDirectories_of_present {spot : Spot} (hspot : t.resolve true path = .ok spot)
    (hsome : spot.node.isSome = true) (hok : t.createDirectories path = (.ok (), t')) :
    t' = t ∧ ∃ location, t.Leads (names path) location := by
  by_cases hnil : names path = []
  · exact ⟨createDirectories_of_names_eq_nil hnil hok, [], hnil ▸ leads_nil t⟩
  rw [createDirectories_eq (usable_of_created hnil hok) hnil] at hok
  have hstart : t = t ∧ ∃ location, t.Leads ((names path).take 0) location :=
    ⟨rfl, [], leads_nil t⟩
  have hend := ensureDirectories_invariant
    (I := fun n tree => tree = t ∧ ∃ location, t.Leads ((names path).take n) location)
    ?_ hstart (Nat.zero_add _) hok
  · rwa [List.take_length] at hend
  · intro n tree tree' hn hI hensure
    obtain ⟨rfl, _⟩ := hI
    by_cases hlast : n + 1 < (names path).length
    · obtain ⟨place, hplace⟩ := exists_leads_take hspot hlast
      have hdirectory : tree.Leads (names (station path (n + 1))) place := by
        rw [names_station]
        exact hplace
      exact ⟨ensureDirectory_of_leads hdirectory hensure, place, hplace⟩
    · rw [station, if_neg hlast, ensureDirectory] at hensure
      rw [List.take_of_length_le (by omega)]
      split at hensure
      · rename_i hcreate
        exact absurd hcreate (not_created_of_present hspot hsome)
      · split at hensure
        · rename_i hthere
          cases hensure
          exact ⟨rfl, (isDirectory_iff.1 hthere).2⟩
        · cases hensure

/-- Where none of the directories can be created, nothing is. -/
theorem ensureDirectories_eq_self {paths : List String}
    (h : ∀ path ∈ paths, ∀ t', t.createDirectory path ≠ .ok t') :
    (t.ensureDirectories paths).2 = t := by
  induction paths with
  | nil => rfl
  | cons path paths ih =>
    have hrest := ih fun other hother => h other (List.mem_cons_of_mem _ hother)
    have hensure : t.ensureDirectory path = .ok t ∨
        ∃ fault, t.ensureDirectory path = .error fault := by
      unfold ensureDirectory
      split
      · rename_i hcreate
        exact absurd hcreate (h path List.mem_cons_self _)
      · split
        · exact .inl rfl
        · exact .inr ⟨_, rfl⟩
    unfold ensureDirectories
    rcases hensure with hthere | ⟨fault, hfault⟩
    · rw [hthere]
      exact hrest
    · rw [hfault]

/-- Creating what is there changes nothing, whether it is a directory or not. -/
theorem createDirectories_eq_self {spot : Spot} (hspot : t.resolve true path = .ok spot)
    (hsome : spot.node.isSome = true) : (t.createDirectories path).2 = t := by
  obtain ⟨husable, _⟩ := resolve_eq_ok_iff.1 hspot
  by_cases hnil : names path = []
  · unfold createDirectories
    split_ifs
    · rfl
    · rfl
    · refine ensureDirectories_eq_self ?_
      rw [ancestors_eq, hnil]
      intro other hother t'
      obtain rfl : other = path := by simpa using hother
      exact not_created_of_present hspot hsome
  rw [createDirectories_eq husable hnil]
  refine ensureDirectories_eq_self ?_
  intro other hother t'
  obtain ⟨count, _, rfl⟩ := List.mem_map.1 hother
  by_cases hcount : count < (names path).length
  · obtain ⟨place, hplace⟩ := exists_leads_take hspot hcount
    rw [← names_station] at hplace
    exact not_created_of_leads hplace
  · rw [station, if_neg hcount]
    exact not_created_of_present hspot hsome

/-! ## New directories -/

/-- The tree with new directories, one in another. -/
def withDirectories (t : Tree) (base : List String) : List String → Tree
  | [] => t
  | name :: rest => (t.put (base ++ [name]) .directory).withDirectories (base ++ [name]) rest

theorem withDirectories_concat (t : Tree) (base ns : List String) (name : String) :
    t.withDirectories base (ns ++ [name]) =
      (t.withDirectories base ns).put (base ++ ns ++ [name]) .directory := by
  induction ns generalizing t base with
  | nil => rw [List.append_nil]; rfl
  | cons first ns ih =>
    rw [List.cons_append, withDirectories, ih, withDirectories]
    simp

theorem find?_withDirectories_of_length (h : (base ++ ns).length < location.length) (t : Tree) :
    (t.withDirectories base ns).find? location = t.find? location := by
  induction ns using List.reverseRecOn with
  | nil => rfl
  | append_singleton ns name ih =>
    rw [withDirectories_concat, find?_put (by simp), if_neg, ih]
    · simp only [List.length_append, List.length_singleton] at h ⊢
      omega
    · rintro rfl
      simp at h

/-- Nothing changes beside the new directories. -/
theorem find?_withDirectories_beside (h : ¬base ++ [name] <+: location) (t : Tree)
    (ns : List String) :
    (t.withDirectories base (name :: ns)).find? location = t.find? location := by
  induction ns generalizing t base name with
  | nil =>
    rw [withDirectories, withDirectories, find?_put (by simp), if_neg]
    rintro rfl
    exact h List.prefix_rfl
  | cons next ns ih =>
    rw [withDirectories, ih, find?_put (by simp), if_neg]
    · rintro rfl
      exact h List.prefix_rfl
    · exact fun hprefix => h ((List.prefix_append _ _).trans hprefix)

theorem entries_withDirectories (h : (base ++ ns).length ≤ location.length) (t : Tree) :
    (t.withDirectories base ns).entries location = t.entries location := by
  induction ns using List.reverseRecOn with
  | nil => rfl
  | append_singleton ns name ih =>
    rw [withDirectories_concat, entries_put (by simp), if_pos, ih]
    · simp only [List.length_append, List.length_singleton] at h ⊢
      omega
    · right
      rw [List.dropLast_concat]
      rintro rfl
      simp at h

/-- There is nothing where the directories are to be created. -/
def Fresh (t : Tree) (base ns : List String) : Prop :=
  ∀ count, 0 < count → count ≤ ns.length → t.find? (base ++ ns.take count) = none

theorem Fresh.put (h : t.Fresh base ns) (hne : location ≠ [])
    (hother : ∀ count, 0 < count → count ≤ ns.length → base ++ ns.take count ≠ location)
    (node : Node) : (t.put location node).Fresh base ns := by
  intro count hpos hcount
  rw [find?_put hne, if_neg (hother count hpos hcount), h count hpos hcount]

theorem find?_withDirectories_next (h : t.Fresh base (ns ++ [name])) :
    (t.withDirectories base ns).find? (base ++ ns ++ [name]) = none := by
  rw [find?_withDirectories_of_length (by simp)]
  have hlast := h (ns.length + 1) (by omega) (by simp)
  rwa [List.take_of_length_le (by simp), ← List.append_assoc] at hlast

theorem Fresh.of_concat (h : t.Fresh base (ns ++ [name])) : t.Fresh base ns := by
  intro count hpos hcount
  have hnone := h count hpos (by rw [List.length_append]; omega)
  rwa [List.take_append_of_le_length hcount] at hnone

theorem extends_withDirectories (h : t.Fresh base ns) : t.Extends (t.withDirectories base ns) := by
  induction ns using List.reverseRecOn with
  | nil => exact .refl t
  | append_singleton ns name ih =>
    rw [withDirectories_concat]
    exact (ih h.of_concat).trans (extends_put (find?_withDirectories_next h) _)

theorem leads_withDirectories (hpre : t.Leads pre base) (hentry : ∀ name ∈ ns, IsEntryName name)
    (h : t.Fresh base ns) : (t.withDirectories base ns).Leads (pre ++ ns) (base ++ ns) := by
  induction ns using List.reverseRecOn with
  | nil =>
    rw [List.append_nil, List.append_nil]
    exact hpre
  | append_singleton ns name ih =>
    rw [List.forall_mem_append, List.forall_mem_singleton] at hentry
    have hnew := extends_put (find?_withDirectories_next h) .directory
    rw [withDirectories_concat, ← List.append_assoc, ← List.append_assoc]
    exact ((ih hentry.1 h.of_concat).of_extends hnew).enter hentry.2
      (by rw [find?_put (by simp), if_pos rfl])

/-- The last name of a cut path stands at its end. -/
theorem components_station (hcomponents : components path = ns ++ [name]) (hdot : name ≠ ".")
    (hcount : count < (names path).length) :
    ∃ front, components (station path (count + 1)) = front ++ [(names path)[count]] ∧
      front.filter (· ≠ ".") = (names path).take count := by
  have hnames : names path = ns.filter (· ≠ ".") ++ [name] := by
    rw [← filter_components, hcomponents, List.filter_append]
    simp [hdot]
  unfold station
  split
  · rename_i hless
    refine ⟨(names path).take count, ?_, ?_⟩
    · rw [components_upTo (Nat.succ_pos _) (List.ne_nil_of_length_pos (by omega)),
        List.take_succ_eq_append_getElem hcount]
    · rw [List.filter_eq_self]
      intro name hname
      simpa using ne_dot_of_mem_names (List.mem_of_mem_take hname)
  · rename_i hlast
    have hcount' : count = (ns.filter (· ≠ ".")).length := by
      have hlength := congrArg List.length hnames
      rw [List.length_append, List.length_singleton] at hlength
      omega
    refine ⟨ns, ?_, ?_⟩
    · rw [hcomponents]
      simp [hnames, hcount']
    · rw [hnames, hcount', List.take_left' rfl]

theorem Fresh.take (h : t.Fresh base ns) (count : Nat) : t.Fresh base (ns.take count) := by
  intro shorter hpos hshorter
  rw [List.length_take] at hshorter
  rw [List.take_take, Nat.min_eq_left (by omega)]
  exact h shorter hpos (by omega)

/-- A path whose last names are new, below a directory that is there. -/
structure IsNewPath (t : Tree) (path : String) (pre base post : List String) : Prop where
  usable : Usable path
  components : ∃ front, components path = front ++ post ∧ front.filter (· ≠ ".") = pre
  ne_nil : post ≠ []
  entry : ∀ name ∈ post, IsEntryName name
  leads : t.Leads pre base
  fresh : t.Fresh base post

theorem IsNewPath.names_eq (h : t.IsNewPath path pre base post) : names path = pre ++ post := by
  obtain ⟨front, heq, hfront⟩ := h.components
  rw [← filter_components, heq, List.filter_append, hfront, List.append_cancel_left_eq,
    List.filter_eq_self]
  intro name hname
  simpa using (h.entry name hname).ne_dot

theorem isNewPath_text {root : String} (hleads : t.Leads (names root ++ pre) base)
    (hpieces : ∀ name ∈ pre ++ post, IsPiece name) (hdot : ∀ name ∈ pre, name ≠ ".")
    (hne : post ≠ []) (husable : Usable (Path.text ⟨root, pre ++ post⟩))
    (hentry : ∀ name ∈ post, IsEntryName name) (hfresh : t.Fresh base post) :
    t.IsNewPath (Path.text ⟨root, pre ++ post⟩) (names root ++ pre) base post where
  usable := husable
  components := by
    refine ⟨pieces root.toList ++ pre, ?_, ?_⟩
    · rw [components_text hpieces (by simp [hne]), List.append_assoc]
    · rw [List.filter_append, names, List.append_cancel_left_eq, List.filter_eq_self]
      simpa using hdot
  ne_nil := hne
  entry := hentry
  leads := hleads
  fresh := hfresh

theorem IsNewPath.components_station (h : t.IsNewPath path pre base post)
    (hcount : count < (names path).length) :
    ∃ front, Tree.components (station path (count + 1)) = front ++ [(names path)[count]] ∧
      front.filter (· ≠ ".") = (names path).take count := by
  obtain ⟨front, heq, _⟩ := h.components
  refine Tree.components_station (?_ : _ = (front ++ post.dropLast) ++ [post.getLast h.ne_nil]) ?_
    hcount
  · rw [heq, List.append_assoc, List.dropLast_append_getLast]
  · exact (h.entry _ (List.getLast_mem _)).ne_dot

theorem IsNewPath.step (h : t.IsNewPath path pre base post)
    (hcount : count < (names path).length) :
    (t.withDirectories base (post.take (count - pre.length))).ensureDirectory
        (station path (count + 1)) =
      .ok (t.withDirectories base (post.take (count + 1 - pre.length))) := by
  have hnames := h.names_eq
  have hlength : (names path).length = pre.length + post.length := by
    rw [hnames, List.length_append]
  by_cases hthere : count + 1 ≤ pre.length
  · rw [Nat.sub_eq_zero_of_le hthere, Nat.sub_eq_zero_of_le (by omega), List.take_zero]
    obtain ⟨place, hplace⟩ := h.leads.take (count + 1)
    have hdirectory : t.Leads (names (station path (count + 1))) place := by
      rw [names_station, hnames, List.take_append_of_le_length hthere]
      exact hplace
    exact ensureDirectory_eq_self (usable_station h.usable (by omega)) hdirectory
  · obtain ⟨more, rfl⟩ := Nat.exists_eq_add_of_le (show pre.length ≤ count by omega)
    have hmore : more < post.length := by omega
    have htake : post.take (more + 1) = post.take more ++ [post[more]] :=
      List.take_succ_eq_append_getElem hmore
    have hname : (names path)[pre.length + more] = post[more] := by
      simp [hnames]
    obtain ⟨front, heq, hfront⟩ := h.components_station hcount
    have hfresh := h.fresh.take (more + 1)
    rw [htake] at hfresh
    rw [Nat.add_sub_cancel_left, Nat.add_assoc, Nat.add_sub_cancel_left, htake,
      withDirectories_concat]
    apply ensureDirectory_of_createDirectory
    rw [hname] at heq
    refine createDirectory_eq (usable_station h.usable (by omega)) heq ?_
      (h.entry _ (List.getElem_mem _)) (find?_withDirectories_next hfresh)
    rw [hfront, hnames, List.take_length_add_append]
    exact leads_withDirectories h.leads
      (fun name hmem => h.entry name (List.mem_of_mem_take hmem)) hfresh.of_concat

/-- Where there is nothing, the directories of a path are created one in another. -/
theorem IsNewPath.createDirectories_eq (h : t.IsNewPath path pre base post) :
    t.createDirectories path = (.ok (), t.withDirectories base post) := by
  have hnames := h.names_eq
  obtain ⟨tree, hok, rfl⟩ := ensureDirectories_eq_ok (f := station path)
    (I := fun n tree => tree = t.withDirectories base (post.take (n - pre.length)))
    (fun n tree hn hI => ⟨_, hI ▸ h.step hn, rfl⟩)
    (show t = t.withDirectories base (post.take (0 - pre.length)) by
      rw [Nat.zero_sub, List.take_zero]; rfl)
    (Nat.zero_add (names path).length)
  rw [Tree.createDirectories_eq h.usable (by simp [hnames, h.ne_nil]), hok,
    List.take_of_length_le (by simp [hnames])]

/-! ## New files -/

/-- A file can be created where there is nothing, unless its path is beyond the limits. -/
theorem createNew_cases {root : String} (text : String) (hleads : t.Leads (names root ++ pre) base)
    (hpieces : ∀ other ∈ pre ++ [name], IsPiece other) (hdot : name ≠ ".") (hdotDot : name ≠ "..")
    (hnone : t.find? (base ++ [name]) = none) :
    t.createNew (Path.text ⟨root, pre ++ [name]⟩) text =
        .ok (t.put (base ++ [name]) (.file text)) ∨
      t.createNew (Path.text ⟨root, pre ++ [name]⟩) text = .error .other := by
  unfold createNew
  rcases resolve_missing hleads hpieces hdot hdotDot hnone false with
    hresolve | ⟨_, _, hresolve⟩
  · rw [hresolve]
    exact .inr rfl
  · rw [hresolve]
    exact .inl rfl

theorem createNew_eq {root : String} (text : String) (hleads : t.Leads (names root ++ pre) base)
    (hpieces : ∀ other ∈ pre ++ [name], IsPiece other) (hname : IsEntryName name)
    (husable : Usable (Path.text ⟨root, pre ++ [name]⟩)) (hnone : t.find? (base ++ [name]) = none) :
    t.createNew (Path.text ⟨root, pre ++ [name]⟩) text =
      .ok (t.put (base ++ [name]) (.file text)) := by
  obtain ⟨left, hleft⟩ := resolve_text hleads hpieces (List.cons_ne_nil _ _) husable
  rw [createNew, hleft false, walkLinks_name hname, hnone]
  rfl

/-- A file is created only where there is nothing, not even a link. -/
theorem eq_put_of_createNew {root text : String} (hleads : t.Leads (names root ++ pre) base)
    (hpieces : ∀ other ∈ pre ++ [name], IsPiece other) (hname : IsEntryName name)
    (h : t.createNew (Path.text ⟨root, pre ++ [name]⟩) text = .ok t') :
    Usable (Path.text ⟨root, pre ++ [name]⟩) ∧ t.find? (base ++ [name]) = none ∧
      t' = t.put (base ++ [name]) (.file text) := by
  by_cases husable : Usable (Path.text ⟨root, pre ++ [name]⟩)
  · obtain ⟨left, hleft⟩ := resolve_text hleads hpieces (List.cons_ne_nil _ _) husable
    rw [createNew, hleft false, walkLinks_name hname] at h
    cases hnode : t.find? (base ++ [name]) with
    | none =>
      rw [hnode] at h
      cases h
      exact ⟨husable, rfl, rfl⟩
    | some node =>
      cases node with
      | directory =>
        simp only [hnode, walkLinks_nil] at h
        cases h
      | file _ =>
        simp only [hnode] at h
        cases h
      | link _ =>
        simp only [hnode] at h
        cases h
  · rw [createNew, resolve_of_not_usable husable (text_ne_empty hpieces (by simp))] at h
    cases h

end ShardMerge.Tree
