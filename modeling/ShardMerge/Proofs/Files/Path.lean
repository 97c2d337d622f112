import Mathlib.Data.List.TakeWhile
import Mathlib.Data.String.Basic
import ShardMerge.Proofs.Files.Walk
import ShardMerge.Proofs.Text.Cut

/-!
# The names in a path

The text of a path stands for the names in it.

* `Tree.pieces` are the names between slashes.  `pieces_append` cuts a text at a slash, and
  `components_text` are the names in the text of a `Path`.
* `Tree.names` are the names without `.`, which make the difference between two places.
* `Tree.upTo` is the text of a path cut after some of its names, and `ancestors_eq` says that the
  directories above a path are such texts.
* `resolve_eq_ok_iff` is what resolving a path means for the names in it.
-/

namespace ShardMerge.Tree

open Text

variable {t : Tree} {follow : Bool} {name path text root : String} {below ns : List String}
  {spot : Spot} {s slashes : List Char} {count : Nat}

/-! ## Names between slashes -/

theorem splitWhen_eq_splitOn (c : Char) (s : List Char) : splitWhen (· = c) s = s.splitOn c := by
  induction s with
  | nil => rfl
  | cons d s ih =>
    rw [List.splitOn_cons_eq_if_modifyHead, splitWhen, ih]
    by_cases hd : d = c
    · simp [hd]
    · cases hsplit : s.splitOn c with
      | nil => exact absurd hsplit (List.splitOn_ne_nil c s)
      | cons piece rest => simp [hd]

/-- The names between slashes. -/
def pieces (s : List Char) : List String :=
  ((splitWhen (· = '/') s).filter fun name => !name.isEmpty).map String.ofList

theorem components_eq (text : String) :
    components text = pieces text.toList ++ if text.endsWith "/" then ["."] else [] := rfl

/-- A slash separates names. -/
theorem pieces_append (front back : List Char) :
    pieces (front ++ '/' :: back) = pieces front ++ pieces back := by
  unfold pieces
  simp only [splitWhen_eq_splitOn]
  rw [List.splitOn_append_cons_self, List.filter_append, List.map_append]

theorem pieces_nil : pieces [] = [] := rfl

/-- Slashes at the end make no difference. -/
theorem pieces_append_slashes (h : ∀ c ∈ slashes, c = '/') (s : List Char) :
    pieces (s ++ slashes) = pieces s := by
  induction slashes generalizing s with
  | nil => rw [List.append_nil]
  | cons c slashes ih =>
    rw [List.forall_mem_cons] at h
    have hslashes : pieces slashes = [] := ih h.2 []
    rw [h.1, pieces_append, hslashes, List.append_nil]

/-- A name that stands between slashes. -/
structure IsPiece (name : String) : Prop where
  ne_empty : name ≠ ""
  no_slash : '/' ∉ name.toList

theorem IsPiece.pieces_eq (h : IsPiece name) : pieces name.toList = [name] := by
  rw [pieces, splitWhen_eq_splitOn, List.splitOn_eq_singleton h.no_slash]
  simp [h.ne_empty]

theorem isPiece_of_mem_pieces (h : name ∈ pieces s) : IsPiece name := by
  obtain ⟨piece, hpiece, rfl⟩ := List.mem_map.1 h
  obtain ⟨hmem, hne⟩ := List.mem_filter.1 hpiece
  constructor
  · rw [ne_eq, String.ofList_eq_empty_iff]
    simpa using hne
  · rw [String.toList_ofList]
    intro hslash
    simpa using (of_mem_splitWhen hmem hslash).2

/-- Names with slashes between them. -/
theorem pieces_intercalate (h : ∀ name ∈ ns, IsPiece name) :
    pieces ("/".intercalate ns).toList = ns := by
  induction ns with
  | nil => rfl
  | cons name ns ih =>
    rw [List.forall_mem_cons] at h
    by_cases hns : ns = []
    · rw [hns, String.intercalate_singleton, h.1.pieces_eq]
    · have htext : (name ++ "/" ++ "/".intercalate ns).toList =
          name.toList ++ '/' :: ("/".intercalate ns).toList := by simp
      rw [String.intercalate_cons_of_ne_nil hns, htext, pieces_append, h.1.pieces_eq, ih h.2,
        List.singleton_append]

/-! ## Texts of paths -/

theorem endsWith_slash_iff : text.endsWith "/" = true ↔ ∃ front, text.toList = front ++ ['/'] := by
  rw [← String.endsWith_toSlice, String.Slice.endsWith_string_iff, String.copy_toSlice]
  constructor
  · rintro ⟨front, h⟩
    exact ⟨front, h.symm⟩
  · rintro ⟨front, h⟩
    exact ⟨front, h.symm⟩

theorem IsPiece.getLast_ne (h : IsPiece name) (front : List Char) :
    ¬∃ front', front ++ name.toList = front' ++ ['/'] := by
  rintro ⟨front', heq⟩
  have hne : name.toList ≠ [] := by simpa using h.ne_empty
  have hlast := congrArg List.getLast? heq
  rw [List.getLast?_append_of_ne_nil _ hne, List.getLast?_concat] at hlast
  exact h.no_slash (List.mem_of_getLast? hlast)

theorem toList_addName (text name : String) :
    ∃ front, (Path.addName text name).toList = front ++ name.toList ∧
      (pieces front = pieces text.toList ∧ (front = [] ∨ ∃ front', front = front' ++ ['/'])) := by
  unfold Path.addName
  split
  · rename_i h
    refine ⟨text.toList, by simp, rfl, ?_⟩
    rcases Bool.or_eq_true_iff.1 h with h | h
    · exact .inl (by simpa using h)
    · exact .inr (endsWith_slash_iff.1 h)
  · refine ⟨text.toList ++ ['/'], by simp, ?_, .inr ⟨_, rfl⟩⟩
    exact pieces_append_slashes (by simp) _

/-- The text of a path with a name more. -/
theorem pieces_addName (h : IsPiece name) (text : String) :
    pieces (Path.addName text name).toList = pieces text.toList ++ [name] := by
  obtain ⟨front, htext, hpieces, rfl | ⟨front', rfl⟩⟩ := toList_addName text name
  · rw [htext, ← hpieces, List.nil_append, h.pieces_eq, pieces_nil, List.nil_append]
  · rw [htext, List.append_assoc, List.singleton_append, pieces_append, h.pieces_eq, ← hpieces,
      pieces_append_slashes (by simp)]

theorem components_addName (h : IsPiece name) (text : String) :
    components (Path.addName text name) = pieces text.toList ++ [name] := by
  rw [components_eq, pieces_addName h, if_neg, List.append_nil]
  rw [endsWith_slash_iff]
  obtain ⟨front, htext, _⟩ := toList_addName text name
  rw [htext]
  exact h.getLast_ne front

theorem Path.text_child (p : Path) (name : String) :
    (p.child name).text = Path.addName p.text name := by
  rw [Path.text, Path.child, List.foldl_append]
  rfl

theorem pieces_text (h : ∀ name ∈ below, IsPiece name) (root : String) :
    pieces (Path.text ⟨root, below⟩).toList = pieces root.toList ++ below := by
  induction below using List.reverseRecOn with
  | nil => rw [List.append_nil]; rfl
  | append_singleton below name ih =>
    rw [List.forall_mem_append, List.forall_mem_singleton] at h
    change pieces (Path.child ⟨root, below⟩ name).text.toList = _
    rw [Path.text_child, pieces_addName h.2, ih h.1, List.append_assoc]

/-- The text of a path begins with the text of the directory. -/
theorem text_isPrefix (root : String) (below more : List String) :
    (Path.text ⟨root, below⟩).toList <+: (Path.text ⟨root, below ++ more⟩).toList := by
  induction more using List.reverseRecOn with
  | nil => simp
  | append_singleton more name ih =>
    refine ih.trans ?_
    rw [← List.append_assoc]
    change (Path.text ⟨root, below ++ more⟩).toList <+:
      (Path.child ⟨root, below ++ more⟩ name).text.toList
    rw [Path.text_child, Path.addName]
    split
    · rw [String.toList_append]
      exact List.prefix_append _ _
    · rw [String.toList_append, String.toList_append, List.append_assoc]
      exact List.prefix_append _ _

theorem text_ne_empty (h : ∀ name ∈ below, IsPiece name) (hne : below ≠ []) :
    Path.text ⟨root, below⟩ ≠ "" := by
  intro hempty
  have hpieces := pieces_text h root
  rw [hempty, eq_comm, String.toList_empty, pieces_nil, List.append_eq_nil_iff] at hpieces
  exact hne hpieces.2

/-- The names in the text of a path. -/
theorem components_text (h : ∀ name ∈ below, IsPiece name) (hne : below ≠ []) (root : String) :
    components (Path.text ⟨root, below⟩) = pieces root.toList ++ below := by
  induction below using List.reverseRecOn with
  | nil => exact absurd rfl hne
  | append_singleton below name _ =>
    rw [List.forall_mem_append, List.forall_mem_singleton] at h
    change components (Path.child ⟨root, below⟩ name).text = _
    rw [Path.text_child, components_addName h.2, pieces_text h.1, List.append_assoc]

/-! ## Names that make a difference -/

/-- The names in a path without those that stand for the directory itself. -/
def names (path : String) : List String := (pieces path.toList).filter (· ≠ ".")

theorem filter_components (path : String) : (components path).filter (· ≠ ".") = names path := by
  rw [components_eq, List.filter_append, names]
  split <;> simp

theorem isPiece_of_mem_names (h : name ∈ names path) : IsPiece name :=
  isPiece_of_mem_pieces (List.mem_filter.1 h).1

theorem ne_dot_of_mem_names (h : name ∈ names path) : name ≠ "." := by
  simpa using (List.mem_filter.1 h).2

/-- Slashes at the end make no difference. -/
theorem names_dropSlashes (path : String) :
    names (String.ofList (createDirectory.dropSlashes path.toList)) = names path := by
  have hsplit : path.toList = (path.toList.reverse.dropWhile (· = '/')).reverse ++
      (path.toList.reverse.takeWhile (· = '/')).reverse := by
    rw [← List.reverse_append, List.takeWhile_append_dropWhile, List.reverse_reverse]
  have hslashes : ∀ c ∈ (path.toList.reverse.takeWhile (· = '/')).reverse, c = '/' := by
    intro c hc
    simpa using List.mem_takeWhile_imp (List.mem_reverse.1 hc)
  have hpieces : pieces (path.toList.reverse.dropWhile (· = '/')).reverse = pieces path.toList := by
    conv_rhs => rw [hsplit]
    rw [pieces_append_slashes hslashes]
  unfold names createDirectory.dropSlashes
  rw [String.toList_ofList]
  simp only
  split
  · rfl
  · rw [hpieces]

/-- A text that does not end in a slash has none to drop. -/
theorem dropSlashes_eq (h : ¬∃ front, path.toList = front ++ ['/']) :
    String.ofList (createDirectory.dropSlashes path.toList) = path := by
  unfold createDirectory.dropSlashes
  have hkeep : path.toList.reverse.dropWhile (· = '/') = path.toList.reverse := by
    cases hrev : path.toList.reverse with
    | nil => rfl
    | cons c rest =>
      rw [List.dropWhile_cons_of_neg]
      intro hc
      refine h ⟨rest.reverse, ?_⟩
      rw [List.reverse_eq_iff.1 hrev, List.reverse_cons, of_decide_eq_true hc]
  simp only [hkeep, List.reverse_reverse]
  split <;> simp

/-! ## Directories above a path -/

/-- A path cut after some of its names. -/
def upTo (path : String) (count : Nat) : String :=
  (if path.startsWith "/" then "/" else "") ++ "/".intercalate ((names path).take count)

theorem ancestors_eq (path : String) :
    ancestors path = ((List.range (names path).length).drop 1).map (upTo path) := by
  have hnames : ((splitWhen (· = '/') path.toList).map String.ofList).filter
      (fun name => name != "" && name != ".") = names path := by
    unfold names pieces
    rw [List.filter_map, List.filter_map, List.filter_filter]
    congr 1
    apply List.filter_congr
    intro piece _
    rw [Bool.eq_iff_iff]
    simp [String.ofList_eq_empty_iff, and_comm]
  unfold ancestors upTo
  simp only [hnames]

theorem isPiece_take_names : ∀ name ∈ (names path).take count, IsPiece name :=
  fun _ h => isPiece_of_mem_names (List.mem_of_mem_take h)

theorem pieces_upTo (path : String) (count : Nat) :
    pieces (upTo path count).toList = (names path).take count := by
  unfold upTo
  split
  · have htext : ("/" ++ "/".intercalate ((names path).take count)).toList =
        [] ++ '/' :: ("/".intercalate ((names path).take count)).toList := by simp
    rw [htext, pieces_append, pieces_intercalate isPiece_take_names, pieces_nil, List.nil_append]
  · rw [String.empty_append, pieces_intercalate isPiece_take_names]

/-- The last name stands at the end. -/
theorem toList_intercalate_concat (ns : List String) (name : String) :
    ∃ front, ("/".intercalate (ns ++ [name])).toList = front ++ name.toList := by
  by_cases hns : ns = []
  · exact ⟨[], by rw [hns, List.nil_append, String.intercalate_singleton, List.nil_append]⟩
  · rw [String.intercalate_append_of_ne_nil hns (List.cons_ne_nil _ _),
      String.intercalate_singleton, String.toList_append]
    exact ⟨_, rfl⟩

theorem upTo_not_slash (hcount : 0 < count) (hnames : names path ≠ []) :
    ¬∃ front, (upTo path count).toList = front ++ ['/'] := by
  have htake : (names path).take count ≠ [] := by
    simp [hnames, Nat.pos_iff_ne_zero.1 hcount]
  have hlast := isPiece_take_names _ (List.getLast_mem htake)
  obtain ⟨front, hfront⟩ := toList_intercalate_concat _ ((((names path).take count).getLast htake))
  rw [List.dropLast_append_getLast] at hfront
  unfold upTo
  rw [String.toList_append, hfront, ← List.append_assoc]
  exact hlast.getLast_ne _

theorem components_upTo (hcount : 0 < count) (hnames : names path ≠ []) :
    components (upTo path count) = (names path).take count := by
  rw [components_eq, pieces_upTo, if_neg, List.append_nil]
  rw [endsWith_slash_iff]
  exact upTo_not_slash hcount hnames

theorem intercalate_sublist (sep : List Char) {few many : List (List Char)} (h : few.Sublist many) :
    (sep.intercalate few).Sublist (sep.intercalate many) := by
  induction h with
  | slnil => exact .slnil
  | @cons few many piece h ih =>
    by_cases hmany : many = []
    · rw [hmany, List.sublist_nil] at h
      rw [h]
      exact List.nil_sublist _
    · rw [List.intercalate_cons_of_ne_nil hmany]
      exact ih.trans (List.sublist_append_right _ _)
  | @cons_cons few many piece h ih =>
    by_cases hfew : few = []
    · rw [hfew, List.intercalate_singleton]
      by_cases hmany : many = []
      · rw [hmany, List.intercalate_singleton]
      · rw [List.intercalate_cons_of_ne_nil hmany, List.append_assoc]
        exact List.sublist_append_left _ _
    · have hmany : many ≠ [] := by
        rintro rfl
        exact hfew (List.sublist_nil.1 h)
      rw [List.intercalate_cons_of_ne_nil hfew, List.intercalate_cons_of_ne_nil hmany]
      exact ih.append_left _

theorem toList_names_sublist (s : List Char) :
    ((pieces s).map String.toList).Sublist (splitWhen (· = '/') s) := by
  unfold pieces
  rw [List.map_map]
  have hid : String.toList ∘ String.ofList = id := by
    funext piece
    exact String.toList_ofList
  rw [hid, List.map_id]
  exact List.filter_sublist

/-- A text that is cut is a part of the text. -/
theorem upTo_sublist (path : String) (count : Nat) :
    (upTo path count).toList.Sublist path.toList := by
  have hsub : (((names path).take count).map String.toList).Sublist
      ((pieces path.toList).map String.toList) :=
    ((List.take_sublist _ _).trans List.filter_sublist).map _
  have hjoin (s : List Char) : ['/'].intercalate (splitWhen (· = '/') s) = s := by
    rw [splitWhen_eq_splitOn, List.intercalate_splitOn]
  unfold upTo
  rw [String.toList_append, String.toList_intercalate]
  split
  · rename_i hslash
    obtain ⟨rest, hrest⟩ := String.startsWith_string_iff.1 hslash
    have hpath : path.toList = '/' :: rest := hrest.symm
    have hpieces : pieces path.toList = pieces rest := by
      rw [hpath]
      exact pieces_append [] rest
    rw [hpieces] at hsub
    rw [hpath]
    refine List.Sublist.cons_cons '/' ?_
    have hkept := intercalate_sublist ['/'] (hsub.trans (toList_names_sublist rest))
    rwa [hjoin] at hkept
  · have hkept := intercalate_sublist ['/'] (hsub.trans (toList_names_sublist path.toList))
    rw [hjoin] at hkept
    exact hkept

/-! ## What paths resolve to -/

/-- A path that can be handed to a file system. -/
structure Usable (path : String) : Prop where
  ne_empty : path ≠ ""
  no_nul : Char.ofNat 0 ∉ path.toList
  short : path.utf8ByteSize ≤ longestPath

theorem isBeyondLimits_eq_false_iff (hne : path ≠ "") : isBeyondLimits path = false ↔ Usable path := by
  rw [isBeyondLimits, Bool.or_eq_false_iff, Bool.eq_false_iff, ne_eq, List.contains_iff_mem,
    decide_eq_false_iff_not, Nat.not_lt]
  exact ⟨fun h => ⟨hne, h.1, h.2⟩, fun h => ⟨h.no_nul, h.short⟩⟩

theorem resolve_eq (h : Usable path) (t : Tree) (follow : Bool) :
    t.resolve follow path = t.walkLinks follow mostLinks [] (components path) := by
  rw [resolve, if_neg (by simpa using h.ne_empty),
    if_neg (by rw [(isBeyondLimits_eq_false_iff h.ne_empty).2 h]; exact Bool.false_ne_true)]

/-- A path beyond the limits is refused. -/
theorem resolve_of_not_usable (h : ¬Usable path) (hne : path ≠ "") (t : Tree) (follow : Bool) :
    t.resolve follow path = .error .other := by
  rw [resolve, if_neg (by simpa using hne), if_pos]
  rwa [← isBeyondLimits_eq_false_iff hne, Bool.not_eq_false] at h

theorem usable_of_resolve_ne (h : t.resolve follow path ≠ .error .other) (hne : path ≠ "") :
    Usable path := by
  by_contra hnot
  exact h (resolve_of_not_usable hnot hne t follow)

theorem resolve_eq_ok_iff :
    t.resolve follow path = .ok spot ↔
      Usable path ∧ t.Walks follow mostLinks [] (components path) spot := by
  constructor
  · intro h
    have hne : path ≠ "" := by
      rintro rfl
      cases h
    have husable : Usable path := by
      by_contra hnot
      rw [resolve_of_not_usable hnot hne] at h
      cases h
    rw [resolve_eq husable, walkLinks_eq_ok_iff] at h
    exact ⟨husable, h⟩
  · intro h
    rw [resolve_eq h.1, walkLinks_eq_ok_iff]
    exact h.2

/-- What a path leads to is still there when the tree grows. -/
theorem resolve_of_extends {t' : Tree} (h : t.resolve follow path = .ok spot)
    (hspot : spot.node.isSome = true) (hextends : t.Extends t') :
    t'.resolve follow path = .ok spot := by
  rw [resolve_eq_ok_iff] at h ⊢
  exact ⟨h.1, h.2.of_extends hspot hextends⟩

theorem readText_eq_ok_iff {text : String} :
    t.readText path = .ok text ↔
      ∃ location, t.resolve true path = .ok ⟨location, some (.file text)⟩ := by
  unfold readText
  rcases t.resolve true path with fault | ⟨location, _ | _ | _ | _⟩ <;>
    simp [bind, Except.bind]

theorem readText_of_extends {t' : Tree} {text : String} (h : t.readText path = .ok text)
    (hextends : t.Extends t') : t'.readText path = .ok text := by
  rw [readText_eq_ok_iff] at h ⊢
  obtain ⟨location, hresolve⟩ := h
  exact ⟨location, resolve_of_extends hresolve rfl hextends⟩

/-- A part of a path can be handed to a file system if the path can. -/
theorem Usable.of_sublist {part : String} (h : Usable path) (hne : part ≠ "")
    (hsub : part.toList.Sublist path.toList) : Usable part where
  ne_empty := hne
  no_nul hnul := h.no_nul (hsub.subset hnul)
  short := by
    have hsize := String.utf8Len_le_of_sublist hsub
    rw [String.utf8Len_toList, String.utf8Len_toList] at hsize
    exact hsize.trans h.short

end ShardMerge.Tree
