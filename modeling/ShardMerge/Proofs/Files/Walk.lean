import ShardMerge.Proofs.Files.Tree

/-!
# Ways through a file tree

Where names lead, as a relation beside the function that follows them.

* `Tree.Walks` has a rule for each step: a directory is entered, `..` goes up, `.` stays, and a link
  is replaced by its target.  `walkLinks_eq_ok_iff` says that these are the ways that are found.
* `Walks.append` cuts a way at a directory, and `Walks.of_append` finds the directory again.
* `Walks.of_filter_eq` says that `.` makes no difference on the way to a directory, and
  `Walks.of_extends` that a way stays open when the tree grows.
* `Tree.Leads` is the way from the top to a directory.
-/

namespace ShardMerge.Tree

variable {t t' : Tree} {follow : Bool} {links : Nat} {location base : List String}
  {name target : String} {names rest : List String} {spot : Spot}

/-! ## Single steps -/

/-- A name that stands for an entry of a directory, and that a directory can hold. -/
structure IsEntryName (name : String) : Prop where
  ne_dot : name ≠ "."
  ne_dotDot : name ≠ ".."
  short : name.utf8ByteSize ≤ longestName

/-- Where the target of a link is looked up that is in a directory. -/
def origin (target : String) (location : List String) : List String :=
  if target.startsWith "/" then [] else location

/-- Goes on from a link, unless there were too many. -/
def followLink (t : Tree) (follow : Bool) : (links : Nat) → (location names : List String) →
    Except Fault Spot
  | 0, _, _ => .error .other
  | links + 1, location, names => t.walkLinks follow links location names

theorem walkLinks_eq_walk (t : Tree) (follow : Bool) (links : Nat) :
    t.walkLinks follow links = t.walk follow (t.followLink follow links) := by
  cases links <;> rfl

theorem walkLinks_nil (t : Tree) (follow : Bool) (links : Nat) (location : List String) :
    t.walkLinks follow links location [] = .ok ⟨location, t.find? location⟩ := by
  rw [walkLinks_eq_walk, walk]

theorem walkLinks_dot (t : Tree) (follow : Bool) (links : Nat) (location rest : List String) :
    t.walkLinks follow links location ("." :: rest) = t.walkLinks follow links location rest := by
  rw [walkLinks_eq_walk, walk, if_pos rfl]

theorem walkLinks_dotDot (t : Tree) (follow : Bool) (links : Nat) (location rest : List String) :
    t.walkLinks follow links location (".." :: rest) =
      t.walkLinks follow links location.dropLast rest := by
  rw [walkLinks_eq_walk, walk, if_neg (by decide), if_pos rfl]

theorem walkLinks_name (hname : IsEntryName name) (t : Tree) (follow : Bool) (links : Nat)
    (location rest : List String) :
    t.walkLinks follow links location (name :: rest) =
      match t.find? (location ++ [name]) with
      | none => if rest.isEmpty then .ok ⟨location ++ [name], none⟩ else .error .notFound
      | some .directory => t.walkLinks follow links (location ++ [name]) rest
      | some (.file text) =>
        if rest.isEmpty then .ok ⟨location ++ [name], some (.file text)⟩ else .error .other
      | some (.link target) =>
        if rest.isEmpty && !follow then .ok ⟨location ++ [name], some (.link target)⟩
        else t.followLink follow links (origin target location) (components target ++ rest) := by
  rw [walkLinks_eq_walk, walk, if_neg hname.ne_dot, if_neg hname.ne_dotDot,
    if_neg (Nat.not_lt.2 hname.short)]
  rfl

theorem walkLinks_long (hdot : name ≠ ".") (hdotDot : name ≠ "..")
    (hlong : longestName < name.utf8ByteSize) (t : Tree) (follow : Bool) (links : Nat)
    (location rest : List String) :
    t.walkLinks follow links location (name :: rest) = .error .other := by
  rw [walkLinks_eq_walk, walk, if_neg hdot, if_neg hdotDot, if_pos hlong]

theorem walkLinks_enter (hname : IsEntryName name)
    (h : t.find? (location ++ [name]) = some .directory) :
    t.walkLinks follow links location (name :: rest) =
      t.walkLinks follow links (location ++ [name]) rest := by
  rw [walkLinks_name hname, h]

/-- The last name leads to what is there, unless that is a link. -/
theorem walkLinks_last (hname : IsEntryName name)
    (h : ∀ target, t.find? (location ++ [name]) ≠ some (.link target)) :
    t.walkLinks follow links location [name] =
      .ok ⟨location ++ [name], t.find? (location ++ [name])⟩ := by
  rw [walkLinks_name hname]
  cases hnode : t.find? (location ++ [name]) with
  | none => rfl
  | some node =>
    cases node with
    | directory => rw [walkLinks_nil, hnode]
    | file text => rfl
    | link target => exact absurd hnode (h target)

/-! ## Ways -/

/-- From a location, names lead to a spot, through at most so many links. -/
inductive Walks (t : Tree) (follow : Bool) :
    (links : Nat) → (location names : List String) → Spot → Prop where
  | arrived {links : Nat} {location : List String} :
    Walks t follow links location [] ⟨location, t.find? location⟩
  | stay {links : Nat} {location rest : List String} {spot : Spot}
    (h : Walks t follow links location rest spot) :
    Walks t follow links location ("." :: rest) spot
  | up {links : Nat} {location rest : List String} {spot : Spot}
    (h : Walks t follow links location.dropLast rest spot) :
    Walks t follow links location (".." :: rest) spot
  | enter {links : Nat} {location rest : List String} {name : String} {spot : Spot}
    (hname : IsEntryName name) (hthere : t.find? (location ++ [name]) = some .directory)
    (h : Walks t follow links (location ++ [name]) rest spot) :
    Walks t follow links location (name :: rest) spot
  /-- What is no directory ends the way; a link does so if it is not to be followed. -/
  | last {links : Nat} {location : List String} {name : String} (hname : IsEntryName name)
    (hthere : t.find? (location ++ [name]) ≠ some .directory)
    (hlink : follow = true → ∀ target, t.find? (location ++ [name]) ≠ some (.link target)) :
    Walks t follow links location [name] ⟨location ++ [name], t.find? (location ++ [name])⟩
  | jump {links : Nat} {location rest : List String} {name target : String} {spot : Spot}
    (hname : IsEntryName name) (hthere : t.find? (location ++ [name]) = some (.link target))
    (hfollow : rest ≠ [] ∨ follow = true)
    (h : Walks t follow links (origin target location) (components target ++ rest) spot) :
    Walks t follow (links + 1) location (name :: rest) spot

theorem Walks.walkLinks_eq (h : t.Walks follow links location names spot) :
    t.walkLinks follow links location names = .ok spot := by
  induction h with
  | arrived => rw [walkLinks_nil]
  | stay _ ih => rw [walkLinks_dot, ih]
  | up _ ih => rw [walkLinks_dotDot, ih]
  | enter hname hthere _ ih => rw [walkLinks_enter hname hthere, ih]
  | @last links location name hname hthere hlink =>
    rw [walkLinks_name hname]
    split
    · rename_i hnode
      rw [hnode]
      rfl
    · rename_i hnode
      exact absurd hnode hthere
    · rename_i hnode
      rw [hnode]
      rfl
    · rename_i target hnode
      cases hfollow : follow with
      | false => simp [hnode]
      | true => exact absurd hnode (hlink hfollow target)
  | jump hname hthere hfollow _ ih =>
    rw [walkLinks_name hname, hthere]
    simp only
    rw [if_neg (by simpa [or_iff_not_imp_left] using hfollow), followLink, ih]

theorem walks_of_walk {again : List String → List String → Except Fault Spot}
    (hagain : ∀ (location rest : List String) (name target : String),
      IsEntryName name → t.find? (location ++ [name]) = some (.link target) →
      (rest ≠ [] ∨ follow = true) →
      again (origin target location) (components target ++ rest) = .ok spot →
      t.Walks follow links location (name :: rest) spot)
    (h : t.walk follow again location names = .ok spot) :
    t.Walks follow links location names spot := by
  induction names generalizing location with
  | nil =>
    rw [walk] at h
    cases h
    exact .arrived
  | cons name rest ih =>
    rw [walk] at h
    split at h
    · rename_i hdot
      subst hdot
      exact .stay (ih h)
    · rename_i hdot
      split at h
      · rename_i hdotDot
        subst hdotDot
        exact .up (ih h)
      · rename_i hdotDot
        split at h
        · cases h
        · rename_i hshort
          have hname : IsEntryName name := ⟨hdot, hdotDot, Nat.not_lt.1 hshort⟩
          simp only at h
          split at h
          · rename_i hnode
            split at h
            · rename_i hrest
              cases h
              rw [List.isEmpty_iff.1 hrest, ← hnode]
              exact .last hname (by simp [hnode]) (by simp [hnode])
            · cases h
          · rename_i hnode
            exact .enter hname hnode (ih h)
          · rename_i text hnode
            split at h
            · rename_i hrest
              cases h
              rw [List.isEmpty_iff.1 hrest, ← hnode]
              exact .last hname (by simp [hnode]) (by simp [hnode])
            · cases h
          · rename_i target hnode
            split at h
            · rename_i hlast
              simp only [Bool.and_eq_true, List.isEmpty_iff, Bool.not_eq_true'] at hlast
              cases h
              rw [hlast.1, ← hnode]
              exact .last hname (by simp [hnode]) (by simp [hlast.2])
            · rename_i hfollow
              refine hagain location rest name target hname hnode ?_ h
              by_cases hrest : rest = []
              · exact .inr (by simpa [hrest] using hfollow)
              · exact .inl hrest

theorem walkLinks_eq_ok_iff :
    t.walkLinks follow links location names = .ok spot ↔
      t.Walks follow links location names spot := by
  constructor
  · intro h
    induction links generalizing location names with
    | zero =>
      refine walks_of_walk ?_ h
      intro location rest name target _ _ _ h
      cases h
    | succ links ih =>
      refine walks_of_walk ?_ h
      intro location rest name target hname hthere hfollow h
      exact .jump hname hthere hfollow (ih h)
  · exact Walks.walkLinks_eq

/-! ## What is at the end -/

/-- A location and those above it are directories. -/
def Solid (t : Tree) (location : List String) : Prop :=
  ∀ count, t.find? (location.take count) = some .directory

theorem solid_nil (t : Tree) : t.Solid [] := by
  intro count
  rw [List.take_nil, find?_nil]

theorem Solid.find?_eq (h : t.Solid location) : t.find? location = some .directory := by
  rw [← h location.length, List.take_length]

theorem Solid.dropLast (h : t.Solid location) : t.Solid location.dropLast := by
  intro count
  rw [List.dropLast_eq_take, List.take_take]
  exact h _

theorem Solid.concat (h : t.Solid location) (hthere : t.find? (location ++ [name]) = some .directory) :
    t.Solid (location ++ [name]) := by
  intro count
  by_cases hcount : count ≤ location.length
  · rw [List.take_append_of_le_length hcount]
    exact h count
  · rw [List.take_of_length_le (by simp; omega), hthere]

theorem Solid.origin (h : t.Solid location) (target : String) : t.Solid (origin target location) := by
  unfold Tree.origin
  split
  · exact solid_nil t
  · exact h

/-- A way to a directory goes through directories only. -/
theorem Walks.solid (h : t.Walks follow links location names spot) (hsolid : t.Solid location)
    (hspot : spot.node = some .directory) : t.Solid spot.location := by
  induction h with
  | arrived => exact hsolid
  | stay _ ih => exact ih hsolid hspot
  | up _ ih => exact ih hsolid.dropLast hspot
  | enter _ hthere _ ih => exact ih (hsolid.concat hthere) hspot
  | last _ hthere _ => exact absurd hspot hthere
  | jump _ _ _ _ ih => exact ih (hsolid.origin _) hspot

/-- What is found by following a link at the end of a way is found as a link without. -/
theorem Walks.unfollowed (h : t.Walks true links location names spot)
    (hspot : spot.node.isSome = true) :
    ∃ spot', t.Walks false links location names spot' ∧ spot'.node.isSome = true := by
  induction h with
  | arrived => exact ⟨_, .arrived, hspot⟩
  | stay _ ih =>
    obtain ⟨spot', hwalks, hsome⟩ := ih hspot
    exact ⟨spot', .stay hwalks, hsome⟩
  | up _ ih =>
    obtain ⟨spot', hwalks, hsome⟩ := ih hspot
    exact ⟨spot', .up hwalks, hsome⟩
  | enter hname hthere _ ih =>
    obtain ⟨spot', hwalks, hsome⟩ := ih hspot
    exact ⟨spot', .enter hname hthere hwalks, hsome⟩
  | last hname hthere _ => exact ⟨_, .last hname hthere nofun, hspot⟩
  | @jump links location rest name target spot hname hthere _ _ ih =>
    by_cases hrest : rest = []
    · subst hrest
      exact ⟨_, .last hname (by simp [hthere]) nofun, by simp [hthere]⟩
    · obtain ⟨spot', hwalks, hsome⟩ := ih hspot
      exact ⟨spot', .jump hname hthere (.inl hrest) hwalks, hsome⟩

/-- What is found by following a link is not missing without. -/
theorem Walks.not_missing (h : t.Walks true links location names spot)
    (hspot : spot.node.isSome = true) {place : List String} :
    ¬t.Walks false links location names ⟨place, none⟩ := by
  intro hmissing
  obtain ⟨spot', hwalks, hsome⟩ := h.unfollowed hspot
  have heq := hwalks.walkLinks_eq.symm.trans hmissing.walkLinks_eq
  injection heq with heq
  rw [heq] at hsome
  cases hsome

/-! ## Ways in two parts -/

/-- After a way to a directory, more names are followed from there. -/
theorem Walks.append (h : t.Walks true links location names ⟨base, some .directory⟩) :
    ∃ left, ∀ follow rest, rest ≠ [] →
      t.walkLinks follow links location (names ++ rest) = t.walkLinks follow left base rest := by
  generalize hspot : (⟨base, some .directory⟩ : Spot) = spot at h
  induction h with
  | @arrived links location =>
    injection hspot with hbase
    exact ⟨links, fun _ _ _ => by rw [List.nil_append, hbase]⟩
  | stay _ ih =>
    obtain ⟨left, hleft⟩ := ih hspot
    refine ⟨left, fun follow rest hrest => ?_⟩
    rw [List.cons_append, walkLinks_dot, hleft follow rest hrest]
  | up _ ih =>
    obtain ⟨left, hleft⟩ := ih hspot
    refine ⟨left, fun follow rest hrest => ?_⟩
    rw [List.cons_append, walkLinks_dotDot, hleft follow rest hrest]
  | enter hname hthere _ ih =>
    obtain ⟨left, hleft⟩ := ih hspot
    refine ⟨left, fun follow rest hrest => ?_⟩
    rw [List.cons_append, walkLinks_enter hname hthere, hleft follow rest hrest]
  | last _ hthere _ =>
    injection hspot with _ hnode
    exact absurd hnode.symm hthere
  | jump hname hthere _ _ ih =>
    obtain ⟨left, hleft⟩ := ih hspot
    refine ⟨left, fun follow rest hrest => ?_⟩
    rw [List.cons_append, walkLinks_name hname, hthere]
    simp only
    rw [if_neg (by simp [hrest]), followLink, ← List.append_assoc, hleft follow rest hrest]

/-- The names on the way to a spot lead to a directory, except for the last ones. -/
theorem Walks.of_append (h : t.Walks follow links location (names ++ rest) spot)
    (hrest : rest ≠ []) (hsolid : t.Solid location) :
    ∃ base, t.Walks true links location names ⟨base, some .directory⟩ := by
  generalize hall : names ++ rest = all at h
  -- Without names the way ends where it begins.
  have hstart {links : Nat} {location : List String} (hsolid : t.Solid location) :
      ∃ base, t.Walks true links location [] ⟨base, some .directory⟩ :=
    ⟨location, hsolid.find?_eq ▸ .arrived⟩
  induction h generalizing names with
  | arrived => exact absurd (List.append_eq_nil_iff.1 hall).2 hrest
  | stay _ ih =>
    rcases List.append_eq_cons_iff.1 hall with ⟨rfl, _⟩ | ⟨names, rfl, hmore⟩
    · exact hstart hsolid
    · obtain ⟨base, hwalks⟩ := ih hsolid hmore.symm
      exact ⟨base, .stay hwalks⟩
  | up _ ih =>
    rcases List.append_eq_cons_iff.1 hall with ⟨rfl, _⟩ | ⟨names, rfl, hmore⟩
    · exact hstart hsolid
    · obtain ⟨base, hwalks⟩ := ih hsolid.dropLast hmore.symm
      exact ⟨base, .up hwalks⟩
  | enter hname hthere _ ih =>
    rcases List.append_eq_cons_iff.1 hall with ⟨rfl, _⟩ | ⟨names, rfl, hmore⟩
    · exact hstart hsolid
    · obtain ⟨base, hwalks⟩ := ih (hsolid.concat hthere) hmore.symm
      exact ⟨base, .enter hname hthere hwalks⟩
  | last =>
    rcases List.append_eq_cons_iff.1 hall with ⟨rfl, _⟩ | ⟨names, rfl, hmore⟩
    · exact hstart hsolid
    · exact absurd (List.append_eq_nil_iff.1 hmore.symm).2 hrest
  | jump hname hthere _ _ ih =>
    rcases List.append_eq_cons_iff.1 hall with ⟨rfl, _⟩ | ⟨names, rfl, hmore⟩
    · exact hstart hsolid
    · obtain ⟨base, hwalks⟩ := ih (hsolid.origin _) (by rw [hmore, List.append_assoc])
      exact ⟨base, .jump hname hthere (.inr rfl) hwalks⟩

/-! ## Ways that lead to the same place -/

theorem walkLinks_dots {dots : List String} (h : ∀ dot ∈ dots, dot = ".") (t : Tree) (follow : Bool)
    (links : Nat) (location rest : List String) :
    t.walkLinks follow links location (dots ++ rest) = t.walkLinks follow links location rest := by
  induction dots with
  | nil => rfl
  | cons dot dots ih =>
    rw [List.forall_mem_cons] at h
    rw [h.1, List.cons_append, walkLinks_dot, ih h.2]

/-- A name that is not `.` comes after some that are. -/
theorem walkLinks_of_filter_eq_cons {names : List String}
    (h : names.filter (· ≠ ".") = name :: rest) :
    ∃ more, more.filter (· ≠ ".") = rest ∧ ∀ (t : Tree) (follow : Bool) (links : Nat) location,
      t.walkLinks follow links location names =
        t.walkLinks follow links location (name :: more) := by
  obtain ⟨dots, more, rfl, hdots, _, hmore⟩ := List.filter_eq_cons_iff.1 h
  refine ⟨more, hmore, fun t follow links location => ?_⟩
  exact walkLinks_dots (by simpa using hdots) t follow links location _

/-- On the way to a directory, `.` makes no difference. -/
theorem Walks.of_filter_eq (h : t.Walks true links location names ⟨base, some .directory⟩)
    {names' : List String} (hnames : names.filter (· ≠ ".") = names'.filter (· ≠ ".")) :
    t.Walks true links location names' ⟨base, some .directory⟩ := by
  rw [← walkLinks_eq_ok_iff]
  generalize hspot : (⟨base, some .directory⟩ : Spot) = spot at h
  induction h generalizing names' with
  | arrived =>
    have hdots : ∀ dot ∈ names', dot = "." := by
      rw [List.filter_nil, eq_comm, List.filter_eq_nil_iff] at hnames
      simpa using hnames
    rw [← List.append_nil names', walkLinks_dots hdots, walkLinks_nil]
  | stay _ ih => exact ih (by simpa using hnames) hspot
  | up _ ih =>
    obtain ⟨more, hmore, hwalk⟩ := walkLinks_of_filter_eq_cons hnames.symm
    rw [hwalk, walkLinks_dotDot]
    exact ih hmore.symm hspot
  | enter hname hthere _ ih =>
    rw [List.filter_cons_of_pos (by simpa using hname.ne_dot)] at hnames
    obtain ⟨more, hmore, hwalk⟩ := walkLinks_of_filter_eq_cons hnames.symm
    rw [hwalk, walkLinks_enter hname hthere]
    exact ih hmore.symm hspot
  | last _ hthere _ =>
    injection hspot with _ hnode
    exact absurd hnode.symm hthere
  | jump hname hthere _ _ ih =>
    rw [List.filter_cons_of_pos (by simpa using hname.ne_dot)] at hnames
    obtain ⟨more, hmore, hwalk⟩ := walkLinks_of_filter_eq_cons hnames.symm
    rw [hwalk, walkLinks_name hname, hthere]
    simp only
    rw [if_neg (by simp), followLink]
    exact ih (by rw [List.filter_append, List.filter_append, hmore]) hspot

/-- A way to what is there stays open when the tree grows. -/
theorem Walks.of_extends (h : t.Walks follow links location names spot)
    (hspot : spot.node.isSome = true) (hextends : t.Extends t') :
    t'.Walks follow links location names spot := by
  have hsame {location : List String} (hsome : (t.find? location).isSome = true) :
      t'.find? location = t.find? location := by
    obtain ⟨node, hnode⟩ := Option.isSome_iff_exists.1 hsome
    rw [hnode, hextends _ _ hnode]
  induction h with
  | arrived =>
    rw [← hsame hspot]
    exact .arrived
  | stay _ ih => exact .stay (ih hspot)
  | up _ ih => exact .up (ih hspot)
  | enter hname hthere _ ih => exact .enter hname (hextends _ _ hthere) (ih hspot)
  | last hname hthere hlink =>
    rw [← hsame hspot] at hthere hlink ⊢
    exact .last hname hthere hlink
  | jump hname hthere hfollow _ ih => exact .jump hname (hextends _ _ hthere) hfollow (ih hspot)

/-! ## Ways from the top -/

/-- From the top, names lead to a directory. -/
def Leads (t : Tree) (names location : List String) : Prop :=
  t.Walks true mostLinks [] names ⟨location, some .directory⟩

theorem leads_nil (t : Tree) : t.Leads [] [] := .arrived

theorem Leads.solid (h : t.Leads names location) : t.Solid location :=
  Walks.solid h (solid_nil t) rfl

theorem Leads.find?_eq (h : t.Leads names location) : t.find? location = some .directory :=
  h.solid.find?_eq

theorem Leads.of_extends (h : t.Leads names location) (hextends : t.Extends t') :
    t'.Leads names location :=
  Walks.of_extends h rfl hextends

end ShardMerge.Tree
