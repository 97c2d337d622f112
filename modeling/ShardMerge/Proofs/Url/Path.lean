import ShardMerge.Proofs.Url.Percent

/-!
# Written paths

The paths that reading a URL leaves, and how they are read back.

* `IsPathPart` says which parts are left: their characters stand for themselves, and none of them names
  the directory itself or the one above, as such parts have been followed.
* `UrlPath.settled_readPath` is that a path has such parts only, and `UrlPath.Settled.readPath_write`
  reads it back from what a URL shows: `addParts_eq_append` adds the parts one after another.

All this is about schemes other than that of files, whose paths can begin with a drive.
-/

namespace ShardMerge.Url

open Text

variable {kind : SchemeKind} {c : Char} {s part : List Char} {parts new : List (List Char)}

/-! ## Parts -/

/-- A part of a path as reading leaves it. -/
structure IsPathPart (kind : SchemeKind) (part : List Char) : Prop where
  allowed : ∀ c ∈ part, PercentSet.path.Allows c
  not_slash : ∀ c ∈ part, kind.isSlash c = false
  not_single : isSingleDot part = false
  not_double : isDoubleDot part = false

theorem isPathPart_nil : IsPathPart kind [] := ⟨nofun, nofun, by decide, by decide⟩

theorem isSlash_slash (kind : SchemeKind) : kind.isSlash '/' = true := by
  cases kind <;> decide

theorem isSlash_of_not_separator (h : c ∉ ['/', '\\']) : kind.isSlash c = false := by
  simp only [List.mem_cons, List.not_mem_nil, or_false, not_or] at h
  simp [SchemeKind.isSlash, h]

/-- Encoding a part adds no slash to it. -/
theorem isSlash_of_mem_percentEncode {set : PercentSet} (h : ∀ c ∈ s, kind.isSlash c = false)
    (hc : c ∈ percentEncode set s) : kind.isSlash c = false := by
  have hleaves : PercentSet.LeavesBytes ['/', '\\'] := by decide
  rcases mem_percentEncode hc with ⟨hmem, _⟩ | hbyte
  · exact h c hmem
  · exact isSlash_of_not_separator (hleaves.allows hbyte).2.2

/-- Dots take a part away or add nothing, and where a path ends they leave an empty part. -/
theorem addPart_eq (hkind : kind ≠ .file) (parts : List (List Char)) (part : List Char)
    (last : Bool) :
    addPart kind parts part last =
      if isDoubleDot part then if last then parts.dropLast ++ [[]] else parts.dropLast
      else if isSingleDot part then if last then parts ++ [[]] else parts
      else parts ++ [part] := by
  cases kind with
  | file => exact absurd rfl hkind
  | special => rfl
  | general => rfl

theorem addParts_cons (hnew : new ≠ []) (parts : List (List Char)) (part : List Char) :
    addParts kind parts (part :: new) = addParts kind (addPart kind parts part false) new := by
  cases new with
  | nil => exact absurd rfl hnew
  | cons next rest => rfl

theorem isPathPart_of_mem_addPart (hkind : kind ≠ .file)
    (hparts : ∀ part ∈ parts, IsPathPart kind part)
    (hallowed : ∀ c ∈ part, PercentSet.path.Allows c) (hslash : ∀ c ∈ part, kind.isSlash c = false)
    (last : Bool) : ∀ other ∈ addPart kind parts part last, IsPathPart kind other := by
  have hshorter : ∀ part ∈ parts.dropLast, IsPathPart kind part :=
    fun part hpart => hparts part ((List.dropLast_sublist _).mem hpart)
  have hempty : ∀ part ∈ [[]], IsPathPart kind part :=
    List.forall_mem_singleton.2 isPathPart_nil
  rw [addPart_eq hkind]
  split
  · split
    · exact List.forall_mem_append.2 ⟨hshorter, hempty⟩
    · exact hshorter
  · rename_i hdouble
    split
    · split
      · exact List.forall_mem_append.2 ⟨hparts, hempty⟩
      · exact hparts
    · rename_i hsingle
      exact List.forall_mem_append.2 ⟨hparts, List.forall_mem_singleton.2
        ⟨hallowed, hslash, by simpa using hsingle, by simpa using hdouble⟩⟩

theorem isPathPart_of_mem_addParts (hkind : kind ≠ .file)
    (hparts : ∀ part ∈ parts, IsPathPart kind part)
    (hnew : ∀ part ∈ new, (∀ c ∈ part, PercentSet.path.Allows c) ∧
      ∀ c ∈ part, kind.isSlash c = false) :
    ∀ part ∈ addParts kind parts new, IsPathPart kind part := by
  induction new generalizing parts with
  | nil => exact hparts
  | cons part rest ih =>
    rw [List.forall_mem_cons] at hnew
    have hadded := isPathPart_of_mem_addPart hkind hparts hnew.1.1 hnew.1.2
    by_cases hrest : rest = []
    · subst hrest
      exact hadded true
    · rw [addParts_cons hrest]
      exact ih (hadded false) hnew.2

/-- A path that has been cut into parts does not get empty. -/
theorem addParts_ne_nil (hkind : kind ≠ .file) (hnew : new ≠ []) (parts : List (List Char)) :
    addParts kind parts new ≠ [] := by
  induction new generalizing parts with
  | nil => exact absurd rfl hnew
  | cons part rest ih =>
    by_cases hrest : rest = []
    · subst hrest
      rw [addParts, addPart_eq hkind]
      split
      · simp
      · split <;> simp
    · rw [addParts_cons hrest]
      exact ih hrest _

/-- Parts without dots follow those before them. -/
theorem addParts_eq_append (hkind : kind ≠ .file) (hnew : ∀ part ∈ new, IsPathPart kind part)
    (parts : List (List Char)) : addParts kind parts new = parts ++ new := by
  induction new generalizing parts with
  | nil => rw [addParts, List.append_nil]
  | cons part rest ih =>
    rw [List.forall_mem_cons] at hnew
    have hadd (last : Bool) : addPart kind parts part last = parts ++ [part] := by
      rw [addPart_eq hkind, hnew.1.not_double, hnew.1.not_single, if_neg Bool.false_ne_true,
        if_neg Bool.false_ne_true]
    by_cases hrest : rest = []
    · subst hrest
      exact hadd true
    · rw [addParts_cons hrest, hadd, ih hnew.2, List.append_assoc]
      rfl

theorem readParts_join (hkind : kind ≠ .file) (hne : parts ≠ [])
    (hparts : ∀ part ∈ parts, IsPathPart kind part) :
    readParts kind (join ['/'] parts) = parts := by
  have hkept : ∀ part ∈ parts, percentEncode .path part = part :=
    fun part hpart => percentEncode_of_allows (hparts part hpart).allowed
  rw [readParts, splitWhen_join (isSlash_slash kind) hne fun part hpart =>
    (hparts part hpart).not_slash, List.map_congr_left hkept, List.map_id',
    addParts_eq_append hkind hparts, List.nil_append]

/-! ## Paths -/

namespace UrlPath

/-- A path as reading leaves it behind an authority. -/
inductive Settled (kind : SchemeKind) : UrlPath → Prop
  | slashed {parts : List (List Char)} (hparts : ∀ part ∈ parts, IsPathPart kind part)
    (hne : kind.isSpecial = true → parts ≠ []) : Settled kind (.slashed parts)

theorem settled_readPath (hkind : kind ≠ .file) (s : List Char) :
    (readPath kind s).Settled kind := by
  have hpath : PercentSet.LeavesBytes .path := by decide
  have hread (s : List Char) : (UrlPath.slashed (readParts kind s)).Settled kind := by
    refine .slashed (isPathPart_of_mem_addParts hkind nofun ?_) fun _ => ?_
    · intro part hpart
      obtain ⟨piece, hpiece, rfl⟩ := List.mem_map.1 hpart
      exact ⟨fun c => allows_of_mem_percentEncode hpath,
        fun c => isSlash_of_mem_percentEncode fun c hc => (of_mem_splitWhen hpiece hc).2⟩
    · exact addParts_ne_nil hkind (by simpa using splitWhen_ne_nil _ s) []
  cases s with
  | nil =>
    rw [readPath]
    split
    · exact .slashed (List.forall_mem_singleton.2 isPathPart_nil) fun _ => List.cons_ne_nil _ _
    · rename_i hgeneral
      exact .slashed nofun fun hspecial => absurd hspecial hgeneral
  | cons c rest => exact hread _

theorem write_slashed (part : List Char) (parts : List (List Char)) :
    (slashed (part :: parts)).write = '/' :: join ['/'] (part :: parts) := by
  induction parts generalizing part with
  | nil => simp [write, join]
  | cons next rest ih =>
    have hrest := ih next
    simp only [write] at hrest ⊢
    rw [List.flatMap_cons, hrest, join_cons (List.cons_ne_nil _ _)]
    simp

/-- A settled path is read back from what a URL shows. -/
theorem Settled.readPath_write (hkind : kind ≠ .file) {path : UrlPath} (h : path.Settled kind) :
    readPath kind path.write = path := by
  obtain ⟨hparts, hne⟩ := h
  rename_i parts
  cases parts with
  | nil =>
    have hgeneral : ¬kind.isSpecial = true := fun hspecial => hne hspecial rfl
    rw [write, List.flatMap_nil, readPath, if_neg hgeneral]
  | cons part rest =>
    rw [write_slashed, readPath, isSlash_slash, if_pos rfl,
      readParts_join hkind (List.cons_ne_nil _ _) hparts]

/-- A path begins with a slash, and nothing else stands between its parts. -/
theorem Settled.of_mem_write {path : UrlPath} (h : path.Settled kind) (hc : c ∈ path.write) :
    c = '/' ∨ PercentSet.path.Allows c := by
  obtain ⟨hparts, _⟩ := h
  obtain ⟨part, hpart, hc⟩ := List.mem_flatMap.1 hc
  exact (List.mem_cons.1 hc).imp_right ((hparts part hpart).allowed c)

theorem Settled.head?_write {path : UrlPath} (h : path.Settled kind) :
    ∀ c ∈ path.write.head?, c = '/' := by
  obtain ⟨_, _⟩ := h
  rename_i parts _ _
  cases parts with
  | nil => nofun
  | cons part rest =>
    rw [write_slashed]
    simp

end UrlPath

end ShardMerge.Url
