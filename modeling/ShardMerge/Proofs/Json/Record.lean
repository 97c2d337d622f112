import ShardMerge.Json.Record
import ShardMerge.Proofs.Json.Text

/-!
# Values that are read back

What it takes for the JSON form of a value to be read back.

* `ReadsBack` says of one value that its JSON form is read back by a reader that lets so many arrays
  and objects contain each other.  There is a lemma for each kind of value, and a list or a
  dictionary is one level deeper than what it holds.
* `slots?_object` finds the fields of a record, and `ReadsBack.required?_present` and its siblings
  read them.  `writtenSlot` is what is found of a field that may have been left out.
* `variant?_object` finds the tag of a variant.
* `RoundTrips` is about texts, and `ReadsBack.roundTrips` says that a value of usual depth is read
  back from its own.
-/

namespace ShardMerge

open Json

variable {α : Type} [JsonForm α] {a : α} {items : List α} {depth room : Nat}

/-- The JSON form of a value holds nothing that writing loses, and is read back where so many arrays
and objects may contain each other. -/
structure ReadsBack (depth : Nat) (a : α) : Prop where
  exact : (toJson a).isExact = true
  read : ∀ room, depth ≤ room → JsonForm.ofJson? room (toJson a) = some a

/-! ## Values without fields -/

theorem readsBack_string (s : String) : ReadsBack 0 s := ⟨rfl, fun _ _ => rfl⟩

theorem readsBack_bool (b : Bool) : ReadsBack 0 b := ⟨rfl, fun _ _ => rfl⟩

theorem readsBack_uint64 (n : UInt64) : ReadsBack 0 n := ⟨rfl, fun _ _ => rfl⟩

theorem readsBack_uint8 (n : UInt8) : ReadsBack 0 n where
  exact := rfl
  read _ _ := by
    have hlt : n.toUInt64.toNat < UInt8.size := by
      rw [UInt8.toNat_toUInt64]
      exact n.toNat_lt
    change (Json.below? UInt8.size (.natural n.toUInt64)).map UInt8.ofNat = some n
    rw [Json.below?, if_pos hlt, Option.map_some, UInt8.toNat_toUInt64, UInt8.ofNat_toNat]

theorem readsBack_uint16 (n : UInt16) : ReadsBack 0 n where
  exact := rfl
  read _ _ := by
    have hlt : n.toUInt64.toNat < UInt16.size := by
      rw [UInt16.toNat_toUInt64]
      exact n.toNat_lt
    change (Json.below? UInt16.size (.natural n.toUInt64)).map UInt16.ofNat = some n
    rw [Json.below?, if_pos hlt, Option.map_some, UInt16.toNat_toUInt64, UInt16.ofNat_toNat]

theorem readsBack_uint32 (n : UInt32) : ReadsBack 0 n where
  exact := rfl
  read _ _ := by
    have hlt : n.toUInt64.toNat < UInt32.size := by
      rw [UInt32.toNat_toUInt64]
      exact n.toNat_lt
    change (Json.below? UInt32.size (.natural n.toUInt64)).map UInt32.ofNat = some n
    rw [Json.below?, if_pos hlt, Option.map_some, UInt32.toNat_toUInt64, UInt32.ofNat_toNat]

/-- A value that may be missing is read back if null stands for nothing else. -/
theorem readsBack_option {o : Option α} (h : ∀ a : α, ReadsBack depth a)
    (hnull : ∀ a : α, toJson a ≠ .null) : ReadsBack depth o where
  exact := by
    cases o with
    | none => rfl
    | some a => exact (h a).exact
  read room hroom := by
    cases o with
    | none => rfl
    | some a =>
      simp only [JsonForm.ofJson?, JsonForm.toJson]
      split
      · rename_i heq
        exact absurd heq (hnull a)
      · rw [(h a).read room hroom, Option.map_some]

/-! ## Lists and dictionaries -/

theorem areExact_map (h : ∀ a ∈ items, (toJson a).isExact = true) :
    areExact (items.map toJson) = true := by
  induction items with
  | nil => rfl
  | cons a items ih =>
    rw [List.forall_mem_cons] at h
    rw [List.map_cons, areExact, h.1, ih h.2]
    rfl

theorem ReadsBack.list (h : ∀ a ∈ items, ReadsBack depth a) : ReadsBack (depth + 1) items where
  exact := areExact_map fun a ha => (h a ha).exact
  read room hroom := by
    have hread (a : α) (ha : a ∈ items) : JsonForm.ofJson? (room - 1) (toJson a) = some a :=
      (h a ha).read (room - 1) (by omega)
    change (if room = 0 then none else (items.map toJson).mapM (JsonForm.ofJson? (room - 1))) =
      some items
    rw [if_neg (by omega), mapM_map_eq_some hread, List.map_id']

namespace Dict

variable {β : Type}

/-- Inserted entries are found before those that were there. -/
theorem find?_foldl_insert {l : List (String × β)} (h : l.Pairwise fun a b => a.1 < b.1)
    (d : Dict β) (key : String) :
    (l.foldl (fun d e => d.insert e.1 e.2) d).find? key = (lookup key l <|> d.find? key) := by
  induction l generalizing d with
  | nil => rfl
  | cons e l ih =>
    obtain ⟨k, v⟩ := e
    obtain ⟨hk, hl⟩ := List.pairwise_cons.1 h
    rw [List.foldl_cons, ih hl, find?_insert, lookup]
    by_cases hkey : key = k
    · rw [if_pos hkey, if_pos hkey.symm, hkey, lookup_eq_none_of_lt hk]
      rfl
    · rw [if_neg hkey, if_neg (Ne.symm hkey)]

theorem ofList_entries (d : Dict β) : ofList d.entries = d := by
  apply ext_find?
  intro key
  rw [ofList, find?_foldl_insert d.sorted, find?_empty]
  change (d.find? key <|> none) = d.find? key
  cases d.find? key <;> rfl

end Dict

/-- An object is exact if the values of its members are. -/
theorem isExact_object {members : List (String × Json)}
    (h : ∀ member ∈ members, member.2.isExact = true) : (Json.object members).isExact = true := by
  change membersAreExact members = true
  induction members with
  | nil => rfl
  | cons member members ih =>
    rw [List.forall_mem_cons] at h
    rw [membersAreExact, h.1, ih h.2]
    rfl

theorem readsBack_dict {d : Dict α} (h : ∀ entry ∈ d.entries, ReadsBack depth entry.2) :
    ReadsBack (depth + 1) d where
  exact := isExact_object (List.forall_mem_map.2 fun entry hentry => (h entry hentry).exact)
  read room hroom := by
    have hread : ∀ entry ∈ d.entries,
        (JsonForm.ofJson? (room - 1) (toJson entry.2)).map (fun value => (entry.1, value)) =
          some entry := by
      intro entry hentry
      rw [(h entry hentry).read (room - 1) (by omega), Option.map_some]
    change (if room = 0 then none else Option.map Dict.ofList
      ((d.entries.map fun entry => (entry.1, toJson entry.2)).mapM _)) = some d
    rw [if_neg (by omega), mapM_map_eq_some hread, List.map_id', Option.map_some,
      Dict.ofList_entries]

/-! ## Records -/

variable {members : List (String × Json)}

/-- Where names do not repeat, a member is found by its name. -/
theorem slot?_of_mem (hnames : (members.map (·.1)).Nodup) {member : String × Json}
    (h : member ∈ members) : slot? members member.1 = some (.present member.2) := by
  have hothers : (members.filter fun other => other.1 = member.1) = [member] := by
    induction members with
    | nil => cases h
    | cons other members ih =>
      rw [List.map_cons, List.nodup_cons] at hnames
      rcases List.mem_cons.1 h with rfl | hmem
      · rw [List.filter_cons_of_pos (by simp), List.filter_eq_nil_iff.2]
        intro other hother hsame
        exact hnames.1 (List.mem_map.2 ⟨other, hother, of_decide_eq_true hsame⟩)
      · have hne : other.1 ≠ member.1 := by
          intro hsame
          exact hnames.1 (hsame ▸ List.mem_map_of_mem hmem)
        rw [List.filter_cons_of_neg (by simpa using hne), ih hnames.2 hmem]
  rw [slot?, hothers]

/-- All fields of a record are found if it was written with all of them. -/
theorem slots?_object {names : List String} (hnames : members.map (·.1) = names)
    (hnodup : names.Nodup) (hroom : room ≠ 0) :
    slots? names room (.object members) = some (members.map fun member => .present member.2) := by
  subst hnames
  rw [slots?, if_neg hroom]
  exact mapM_map_eq_some fun member hmember => slot?_of_mem hnodup hmember

theorem ReadsBack.required?_present (h : ReadsBack depth a) (hroom : depth ≤ room) :
    (Slot.present (toJson a)).required? room = some a := h.read room hroom

theorem ReadsBack.orElse?_present (h : ReadsBack depth a) (hroom : depth ≤ room) (default : α) :
    (Slot.present (toJson a)).orElse? default room = some a := h.read room hroom

theorem ReadsBack.optional?_present {o : Option α} (h : ReadsBack depth o) (hroom : depth ≤ room) :
    (Slot.present (toJson o)).optional? room = some o := by
  rw [← h.read room hroom]
  cases toJson o <;> rfl

/-- The slot of a field that is left out where it holds its default. -/
def writtenSlot (omitted : Bool) (a : α) : Slot :=
  if omitted then .omitted else .present (toJson a)

theorem ReadsBack.orElse?_writtenSlot (h : ReadsBack depth a) (hroom : depth ≤ room)
    {omitted : Bool} {default : α} (hdefault : omitted = true → a = default) :
    (writtenSlot omitted a).orElse? default room = some a := by
  cases omitted with
  | true =>
    rw [hdefault rfl]
    rfl
  | false => exact h.read room hroom

/-! ## Variants -/

section Tag

variable {tag : String} (hmembers : ∀ member ∈ members, member.1 ≠ tag)

include hmembers

/-- A member whose name no other member has is the only one of its name. -/
theorem filter_tag (value : Json) :
    ((tag, value) :: members).filter (fun member => member.1 = tag) = [(tag, value)] := by
  rw [List.filter_cons_of_pos (by simp), List.filter_eq_nil_iff.2]
  exact fun member hmember hsame => hmembers member hmember (of_decide_eq_true hsame)

theorem filter_not_tag (value : Json) :
    ((tag, value) :: members).filter (fun member => member.1 ≠ tag) = members := by
  rw [List.filter_cons_of_neg (by simp), List.filter_eq_self]
  exact fun member hmember => decide_eq_true (hmembers member hmember)

/-- The tag of a variant that was written is found, with the rest of its fields. -/
theorem variant?_object {name : String} {names : List String} (hname : names.contains name = true)
    (hwhole : (Json.object ((tag, .string name) :: members)).isWhole room = true)
    (numbered : Bool) :
    variant? tag names numbered room (.object ((tag, .string name) :: members)) =
      some (name, .object members) := by
  rw [variant?, if_pos hwhole, splitTag?, filter_tag hmembers]
  simp only [filter_not_tag hmembers, Option.bind_eq_bind, Option.bind_some, variantName?, hname,
    if_true]

end Tag

/-! ## Texts -/

theorem ReadsBack.readText?_compact (h : ReadsBack depth a) (hdepth : depth ≤ maxDepth) :
    readText? (toJson a).compact = some a := by
  rw [readText?, compact, String.toList_ofList, parse?_writeCompact h.exact, Option.bind_some]
  exact h.read maxDepth hdepth

theorem ReadsBack.readText?_pretty (h : ReadsBack depth a) (hdepth : depth ≤ maxDepth) :
    readText? (toJson a).pretty = some a := by
  rw [readText?, pretty, String.toList_ofList, parse?_writePretty h.exact, Option.bind_some]
  exact h.read maxDepth hdepth

/-- A value is read back from its text, in one line or over several. -/
structure RoundTrips (a : α) : Prop where
  compact : readText? (toJson a).compact = some a
  pretty : readText? (toJson a).pretty = some a

theorem ReadsBack.roundTrips (h : ReadsBack depth a) (hdepth : depth ≤ maxDepth) : RoundTrips a :=
  ⟨h.readText?_compact hdepth, h.readText?_pretty hdepth⟩

end ShardMerge
