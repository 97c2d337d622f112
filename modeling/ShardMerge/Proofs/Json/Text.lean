import ShardMerge.Json.Parser
import ShardMerge.Json.Printer
import ShardMerge.Proofs.Json.Literal
import ShardMerge.Proofs.Lists
import ShardMerge.Proofs.Text.Digits

/-!
# Texts that are read back

A value that is written in one line or over several is read back.

* `Json.Spells` says which texts are spellings of a value.  Blanks may stand where a writer puts
  them.
* `Reads` is what the reader takes off the front of a text with so much fuel, and `reads` holds by
  induction on the fuel.  `parse?_of_spells` says that the fuel that it is given is enough.
* `spells_writeCompact` and `spells_writePretty` are the writers.  They write spellings of everything
  but numbers that are kept as they are spelled, which `isExact` leaves out.  `parse?_writeCompact`
  and `parse?_writePretty` put writing and reading together.
-/

namespace ShardMerge.Json

/-! ## Spellings -/

/-- Nothing but blanks. -/
def Blanks (s : List Char) : Prop := ∀ c ∈ s, isBlank c = true

theorem blanks_nil : Blanks [] := nofun

theorem blanks_space : Blanks [' '] := by
  intro c hc
  rw [List.mem_singleton.1 hc]
  decide

mutual

/-- A text is a spelling of a value. -/
inductive Spells : Json → List Char → Prop where
  | null : Spells .null ['n', 'u', 'l', 'l']
  | isTrue : Spells (.bool true) ['t', 'r', 'u', 'e']
  | isFalse : Spells (.bool false) ['f', 'a', 'l', 's', 'e']
  | natural (value : UInt64) : Spells (.natural value) (Nat.toDigits 10 value.toNat)
  | string (text : String) : Spells (.string text) (writeString text.toList)
  | emptyArray : Spells (.array []) ['[', ']']
  | array {items : List Json} {blanks s : List Char} (hblanks : Blanks blanks)
    (h : SpellsItems items s) : Spells (.array items) ('[' :: (blanks ++ s))
  | emptyObject : Spells (.object []) ['\x7b', '\x7d']
  | object {members : List (String × Json)} {blanks s : List Char} (hblanks : Blanks blanks)
    (h : SpellsMembers members s) : Spells (.object members) ('\x7b' :: (blanks ++ s))

/-- A text is a spelling of the items of an array, with its closing bracket. -/
inductive SpellsItems : List Json → List Char → Prop where
  | last {item : Json} {s blanks : List Char} (hitem : Spells item s) (hblanks : Blanks blanks) :
    SpellsItems [item] (s ++ (blanks ++ [']']))
  | cons {item : Json} {items : List Json} {s blanks rest : List Char} (hitem : Spells item s)
    (hblanks : Blanks blanks) (hitems : SpellsItems items rest) :
    SpellsItems (item :: items) (s ++ ',' :: (blanks ++ rest))

/-- A text is a spelling of the members of an object, with its closing brace. -/
inductive SpellsMembers : List (String × Json) → List Char → Prop where
  | last {name : String} {value : Json} {between s blanks : List Char} (hbetween : Blanks between)
    (hvalue : Spells value s) (hblanks : Blanks blanks) :
    SpellsMembers [(name, value)]
      (writeString name.toList ++ ':' :: (between ++ (s ++ (blanks ++ ['\x7d']))))
  | cons {name : String} {value : Json} {members : List (String × Json)}
    {between s blanks rest : List Char} (hbetween : Blanks between) (hvalue : Spells value s)
    (hblanks : Blanks blanks) (hmembers : SpellsMembers members rest) :
    SpellsMembers ((name, value) :: members)
      (writeString name.toList ++ ':' :: (between ++ (s ++ ',' :: (blanks ++ rest))))

end

/-! ## Blanks and first characters -/

theorem dropBlanks_append {blanks : List Char} (h : Blanks blanks) (s : List Char) :
    dropBlanks (blanks ++ s) = dropBlanks s := by
  rw [dropBlanks, List.dropWhile_append_of_pos h, dropBlanks]

theorem dropBlanks_cons {c : Char} (h : isBlank c = false) (s : List Char) :
    dropBlanks (c :: s) = c :: s := by
  rw [dropBlanks, List.dropWhile_cons_of_neg (by simp [h])]

theorem isBlank_of_isDigit {c : Char} (h : c.isDigit = true) : isBlank c = false := by
  simp [isBlank, Text.ne_of_isDigit h]

theorem exists_toDigits_eq_cons (n : Nat) :
    ∃ c r, Nat.toDigits 10 n = c :: r ∧ c.isDigit = true := by
  obtain ⟨c, r, hcons⟩ := List.exists_cons_of_ne_nil (Nat.toDigits_ne_nil (b := 10) (n := n))
  exact ⟨c, r, hcons, isDigit_of_mem_toDigits (n := n) (by rw [hcons]; exact .head _)⟩

/-- A spelling begins with a character that is neither a blank nor a closing bracket. -/
theorem Spells.exists_cons {value : Json} {s : List Char} (h : Spells value s) :
    ∃ c r, s = c :: r ∧ isBlank c = false ∧ c ≠ ']' := by
  cases h with
  | natural n =>
    obtain ⟨c, r, hcons, hdigit⟩ := exists_toDigits_eq_cons n.toNat
    exact ⟨c, r, hcons, isBlank_of_isDigit hdigit, Text.ne_of_isDigit hdigit (by decide)⟩
  | _ => exact ⟨_, _, rfl, by decide, by decide⟩

theorem SpellsItems.exists_cons {items : List Json} {s : List Char} (h : SpellsItems items s) :
    ∃ c r, s = c :: r ∧ isBlank c = false ∧ c ≠ ']' := by
  cases h with
  | last hitem hblanks =>
    obtain ⟨c, r, rfl, hc⟩ := hitem.exists_cons
    exact ⟨c, _, rfl, hc⟩
  | cons hitem hblanks hitems =>
    obtain ⟨c, r, rfl, hc⟩ := hitem.exists_cons
    exact ⟨c, _, rfl, hc⟩

theorem SpellsMembers.exists_cons {members : List (String × Json)} {s : List Char}
    (h : SpellsMembers members s) : ∃ r, s = '"' :: r := by
  cases h <;> exact ⟨_, rfl⟩

theorem endsNumber_cons {mark : Char} (hmark : mark ∈ [',', ']', '\x7d']) (rest : List Char) :
    EndsNumber (mark :: rest) := by
  intro c hc
  cases hc
  simp only [List.mem_cons, List.not_mem_nil, or_false] at hmark
  rcases hmark with rfl | rfl | rfl <;> decide

/-- A number ends before a blank. -/
theorem endsNumber_append {blanks rest : List Char} (h : Blanks blanks) (hrest : EndsNumber rest) :
    EndsNumber (blanks ++ rest) := by
  cases blanks with
  | nil => exact hrest
  | cons b blanks =>
    intro c hc
    have hblank := h b List.mem_cons_self
    cases hc
    simp only [isBlank, Bool.or_eq_true, decide_eq_true_eq, or_assoc] at hblank
    rcases hblank with rfl | rfl | rfl | rfl <;> decide

/-! ## Reading -/

theorem readValue_append {blanks : List Char} (h : Blanks blanks) (fuel : Nat) (s : List Char) :
    readValue fuel (blanks ++ s) = readValue fuel s := by
  cases fuel with
  | zero => rfl
  | succ fuel =>
    unfold readValue
    rw [dropBlanks_append h]

theorem readItems_append {blanks : List Char} (h : Blanks blanks) (fuel : Nat) (s : List Char) :
    readItems fuel (blanks ++ s) = readItems fuel s := by
  cases fuel with
  | zero => rfl
  | succ fuel =>
    unfold readItems
    rw [readValue_append h]

theorem readMembers_append {blanks : List Char} (h : Blanks blanks) (fuel : Nat) (s : List Char) :
    readMembers fuel (blanks ++ s) = readMembers fuel s := by
  cases fuel with
  | zero => rfl
  | succ fuel =>
    unfold readMembers
    rw [dropBlanks_append h]

theorem readValue_of_isDigit {c : Char} (hc : c.isDigit = true) (fuel : Nat) (r : List Char) :
    readValue (fuel + 1) (c :: r) =
      (readNumber (c :: r)).map fun taken => (taken.1.toJson, taken.2) := by
  unfold readValue
  rw [dropBlanks_cons (isBlank_of_isDigit hc)]
  split
  case h_8 => rfl
  case h_1 heq => cases heq
  all_goals
    rename_i heq
    exact absurd (List.cons.inj heq).1 (Text.ne_of_isDigit hc (by decide))

theorem ofMembers_map (members : List (String × Json)) :
    ofMembers (members.map fun member => (some member.1, member.2)) = .object members := by
  have hall : (members.map fun member => (some member.1, member.2)).mapM
      (fun member => member.1.map fun name => (name, member.2)) = some (members.map id) :=
    mapM_map_eq_some fun _ _ => rfl
  rw [List.map_id] at hall
  unfold ofMembers
  split
  case h_1 found hfound => exact congrArg object (Option.some.inj (hfound.symm.trans hall))
  case h_2 hfound => cases hfound.symm.trans hall

/-- Taking a spelled value, spelled items and spelled members off the front of a text, with so much
fuel. -/
structure Reads (fuel : Nat) : Prop where
  value : ∀ value s rest, Spells value s → EndsNumber rest → 2 * s.length ≤ fuel →
    readValue fuel (s ++ rest) = some (value, rest)
  items : ∀ items s rest, SpellsItems items s → 2 * s.length + 1 ≤ fuel →
    readItems fuel (s ++ rest) = some (items, rest)
  members : ∀ members s rest, SpellsMembers members s → 2 * s.length + 1 ≤ fuel →
    readMembers fuel (s ++ rest) =
      some (members.map fun member => (some member.1, member.2), rest)

variable {fuel : Nat} {rest s : List Char}

theorem Reads.readValue (h : Reads fuel) {value : Json} (hspells : Spells value s)
    (hrest : EndsNumber rest) (hfuel : 2 * s.length ≤ fuel + 1) :
    Json.readValue (fuel + 1) (s ++ rest) = some (value, rest) := by
  cases hspells with
  | null => rfl
  | isTrue => rfl
  | isFalse => rfl
  | natural n =>
    obtain ⟨c, r, hcons, hdigit⟩ := exists_toDigits_eq_cons n.toNat
    have hread := readNumber_toDigits n.toNat hrest
    rw [hcons, List.cons_append] at hread ⊢
    rw [readValue_of_isDigit hdigit, hread, Option.map_some, ← hcons, toJson_toDigits]
  | string text =>
    rw [writeString, List.cons_append, List.append_assoc, List.singleton_append]
    unfold Json.readValue
    rw [dropBlanks_cons (by decide)]
    simp only [readString_escaped, Option.map_some]
  | emptyArray => rfl
  | @array items blanks s hblanks hitems =>
    rw [List.length_cons, List.length_append] at hfuel
    have hread := h.items items s rest hitems (by omega)
    obtain ⟨c, r, rfl, hblank, hc⟩ := hitems.exists_cons
    rw [List.cons_append] at hread
    rw [List.cons_append, List.append_assoc]
    unfold Json.readValue
    rw [dropBlanks_cons (by decide)]
    simp only [dropBlanks_append hblanks, List.cons_append, dropBlanks_cons hblank]
    split
    · rename_i heq
      exact absurd (List.cons.inj heq).1 hc
    · rw [hread]
      rfl
  | emptyObject => rfl
  | @object members blanks s hblanks hmembers =>
    rw [List.length_cons, List.length_append] at hfuel
    have hread := h.members members s rest hmembers (by omega)
    obtain ⟨r, rfl⟩ := hmembers.exists_cons
    rw [List.cons_append] at hread
    rw [List.cons_append, List.append_assoc]
    unfold Json.readValue
    rw [dropBlanks_cons (by decide)]
    simp only [dropBlanks_append hblanks, List.cons_append, dropBlanks_cons (c := '"') (by decide)]
    split
    · rename_i heq
      exact absurd (List.cons.inj heq).1 (by decide)
    · rw [hread, Option.map_some, ofMembers_map]

theorem Reads.readItems (h : Reads fuel) {items : List Json} (hspells : SpellsItems items s)
    (hfuel : 2 * s.length ≤ fuel) :
    Json.readItems (fuel + 1) (s ++ rest) = some (items, rest) := by
  cases hspells with
  | @last item s blanks hitem hblanks =>
    have hread := h.value item s (blanks ++ ']' :: rest) hitem
      (endsNumber_append hblanks (endsNumber_cons (by decide) rest)) (by simp at hfuel; omega)
    unfold Json.readItems
    rw [List.append_assoc, List.append_assoc, List.singleton_append, hread]
    simp only [Option.bind_eq_bind, Option.bind_some, dropBlanks_append hblanks]
    rw [dropBlanks_cons (by decide)]
    rfl
  | @cons item items s blanks more hitem hblanks hitems =>
    have hread := h.value item s (',' :: (blanks ++ (more ++ rest))) hitem
      (endsNumber_cons (by decide) _) (by simp at hfuel; omega)
    have hmore := h.items items more rest hitems (by simp at hfuel; omega)
    unfold Json.readItems
    rw [List.append_assoc, List.cons_append, List.append_assoc, hread]
    simp only [Option.bind_eq_bind, Option.bind_some]
    rw [dropBlanks_cons (by decide)]
    simp only [readItems_append hblanks, hmore, Option.map_some]

theorem Reads.readMembers (h : Reads fuel) {members : List (String × Json)}
    (hspells : SpellsMembers members s) (hfuel : 2 * s.length ≤ fuel) :
    Json.readMembers (fuel + 1) (s ++ rest) =
      some (members.map fun member => (some member.1, member.2), rest) := by
  cases hspells with
  | @last name value between s blanks hbetween hvalue hblanks =>
    have hread := h.value value s (blanks ++ '\x7d' :: rest) hvalue
      (endsNumber_append hblanks (endsNumber_cons (by decide) rest)) (by simp at hfuel; omega)
    unfold Json.readMembers
    simp only [writeString, List.cons_append, List.append_assoc, List.nil_append,
      dropBlanks_cons (c := '"') (by decide), readString_escaped, Option.bind_eq_bind,
      Option.bind_some, dropBlanks_cons (c := ':') (by decide), readValue_append hbetween, hread,
      dropBlanks_append hblanks, dropBlanks_cons (c := '\x7d') (by decide)]
    rfl
  | @cons name value members between s blanks more hbetween hvalue hblanks hmembers =>
    have hread := h.value value s (',' :: (blanks ++ (more ++ rest))) hvalue
      (endsNumber_cons (by decide) _) (by simp at hfuel; omega)
    have hmore := h.members members more rest hmembers (by simp at hfuel; omega)
    unfold Json.readMembers
    simp only [writeString, List.cons_append, List.append_assoc, List.nil_append,
      dropBlanks_cons (c := '"') (by decide), readString_escaped, Option.bind_eq_bind,
      Option.bind_some, dropBlanks_cons (c := ':') (by decide), readValue_append hbetween, hread,
      dropBlanks_cons (c := ',') (by decide), readMembers_append hblanks, hmore, Option.map_some]
    rfl

/-- Each call for a part has fuel left for what the part holds. -/
theorem reads (fuel : Nat) : Reads fuel := by
  induction fuel with
  | zero =>
    refine ⟨?_, ?_, ?_⟩
    · intro value s rest hspells _ hfuel
      obtain ⟨c, r, rfl, _⟩ := hspells.exists_cons
      simp at hfuel
    · intro items s rest _ hfuel
      omega
    · intro members s rest _ hfuel
      omega
  | succ fuel ih =>
    exact ⟨fun value s rest hspells hrest hfuel => ih.readValue hspells hrest hfuel,
      fun items s rest hspells hfuel => ih.readItems hspells (by omega),
      fun members s rest hspells hfuel => ih.readMembers hspells (by omega)⟩

/-- A spelling is read, with blanks around it. -/
theorem parse?_of_spells {value : Json} {before after : List Char} (hspells : Spells value s)
    (hbefore : Blanks before) (hafter : Blanks after) :
    parse? (before ++ (s ++ after)) = some value := by
  have hends : EndsNumber after := by
    have hnil : EndsNumber [] := nofun
    simpa using endsNumber_append hafter hnil
  have hread := (reads (2 * (before ++ (s ++ after)).length + 2)).value value s after hspells hends
    (by simp only [List.length_append]; omega)
  have hdrop := dropBlanks_append hafter []
  rw [List.append_nil] at hdrop
  rw [parse?, readValue_append hbefore, hread]
  simp only [hdrop]
  rfl

/-! ## Writing -/

mutual

/-- No number is kept as it is spelled, and nothing is garbled. -/
def isExact : Json → Bool
  | null | bool _ | natural _ | string _ => true
  | decimal _ | garbled => false
  | array items => areExact items
  | object members => membersAreExact members

/-- All items are exact. -/
def areExact : List Json → Bool
  | [] => true
  | item :: items => isExact item && areExact items

/-- All values of the members are exact. -/
def membersAreExact : List (String × Json) → Bool
  | [] => true
  | (_, value) :: members => isExact value && membersAreExact members

end

theorem blanks_newLine (depth : Nat) : Blanks (newLine depth) := by
  intro c hc
  rcases List.mem_cons.1 hc with rfl | hc
  · decide
  · rw [List.eq_of_mem_replicate hc]
    decide

theorem toList_toString_toNat (n : UInt64) :
    (toString n.toNat).toList = Nat.toDigits 10 n.toNat := by
  rw [Nat.toString_eq_ofList_toDigits, String.toList_ofList]

theorem spells_writeAtom {value : Json} (hexact : value.isExact = true)
    (harray : ∀ items, value = .array items → items = [])
    (hobject : ∀ members, value = .object members → members = []) :
    Spells value (writeAtom value) := by
  cases value with
  | null => exact .null
  | bool value =>
    cases value with
    | true => exact .isTrue
    | false => exact .isFalse
  | natural n =>
    rw [writeAtom, toList_toString_toNat]
    exact .natural n
  | string text => exact .string text
  | array items =>
    rw [harray items rfl]
    exact .emptyArray
  | object members =>
    rw [hobject members rfl]
    exact .emptyObject
  | decimal => cases hexact
  | garbled => cases hexact

mutual

/-- The form in one line is a spelling without blanks. -/
theorem spells_writeCompact : ∀ value : Json, value.isExact = true →
    Spells value (writeCompact value)
  | .null, h | .bool _, h | .natural _, h | .string _, h | .array [], h | .object [], h => by
    rw [writeCompact.eq_def]
    exact spells_writeAtom h (by simp) (by simp)
  | .array (item :: items), h => by
    obtain ⟨hitem, hitems⟩ := Bool.and_eq_true_iff.1 h
    rw [writeCompact]
    exact @Spells.array _ [] _ blanks_nil
      (spells_writeMoreItems items hitems (spells_writeCompact item hitem))
  | .object ((name, value) :: members), h => by
    obtain ⟨hvalue, hmembers⟩ := Bool.and_eq_true_iff.1 h
    rw [writeCompact]
    exact @Spells.object _ [] _ blanks_nil
      (spells_writeMoreMembers members hmembers name (spells_writeCompact value hvalue))
  | .decimal _, h | .garbled, h => nomatch h

theorem spells_writeMoreItems : ∀ items : List Json, areExact items = true →
    ∀ {item : Json} {s : List Char}, Spells item s →
    SpellsItems (item :: items) (s ++ writeMoreItems items)
  | [], _, _, _, hitem => .last hitem blanks_nil
  | item :: items, h, _, _, hfirst => by
    obtain ⟨hitem, hitems⟩ := Bool.and_eq_true_iff.1 h
    rw [writeMoreItems]
    exact @SpellsItems.cons _ _ _ [] _ hfirst blanks_nil
      (spells_writeMoreItems items hitems (spells_writeCompact item hitem))

theorem spells_writeMoreMembers : ∀ members : List (String × Json),
    membersAreExact members = true → ∀ (name : String) {value : Json} {s : List Char},
    Spells value s → SpellsMembers ((name, value) :: members)
      (writeString name.toList ++ ':' :: (s ++ writeMoreMembers members))
  | [], _, _, _, _, hvalue => .last blanks_nil hvalue blanks_nil
  | (name, value) :: members, h, _, _, _, hfirst => by
    obtain ⟨hvalue, hmembers⟩ := Bool.and_eq_true_iff.1 h
    rw [writeMoreMembers]
    exact @SpellsMembers.cons _ _ _ [] _ [] _ blanks_nil hfirst blanks_nil
      (spells_writeMoreMembers members hmembers name (spells_writeCompact value hvalue))

end

/-- An exact value that is written in one line is read back. -/
theorem parse?_writeCompact {value : Json} (h : value.isExact = true) :
    parse? (writeCompact value) = some value := by
  simpa using parse?_of_spells (spells_writeCompact value h) blanks_nil blanks_nil

mutual

/-- The form with lines is a spelling, at every depth. -/
theorem spells_writePretty (depth : Nat) : ∀ value : Json, value.isExact = true →
    Spells value (writePretty depth value)
  | .null, h | .bool _, h | .natural _, h | .string _, h | .array [], h | .object [], h => by
    rw [writePretty.eq_def]
    exact spells_writeAtom h (by simp) (by simp)
  | .array (item :: items), h => by
    obtain ⟨hitem, hitems⟩ := Bool.and_eq_true_iff.1 h
    rw [writePretty, List.append_assoc]
    exact .array (blanks_newLine _)
      (spells_prettyMoreItems depth items hitems (spells_writePretty (depth + 1) item hitem))
  | .object ((name, value) :: members), h => by
    obtain ⟨hvalue, hmembers⟩ := Bool.and_eq_true_iff.1 h
    rw [writePretty, List.append_assoc]
    exact .object (blanks_newLine _)
      (spells_prettyMoreMembers depth members hmembers name
        (spells_writePretty (depth + 1) value hvalue))
  | .decimal _, h | .garbled, h => nomatch h

theorem spells_prettyMoreItems (depth : Nat) : ∀ items : List Json, areExact items = true →
    ∀ {item : Json} {s : List Char}, Spells item s →
    SpellsItems (item :: items) (s ++ prettyMoreItems depth items)
  | [], _, _, _, hitem => .last hitem (blanks_newLine _)
  | item :: items, h, _, _, hfirst => by
    obtain ⟨hitem, hitems⟩ := Bool.and_eq_true_iff.1 h
    rw [prettyMoreItems, List.append_assoc]
    exact .cons hfirst (blanks_newLine _)
      (spells_prettyMoreItems depth items hitems (spells_writePretty (depth + 1) item hitem))

theorem spells_prettyMoreMembers (depth : Nat) : ∀ members : List (String × Json),
    membersAreExact members = true → ∀ (name : String) {value : Json} {s : List Char},
    Spells value s → SpellsMembers ((name, value) :: members)
      (writeString name.toList ++ ':' :: ' ' :: (s ++ prettyMoreMembers depth members))
  | [], _, _, _, _, hvalue => .last blanks_space hvalue (blanks_newLine _)
  | (name, value) :: members, h, _, _, _, hfirst => by
    obtain ⟨hvalue, hmembers⟩ := Bool.and_eq_true_iff.1 h
    rw [prettyMoreMembers, List.append_assoc]
    exact .cons blanks_space hfirst (blanks_newLine _)
      (spells_prettyMoreMembers depth members hmembers name
        (spells_writePretty (depth + 1) value hvalue))

end

/-- An exact value that is written over several lines is read back. -/
theorem parse?_writePretty {value : Json} (h : value.isExact = true) :
    parse? (writePretty 0 value) = some value := by
  simpa using parse?_of_spells (spells_writePretty 0 value h) blanks_nil blanks_nil

end ShardMerge.Json
