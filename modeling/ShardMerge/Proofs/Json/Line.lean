import ShardMerge.Proofs.Json.Text

/-!
# Texts of one line

A value in its compact form holds no control character, so that it stays on one line and loses
nothing at the end of it.

* `Inline` is that of a text.  `inline_writeString` is where escapes are needed, since a string may
  hold any character.
* `inline_writeCompact` is the whole writer, on values that `isExact` describes.
-/

namespace ShardMerge.Json

/-- No control character, and so no line break. -/
def Inline (s : List Char) : Prop := ∀ c ∈ s, 32 ≤ c.toNat

instance (s : List Char) : Decidable (Inline s) :=
  decidable_of_iff ((s.all fun c => 32 ≤ c.toNat) = true) (by simp [Inline])

variable {c : Char} {s t : List Char}

theorem Inline.cons (hc : 32 ≤ c.toNat) (h : Inline s) : Inline (c :: s) :=
  List.forall_mem_cons.2 ⟨hc, h⟩

theorem Inline.append (hs : Inline s) (ht : Inline t) : Inline (s ++ t) :=
  List.forall_mem_append.2 ⟨hs, ht⟩

theorem Inline.not_mem (h : Inline s) (hc : c.toNat < 32) : c ∉ s :=
  fun hmem => absurd (h c hmem) (Nat.not_le_of_lt hc)

/-! ## Literals -/

theorem inline_fourHexDigits {n : Nat} (h : n < 32) : Inline (fourHexDigits n) := by
  revert n
  decide

theorem inline_escapeChar (c : Char) : Inline (escapeChar c) := by
  unfold escapeChar
  split_ifs with hquote hbackslash hline hreturn htab hback hfeed hcontrol
  · decide
  · decide
  · decide
  · decide
  · decide
  · decide
  · decide
  · exact .cons (by decide) (.cons (by decide) (inline_fourHexDigits hcontrol))
  · exact .cons (Nat.le_of_not_lt hcontrol) nofun

/-- Every control character of a string is escaped. -/
theorem inline_writeString (s : List Char) : Inline (writeString s) := by
  have hescaped : Inline (s.flatMap escapeChar) := by
    intro c hc
    obtain ⟨d, _, hd⟩ := List.mem_flatMap.1 hc
    exact inline_escapeChar d c hd
  exact .cons (by decide) (hescaped.append (by decide))

theorem inline_toDigits (n : Nat) : Inline (Nat.toDigits 10 n) := by
  intro c hc
  have hdigit := isDigit_of_mem_toDigits hc
  simp only [Char.isDigit, Bool.and_eq_true, decide_eq_true_eq] at hdigit
  exact Nat.le_trans (by decide) (UInt32.le_iff_toNat_le.1 hdigit.1)

theorem inline_writeAtom {value : Json} (h : value.isExact = true) : Inline (writeAtom value) := by
  cases value with
  | null => decide
  | bool value => cases value <;> decide
  | natural n =>
    rw [writeAtom, toList_toString_toNat]
    exact inline_toDigits n.toNat
  | string text => exact inline_writeString text.toList
  | array items =>
    change Inline ['[', ']']
    decide
  | object members =>
    change Inline ['\x7b', '\x7d']
    decide
  | decimal => cases h
  | garbled => cases h

/-! ## Values -/

mutual

/-- The compact form of a value stays on one line. -/
theorem inline_writeCompact : ∀ value : Json, value.isExact = true → Inline (writeCompact value)
  | .null, h | .bool _, h | .natural _, h | .string _, h | .array [], h | .object [], h => by
    rw [writeCompact.eq_def]
    exact inline_writeAtom h
  | .array (item :: items), h => by
    obtain ⟨hitem, hitems⟩ := Bool.and_eq_true_iff.1 h
    rw [writeCompact]
    exact .cons (by decide)
      ((inline_writeCompact item hitem).append (inline_writeMoreItems items hitems))
  | .object ((name, value) :: members), h => by
    obtain ⟨hvalue, hmembers⟩ := Bool.and_eq_true_iff.1 h
    rw [writeCompact]
    exact .cons (by decide) ((inline_writeString name.toList).append (.cons (by decide)
      ((inline_writeCompact value hvalue).append (inline_writeMoreMembers members hmembers))))
  | .decimal _, h | .garbled, h => nomatch h

theorem inline_writeMoreItems : ∀ items : List Json, areExact items = true →
    Inline (writeMoreItems items)
  | [], _ => by decide
  | item :: items, h => by
    obtain ⟨hitem, hitems⟩ := Bool.and_eq_true_iff.1 h
    rw [writeMoreItems]
    exact .cons (by decide)
      ((inline_writeCompact item hitem).append (inline_writeMoreItems items hitems))

theorem inline_writeMoreMembers : ∀ members : List (String × Json),
    membersAreExact members = true → Inline (writeMoreMembers members)
  | [], _ => by decide
  | (name, value) :: members, h => by
    obtain ⟨hvalue, hmembers⟩ := Bool.and_eq_true_iff.1 h
    rw [writeMoreMembers]
    exact .cons (by decide) ((inline_writeString name.toList).append (.cons (by decide)
      ((inline_writeCompact value hvalue).append (inline_writeMoreMembers members hmembers))))

end

end ShardMerge.Json
