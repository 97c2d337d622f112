import Mathlib.Algebra.Group.Nat.Defs
import ShardMerge.Proofs.Text.Digits
import ShardMerge.Time.Timestamp

/-!
# Timestamps that are read back

A point in time that is written is read back.

* `takeNumber_append` takes digits, and `ofDigitChars_lastDigits` is the number that they stand for.
* `takeYear_writeYear`, `takeField_lastDigits` and `takeFraction_writeFraction` take the parts of a
  written form one after another.
* `read?_write` puts them together: the written form is in Coordinated Universal Time, so no offset
  is subtracted.
-/

namespace ShardMerge.Timestamp

open Text

variable {n width : Nat} {digits rest : List Char}

/-! ## Digits -/

theorem length_lastDigits (width n : Nat) : (lastDigits width n).length = width := by
  induction width generalizing n with
  | zero => rfl
  | succ width ih => rw [lastDigits, List.length_append, ih, List.length_singleton]

theorem lastDigits_ne_nil (h : 0 < width) (n : Nat) : lastDigits width n ≠ [] :=
  List.ne_nil_of_length_pos (by rwa [length_lastDigits])

theorem isDigit_of_mem_lastDigits {c : Char} (h : c ∈ lastDigits width n) : c.isDigit = true := by
  induction width generalizing n with
  | zero => cases h
  | succ width ih =>
    rw [lastDigits, List.mem_append, List.mem_singleton] at h
    rcases h with h | rfl
    · exact ih h
    · rw [Nat.isDigit_digitChar, decide_eq_true (Nat.mod_lt n (by decide))]

/-- The last digits of a number stand for it if it has no more. -/
theorem ofDigitChars_lastDigits (h : n < 10 ^ width) :
    Nat.ofDigitChars 10 (lastDigits width n) 0 = n := by
  induction width generalizing n with
  | zero =>
    rw [Nat.pow_zero, Nat.lt_one_iff] at h
    rw [h]
    rfl
  | succ width ih =>
    rw [lastDigits, Nat.ofDigitChars_append, ih (Nat.div_lt_of_lt_mul (by rwa [← Nat.pow_succ'])),
      Nat.ofDigitChars_cons_digitChar_of_lt_ten (Nat.mod_lt n (by decide)), Nat.ofDigitChars_nil]
    omega

theorem dropWhile_isBlank_digits (hdigits : ∀ c ∈ digits, c.isDigit = true) (hne : digits ≠ []) :
    (digits ++ rest).dropWhile isBlank = digits ++ rest := by
  cases digits with
  | nil => exact absurd rfl hne
  | cons c digits =>
    rw [List.cons_append, List.dropWhile_cons_of_neg]
    rw [isBlank_of_isDigit (hdigits c List.mem_cons_self)]
    decide

/-- Digits are taken up to what ends them, or up to the greatest number of them. -/
theorem takeNumber_append {most : Nat} (hdigits : ∀ c ∈ digits, c.isDigit = true)
    (hne : digits ≠ []) (hlength : digits.length ≤ most)
    (hrest : digits.length = most ∨ ∀ c ∈ rest.head?, c.isDigit = false) :
    takeNumber most (digits ++ rest) = some (Nat.ofDigitChars 10 digits 0, rest) := by
  have htaken : ((digits ++ rest).take most).takeWhile Char.isDigit = digits := by
    rw [List.take_append, List.take_of_length_le hlength, List.takeWhile_append_of_pos hdigits]
    rcases hrest with hfull | hends
    · simp [hfull]
    · cases rest with
      | nil => simp
      | cons c rest =>
        cases most - digits.length with
        | zero => simp
        | succ more => simp [hends c rfl]
  unfold takeNumber
  simp only [htaken, List.isEmpty_eq_false_iff.2 hne, Bool.false_eq_true, if_false,
    List.drop_left]

/-! ## Parts -/

theorem takeField_lastDigits (h : n < 100) (rest : List Char) :
    takeField (lastDigits 2 n ++ rest) = some (n, rest) := by
  have hne := lastDigits_ne_nil (Nat.zero_lt_succ 1) n
  have hdigits (c : Char) (hc : c ∈ lastDigits 2 n) : c.isDigit = true :=
    isDigit_of_mem_lastDigits hc
  rw [takeField, dropWhile_isBlank_digits hdigits hne,
    takeNumber_append hdigits hne (Nat.le_of_eq (length_lastDigits 2 n))
      (.inl (length_lastDigits 2 n)),
    ofDigitChars_lastDigits h]

theorem takeMark_cons {mark : Char} (h : isBlank mark = false) (rest : List Char) :
    takeMark mark (mark :: rest) = some rest := by
  rw [takeMark, List.dropWhile_cons_of_neg (by simp [h])]
  exact if_pos rfl

/-- A year whose digits are as many as are taken, without a sign. -/
theorem takeYear_lastDigits (h : n < 10000) (rest : List Char) :
    takeYear (lastDigits 4 n ++ rest) = some ((n : Int), rest) := by
  have hdigits (c : Char) (hc : c ∈ lastDigits 4 n) : c.isDigit = true :=
    isDigit_of_mem_lastDigits hc
  have hne := lastDigits_ne_nil (Nat.zero_lt_succ 3) n
  rw [takeYear, dropWhile_isBlank_digits hdigits hne]
  obtain ⟨c, r, hcons⟩ := List.exists_cons_of_ne_nil hne
  have hc : c.isDigit = true := hdigits c (by rw [hcons]; exact List.mem_cons_self)
  split
  · rename_i heq
    rw [hcons, List.cons_append, List.cons.injEq] at heq
    rw [heq.1] at hc
    cases hc
  · rename_i heq
    rw [hcons, List.cons_append, List.cons.injEq] at heq
    rw [heq.1] at hc
    cases hc
  · rw [takeNumber_append hdigits hne (Nat.le_of_eq (length_lastDigits 4 n))
      (.inl (length_lastDigits 4 n)), ofDigitChars_lastDigits h, Option.map_some]

/-- The digits of a year with a sign. -/
theorem takeNumber_signed (hdigits : ∀ c ∈ digits, c.isDigit = true) (hne : digits ≠ [])
    (rest : List Char) :
    takeNumber (digits ++ '-' :: rest).length (digits ++ '-' :: rest) =
      some (Nat.ofDigitChars 10 digits 0, '-' :: rest) := by
  refine takeNumber_append hdigits hne (by simp) (.inr fun c hc => ?_)
  cases hc
  rfl

/-- The digits that stand for the size of a year outside 0 to 9999. -/
theorem exists_digits_writeYear {year : Int} (h : ¬(0 ≤ year ∧ year ≤ 9999)) :
    ∃ digits, writeYear year = (if year < 0 then '-' else '+') :: digits ∧
      (∀ c ∈ digits, c.isDigit = true) ∧ digits ≠ [] ∧
        Nat.ofDigitChars 10 digits 0 = year.natAbs := by
  rw [writeYear, if_neg h]
  by_cases hsize : year.natAbs ≤ 9999
  · refine ⟨lastDigits 4 year.natAbs, by simp only [if_pos hsize],
      fun c => isDigit_of_mem_lastDigits, lastDigits_ne_nil (by decide) _,
      ofDigitChars_lastDigits ?_⟩
    exact Nat.lt_succ_of_le hsize
  · refine ⟨Nat.toDigits 10 year.natAbs, ?_,
      fun c => Nat.isDigit_of_mem_toDigits (by decide) (by decide), Nat.toDigits_ne_nil,
      Nat.ofDigitChars_ten_toDigits⟩
    simp only [if_neg hsize, Nat.toString_eq_ofList_toDigits, String.toList_ofList]

/-- A year is taken up to the mark that ends it. -/
theorem takeYear_writeYear (year : Int) (rest : List Char) :
    takeYear (writeYear year ++ '-' :: rest) = some (year, '-' :: rest) := by
  by_cases hplain : 0 ≤ year ∧ year ≤ 9999
  · rw [writeYear, if_pos hplain, takeYear_lastDigits (by omega)]
    congr 2
    omega
  · obtain ⟨digits, hwrite, hdigits, hne, hvalue⟩ := exists_digits_writeYear hplain
    rw [hwrite, List.cons_append]
    by_cases hnegative : year < 0
    · rw [if_pos hnegative, takeYear, List.dropWhile_cons_of_neg (by decide)]
      simp only [takeNumber_signed hdigits hne, hvalue, Option.map_some]
      congr 2
      omega
    · rw [if_neg hnegative, takeYear, List.dropWhile_cons_of_neg (by decide)]
      simp only [takeNumber_signed hdigits hne, hvalue, Option.map_some]
      congr 2
      omega

/-- A fraction of so many digits. -/
theorem takeFraction_lastDigits (hpos : 0 < width) (hwidth : width ≤ 9) (h : n < 10 ^ width) :
    takeFraction ('.' :: (lastDigits width n ++ ['Z'])) =
      some (n * 10 ^ (9 - width), ['Z']) := by
  have hshort : (lastDigits width n).length ≤ 9 := by rwa [length_lastDigits]
  have hne := lastDigits_ne_nil hpos n
  have htaken : (lastDigits width n ++ ['Z']).takeWhile Char.isDigit = lastDigits width n := by
    rw [List.takeWhile_append_of_pos fun c => isDigit_of_mem_lastDigits]
    exact List.append_nil _
  simp only [takeFraction, htaken, List.isEmpty_eq_false_iff.2 hne, Bool.false_eq_true, if_false,
    List.take_of_length_le hshort, ofDigitChars_lastDigits h, length_lastDigits]
  rw [List.drop_left' (length_lastDigits width n)]
  rfl

theorem takeFraction_writeFraction (h : n < 1000000000) :
    takeFraction (writeFraction n ++ ['Z']) = some (n, ['Z']) := by
  unfold writeFraction
  split
  · rename_i hzero
    rw [hzero]
    rfl
  · split
    · rename_i hmillis
      rw [List.cons_append, takeFraction_lastDigits (by decide) (by decide) (by omega)]
      congr 2
      omega
    · split
      · rename_i hmicros
        rw [List.cons_append, takeFraction_lastDigits (by decide) (by decide) (by omega)]
        congr 2
        omega
      · rw [List.cons_append, takeFraction_lastDigits (by decide) (by decide) (by omega)]
        congr 2
        omega

/-! ## The whole form -/

/-- Nothing is subtracted from a point in time in Coordinated Universal Time. -/
theorem minusOffset_zero {t : Timestamp} (h : t.Valid) : t.minusOffset 0 = t := by
  have hhour := h.hour
  have hminute := h.minute
  have hhour' : ((t.hour * 60 + t.minute - 0 : Int) / 60).toNat = t.hour := by omega
  have hminute' : ((t.hour * 60 + t.minute - 0 : Int) % 60).toNat = t.minute := by omega
  simp only [minusOffset, if_neg (show ¬(t.hour * 60 + t.minute - 0 : Int) < 0 by omega),
    if_pos (show (t.hour * 60 + t.minute - 0 : Int) < 1440 by omega), hhour', hminute']

/-- A point in time that is written is read back. -/
theorem read?_write {t : Timestamp} (h : t.Valid) : read? t.write = some t := by
  have hdays : daysInMonth t.year t.month ≤ 31 := by
    unfold daysInMonth
    split
    · split <;> decide
    · split <;> decide
  have hmonth : t.month < 100 := by have := h.month.2; omega
  have hday : t.day < 100 := by have := h.day.2; omega
  have hhour : t.hour < 100 := by have := h.hour; omega
  have hminute : t.minute < 100 := by have := h.minute; omega
  have hsecond : t.second < 100 := by have := h.second; omega
  have hdash : isBlank '-' = false := by decide
  have hcolon : isBlank ':' = false := by decide
  have htext : t.write = writeYear t.year ++ '-' :: (lastDigits 2 t.month ++ '-' ::
      (lastDigits 2 t.day ++ 'T' :: (lastDigits 2 t.hour ++ ':' :: (lastDigits 2 t.minute ++ ':' ::
        (lastDigits 2 t.second ++ (writeFraction t.nanos ++ ['Z'])))))) := by
    simp only [write, List.append_assoc, List.cons_append]
  rw [htext, read?]
  -- Each part of the reader takes what the writer has put there, and leaves the rest.
  refine Option.bind_eq_some_iff.2 ⟨_, takeYear_writeYear t.year _, ?_⟩
  refine Option.bind_eq_some_iff.2 ⟨_, takeMark_cons hdash _, ?_⟩
  refine Option.bind_eq_some_iff.2 ⟨_, takeField_lastDigits hmonth _, ?_⟩
  refine Option.bind_eq_some_iff.2 ⟨_, takeMark_cons hdash _, ?_⟩
  refine Option.bind_eq_some_iff.2 ⟨_, takeField_lastDigits hday _, ?_⟩
  refine (if_pos (.inl rfl)).trans (Option.bind_eq_some_iff.2 ⟨_, rfl, ?_⟩)
  refine Option.bind_eq_some_iff.2 ⟨_, takeField_lastDigits hhour _, ?_⟩
  refine Option.bind_eq_some_iff.2 ⟨_, takeMark_cons hcolon _, ?_⟩
  refine Option.bind_eq_some_iff.2 ⟨_, takeField_lastDigits hminute _, ?_⟩
  refine Option.bind_eq_some_iff.2 ⟨_, takeMark_cons hcolon _, ?_⟩
  refine Option.bind_eq_some_iff.2 ⟨_, takeField_lastDigits hsecond _, ?_⟩
  refine Option.bind_eq_some_iff.2 ⟨_, takeFraction_writeFraction h.nanos, ?_⟩
  refine Option.bind_eq_some_iff.2 ⟨(0, []), by decide, ?_⟩
  have hvalid := isValid_iff.2 h
  exact (if_pos ⟨rfl, hvalid, (minusOffset_zero h).symm ▸ hvalid⟩).trans
    (congrArg some (minusOffset_zero h))

end ShardMerge.Timestamp
