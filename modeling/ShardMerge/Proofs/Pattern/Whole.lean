import ShardMerge.Pattern.Matcher
import ShardMerge.Proofs.Pattern.Regex.Ordered

/-!
# Regular expressions for whole names

A pattern is put between the two ends of a name as a text, before it is read.  Here the outcome is
compared with the pattern read by itself, whatever properties of characters it can name.

* `Regex.EndsInComment` and `PatternReader.ClosesOutside` are the two ways in which a pattern is not
  read as a part of the longer text as it is read by itself.
* `NamePattern.read?_anchored_of_read?`, `NamePattern.read?_anchored_of_endsInComment` and
  `NamePattern.read?_anchored_of_not_read?` are the three outcomes of the longer text.
* `NamePattern.ofRegex_whole` puts them together with the limits and the search: a pattern that does
  neither is accepted exactly if it is a regular expression by itself, and then it selects exactly the
  names that it matches from the first to the last character.
-/

namespace ShardMerge

variable {property? : List Char → Option CharClass}

namespace Regex

open PatternReader

variable {s : List Char} {r : Nested Regex}

theorem read?_eq_some_iff : read? property? s = some r ↔
    ∃ q, Reads (.start property?) s q ∧ q.outer = [] ∧ q.scope.finish = r := by
  unfold read?
  simp only [Option.bind_eq_bind, Option.bind_eq_some_iff, run_eq_some_iff (Nat.lt_succ_self _),
    Option.ite_none_right_eq_some, List.isEmpty_iff, Option.some.injEq]

theorem read?_eq_none_iff :
    read? property? s = none ↔ ∀ q, Reads (.start property?) s q → q.outer ≠ [] := by
  simp only [Option.eq_none_iff_forall_ne_some, ne_eq, read?_eq_some_iff]
  constructor
  · intro h q hq ho
    exact h _ ⟨q, hq, ho, rfl⟩
  · rintro h r ⟨q, hq, ho, -⟩
    exact h q hq ho

theorem isOrdered_of_read? (hr : read? property? s = some r) : r.value.IsOrdered := by
  obtain ⟨q, hq, -, rfl⟩ := read?_eq_some_iff.1 hr
  exact (hq.isOrdered (isOrdered_start property?)).scope.finish

/-- The pattern can be read by itself and ends in a comment: what is written after it on the same
line, as a closing parenthesis, is not read. -/
def EndsInComment (property? : List Char → Option CharClass) (s : List Char) : Prop :=
  (read? property? s).isSome ∧ read? property? (s ++ [')']) = read? property? s

/-- What follows a pattern on the same line belongs to its last comment if it ends in one, and is
read next if not. -/
theorem within_of_read? {q : PatternReader} (hq : Reads (.start property?) s q)
    (ho : q.outer = []) :
    (EndsInComment property? s ∧ ∀ t, '\n' ∉ t → ∀ around q',
      Reads ((start property?).within around) (s ++ ')' :: t) q' ↔ q' = q.within around) ∨
    (¬ EndsInComment property? s ∧ ∀ t, '\n' ∉ t → ∀ around q',
      Reads ((start property?).within around) (s ++ ')' :: t) q' ↔
        Reads (q.within around) (')' :: t) q') := by
  have hr : read? property? s = some q.scope.finish := read?_eq_some_iff.2 ⟨q, hq, ho, rfl⟩
  obtain h | h := hq.within
  · refine .inr ⟨fun hc => ?_, h⟩
    -- no group is open that the parenthesis could close
    obtain ⟨q', hq', -, -⟩ := read?_eq_some_iff.1 (hc.2.trans hr)
    have hclose : Reads (q.within []) [')'] q' := (h [] (by simp) [] q').1 hq'
    obtain ⟨p', hp', -⟩ := reads_parenthesis_iff.1 hclose
    simp [closeGroup, ho] at hp'
  · refine .inl ⟨⟨by simp [hr], ?_⟩, h⟩
    rw [hr, read?_eq_some_iff]
    exact ⟨q.within [], (h [] (by simp) [] _).2 rfl, by simp [ho], rfl⟩

end Regex

namespace NamePattern

open PatternReader Regex

/-! ## The longer text -/

/-- The scope around a pattern, in which the start of the name has been read. -/
def startScope (property? : List Char → Option CharClass) : PatternScope :=
  { flags := { property? }, items := [{ node := { value := .look .textStart } }] }

/-- The expression for names that are matched as a whole. -/
def whole (r : Nested Regex) : Nested Regex where
  value := .seq (.look .textStart) (.seq r.value (.look .textEnd))
  depth := r.depth + 2

variable {text : String}

theorem reads_anchored_iff {q : PatternReader} : Reads (.start property?) (anchored text) q ↔
    Reads ((start property?).within [startScope property?]) (text.toList ++ [')', '$']) q := by
  have hstart : PatternPart.read { property? } '^' ('(' :: '?' :: ':' :: (text.toList ++ [')', '$'])) =
      some (.look .textStart, '(' :: '?' :: ':' :: (text.toList ++ [')', '$'])) := rfl
  have hopen : PatternPart.read { property? } '(' ('?' :: ':' :: (text.toList ++ [')', '$'])) =
      some (.opening { property? } none, text.toList ++ [')', '$']) := rfl
  rw [reads_iff_of_part rfl hstart rfl, reads_iff_of_part rfl hopen rfl]
  rfl

/-- The end of the name is read behind the group that the pattern stands in. -/
theorem reads_end_iff {q q' : PatternReader} (ho : q.outer = []) :
    Reads (q.within [startScope property?]) [')', '$'] q' ↔
      q' = { scope := ((startScope property?).add
              { q.scope.finish with depth := q.scope.finish.depth + 1 }).add
              { value := .look .textEnd }
             names := q.names } := by
  have hclose : (q.within [startScope property?]).closeGroup = some
      { scope := (startScope property?).add
          { q.scope.finish with depth := q.scope.finish.depth + 1 }
        names := q.names } := by
    simp [closeGroup, ho, PatternReader.within]
  have hend : PatternPart.read { property? } '$' [] = some (.look .textEnd, []) := rfl
  simp only [reads_parenthesis_iff, hclose, Option.some.injEq, exists_eq_left']
  rw [reads_iff_of_part rfl hend rfl]
  exact reads_iff_of_nil rfl

theorem read?_anchored_of_read? {r : Nested Regex} (hr : read? property? text.toList = some r)
    (hc : ¬ EndsInComment property? text.toList) :
    read? property? (anchored text) = some (whole r) := by
  obtain ⟨q, hq, ho, rfl⟩ := read?_eq_some_iff.1 hr
  obtain ⟨hc', -⟩ | ⟨-, h⟩ := within_of_read? hq ho
  · exact (hc hc').elim
  · have hend := (h ['$'] (by decide) [startScope property?] _).2 ((reads_end_iff ho).2 rfl)
    refine read?_eq_some_iff.2 ⟨_, reads_anchored_iff.2 hend, rfl, ?_⟩
    simp [PatternScope.finish, PatternScope.branch, PatternScope.add, startScope, whole]

theorem read?_anchored_of_endsInComment (hc : EndsInComment property? text.toList) :
    read? property? (anchored text) = none := by
  obtain ⟨r, hr⟩ := Option.isSome_iff_exists.1 hc.1
  obtain ⟨q, hq, ho, -⟩ := read?_eq_some_iff.1 hr
  obtain ⟨-, h⟩ | ⟨hc', -⟩ := within_of_read? hq ho
  · rw [read?_eq_none_iff]
    intro q' hq'
    rw [(h ['$'] (by decide) [startScope property?] q').1 (reads_anchored_iff.1 hq')]
    simp
  · exact (hc' hc).elim

theorem read?_anchored_of_not_read? (hr : read? property? text.toList = none)
    (hc : ¬ ClosesOutside (.start property?) text.toList) :
    read? property? (anchored text) = none := by
  rw [read?_eq_none_iff] at hr ⊢
  intro q' hq'
  have hlong := reads_anchored_iff.1 hq'
  by_cases h : ∃ q, Reads (.start property?) text.toList q
  · -- the pattern leaves a group open, and the parenthesis closes at most that one
    obtain ⟨q, hq⟩ := h
    obtain h | h := hq.within
    · obtain ⟨p, hp, hend⟩ := reads_parenthesis_iff.1 ((h ['$'] (by decide) _ q').1 hlong)
      refine hend.outer_ne_nil (by decide) ?_
      obtain ⟨scope, outer, ho⟩ := List.exists_cons_of_ne_nil (hr q hq)
      simp only [closeGroup, outer_within, ho, List.cons_append, Option.some.injEq] at hp
      simp [← hp]
    · rw [(h ['$'] (by decide) _ q').1 hlong]
      simp
  · exact outer_ne_nil_of_not_reads (not_exists.1 h) hc (by decide) (by decide)
      (List.cons_ne_nil _ _) hlong

/-! ## Patterns for names -/

theorem ofRegex_eq_error (h : read? property? (anchored text) = none) :
    ofRegex property? text = .error (.invalidPattern text) := by
  simp [ofRegex, ofText?, h]

theorem not_endsInComment_of_ofRegex {pattern : NamePattern}
    (h : ofRegex property? text = .ok pattern) : ¬ EndsInComment property? text.toList := by
  intro hc
  rw [ofRegex_eq_error (read?_anchored_of_endsInComment hc)] at h
  cases h

/-- An expression is within the limits together with the two ends of the name. -/
def FitsWhole (r : Nested Regex) : Prop :=
  r.depth + 2 ≤ maxDepth ∧ r.value.states + 2 ≤ mostStates

theorem ofRegex_cases {r : Nested Regex} (h : read? property? (anchored text) = some (whole r)) :
    (FitsWhole r ∧ ofRegex property? text = .ok (.regex (whole r).value)) ∨
    (¬ FitsWhole r ∧ ofRegex property? text = .error (.invalidPattern text)) := by
  have hstates : (whole r).value.states = r.value.states + 2 := by
    simp only [whole, states]
    omega
  have hfits : ofText? property? (anchored text) =
      if r.depth + 2 ≤ maxDepth ∧ r.value.states + 2 ≤ mostStates then some (whole r).value
      else none := by
    rw [← hstates]
    simp only [ofText?, h, Option.bind_eq_bind, Option.bind_some]
    rfl
  by_cases hr : FitsWhole r
  · refine .inl ⟨hr, ?_⟩
    rw [FitsWhole] at hr
    simp [ofRegex, hfits, hr]
  · refine .inr ⟨hr, ?_⟩
    rw [FitsWhole] at hr
    simp [ofRegex, hfits, hr]

theorem selects_whole_iff {r : Nested Regex} (hr : r.value.IsOrdered) (name : String) :
    (NamePattern.regex (whole r).value).selects name = true ↔
      Spans name.toList r.value 0 name.toList.length :=
  isMatch_whole_iff hr

/-- A pattern that closes no group but its own is accepted exactly if it is a regular expression by
itself, apart from the limits, and does not end in a comment.  An accepted pattern that is a regular
expression selects exactly the names that it matches from the first to the last character. -/
theorem ofRegex_whole (property? : List Char → Option CharClass) (text : String) :
    (¬ ClosesOutside (.start property?) text.toList →
      ((∃ pattern, ofRegex property? text = .ok pattern) ↔
        ∃ r, read? property? text.toList = some r ∧ FitsWhole r ∧
          ¬ EndsInComment property? text.toList)) ∧
    (∀ error, ofRegex property? text = .error error → error = .invalidPattern text) ∧
    ∀ pattern r, ofRegex property? text = .ok pattern → read? property? text.toList = some r →
      ∀ name : String, pattern.selects name = true ↔
        Spans name.toList r.value 0 name.toList.length := by
  refine ⟨fun hclose => ⟨?_, ?_⟩, fun error he => ?_, fun pattern r hp hr name => ?_⟩
  · rintro ⟨pattern, hp⟩
    cases hr : read? property? text.toList with
    | none =>
      rw [ofRegex_eq_error (read?_anchored_of_not_read? hr hclose)] at hp
      cases hp
    | some r =>
      have hc := not_endsInComment_of_ofRegex hp
      obtain ⟨hfits, -⟩ | ⟨-, h⟩ := ofRegex_cases (read?_anchored_of_read? hr hc)
      · exact ⟨r, rfl, hfits, hc⟩
      · rw [h] at hp
        cases hp
  · rintro ⟨r, hr, hfits, hc⟩
    obtain ⟨-, h⟩ | ⟨hfits', -⟩ := ofRegex_cases (read?_anchored_of_read? hr hc)
    · exact ⟨_, h⟩
    · exact (hfits' hfits).elim
  · unfold ofRegex at he
    split at he
    · cases he
    · cases he
      rfl
  · have hc := not_endsInComment_of_ofRegex hp
    obtain ⟨-, h⟩ | ⟨-, h⟩ := ofRegex_cases (read?_anchored_of_read? hr hc)
    · rw [h] at hp
      cases hp
      exact selects_whole_iff (isOrdered_of_read? hr) name
    · rw [h] at hp
      cases hp

/-- Alternatives stay between the two ends. -/
theorem ofRegex_whole_orders :
    ∃ pattern r, ofText .regex "orders_[0-9]+|items" = .ok pattern ∧
      read? (fun _ => none) "orders_[0-9]+|items".toList = some r ∧
      ∀ name : String, pattern.selects name = true ↔
        Spans name.toList r.value 0 name.toList.length := by
  have hread : ((read? (fun _ => none) "orders_[0-9]+|items".toList).any fun r =>
      r.depth + 2 ≤ maxDepth ∧ r.value.states + 2 ≤ mostStates) = true := by
    decide +kernel
  have hlong : (read? (fun _ => none) ("orders_[0-9]+|items".toList ++ [')'])).isNone = true := by
    decide +kernel
  obtain ⟨r, hr, hfits⟩ := (Option.any_eq_true _ _).1 hread
  obtain ⟨q, hq, -⟩ := read?_eq_some_iff.1 hr
  have hcomment : ¬ EndsInComment (fun _ => none) "orders_[0-9]+|items".toList := by
    rintro ⟨-, h⟩
    rw [Option.isNone_iff_eq_none.1 hlong, hr] at h
    cases h
  have hclose : ¬ ClosesOutside (.start fun _ => none) "orders_[0-9]+|items".toList :=
    fun h => h.not_reads hq
  obtain ⟨haccepted, -, hselects⟩ := ofRegex_whole (fun _ => none) "orders_[0-9]+|items"
  obtain ⟨pattern, hpattern⟩ :=
    (haccepted hclose).2 ⟨r, hr, by simpa [FitsWhole] using hfits, hcomment⟩
  exact ⟨pattern, r, hpattern, hr, hselects pattern r hpattern hr⟩

/-- A comment at the end of a pattern takes the end of the group around it, so a regular expression
is refused.  A parenthesis that closes this group makes a pattern of what is none, and then a part of
a name is enough. -/
theorem ofRegex_misreads :
    (∃ r, read? (fun _ => none) "(?x)orders # all".toList = some r ∧
      Spans "orders".toList r.value 0 "orders".toList.length ∧
      ofText .regex "(?x)orders # all" = .error (.invalidPattern "(?x)orders # all")) ∧
    read? (fun _ => none) "a)|(?:b".toList = none ∧
    ∃ pattern, ofText .regex "a)|(?:b" = .ok pattern ∧ pattern.selects "ax" = true := by
  have hread : ((read? (fun _ => none) "(?x)orders # all".toList).any fun r =>
      (regex (whole r).value).selects "orders") = true := by
    decide +kernel
  have hrefused : (read? (fun _ => none) (anchored "(?x)orders # all")).isNone = true := by
    decide +kernel
  have hnone : (read? (fun _ => none) "a)|(?:b".toList).isNone = true := by
    decide +kernel
  have hpart : ((ofText? (fun _ => none) (anchored "a)|(?:b")).any fun r =>
      (regex r).selects "ax") = true := by
    decide +kernel
  obtain ⟨r, hr, hselects⟩ := (Option.any_eq_true _ _).1 hread
  obtain ⟨expression, he, hax⟩ := (Option.any_eq_true _ _).1 hpart
  refine ⟨⟨r, hr, (selects_whole_iff (isOrdered_of_read? hr) "orders").1 hselects, ?_⟩, ?_, ?_⟩
  · exact ofRegex_eq_error (Option.isNone_iff_eq_none.1 hrefused)
  · exact Option.isNone_iff_eq_none.1 hnone
  · exact ⟨.regex expression, by simp [ofText, ofRegex, CharacterProperties.property?, he], hax⟩

end NamePattern

end ShardMerge
