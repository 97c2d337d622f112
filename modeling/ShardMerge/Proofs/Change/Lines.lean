import ShardMerge.Proofs.Change.Feed
import ShardMerge.Proofs.Change.Wire
import ShardMerge.Proofs.Json.Line
import ShardMerge.Proofs.Text.Cut

/-!
# Feeds line by line

What is written for events, one line each, is read back as a feed, and a text that is no feed is
refused at the first line that stands for no event.

* `lines_append_ending` takes one line off the front of a text.
* `ChangeEvent.Records` says how events may be written: each in its compact form, with blank lines
  anywhere and either line ending.  `Records.reads` is by induction on the lines.
* `ChangeEvent.IsFeedLine` is a line that is passed over or read.  `ofLines_eq_error` is by induction
  on the lines before the first one that is neither, and counts all of them.
-/

namespace ShardMerge

open Text

/-! ## Lines -/

section Lines

variable {line ending rest : List Char}

theorem eq_false_of_not_mem (h : '\n' ∉ line) : ∀ c ∈ line, decide (c = '\n') = false := by
  intro c hc
  refine decide_eq_false ?_
  rintro rfl
  exact h hc

theorem lines_append_lineFeed (h : '\n' ∉ line) (rest : List Char) :
    lines (line ++ '\n' :: rest) = dropReturn line :: lines rest := by
  unfold lines
  rw [splitWhen_append_sep (eq_false_of_not_mem h) (by decide)]
  cases hpieces : splitWhen (fun c => decide (c = '\n')) rest with
  | nil => exact absurd hpieces (splitWhen_ne_nil _ _)
  | cons piece pieces =>
    simp only [List.dropLast_cons_cons, List.getLast?_cons_cons, List.map_cons]
    split <;> rfl

theorem lines_of_not_mem (h : '\n' ∉ line) : lines line = if line = [] then [] else [line] := by
  rw [lines, splitWhen_eq_singleton (eq_false_of_not_mem h)]
  cases line <;> rfl

theorem dropReturn_concat (line : List Char) : dropReturn (line ++ ['\r']) = line := by
  simp [dropReturn]

/-- The two line endings. -/
def lineEndings : List (List Char) := [['\n'], ['\r', '\n']]

/-- A line is read without its ending.  If a carriage return comes before a line feed, that is lost
too. -/
theorem lines_append_ending (h : '\n' ∉ line) (hending : ending ∈ lineEndings) (rest : List Char) :
    lines (line ++ ending ++ rest) = dropReturn line :: lines rest ∨
      lines (line ++ ending ++ rest) = line :: lines rest := by
  simp only [lineEndings, List.mem_cons, List.not_mem_nil, or_false] at hending
  rcases hending with rfl | rfl
  · left
    rw [List.append_assoc, List.singleton_append, lines_append_lineFeed h]
  · right
    have hreturn : '\n' ∉ line ++ ['\r'] := by simpa using h
    have hsplit : line ++ ['\r', '\n'] ++ rest = line ++ ['\r'] ++ '\n' :: rest := by simp
    rw [hsplit, lines_append_lineFeed hreturn, dropReturn_concat]

end Lines

namespace ChangeEvent

variable {events here : List ChangeEvent} {line ending rest : List Char}

/-! ## Events that are written -/

/-- A line for one event or for none. -/
inductive RecordsLine : List ChangeEvent → List Char → Prop where
  | blank {line : List Char} (hblank : isBlankText line = true) (hline : '\n' ∉ line) :
    RecordsLine [] line
  | event (event : ChangeEvent) : RecordsLine [event] (Json.writeCompact (toJson event))

/-- A text with a line for each event in order, and with blank lines anywhere.  The last line may
lack its ending. -/
inductive Records : List ChangeEvent → List Char → Prop where
  | last {here : List ChangeEvent} {line : List Char} (hline : RecordsLine here line) :
    Records here line
  | line {here events : List ChangeEvent} {line ending rest : List Char}
    (hline : RecordsLine here line) (hending : ending ∈ lineEndings)
    (hrest : Records events rest) : Records (here ++ events) (line ++ ending ++ rest)

/-- A line stands for an event. -/
def LineReads (line : List Char) (event : ChangeEvent) : Prop :=
  Json.readText? (String.ofList line) = some event

theorem inline_writeCompact_toJson (event : ChangeEvent) :
    Json.Inline (Json.writeCompact (toJson event)) :=
  Json.inline_writeCompact _ (readsBack_changeEvent event).exact

theorem dropReturn_of_inline {line : List Char} (h : Json.Inline line) : dropReturn line = line := by
  rw [dropReturn, if_neg]
  intro hlast
  exact h.not_mem (by decide) (List.mem_of_getLast? hlast)

theorem RecordsLine.not_mem (h : RecordsLine here line) : '\n' ∉ line := by
  cases h with
  | blank _ hline => exact hline
  | event event => exact (inline_writeCompact_toJson event).not_mem (by decide)

/-- What a line records does not depend on a carriage return at its end. -/
theorem RecordsLine.dropReturn (h : RecordsLine here line) :
    RecordsLine here (Text.dropReturn line) := by
  cases h with
  | blank hblank hline =>
    have hsublist : (Text.dropReturn line).Sublist line := by
      unfold Text.dropReturn
      split
      · exact List.dropLast_sublist line
      · exact List.Sublist.refl line
    refine .blank (List.all_eq_true.2 fun c hc => ?_) fun hmem => hline (hsublist.subset hmem)
    exact List.all_eq_true.1 hblank c (hsublist.subset hc)
  | event event =>
    rw [dropReturn_of_inline (inline_writeCompact_toJson event)]
    exact .event event

theorem isBlankText_writeCompact (event : ChangeEvent) :
    isBlankText (Json.writeCompact (toJson event)) = false := by
  change isBlankText (Json.writeCompact (.object (_ :: _))) = false
  rw [Json.writeCompact, isBlankText, List.all_cons]
  rfl

/-- A line by itself is read as what it records. -/
theorem RecordsLine.reads (h : RecordsLine here line) :
    List.Forall₂ LineReads ([line].filter fun line => !isBlankText line) here := by
  cases h with
  | blank hblank hline =>
    rw [List.filter_cons_of_neg (by simp [hblank])]
    exact .nil
  | event event =>
    rw [List.filter_cons_of_pos (by simp [isBlankText_writeCompact])]
    exact .cons ((readsBack_changeEvent event).readText?_compact (by decide)) .nil

/-- A line is taken off the front of a text, with what it records. -/
theorem RecordsLine.lines_append (h : RecordsLine here line) (hending : ending ∈ lineEndings)
    (rest : List Char) :
    ∃ shown, RecordsLine here shown ∧ lines (line ++ ending ++ rest) = shown :: lines rest := by
  rcases lines_append_ending h.not_mem hending rest with hlines | hlines
  · exact ⟨_, h.dropReturn, hlines⟩
  · exact ⟨_, h, hlines⟩

/-- The lines of a text are read as what it records. -/
theorem Records.reads (h : Records events rest) :
    List.Forall₂ LineReads ((lines rest).filter fun line => !isBlankText line) events := by
  induction h with
  | last hline =>
    have hreads := hline.reads
    rw [lines_of_not_mem hline.not_mem]
    split
    · rename_i hempty
      rw [hempty] at hreads
      exact hreads
    · exact hreads
  | line hline hending hrest ih =>
    obtain ⟨shown, hshown, hlines⟩ := hline.lines_append hending _
    rw [hlines, ← List.singleton_append, List.filter_append]
    exact List.rel_append hshown.reads ih

/-- A text that records events is a feed of them. -/
theorem Records.ofFeed_eq_ok {text : String} (h : Records events text.toList) :
    ofFeed text = .ok events :=
  ofFeed_eq_ok_iff.2 h.reads

/-! ## Lines that stand for nothing -/

/-- A line that is passed over or read. -/
def IsFeedLine (line : List Char) : Prop :=
  isBlankText line = true ∨
    (Json.readText? (String.ofList line) : Option ChangeEvent).isSome = true

instance (line : List Char) : Decidable (IsFeedLine line) :=
  inferInstanceAs (Decidable (_ ∨ _))

theorem isFeed_iff {text : String} : IsFeed text ↔ ∀ line ∈ lines text.toList, IsFeedLine line := by
  simp only [IsFeed, feedLines, IsFeedLine, List.mem_filter, Option.isSome_iff_exists,
    or_iff_not_imp_left, Bool.not_eq_true', Bool.not_eq_true, and_imp]

/-- Reads the lines of a feed, of which the first has this number. -/
def ofLines (number : Nat) (lines : List (List Char)) : Except Error (List ChangeEvent) :=
  ((numberFrom number lines).filter fun entry => !isBlankText entry.2).mapM
    fun entry => ofLine entry.1 entry.2

section OfLines

variable {number : Nat} {rest : List (List Char)}

theorem ofLines_cons_of_blank (h : isBlankText line = true) :
    ofLines number (line :: rest) = ofLines (number + 1) rest := by
  rw [ofLines, numberFrom, List.filter_cons_of_neg (by simp [h])]
  rfl

theorem ofLines_cons_of_not_blank (h : isBlankText line = false) :
    ofLines number (line :: rest) = (do
      let event ← ofLine number line
      let events ← ofLines (number + 1) rest
      pure (event :: events)) := by
  rw [ofLines, numberFrom, List.filter_cons_of_pos (by simp [h]), List.mapM_cons]
  rfl

end OfLines

/-- The first line that is neither passed over nor read is refused, by its number. -/
theorem ofLines_eq_error {before after : List (List Char)} (hline : ¬IsFeedLine line)
    (hbefore : ∀ earlier ∈ before, IsFeedLine earlier) (number : Nat) :
    ofLines number (before ++ line :: after) = .error (.serialization
      s!"Invalid schema change event on line {number + before.length}") := by
  induction before generalizing number with
  | nil =>
    rw [IsFeedLine, not_or, Bool.not_eq_true, Bool.not_eq_true, Option.isSome_eq_false_iff,
      Option.isNone_iff_eq_none] at hline
    rw [List.nil_append, ofLines_cons_of_not_blank hline.1, ofLine, hline.2]
    rfl
  | cons earlier before ih =>
    rw [List.forall_mem_cons] at hbefore
    have hrest := ih hbefore.2 (number + 1)
    have hnumber : number + 1 + before.length = number + (earlier :: before).length := by
      rw [List.length_cons]
      omega
    rw [hnumber] at hrest
    by_cases hblank : isBlankText earlier = true
    · rw [List.cons_append, ofLines_cons_of_blank hblank, hrest]
    · obtain ⟨event, hread⟩ := Option.isSome_iff_exists.1 (hbefore.1.resolve_left hblank)
      rw [List.cons_append, ofLines_cons_of_not_blank (by simpa using hblank),
        ofLine_eq_ok_iff.2 hread, hrest]
      rfl

/-- A text that is no feed is refused by the number of its first line that is neither passed over
nor read, blank lines counted. -/
theorem ofFeed_eq_error {text : String} (h : ¬IsFeed text) :
    ∃ before line after, lines text.toList = before ++ line :: after ∧
      (∀ earlier ∈ before, IsFeedLine earlier) ∧ ¬IsFeedLine line ∧
      ofFeed text = .error (.serialization
        s!"Invalid schema change event on line {before.length + 1}") := by
  rw [isFeed_iff] at h
  obtain ⟨before, line, after, hlines, hbefore, hline⟩ := exists_first_not h
  refine ⟨before, line, after, hlines, hbefore, hline, ?_⟩
  rw [Nat.add_comm, ← ofLines_eq_error hline hbefore 1, ← hlines]
  rfl

end ChangeEvent

end ShardMerge
