import ShardMerge.Command.Run
import ShardMerge.Proofs.Change.Lines

/-!
# Events in a file

How the events in a file are read and decided.

* `exec_readEvents` leaves the text: nothing else in the world matters.
* `readEvents_exact` says what becomes of texts that were written for events, and of all others.
* `exec_processStream` leaves the run of the events.  The clock is read once for each of them.
-/

namespace ShardMerge

open Text World

variable {w : World} {path text : String}

theorem exec_readEvents (h : w.tree.readText path = .ok text) :
    w.exec (readEvents path) = (ChangeEvent.ofFeed text, w) := by
  rw [readEvents, exec_bind, exec_orFail, exec_readText, h]
  exact exec_liftExcept ..

/-- Events that were written one line each are read as they were.  A text is read exactly if each of
its lines is blank or an event, and otherwise its first other line is named by its number. -/
theorem readEvents_exact (htext : w.tree.readText path = .ok text) :
    (∀ events, ChangeEvent.Records events text.toList →
      w.exec (readEvents path) = (.ok events, w)) ∧
    ((∃ events, w.exec (readEvents path) = (.ok events, w)) ↔
      ∀ line ∈ lines text.toList, ChangeEvent.IsFeedLine line) ∧
    ((¬∀ line ∈ lines text.toList, ChangeEvent.IsFeedLine line) →
      ∃ before line after, lines text.toList = before ++ line :: after ∧
        (∀ earlier ∈ before, ChangeEvent.IsFeedLine earlier) ∧ ¬ChangeEvent.IsFeedLine line ∧
        w.exec (readEvents path) = (.error (.serialization
          s!"Invalid schema change event on line {before.length + 1}"), w)) := by
  simp only [exec_readEvents htext, Prod.mk.injEq, and_true, ← ChangeEvent.isFeed_iff]
  refine ⟨?_, ?_, ?_⟩
  · intro events hrecords
    exact hrecords.ofFeed_eq_ok
  · exact ChangeEvent.exists_ofFeed_eq_ok_iff
  · exact ChangeEvent.ofFeed_eq_error

/-- A new column with a line break in its name. -/
def addedEvent : ChangeEvent := ⟨⟨"shop", "orders"⟩, .addColumn "due\nby" (.typed .date)⟩

/-- A type in the words of the source. -/
def alteredEvent : ChangeEvent :=
  ⟨⟨"shop", "orders"⟩, .alterColumnType "id" (.native "int") (.native "bigint(20)")⟩

/-- The two events after a blank line each, with both line endings. -/
def recordedText : String :=
  String.ofList (['\t'] ++ ['\r', '\n'] ++ (Json.writeCompact (toJson addedEvent) ++ ['\n'] ++
    ([' '] ++ ['\n'] ++ Json.writeCompact (toJson alteredEvent))))

theorem records_recordedText :
    ChangeEvent.Records [addedEvent, alteredEvent] recordedText.toList := by
  rw [recordedText, String.toList_ofList]
  have htab : ChangeEvent.RecordsLine [] ['\t'] := .blank (by decide) (by decide)
  have hspace : ChangeEvent.RecordsLine [] [' '] := .blank (by decide) (by decide)
  have hfeed : ['\n'] ∈ lineEndings := by decide
  have hreturn : ['\r', '\n'] ∈ lineEndings := by decide
  have hrecords := ChangeEvent.Records.line htab hreturn (.line (.event addedEvent) hfeed
    (.line hspace hfeed (.last (.event alteredEvent))))
  exact hrecords

/-- A text whose third line is no event. -/
def foreignText : String := "\n \r\n\x7b\x7d\n\n"

/-- A world with one file for each text. -/
def recordedWorld : World where
  tree := (Tree.put {} ["recorded"] (.file recordedText)).put ["foreign"] (.file foreignText)
  clock := (⟨2024, 1, 1, 0, 0, 0, 0⟩ : Timestamp)

theorem readEvents_exact_recorded :
    recordedWorld.tree.readText "recorded" = .ok recordedText ∧
      ChangeEvent.Records [addedEvent, alteredEvent] recordedText.toList ∧
      recordedWorld.exec (readEvents "recorded") =
        (.ok [addedEvent, alteredEvent], recordedWorld) ∧
      recordedWorld.tree.readText "foreign" = .ok foreignText ∧
      (¬∀ line ∈ lines foreignText.toList, ChangeEvent.IsFeedLine line) ∧
      ∃ before line after, lines foreignText.toList = before ++ line :: after ∧
        (∀ earlier ∈ before, ChangeEvent.IsFeedLine earlier) ∧ ¬ChangeEvent.IsFeedLine line ∧
        recordedWorld.exec (readEvents "foreign") = (.error (.serialization
          s!"Invalid schema change event on line {before.length + 1}"), recordedWorld) := by
  have hrecorded : recordedWorld.tree.readText "recorded" = .ok recordedText := by decide +kernel
  have hforeign : recordedWorld.tree.readText "foreign" = .ok foreignText := by decide +kernel
  have hline : ¬∀ line ∈ lines foreignText.toList, ChangeEvent.IsFeedLine line := by
    decide +kernel
  exact ⟨hrecorded, records_recordedText,
    (readEvents_exact hrecorded).1 _ records_recordedText, hforeign, hline,
    (readEvents_exact hforeign).2.2 hline⟩

/-! ## Deciding -/

theorem exec_decideAll (w : World) (current : TargetSchema) (events : List ChangeEvent) :
    w.exec (decideAll current events) = (.ok (ChangeEvent.process w.clock current events),
      { w with
        clock := w.clock.after events.length
        journal := (ChangeEvent.decisionNotes current (w.clock.stamp events)).reverse ++
          w.journal }) := by
  induction events generalizing w current with
  | nil =>
    rw [List.length_nil, Clock.after_zero]
    rfl
  | cons event events ih =>
    have hnotes : ChangeEvent.decisionNotes current (w.clock.stamp (event :: events)) =
        event.note w.clock.now current :: ChangeEvent.decisionNotes
          (event.advance w.clock.now current) ((w.clock.after 1).stamp events) := rfl
    rw [decideAll, exec_bind, exec_now, hnotes, List.reverse_cons, List.append_assoc,
      List.length_cons, Nat.add_comm, ← Clock.after_after]
    simp only [exec_bind, exec_record, ih, ticked]
    rfl

theorem exec_processStream (w : World) (current : TargetSchema) (events : List ChangeEvent) :
    w.exec (processStream current events) = (.ok (ChangeEvent.process w.clock current events).2,
      { w with
        clock := w.clock.after events.length
        journal := (ChangeEvent.processNotes w.clock current events).reverse ++ w.journal }) := by
  rw [processStream, exec_bind, exec_decideAll]
  simp only [exec_bind, exec_record, ChangeEvent.processNotes, List.reverse_concat,
    List.cons_append]
  rfl

end ShardMerge
