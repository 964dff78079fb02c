import TopicPress.Proofs.BalanceFault
import TopicPress.Proofs.Receiving
import TopicPress.Proofs.XmlStream

/-!
# The balance check and the writer

Two parts of the library decide which lists of events are balanced.  The check counts the open
elements and goes through a finished list; the writer keeps the names of the open elements, holds a
start tag back, and has to decide on each event before it sees the next.  They stop at the same
event for the same reason.  What is compared is only how they go about events: nothing is said here
of what the writer has written, and a device that fails is left out.
-/

namespace TopicPress

/-! ## Open elements and reasons -/

namespace Event

/-- The names of the open elements after an event, innermost first. -/
def openAfter (names : List String) : Event → List String
  | startElement name _ _ => name :: names
  | endElement => names.tail
  | characters _ => names
  | endDocument => names

/-- The names of the elements that events leave open, innermost first. -/
def leftOpen (events : List Event) : List String := events.foldl openAfter []

def elementName? : Event → Option String
  | startElement name _ _ => some name
  | _ => none

end Event

namespace BalanceError

/-- The reason of the writer that goes with a fault of `event`, where the elements of `names` are
open, innermost first. -/
def reason? (names : List String) (event : Event) : BalanceError → Option Xml.WriteError
  | unmatchedEnd _ => some .unmatchedEnd
  | strayCharacters _ => some .strayCharacters
  | afterRoot _ => event.elementName?.map .multipleRoots
  | unclosed _ => names.head?.map .unclosed
  | afterEndDocument _ => some .afterEndDocument

end BalanceError

/-! ## The check and the writer -/

namespace Xml

/-- The check and the writer have come equally far, with the elements of `openNames` open. -/
structure Agree (progress : Balance.Progress) (openNames : List String) (writer : Writer) :
    Prop where
  works : writer.device.fault = none
  names : writer.openNames = openNames
  depth : progress.depth = openNames.length
  rootClosed : writer.rootClosed = progress.rootClosed
  ended : writer.finished = progress.ended
  /-- No element is open after the root. -/
  outermost : progress.rootClosed = true → openNames = []

theorem Agree.start (written : String) : Agree {} [] { device := { written } } where
  works := rfl
  names := rfl
  depth := rfl
  rootClosed := rfl
  ended := rfl
  outermost _ := rfl

namespace Writer

/-- The writer with the declaration written, unless an element is open. -/
def declared (writer : Writer) : Writer :=
  if writer.openNames.isEmpty then writer.append declaration else writer

theorem startElement_eq {writer : Writer} (works : writer.device.fault = none)
    (unfinished : writer.finished = false) (rootOpen : writer.rootClosed = false)
    (name classValue : String) (attributes : List Attribute) :
    (writer.startElement name classValue attributes).refusal = none ∧
      (writer.startElement name classValue attributes).state =
        writer.declared.opened name classValue attributes := by
  have appended : (writer.append declaration).device.fault = none := works
  rw [startElement, unfinished, rootOpen, declared]
  cases writer.openNames.isEmpty with
  | true =>
      simp only [Bool.false_eq_true, if_false, if_true, writeThen_eq works, flushThen_eq appended]
      exact ⟨rfl, rfl⟩
  | false =>
      simp only [Bool.false_eq_true, if_false, flushThen_eq works]
      exact ⟨rfl, rfl⟩

theorem endDocument_eq {writer : Writer} (works : writer.device.fault = none)
    (unfinished : writer.finished = false) (noneOpen : writer.openNames = []) :
    writer.endDocument.refusal = none ∧
      writer.endDocument.state = { writer.append "" with finished := true } := by
  rw [endDocument, unfinished, noneOpen]
  simp only [Bool.false_eq_true, if_false, writeThen_eq works]
  exact ⟨rfl, rfl⟩

theorem refusal_of_finished {writer : Writer} (finished : writer.finished = true) (event : Event) :
    (sink.receive writer event).refusal = some .afterEndDocument := by
  cases event with
  | startElement name classValue attributes =>
      simp only [sink, startElement, finished, if_true]
      rfl
  | characters text =>
      simp only [sink, characters, finished, if_true]
      rfl
  | endElement =>
      simp only [sink, endElement, finished, if_true]
      rfl
  | endDocument =>
      simp only [sink, endDocument, finished, if_true]
      rfl

end Writer

namespace Agree

variable {progress : Balance.Progress} {openNames : List String} {writer : Writer}

/-- What is written of the open elements does not matter. -/
theorem append (agree : Agree progress openNames writer) (text : String) :
    Agree progress openNames (writer.append text) :=
  ⟨agree.works, agree.names, agree.depth, agree.rootClosed, agree.ended, agree.outermost⟩

theorem flushed (agree : Agree progress openNames writer) :
    Agree progress openNames writer.flushed where
  works := (Writer.fault_flushed writer).trans agree.works
  names := (Writer.openNames_flushed writer).trans agree.names
  depth := agree.depth
  rootClosed := (Writer.rootClosed_flushed writer).trans agree.rootClosed
  ended := (Writer.finished_flushed writer).trans agree.ended
  outermost := agree.outermost

theorem put (agree : Agree progress openNames writer) (content : String) :
    Agree progress openNames (writer.put content) := by
  by_cases empty : content = ""
  · rwa [empty, Writer.put_empty]
  · rw [Writer.put_of_ne_empty writer empty]
    exact agree.flushed.append content

theorem declared (agree : Agree progress openNames writer) :
    Agree progress openNames writer.declared := by
  rw [Writer.declared]
  split
  · exact agree.append Writer.declaration
  · exact agree

theorem opened (agree : Agree progress openNames writer) (rootOpen : progress.rootClosed = false)
    (name classValue : String) (attributes : List Attribute) :
    Agree { progress with depth := progress.depth + 1 } (name :: openNames)
      (writer.opened name classValue attributes) where
  works := agree.flushed.works
  names := congrArg (name :: ·) agree.flushed.names
  depth := congrArg (· + 1) agree.depth
  rootClosed := agree.flushed.rootClosed
  ended := agree.flushed.ended
  outermost closed := by
    rw [rootOpen] at closed
    cases closed

theorem within (agree : Agree progress openNames writer) (unended : progress.ended = false)
    (inElement : progress.depth ≠ 0) : writer.Within where
  works := agree.works
  unfinished := agree.ended.trans unended
  rootOpen := by
    rw [agree.rootClosed, Bool.eq_false_iff]
    intro closed
    apply inElement
    rw [agree.depth, agree.outermost closed]
    rfl
  inElement := by
    intro none
    apply inElement
    rw [agree.depth, ← agree.names, none]
    rfl

/-- An event that the check lets through is accepted, and the two agree again after it. -/
theorem accepts (agree : Agree progress openNames writer) {index : Nat} {event : Event}
    {next : Balance.Progress} (passed : progress.step index event = .ok next) :
    (sink.receive writer event).refusal = none ∧
      Agree next (event.openAfter openNames) (sink.receive writer event).state := by
  cases isEnded : progress.ended with
  | true =>
      rw [Balance.Progress.step_of_ended index isEnded] at passed
      cases passed
  | false =>
      have unfinished := agree.ended.trans isEnded
      cases event with
      | startElement name classValue attributes =>
          rw [Balance.Progress.step_startElement index isEnded] at passed
          split at passed
          · cases passed
          · rename_i rootOpen
            have stillOpen : progress.rootClosed = false := Bool.eq_false_iff.mpr rootOpen
            have started := writer.startElement_eq agree.works unfinished
              (agree.rootClosed.trans stillOpen) name classValue attributes
            cases passed
            refine ⟨started.1, ?_⟩
            change Agree _ _ (writer.startElement name classValue attributes).state
            rw [started.2]
            exact agree.declared.opened stillOpen name classValue attributes
      | characters text =>
          rw [Balance.Progress.step_characters index isEnded] at passed
          split at passed
          · cases passed
          · rename_i inElement
            have written := Writer.characters_within (agree.within isEnded inElement) text
            cases passed
            refine ⟨written.1, ?_⟩
            change Agree progress openNames (writer.characters text).state
            rw [written.2]
            exact agree.put _
      | endElement =>
          rw [Balance.Progress.step_endElement index isEnded] at passed
          split at passed
          · cases passed
          · rename_i inElement
            cases passed
            cases openNames with
            | nil => exact absurd agree.depth inElement
            | cons name rest =>
                have ended := Writer.endElement_within agree.works unfinished agree.names
                refine ⟨ended.1, ?_⟩
                change Agree _ rest writer.endElement.state
                rw [ended.2]
                have lastOne : (progress.depth == 1) = rest.isEmpty := by
                  rw [agree.depth]
                  cases rest <;> rfl
                exact {
                  works := agree.works
                  names := rfl
                  depth := by rw [agree.depth]; rfl
                  rootClosed := by rw [lastOne, agree.rootClosed]
                  ended := agree.ended
                  outermost := by
                    intro closed
                    rcases Bool.or_eq_true_iff.mp closed with before | now
                    · cases agree.outermost before
                    · rw [lastOne] at now
                      exact List.isEmpty_iff.mp now }
      | endDocument =>
          rw [Balance.Progress.step_endDocument index isEnded] at passed
          split at passed
          · rename_i outermost
            have noneOpen : writer.openNames = [] := by
              rw [agree.names, ← List.length_eq_zero_iff, ← agree.depth, outermost]
            have ended := writer.endDocument_eq agree.works unfinished noneOpen
            cases passed
            refine ⟨ended.1, ?_⟩
            change Agree _ openNames writer.endDocument.state
            rw [ended.2]
            exact ⟨agree.works, agree.names, agree.depth, agree.rootClosed, rfl, agree.outermost⟩
          · cases passed

theorem openNames_eq_nil (agree : Agree progress openNames writer) (outermost : progress.depth = 0) :
    openNames = [] := by
  rw [← List.length_eq_zero_iff, ← agree.depth, outermost]

/-- An event that the check stops at is refused for the same reason. -/
theorem refuses (agree : Agree progress openNames writer) {index : Nat} {event : Event}
    {fault : BalanceError} (fails : progress.step index event = .error fault) :
    ∃ reason, fault.reason? openNames event = some reason ∧
      (sink.receive writer event).refusal = some reason := by
  cases isEnded : progress.ended with
  | true =>
      rw [Balance.Progress.step_of_ended index isEnded] at fails
      cases fails
      exact ⟨_, rfl, Writer.refusal_of_finished (agree.ended.trans isEnded) event⟩
  | false =>
      have unfinished := agree.ended.trans isEnded
      cases event with
      | startElement name classValue attributes =>
          rw [Balance.Progress.step_startElement index isEnded] at fails
          split at fails
          · rename_i closed
            have rootClosed := agree.rootClosed.trans closed
            cases fails
            refine ⟨.multipleRoots name, rfl, ?_⟩
            simp only [sink, Writer.startElement, unfinished, rootClosed, Bool.false_eq_true,
              if_false, if_true]
            rfl
          · cases fails
      | characters text =>
          rw [Balance.Progress.step_characters index isEnded] at fails
          split at fails
          · rename_i outermost
            have noneOpen := agree.names.trans (agree.openNames_eq_nil outermost)
            cases fails
            refine ⟨.strayCharacters, rfl, ?_⟩
            simp only [sink, Writer.characters, unfinished, noneOpen, Bool.false_eq_true, if_false,
              List.isEmpty_nil, if_true]
            rfl
          · cases fails
      | endElement =>
          rw [Balance.Progress.step_endElement index isEnded] at fails
          split at fails
          · rename_i outermost
            have noneOpen := agree.names.trans (agree.openNames_eq_nil outermost)
            cases fails
            refine ⟨.unmatchedEnd, rfl, ?_⟩
            simp only [sink, Writer.endElement, unfinished, noneOpen, Bool.false_eq_true, if_false]
            rfl
          · cases fails
      | endDocument =>
          rw [Balance.Progress.step_endDocument index isEnded] at fails
          split at fails
          · cases fails
          · rename_i inElement
            cases fails
            cases openNames with
            | nil => exact absurd agree.depth inElement
            | cons name rest =>
                refine ⟨.unclosed name, rfl, ?_⟩
                simp only [sink, Writer.endDocument, unfinished, agree.names, Bool.false_eq_true,
                  if_false]
                rfl

/-- Events that the check lets through are accepted one by one, and the two agree in the end. -/
theorem accepts_all (events : List Event) :
    ∀ {progress next : Balance.Progress} {openNames : List String} {writer : Writer} {start : Nat},
      Agree progress openNames writer → progress.run start events = .ok next →
        (sink.feed writer events).2 = none ∧
          Agree next (events.foldl Event.openAfter openNames) (sink.feed writer events).1 := by
  induction events with
  | nil =>
      intro progress next openNames writer start agree passed
      cases passed
      exact ⟨rfl, agree⟩
  | cons event rest inductionHypothesis =>
      intro progress next openNames writer start agree passed
      rw [Balance.Progress.run] at passed
      cases outcome : progress.step start event with
      | error fault =>
          rw [outcome] at passed
          cases passed
      | ok between =>
          rw [outcome] at passed
          have first := agree.accepts outcome
          rw [Sink.feed_cons_of_accepted first.1, List.foldl_cons]
          exact inductionHypothesis first.2 passed

end Agree

/-- What comes of `events` when they are given to `writer` one by one, and the check finds `fault`
in event number `index`: the events before are accepted, this one is refused for the reason that
goes with the fault, and it is the last one. -/
structure RefusesFault (writer : Writer) (events : List Event) (fault : BalanceError)
    (index : Nat) : Prop where
  accepted : (sink.feed writer (events.take index)).2 = none
  refused : ∃ event reason, events[index]? = some event ∧
    fault.reason? (Event.leftOpen (events.take index)) event = some reason ∧
    (sink.receive (sink.feed writer (events.take index)).1 event).refusal = some reason ∧
    (sink.feed writer events).2 = some reason

/-- The writer accepts all events if the check finds no event to blame, and otherwise refuses just
the event that the check blames. -/
theorem feed_agrees_with_checkBalanced (written : String) (events : List Event) :
    let writer : Writer := { device := { written } }
    match checkBalanced events with
    | .ok () => (sink.feed writer events).2 = none
    | .error fault =>
      match fault.place? events with
      | some index => RefusesFault writer events fault index
      | none => (sink.feed writer events).2 = none := by
  intro writer
  have start : Agree {} [] writer := .start written
  rw [checkBalanced]
  cases outcome : ({} : Balance.Progress).run 0 events with
  | ok progress =>
      have accepted := (Agree.accepts_all events start outcome).1
      by_cases closed : progress.depth = 0
      · simpa [closed] using accepted
      · have unended : .endDocument ∉ events := by
          intro member
          exact closed (Balance.Progress.ended_of_mem events member outcome).2
        have noPlace : (BalanceError.unclosed progress.depth).place? events = none := by
          rw [BalanceError.place?, List.findIdx?_eq_none_iff]
          intro event member
          rw [beq_eq_false_iff_ne]
          rintro rfl
          exact unended member
        simpa [closed, noPlace] using accepted
  | error fault =>
      rcases Balance.Progress.exists_of_run_eq_error events outcome with
        ⟨count, event, between, there, passed, fails⟩
      rw [Nat.zero_add] at fails
      have before := Agree.accepts_all (events.take count) start passed
      rcases before.2.refuses fails with ⟨reason, goes, refused⟩
      have stopped := Sink.feed_of_refused (Prod.ext rfl before.1) there refused
      have place := Balance.Progress.place_of_first_fault there passed fails
      simp only [place]
      exact ⟨before.1, event, reason, there, goes, refused, congrArg Prod.snd stopped⟩

end Xml

end TopicPress
