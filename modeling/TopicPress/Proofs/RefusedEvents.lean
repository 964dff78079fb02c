import TopicPress.Proofs.BalanceLanguage
import TopicPress.Proofs.WriteFailure

/-!
# Events that are refused

A sink may be given further events after it has refused one.  If a refusal leaves it in the state that
it was in, then it is as if the refused event had never been there: what it answers to the later ones,
and the state that it ends in, are those of a run on the accepted events alone.  The writer of XML is
such a sink as long as its device works, because it looks at what is open before it does anything.  The
events that it accepts, in spite of what comes between them, are always the beginning of a balanced
list.
-/

namespace TopicPress

/-! ## Sinks that go on after refusals -/

namespace Sink

variable {State Refusal : Type}

/-- The state of a sink that has been given all events, whether it refused some of them or not. -/
def persist (sink : Sink State Refusal) (state : State) (events : List Event) : State :=
  events.foldl (fun state event => (sink.receive state event).state) state

/-- The events, each with what the sink answers to it, when it is given all of them. -/
def answers (sink : Sink State Refusal) (state : State) :
    List Event → List (Event × Receipt State Refusal)
  | [] => []
  | event :: later =>
    let receipt := sink.receive state event
    (event, receipt) :: sink.answers receipt.state later

/-- The event has not been refused. -/
def isAccepted (answer : Event × Receipt State Refusal) : Bool := answer.2.refusal.isNone

/-- The events that are not refused when the sink is given all of them. -/
def acceptedOf (sink : Sink State Refusal) (state : State) (events : List Event) : List Event :=
  ((sink.answers state events).filter isAccepted).map Prod.fst

theorem answers_cons (sink : Sink State Refusal) (state : State) (event : Event)
    (later : List Event) :
    sink.answers state (event :: later) =
      (event, sink.receive state event) ::
        sink.answers (sink.receive state event).state later :=
  rfl

theorem persist_cons (sink : Sink State Refusal) (state : State) (event : Event)
    (later : List Event) :
    sink.persist state (event :: later) = sink.persist (sink.receive state event).state later :=
  rfl

section Accepted

variable {sink : Sink State Refusal} {state : State} {event : Event}

theorem filter_answers_of_accepted (accepted : (sink.receive state event).refusal = none)
    (later : List Event) :
    (sink.answers state (event :: later)).filter isAccepted =
      (event, sink.receive state event) ::
        (sink.answers (sink.receive state event).state later).filter isAccepted := by
  rw [answers_cons, List.filter_cons_of_pos (by rw [isAccepted, accepted]; rfl)]

theorem filter_answers_of_refused {reason : Refusal}
    (refused : (sink.receive state event).refusal = some reason) (later : List Event) :
    (sink.answers state (event :: later)).filter isAccepted =
      (sink.answers (sink.receive state event).state later).filter isAccepted := by
  rw [answers_cons, List.filter_cons_of_neg (by rw [isAccepted, refused]; exact Bool.false_ne_true)]

theorem acceptedOf_of_accepted (accepted : (sink.receive state event).refusal = none)
    (later : List Event) :
    sink.acceptedOf state (event :: later) =
      event :: sink.acceptedOf (sink.receive state event).state later := by
  rw [acceptedOf, filter_answers_of_accepted accepted]
  rfl

theorem acceptedOf_of_refused {reason : Refusal}
    (refused : (sink.receive state event).refusal = some reason) (later : List Event) :
    sink.acceptedOf state (event :: later) =
      sink.acceptedOf (sink.receive state event).state later := by
  rw [acceptedOf, filter_answers_of_refused refused]
  rfl

end Accepted

/-- In the states of `Holds`, a refusal leaves the state alone. -/
structure RefusesInPlace (sink : Sink State Refusal) (Holds : State → Prop) : Prop where
  accepted : ∀ {state event}, Holds state → (sink.receive state event).refusal = none →
    Holds (sink.receive state event).state
  refused : ∀ {state event reason}, Holds state →
    (sink.receive state event).refusal = some reason → (sink.receive state event).state = state

namespace RefusesInPlace

variable {sink : Sink State Refusal} {Holds : State → Prop}

/-- The refused events can be left out: all answers to the others stay the same, and so does the
state in the end. -/
theorem leave_out (inPlace : sink.RefusesInPlace Holds) (events : List Event) :
    ∀ {state : State}, Holds state →
      sink.answers state (sink.acceptedOf state events) =
          (sink.answers state events).filter isAccepted ∧
        sink.persist state (sink.acceptedOf state events) = sink.persist state events := by
  induction events with
  | nil =>
      intro state holds
      exact ⟨rfl, rfl⟩
  | cons event later inductionHypothesis =>
      intro state holds
      cases answer : (sink.receive state event).refusal with
      | none =>
          rcases inductionHypothesis (inPlace.accepted holds answer) with ⟨sameAnswers, sameState⟩
          rw [acceptedOf_of_accepted answer, filter_answers_of_accepted answer, answers_cons,
            persist_cons, persist_cons, sameAnswers, sameState]
          exact ⟨rfl, rfl⟩
      | some reason =>
          have stays := inPlace.refused holds answer
          rw [acceptedOf_of_refused answer, filter_answers_of_refused answer, persist_cons, stays]
          exact inductionHypothesis holds

end RefusesInPlace

end Sink

/-! ## The writer of XML -/

namespace Xml

namespace Writer

theorem accepted_of_admits {writer : Writer} (works : writer.device.fault = none) {event : Event}
    (admitted : writer.Admits event) : (sink.receive writer event).refusal = none := by
  rcases admitted with ⟨unfinished, fits⟩
  cases event with
  | startElement name classValue attributes =>
      exact (startElement_eq works unfinished fits name classValue attributes).1
  | characters text => exact (characters_eq works unfinished fits text).1
  | endElement =>
      rcases fits with ⟨name, rest, names⟩
      exact (endElement_within works unfinished names).1
  | endDocument => exact (endDocument_eq works unfinished fits).1

/-- A writer whose device works refuses an event before it does anything. -/
theorem receive_of_refused {writer : Writer} (works : writer.device.fault = none) {event : Event}
    {reason : WriteError} (refused : (sink.receive writer event).refusal = some reason) :
    sink.receive writer event = writer.refuse reason ∧ ∀ fault, reason ≠ .device fault := by
  rcases writer.admits_or_refuses event with admitted | ⟨given, same, blameless⟩
  · rw [accepted_of_admits works admitted] at refused
    cases refused
  · rw [same] at refused ⊢
    cases refused
    exact ⟨rfl, blameless⟩

/-- The check has come as far as the writer. -/
def InStep (writer : Writer) : Prop := ∃ progress openNames, Agree progress openNames writer

theorem sink_refusesInPlace : sink.RefusesInPlace InStep where
  accepted := by
    rintro writer event ⟨progress, openNames, agree⟩ accepted
    cases outcome : progress.step 0 event with
    | ok next => exact ⟨next, _, (agree.accepts outcome).2⟩
    | error fault =>
        rcases agree.refuses outcome with ⟨reason, _, refused⟩
        rw [refused] at accepted
        cases accepted
  refused := by
    rintro writer event reason ⟨progress, openNames, agree⟩ refused
    rw [(receive_of_refused agree.works refused).1]
    rfl

end Writer

/-- The check lets through what the writer accepts, whatever is refused in between, and comes as far as
the writer does. -/
theorem Agree.run_acceptedOf (events : List Event) :
    ∀ {progress : Balance.Progress} {openNames : List String} {writer : Writer} {start : Nat},
      Agree progress openNames writer →
        ∃ next nextNames, progress.run start (sink.acceptedOf writer events) = .ok next ∧
          Agree next nextNames (sink.persist writer events) := by
  induction events with
  | nil =>
      intro progress openNames writer start agree
      exact ⟨progress, openNames, rfl, agree⟩
  | cons event later inductionHypothesis =>
      intro progress openNames writer start agree
      rw [Sink.persist_cons]
      cases outcome : progress.step start event with
      | ok between =>
          rcases agree.accepts outcome with ⟨accepted, agreeBetween⟩
          rw [Sink.acceptedOf_of_accepted accepted, Balance.Progress.run, outcome]
          exact inductionHypothesis agreeBetween
      | error fault =>
          -- The check is not run on this event at all, so it stays at `start`, as the writer stays
          -- where it is.
          rcases agree.refuses outcome with ⟨reason, _, refused⟩
          have stays := Writer.sink_refusesInPlace.refused ⟨progress, openNames, agree⟩ refused
          rw [Sink.acceptedOf_of_refused refused, stays]
          exact inductionHypothesis agree

/-- An event that is refused would have spoiled what has been accepted before. -/
theorem Agree.not_canBeBalanced_of_refused {progress : Balance.Progress} {openNames : List String}
    {writer : Writer} (agree : Agree progress openNames writer) {accepted : List Event}
    (passed : ({} : Balance.Progress).run 0 accepted = .ok progress) {event : Event}
    {reason : WriteError} (refused : (sink.receive writer event).refusal = some reason) :
    ¬ Event.CanBeBalanced (accepted ++ [event]) := by
  cases outcome : progress.step accepted.length event with
  | ok next =>
      rw [(agree.accepts outcome).1] at refused
      cases refused
  | error fault => exact Balance.not_canBeBalanced_of_step passed outcome

/-- What comes of giving `events` to `writer` one by one, when it is used further after each refusal. -/
structure RefusalsLeaveNoTrace (writer : Writer) (events : List Event) : Prop where
  /-- Where an event is refused, nothing is written and the writer is as it was; the device is not
  to blame. -/
  untouched : ∀ before event after reason, events = before ++ event :: after →
    (sink.receive (sink.persist writer before) event).refusal = some reason →
      sink.receive (sink.persist writer before) event =
          (sink.persist writer before).refuse reason ∧
        ∀ fault, reason ≠ .device fault
  /-- Without the refused events, all others are answered as they are with them. -/
  answers : sink.answers writer (sink.acceptedOf writer events) =
    (sink.answers writer events).filter Sink.isAccepted
  /-- Without the refused events, the writer ends in the same state, with the same text written. -/
  ending : sink.persist writer (sink.acceptedOf writer events) = sink.persist writer events
  /-- What is left without them is the beginning of a balanced list. -/
  balanced : Event.CanBeBalanced (sink.acceptedOf writer events)
  /-- With any of them, what was accepted before it would not be. -/
  spoiled : ∀ before event after reason, events = before ++ event :: after →
    (sink.receive (sink.persist writer before) event).refusal = some reason →
      ¬ Event.CanBeBalanced (sink.acceptedOf writer before ++ [event])

/-- With a device that works, an event that is refused leaves no trace. -/
theorem refusals_leave_no_trace (written : String) (events : List Event) :
    RefusalsLeaveNoTrace { device := { written } } events := by
  let writer : Writer := { device := { written } }
  have start : Agree {} [] writer := .start written
  have comesAsFar : ∀ events, ∃ progress names,
      ({} : Balance.Progress).run 0 (sink.acceptedOf writer events) = .ok progress ∧
        Agree progress names (sink.persist writer events) :=
    fun events => start.run_acceptedOf events
  rcases Writer.sink_refusesInPlace.leave_out events ⟨{}, [], start⟩ with ⟨answers, ending⟩
  rcases comesAsFar events with ⟨_, _, passed, _⟩
  refine ⟨?_, answers, ending, Balance.canBeBalanced_of_run passed, ?_⟩
  · intro before event after reason _ refused
    rcases comesAsFar before with ⟨_, _, _, agree⟩
    exact Writer.receive_of_refused agree.works refused
  · intro before event after reason _ refused
    rcases comesAsFar before with ⟨_, _, passedBefore, agree⟩
    exact agree.not_canBeBalanced_of_refused passedBefore refused

example :
    sink.acceptedOf {} [.characters "x", .startElement "a" "" [], .endDocument, .characters "y",
        .endElement, .endElement, .startElement "b" "" [], .endDocument, .endElement] =
      [.startElement "a" "" [], .characters "y", .endElement, .endDocument] := by
  decide +kernel

end Xml

end TopicPress
