import TopicPress.Conversion
import TopicPress.Proofs.Delivery
import TopicPress.Proofs.XmlWellFormed

/-!
# Every sink is given what is recorded

A sink answers an event out of its own state, so what it is given could depend on what it is.  It
does not: a document has one list of events, the one that a recording sink keeps, and any other sink
is given that list from its beginning, up to the end or up to the first event that it refuses.  A
sink that keeps a trace of what it is given makes this something to state; the trace changes nothing
about the sink.

For the writer of XML it means that the text of a topic and the lines of its events come from the
same events.
-/

namespace TopicPress

variable {State Refusal : Type}

/-- An error of a sink that refuses nothing, as an error of any other sink. -/
def RenderError.widen : RenderError Empty → RenderError Refusal
  | .unmapped context => .unmapped context

namespace Sink

/-- The result of a run: the refusal if there is one, and otherwise the result of the recording. -/
def refusalOr (refusal : Option Refusal) (recorded : Except (RenderError Empty) Unit) :
    Except (RenderError Refusal) Unit :=
  match refusal with
  | some reason => .error (.refused reason)
  | none => recorded.mapError RenderError.widen

/-! ## Traces -/

/-- The sink, with a trace of the events that it is given; a refused event is in the trace too. -/
def traced (sink : Sink State Refusal) : Sink (State × Array Event) Refusal where
  receive tracing event :=
    let receipt := sink.receive tracing.1 event
    { state := (receipt.state, tracing.2.push event)
      refusal := receipt.refusal
      notices := receipt.notices }

/-- How a traced run of a sink, from the state `state`, follows a recording. -/
inductive FollowsRecording (sink : Sink State Refusal) (state : State)
    (recording : Played (Array Event) Empty) (run : Played (State × Array Event) Refusal) :
    Prop where
  /-- The sink is given all recorded events and accepts them, and the run ends as the recording
  does. -/
  | toTheEnd (fed : sink.feed state recording.state.toList = (run.state.1, none))
      (given : run.state.2 = recording.state)
      (result : run.result = recording.result.mapError RenderError.widen)
  /-- The sink accepts the recorded events before number `index` and refuses that one.  It is given
  no event after it, and the run ends with its reason. -/
  | toRefusal (index : Nat) (event : Event) (between : State) (reason : Refusal)
      (fed : sink.feed state (recording.state.toList.take index) = (between, none))
      (next : recording.state[index]? = some event)
      (refused : (sink.receive between event).refusal = some reason)
      (left : run.state.1 = (sink.receive between event).state)
      (given : run.state.2 = recording.state.take (index + 1))
      (result : run.result = .error (.refused reason))

/-- A sink accepts all events, or there is a first one that it refuses. -/
theorem feed_cases (sink : Sink State Refusal) (events : List Event) :
    ∀ state, (∃ final, sink.feed state events = (final, none)) ∨
      ∃ index event between reason, sink.feed state (events.take index) = (between, none) ∧
        events[index]? = some event ∧ (sink.receive between event).refusal = some reason := by
  induction events with
  | nil =>
      intro state
      exact Or.inl ⟨state, rfl⟩
  | cons event rest inductionHypothesis =>
      intro state
      cases answer : (sink.receive state event).refusal with
      | some reason => exact Or.inr ⟨0, event, state, reason, rfl, rfl, answer⟩
      | none =>
          rcases inductionHypothesis (sink.receive state event).state with
            ⟨final, fed⟩ | ⟨index, later, between, reason, fed, next, refused⟩
          · exact Or.inl ⟨final, (feed_cons_of_accepted answer rest).trans fed⟩
          · refine Or.inr ⟨index + 1, later, between, reason, ?_, next, refused⟩
            rw [List.take_succ_cons, feed_cons_of_accepted answer, fed]

theorem feed_of_refused {sink : Sink State Refusal} {state between : State} {events : List Event}
    {index : Nat} {event : Event} {reason : Refusal}
    (fed : sink.feed state (events.take index) = (between, none))
    (next : events[index]? = some event)
    (refused : (sink.receive between event).refusal = some reason) :
    sink.feed state events = ((sink.receive between event).state, some reason) := by
  have parts : events = events.take index ++ event :: events.drop (index + 1) := by
    rcases List.getElem?_eq_some_iff.mp next with ⟨inside, rfl⟩
    rw [← List.drop_eq_getElem_cons inside, List.take_append_drop]
  calc sink.feed state events
      = sink.feed state (events.take index ++ event :: events.drop (index + 1)) :=
        congrArg (sink.feed state) parts
    _ = sink.feed between (event :: events.drop (index + 1)) := feed_append_of_accepted fed _
    _ = ((sink.receive between event).state, some reason) := by simp only [feed, refused]

/-- A trace changes nothing about the sink. -/
theorem feed_traced (sink : Sink State Refusal) (events : List Event) :
    ∀ state trace, sink.feed state events =
      ((sink.traced.feed (state, trace) events).1.1, (sink.traced.feed (state, trace) events).2) := by
  induction events with
  | nil =>
      intro state trace
      rfl
  | cons event rest inductionHypothesis =>
      intro state trace
      have same : (sink.traced.receive (state, trace) event).refusal =
          (sink.receive state event).refusal := rfl
      cases answer : (sink.receive state event).refusal with
      | some reason =>
          simp only [feed, same, answer]
          rfl
      | none =>
          rw [feed_cons_of_accepted answer, feed_cons_of_accepted (same.trans answer)]
          exact inductionHypothesis _ _

theorem feed_traced_of_accepted {sink : Sink State Refusal} {events : List Event} :
    ∀ {state final : State}, sink.feed state events = (final, none) →
      ∀ trace, sink.traced.feed (state, trace) events = ((final, trace ++ events), none) := by
  induction events with
  | nil =>
      intro state final fed trace
      have same : state = final := congrArg Prod.fst fed
      simp [feed, same]
  | cons event rest inductionHypothesis =>
      intro state final fed trace
      cases answer : (sink.receive state event).refusal with
      | some reason =>
          simp only [feed, answer] at fed
          cases congrArg Prod.snd fed
      | none =>
          rw [feed_cons_of_accepted answer] at fed
          have first : (sink.traced.receive (state, trace) event).refusal = none := answer
          have later := inductionHypothesis fed (trace.push event)
          rw [feed_cons_of_accepted first]
          simpa [traced] using later

/-! ## Runs -/

/-- What comes of a rendering: the first refusal, or else what came of recording it. -/
theorem play_result_eq_recording (sink : Sink State Refusal) (state : State)
    (rendering : Rendering) :
    (sink.play state rendering).result =
      refusalOr (sink.feed state rendering.events).2 (recording.play #[] rendering).result := by
  rw [play_result, play_recording_result]
  cases (sink.feed state rendering.events).2 with
  | some reason => rfl
  | none => cases rendering.failure <;> rfl

theorem play_traced (sink : Sink State Refusal) (state : State) (rendering : Rendering) :
    (sink.traced.play (state, #[]) rendering).state.1 = (sink.play state rendering).state ∧
      (sink.traced.play (state, #[]) rendering).result = (sink.play state rendering).result := by
  have same := sink.feed_traced rendering.events state #[]
  rw [play_state, play_state, play_result, play_result, same]
  exact ⟨rfl, rfl⟩

/-- A traced run follows the recording of the same rendering. -/
theorem play_followsRecording (sink : Sink State Refusal) (state : State) (rendering : Rendering) :
    sink.FollowsRecording state (recording.play #[] rendering)
      (sink.traced.play (state, #[]) rendering) := by
  have kept := play_recording_state rendering
  have keptArray := play_recording_array rendering
  rcases sink.feed_cases rendering.events state with
    ⟨final, fed⟩ | ⟨index, event, between, reason, fed, next, refused⟩
  · have traced := feed_traced_of_accepted fed #[]
    refine .toTheEnd ?_ ?_ ?_
    · rw [kept, fed, play_state, traced]
    · rw [keptArray, play_state, traced]
      simp
    · rw [play_result_eq_recording, traced, refusalOr]
  · have begun := feed_traced_of_accepted fed #[]
    have tracedRefused : ∀ trace, (sink.traced.receive (between, trace) event).refusal =
        some reason := fun _ => refused
    have traced := feed_of_refused begun next (tracedRefused _)
    refine .toRefusal index event between reason ?_ ?_ refused ?_ ?_ ?_
    · rw [kept, fed]
    · rw [← Array.getElem?_toList, kept, next]
    · rw [play_state, traced]
      rfl
    · have through : rendering.events.take (index + 1) = rendering.events.take index ++ [event] := by
        rw [List.take_add_one, next]
        rfl
      rw [keptArray, play_state, traced, List.take_toArray, through]
      simp [Sink.traced]
    · rw [play_result_eq_recording, traced, refusalOr]

/-! ## Sinks with little room -/

/-- A full sink keeps what it has room for, and refuses the first event that it has none for. -/
theorem feed_recordingAtMost (capacity : Nat) (events : List Event) :
    ∀ kept : Array Event, kept.size ≤ capacity →
      (recordingAtMost capacity).feed kept events =
        (kept ++ events.take (capacity - kept.size),
          if capacity < kept.size + events.length then some ⟨capacity⟩ else none) := by
  induction events with
  | nil =>
      intro kept room
      have enough : ¬ capacity < kept.size := Nat.not_lt.mpr room
      simp [feed, enough]
  | cons event rest inductionHypothesis =>
      intro kept room
      rcases Nat.lt_or_ge kept.size capacity with hasRoom | isFull
      · have received : (recordingAtMost capacity).receive kept event =
            { state := kept.push event } := if_pos hasRoom
        have accepted : ((recordingAtMost capacity).receive kept event).refusal = none := by
          rw [received]
        have later := inductionHypothesis (kept.push event) (by simpa using Nat.succ_le_of_lt hasRoom)
        have left : capacity - kept.size = (capacity - (kept.push event).size) + 1 := by
          rw [Array.size_push]
          omega
        have total : kept.size + (event :: rest).length =
            (kept.push event).size + rest.length := by
          rw [Array.size_push, List.length_cons]
          omega
        rw [feed_cons_of_accepted accepted, received, later, left, List.take_succ_cons, total]
        simp
      · have full : kept.size = capacity := Nat.le_antisymm room isFull
        have received : (recordingAtMost capacity).receive kept event =
            { state := kept, refusal := some ⟨kept.size⟩ } := if_neg (Nat.not_lt.mpr isFull)
        simp [feed, received, full]

theorem play_recordingAtMost (capacity : Nat) (rendering : Rendering) :
    ((recordingAtMost capacity).play #[] rendering).state =
        (recording.play #[] rendering).state.take capacity ∧
      ((recordingAtMost capacity).play #[] rendering).result =
        if capacity < (recording.play #[] rendering).state.size then .error (.refused ⟨capacity⟩)
        else (recording.play #[] rendering).result.mapError RenderError.widen := by
  have kept := play_recording_array rendering
  have fed := feed_recordingAtMost capacity rendering.events #[] (Nat.zero_le capacity)
  rw [play_state, play_result_eq_recording, fed, kept, List.take_toArray]
  constructor
  · simp
  · rcases Nat.lt_or_ge capacity rendering.events.length with short | enough
    · simp [short, refusalOr]
    · simp [Nat.not_lt.mpr enough, refusalOr]

end Sink

/-! ## Documents -/

namespace Document

/-- The run of a recording sink. -/
def recorded (options : RenderOptions) (document : Document) : Sink.Played (Array Event) Empty :=
  document.serialize Sink.recording #[] options

/-- The document is delivered to a sink in the state `state` as it is recorded. -/
structure DeliveredAsRecorded (sink : Sink State Refusal) (state : State)
    (options : RenderOptions) (document : Document) : Prop where
  /-- The events that the sink is given are recorded ones, up to the end or the first refusal. -/
  follows : sink.FollowsRecording state (document.recorded options)
    (document.serialize sink.traced (state, #[]) options)
  /-- The trace of them changes nothing. -/
  traced : (document.serialize sink state options).state =
      (document.serialize sink.traced (state, #[]) options).state.1 ∧
    (document.serialize sink state options).result =
      (document.serialize sink.traced (state, #[]) options).result
  /-- A recording sink with room for `count` events keeps that many, and refuses the next if there
  is one. -/
  limited : ∀ count,
    (document.serialize (Sink.recordingAtMost count) #[] options).state =
        (document.recorded options).state.take count ∧
      (document.serialize (Sink.recordingAtMost count) #[] options).result =
        if count < (document.recorded options).state.size then .error (.refused ⟨count⟩)
        else (document.recorded options).result.mapError RenderError.widen
  /-- The events of the document are the recorded ones, and are there unless the recording failed. -/
  events : document.toEvents options =
    (document.recorded options).result.map (fun _ => (document.recorded options).state)
  /-- Writing the document as XML gives the recorded events to the writer, one by one. -/
  written : ∀ device, Xml.render options document device =
      document.serialize Xml.sink { device } options ∧
    (Xml.render options document device).state =
      (Xml.sink.feed { device } (document.recorded options).state.toList).1 ∧
    (Xml.render options document device).result =
      Sink.refusalOr (Xml.sink.feed { device } (document.recorded options).state.toList).2
        (document.recorded options).result
  /-- The text of the topic and the lines of its events come from the same events, and are missing
  for the same reason. -/
  forms : match document.toEvents options with
    | .ok events =>
      (Conversion.topicText .xml options document).result =
          .ok (Xml.sink.feed {} events.toList).1.device.written ∧
        (Conversion.topicText .eventLines options document).result =
          .ok (Event.jsonLines events.toList)
    | .error error =>
      (Conversion.topicText .xml options document).result = .error (.rendering error.widen) ∧
        (Conversion.topicText .eventLines options document).result =
          .error (.rendering error.widen)

theorem recorded_eq_play (options : RenderOptions) (document : Document) :
    document.recorded options = Sink.recording.play #[] (document.render options) :=
  serialize_eq_play Sink.recording #[] options document

theorem toEvents_eq_recorded (options : RenderOptions) (document : Document) :
    document.toEvents options =
      (document.recorded options).result.map (fun _ => (document.recorded options).state) := by
  rw [recorded_eq_play, toEvents]
  cases (Sink.recording.play #[] (document.render options)).result <;> rfl

/-- The forms of a topic are made of the events of the document. -/
private theorem result_topicText (options : RenderOptions) (document : Document) :
    match document.toEvents options with
    | .ok events =>
      (Conversion.topicText .xml options document).result =
          .ok (Xml.sink.feed {} events.toList).1.device.written ∧
        (Conversion.topicText .eventLines options document).result =
          .ok (Event.jsonLines events.toList)
    | .error error =>
      (Conversion.topicText .xml options document).result = .error (.rendering error.widen) ∧
        (Conversion.topicText .eventLines options document).result =
          .error (.rendering error.widen) := by
  have outcome := Sink.play_result_of_accepted (Xml.accepts_render options document)
  rw [toEvents_eq]
  simp only [Conversion.topicText, Xml.render, outcome, Sink.play_state]
  cases (document.render options).failure with
  | some context => exact ⟨rfl, rfl⟩
  | none => exact ⟨rfl, rfl⟩

/-- Every sink is given the recorded events of a document in their order, up to the first one that
it refuses, and nothing after it. -/
theorem deliveredAsRecorded (sink : Sink State Refusal) (state : State) (options : RenderOptions)
    (document : Document) : document.DeliveredAsRecorded sink state options := by
  have ownRun := sink.play_traced state (document.render options)
  refine ⟨?_, ?_, ?_, document.toEvents_eq_recorded options, ?_, document.result_topicText options⟩
  · rw [recorded_eq_play, serialize_eq_play]
    exact sink.play_followsRecording state (document.render options)
  · rw [serialize_eq_play, serialize_eq_play]
    exact ⟨ownRun.1.symm, ownRun.2.symm⟩
  · intro count
    rw [recorded_eq_play, serialize_eq_play]
    exact Sink.play_recordingAtMost count (document.render options)
  · intro device
    have kept := Sink.play_recording_state (document.render options)
    rw [recorded_eq_play, kept, serialize_eq_play, Xml.render]
    exact ⟨rfl, Sink.play_state _ _ _, Sink.play_result_eq_recording _ _ _⟩

end Document

end TopicPress
