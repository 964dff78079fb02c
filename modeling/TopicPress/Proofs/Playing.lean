import TopicPress.Topic.Serialize

/-!
# What a sink is left with

Carrying out a rendering gives a sink the events of the rendering, one after the other, up to the
first one that it refuses; the notices in between do not reach it.  A sink that is fed a list of
events is the simpler process of the two, and what it is left with decides what comes of a
rendering.
-/

namespace TopicPress

namespace Sink

variable {State Refusal : Type}

/-- The state that events leave a sink in, and why one of them was refused.  No event is given to
the sink after a refused one. -/
def feed (sink : Sink State Refusal) (state : State) : List Event → State × Option Refusal
  | [] => (state, none)
  | event :: rest =>
    let receipt := sink.receive state event
    match receipt.refusal with
    | some reason => (receipt.state, some reason)
    | none => sink.feed receipt.state rest

theorem feed_cons_of_accepted {sink : Sink State Refusal} {state : State} {event : Event}
    (accepted : (sink.receive state event).refusal = none) (rest : List Event) :
    sink.feed state (event :: rest) = sink.feed (sink.receive state event).state rest := by
  simp only [feed, accepted]

theorem feed_append_of_accepted {sink : Sink State Refusal} {first : List Event} :
    ∀ {state between : State}, sink.feed state first = (between, none) →
      ∀ second, sink.feed state (first ++ second) = sink.feed between second := by
  induction first with
  | nil =>
      intro state between accepted second
      have same : state = between := congrArg Prod.fst accepted
      rw [same, List.nil_append]
  | cons event rest inductionHypothesis =>
      intro state between accepted second
      cases answer : (sink.receive state event).refusal with
      | some reason =>
          simp only [feed, answer] at accepted
          cases congrArg Prod.snd accepted
      | none =>
          rw [feed_cons_of_accepted answer] at accepted
          rw [List.cons_append, feed_cons_of_accepted answer]
          exact inductionHypothesis accepted second

/-- A sink that accepts events accepts every beginning of them. -/
theorem feed_accepts_prefix {sink : Sink State Refusal} {begun : List Event} :
    ∀ {state : State} {events : List Event}, begun <+: events →
      (sink.feed state events).2 = none → (sink.feed state begun).2 = none := by
  induction begun with
  | nil =>
      intro state events isBeginning accepted
      rfl
  | cons event rest inductionHypothesis =>
      intro state events isBeginning accepted
      rcases List.cons_prefix_iff.mp isBeginning with ⟨later, rfl, inside⟩
      cases answer : (sink.receive state event).refusal with
      | some reason =>
          simp only [feed, answer] at accepted
          cases accepted
      | none =>
          rw [feed_cons_of_accepted answer] at accepted ⊢
          exact inductionHypothesis inside accepted

/-! ## Playing a rendering -/

theorem foldl_step_of_refusal (sink : Sink State Refusal) {playing : Playing State Refusal}
    {reason : Refusal} (refused : playing.refusal = some reason) (steps : List Step) :
    steps.foldl (Playing.step sink) playing = playing := by
  induction steps with
  | nil => rfl
  | cons step rest inductionHypothesis =>
      have stays : playing.step sink step = playing := by
        simp only [Playing.step, refused]
      rw [List.foldl_cons, stays, inductionHypothesis]

private theorem foldl_step_eq_feed (sink : Sink State Refusal) (steps : List Step) :
    ∀ playing : Playing State Refusal, playing.refusal = none →
      ((steps.foldl (Playing.step sink) playing).state,
        (steps.foldl (Playing.step sink) playing).refusal) =
        sink.feed playing.state (steps.filterMap Step.event?) := by
  induction steps with
  | nil =>
      intro playing running
      rw [List.foldl_nil, running]
      rfl
  | cons step rest inductionHypothesis =>
      intro playing running
      rw [List.foldl_cons]
      cases step with
      | note notice =>
          have moved : playing.step sink (.note notice) =
              { playing with notices := playing.notices.push notice } := by
            simp only [Playing.step, running]
          rw [moved]
          exact inductionHypothesis _ running
      | deliver event =>
          have moved : playing.step sink (.deliver event) =
              { state := (sink.receive playing.state event).state
                notices := playing.notices ++ (sink.receive playing.state event).notices
                refusal := (sink.receive playing.state event).refusal } := by
            simp only [Playing.step, running]
          have delivered : (Step.deliver event :: rest).filterMap Step.event? =
              event :: rest.filterMap Step.event? := rfl
          rw [moved, delivered]
          cases answer : (sink.receive playing.state event).refusal with
          | some reason =>
              rw [foldl_step_of_refusal sink rfl]
              simp only [feed, answer]
          | none =>
              rw [feed_cons_of_accepted answer]
              exact inductionHypothesis _ rfl

/-- A rendering leaves a sink in the state that its events leave it in. -/
theorem play_state (sink : Sink State Refusal) (state : State) (rendering : Rendering) :
    (sink.play state rendering).state = (sink.feed state rendering.events).1 :=
  congrArg Prod.fst (foldl_step_eq_feed sink rendering.steps { state } rfl)

/-- What comes of a rendering: the first refusal, or else the failure, or else success. -/
theorem play_result (sink : Sink State Refusal) (state : State) (rendering : Rendering) :
    (sink.play state rendering).result =
      match (sink.feed state rendering.events).2, rendering.failure with
      | some reason, _ => .error (.refused reason)
      | none, some context => .error (.unmapped context)
      | none, none => .ok () := by
  have fed : (rendering.steps.foldl (Playing.step sink) { state }).refusal =
      (sink.feed state rendering.events).2 :=
    congrArg Prod.snd (foldl_step_eq_feed sink rendering.steps { state } rfl)
  simp only [play, fed]
  cases (sink.feed state rendering.events).2 with
  | some reason => rfl
  | none => cases rendering.failure <;> rfl

/-- A sink that accepts all events is left to the failure of the rendering. -/
theorem play_result_of_accepted {sink : Sink State Refusal} {state : State} {rendering : Rendering}
    (accepted : (sink.feed state rendering.events).2 = none) :
    (sink.play state rendering).result =
      match rendering.failure with
      | some context => .error (.unmapped context)
      | none => .ok () := by
  rw [play_result, accepted]
  cases rendering.failure <;> rfl

/-! ## Recording -/

/-- A recording sink keeps all events. -/
theorem feed_recording (events : List Event) :
    ∀ kept, recording.feed kept events = (kept ++ events, none) := by
  induction events with
  | nil =>
      intro kept
      simp [feed]
  | cons event rest inductionHypothesis =>
      intro kept
      rw [feed_cons_of_accepted rfl, inductionHypothesis]
      simp [recording]

theorem play_recording_state (rendering : Rendering) :
    (recording.play #[] rendering).state.toList = rendering.events := by
  rw [play_state, feed_recording]
  simp

theorem play_recording_array (rendering : Rendering) :
    (recording.play #[] rendering).state = rendering.events.toArray := by
  rw [← play_recording_state]

theorem play_recording_result (rendering : Rendering) :
    (recording.play #[] rendering).result =
      match rendering.failure with
      | some context => .error (.unmapped context)
      | none => .ok () := by
  apply play_result_of_accepted
  rw [feed_recording]

end Sink

/-- The events of a document are those of its rendering, and are there unless the rendering
fails. -/
theorem Document.toEvents_eq (options : RenderOptions) (document : Document) :
    document.toEvents options =
      match (document.render options).failure with
      | some context => .error (.unmapped context)
      | none => .ok (document.render options).events.toArray := by
  simp only [Document.toEvents, Sink.play_recording_result]
  cases (document.render options).failure with
  | some context => rfl
  | none => rw [Sink.play_recording_array]

end TopicPress
