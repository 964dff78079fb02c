import TopicPress.Proofs.Course
import TopicPress.Proofs.Receiving

/-!
# Runs along a course

A run with a sink goes along the course of its document.  It ends at the first node without a
counterpart, or before that at an event that the sink refuses.  On its way it leaves a notice for all
front matter that it comes to, and no other notice about front matter, unless it is the sink that
does.
-/

namespace TopicPress

namespace Sink

variable {State Refusal : Type}

/-- The nodes that a run comes to on a course: it ends at the first node without a counterpart and
at the first event that the sink refuses. -/
def passed (sink : Sink State Refusal) (state : State) : List Waypoint → List Reached
  | [] => []
  | .event event :: rest =>
    let receipt := sink.receive state event
    match receipt.refusal with
    | some _ => []
    | none => sink.passed receipt.state rest
  | .place place :: rest =>
    place :: if place.isUnsupported then [] else sink.passed state rest

/-- A run comes to a beginning of the nodes on the course. -/
theorem passed_prefix (sink : Sink State Refusal) (course : List Waypoint) :
    ∀ state, sink.passed state course <+: places course := by
  induction course with
  | nil =>
      intro state
      exact List.prefix_refl _
  | cons waypoint rest inductionHypothesis =>
      intro state
      cases waypoint with
      | event event =>
          rw [passed, places_cons_event]
          cases (sink.receive state event).refusal with
          | some reason => exact List.nil_prefix
          | none => exact inductionHypothesis _
      | place place =>
          rw [passed, places_cons_place, List.prefix_cons_inj]
          cases place.isUnsupported with
          | true => exact List.nil_prefix
          | false => exact inductionHypothesis state

/-- If no event is refused, only a node without a counterpart ends a run. -/
theorem filter_passed_of_accepted (sink : Sink State Refusal) (document : String)
    (course : List Waypoint) :
    ∀ state, (sink.feed state (Rendering.along document course).events).2 = none →
      (sink.passed state course).filter Reached.isFrontMatter =
        ((places course).takeWhile (fun place => !place.isUnsupported)).filter
          Reached.isFrontMatter := by
  induction course with
  | nil =>
      intro state accepted
      rfl
  | cons waypoint rest inductionHypothesis =>
      intro state accepted
      cases waypoint with
      | event event =>
          have events : (Rendering.along document (.event event :: rest)).events =
              event :: (Rendering.along document rest).events := rfl
          rw [events] at accepted
          rw [passed, places_cons_event]
          cases answer : (sink.receive state event).refusal with
          | some reason =>
              simp only [feed, answer] at accepted
              cases accepted
          | none =>
              rw [feed_cons_of_accepted answer] at accepted
              exact inductionHypothesis _ accepted
      | place place =>
          rw [passed, places_cons_place]
          cases supported : place.isUnsupported with
          | true =>
              have other : ¬ place.isFrontMatter = true := fun frontMatter => by
                rw [Reached.isUnsupported_of_isFrontMatter frontMatter] at supported
                cases supported
              rw [List.takeWhile_cons_of_neg (by simp [supported]), List.filter_cons_of_neg other]
              rfl
          | false =>
              have events : (Rendering.along document (.place place :: rest)).events =
                  (Rendering.along document rest).events := by
                rw [Rendering.along_cons, Waypoint.rendering, supported]
                cases place.isFrontMatter <;> rfl
              rw [events] at accepted
              rw [List.takeWhile_cons_of_pos (by simp [supported]), List.filter_cons,
                List.filter_cons]
              simp only [inductionHypothesis state accepted, Bool.false_eq_true, if_false]

/-! ## Notices on the way -/

/-- The notices that steps leave by themselves before the sink refuses an event. -/
def noted (sink : Sink State Refusal) (state : State) : List Step → List Notice
  | [] => []
  | .note notice :: rest => notice :: sink.noted state rest
  | .deliver event :: rest =>
    let receipt := sink.receive state event
    match receipt.refusal with
    | some _ => []
    | none => sink.noted receipt.state rest

/-- The sink leaves no notice about front matter itself. -/
def SilentOnFrontMatter (sink : Sink State Refusal) : Prop :=
  ∀ state event, ∀ notice ∈ (sink.receive state event).notices, notice.isFrontMatterIgnored = false

theorem silentOnFrontMatter_recording : recording.SilentOnFrontMatter := by
  intro kept event notice member
  cases member

variable {sink : Sink State Refusal}

/-- With a silent sink, the notices about front matter are those of the steps. -/
theorem filter_notices_foldl_step (silent : sink.SilentOnFrontMatter) (steps : List Step) :
    ∀ playing : Playing State Refusal, playing.refusal = none →
      (steps.foldl (Playing.step sink) playing).notices.toList.filter Notice.isFrontMatterIgnored =
        playing.notices.toList.filter Notice.isFrontMatterIgnored
          ++ (sink.noted playing.state steps).filter Notice.isFrontMatterIgnored := by
  induction steps with
  | nil =>
      intro playing running
      exact (List.append_nil _).symm
  | cons step rest inductionHypothesis =>
      intro playing running
      rw [List.foldl_cons]
      cases step with
      | note notice =>
          have moved : playing.step sink (.note notice) =
              { playing with notices := playing.notices.push notice } := by
            simp only [Playing.step, running]
          rw [moved, inductionHypothesis { playing with notices := playing.notices.push notice }
            running, Array.toList_push, List.filter_append, List.append_assoc, ← List.filter_append]
          rfl
      | deliver event =>
          have moved : playing.step sink (.deliver event) =
              { state := (sink.receive playing.state event).state
                notices := playing.notices ++ (sink.receive playing.state event).notices
                refusal := (sink.receive playing.state event).refusal } := by
            simp only [Playing.step, running]
          have nothingNoted : (sink.receive playing.state event).notices.filter
              Notice.isFrontMatterIgnored = [] :=
            List.filter_eq_nil_iff.mpr fun notice member => by
              rw [silent playing.state event notice member]
              exact Bool.false_ne_true
          rw [moved, noted]
          cases answer : (sink.receive playing.state event).refusal with
          | some reason =>
              rw [foldl_step_of_refusal sink rfl]
              simp [nothingNoted]
          | none =>
              rw [inductionHypothesis _ rfl]
              simp [nothingNoted]

theorem filter_noted (sink : Sink State Refusal) (steps : List Step) :
    ∀ state, (sink.noted state steps).filter Notice.isFrontMatterIgnored =
      sink.noted state (steps.filter Step.isMarked) := by
  induction steps with
  | nil =>
      intro state
      rfl
  | cons step rest inductionHypothesis =>
      intro state
      cases step with
      | note notice =>
          rw [noted, List.filter_cons, List.filter_cons, inductionHypothesis, Step.isMarked]
          cases notice.isFrontMatterIgnored <;> rfl
      | deliver event =>
          rw [noted, List.filter_cons_of_pos rfl, noted]
          cases (sink.receive state event).refusal with
          | some reason => rfl
          | none => exact inductionHypothesis _

/-- Along a course, a notice is left for the front matter that is come to, and for nothing else. -/
theorem noted_along (sink : Sink State Refusal) (document : String) (course : List Waypoint) :
    ∀ state, sink.noted state (Rendering.along document course).steps =
      ((sink.passed state course).filter Reached.isFrontMatter).map
        (Reached.ignoredNotice document) := by
  induction course with
  | nil =>
      intro state
      rfl
  | cons waypoint rest inductionHypothesis =>
      intro state
      cases waypoint with
      | event event =>
          have steps : (Rendering.along document (.event event :: rest)).steps =
              .deliver event :: (Rendering.along document rest).steps := rfl
          rw [steps, noted, passed]
          cases (sink.receive state event).refusal with
          | some reason => rfl
          | none => exact inductionHypothesis _
      | place place =>
          rw [passed, Rendering.along_cons, Waypoint.rendering]
          cases frontMatter : place.isFrontMatter with
          | true =>
              have supported := Reached.isUnsupported_of_isFrontMatter frontMatter
              rw [supported, List.filter_cons_of_pos frontMatter, List.map_cons]
              exact congrArg _ (inductionHypothesis state)
          | false =>
              rw [List.filter_cons_of_neg (by rw [frontMatter]; exact Bool.false_ne_true)]
              cases place.isUnsupported with
              | true => rfl
              | false => exact inductionHypothesis state

/-- The notices about front matter in a run: one for each that the run comes to on the course, in
its order. -/
theorem filter_notices_play (silent : sink.SilentOnFrontMatter) {document : String}
    {course : List Waypoint} {rendering : Rendering} (goes : rendering.GoesAlong document course)
    (state : State) :
    (sink.play state rendering).notices.toList.filter Notice.isFrontMatterIgnored =
      ((sink.passed state course).filter Reached.isFrontMatter).map
        (Reached.ignoredNotice document) := by
  have steps : rendering.steps.filter Step.isMarked = (Rendering.along document course).steps :=
    congrArg Rendering.steps goes
  rw [← noted_along, ← steps, ← filter_noted]
  exact filter_notices_foldl_step silent rendering.steps { state } rfl

end Sink

end TopicPress
