import TopicPress.Proofs.Playing
import TopicPress.Proofs.TopicTree
import TopicPress.Proofs.DeliveryProgram

/-!
# Delivering and playing

Delivering a document hands each event to the sink when the program comes to it, and stops where the
sink refuses one.  Rendering a document works all events out before, without a sink, and stops only
at a node without a rule.  Both come to the same: the program is shown to carry out the plan, rule
by rule, and carrying out a plan from a state is what playing it is.  So whatever is proved of a
rendering that is played is true of the program that never saw a plan.
-/

namespace TopicPress

open Dita (Element)

variable {State Refusal : Type}

namespace Delivery

/-! ## Carrying out a rendering -/

/-- Carry steps out one after the other. -/
def carryOutSteps (sink : Sink State Refusal) : List Step → Delivery State Refusal Unit
  | [] => pure ()
  | .note notice :: rest => do
    note notice
    carryOutSteps sink rest
  | .deliver event :: rest => do
    emit sink event
    carryOutSteps sink rest

/-- Carry out a rendering: its steps, and then its failure if it has one. -/
def carryOut (sink : Sink State Refusal) (rendering : Rendering) :
    Delivery State Refusal Unit := do
  carryOutSteps sink rendering.steps
  match rendering.failure with
  | some context => throw (.unmapped context)
  | none => pure ()

theorem carryOutSteps_append (sink : Sink State Refusal) (first second : List Step) :
    carryOutSteps sink (first ++ second) =
      (do carryOutSteps sink first; carryOutSteps sink second) := by
  induction first with
  | nil => simp [carryOutSteps]
  | cons step rest inductionHypothesis =>
      cases step <;> simp [carryOutSteps, inductionHypothesis]

/-- The second of two renderings is carried out when the first has been, and is not begun
otherwise. -/
@[simp] theorem carryOut_andThen (sink : Sink State Refusal) (first second : Rendering) :
    carryOut sink (first.andThen second) = (do carryOut sink first; carryOut sink second) := by
  rw [Rendering.andThen]
  cases failed : first.failure with
  | some context => simp [carryOut, failed]
  | none => simp [carryOut, failed, carryOutSteps_append]

@[simp] theorem carryOut_nothing (sink : Sink State Refusal) :
    carryOut sink .nothing = pure () := by
  simp [carryOut, Rendering.nothing, carryOutSteps]

@[simp] theorem carryOut_note (sink : Sink State Refusal) (notice : Notice) :
    carryOut sink (.note notice) = note notice := by
  simp [carryOut, Rendering.note, carryOutSteps]

@[simp] theorem carryOut_deliver (sink : Sink State Refusal) (event : Event) :
    carryOut sink (.deliver event) = emit sink event := by
  simp [carryOut, Rendering.deliver, carryOutSteps]

@[simp] theorem carryOut_characters (sink : Sink State Refusal) (text : String) :
    carryOut sink (.characters text) = emit sink (.characters text) :=
  carryOut_deliver sink _

@[simp] theorem carryOut_finish (sink : Sink State Refusal) :
    carryOut sink .finish = emit sink .endElement :=
  carryOut_deliver sink _

@[simp] theorem carryOut_fail (sink : Sink State Refusal) (context : NodeContext) :
    carryOut sink (.fail context) = throw (.unmapped context) := by
  simp [carryOut, Rendering.fail, carryOutSteps]

@[simp] theorem carryOut_start (sink : Sink State Refusal) (path : List String)
    (element : Element) (attributes : List Attribute) :
    carryOut sink (.start path element attributes) = start sink path element attributes := by
  simp [carryOut, Rendering.start, carryOutSteps, start]

@[simp] theorem carryOut_element (sink : Sink State Refusal) (path : List String)
    (element : Element) (attributes : List Attribute) (content : Rendering) :
    carryOut sink (.element path element attributes content) = (do
      start sink path element attributes
      carryOut sink content
      emit sink .endElement) := by
  simp [Rendering.element]

@[simp] theorem carryOut_sequence_nil (sink : Sink State Refusal) :
    carryOut sink (.sequence []) = pure () :=
  carryOut_nothing sink

@[simp] theorem carryOut_sequence_cons (sink : Sink State Refusal) (first : Rendering)
    (rest : List Rendering) :
    carryOut sink (.sequence (first :: rest)) = (do
      carryOut sink first
      carryOut sink (.sequence rest)) :=
  carryOut_andThen sink first (.sequence rest)

/-! ## Lists of events -/

theorem carryOut_ofEvents_append (sink : Sink State Refusal) (first second : List Event) :
    carryOut sink (.ofEvents (first ++ second)) = (do
      carryOut sink (.ofEvents first)
      carryOut sink (.ofEvents second)) := by
  simp [carryOut, Rendering.ofEvents, carryOutSteps_append]

@[simp] theorem carryOut_ofEvents_nil (sink : Sink State Refusal) :
    carryOut sink (.ofEvents []) = pure () :=
  carryOut_nothing sink

@[simp] theorem carryOut_ofEvents_cons (sink : Sink State Refusal) (event : Event)
    (rest : List Event) :
    carryOut sink (.ofEvents (event :: rest)) = (do
      emit sink event
      carryOut sink (.ofEvents rest)) := by
  rw [← List.singleton_append, carryOut_ofEvents_append]
  simp [carryOut, Rendering.ofEvents, carryOutSteps]

@[simp] theorem carryOut_ofNotices_cons (sink : Sink State Refusal) (notice : Notice)
    (rest : List Notice) :
    carryOut sink (.ofNotices (notice :: rest)) = (do
      note notice
      carryOut sink (.ofNotices rest)) := by
  simp [carryOut, Rendering.ofNotices, carryOutSteps]

/-- What is done for one item after the other, when it delivers events for each. -/
theorem forM_eq_carryOut {sink : Sink State Refusal} {Item : Type}
    {body : Item → Delivery State Refusal Unit} {events : Item → List Event}
    (each : ∀ item, body item = carryOut sink (.ofEvents (events item))) (items : List Item) :
    items.forM body = carryOut sink (.ofEvents (items.flatMap events)) := by
  induction items with
  | nil => simp
  | cons item rest inductionHypothesis =>
      rw [List.forM_eq_forM] at inductionHypothesis ⊢
      rw [List.forM_cons, inductionHypothesis, each, List.flatMap_cons, carryOut_ofEvents_append]

/-- Notices that are left for some items, one item after the other. -/
theorem forM_note_eq_carryOut (sink : Sink State Refusal) {Item : Type} (chosen : Item → Bool)
    (left : Item → Notice) (items : List Item) :
    items.forM (fun item => if chosen item then note (left item) else pure ()) =
      carryOut sink (.ofNotices ((items.filter chosen).map left)) := by
  induction items with
  | nil => exact (carryOut_nothing sink).symm
  | cons item rest inductionHypothesis =>
      rw [List.forM_eq_forM] at inductionHypothesis ⊢
      rw [List.forM_cons, inductionHypothesis]
      cases choice : chosen item with
      | true =>
          rw [List.filter_cons_of_pos choice, List.map_cons, carryOut_ofNotices_cons]
          rfl
      | false =>
          rw [List.filter_cons_of_neg (by simp [choice])]
          exact pure_bind () _

end Delivery

open Delivery

/-! ## Nodes -/

private theorem Node.deliver_of_children {sink : Sink State Refusal} {document : String}
    {children : List Node}
    (inChildren : ∀ path, Node.deliverAll sink document path children =
      carryOut sink (Node.renderAll document path children))
    (path : List String) (kind : NodeKind) (position : Option SourcePosition) :
    (⟨kind, position, children⟩ : Node).deliver sink document path =
      carryOut sink ((⟨kind, position, children⟩ : Node).render document path) := by
  rw [Node.deliver, Node.render]
  cases kind.rule with
  | element container attributes literal =>
      cases literal <;> simp [inChildren, Rendering.literal]
  | emptyElement container attributes => simp
  | image href title =>
      cases described : children.isEmpty <;> cases titled : title.isEmpty <;>
        simp [inChildren, titled]
  | characters text => simp
  | ignored => simp
  | unmapped => simp

/-- Delivering nodes carries out their rendering. -/
theorem Node.deliverAll_eq_carryOut (sink : Sink State Refusal) (document : String)
    (nodes : List Node) :
    ∀ path, Node.deliverAll sink document path nodes =
      carryOut sink (Node.renderAll document path nodes) := by
  induction nodes using Node.forestInduction with
  | nil =>
      intro path
      rw [Node.deliverAll, Node.renderAll, carryOut_nothing]
  | cons kind position children rest inChildren inRest =>
      intro path
      rw [Node.deliverAll, Node.renderAll, carryOut_andThen, inRest path,
        Node.deliver_of_children inChildren path kind position]

theorem Node.deliver_eq_carryOut (sink : Sink State Refusal) (document : String)
    (path : List String) (node : Node) :
    node.deliver sink document path = carryOut sink (node.render document path) := by
  cases node with
  | mk kind position children =>
      exact Node.deliver_of_children (Node.deliverAll_eq_carryOut sink document children) path kind
        position

theorem deliverTitle_eq_carryOut (sink : Sink State Refusal) (document : String)
    (path : List String) (heading : Node) :
    deliverTitle sink document path heading =
      carryOut sink (renderTitle document path heading) := by
  rw [deliverTitle, renderTitle, carryOut_element, Node.deliverAll_eq_carryOut]

/-! ## The prolog -/

namespace Prolog

theorem deliverTexts_eq_carryOut (sink : Sink State Refusal) (header : FrontMatter)
    (element : Element) :
    deliverTexts sink header element = carryOut sink (.ofEvents (texts header element)) := by
  apply forM_eq_carryOut
  intro value
  cases empty : value.asText.isEmpty <;> simp [textElement, empty]

theorem deliverAttributes_eq_carryOut (sink : Sink State Refusal) (header : FrontMatter)
    (element : Element) (name : String) :
    deliverAttributes sink header element name =
      carryOut sink (.ofEvents (attributes header element name)) := by
  apply forM_eq_carryOut
  intro value
  simp [attributeElement]

/-- Items that are passed over might as well have nothing to them. -/
private theorem flatMap_filter_eq {Item Result : Type} (chosen : Item → Bool)
    (results : Item → List Result) (items : List Item) :
    (items.filter chosen).flatMap results =
      items.flatMap (fun item => if chosen item then results item else []) := by
  induction items with
  | nil => rfl
  | cons item rest inductionHypothesis =>
      rw [List.flatMap_cons, ← inductionHypothesis, List.filter_cons]
      split <;> simp

/-- What is done for the entries that are not written elsewhere. -/
private theorem plainData_eq_carryOut (sink : Sink State Refusal) (options : RenderOptions)
    (header : FrontMatter) :
    (header.entries.forM fun entry =>
      if !isKnown options entry.1 || isDemoted options header entry.1 then
        entry.2.forM fun value => do
          emit sink (.start .data [⟨"name", entry.1⟩, ⟨"value", value.asText⟩])
          emit sink .endElement
      else pure ()) =
      carryOut sink (.ofEvents (plainData options header)) := by
  rw [plainData, flatMap_filter_eq]
  apply forM_eq_carryOut
  intro entry
  cases !isKnown options entry.1 || isDemoted options header entry.1 with
  | true =>
      apply forM_eq_carryOut
      intro value
      simp [dataElement]
  | false => simp

theorem deliver_eq_carryOut (sink : Sink State Refusal) (options : RenderOptions)
    (header : FrontMatter) :
    deliver sink options header =
      carryOut sink ((Rendering.ofNotices (notices options header)).andThen
        (.ofEvents (events options header))) := by
  rw [deliver, forM_note_eq_carryOut sink, plainData_eq_carryOut]
  simp only [deliverTexts_eq_carryOut, deliverAttributes_eq_carryOut, events, notices,
    metadataGroup, keywordGroup]
  cases (structural? header .audience).isSome || (structural? header .category).isSome
      || (structural? header .keyword).isSome <;>
    cases (structural? header .keyword).isSome <;> simp [carryOut_ofEvents_append]

end Prolog

theorem deliverProlog_eq_carryOut (sink : Sink State Refusal) (options : RenderOptions)
    (path : List String) (header : FrontMatter) :
    deliverProlog sink options path header =
      carryOut sink (renderProlog options path header) := by
  simp [deliverProlog, renderProlog, Prolog.deliver_eq_carryOut]

/-! ## The body and the topic -/

theorem deliverBlocks_eq_carryOut (sink : Sink State Refusal) (document : String)
    (path : List String) (nodes : List Node) :
    ∀ inSection, deliverBlocks sink document path inSection nodes =
      carryOut sink (renderBlocks document path inSection nodes) := by
  induction nodes with
  | nil =>
      intro inSection
      cases inSection <;> simp [deliverBlocks, renderBlocks]
  | cons node rest inductionHypothesis =>
      intro inSection
      rw [deliverBlocks, renderBlocks]
      cases node.kind.isHeading with
      | true =>
          cases inSection <;> simp [deliverTitle_eq_carryOut, inductionHypothesis]
      | false =>
          simp [Node.deliver_eq_carryOut, inductionHypothesis]

/-- Delivering a document carries out its rendering. -/
theorem Document.deliver_eq_carryOut (sink : Sink State Refusal) (options : RenderOptions)
    (document : Document) :
    document.deliver sink options = carryOut sink (document.render options) := by
  simp only [deliver, render, renderTopicTitle, renderTopicProlog, renderTopicBody]
  cases document.topicId? options <;> cases document.firstHeading? <;>
    cases document.frontMatter? <;> cases document.bodyBlocks.isEmpty <;>
    simp [deliverTitle_eq_carryOut, deliverProlog_eq_carryOut, deliverBlocks_eq_carryOut]

/-! ## Runs -/

namespace Delivery

/-- What is answered at the end of a program that has come as far as `playing`. -/
def answer (playing : Sink.Playing State Refusal) :
    Except (RenderError Refusal) Unit × Delivered State :=
  ((match playing.refusal with
    | some reason => .error (.refused reason)
    | none => .ok ()), ⟨playing.state, playing.notices⟩)

theorem run_bind_of_ok {first : Delivery State Refusal Unit} {before after : Delivered State}
    (succeeded : first.run.run before = (.ok (), after)) (next : Delivery State Refusal Unit) :
    (do first; next : Delivery State Refusal Unit).run.run before = next.run.run after := by
  simp only [ExceptT.run_bind, StateT.run_bind, succeeded]
  rfl

/-- Nothing is done after an error. -/
theorem run_bind_of_error {first : Delivery State Refusal Unit} {before after : Delivered State}
    {error : RenderError Refusal} (failed : first.run.run before = (.error error, after))
    (next : Delivery State Refusal Unit) :
    (do first; next : Delivery State Refusal Unit).run.run before = (.error error, after) := by
  simp only [ExceptT.run_bind, StateT.run_bind, failed]
  rfl

theorem run_note (notice : Notice) (delivered : Delivered State) :
    (note notice : Delivery State Refusal Unit).run.run delivered =
      (.ok (), { delivered with notices := delivered.notices.push notice }) :=
  rfl

theorem run_emit (sink : Sink State Refusal) (event : Event) (delivered : Delivered State) :
    (emit sink event).run.run delivered =
      answer ⟨(sink.receive delivered.state event).state,
        delivered.notices ++ (sink.receive delivered.state event).notices,
        (sink.receive delivered.state event).refusal⟩ := by
  change (match (sink.receive delivered.state event).refusal with
    | some reason => throw (.refused reason)
    | none => pure () : Delivery State Refusal Unit).run.run
      ⟨(sink.receive delivered.state event).state,
        delivered.notices ++ (sink.receive delivered.state event).notices⟩ = _
  rw [answer]
  cases (sink.receive delivered.state event).refusal <;> rfl

/-- Carrying out steps leaves what playing them leaves, and ends early at the same refusal. -/
theorem run_carryOutSteps (sink : Sink State Refusal) (steps : List Step) :
    ∀ playing : Sink.Playing State Refusal, playing.refusal = none →
      (carryOutSteps sink steps).run.run ⟨playing.state, playing.notices⟩ =
        answer (steps.foldl (Sink.Playing.step sink) playing) := by
  -- As long as nothing is refused, the program stands in the state and the notices of the playing.
  induction steps with
  | nil =>
      intro playing running
      rw [List.foldl_nil, answer, running]
      rfl
  | cons step rest inductionHypothesis =>
      intro playing running
      rw [List.foldl_cons]
      cases step with
      | note notice =>
          have moved : playing.step sink (.note notice) =
              { playing with notices := playing.notices.push notice } := by
            simp only [Sink.Playing.step, running]
          rw [carryOutSteps, run_bind_of_ok (run_note notice _), moved]
          exact inductionHypothesis { playing with notices := playing.notices.push notice } running
      | deliver event =>
          have moved : playing.step sink (.deliver event) =
              { state := (sink.receive playing.state event).state
                notices := playing.notices ++ (sink.receive playing.state event).notices
                refusal := (sink.receive playing.state event).refusal } := by
            simp only [Sink.Playing.step, running]
          rw [carryOutSteps, moved]
          cases received : (sink.receive playing.state event).refusal with
          | some reason =>
              have ended := run_emit sink event ⟨playing.state, playing.notices⟩
              simp only [received] at ended
              rw [run_bind_of_error ended, Sink.foldl_step_of_refusal sink rfl]
              rfl
          | none =>
              have went := run_emit sink event ⟨playing.state, playing.notices⟩
              simp only [received] at went
              rw [run_bind_of_ok went]
              exact inductionHypothesis _ rfl

end Delivery

/-- Delivering a document to a sink is playing its rendering. -/
theorem Document.serialize_eq_play (sink : Sink State Refusal) (state : State)
    (options : RenderOptions) (document : Document) :
    document.serialize sink state options = sink.play state (document.render options) := by
  have carriedOut := run_carryOutSteps sink (document.render options).steps { state } rfl
  rw [answer] at carriedOut
  rw [serialize, deliver_eq_carryOut, carryOut, Sink.play]
  cases refusal : ((document.render options).steps.foldl (Sink.Playing.step sink)
      { state }).refusal with
  | some reason =>
      rw [refusal] at carriedOut
      rw [run_bind_of_error carriedOut]
  | none =>
      rw [refusal] at carriedOut
      rw [run_bind_of_ok carriedOut]
      cases (document.render options).failure <;> rfl

end TopicPress
