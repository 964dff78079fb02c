import TopicPress.Document.Basic
import TopicPress.Event.Sink

/-!
# Renderings

What rendering a piece of a document comes to: the events to deliver with the notices left between
them, and, when a node cannot be rendered, where that was.  A rendering is a plan; it says nothing
of a sink.  `Sink.play` carries a plan out and stops at the first event that the sink refuses.
-/

namespace TopicPress

/-- Where a node was found that cannot be rendered. -/
structure NodeContext where
  document : String
  node : String
  position : Option SourcePosition
  /-- The names of the open elements, outermost first, with slashes between them. -/
  path : String
  deriving DecidableEq

namespace NodeContext

def message (context : NodeContext) : String :=
  let place := match context.position with
    | some position => ":" ++ toString position.line ++ ":" ++ toString position.column
    | none => ""
  context.document ++ place ++ " (" ++ context.node ++ ") in " ++ context.path

end NodeContext

/-- One step of a rendering. -/
inductive Step where
  | deliver (event : Event)
  | note (notice : Notice)
  deriving DecidableEq

namespace Step

def event? : Step → Option Event
  | deliver event => some event
  | note _ => none

def notice? : Step → Option Notice
  | deliver _ => none
  | note notice => some notice

end Step

/-- The steps up to the end or up to the first node that cannot be rendered. -/
structure Rendering where
  steps : List Step := []
  failure : Option NodeContext := none
  deriving DecidableEq

namespace Rendering

def nothing : Rendering := {}

def deliver (event : Event) : Rendering := { steps := [.deliver event] }

def note (notice : Notice) : Rendering := { steps := [.note notice] }

def fail (context : NodeContext) : Rendering := { failure := some context }

/-- The second rendering after the first, if the first has no failure. -/
def andThen (first second : Rendering) : Rendering :=
  match first.failure with
  | some _ => first
  | none => { steps := first.steps ++ second.steps, failure := second.failure }

/-- Renderings one after the other. -/
def sequence (parts : List Rendering) : Rendering :=
  parts.foldr andThen nothing

def ofEvents (events : List Event) : Rendering := { steps := events.map .deliver }

def ofNotices (notices : List Notice) : Rendering := { steps := notices.map .note }

/-- The events of a rendering in order. -/
def events (rendering : Rendering) : List Event := rendering.steps.filterMap Step.event?

/-- The notices that a rendering leaves by itself, in order. -/
def notices (rendering : Rendering) : List Notice := rendering.steps.filterMap Step.notice?

end Rendering

/-- Why a rendering was not carried out to its end. -/
inductive RenderError (Refusal : Type) where
  | unmapped (context : NodeContext)
  | refused (reason : Refusal)

namespace RenderError

variable {Refusal : Type}

def message (describe : Refusal → String) : RenderError Refusal → String
  | unmapped context => "No DITA mapping for node at " ++ context.message
  | refused reason => "Event sink failed: " ++ describe reason

end RenderError

namespace Sink

variable {State Refusal : Type}

/-- How far a list of steps has been carried out. -/
structure Playing (State Refusal : Type) where
  state : State
  notices : Array Notice := #[]
  refusal : Option Refusal := none

/-- Carry out one more step, unless an event has been refused. -/
def Playing.step (sink : Sink State Refusal) (playing : Playing State Refusal) (step : Step) :
    Playing State Refusal :=
  match playing.refusal with
  | some _ => playing
  | none =>
    match step with
    | .note notice => { playing with notices := playing.notices.push notice }
    | .deliver event =>
      let receipt := sink.receive playing.state event
      { state := receipt.state
        notices := playing.notices ++ receipt.notices
        refusal := receipt.refusal }

/-- What came of a rendering. -/
structure Played (State Refusal : Type) where
  state : State
  notices : Array Notice
  result : Except (RenderError Refusal) Unit

/-- Carry out a rendering with a sink in the state `state`. -/
def play (sink : Sink State Refusal) (state : State) (rendering : Rendering) :
    Played State Refusal :=
  let playing := rendering.steps.foldl (Playing.step sink) { state }
  let result := match playing.refusal with
    | some reason => .error (.refused reason)
    | none =>
      match rendering.failure with
      | some context => .error (.unmapped context)
      | none => .ok ()
  { state := playing.state, notices := playing.notices, result }

end Sink

end TopicPress
