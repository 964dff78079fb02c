import TopicPress.Event.Basic
import TopicPress.Notice

/-!
# Event sinks

A sink is a state machine that is given events one by one and may refuse any of them.  Refusing is
not the same as staying where it was: the state after a refusal is the sink's own affair, which is
why the answer to an event always holds a state.
-/

namespace TopicPress

/-- What a sink answers to one event. -/
structure Receipt (State Refusal : Type) where
  state : State
  refusal : Option Refusal := none
  notices : List Notice := []

/-- A receiver of events with its own state and its own reasons to refuse. -/
structure Sink (State Refusal : Type) where
  receive : State → Event → Receipt State Refusal

namespace Sink

/-- Keeps every event and refuses none. -/
def recording : Sink (Array Event) Empty where
  receive events event := { state := events.push event }

/-- The reason of a recording sink that is full: the number of the event it refuses. -/
structure Full where
  index : Nat
  deriving DecidableEq

def Full.message (full : Full) : String :=
  "sink refused event " ++ toString full.index

/-- Keeps the first `capacity` events and refuses every later one. -/
def recordingAtMost (capacity : Nat) : Sink (Array Event) Full where
  receive events event :=
    if events.size < capacity then { state := events.push event }
    else { state := events, refusal := some ⟨events.size⟩ }

end Sink

end TopicPress
