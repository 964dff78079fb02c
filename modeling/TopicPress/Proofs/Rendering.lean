import TopicPress.Proofs.EventTree
import TopicPress.Topic.Serialize

/-!
# What renderings deliver

A rendering is put together from smaller ones, and a failure in one part keeps the later parts from
being reached.  The events of the whole are therefore a beginning of the events that the parts
would deliver without a failure, and all of them if there is none.  Stated of lists of events and not
of trees, this also covers the parts of a section, whose end is delivered by the block after it.
-/

namespace TopicPress

namespace Rendering

/-! ## Events and failures of combinations -/

theorem andThen_of_failure {first : Rendering} {context : NodeContext}
    (failed : first.failure = some context) (second : Rendering) :
    first.andThen second = first := by
  rw [andThen, failed]

theorem events_andThen_of_success {first : Rendering} (succeeded : first.failure = none)
    (second : Rendering) : (first.andThen second).events = first.events ++ second.events := by
  rw [andThen, succeeded]
  exact List.filterMap_append

@[simp] theorem failure_andThen (first second : Rendering) :
    (first.andThen second).failure = first.failure.or second.failure := by
  cases reached : first.failure with
  | none => rw [andThen, reached]; rfl
  | some context => rw [andThen_of_failure reached, reached]; rfl

@[simp] theorem events_nothing : nothing.events = [] := rfl

@[simp] theorem failure_nothing : nothing.failure = none := rfl

@[simp] theorem events_deliver (event : Event) : (deliver event).events = [event] := rfl

@[simp] theorem failure_deliver (event : Event) : (deliver event).failure = none := rfl

@[simp] theorem events_note (notice : Notice) : (note notice).events = [] := rfl

@[simp] theorem failure_note (notice : Notice) : (note notice).failure = none := rfl

@[simp] theorem events_fail (context : NodeContext) : (fail context).events = [] := rfl

@[simp] theorem failure_fail (context : NodeContext) : (fail context).failure = some context := rfl

@[simp] theorem events_characters (text : String) :
    (characters text).events = [.characters text] := rfl

@[simp] theorem failure_characters (text : String) : (characters text).failure = none := rfl

@[simp] theorem events_finish : finish.events = [.endElement] := rfl

@[simp] theorem failure_finish : finish.failure = none := rfl

@[simp] theorem events_start (path : List String) (element : Dita.Element)
    (attributes : List Attribute) :
    (start path element attributes).events = [.start element attributes] := rfl

@[simp] theorem failure_start (path : List String) (element : Dita.Element)
    (attributes : List Attribute) : (start path element attributes).failure = none := rfl

@[simp] theorem events_ofEvents (events : List Event) : (ofEvents events).events = events := by
  change (events.map Step.deliver).filterMap Step.event? = events
  rw [List.filterMap_map]
  exact List.filterMap_some

@[simp] theorem failure_ofEvents (events : List Event) : (ofEvents events).failure = none := rfl

@[simp] theorem events_ofNotices (notices : List Notice) : (ofNotices notices).events = [] := by
  change (notices.map Step.note).filterMap Step.event? = []
  rw [List.filterMap_map]
  exact List.filterMap_eq_nil_iff.mpr (fun _ _ => rfl)

@[simp] theorem failure_ofNotices (notices : List Notice) : (ofNotices notices).failure = none :=
  rfl

@[simp] theorem failure_literal (text : Option String) : (literal text).failure = none := by
  cases text <;> rfl

/-- An element fails where its content does. -/
@[simp] theorem failure_element (path : List String) (element : Dita.Element)
    (attributes : List Attribute) (content : Rendering) :
    (Rendering.element path element attributes content).failure = content.failure := by
  rw [Rendering.element, failure_andThen, failure_andThen, failure_start, failure_finish,
    Option.none_or, Option.or_none]

@[simp] theorem failure_sequence_nil : (sequence []).failure = none := rfl

@[simp] theorem failure_sequence_cons (first : Rendering) (rest : List Rendering) :
    (sequence (first :: rest)).failure = first.failure.or (sequence rest).failure :=
  failure_andThen first (sequence rest)

/-- When the content of an element fails, its events come after the start and nothing after them. -/
theorem events_element_of_failure {content : Rendering} {context : NodeContext}
    (failed : content.failure = some context) (path : List String) (element : Dita.Element)
    (attributes : List Attribute) :
    (Rendering.element path element attributes content).events =
      .start element attributes :: content.events := by
  have inside : ((start path element attributes).andThen content).failure = some context := by
    rw [failure_andThen, failure_start, failed, Option.none_or]
  rw [Rendering.element, andThen_of_failure inside,
    events_andThen_of_success (failure_start path element attributes)]
  rfl

/-! ## Events that are yielded -/

/-- A rendering yields events: it delivers all of them if it has no failure, and in any case nothing
but a beginning of them. -/
structure Yields (rendering : Rendering) (events : List Event) : Prop where
  complete : rendering.failure = none → rendering.events = events
  begun : rendering.events <+: events

theorem Yields.of_events {rendering : Rendering} {events : List Event}
    (same : rendering.events = events) : rendering.Yields events :=
  ⟨fun _ => same, same ▸ List.prefix_refl _⟩

theorem yields_nothing : nothing.Yields [] := .of_events rfl

theorem yields_note (notice : Notice) : (note notice).Yields [] := .of_events rfl

theorem yields_fail (context : NodeContext) : (fail context).Yields [] := .of_events rfl

theorem yields_finish : finish.Yields [.endElement] := .of_events rfl

theorem yields_characters (text : String) : (characters text).Yields [.characters text] :=
  .of_events rfl

theorem yields_start (path : List String) (element : Dita.Element) (attributes : List Attribute) :
    (start path element attributes).Yields [.start element attributes] :=
  .of_events rfl

theorem Yields.andThen {first second : Rendering} {early late : List Event}
    (firstYields : first.Yields early) (secondYields : second.Yields late) :
    (first.andThen second).Yields (early ++ late) := by
  cases reached : first.failure with
  | some context =>
      rw [andThen_of_failure reached]
      refine ⟨fun succeeded => ?_, firstYields.begun.trans (List.prefix_append early late)⟩
      rw [reached] at succeeded
      cases succeeded
  | none =>
      have whole := firstYields.complete reached
      constructor
      · intro succeeded
        rw [failure_andThen, reached, Option.none_or] at succeeded
        rw [events_andThen_of_success reached, whole, secondYields.complete succeeded]
      · rw [events_andThen_of_success reached, whole]
        exact (List.prefix_append_right_inj early).mpr secondYields.begun

theorem Yields.element {content : Rendering} {inner : List Event} (contentYields : content.Yields inner)
    (path : List String) (element : Dita.Element) (attributes : List Attribute) :
    (Rendering.element path element attributes content).Yields
      (.start element attributes :: (inner ++ [.endElement])) :=
  ((yields_start path element attributes).andThen contentYields).andThen yields_finish

theorem Yields.literal (text : Option String) :
    (Rendering.literal text).Yields (EventTree.eventsAll (text.toList.map .characters)) := by
  cases text with
  | none => exact yields_nothing
  | some content => exact .of_events (by simp [Rendering.literal])

theorem yields_sequence_nil : (sequence []).Yields [] := yields_nothing

theorem Yields.sequence_cons {first : Rendering} {rest : List Rendering} {early late : List Event}
    (firstYields : first.Yields early) (restYields : (sequence rest).Yields late) :
    (sequence (first :: rest)).Yields (early ++ late) :=
  firstYields.andThen restYields

end Rendering

end TopicPress
