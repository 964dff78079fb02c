import TopicPress.Proofs.Playing
import TopicPress.Proofs.TopicTree

/-!
# The nesting of recorded events

Whoever reads a rendering event by event is never led out of the topic before its end, whether the
rendering succeeds or not.  A rendering that succeeds delivers one balanced element and then the end
of the document.  One that fails stops somewhere within the topic: nothing is closed on behalf of the
elements that are open there, so what was delivered is not a document and cannot be taken for one.
-/

namespace TopicPress

/-- Events that start a topic and have not left it after any of them. -/
structure StaysWithinTopic (events : List Event) : Prop where
  started : ∃ attributes, events.head? = some (.start .topic attributes)
  nested : ∀ begun, begun <+: events → begun ≠ [] → 1 ≤ nestingDepth begun
  unended : .endDocument ∉ events

/-- The start of a topic and any beginning of its content stay within the topic. -/
theorem StaysWithinTopic.of_content (attributes : List Attribute) {forest : List EventTree}
    {inner : List Event} (inside : inner <+: EventTree.eventsAll forest) :
    StaysWithinTopic (.start .topic attributes :: inner) where
  started := ⟨attributes, rfl⟩
  nested := by
    intro begun isBeginning notEmpty
    rcases List.prefix_cons_iff.mp isBeginning with nothing | ⟨rest, rfl, within⟩
    · exact absurd nothing notEmpty
    · have deep := EventTree.nestingDepth_nonneg_of_prefix forest rest (within.trans inside)
      rw [nestingDepth_cons]
      change 1 ≤ 1 + nestingDepth rest
      omega
  unended := by
    intro member
    rcases List.mem_cons.mp member with same | later
    · cases same
    · exact EventTree.endDocument_not_mem forest (inside.subset later)

/-- Recording a document never leaves the topic before its end.  If the recording succeeds, the events
are balanced, and they end with the end of the topic and that of the document; if it fails, they end
within the topic. -/
theorem Document.recording_staysWithinTopic (options : RenderOptions) (document : Document) :
    let played := Sink.recording.play #[] (document.render options)
    match played.result with
    | .ok () =>
      checkBalanced played.state.toList = .ok () ∧
        ∃ within, played.state.toList = within ++ [.endElement, .endDocument] ∧
          StaysWithinTopic within
    | .error (.unmapped _) => StaysWithinTopic played.state.toList
    | .error (.refused _) => False := by
  simp only [Sink.play_recording_result, Sink.play_recording_state]
  cases outcome : (document.render options).failure with
  | none =>
      have whole := events_render_of_success outcome
      constructor
      · rw [whole]
        exact checkBalanced_element _ _ _ _
      · refine ⟨.start .topic (document.topicAttributes options) ::
          EventTree.eventsAll (document.topicContent options), ?_, ?_⟩
        · rw [whole, topicTree, EventTree.events_of]
          simp
        · exact .of_content _ (List.prefix_refl _)
  | some context =>
      rcases events_render_of_failure outcome with ⟨begun, inside, delivered⟩
      rw [delivered]
      exact .of_content _ inside

end TopicPress
