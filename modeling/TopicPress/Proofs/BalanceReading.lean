import TopicPress.Proofs.BalanceFault
import TopicPress.Proofs.EventReading

/-!
# What the balance check lets through

The check counts open elements, and a reader puts the events together to trees.  A list that passes
the check can be read up to the end of the document: where the count lets an element end, there is one
to close.  The check asks for more than that, since nothing but one element may stand outside the
elements.  So the lists that pass are the events of at most one element, with the end of the document
after them or without it.
-/

namespace TopicPress

/-- The end of the document, or nothing. -/
def Event.IsEnding (events : List Event) : Prop := events = [] ∨ events = [.endDocument]

/-- One element, or nothing. -/
def EventTree.AtMostOneElement (forest : List EventTree) : Prop :=
  forest = [] ∨ ∃ name classValue attributes children,
    forest = [.element name classValue attributes children]

namespace Balance

open EventTree (readOn)

/-- Events that pass, with no element open in the end, are read up to the end of the document. -/
theorem Progress.exists_read_of_run (events : List Event) :
    ∀ {progress next : Progress} {start : Nat} (level : List EventTree)
      (outer : List EventTree.Opened), progress.run start events = .ok next → next.depth = 0 →
        progress.ended = false → progress.depth = outer.length →
          ∃ content ending forest, events = content ++ ending ∧ Event.IsEnding ending ∧
            readOn level outer content = some forest := by
  -- The reader keeps as many elements open as the check counts; the trees it keeps do not matter.
  induction events with
  | nil =>
      intro progress next start level outer passed closed unended depth
      cases passed
      have nothingOpen : outer = [] := List.length_eq_zero_iff.mp (depth.symm.trans closed)
      exact ⟨[], [], level.reverse, rfl, Or.inl rfl, by rw [nothingOpen]; rfl⟩
  | cons event rest inductionHypothesis =>
      intro progress next start level outer passed closed unended depth
      rw [Progress.run] at passed
      cases outcome : progress.step start event with
      | error fault =>
          rw [outcome] at passed
          cases passed
      | ok between =>
          rw [outcome] at passed
          cases event with
          | startElement name classValue attributes =>
              rw [step_startElement start unended] at outcome
              split at outcome
              · cases outcome
              · cases outcome
                have inside : progress.depth + 1 =
                    (⟨name, classValue, attributes, level⟩ :: outer :
                      List EventTree.Opened).length := by
                  rw [List.length_cons, depth]
                rcases inductionHypothesis _ _ passed closed unended inside with
                  ⟨content, ending, forest, rfl, ends, read⟩
                exact ⟨.startElement name classValue attributes :: content, ending, forest, rfl,
                  ends, read⟩
          | characters text =>
              rw [step_characters start unended] at outcome
              split at outcome
              · cases outcome
              · cases outcome
                rcases inductionHypothesis _ _ passed closed unended depth with
                  ⟨content, ending, forest, rfl, ends, read⟩
                exact ⟨.characters text :: content, ending, forest, rfl, ends, read⟩
          | endElement =>
              rw [step_endElement start unended] at outcome
              split at outcome
              · cases outcome
              · rename_i inElement
                cases outcome
                cases outer with
                | nil => exact absurd depth inElement
                | cons innermost around =>
                    have outside : progress.depth - 1 = around.length := by
                      rw [depth, List.length_cons, Nat.add_sub_cancel]
                    rcases inductionHypothesis _ _ passed closed unended outside with
                      ⟨content, ending, forest, rfl, ends, read⟩
                    exact ⟨.endElement :: content, ending, forest, rfl, ends, read⟩
          | endDocument =>
              rw [step_endDocument start unended] at outcome
              split at outcome
              · rename_i outermost
                cases outcome
                have nothingOpen : outer = [] :=
                  List.length_eq_zero_iff.mp (depth.symm.trans outermost)
                cases rest with
                | nil =>
                    exact ⟨[], [.endDocument], level.reverse, rfl, Or.inr rfl,
                      by rw [nothingOpen]; rfl⟩
                | cons later others =>
                    dsimp only at passed
                    rw [Progress.run, step_of_ended _ rfl] at passed
                    cases passed
              · cases outcome

/-- Outside the elements nothing passes, and no element after the first. -/
theorem Progress.atMostOneElement_of_run {forest : List EventTree} {ending : List Event}
    {progress : Progress}
    (passed : ({} : Progress).run 0 (EventTree.eventsAll forest ++ ending) = .ok progress) :
    EventTree.AtMostOneElement forest := by
  cases forest with
  | nil => exact Or.inl rfl
  | cons tree rest =>
      cases tree with
      | characters text => cases passed
      | element name classValue attributes children =>
          rcases run_element name classValue attributes children
            (EventTree.eventsAll rest ++ ending) with ⟨index, after⟩
          rw [EventTree.eventsAll_cons, List.append_assoc, after] at passed
          cases rest with
          | nil => exact Or.inr ⟨name, classValue, attributes, children, rfl⟩
          | cons second others => cases second <;> cases passed

end Balance

/-- The check lets through the events of at most one element, with the end of the document after them
or without it, and nothing else. -/
theorem checkBalanced_eq_ok_iff {events : List Event} :
    checkBalanced events = .ok () ↔ ∃ forest ending,
      events = EventTree.eventsAll forest ++ ending ∧ Event.IsEnding ending ∧
        EventTree.AtMostOneElement forest := by
  constructor
  · intro balanced
    rw [checkBalanced] at balanced
    cases passed : ({} : Balance.Progress).run 0 events with
    | error fault =>
        rw [passed] at balanced
        cases balanced
    | ok progress =>
        rw [passed] at balanced
        by_cases closed : progress.depth = 0
        · rcases Balance.Progress.exists_read_of_run events [] [] passed closed rfl rfl with
            ⟨content, ending, forest, rfl, ends, read⟩
          have written := EventTree.forest?_eq_some_iff.mp read
          rw [written] at passed ⊢
          exact ⟨forest, ending, rfl, ends, Balance.Progress.atMostOneElement_of_run passed⟩
        · simp only [if_neg closed] at balanced
          cases balanced
  · rintro ⟨forest, ending, rfl, rfl | rfl, rfl | ⟨name, classValue, attributes, children, rfl⟩⟩
    · rfl
    · rcases Balance.Progress.run_element name classValue attributes children [] with ⟨index, passed⟩
      rw [EventTree.eventsAll_cons, EventTree.eventsAll_nil, List.append_nil, checkBalanced, passed]
      rfl
    · rfl
    · rw [EventTree.eventsAll_cons, EventTree.eventsAll_nil, List.append_nil]
      exact checkBalanced_element name classValue attributes children

end TopicPress
