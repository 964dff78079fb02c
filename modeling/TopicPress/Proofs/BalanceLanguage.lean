import TopicPress.Proofs.BalanceReading

/-!
# Lists that can become balanced

The balance check reads a list from its beginning and knows nothing of what comes later.  As long as it
lets events through, the list can still become balanced: the elements that are open need only be
closed.  When it stops at an event, nothing that may come later helps.  So the event that it stops at is
the first one with which the list is lost, and a list in which it merely misses some ends is not lost
at all.
-/

namespace TopicPress

namespace Event

/-- At most one element with everything inside it, and the end of the document after it or not. -/
def IsBalanced (events : List Event) : Prop :=
  ∃ forest ending, events = EventTree.eventsAll forest ++ ending ∧ IsEnding ending ∧
    EventTree.AtMostOneElement forest

/-- With some events after them, the events are balanced. -/
def CanBeBalanced (events : List Event) : Prop :=
  ∃ later, checkBalanced (events ++ later) = .ok ()

end Event

namespace Balance

/-! ## What one event does -/

/-- What has been seen after an event that is let through. -/
def Progress.after (progress : Progress) : Event → Progress
  | .startElement _ _ _ => { progress with depth := progress.depth + 1 }
  | .characters _ => progress
  | .endElement =>
    { progress with
      depth := progress.depth - 1
      rootClosed := progress.rootClosed || progress.depth == 1 }
  | .endDocument => { progress with ended := true }

/-- No event is let through after the end of the document, no element ends unless one is open, and
the document does not end while one is. -/
theorem Progress.of_step {progress next : Progress} {index : Nat} {event : Event}
    (passed : progress.step index event = .ok next) :
    progress.ended = false ∧ next = progress.after event ∧
      (event = .endElement → progress.depth ≠ 0) ∧ (event = .endDocument → progress.depth = 0) := by
  cases isEnded : progress.ended with
  | true =>
      rw [step_of_ended index isEnded] at passed
      cases passed
  | false =>
      refine ⟨rfl, ?_⟩
      cases event with
      | startElement name classValue attributes =>
          rw [step_startElement index isEnded] at passed
          split at passed
          · cases passed
          · cases passed
            exact ⟨rfl, by simp, by simp⟩
      | characters text =>
          rw [step_characters index isEnded] at passed
          split at passed
          · cases passed
          · cases passed
            exact ⟨rfl, by simp, by simp⟩
      | endElement =>
          rw [step_endElement index isEnded] at passed
          split at passed
          · cases passed
          · rename_i inElement
            cases passed
            exact ⟨rfl, fun _ => inElement, by simp⟩
      | endDocument =>
          rw [step_endDocument index isEnded] at passed
          split at passed
          · rename_i outermost
            cases passed
            exact ⟨rfl, by simp, fun _ => outermost⟩
          · cases passed

/-- The check counts the elements that are open. -/
theorem Progress.depth_of_step {progress next : Progress} {index : Nat} {event : Event}
    (passed : progress.step index event = .ok next) :
    (next.depth : Int) = progress.depth + event.depthChange := by
  rcases of_step passed with ⟨_, rfl, inElement, _⟩
  cases event with
  | startElement name classValue attributes => exact Int.natCast_succ progress.depth
  | characters text => exact (Int.add_zero _).symm
  | endElement =>
      have positive := inElement rfl
      simp only [Progress.after, Event.depthChange]
      omega
  | endDocument => exact (Int.add_zero _).symm

/-- No element is open when the document has ended. -/
def Progress.Consistent (progress : Progress) : Prop :=
  progress.ended = true → progress.depth = 0

theorem Progress.consistent_of_step {progress next : Progress} {index : Nat} {event : Event}
    (passed : progress.step index event = .ok next) : next.Consistent := by
  intro ended
  rcases of_step passed with ⟨unended, rfl, _, outermost⟩
  cases event with
  | endDocument => exact outermost rfl
  | startElement name classValue attributes => exact absurd ended (Bool.eq_false_iff.mp unended)
  | characters text => exact absurd ended (Bool.eq_false_iff.mp unended)
  | endElement => exact absurd ended (Bool.eq_false_iff.mp unended)

/-! ## What a list of events does -/

theorem Progress.depth_of_run (events : List Event) :
    ∀ {progress next : Progress} {start : Nat}, progress.run start events = .ok next →
      (next.depth : Int) = progress.depth + nestingDepth events := by
  induction events with
  | nil =>
      intro progress next start passed
      cases passed
      simp
  | cons event rest inductionHypothesis =>
      intro progress next start passed
      rw [Progress.run] at passed
      cases outcome : progress.step start event with
      | error fault =>
          rw [outcome] at passed
          cases passed
      | ok between =>
          rw [outcome] at passed
          rw [inductionHypothesis passed, depth_of_step outcome, nestingDepth_cons, Int.add_assoc]

theorem Progress.Consistent.of_run (events : List Event) :
    ∀ {progress next : Progress} {start : Nat}, progress.Consistent →
      progress.run start events = .ok next → next.Consistent := by
  induction events with
  | nil =>
      intro progress next start consistent passed
      cases passed
      exact consistent
  | cons event rest inductionHypothesis =>
      intro progress next start consistent passed
      rw [Progress.run] at passed
      cases outcome : progress.step start event with
      | error fault =>
          rw [outcome] at passed
          cases passed
      | ok between =>
          rw [outcome] at passed
          exact inductionHypothesis (consistent_of_step outcome) passed

/-- Where the check has come through some events, it goes on with the ones after them. -/
theorem Progress.run_append (first : List Event) :
    ∀ {progress next : Progress} {start : Nat}, progress.run start first = .ok next →
      ∀ second, progress.run start (first ++ second) = next.run (start + first.length) second := by
  induction first with
  | nil =>
      intro progress next start passed second
      cases passed
      rfl
  | cons event rest inductionHypothesis =>
      intro progress next start passed second
      rw [Progress.run] at passed
      cases outcome : progress.step start event with
      | error fault =>
          rw [outcome] at passed
          cases passed
      | ok between =>
          rw [outcome] at passed
          have place : start + 1 + rest.length = start + (event :: rest).length := by
            rw [List.length_cons]
            omega
          rw [List.cons_append, Progress.run, outcome]
          simp only [inductionHypothesis passed second, place]

/-- The elements that are open can be closed. -/
theorem Progress.exists_run_ends (depth : Nat) :
    ∀ {progress : Progress} {start : Nat}, progress.ended = false → progress.depth = depth →
      ∃ next, progress.run start (List.replicate depth .endElement) = .ok next ∧
        next.depth = 0 := by
  induction depth with
  | zero =>
      intro progress start unended noneOpen
      exact ⟨progress, rfl, noneOpen⟩
  | succ depth inductionHypothesis =>
      intro progress start unended open_
      have inElement : progress.depth ≠ 0 := by omega
      rw [List.replicate_succ, Progress.run, step_endElement start unended, if_neg inElement]
      exact inductionHypothesis unended (by simp [open_])

/-- Events that are let through can become balanced. -/
theorem canBeBalanced_of_run {events : List Event} {progress : Progress}
    (passed : ({} : Progress).run 0 events = .ok progress) : Event.CanBeBalanced events := by
  have consistent : ({} : Progress).Consistent := fun _ => rfl
  have atEnd := Progress.Consistent.of_run events consistent passed
  cases isEnded : progress.ended with
  | true =>
      refine ⟨[], ?_⟩
      rw [List.append_nil, checkBalanced, passed]
      exact if_pos (atEnd isEnded)
  | false =>
      rcases Progress.exists_run_ends progress.depth isEnded rfl with ⟨next, closes, closed⟩
      refine ⟨List.replicate progress.depth .endElement, ?_⟩
      rw [checkBalanced, Progress.run_append events passed, closes]
      exact if_pos closed

/-- With an event that is not let through, they cannot. -/
theorem not_canBeBalanced_of_step {before : List Event} {between : Progress} {event : Event}
    {fault : BalanceError} (passed : ({} : Progress).run 0 before = .ok between)
    (fails : between.step before.length event = .error fault) :
    ¬ Event.CanBeBalanced (before ++ [event]) := by
  rintro ⟨later, balanced⟩
  rw [List.append_assoc, List.singleton_append, checkBalanced,
    Progress.run_append before passed, Nat.zero_add, Progress.run, fails] at balanced
  cases balanced

end Balance

/-! ## Faults -/

namespace BalanceError

/-- The events that the check has let through when it finds a fault. -/
def seen (events : List Event) (fault : BalanceError) : List Event :=
  events.take ((fault.place? events).getD events.length)

/-- What a fault tells of the events in which the check finds it. -/
structure Explains (fault : BalanceError) (events : List Event) : Prop where
  /-- Nothing was wrong before. -/
  before : Event.CanBeBalanced (fault.seen events)
  /-- If an event is to blame, nothing that comes after it can help. -/
  lost : ∀ index ∈ fault.place? events,
    index < events.length ∧ ¬ Event.CanBeBalanced (events.take (index + 1))
  depth : ∀ depth, fault = .unclosed depth → (depth : Int) = nestingDepth (fault.seen events)

/-- An event has failed, and all events before it have been let through. -/
theorem Explains.of_step {events : List Event} {index : Nat} {event : Event} {fault : BalanceError}
    {between : Balance.Progress} (there : events[index]? = some event)
    (passed : ({} : Balance.Progress).run 0 (events.take index) = .ok between)
    (fails : between.step index event = .error fault) : fault.Explains events := by
  rcases List.getElem?_eq_some_iff.mp there with ⟨inside, isEvent⟩
  have place := Balance.Progress.place_of_first_fault there passed fails
  have seen : fault.seen events = events.take index := by
    rw [BalanceError.seen, place, Option.getD_some]
  have length : (events.take index).length = index :=
    List.length_take_of_le (Nat.le_of_lt inside)
  have whole : events.take (index + 1) = events.take index ++ [event] := by
    rw [List.take_succ_eq_append_getElem inside, isEvent]
  refine ⟨?_, ?_, ?_⟩
  · rw [seen]
    exact Balance.canBeBalanced_of_run passed
  · rintro other same
    rw [place, Option.mem_some_iff] at same
    subst same
    refine ⟨inside, ?_⟩
    rw [whole]
    exact Balance.not_canBeBalanced_of_step passed (by rwa [length])
  · rintro depth rfl
    rcases Balance.Progress.place_of_step fails [] with none | ⟨same, _, _⟩
    · cases none
    · cases same
      rw [seen, Balance.Progress.depth_of_run _ passed]
      exact Int.zero_add _

/-- All events have been let through, and elements are open. -/
theorem Explains.of_end {events : List Event} {progress : Balance.Progress}
    (passed : ({} : Balance.Progress).run 0 events = .ok progress) (inElement : progress.depth ≠ 0) :
    (unclosed progress.depth).Explains events := by
  have unended : .endDocument ∉ events := by
    intro member
    exact inElement (Balance.Progress.ended_of_mem events member passed).2
  have noPlace : (unclosed progress.depth).place? events = none := by
    rw [place?, List.findIdx?_eq_none_iff]
    intro event member
    exact beq_eq_false_iff_ne.mpr (fun isEnd => unended (isEnd ▸ member))
  have seen : (unclosed progress.depth).seen events = events := by
    rw [BalanceError.seen, noPlace, Option.getD_none, List.take_length]
  refine ⟨?_, ?_, ?_⟩
  · rw [seen]
    exact Balance.canBeBalanced_of_run passed
  · intro index place
    rw [noPlace] at place
    cases place
  · intro depth same
    cases same
    rw [seen, Balance.Progress.depth_of_run _ passed]
    exact Int.zero_add _

end BalanceError

/-- The check lets through just the balanced lists, and otherwise its answer explains what is wrong. -/
theorem checkBalanced_decides (events : List Event) :
    match checkBalanced events with
    | .ok () => Event.IsBalanced events
    | .error fault => ¬ Event.IsBalanced events ∧ fault.Explains events := by
  have decided : checkBalanced events = .ok () ↔ Event.IsBalanced events := checkBalanced_eq_ok_iff
  cases outcome : checkBalanced events with
  | ok passed => exact decided.mp outcome
  | error fault =>
      have unbalanced : ¬ Event.IsBalanced events := by
        intro balanced
        rw [decided.mpr balanced] at outcome
        cases outcome
      refine ⟨unbalanced, ?_⟩
      rw [checkBalanced] at outcome
      cases run : ({} : Balance.Progress).run 0 events with
      | error found =>
          rw [run] at outcome
          cases outcome
          rcases Balance.Progress.exists_of_run_eq_error events run with
            ⟨index, event, between, there, passed, fails⟩
          rw [Nat.zero_add] at fails
          exact .of_step there passed fails
      | ok progress =>
          rw [run] at outcome
          by_cases closed : progress.depth = 0
          · simp only [if_pos closed] at outcome
            cases outcome
          · simp only [if_neg closed] at outcome
            cases outcome
            exact .of_end run closed

end TopicPress
