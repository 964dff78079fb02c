import TopicPress.Event.Balance

/-!
# Where the balance check stops

The check either goes through a whole list or stops at the first event that does not fit.  Its answer
names the place of that event, except when the document ends with elements open; there the place is
that of the first end of a document, because the check lets none pass with an element open and
nothing pass after one.
-/

namespace TopicPress

/-- The number of the event that is to blame for a fault of `events`.  Elements that are open when
the document ends are a fault of that event; when only the list ends, no event is to blame. -/
def BalanceError.place? (events : List Event) : BalanceError → Option Nat
  | unmatchedEnd index => some index
  | strayCharacters index => some index
  | afterRoot index => some index
  | afterEndDocument index => some index
  | unclosed _ => events.findIdx? (· == .endDocument)

namespace Balance

/-! ## One event -/

section Step

variable {progress : Progress} (index : Nat)

theorem Progress.step_of_ended (ended : progress.ended = true) (event : Event) :
    progress.step index event = .error (.afterEndDocument index) := by
  rw [Progress.step.eq_def, if_pos ended]

theorem Progress.step_startElement (unended : progress.ended = false) (name classValue : String)
    (attributes : List Attribute) :
    progress.step index (.startElement name classValue attributes) =
      if progress.rootClosed then .error (.afterRoot index)
      else .ok { progress with depth := progress.depth + 1 } := by
  simp only [Progress.step, unended, Bool.false_eq_true, if_false]

theorem Progress.step_characters (unended : progress.ended = false) (text : String) :
    progress.step index (.characters text) =
      if progress.depth = 0 then .error (.strayCharacters index) else .ok progress := by
  simp only [Progress.step, unended, Bool.false_eq_true, if_false]

theorem Progress.step_endElement (unended : progress.ended = false) :
    progress.step index .endElement =
      if progress.depth = 0 then .error (.unmatchedEnd index)
      else .ok { progress with
        depth := progress.depth - 1
        rootClosed := progress.rootClosed || progress.depth == 1 } := by
  simp only [Progress.step, unended, Bool.false_eq_true, if_false]

theorem Progress.step_endDocument (unended : progress.ended = false) :
    progress.step index .endDocument =
      if progress.depth = 0 then .ok { progress with ended := true }
      else .error (.unclosed progress.depth) := by
  simp only [Progress.step, unended, Bool.false_eq_true, if_false]

end Step

/-! ## A list of events -/

/-- A run that fails has gone well up to some event and fails in it. -/
theorem Progress.exists_of_run_eq_error {fault : BalanceError} (events : List Event) :
    ∀ {progress : Progress} {start : Nat}, progress.run start events = .error fault →
      ∃ count event between, events[count]? = some event ∧
        progress.run start (events.take count) = .ok between ∧
        between.step (start + count) event = .error fault := by
  induction events with
  | nil =>
      intro progress start failed
      cases failed
  | cons event rest inductionHypothesis =>
      intro progress start failed
      rw [Progress.run] at failed
      cases outcome : progress.step start event with
      | error found =>
          rw [outcome] at failed
          cases failed
          exact ⟨0, event, progress, rfl, rfl, outcome⟩
      | ok next =>
          rw [outcome] at failed
          rcases inductionHypothesis failed with ⟨count, other, between, there, passed, fails⟩
          refine ⟨count + 1, other, between, there, ?_, ?_⟩
          · rw [List.take_succ_cons, Progress.run, outcome]
            exact passed
          · have same : start + (count + 1) = start + 1 + count := by omega
            rw [same]
            exact fails

/-- When the document has ended no event is let through any more. -/
theorem Progress.eq_of_ended {progress next : Progress} {start : Nat} {events : List Event}
    (ended : progress.ended = true) (passed : progress.run start events = .ok next) :
    next = progress := by
  cases events with
  | nil =>
      cases passed
      rfl
  | cons event rest =>
      rw [Progress.run, Progress.step_of_ended start ended] at passed
      cases passed

/-- A document that is let end has no element open. -/
theorem Progress.ended_of_mem {next : Progress} (events : List Event) :
    ∀ {progress : Progress} {start : Nat}, .endDocument ∈ events →
      progress.run start events = .ok next → next.ended = true ∧ next.depth = 0 := by
  induction events with
  | nil =>
      intro progress start member
      cases member
  | cons event rest inductionHypothesis =>
      intro progress start member passed
      rw [Progress.run] at passed
      cases outcome : progress.step start event with
      | error found =>
          rw [outcome] at passed
          cases passed
      | ok between =>
          rw [outcome] at passed
          rcases List.mem_cons.mp member with rfl | later
          · cases isEnded : progress.ended with
            | true =>
                rw [Progress.step_of_ended start isEnded] at outcome
                cases outcome
            | false =>
                rw [Progress.step_endDocument start isEnded] at outcome
                by_cases outermost : progress.depth = 0
                · rw [if_pos outermost] at outcome
                  cases outcome
                  rw [Progress.eq_of_ended rfl passed]
                  exact ⟨rfl, outermost⟩
                · rw [if_neg outermost] at outcome
                  cases outcome
          · exact inductionHypothesis later passed

/-- A fault names the place of its event, or the event ends the document while elements are open. -/
theorem Progress.place_of_step {progress : Progress} {index : Nat} {event : Event}
    {fault : BalanceError} (fails : progress.step index event = .error fault) (events : List Event) :
    fault.place? events = some index ∨
      fault = .unclosed progress.depth ∧ event = .endDocument ∧ progress.ended = false := by
  cases isEnded : progress.ended with
  | true =>
      rw [Progress.step_of_ended index isEnded] at fails
      cases fails
      exact Or.inl rfl
  | false =>
      cases event with
      | startElement name classValue attributes =>
          rw [Progress.step_startElement index isEnded] at fails
          split at fails
          · cases fails
            exact Or.inl rfl
          · cases fails
      | characters text =>
          rw [Progress.step_characters index isEnded] at fails
          split at fails
          · cases fails
            exact Or.inl rfl
          · cases fails
      | endElement =>
          rw [Progress.step_endElement index isEnded] at fails
          split at fails
          · cases fails
            exact Or.inl rfl
          · cases fails
      | endDocument =>
          rw [Progress.step_endDocument index isEnded] at fails
          split at fails
          · cases fails
          · cases fails
            exact Or.inr ⟨rfl, rfl, rfl⟩

/-- The first event that fails is the one to blame. -/
theorem Progress.place_of_first_fault {between : Progress} {events : List Event} {count : Nat}
    {event : Event} {fault : BalanceError} (there : events[count]? = some event)
    (passed : ({} : Progress).run 0 (events.take count) = .ok between)
    (fails : between.step count event = .error fault) : fault.place? events = some count := by
  rcases Progress.place_of_step fails events with named | ⟨rfl, rfl, unended⟩
  · exact named
  · have earlier : .endDocument ∉ events.take count := by
      intro member
      rw [(Progress.ended_of_mem _ member passed).1] at unended
      cases unended
    rcases List.getElem?_eq_some_iff.mp there with ⟨inside, same⟩
    rw [BalanceError.place?, List.findIdx?_eq_some_iff_getElem]
    refine ⟨inside, by rw [same]; rfl, ?_⟩
    intro other before
    have different : events[other] ≠ .endDocument := by
      intro equal
      exact earlier (List.mem_take_iff_getElem.mpr ⟨other, by omega, equal⟩)
    simpa using different

end Balance

end TopicPress
