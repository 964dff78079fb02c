import TopicPress.Proofs.WriterBalance

/-!
# Writing that fails

The device of a writer may fail at any call and work again later.  A call that fails writes nothing
and says so, but it does not always leave the writer as it was: a start tag that was held back is
given up before it is written, and the end of an element forgets the element before it is written.
So an event can be given again as if nothing had happened if it is not the end of an element and no
start tag is held back, and in no other case.  Devices that write a part of what they are given are
not considered.
-/

namespace TopicPress.Xml

namespace Writer

/-! ## Devices that come and go -/

/-- The writer with a device that fails with `fault`, or that works. -/
def withFault (writer : Writer) (fault : Option String) : Writer :=
  { writer with device.fault := fault }

/-- What can happen to a writer: it is given an event, or its device begins or ceases to fail. -/
inductive Action where
  | deliver (event : Event)
  | turn (fault : Option String)

/-- The writers that come about when events, failures and repairs take turns. -/
inductive Reachable : Writer → Prop where
  | start (written : String) : Reachable { device := { written } }
  | deliver {writer : Writer} (reachable : Reachable writer) (event : Event) :
      Reachable (sink.receive writer event).state
  | turn {writer : Writer} (reachable : Reachable writer) (fault : Option String) :
      Reachable (writer.withFault fault)

/-- What is seen of a writer from outside: its answers to the events, and all that has been written
in the end. -/
def seen (writer : Writer) : List Action → List (Option WriteError) × String
  | [] => ([], writer.device.written)
  | .deliver event :: later =>
    let receipt := sink.receive writer event
    (receipt.refusal :: (receipt.state.seen later).1, (receipt.state.seen later).2)
  | .turn fault :: later => (writer.withFault fault).seen later

/-- The answer of a writer whose device fails with `fault`. -/
def attempt (writer : Writer) (event : Event) (fault : String) : Receipt Writer WriteError :=
  sink.receive (writer.withFault (some fault)) event

/-- The writer after an attempt with each of `faults`, and with a device that works again. -/
def afterAttempts (writer : Writer) (event : Event) (faults : List String) : Writer :=
  faults.foldl (fun writer fault => (writer.attempt event fault).state.withFault none) writer

/-! ## What a failing device leaves behind -/

theorem writeThen_of_fault {writer : Writer} {fault : String}
    (broken : writer.device.fault = some fault) (text : String) (notices : List Notice)
    (next : Writer → Receipt Writer WriteError) :
    writer.writeThen text notices next = writer.refuse (.device fault) notices := by
  simp only [writeThen, Device.write, broken]

/-- The writer without the start tag that it holds back. -/
def unheld (writer : Writer) : Writer := { writer with pending := none }

theorem unheld_of_no_tag {writer : Writer} (nothingHeld : writer.pending = none) :
    writer.unheld = writer := by
  rw [unheld, ← nothingHeld]

theorem flushThen_of_fault {writer : Writer} {fault : String}
    (broken : writer.device.fault = some fault) (next : Writer → Receipt Writer WriteError) :
    writer.flushThen next =
      if writer.pending = none then next writer
      else writer.unheld.refuse (.device fault) := by
  rw [flushThen]
  cases held : writer.pending with
  | some tag => exact writeThen_of_fault (by exact broken) _ _ _
  | none => rfl

/-- What holds of a writer and of where it goes on after it wrote holds after `writeThen`, whether
the device fails or not. -/
theorem writeThen_keeps {Holds : Writer → Prop} {writer : Writer} {text : String}
    {notices : List Notice} {next : Writer → Receipt Writer WriteError} (stays : Holds writer)
    (goesOn : Holds (next (writer.append text)).state) :
    Holds (writer.writeThen text notices next).state := by
  cases broken : writer.device.fault with
  | none => rwa [writeThen_eq broken]
  | some fault => rwa [writeThen_of_fault broken]

theorem flushThen_keeps {Holds : Writer → Prop} {writer : Writer}
    {next : Writer → Receipt Writer WriteError} (givenUp : Holds writer.unheld)
    (goesOn : Holds (next writer.flushed).state) : Holds (writer.flushThen next).state := by
  rw [flushThen]
  cases held : writer.pending with
  | some tag =>
      rw [flushed, held] at goesOn
      exact writeThen_keeps givenUp goesOn
  | none => rwa [flushed_of_no_tag held] at goesOn

/-- A start tag that is held back is that of an open element. -/
def HoldsInElement (writer : Writer) : Prop := writer.pending ≠ none → writer.openNames ≠ []

theorem holdsInElement_of_no_tag {writer : Writer} (nothingHeld : writer.pending = none) :
    writer.HoldsInElement :=
  fun held => absurd nothingHeld held

theorem HoldsInElement.receive {writer : Writer} (holds : writer.HoldsInElement) (event : Event) :
    (sink.receive writer event).state.HoldsInElement := by
  have unheld : ∀ {writer : Writer}, HoldsInElement writer.unheld := holdsInElement_of_no_tag rfl
  cases event with
  | startElement name classValue attributes =>
      change (writer.startElement name classValue attributes).state.HoldsInElement
      have opened : ∀ {writer : Writer}, HoldsInElement (writer.flushThen fun writer =>
          let tag := ⟨name, classValue, attributes.map mendAttribute⟩
          { writer with pending := some tag, openNames := name :: writer.openNames }.accept
            (.tagOpened name writer.openNames.length :: attributeNotices attributes)).state :=
        flushThen_keeps unheld (fun _ => List.cons_ne_nil _ _)
      rw [startElement]
      split
      · exact holds
      · split
        · exact holds
        · split
          · exact writeThen_keeps holds opened
          · exact opened
  | characters text =>
      change (writer.characters text).state.HoldsInElement
      rw [characters]
      split
      · exact holds
      · split
        · exact holds
        · split
          · exact holds
          · have flushed := holdsInElement_of_no_tag (pending_flushed writer)
            exact flushThen_keeps unheld (writeThen_keeps flushed flushed)
  | endElement =>
      change writer.endElement.state.HoldsInElement
      rw [endElement]
      split
      · exact holds
      · split
        · exact holds
        · exact writeThen_keeps (holdsInElement_of_no_tag rfl) (holdsInElement_of_no_tag rfl)
  | endDocument =>
      change writer.endDocument.state.HoldsInElement
      rw [endDocument]
      split
      · exact holds
      · split
        · exact holds
        · exact writeThen_keeps holds holds

theorem Reachable.holdsInElement {writer : Writer} (reachable : Reachable writer) :
    writer.HoldsInElement := by
  induction reachable with
  | start written => exact holdsInElement_of_no_tag rfl
  | deliver reachable event inductionHypothesis => exact inductionHypothesis.receive event
  | turn reachable fault inductionHypothesis => exact inductionHypothesis

/-! ## Attempts -/

/-- The writer lets an event through, as far as the event is concerned. -/
structure Admits (writer : Writer) (event : Event) : Prop where
  unfinished : writer.finished = false
  fits : match event with
    | .startElement _ _ _ => writer.rootClosed = false
    | .characters _ => writer.openNames.isEmpty = false
    | .endElement => ∃ name rest, writer.openNames = name :: rest
    | .endDocument => writer.openNames = []

/-- An event fits what is open, or it is refused at once. -/
theorem admits_or_refuses (writer : Writer) (event : Event) :
    writer.Admits event ∨
      ∃ reason, sink.receive writer event = writer.refuse reason ∧ ∀ fault, reason ≠ .device fault := by
  cases finished : writer.finished with
  | true =>
      refine Or.inr ⟨.afterEndDocument, ?_, by simp⟩
      cases event with
      | startElement name classValue attributes => simp only [sink, startElement, finished, if_true]
      | characters text => simp only [sink, characters, finished, if_true]
      | endElement => simp only [sink, endElement, finished, if_true]
      | endDocument => simp only [sink, endDocument, finished, if_true]
  | false =>
      cases event with
      | startElement name classValue attributes =>
          cases closed : writer.rootClosed with
          | false => exact Or.inl ⟨finished, closed⟩
          | true =>
              refine Or.inr ⟨.multipleRoots name, ?_, by simp⟩
              simp only [sink, startElement, finished, closed, Bool.false_eq_true, if_false, if_true]
      | characters text =>
          cases outside : writer.openNames.isEmpty with
          | false => exact Or.inl ⟨finished, outside⟩
          | true =>
              refine Or.inr ⟨.strayCharacters, ?_, by simp⟩
              simp only [sink, characters, finished, outside, Bool.false_eq_true, if_false, if_true]
      | endElement =>
          cases names : writer.openNames with
          | cons name rest => exact Or.inl ⟨finished, name, rest, names⟩
          | nil =>
              refine Or.inr ⟨.unmatchedEnd, ?_, by simp⟩
              simp only [sink, endElement, finished, names, Bool.false_eq_true, if_false]
      | endDocument =>
          cases names : writer.openNames with
          | nil => exact Or.inl ⟨finished, names⟩
          | cons name rest =>
              refine Or.inr ⟨.unclosed name, ?_, by simp⟩
              simp only [sink, endDocument, finished, names, Bool.false_eq_true, if_false]

theorem admits_of_accepted {writer : Writer} {event : Event}
    (accepted : (sink.receive writer event).refusal = none) : writer.Admits event := by
  rcases writer.admits_or_refuses event with admitted | ⟨reason, same, _⟩
  · exact admitted
  · rw [same] at accepted
    cases accepted

/-- The writer without the innermost open element, of which nothing has been written. -/
def forgotten (writer : Writer) : Writer :=
  { writer.unheld with openNames := writer.openNames.tail }

theorem withFault_none_of_works {writer : Writer} (works : writer.device.fault = none) :
    writer.withFault none = writer := by
  rw [withFault, ← works]

theorem opened_of_no_tag {writer : Writer} (nothingHeld : writer.pending = none)
    (name classValue : String) (attributes : List Attribute) :
    writer.opened name classValue attributes =
      { writer with
        pending := some ⟨name, classValue, attributes.map mendAttribute⟩
        openNames := name :: writer.openNames } := by
  rw [opened, flushed_of_no_tag nothingHeld]

/-- Something is written, or the device is asked to finish, when the writer is given the event. -/
def NeedsDevice (writer : Writer) : Event → Prop
  | .startElement _ _ _ => writer.openNames = [] ∨ writer.pending ≠ none
  | .characters text => text ≠ ""
  | .endElement => True
  | .endDocument => True

/-- What a failed attempt leaves of a writer: without the start tag that was held back, and at the
end of an element without the element. -/
def remains (writer : Writer) (event : Event) : Writer :=
  if event = .endElement then writer.forgotten else writer.unheld

theorem remains_of_no_tag {writer : Writer} (nothingHeld : writer.pending = none) {event : Event}
    (noEnd : event ≠ .endElement) : writer.remains event = writer := by
  rw [remains, if_neg noEnd, unheld_of_no_tag nothingHeld]

section Broken

variable {writer : Writer} {fault : String}

theorem startElement_of_fault (broken : writer.device.fault = some fault)
    (holds : writer.HoldsInElement) (unfinished : writer.finished = false)
    (rootOpen : writer.rootClosed = false) (name classValue : String)
    (attributes : List Attribute) :
    (writer.NeedsDevice (.startElement name classValue attributes) ∧
        (writer.startElement name classValue attributes).refusal = some (.device fault) ∧
        (writer.startElement name classValue attributes).state = writer.unheld) ∨
      (¬ writer.NeedsDevice (.startElement name classValue attributes) ∧
        (writer.startElement name classValue attributes).refusal = none ∧
        (writer.startElement name classValue attributes).state =
          writer.opened name classValue attributes) := by
  rw [startElement, unfinished, rootOpen]
  cases names : writer.openNames with
  | nil =>
      have nothingHeld : writer.pending = none :=
        Decidable.byContradiction fun held => holds held names
      rw [unheld_of_no_tag nothingHeld]
      simp only [Bool.false_eq_true, if_false, if_true, List.isEmpty_nil, writeThen_of_fault broken]
      exact Or.inl ⟨Or.inl names, rfl, rfl⟩
  | cons outer outermore =>
      simp only [Bool.false_eq_true, if_false, List.isEmpty_cons, flushThen_of_fault broken]
      split
      · rename_i nothingHeld
        rw [opened_of_no_tag nothingHeld]
        exact Or.inr ⟨by simp [NeedsDevice, names, nothingHeld], rfl, rfl⟩
      · rename_i held
        exact Or.inl ⟨Or.inr held, rfl, rfl⟩

theorem characters_of_fault (broken : writer.device.fault = some fault)
    (unfinished : writer.finished = false) (inElement : writer.openNames.isEmpty = false)
    {text : String} (something : text ≠ "") :
    (writer.characters text).refusal = some (.device fault) ∧
      (writer.characters text).state = writer.unheld := by
  have notEmpty : text.isEmpty = false := by
    simpa using something
  rw [characters, unfinished, inElement, notEmpty]
  simp only [Bool.false_eq_true, if_false, flushThen_of_fault broken, writeThen_of_fault broken]
  split
  · rename_i nothingHeld
    rw [unheld_of_no_tag nothingHeld]
    exact ⟨rfl, rfl⟩
  · exact ⟨rfl, rfl⟩

/-- A text without characters is accepted whatever the device does. -/
theorem characters_empty (unfinished : writer.finished = false)
    (inElement : writer.openNames.isEmpty = false) : writer.characters "" = writer.accept := by
  rw [characters, unfinished, inElement]
  rfl

theorem endElement_of_fault (broken : writer.device.fault = some fault)
    (unfinished : writer.finished = false) {name : String} {rest : List String}
    (names : writer.openNames = name :: rest) :
    writer.endElement.refusal = some (.device fault) ∧
      writer.endElement.state = writer.forgotten := by
  rw [forgotten, endElement, unfinished, names]
  simp only [Bool.false_eq_true, if_false]
  rw [writeThen_of_fault (by exact broken), ← unfinished]
  exact ⟨rfl, rfl⟩

theorem endDocument_of_fault (broken : writer.device.fault = some fault)
    (unfinished : writer.finished = false) (noneOpen : writer.openNames = []) :
    writer.endDocument.refusal = some (.device fault) ∧ writer.endDocument.state = writer := by
  rw [endDocument, unfinished, noneOpen]
  simp only [Bool.false_eq_true, if_false, writeThen_of_fault broken]
  exact ⟨rfl, rfl⟩

end Broken

/-- What comes of an attempt: the device is to blame and the writer is left with what remains, or
the device was not needed and all went as with one that works. -/
theorem attempt_cases {writer : Writer} (works : writer.device.fault = none)
    (holds : writer.HoldsInElement) {event : Event} (admitted : writer.Admits event)
    (fault : String) :
    (writer.NeedsDevice event ∧ (writer.attempt event fault).refusal = some (.device fault) ∧
        (writer.attempt event fault).state.withFault none = writer.remains event) ∨
      (¬ writer.NeedsDevice event ∧ (writer.attempt event fault).refusal = none ∧
        (writer.attempt event fault).state.withFault none = (sink.receive writer event).state) := by
  rcases admitted with ⟨unfinished, fits⟩
  have broken : (writer.withFault (some fault)).device.fault = some fault := rfl
  have repaired : (writer.withFault (some fault)).withFault none = writer :=
    withFault_none_of_works works
  have unheldRepaired : (writer.withFault (some fault)).unheld.withFault none = writer.unheld :=
    @withFault_none_of_works writer.unheld works
  cases event with
  | startElement name classValue attributes =>
      rcases startElement_of_fault broken holds unfinished fits name classValue attributes with
        ⟨needed, refused, state⟩ | ⟨unneeded, accepted, state⟩
      · refine Or.inl ⟨needed, refused, ?_⟩
        change (startElement _ _ _ _).state.withFault none = writer.unheld
        rw [state, unheldRepaired]
      · have inElement : writer.openNames.isEmpty = false := by
          have inside : writer.openNames ≠ [] := fun outside => unneeded (Or.inl outside)
          simpa using inside
        have nothingHeld : writer.pending = none :=
          Decidable.byContradiction fun held => unneeded (Or.inr held)
        have started := (startElement_eq works unfinished fits name classValue attributes).2
        rw [declared, inElement, if_neg Bool.false_ne_true, opened_of_no_tag nothingHeld] at started
        rw [@opened_of_no_tag (writer.withFault (some fault)) nothingHeld] at state
        refine Or.inr ⟨unneeded, accepted, ?_⟩
        change (startElement _ _ _ _).state.withFault none = (startElement _ _ _ _).state
        rw [state, started]
        exact @withFault_none_of_works { writer with
          pending := some ⟨name, classValue, attributes.map mendAttribute⟩
          openNames := name :: writer.openNames } works
  | characters text =>
      by_cases empty : text = ""
      · refine Or.inr ⟨fun needed => needed empty, ?_⟩
        change (characters _ text).refusal = none ∧
          (characters _ text).state.withFault none = (writer.characters text).state
        rw [empty, @characters_empty (writer.withFault (some fault)) unfinished fits,
          characters_empty unfinished fits]
        exact ⟨rfl, repaired⟩
      · have refused := characters_of_fault broken unfinished fits empty
        refine Or.inl ⟨empty, refused.1, ?_⟩
        change (characters _ text).state.withFault none = writer.unheld
        rw [refused.2, unheldRepaired]
  | endElement =>
      rcases fits with ⟨name, rest, names⟩
      have refused := endElement_of_fault broken unfinished names
      refine Or.inl ⟨trivial, refused.1, ?_⟩
      change (endElement _).state.withFault none = writer.forgotten
      rw [refused.2]
      exact @withFault_none_of_works writer.forgotten works
  | endDocument =>
      have refused := endDocument_of_fault broken unfinished fits
      have nothingHeld : writer.pending = none :=
        Decidable.byContradiction fun held => holds held fits
      refine Or.inl ⟨trivial, refused.1, ?_⟩
      rw [remains_of_no_tag nothingHeld (by simp)]
      change (endDocument _).state.withFault none = writer
      rw [refused.2, repaired]

/-- Attempts that leave the writer as it was may be made as often as one likes. -/
theorem afterAttempts_eq {writer : Writer} {event : Event}
    (stays : ∀ fault, (writer.attempt event fault).state.withFault none = writer)
    (faults : List String) : writer.afterAttempts event faults = writer := by
  induction faults with
  | nil => rfl
  | cons fault rest inductionHypothesis =>
      rw [afterAttempts, List.foldl_cons, stays fault]
      exact inductionHypothesis

/-! ## What shows afterwards -/

/-- Ends of elements are refused from the one on that finds no element open. -/
theorem unmatchedEnd_seen_iff (count : Nat) :
    ∀ {writer : Writer}, writer.device.fault = none → writer.finished = false →
      (some WriteError.unmatchedEnd ∈
          (writer.seen (List.replicate count (.deliver .endElement))).1 ↔
        writer.openNames.length < count) := by
  induction count with
  | zero =>
      intro writer works unfinished
      simp [seen]
  | succ count inductionHypothesis =>
      intro writer works unfinished
      rw [List.replicate_succ, seen]
      cases names : writer.openNames with
      | nil =>
          have refused : (sink.receive writer .endElement).refusal = some .unmatchedEnd := by
            change writer.endElement.refusal = _
            rw [endElement, unfinished, names]
            rfl
          simp [refused]
      | cons name rest =>
          have ended := endElement_within works unfinished names
          have accepted : (sink.receive writer .endElement).refusal = none := ended.1
          have state : (sink.receive writer .endElement).state = _ := ended.2
          simp only [accepted, state, List.mem_cons, reduceCtorEq, false_or]
          rw [inductionHypothesis (by exact works) (by exact unfinished)]
          simp [append]

/-- What the content of an element has the writer write, apart from tags. -/
def contentText : Event → String
  | .characters text => escape (mend text)
  | _ => ""

/-- Within an element, a start tag that is held back is written before anything else. -/
theorem written_of_content {writer : Writer} (works : writer.device.fault = none) {event : Event}
    (admitted : writer.Admits event) (inElement : writer.openNames.isEmpty = false)
    (noEnd : event ≠ .endElement) (something : event ≠ .characters "") :
    (sink.receive writer event).state.device.written =
      writer.flushed.device.written ++ contentText event := by
  rcases admitted with ⟨unfinished, fits⟩
  cases event with
  | startElement name classValue attributes =>
      have started := (startElement_eq works unfinished fits name classValue attributes).2
      rw [declared, inElement, if_neg Bool.false_ne_true] at started
      change (startElement _ _ _ _).state.device.written = _ ++ ""
      rw [started, String.append_empty]
      rfl
  | characters text =>
      have notEmpty : text.isEmpty = false := by
        simpa using something
      have flushedWorks := (fault_flushed writer).trans works
      change (writer.characters text).state.device.written = _
      rw [characters, unfinished, inElement, notEmpty]
      simp only [Bool.false_eq_true, if_false, flushThen_eq works, writeThen_eq flushedWorks]
      rfl
  | endElement => exact absurd rfl noEnd
  | endDocument =>
      have noneOpen : writer.openNames = [] := fits
      rw [noneOpen] at inElement
      cases inElement

/-- A start tag that was given up is missing from what is written next. -/
theorem written_ne_of_held {writer : Writer} (works : writer.device.fault = none) {event : Event}
    (admitted : writer.Admits event) (inElement : writer.openNames.isEmpty = false)
    (noEnd : event ≠ .endElement) (something : event ≠ .characters "")
    (held : writer.pending ≠ none) :
    (sink.receive writer.unheld event).state.device.written ≠
      (sink.receive writer event).state.device.written := by
  rcases Option.ne_none_iff_exists'.mp held with ⟨tag, isTag⟩
  have without := @written_of_content writer.unheld works event
    ⟨admitted.unfinished, admitted.fits⟩ inElement noEnd something
  have flushedText : writer.flushed.device.written = writer.device.written ++ tag.opening := by
    rw [flushed, isTag]
    rfl
  rw [without, written_of_content works admitted inElement noEnd something, flushedText,
    flushed_of_no_tag rfl]
  intro same
  have lengths := congrArg String.length same
  simp only [String.length_append, StartTag.opening, unheld] at lengths
  have bracket : "<".length = 1 := rfl
  omega

/-- An element that was forgotten is missing when as many ends come as elements were open. -/
theorem seen_forgotten_ne {writer : Writer} (works : writer.device.fault = none)
    (unfinished : writer.finished = false) {name : String} {rest : List String}
    (names : writer.openNames = name :: rest) :
    writer.forgotten.seen (List.replicate (rest.length + 1) (.deliver .endElement)) ≠
      writer.seen (List.replicate (rest.length + 1) (.deliver .endElement)) := by
  intro same
  have refused := (@unmatchedEnd_seen_iff (rest.length + 1) writer.forgotten works
    unfinished).mpr (by simp [forgotten, names])
  rw [same, unmatchedEnd_seen_iff _ works unfinished, names] at refused
  exact absurd refused (Nat.lt_irrefl _)

/-! ## Attempts that go unnoticed -/

/-- A call that the device makes fail is answered with the device's fault and writes nothing.  It
leaves the writer without the start tag that was held back, and at the end of an element without the
element.  So giving the event again, as often as the device fails and once more, goes unnoticed if
the event is not the end of an element and no start tag was held back, and not otherwise. -/
theorem failure_unnoticed_iff {writer : Writer} (reachable : writer.Reachable)
    (works : writer.device.fault = none) {event : Event}
    (accepted : (sink.receive writer event).refusal = none) {fault : String}
    (failed : (writer.attempt event fault).refusal ≠ none) :
    (writer.attempt event fault).refusal = some (.device fault) ∧
      (writer.attempt event fault).state.device.written = writer.device.written ∧
      (writer.attempt event fault).state.withFault none = writer.remains event ∧
      ((∀ faults later,
          (writer.afterAttempts event (fault :: faults)).seen (.deliver event :: later) =
            writer.seen (.deliver event :: later)) ↔
        event ≠ .endElement ∧ writer.pending = none) := by
  have holds := reachable.holdsInElement
  have admitted := admits_of_accepted accepted
  rcases attempt_cases works holds admitted fault with
    ⟨needed, refused, state⟩ | ⟨_, goesThrough, _⟩
  · have written : (writer.attempt event fault).state.device.written = writer.device.written := by
      change ((writer.attempt event fault).state.withFault none).device.written = _
      rw [state, remains]
      split <;> rfl
    refine ⟨refused, written, state, ?_, ?_⟩
    · intro unnoticed
      have once : ∀ later, (writer.remains event).seen (.deliver event :: later) =
          writer.seen (.deliver event :: later) := by
        intro later
        have retried := unnoticed [] later
        rwa [afterAttempts, List.foldl_cons, List.foldl_nil, state] at retried
      have noEnd : event ≠ .endElement := by
        rintro rfl
        rcases admitted.fits with ⟨name, rest, names⟩
        exact seen_forgotten_ne works admitted.unfinished names (once _)
      have something : event ≠ .characters "" := by
        rintro rfl
        exact needed rfl
      refine ⟨noEnd, Decidable.byContradiction fun held => ?_⟩
      have inElement : writer.openNames.isEmpty = false := by
        simpa using holds held
      have sameWritten := congrArg Prod.snd (once [])
      rw [remains, if_neg noEnd] at sameWritten
      exact written_ne_of_held works admitted inElement noEnd something held sameWritten
    · rintro ⟨noEnd, nothingHeld⟩ faults later
      have stays : ∀ fault, (writer.attempt event fault).state.withFault none = writer := by
        intro fault
        rcases attempt_cases works holds admitted fault with ⟨_, _, same⟩ | ⟨unneeded, _, _⟩
        · rw [same, remains_of_no_tag nothingHeld noEnd]
        · exact absurd needed unneeded
      rw [afterAttempts_eq stays]
  · exact absurd goesThrough failed

/-- A text is given again after two failures, within an element whose start tag has been written. -/
theorem failure_of_text_unnoticed :
    let writer := (sink.feed {} [.startElement "a" "" [], .characters "x"]).1
    writer.Reachable ∧ writer.device.fault = none ∧
      (sink.receive writer (.characters "y")).refusal = none ∧
      (writer.attempt (.characters "y") "pipe broken").refusal ≠ none ∧
      (writer.afterAttempts (.characters "y") ["pipe broken", "pipe broken"]).seen
          [.deliver (.characters "y"), .deliver .endElement, .deliver .endDocument] =
        writer.seen [.deliver (.characters "y"), .deliver .endElement, .deliver .endDocument] := by
  intro writer
  have reachable : writer.Reachable :=
    ((Reachable.start "").deliver (.startElement "a" "" [])).deliver (.characters "x")
  have works : writer.device.fault = none := by decide +kernel
  have accepted : (sink.receive writer (.characters "y")).refusal = none := by decide +kernel
  have failed : (writer.attempt (.characters "y") "pipe broken").refusal ≠ none := by
    decide +kernel
  rcases failure_unnoticed_iff reachable works accepted failed with ⟨_, _, _, exactly⟩
  refine ⟨reachable, works, accepted, failed, ?_⟩
  exact exactly.mpr ⟨by simp, by decide +kernel⟩ ["pipe broken"] _

/-- A start tag is lost, an element is never closed, and a second declaration and root follow. -/
theorem failures_noticed :
    let started := (sink.receive {} (.startElement "a" "" [])).state
    let retriedText := started.afterAttempts (.characters "x") ["pipe broken"]
    let retriedEnd := started.afterAttempts .endElement ["pipe broken"]
    started.Reachable ∧
      (started.attempt (.characters "x") "pipe broken").refusal = some (.device "pipe broken") ∧
      (started.attempt .endElement "pipe broken").refusal = some (.device "pipe broken") ∧
      started.seen [.deliver (.characters "x"), .deliver .endElement, .deliver .endDocument] =
        ([none, none, none], declaration ++ "<a class=\"\">x</a>") ∧
      retriedText.seen [.deliver (.characters "x"), .deliver .endElement, .deliver .endDocument] =
        ([none, none, none], declaration ++ "x</a>") ∧
      started.seen [.deliver .endElement, .deliver (.startElement "b" "" []),
          .deliver .endElement] =
        ([none, some (.multipleRoots "b"), some .unmatchedEnd], declaration ++ "<a class=\"\"/>") ∧
      retriedEnd.seen [.deliver .endElement, .deliver (.startElement "b" "" []),
          .deliver .endElement] =
        ([some .unmatchedEnd, none, none], declaration ++ declaration ++ "<b class=\"\"/>") := by
  intro started retriedText retriedEnd
  refine ⟨(Reachable.start "").deliver _, ?_, ?_, ?_, ?_, ?_, ?_⟩ <;> decide +kernel

end Writer

end TopicPress.Xml
