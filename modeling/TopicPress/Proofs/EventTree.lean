import TopicPress.Event.Balance

/-!
# Trees of events

An element is a start, the events of its content and an end.  Here that shape is a tree, and a list
of trees is read off as a list of events.  The trees say nothing of where events come from; what is
proved of them holds of every list of events that has their shape: such a list leaves no element
open, at no point has it closed more elements than it opened, and the balance check passes through
it as through a single character.
-/

namespace TopicPress

/-- An element with its content, or characters. -/
inductive EventTree where
  | element (name classValue : String) (attributes : List Attribute) (children : List EventTree)
  | characters (text : String)

namespace EventTree

mutual

/-- The events of a tree in order. -/
def events (tree : EventTree) : List Event :=
  match tree with
  | element name classValue attributes children =>
    .startElement name classValue attributes :: (eventsAll children ++ [.endElement])
  | characters text => [.characters text]

/-- The events of trees, one tree after the other. -/
def eventsAll : List EventTree → List Event
  | [] => []
  | tree :: rest => tree.events ++ eventsAll rest

end

/-- What holds of no trees, and goes on to hold when characters come first, or an element whose
content it holds of, holds of all lists of trees. -/
@[elab_as_elim]
theorem forestInduction {motive : List EventTree → Prop} (nil : motive [])
    (characters : ∀ text rest, motive rest → motive (.characters text :: rest))
    (element : ∀ name classValue attributes children rest, motive children → motive rest →
      motive (.element name classValue attributes children :: rest)) :
    ∀ forest, motive forest
  | [] => nil
  | .characters text :: rest =>
      characters text rest (forestInduction nil characters element rest)
  | .element name classValue attributes children :: rest =>
      element name classValue attributes children rest
        (forestInduction nil characters element children)
        (forestInduction nil characters element rest)

@[simp] theorem eventsAll_nil : eventsAll [] = [] := by
  rw [eventsAll]

@[simp] theorem eventsAll_cons (tree : EventTree) (rest : List EventTree) :
    eventsAll (tree :: rest) = tree.events ++ eventsAll rest := by
  rw [eventsAll]

@[simp] theorem events_characters (text : String) :
    (characters text).events = [.characters text] := by
  rw [events]

@[simp] theorem events_element (name classValue : String) (attributes : List Attribute)
    (children : List EventTree) :
    (element name classValue attributes children).events =
      .startElement name classValue attributes :: (eventsAll children ++ [.endElement]) := by
  rw [events]

@[simp] theorem eventsAll_append (first second : List EventTree) :
    eventsAll (first ++ second) = eventsAll first ++ eventsAll second := by
  induction first with
  | nil => rfl
  | cons tree rest inductionHypothesis =>
      rw [List.cons_append, eventsAll_cons, inductionHypothesis, eventsAll_cons, List.append_assoc]

theorem eventsAll_flatMap {Item : Type} (items : List Item) (trees : Item → List EventTree) :
    eventsAll (items.flatMap trees) = items.flatMap (fun item => eventsAll (trees item)) := by
  induction items with
  | nil => rfl
  | cons item rest inductionHypothesis =>
      rw [List.flatMap_cons, List.flatMap_cons, eventsAll_append, inductionHypothesis]

theorem eventsAll_map {Item : Type} (items : List Item) (tree : Item → EventTree) :
    eventsAll (items.map tree) = items.flatMap (fun item => (tree item).events) := by
  induction items with
  | nil => rfl
  | cons item rest inductionHypothesis =>
      rw [List.map_cons, List.flatMap_cons, eventsAll_cons, inductionHypothesis]

/-- Trees never end the document. -/
theorem endDocument_not_mem (forest : List EventTree) : Event.endDocument ∉ eventsAll forest := by
  induction forest using forestInduction with
  | nil => simp
  | characters text rest inRest => simpa using inRest
  | element name classValue attributes children rest inChildren inRest =>
      simpa using ⟨inChildren, inRest⟩

end EventTree

/-! ## Nesting depth -/

/-- How an event moves the number of open elements. -/
def Event.depthChange : Event → Int
  | startElement _ _ _ => 1
  | endElement => -1
  | _ => 0

/-- How many elements a list of events leaves open, if it begins with none. -/
def nestingDepth (events : List Event) : Int :=
  events.foldr (fun event depth => event.depthChange + depth) 0

@[simp] theorem nestingDepth_nil : nestingDepth [] = 0 := rfl

@[simp] theorem nestingDepth_cons (event : Event) (rest : List Event) :
    nestingDepth (event :: rest) = event.depthChange + nestingDepth rest := rfl

@[simp] theorem nestingDepth_append (first second : List Event) :
    nestingDepth (first ++ second) = nestingDepth first + nestingDepth second := by
  induction first with
  | nil => simp
  | cons event rest inductionHypothesis =>
      rw [List.cons_append, nestingDepth_cons, inductionHypothesis, nestingDepth_cons,
        Int.add_assoc]

/-- A beginning of two lists joined ends within the first one, or is all of the first one with a
beginning of the second one. -/
theorem isPrefix_join {Item : Type} {begun first second : List Item}
    (isBeginning : begun <+: first ++ second) :
    begun <+: first ∨ ∃ further, begun = first ++ further ∧ further <+: second := by
  rcases isBeginning with ⟨left, joined⟩
  rcases List.append_eq_append_iff.mp joined with ⟨middle, whole, _⟩ | ⟨further, whole, last⟩
  · exact Or.inl ⟨middle, whole.symm⟩
  · exact Or.inr ⟨further, whole, left, last.symm⟩

namespace EventTree

/-- Trees leave no element open. -/
theorem nestingDepth_eventsAll (forest : List EventTree) : nestingDepth (eventsAll forest) = 0 := by
  induction forest using forestInduction with
  | nil => simp
  | characters text rest inRest => simpa [Event.depthChange] using inRest
  | element name classValue attributes children rest inChildren inRest =>
      simp [Event.depthChange, inChildren, inRest]

/-- Within trees, no more elements have been closed than opened. -/
theorem nestingDepth_nonneg_of_prefix (forest : List EventTree) :
    ∀ before, before <+: eventsAll forest → 0 ≤ nestingDepth before := by
  induction forest using forestInduction with
  | nil =>
      intro before begun
      have nothing : before = [] := by simpa using begun
      simp [nothing]
  | characters text rest inRest =>
      intro before begun
      rw [eventsAll_cons, events_characters] at begun
      rcases List.prefix_cons_iff.mp begun with nothing | ⟨more, same, inside⟩
      · simp [nothing]
      · simpa [same, Event.depthChange] using inRest more inside
  | element name classValue attributes children rest inChildren inRest =>
      intro before begun
      rw [eventsAll_cons, events_element, List.cons_append, List.append_assoc] at begun
      rcases List.prefix_cons_iff.mp begun with nothing | ⟨afterStart, rfl, inside⟩
      · simp [nothing]
      · rcases isPrefix_join inside with inContent | ⟨afterContent, rfl, further⟩
        · have content := inChildren afterStart inContent
          simp only [nestingDepth_cons, Event.depthChange]
          omega
        · have content := nestingDepth_eventsAll children
          rcases List.prefix_cons_iff.mp further with nothing | ⟨afterEnd, rfl, beyond⟩
          · simp [nothing, content, Event.depthChange]
          · have later := inRest afterEnd beyond
            simp only [nestingDepth_cons, nestingDepth_append, Event.depthChange, content]
            omega

end EventTree

/-! ## The balance check -/

namespace Balance

/-- Trees below an open element pass the balance check and leave it where it was. -/
theorem Progress.run_eventsAll (forest : List EventTree) :
    ∀ (progress : Progress) (index : Nat) (rest : List Event), 0 < progress.depth →
      progress.rootClosed = false → progress.ended = false →
      progress.run index (EventTree.eventsAll forest ++ rest) =
        progress.run (index + (EventTree.eventsAll forest).length) rest := by
  induction forest using EventTree.forestInduction with
  | nil =>
      intro progress index rest deep notClosed notEnded
      rfl
  | characters text later inLater =>
      intro progress index rest deep notClosed notEnded
      have accepted : progress.step index (.characters text) = .ok progress := by
        simp [Progress.step, notEnded, Nat.ne_of_gt deep]
      simp only [EventTree.eventsAll_cons, EventTree.events_characters, List.cons_append,
        List.nil_append, Progress.run, accepted, List.length_cons]
      rw [inLater progress (index + 1) rest deep notClosed notEnded]
      congr 1
      omega
  | element name classValue attributes children later inChildren inLater =>
      intro progress index rest deep notClosed notEnded
      have opened : progress.step index (.startElement name classValue attributes) =
          .ok { progress with depth := progress.depth + 1 } := by
        simp [Progress.step, notClosed, notEnded]
      have closed : ∀ place, ({ progress with depth := progress.depth + 1 } : Progress).step place
          .endElement = .ok progress := by
        intro place
        have notOuter : (progress.depth + 1 == 1) = false := by
          simp [Nat.ne_of_gt deep]
        cases progress
        simp_all [Progress.step]
      simp only [EventTree.eventsAll_cons, EventTree.events_element, List.cons_append,
        List.append_assoc, List.nil_append, Progress.run, opened, List.length_cons,
        List.length_append]
      rw [inChildren { progress with depth := progress.depth + 1 } (index + 1) _
        (Nat.succ_pos _) notClosed notEnded]
      simp only [Progress.run, closed]
      rw [inLater progress _ rest deep notClosed notEnded]
      congr 1
      omega

/-- One element takes the check behind the root. -/
theorem Progress.run_element (name classValue : String) (attributes : List Attribute)
    (children : List EventTree) (rest : List Event) :
    ∃ index, ({} : Progress).run 0
        ((EventTree.element name classValue attributes children).events ++ rest) =
      ({ rootClosed := true } : Progress).run index rest := by
  have opened : ({} : Progress).step 0 (.startElement name classValue attributes) =
      .ok { depth := 1 } := rfl
  have closed : ∀ place, ({ depth := 1 } : Progress).step place .endElement =
      .ok { rootClosed := true } := fun _ => rfl
  refine ⟨0 + 1 + (EventTree.eventsAll children).length + 1, ?_⟩
  rw [EventTree.events_element, List.cons_append, List.append_assoc, Progress.run, opened]
  dsimp only
  rw [run_eventsAll children _ _ _ Nat.one_pos rfl rfl, List.singleton_append, Progress.run, closed]

end Balance

/-- One element with nothing after it but the end of the document is balanced. -/
theorem checkBalanced_element (name classValue : String) (attributes : List Attribute)
    (children : List EventTree) :
    checkBalanced ((EventTree.element name classValue attributes children).events
      ++ [.endDocument]) = .ok () := by
  rcases Balance.Progress.run_element name classValue attributes children [.endDocument] with
    ⟨index, passed⟩
  rw [checkBalanced, passed]
  rfl

end TopicPress
