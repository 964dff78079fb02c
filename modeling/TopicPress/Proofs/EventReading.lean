import TopicPress.Proofs.EventTree

/-!
# Reading events as trees

A list of events is read as a list of trees by keeping the elements that are open, each with the
trees that came before it on its level.  Nothing is assumed of the list: an end without a start, an
element left open and an end of the document within the list make it unreadable.  Reading and
writing events are inverse to each other, so what is read off a list of events is the only tree
structure it has.
-/

namespace TopicPress

namespace EventTree

/-- An element whose end has not been read, with the trees before it on its level, last one first. -/
structure Opened where
  name : String
  classValue : String
  attributes : List Attribute
  before : List EventTree

namespace Opened

/-- The trees of a level, last one first, after the end of an element with the trees `content` in it,
last one first too. -/
def close (opened : Opened) (content : List EventTree) : List EventTree :=
  .element opened.name opened.classValue opened.attributes content.reverse :: opened.before

/-- The events up to the start of an element. -/
def begun (opened : Opened) : List Event :=
  eventsAll opened.before.reverse
    ++ [.startElement opened.name opened.classValue opened.attributes]

end Opened

/-- Read events on, with the trees of the innermost level, last one first, and the open elements,
innermost first. -/
def readOn (level : List EventTree) (outer : List Opened) : List Event → Option (List EventTree)
  | [] => if outer.isEmpty then some level.reverse else none
  | .startElement name classValue attributes :: rest =>
    readOn [] (⟨name, classValue, attributes, level⟩ :: outer) rest
  | .characters text :: rest => readOn (.characters text :: level) outer rest
  | .endElement :: rest =>
    match outer with
    | [] => none
    | innermost :: around => readOn (innermost.close level) around rest
  | .endDocument :: _ => none

/-- The trees that a list of events consists of. -/
def forest? (events : List Event) : Option (List EventTree) := readOn [] [] events

/-- The tree of a document: the events of one tree and the end of the document after them. -/
def document? (events : List Event) : Option EventTree :=
  match events.getLast?, forest? events.dropLast with
  | some .endDocument, some [tree] => some tree
  | _, _ => none

/-! ## What has been written is read -/

/-- The events of trees are read as these trees, wherever they stand. -/
theorem readOn_eventsAll (forest : List EventTree) :
    ∀ level outer rest, readOn level outer (eventsAll forest ++ rest) =
      readOn (forest.reverse ++ level) outer rest := by
  induction forest using forestInduction with
  | nil =>
      intro level outer rest
      rfl
  | characters text later inLater =>
      intro level outer rest
      rw [eventsAll_cons, events_characters, List.append_assoc, List.singleton_append, readOn,
        inLater, List.reverse_cons, List.append_assoc, List.singleton_append]
  | element name classValue attributes children later inChildren inLater =>
      intro level outer rest
      rw [eventsAll_cons, events_element, List.append_assoc, List.cons_append, readOn,
        List.append_assoc, inChildren, List.append_nil, List.singleton_append, readOn, Opened.close,
        List.reverse_reverse, inLater, List.reverse_cons, List.append_assoc, List.singleton_append]

theorem forest?_eventsAll (forest : List EventTree) : forest? (eventsAll forest) = some forest := by
  have whole := readOn_eventsAll forest [] [] []
  rw [List.append_nil, List.append_nil] at whole
  rw [forest?, whole, readOn, List.isEmpty_nil, if_pos rfl, List.reverse_reverse]

/-! ## What is read has been written -/

/-- The events that have been read when `level` and `outer` are what was kept of them. -/
def readSoFar (level : List EventTree) (outer : List Opened) : List Event :=
  outer.reverse.flatMap Opened.begun ++ eventsAll level.reverse

private theorem readSoFar_cons (level : List EventTree) (opened : Opened) (outer : List Opened) :
    readSoFar level (opened :: outer) =
      readSoFar opened.before outer
        ++ .startElement opened.name opened.classValue opened.attributes
          :: eventsAll level.reverse := by
  simp [readSoFar, Opened.begun]

private theorem readSoFar_close (level : List EventTree) (opened : Opened) (outer : List Opened) :
    readSoFar (opened.close level) outer =
      readSoFar level (opened :: outer) ++ [.endElement] := by
  rw [readSoFar_cons]
  simp [readSoFar, Opened.close]

/-- No event is left out or made up by reading. -/
theorem eventsAll_of_readOn {events : List Event} :
    ∀ {level outer forest}, readOn level outer events = some forest →
      eventsAll forest = readSoFar level outer ++ events := by
  induction events with
  | nil =>
      intro level outer forest read
      cases outer with
      | nil =>
          rw [readOn, List.isEmpty_nil, if_pos rfl] at read
          cases read
          simp [readSoFar]
      | cons innermost around => cases read
  | cons event rest inductionHypothesis =>
      intro level outer forest read
      cases event with
      | startElement name classValue attributes =>
          rw [inductionHypothesis read, readSoFar_cons]
          simp
      | characters text =>
          rw [inductionHypothesis read]
          simp [readSoFar]
      | endElement =>
          cases outer with
          | nil => cases read
          | cons innermost around =>
              rw [readOn] at read
              rw [inductionHypothesis read, readSoFar_close, List.append_assoc,
                List.singleton_append]
      | endDocument => cases read

/-- A list of events is read as the trees whose events it is, and as nothing else. -/
theorem forest?_eq_some_iff {events : List Event} {forest : List EventTree} :
    forest? events = some forest ↔ events = eventsAll forest := by
  constructor
  · intro read
    exact (eventsAll_of_readOn read).symm
  · intro written
    rw [written, forest?_eventsAll]

/-- The tree of a document is the one whose events come before the end of the document. -/
theorem document?_eq_some_iff {events : List Event} {tree : EventTree} :
    document? events = some tree ↔ events = tree.events ++ [.endDocument] := by
  constructor
  · intro read
    rw [document?] at read
    split at read
    · rename_i last whole
      cases read
      rcases List.getLast?_eq_some_iff.mp last with ⟨content, rfl⟩
      rw [List.dropLast_concat] at whole
      rw [forest?_eq_some_iff.mp whole, eventsAll_cons, eventsAll_nil, List.append_nil]
    · cases read
  · intro written
    have content : forest? tree.events = some [tree] :=
      forest?_eq_some_iff.mpr (by rw [eventsAll_cons, eventsAll_nil, List.append_nil])
    rw [written, document?, List.getLast?_concat, List.dropLast_concat, content]

end EventTree

end TopicPress
