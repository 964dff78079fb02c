import TopicPress.Proofs.EventTree
import TopicPress.Proofs.Playing
import TopicPress.Xml.Document

/-!
# Writing a tree event by event

The XML writer sees one event at a time and holds a start tag back until it knows whether the element
is empty.  The text of a tree has no such state: an element is written by looking at the text of its
content.  Here the writer is shown to produce that text.  The one state in which the two differ for a
moment, a start tag that is still held back, is what `put` takes care of: content of no length
leaves it where it is.
-/

namespace TopicPress

open Xml

mutual

/-- The text of a tree.  An element without any text in it has one tag. -/
def EventTree.xmlText (tree : EventTree) : String :=
  match tree with
  | .element name classValue attributes children =>
    let tag : StartTag := ⟨name, classValue, attributes.map Writer.mendAttribute⟩
    let content := EventTree.xmlTextAll children
    if content = "" then tag.selfClosing
    else tag.opening ++ content ++ Writer.closingTag name
  | .characters text => escape (mend text)

/-- The texts of trees, one after the other. -/
def EventTree.xmlTextAll : List EventTree → String
  | [] => ""
  | tree :: rest => tree.xmlText ++ EventTree.xmlTextAll rest

end

@[simp] theorem EventTree.xmlTextAll_nil : EventTree.xmlTextAll [] = "" := by
  rw [EventTree.xmlTextAll]

@[simp] theorem EventTree.xmlTextAll_cons (tree : EventTree) (rest : List EventTree) :
    EventTree.xmlTextAll (tree :: rest) = tree.xmlText ++ EventTree.xmlTextAll rest := by
  rw [EventTree.xmlTextAll]

theorem EventTree.xmlText_characters (text : String) :
    (EventTree.characters text).xmlText = escape (mend text) := by
  rw [EventTree.xmlText]

theorem EventTree.xmlText_element (name classValue : String) (attributes : List Attribute)
    (children : List EventTree) :
    (EventTree.element name classValue attributes children).xmlText =
      let tag : StartTag := ⟨name, classValue, attributes.map Writer.mendAttribute⟩
      if EventTree.xmlTextAll children = "" then tag.selfClosing
      else tag.opening ++ EventTree.xmlTextAll children ++ Writer.closingTag name := by
  rw [EventTree.xmlText]

theorem EventTree.xmlText_element_ne_empty (name classValue : String)
    (attributes : List Attribute) (children : List EventTree) :
    (EventTree.element name classValue attributes children).xmlText ≠ "" := by
  rw [EventTree.xmlText_element]
  split <;> simp [StartTag.opening, StartTag.selfClosing]

namespace Xml

theorem isAllowed_mendCharacter (c : Char) : isAllowed (mendCharacter c) = true := by
  rw [mendCharacter]
  split
  · assumption
  · decide

theorem escapeCharacter_ne_nil (c : Char) : escapeCharacter c ≠ [] := by
  unfold escapeCharacter
  split <;> simp

/-- Escaping leaves nothing only of nothing. -/
theorem escape_eq_empty_iff (text : String) : escape text = "" ↔ text = "" := by
  rw [← String.toList_eq_nil_iff, ← String.toList_eq_nil_iff, escape, String.toList_ofList]
  cases text.toList with
  | nil => simp
  | cons c rest => simp [escapeCharacter_ne_nil]

theorem escape_mend_eq_empty_iff (text : String) : escape (mend text) = "" ↔ text = "" := by
  rw [escape_eq_empty_iff, ← String.toList_eq_nil_iff, mend, String.toList_ofList,
    List.map_eq_nil_iff, String.toList_eq_nil_iff]

namespace Writer

/-! ## What the writer does with a device that works -/

/-- The writer with `text` written as it is. -/
def append (writer : Writer) (text : String) : Writer :=
  { writer with device.written := writer.device.written ++ text }

/-- The writer without a start tag held back. -/
def flushed (writer : Writer) : Writer :=
  match writer.pending with
  | some tag => { writer with pending := none }.append tag.opening
  | none => writer

/-- The writer after content that comes below an open element.  Without any text, a start tag that is
held back stays so. -/
def put (writer : Writer) (content : String) : Writer :=
  if content = "" then writer else writer.flushed.append content

/-- The writer stands within an element, and its device works. -/
structure Within (writer : Writer) : Prop where
  works : writer.device.fault = none
  unfinished : writer.finished = false
  rootOpen : writer.rootClosed = false
  inElement : writer.openNames ≠ []

theorem writeThen_eq {writer : Writer} (works : writer.device.fault = none) (text : String)
    (notices : List Notice) (next : Writer → Receipt Writer WriteError) :
    writer.writeThen text notices next = next (writer.append text) := by
  simp only [writeThen, Device.write, append, works]

theorem flushThen_eq {writer : Writer} (works : writer.device.fault = none)
    (next : Writer → Receipt Writer WriteError) :
    writer.flushThen next = next writer.flushed := by
  rw [flushThen, flushed]
  cases held : writer.pending with
  | some tag => exact writeThen_eq (by exact works) _ _ _
  | none => rfl

@[simp] theorem fault_flushed (writer : Writer) :
    writer.flushed.device.fault = writer.device.fault := by
  rw [flushed]
  cases writer.pending <;> rfl

theorem openNames_flushed (writer : Writer) : writer.flushed.openNames = writer.openNames := by
  rw [flushed]
  cases writer.pending <;> rfl

theorem rootClosed_flushed (writer : Writer) : writer.flushed.rootClosed = writer.rootClosed := by
  rw [flushed]
  cases writer.pending <;> rfl

theorem finished_flushed (writer : Writer) : writer.flushed.finished = writer.finished := by
  rw [flushed]
  cases writer.pending <;> rfl

theorem pending_flushed (writer : Writer) : writer.flushed.pending = none := by
  rw [flushed]
  cases held : writer.pending with
  | some tag => rfl
  | none => exact held

theorem flushed_of_no_tag {writer : Writer} (nothingHeld : writer.pending = none) :
    writer.flushed = writer := by
  rw [flushed, nothingHeld]

theorem append_append (writer : Writer) (first second : String) :
    (writer.append first).append second = writer.append (first ++ second) := by
  rw [append, append, append]
  simp only [String.append_assoc]

@[simp] theorem put_empty (writer : Writer) : writer.put "" = writer := rfl

theorem put_of_ne_empty (writer : Writer) {content : String} (something : content ≠ "") :
    writer.put content = writer.flushed.append content :=
  if_neg something

theorem put_put (writer : Writer) (first second : String) :
    (writer.put first).put second = writer.put (first ++ second) := by
  by_cases firstEmpty : first = ""
  · rw [firstEmpty, put_empty, String.empty_append]
  · by_cases secondEmpty : second = ""
    · rw [secondEmpty, put_empty, String.append_empty]
    · have bothNonempty : first ++ second ≠ "" := by
        simp [firstEmpty]
      have nothingHeld : (writer.flushed.append first).pending = none := pending_flushed writer
      rw [put_of_ne_empty writer firstEmpty, put_of_ne_empty _ secondEmpty,
        put_of_ne_empty writer bothNonempty, flushed_of_no_tag nothingHeld, append_append]

theorem Within.put {writer : Writer} (within : writer.Within) (content : String) :
    (writer.put content).Within := by
  by_cases empty : content = ""
  · rwa [empty, put_empty]
  · rw [put_of_ne_empty writer empty]
    exact ⟨(fault_flushed writer).trans within.works,
      (finished_flushed writer).trans within.unfinished,
      (rootClosed_flushed writer).trans within.rootOpen,
      fun none => within.inElement ((openNames_flushed writer).symm.trans none)⟩

/-! ## Events within an element -/

theorem characters_eq {writer : Writer} (works : writer.device.fault = none)
    (unfinished : writer.finished = false) (inElement : writer.openNames.isEmpty = false)
    (text : String) :
    (writer.characters text).refusal = none ∧
      (writer.characters text).state = writer.put (escape (mend text)) := by
  rw [characters, unfinished, inElement]
  by_cases empty : text = ""
  · subst empty
    exact ⟨rfl, rfl⟩
  · have something : escape (mend text) ≠ "" :=
      fun nothing => empty ((escape_mend_eq_empty_iff text).mp nothing)
    have notEmpty : text.isEmpty = false := by
      simpa using empty
    rw [put_of_ne_empty writer something, notEmpty]
    simp only [Bool.false_eq_true, if_false, flushThen_eq works,
      writeThen_eq ((fault_flushed writer).trans works)]
    exact ⟨rfl, rfl⟩

theorem characters_within {writer : Writer} (within : writer.Within) (text : String) :
    (writer.characters text).refusal = none ∧
      (writer.characters text).state = writer.put (escape (mend text)) :=
  characters_eq within.works within.unfinished (by simpa using within.inElement) text

/-- The writer with the start tag of one more element held back. -/
def opened (writer : Writer) (name classValue : String) (attributes : List Attribute) : Writer :=
  { writer.flushed with
    pending := some ⟨name, classValue, attributes.map mendAttribute⟩
    openNames := name :: writer.flushed.openNames }

theorem startElement_within {writer : Writer} (within : writer.Within) (name classValue : String)
    (attributes : List Attribute) :
    (writer.startElement name classValue attributes).refusal = none ∧
      (writer.startElement name classValue attributes).state =
        writer.opened name classValue attributes := by
  have inElement : writer.openNames.isEmpty = false := by
    simpa using within.inElement
  rw [startElement, within.unfinished, within.rootOpen, inElement]
  simp only [Bool.false_eq_true, if_false, flushThen_eq within.works]
  exact ⟨rfl, rfl⟩

theorem Within.opened {writer : Writer} (works : writer.device.fault = none)
    (unfinished : writer.finished = false) (rootOpen : writer.rootClosed = false)
    (name classValue : String) (attributes : List Attribute) :
    (writer.opened name classValue attributes).Within where
  works := (fault_flushed writer).trans works
  unfinished := (finished_flushed writer).trans unfinished
  rootOpen := (rootClosed_flushed writer).trans rootOpen
  inElement := List.cons_ne_nil _ _

/-- The writer after an element with nothing but the text `content` in it. -/
def closed (writer : Writer) (name classValue : String) (attributes : List Attribute)
    (content : String) : Writer :=
  let tag : StartTag := ⟨name, classValue, attributes.map mendAttribute⟩
  let text :=
    if content = "" then tag.selfClosing else tag.opening ++ content ++ closingTag name
  { writer.flushed.append text with
    rootClosed := writer.rootClosed || writer.openNames.isEmpty }

theorem endElement_within {writer : Writer} (works : writer.device.fault = none)
    (unfinished : writer.finished = false) {name : String} {rest : List String}
    (names : writer.openNames = name :: rest) :
    writer.endElement.refusal = none ∧
      writer.endElement.state =
        { ({ writer with openNames := rest, pending := none } : Writer).append
            (match writer.pending with
            | some tag => tag.selfClosing
            | none => closingTag name) with
          rootClosed := writer.rootClosed || rest.isEmpty } := by
  rw [endElement, unfinished, names]
  simp only [Bool.false_eq_true, if_false]
  rw [writeThen_eq (by exact works)]
  exact ⟨rfl, rfl⟩

/-- The end of an element finds its start tag still held back if no text came after it, and written
otherwise. -/
theorem endElement_opened {writer : Writer} (works : writer.device.fault = none)
    (unfinished : writer.finished = false) (name classValue : String)
    (attributes : List Attribute) (content : String) :
    ((writer.opened name classValue attributes).put content).endElement.refusal = none ∧
      ((writer.opened name classValue attributes).put content).endElement.state =
        writer.closed name classValue attributes content := by
  have flushedWorks := (fault_flushed writer).trans works
  have flushedUnfinished := (finished_flushed writer).trans unfinished
  have nothingHeld := pending_flushed writer
  by_cases empty : content = ""
  · rw [empty, put_empty]
    have openedWorks : (writer.opened name classValue attributes).device.fault = none :=
      flushedWorks
    have ended := endElement_within openedWorks flushedUnfinished rfl
    refine ⟨ended.1, ended.2.trans ?_⟩
    rw [closed, ← openNames_flushed writer, ← rootClosed_flushed writer]
    simp only [opened, append, if_true, nothingHeld]
  · rw [put_of_ne_empty _ empty]
    have openedWorks :
        ((writer.opened name classValue attributes).flushed.append content).device.fault = none :=
      flushedWorks
    have ended := endElement_within openedWorks flushedUnfinished rfl
    refine ⟨ended.1, ended.2.trans ?_⟩
    rw [closed, if_neg empty, ← openNames_flushed writer, ← rootClosed_flushed writer,
      String.append_assoc, ← append_append, ← append_append]
    simp only [append, nothingHeld]
    rfl

/-- Within an element, an element that is closed was put there like any other content. -/
theorem closed_eq_put {writer : Writer} (within : writer.Within) (name classValue : String)
    (attributes : List Attribute) (children : List EventTree) :
    writer.closed name classValue attributes (EventTree.xmlTextAll children) =
      writer.put (EventTree.element name classValue attributes children).xmlText := by
  have inElement : writer.openNames.isEmpty = false := by
    simpa using within.inElement
  have something := EventTree.xmlText_element_ne_empty name classValue attributes children
  have root := rootClosed_flushed writer
  rw [put_of_ne_empty writer something, EventTree.xmlText_element, closed, inElement,
    Bool.or_false, ← root]
  rfl

end Writer

/-- Trees below an open element are written as their text. -/
theorem feed_eventsAll (forest : List EventTree) :
    ∀ {writer : Writer}, writer.Within →
      sink.feed writer (EventTree.eventsAll forest) =
        (writer.put (EventTree.xmlTextAll forest), none) := by
  induction forest using EventTree.forestInduction with
  | nil =>
      intro writer within
      rw [EventTree.eventsAll_nil, EventTree.xmlTextAll_nil, Writer.put_empty]
      rfl
  | characters text rest inRest =>
      intro writer within
      have accepted := Writer.characters_within within text
      rw [EventTree.eventsAll_cons, EventTree.events_characters, List.singleton_append,
        Sink.feed_cons_of_accepted accepted.1]
      change sink.feed (writer.characters text).state (EventTree.eventsAll rest) = _
      rw [accepted.2, inRest (within.put _), Writer.put_put, EventTree.xmlTextAll_cons,
        EventTree.xmlText_characters]
  | element name classValue attributes children rest inChildren inRest =>
      intro writer within
      have started := Writer.startElement_within within name classValue attributes
      have inside := inChildren
        (Writer.Within.opened within.works within.unfinished within.rootOpen name classValue attributes)
      have ended := Writer.endElement_opened within.works within.unfinished name classValue
        attributes (EventTree.xmlTextAll children)
      rw [EventTree.eventsAll_cons, EventTree.events_element, List.cons_append, List.append_assoc,
        Sink.feed_cons_of_accepted started.1]
      change sink.feed (writer.startElement name classValue attributes).state _ = _
      rw [started.2, Sink.feed_append_of_accepted inside, List.singleton_append,
        Sink.feed_cons_of_accepted ended.1]
      change sink.feed (Writer.endElement _).state _ = _
      rw [ended.2, Writer.closed_eq_put within, inRest (within.put _), Writer.put_put,
        EventTree.xmlTextAll_cons]

/-- The writer with one element written and closed, and nothing after it. -/
def afterRoot (root : EventTree) : Writer :=
  { device := { written := Writer.declaration ++ root.xmlText }
    rootClosed := true }

/-- One element is written as the declaration and its text, and the writer refuses none of its
events. -/
theorem feed_root (name classValue : String) (attributes : List Attribute)
    (children : List EventTree) :
    let root : EventTree := .element name classValue attributes children
    sink.feed {} root.events = (afterRoot root, none) := by
  intro root
  let declared : Writer := ({} : Writer).append Writer.declaration
  have started : (({} : Writer).startElement name classValue attributes).refusal = none ∧
      (({} : Writer).startElement name classValue attributes).state =
        declared.opened name classValue attributes := ⟨rfl, rfl⟩
  have works : declared.device.fault = none := rfl
  have inside := feed_eventsAll children
    (Writer.Within.opened works rfl rfl name classValue attributes)
  have ended := Writer.endElement_opened works rfl name classValue attributes
    (EventTree.xmlTextAll children)
  rw [EventTree.events_element, Sink.feed_cons_of_accepted started.1]
  change sink.feed (Writer.startElement _ _ _ _).state _ = _
  rw [started.2, Sink.feed_append_of_accepted inside, Sink.feed_cons_of_accepted ended.1]
  change sink.feed (Writer.endElement _).state _ = _
  rw [ended.2, afterRoot, EventTree.xmlText_element]
  simp [Writer.closed, Writer.flushed, Writer.append, declared, Sink.feed]

/-- A document of one element is written as the declaration and the text of the element, and the
writer refuses none of its events. -/
theorem feed_document (name classValue : String) (attributes : List Attribute)
    (children : List EventTree) :
    let root : EventTree := .element name classValue attributes children
    sink.feed {} (root.events ++ [.endDocument]) =
      ({ device := { written := Writer.declaration ++ root.xmlText }
         rootClosed := true
         finished := true }, none) := by
  intro root
  rw [Sink.feed_append_of_accepted (feed_root name classValue attributes children)]
  simp [afterRoot, Sink.feed, sink, Writer.endDocument, Writer.writeThen, Device.write,
    Writer.accept, root]

end Xml

end TopicPress
