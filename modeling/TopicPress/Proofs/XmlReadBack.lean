import TopicPress.Proofs.XmlReading

/-!
# What is written is read back

The reader is followed through the text of a tree, from its end to its beginning: if what comes after
is read as it should be, whatever text stands directly before it, then so is the text of the tree
with it.  Two things cannot be told from what is written and are left open by that: where one text
was cut into several, and whether an element without a closing tag was given no content or only
empty texts.  Condensing the events removes just these, and mending takes care of the characters
that are not written as they are.  The end of the document is a third; nothing is written for it.
-/

namespace TopicPress

namespace Xml.Reader

/-! ## Reading within an element -/

/-- Texts and tags that are read as events, whatever text is written directly before them. -/
def Reads (content : List Char) (events : List Event) : Prop :=
  ∀ begun, content? ((escape begun).toList ++ content) = some (Event.joinTexts begun events)

theorem Reads.nil : Reads [] [] := by
  intro begun
  rw [List.append_nil, content?, List.splitOn_eq_singleton (not_mem_escape rfl begun)]
  simp [text?_escape, Event.joinTexts]

theorem Reads.content {content : List Char} {events : List Event} (reads : Reads content events) :
    content? content = some (Event.joinTexts "" events) :=
  reads ""

/-- Text goes on with the text before it. -/
theorem Reads.text {rest : List Char} {later : List Event} (reads : Reads rest later)
    (text : String) : Reads ((escape text).toList ++ rest) (.characters text :: later) := by
  intro begun
  have together : (escape begun).toList ++ ((escape text).toList ++ rest) =
      (escape (begun ++ text)).toList ++ rest := by
    simp [escape]
  rw [together, reads]
  rfl

theorem Reads.closingTag {rest : List Char} {later : List Event} (reads : Reads rest later)
    {name : String} (named : Grammar.isName name.toList = true) :
    Reads ((Writer.closingTag name).toList ++ rest) (.endElement :: later) := by
  intro begun
  rw [closingTag_append, content?_append (not_mem_escape rfl begun) (not_mem_end rfl named)
    (not_mem_end rfl named) (text?_escape begun) rfl reads.content]
  simp [Event.joinTexts]

/-- The tag of an element, with what is read after it. -/
theorem Reads.startTag {rest : List Char} {later : List Event} (reads : Reads rest later)
    (alone : Bool) {tag : StartTag} (named : Grammar.isName tag.name.toList = true)
    (attributesNamed : ∀ item ∈ tag.attributes, Grammar.isName item.name.toList = true)
    (begun : String) :
    content? ((escape begun).toList ++
      '<' :: ((tag.inner.toList ++ slash alone) ++ '>' :: rest)) =
        some (Event.ofText begun ++ .startElement tag.name tag.classValue tag.attributes ::
          ((if alone then [.endElement] else []) ++ Event.joinTexts "" later)) := by
  rw [content?_append (not_mem_escape rfl begun) (not_mem_inner_slash rfl alone named attributesNamed)
    (not_mem_inner_slash rfl alone named attributesNamed) (text?_escape begun)
    (tag?_inner alone named attributesNamed) reads.content]
  simp

theorem Reads.opening {rest : List Char} {later : List Event} (reads : Reads rest later)
    {tag : StartTag} (named : Grammar.isName tag.name.toList = true)
    (attributesNamed : ∀ item ∈ tag.attributes, Grammar.isName item.name.toList = true) :
    Reads (tag.opening.toList ++ rest)
      (.startElement tag.name tag.classValue tag.attributes :: later) := by
  intro begun
  rw [opening_append, reads.startTag false named attributesNamed]
  simp [Event.joinTexts]

/-- The only tag of an element, whose content joins to nothing. -/
theorem Reads.selfClosing {rest : List Char} {later : List Event} (reads : Reads rest later)
    {tag : StartTag} (named : Grammar.isName tag.name.toList = true)
    (attributesNamed : ∀ item ∈ tag.attributes, Grammar.isName item.name.toList = true)
    {inside : List Event}
    (nothing : Event.joinTexts "" inside = Event.joinTexts "" (.endElement :: later)) :
    Reads (tag.selfClosing.toList ++ rest)
      (.startElement tag.name tag.classValue tag.attributes :: inside) := by
  intro begun
  rw [selfClosing_append, reads.startTag true named attributesNamed]
  simp [Event.joinTexts, nothing]

end Xml.Reader

/-- The names in an event are names of XML. -/
def Event.IsNamed : Event → Prop
  | .startElement name _ attributes =>
    Xml.Grammar.isName name.toList = true ∧
      ∀ item ∈ attributes, Xml.Grammar.isName item.name.toList = true
  | _ => True

namespace Xml.Reader

/-- A way of reading that goes on through each of the pieces that the writer puts together. -/
structure Piecewise (reads : List Char → List Event → Prop) : Prop where
  text : ∀ {rest : List Char} {later : List Event}, reads rest later → ∀ text : String,
    reads ((escape text).toList ++ rest) (.characters text :: later)
  closingTag : ∀ {rest : List Char} {later : List Event}, reads rest later →
    ∀ {name : String}, Grammar.isName name.toList = true →
      reads ((Writer.closingTag name).toList ++ rest) (.endElement :: later)
  opening : ∀ {rest : List Char} {later : List Event}, reads rest later →
    ∀ {tag : StartTag}, Grammar.isName tag.name.toList = true →
      (∀ item ∈ tag.attributes, Grammar.isName item.name.toList = true) →
        reads (tag.opening.toList ++ rest)
          (.startElement tag.name tag.classValue tag.attributes :: later)
  selfClosing : ∀ {rest : List Char} {later : List Event}, reads rest later →
    ∀ {tag : StartTag}, Grammar.isName tag.name.toList = true →
      (∀ item ∈ tag.attributes, Grammar.isName item.name.toList = true) →
        ∀ {inside : List Event},
          Event.joinTexts "" inside = Event.joinTexts "" (.endElement :: later) →
            reads (tag.selfClosing.toList ++ rest)
              (.startElement tag.name tag.classValue tag.attributes :: inside)

theorem piecewise_reads : Piecewise Reads :=
  ⟨Reads.text, Reads.closingTag, Reads.opening, Reads.selfClosing⟩

/-- Trees of which nothing is written hold nothing but empty texts. -/
theorem joinTexts_of_xmlTextAll_empty (forest : List EventTree) :
    EventTree.xmlTextAll forest = "" → ∀ begun later,
      Event.joinTexts begun ((EventTree.eventsAll forest).map Event.mended ++ later) =
        Event.joinTexts begun later := by
  induction forest using EventTree.forestInduction with
  | nil =>
      intro empty begun later
      rw [EventTree.eventsAll_nil]
      rfl
  | characters text others inOthers =>
      intro empty begun later
      rw [EventTree.xmlTextAll_cons, String.append_eq_empty_iff, EventTree.xmlText_characters,
        escape_mend_eq_empty_iff] at empty
      have joined := inOthers empty.2 begun later
      rw [EventTree.eventsAll_cons, EventTree.events_characters, empty.1]
      simpa [Event.mended, Event.joinTexts] using joined
  | element name classValue attributes children others inChildren inOthers =>
      intro empty begun later
      rw [EventTree.xmlTextAll_cons, String.append_eq_empty_iff] at empty
      exact absurd empty.1 (EventTree.xmlText_element_ne_empty name classValue attributes children)

/-- The text of trees is read as their events, mended, with what comes after them. -/
theorem Piecewise.xmlTextAll {reads : List Char → List Event → Prop} (piecewise : Piecewise reads)
    (forest : List EventTree) :
    (∀ event ∈ EventTree.eventsAll forest, event.IsNamed) →
      ∀ {rest : List Char} {later : List Event}, reads rest later →
        reads ((EventTree.xmlTextAll forest).toList ++ rest)
          ((EventTree.eventsAll forest).map Event.mended ++ later) := by
  induction forest using EventTree.forestInduction with
  | nil =>
      intro named rest later isRead
      rw [EventTree.xmlTextAll_nil, EventTree.eventsAll_nil]
      exact isRead
  | characters text others inOthers =>
      intro named rest later isRead
      rw [EventTree.eventsAll_cons, List.forall_mem_append] at named
      have after := piecewise.text (inOthers named.2 isRead) (mend text)
      rw [EventTree.xmlTextAll_cons, EventTree.xmlText_characters, String.toList_append,
        List.append_assoc, EventTree.eventsAll_cons, EventTree.events_characters]
      exact after
  | element name classValue attributes children others inChildren inOthers =>
      intro named rest later isRead
      rw [EventTree.eventsAll_cons, EventTree.events_element, List.forall_mem_append,
        List.forall_mem_cons, List.forall_mem_append] at named
      have startNamed := named.1.1
      -- From the end to the beginning: what comes after the element, its end tag, its content.
      have after := inOthers named.2 isRead
      have inside := inChildren named.1.2.1 (piecewise.closingTag after startNamed.1)
      let tag : StartTag := ⟨name, classValue, attributes.map Writer.mendAttribute⟩
      have tagNamed : Grammar.isName tag.name.toList = true := startNamed.1
      have attributesNamed : ∀ item ∈ tag.attributes, Grammar.isName item.name.toList = true :=
        List.forall_mem_map.mpr startNamed.2
      have events : (EventTree.eventsAll
          (.element name classValue attributes children :: others)).map Event.mended ++ later =
          .startElement tag.name tag.classValue tag.attributes ::
            ((EventTree.eventsAll children).map Event.mended ++
              .endElement :: ((EventTree.eventsAll others).map Event.mended ++ later)) := by
        simp [Event.mended, tag]
      rw [events, EventTree.xmlTextAll_cons, EventTree.xmlText_element]
      by_cases empty : EventTree.xmlTextAll children = ""
      · -- The end of the element is read with the start, so the content has to be read as nothing.
        have nothing := joinTexts_of_xmlTextAll_empty children empty ""
        have whole := piecewise.selfClosing after tagNamed attributesNamed (nothing _)
        simpa [empty, tag] using whole
      · have whole := piecewise.opening inside tagNamed attributesNamed
        simpa [empty, tag] using whole

/-! ## Documents -/

theorem skipDeclaration_declaration (rest : List Char) :
    skipDeclaration (Writer.declaration.toList ++ rest) = rest := by
  have parts : Writer.declaration.toList ++ rest =
      '<' :: '?' :: ("xml version=\"1.0\" encoding=\"UTF-8\"?".toList ++ '>' :: rest) := rfl
  have notClosed : '>' ∉ "xml version=\"1.0\" encoding=\"UTF-8\"?".toList := by decide
  rw [parts, skipDeclaration, dropWhile_of_not_mem notClosed]
  rfl

/-- The declaration and the text of an element are read as the condensed events of the element. -/
theorem events?_afterRoot {root : EventTree} (named : ∀ event ∈ root.events, event.IsNamed) :
    events? (afterRoot root).device.written = some (Event.condense root.events) := by
  have all : EventTree.eventsAll [root] = root.events := by simp
  have text : EventTree.xmlTextAll [root] = root.xmlText := by simp
  have read := (piecewise_reads.xmlTextAll [root] (all ▸ named) Reads.nil).content
  rw [all, text, List.append_nil, List.append_nil] at read
  rw [events?, afterRoot, String.toList_append, skipDeclaration_declaration, read]
  rfl

end Xml.Reader

/-! ## The writer and the reader -/

/-- Events of one element, and perhaps the end of the document, with names of XML in them. -/
structure IsDocument (events : List Event) : Prop where
  oneRoot : ∃ name classValue attributes children ending,
    events = (EventTree.element name classValue attributes children).events ++ ending ∧
      (ending = [] ∨ ending = [.endDocument])
  named : ∀ event ∈ events, event.IsNamed

/-- The events without the end of the document. -/
def Event.withoutEnd (events : List Event) : List Event := events.filter (· != .endDocument)

theorem EventTree.withoutEnd_eventsAll (forest : List EventTree) {ending : List Event}
    (ended : ending = [] ∨ ending = [.endDocument]) :
    Event.withoutEnd (eventsAll forest ++ ending) = eventsAll forest := by
  have kept : ∀ event ∈ eventsAll forest, (event != .endDocument) = true := fun event member =>
    bne_iff_ne.mpr (fun last => endDocument_not_mem forest (last ▸ member))
  rw [Event.withoutEnd, List.filter_append, List.filter_eq_self.mpr kept]
  rcases ended with rfl | rfl <;> simp

namespace Xml

/-- What the writer has written when it has been given events. -/
def written (events : List Event) : String := (sink.feed {} events).1.device.written

/-- The events of one element are accepted and written, whether the document ends or not. -/
theorem written_element (name classValue : String) (attributes : List Attribute)
    (children : List EventTree) {ending : List Event}
    (ended : ending = [] ∨ ending = [.endDocument]) :
    let root : EventTree := .element name classValue attributes children
    (sink.feed {} (root.events ++ ending)).2 = none ∧
      written (root.events ++ ending) = (afterRoot root).device.written := by
  intro root
  rw [written]
  rcases ended with rfl | rfl
  · rw [List.append_nil, feed_root]
    exact ⟨rfl, rfl⟩
  · rw [feed_document]
    exact ⟨rfl, rfl⟩

/-- The events of a document are accepted, and what is written of them is the text of one element. -/
theorem written_eq_afterRoot {events : List Event} (document : IsDocument events) :
    ∃ name classValue attributes children,
      let root : EventTree := .element name classValue attributes children
      root.events <+: events ∧ Event.withoutEnd events = root.events ∧
        (sink.feed {} events).2 = none ∧ written events = (afterRoot root).device.written := by
  rcases document.oneRoot with ⟨name, classValue, attributes, children, ending, rfl, ended⟩
  refine ⟨name, classValue, attributes, children, List.prefix_append _ _, ?_,
    written_element name classValue attributes children ended⟩
  have unended := EventTree.withoutEnd_eventsAll
    [.element name classValue attributes children] ended
  rwa [EventTree.eventsAll_cons, EventTree.eventsAll_nil, List.append_nil] at unended

/-- What is written of the events of a document is read as the same events but for their texts; the
end of the document leaves nothing to read. -/
theorem events?_written {events : List Event} (document : IsDocument events) :
    (sink.feed {} events).2 = none ∧
      Reader.events? (written events) = some (Event.condense (Event.withoutEnd events)) := by
  rcases written_eq_afterRoot document with ⟨_, _, _, _, begun, unended, accepted, text⟩
  have named := fun event member => document.named event (begun.subset member)
  rw [unended, text]
  exact ⟨accepted, Reader.events?_afterRoot named⟩

/-- What the writer makes of the events of a document can be read back: the reader gives the events
with their texts mended and in one piece, without the end of the document.  So two documents of
which the same is written differ in their texts, in these respects, and in whether they end. -/
theorem written_readBack {first second : List Event} (firstDocument : IsDocument first)
    (secondDocument : IsDocument second) :
    (sink.feed {} first).2 = none ∧
      Reader.events? (written first) = some (Event.condense (Event.withoutEnd first)) ∧
      (written first = written second →
        Event.SameButTexts (Event.withoutEnd first) (Event.withoutEnd second)) := by
  rcases events?_written firstDocument with ⟨accepted, firstRead⟩
  have secondRead := (events?_written secondDocument).2
  refine ⟨accepted, firstRead, ?_⟩
  intro same
  rw [same, secondRead, Option.some.injEq] at firstRead
  exact Event.SameButTexts.of_condense_eq firstRead.symm

/-- A text in three pieces, one of them empty, and in one piece; a value with a character that XML
has no place for, and with the one that takes its place; with the end of the document and
without. -/
theorem written_of_pieces_readBack :
    let pieces : List Event := [.startElement "p" "- topic/p " [⟨"id", "a\u0001"⟩],
      .characters "1 < ", .characters "", .characters "2", .endElement, .endDocument]
    let whole : List Event := [.startElement "p" "- topic/p " [⟨"id", "a\uFFFD"⟩],
      .characters "1 < 2", .endElement]
    IsDocument pieces ∧ IsDocument whole ∧ written pieces = written whole ∧
      (sink.feed {} pieces).2 = none ∧ Reader.events? (written pieces) = some whole ∧
      Event.SameButTexts (Event.withoutEnd pieces) (Event.withoutEnd whole) := by
  intro pieces whole
  have piecesDocument : IsDocument pieces :=
    ⟨⟨"p", "- topic/p ", [⟨"id", "a\u0001"⟩],
      [.characters "1 < ", .characters "", .characters "2"], [.endDocument],
      by simp [pieces], Or.inr rfl⟩, by simp [pieces, Event.IsNamed]; decide⟩
  have wholeDocument : IsDocument whole :=
    ⟨⟨"p", "- topic/p ", [⟨"id", "a\uFFFD"⟩], [.characters "1 < 2"], [],
      by simp [whole], Or.inl rfl⟩, by simp [whole, Event.IsNamed]; decide⟩
  have same : written pieces = written whole := by decide +kernel
  have condensed : Event.condense (Event.withoutEnd pieces) = whole := by decide +kernel
  rcases written_readBack piecesDocument wholeDocument with ⟨accepted, read, differ⟩
  rw [condensed] at read
  exact ⟨piecesDocument, wholeDocument, same, accepted, read, differ same⟩

/-- The end of the document is not among what is read: the same is written with it and without it,
so no reader can tell the two apart. -/
theorem written_endDocument_indistinct :
    let unended : List Event := [.startElement "a" "" [], .endElement]
    let ended : List Event := [.startElement "a" "" [], .endElement, .endDocument]
    IsDocument unended ∧ IsDocument ended ∧ written unended = written ended ∧
      ¬ Event.SameButTexts unended ended ∧
      ∀ read : String → Option (List Event), ¬ (read (written unended) = some unended ∧
        read (written ended) = some ended) := by
  intro unended ended
  have unendedDocument : IsDocument unended :=
    ⟨⟨"a", "", [], [], [], by simp [unended], Or.inl rfl⟩,
      by simp [unended, Event.IsNamed]; decide⟩
  have endedDocument : IsDocument ended :=
    ⟨⟨"a", "", [], [], [.endDocument], by simp [ended], Or.inr rfl⟩,
      by simp [ended, Event.IsNamed]; decide⟩
  have same : written unended = written ended := by decide +kernel
  refine ⟨unendedDocument, endedDocument, same, ?_, ?_⟩
  · rw [Event.SameButTexts.iff_condense_eq]
    decide +kernel
  · rintro read ⟨unendedRead, endedRead⟩
    rw [same, endedRead] at unendedRead
    exact absurd (Option.some.inj unendedRead) (by decide)

end Xml

end TopicPress
