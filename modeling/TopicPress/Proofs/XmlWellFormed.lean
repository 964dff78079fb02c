import TopicPress.Proofs.Vocabulary
import TopicPress.Proofs.XmlGrammar
import TopicPress.Proofs.XmlStream

/-!
# Every document is well-formed XML

Two facts are put together.  A tree is written as an element of the grammar whenever its elements
have names, classes and attribute names that XML allows, and no attribute twice; texts and attribute
values are free, since they are mended and escaped.  The trees of documents have only elements and
attributes of a fixed vocabulary, whatever the document holds, so they satisfy that condition.
-/

namespace TopicPress

open Xml Xml.Grammar
open Dita (Element)

/-! ## Characters that are written -/

namespace Xml

theorem isAllowed_iff (c : Char) : isAllowed c = true ↔ IsCharacter c := by
  have sane := c.valid
  have tab : (c == '\t') = true ↔ c.toNat = 0x9 := by
    rw [beq_iff_eq, ← Char.toNat_inj]; rfl
  have lineFeed : (c == '\n') = true ↔ c.toNat = 0xA := by
    rw [beq_iff_eq, ← Char.toNat_inj]; rfl
  have carriageReturn : (c == '\r') = true ↔ c.toNat = 0xD := by
    rw [beq_iff_eq, ← Char.toNat_inj]; rfl
  have scalar : c.toNat < 0xD800 ∨ (0xDFFF < c.toNat ∧ c.toNat < 0x110000) := sane
  simp only [isAllowed, Bool.or_eq_true, Bool.and_eq_true, tab, lineFeed, carriageReturn,
    decide_eq_true_eq, bne_iff_ne, IsCharacter]
  omega

private theorem data_reference (entity : String)
    (predefined : entity.toList ∈ predefinedEntities) {rest : List Char} (derived : Data rest) :
    Data (('&' :: (entity.toList ++ [';'])) ++ rest) := by
  simpa using Data.reference predefined derived

/-- An escaped character is data, whatever follows it. -/
theorem data_escapeCharacter {c : Char} (allowed : isAllowed c = true) {rest : List Char}
    (derived : Data rest) : Data (escapeCharacter c ++ rest) := by
  unfold escapeCharacter
  split
  · exact data_reference "lt" (by decide) derived
  · exact data_reference "gt" (by decide) derived
  · exact data_reference "amp" (by decide) derived
  · exact data_reference "apos" (by decide) derived
  · exact data_reference "quot" (by decide) derived
  · rename_i notLess notGreater notAmpersand notApostrophe notQuote
    refine .character ((isAllowed_iff c).mp allowed) ?_ derived
    intro member
    simp only [reserved, List.mem_cons, List.not_mem_nil, or_false] at member
    rcases member with same | same | same | same | same
    · exact notLess same
    · exact notGreater same
    · exact notAmpersand same
    · exact notApostrophe same
    · exact notQuote same

private theorem data_flatMap_escapeCharacter {chars : List Char}
    (allowed : ∀ c ∈ chars, isAllowed c = true) : Data (chars.flatMap escapeCharacter) := by
  induction chars with
  | nil => exact .nil
  | cons c rest inductionHypothesis =>
      rw [List.flatMap_cons]
      exact data_escapeCharacter (allowed c List.mem_cons_self)
        (inductionHypothesis (fun later member => allowed later (List.mem_cons_of_mem c member)))

theorem data_escape {text : String} (allowed : ∀ c ∈ text.toList, isAllowed c = true) :
    Data (escape text).toList := by
  rw [escape, String.toList_ofList]
  exact data_flatMap_escapeCharacter allowed

theorem data_escape_mend (text : String) : Data (escape (mend text)).toList := by
  apply data_escape
  intro c member
  rw [mend, String.toList_ofList] at member
  rcases List.mem_map.mp member with ⟨original, _, rfl⟩
  exact isAllowed_mendCharacter original

/-! ## Tags and elements -/

/-- Attributes whose names and values XML allows, each after a blank. -/
theorem attributes_derived {attributes : List Attribute}
    (named : ∀ item ∈ attributes, isName item.name.toList = true)
    (valued : ∀ item ∈ attributes, Data (escape item.value).toList) :
    Attributes (attributes.map (fun item => item.name.toList))
      (String.join (attributes.map StartTag.attributeText)).toList := by
  induction attributes with
  | nil => exact .nil
  | cons item rest inductionHypothesis =>
      have later := inductionHypothesis
        (fun other member => named other (List.mem_cons_of_mem item member))
        (fun other member => valued other (List.mem_cons_of_mem item member))
      have whole := Attributes.cons (named item List.mem_cons_self)
        (valued item List.mem_cons_self) later
      simpa [StartTag.attributeText] using whole

end Xml

/-- The start of an element has a form that XML allows: names for itself and its attributes, a class
that needs no mending, and no attribute twice. -/
def Event.FitsXml : Event → Prop
  | .startElement name classValue attributes =>
    isName name.toList = true ∧ (∀ c ∈ classValue.toList, isAllowed c = true) ∧
      ("class" :: attributes.map Attribute.name).Nodup ∧
      ∀ item ∈ attributes, isName item.name.toList = true
  | _ => True

namespace Xml

theorem tag_derived {name classValue : String} {attributes : List Attribute}
    (fits : (Event.startElement name classValue attributes).FitsXml) :
    Tag name.toList
      (StartTag.inner ⟨name, classValue, attributes.map Writer.mendAttribute⟩).toList := by
  rcases fits with ⟨named, classAllowed, distinct, attributesNamed⟩
  have derived : Attributes
      ((⟨"class", classValue⟩ :: attributes.map Writer.mendAttribute : List Attribute).map
        (fun item => item.name.toList))
      (String.join ((⟨"class", classValue⟩ :: attributes.map Writer.mendAttribute).map
        StartTag.attributeText)).toList := by
    apply attributes_derived
    · intro item member
      rcases List.mem_cons.mp member with rfl | later
      · exact (by decide : isName "class".toList = true)
      · rcases List.mem_map.mp later with ⟨original, listed, rfl⟩
        exact attributesNamed original listed
    · intro item member
      rcases List.mem_cons.mp member with rfl | later
      · exact data_escape classAllowed
      · rcases List.mem_map.mp later with ⟨original, listed, rfl⟩
        exact data_escape_mend original.value
  have apart : ((⟨"class", classValue⟩ :: attributes.map Writer.mendAttribute :
      List Attribute).map (fun item => item.name.toList)).Nodup := by
    have asText : (⟨"class", classValue⟩ :: attributes.map Writer.mendAttribute :
        List Attribute).map (fun item => item.name.toList) =
          ("class" :: attributes.map Attribute.name).map String.toList := by
      simp [Writer.mendAttribute]
    rw [asText]
    exact List.Pairwise.map String.toList
      (fun first second different same => different (String.toList_inj.mp same)) distinct
  have tag := Tag.intro named derived apart
  rwa [StartTag.inner, String.toList_append]

/-- The text of trees is content if their starts have a form that XML allows, and a single element
among them is an element of the grammar. -/
theorem element_derived {name classValue : String} {attributes : List Attribute}
    {children : List EventTree} (fits : (Event.startElement name classValue attributes).FitsXml)
    (inside : Content (EventTree.xmlTextAll children).toList) :
    Grammar.Element name.toList
      (EventTree.element name classValue attributes children).xmlText.toList := by
  have tag := tag_derived fits
  rw [EventTree.xmlText_element]
  split
  · simpa [StartTag.selfClosing] using Grammar.Element.empty tag
  · simpa [StartTag.opening, Writer.closingTag] using Grammar.Element.filled tag inside

theorem content_derived (forest : List EventTree) :
    (∀ event ∈ EventTree.eventsAll forest, event.FitsXml) →
      Content (EventTree.xmlTextAll forest).toList := by
  induction forest using EventTree.forestInduction with
  | nil =>
      intro fits
      rw [EventTree.xmlTextAll_nil]
      exact .nil
  | characters text rest inRest =>
      intro fits
      rw [EventTree.eventsAll_cons, List.forall_mem_append] at fits
      rw [EventTree.xmlTextAll_cons, EventTree.xmlText_characters, String.toList_append]
      exact .data (data_escape_mend text) (inRest fits.2)
  | element name classValue attributes children rest inChildren inRest =>
      intro fits
      rw [EventTree.eventsAll_cons, EventTree.events_element, List.forall_mem_append,
        List.forall_mem_cons, List.forall_mem_append] at fits
      rw [EventTree.xmlTextAll_cons, String.toList_append]
      exact .element (element_derived fits.1.1 (inChildren fits.1.2.1)) (inRest fits.2)

/-! ## Documents -/

private theorem vocabulary_fits {element : Element} (known : element ∈ Dita.Element.vocabulary) :
    isName element.name.toList = true ∧ ∀ c ∈ element.classValue.toList, isAllowed c = true := by
  have all : Dita.Element.vocabulary.all (fun element =>
      isName element.name.toList && element.classValue.toList.all isAllowed) = true := by
    decide +kernel
  have fits := List.all_eq_true.mp all element known
  rw [Bool.and_eq_true, List.all_eq_true] at fits
  exact fits

private theorem attributeNames_fit {names : List String} (known : names ∈ attributeNames) :
    ("class" :: names).Nodup ∧ ∀ name ∈ names, isName name.toList = true := by
  have all : ∀ names ∈ attributeNames, ("class" :: names).Nodup ∧
      ∀ name ∈ names, isName name.toList = true := by decide
  exact all names known

/-- What is of the vocabulary has a form that XML allows. -/
theorem fitsXml_of_inVocabulary {event : Event} (known : event.InVocabulary) : event.FitsXml := by
  cases event with
  | startElement name classValue attributes =>
      rcases known with ⟨knownElement, knownNames⟩
      rcases vocabulary_fits knownElement with ⟨named, classAllowed⟩
      rcases attributeNames_fit knownNames with ⟨distinct, attributesNamed⟩
      refine ⟨named, classAllowed, distinct, ?_⟩
      intro item member
      exact attributesNamed item.name (List.mem_map_of_mem member)
  | characters text => trivial
  | endElement => trivial
  | endDocument => trivial

/-- The topic of a document is written as an element of the grammar. -/
theorem topicTree_derived (options : RenderOptions) (document : Document) :
    Grammar.Element "topic".toList (document.topicTree options).xmlText.toList := by
  have fits : ∀ event ∈ EventTree.eventsAll [document.topicTree options], event.FitsXml :=
    fun event member =>
      fitsXml_of_inVocabulary (document.topicTree_inVocabulary options event member)
  rw [EventTree.eventsAll_cons, EventTree.eventsAll_nil, List.append_nil, Document.topicTree,
    EventTree.events_of, List.forall_mem_cons, List.forall_mem_append] at fits
  exact element_derived fits.1 (content_derived _ fits.2.1)

/-- What the writer makes of the whole topic and the end of the document. -/
private theorem feed_topicTree (options : RenderOptions) (document : Document) :
    sink.feed {} ((document.topicTree options).events ++ [.endDocument]) =
      ({ device := { written := Writer.declaration ++ (document.topicTree options).xmlText }
         rootClosed := true
         finished := true }, none) :=
  feed_document Element.topic.name Element.topic.classValue (document.topicAttributes options)
    (document.topicContent options)

/-- The writer accepts the events of every document, also of one that fails. -/
theorem accepts_render (options : RenderOptions) (document : Document) :
    (sink.feed {} (document.render options).events).2 = none := by
  apply Sink.feed_accepts_prefix (document.events_render_prefix options)
  rw [feed_topicTree]

/-- What the writer has written of a document that does not fail. -/
theorem written_render {options : RenderOptions} {document : Document}
    (succeeded : (document.render options).failure = none) :
    (render options document {}).state.device.written =
      Writer.declaration ++ (document.topicTree options).xmlText := by
  rw [render, Sink.play_state, Document.events_render_of_success succeeded, feed_topicTree]

/-- Writing a document as XML fails where its events fail, for the same reason; otherwise it gives a
well-formed document with one topic. -/
theorem ofDocument_wellFormed (options : RenderOptions) (document : Document) :
    match ofDocument options document, document.toEvents options with
    | .ok text, .ok _ => Grammar.WellFormed Element.topic.name text
    | .error (.unmapped found), .error (.unmapped expected) => found = expected
    | _, _ => False := by
  have outcome := Sink.play_result_of_accepted (accepts_render options document)
  rw [Document.toEvents_eq]
  simp only [ofDocument, render, outcome]
  cases reached : (document.render options).failure with
  | some context => rfl
  | none =>
      refine .of_element (topicTree_derived options document) ?_
      have written := written_render reached
      rw [render] at written
      rw [written, String.toList_append]
      rfl

end Xml

end TopicPress
