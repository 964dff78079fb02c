import TopicPress.Proofs.BalanceReading
import TopicPress.Proofs.EventText
import TopicPress.Proofs.XmlReadBack

/-!
# Writing as rendering a tree

The writer decides whether an element is empty when it sees what follows the start, and never sees
the element as a whole.  Seen as a whole, an element is empty if there is nothing in it but characters
without text.  The two ways of going about it come to the same text, for every element whose events
are given to the writer.  How the characters in it are cut into events is then no longer visible:
events that differ in nothing else are written alike.
-/

namespace TopicPress

open Xml

namespace EventTree

/-! ## Rendering -/

/-- Characters without any text. -/
def isBlank : EventTree → Bool
  | element _ _ _ _ => false
  | characters text => text.isEmpty

/-- An attribute as text, with a blank before it. -/
def attributeRendered (name value : String) : String := " " ++ name ++ "=\"" ++ escape value ++ "\""

/-- What stands in the tag that starts an element: its name, its class and its attributes, the values of
the latter with characters replaced that XML does not have. -/
def tagContent (name classValue : String) (attributes : List Attribute) : String :=
  name ++ attributeRendered "class" classValue
    ++ String.join (attributes.map (fun item => attributeRendered item.name (mend item.value)))

mutual

/-- A tree as text.  An element with nothing but blank characters in it has one tag. -/
def rendered (tree : EventTree) : String :=
  match tree with
  | element name classValue attributes children =>
    if children.all isBlank then "<" ++ tagContent name classValue attributes ++ "/>"
    else
      "<" ++ tagContent name classValue attributes ++ ">" ++ renderedAll children
        ++ "</" ++ name ++ ">"
  | characters text => escape (mend text)

/-- Trees as text, one after the other. -/
def renderedAll : List EventTree → String
  | [] => ""
  | tree :: rest => tree.rendered ++ renderedAll rest

end

theorem rendered_characters (text : String) :
    (characters text).rendered = escape (mend text) := by
  rw [rendered]

/-- The writer has the same in its tags. -/
theorem inner_eq_tagContent (name classValue : String) (attributes : List Attribute) :
    StartTag.inner ⟨name, classValue, attributes.map Writer.mendAttribute⟩ =
      tagContent name classValue attributes := by
  rw [StartTag.inner, tagContent, List.map_cons, String.join_cons, List.map_map,
    ← String.append_assoc]
  rfl

theorem rendered_element (name classValue : String) (attributes : List Attribute)
    (children : List EventTree) :
    (element name classValue attributes children).rendered =
      let tag : StartTag := ⟨name, classValue, attributes.map Writer.mendAttribute⟩
      if children.all isBlank then tag.selfClosing
      else tag.opening ++ renderedAll children ++ Writer.closingTag name := by
  simp only [rendered, StartTag.selfClosing, StartTag.opening, Writer.closingTag,
    inner_eq_tagContent, String.append_assoc]

theorem renderedAll_cons (tree : EventTree) (rest : List EventTree) :
    renderedAll (tree :: rest) = tree.rendered ++ renderedAll rest := by
  rw [renderedAll]

/-- Nothing is written of a tree if and only if it is blank. -/
theorem xmlText_eq_empty_iff (tree : EventTree) : tree.xmlText = "" ↔ tree.isBlank = true := by
  cases tree with
  | characters text =>
      rw [xmlText_characters, escape_mend_eq_empty_iff, isBlank, String.isEmpty_iff]
  | element name classValue attributes children =>
      have something := xmlText_element_ne_empty name classValue attributes children
      exact ⟨fun nothing => absurd nothing something, fun blank => absurd blank Bool.false_ne_true⟩

theorem xmlTextAll_eq_empty_iff (forest : List EventTree) :
    xmlTextAll forest = "" ↔ forest.all isBlank = true := by
  induction forest with
  | nil => simp
  | cons tree rest inductionHypothesis =>
      rw [xmlTextAll_cons, String.append_eq_empty_iff, xmlText_eq_empty_iff, inductionHypothesis,
        List.all_cons, Bool.and_eq_true]

theorem xmlTextAll_eq_renderedAll (forest : List EventTree) :
    xmlTextAll forest = renderedAll forest := by
  induction forest using forestInduction with
  | nil => rw [xmlTextAll_nil, renderedAll]
  | characters text rest inRest =>
      rw [xmlTextAll_cons, renderedAll_cons, xmlText_characters, rendered_characters, inRest]
  | element name classValue attributes children rest inChildren inRest =>
      rw [xmlTextAll_cons, renderedAll_cons, xmlText_element, rendered_element, inRest]
      simp only [xmlTextAll_eq_empty_iff]
      rw [inChildren]

theorem xmlText_eq_rendered (tree : EventTree) : tree.xmlText = tree.rendered := by
  have alone := xmlTextAll_eq_renderedAll [tree]
  rwa [xmlTextAll_cons, xmlTextAll_nil, renderedAll_cons, renderedAll, String.append_empty,
    String.append_empty] at alone

end EventTree

/-! ## Joining characters -/

namespace Xml

theorem escape_append (first second : String) :
    escape (first ++ second) = escape first ++ escape second := by
  simp [escape]

/-- A value is mended once and for all. -/
theorem Writer.map_mendAttribute_twice (attributes : List Attribute) :
    (attributes.map mendAttribute).map mendAttribute = attributes.map mendAttribute := by
  have once : mendAttribute ∘ mendAttribute = mendAttribute := by
    funext item
    simp [mendAttribute, mend_mend]
  rw [List.map_map, once]

end Xml

namespace EventTree

/-- A text as trees: one, or none if the text is empty. -/
def ofText (text : String) : List EventTree := if text = "" then [] else [characters text]

/-- Trees with all texts mended and each in one piece; `begun` is what has been joined so far. -/
def joined (begun : String) : List EventTree → List EventTree
  | [] => ofText begun
  | .characters text :: rest => joined (begun ++ mend text) rest
  | .element name classValue attributes children :: rest =>
    ofText begun ++
      .element name classValue (attributes.map Writer.mendAttribute) (joined "" children)
        :: joined "" rest

theorem eventsAll_ofText (text : String) : eventsAll (ofText text) = Event.ofText text := by
  rw [ofText, Event.ofText]
  split <;> simp

theorem xmlTextAll_ofText (text : String) : xmlTextAll (ofText text) = escape (mend text) := by
  rw [ofText]
  split
  · rename_i empty
    rw [empty]
    rfl
  · rw [xmlTextAll_cons, xmlTextAll_nil, xmlText_characters, String.append_empty]

theorem xmlTextAll_append (first second : List EventTree) :
    xmlTextAll (first ++ second) = xmlTextAll first ++ xmlTextAll second := by
  induction first with
  | nil => simp
  | cons tree rest inductionHypothesis =>
      rw [List.cons_append, xmlTextAll_cons, inductionHypothesis, xmlTextAll_cons,
        String.append_assoc]

/-- The events of trees are condensed to the events of the joined trees, up to events before which
the text that has been joined so far ends. -/
theorem joinTexts_eventsAll (forest : List EventTree) :
    ∀ begun rest,
      (∀ text, Event.joinTexts text rest = Event.ofText text ++ Event.joinTexts "" rest) →
        Event.joinTexts begun ((eventsAll forest).map Event.mended ++ rest) =
          eventsAll (joined begun forest) ++ Event.joinTexts "" rest := by
  induction forest using forestInduction with
  | nil =>
      intro begun rest ends
      rw [joined, eventsAll_ofText, ← ends]
      rfl
  | characters text later inLater =>
      intro begun rest ends
      rw [joined, ← inLater _ rest ends]
      simp [Event.mended, Event.joinTexts]
  | element name classValue attributes children later inChildren inLater =>
      intro begun rest ends
      -- For the children, the end of the element is where a text ends.
      have ended : ∀ more text, Event.joinTexts text (.endElement :: more) =
          Event.ofText text ++ Event.joinTexts "" (.endElement :: more) := fun _ _ => rfl
      rw [joined, eventsAll_append, eventsAll_ofText, eventsAll_cons, events_element]
      simp only [eventsAll_cons, events_element, List.map_append, List.map_cons, List.cons_append,
        List.append_assoc, List.nil_append, Event.mended, Event.joinTexts]
      rw [inChildren "" _ (ended _), Event.joinTexts, inLater "" rest ends]
      simp

/-- Joining the texts of trees changes nothing of what is written. -/
theorem xmlTextAll_joined (forest : List EventTree) :
    ∀ begun, xmlTextAll (joined begun forest) = escape (mend begun) ++ xmlTextAll forest := by
  induction forest using forestInduction with
  | nil =>
      intro begun
      rw [joined, xmlTextAll_ofText, xmlTextAll_nil, String.append_empty]
  | characters text rest inRest =>
      intro begun
      rw [joined, inRest, mend_append, mend_mend, escape_append, xmlTextAll_cons,
        xmlText_characters, String.append_assoc]
  | element name classValue attributes children rest inChildren inRest =>
      intro begun
      have nothing : escape (mend "") = "" := rfl
      rw [joined, xmlTextAll_append, xmlTextAll_ofText, xmlTextAll_cons, xmlTextAll_cons,
        xmlText_element, xmlText_element, inChildren, inRest, nothing, String.empty_append,
        String.empty_append, Writer.map_mendAttribute_twice]

/-- Condensing reaches into the trees and leaves the end of the document where it is. -/
theorem condense_eventsAll (forest : List EventTree) {ending : List Event}
    (ends : Event.IsEnding ending) :
    Event.condense (eventsAll forest ++ ending) = eventsAll (joined "" forest) ++ ending := by
  rw [Event.condense, List.map_append]
  rcases ends with rfl | rfl
  · exact joinTexts_eventsAll forest "" [] (fun text => (List.append_nil _).symm)
  · exact joinTexts_eventsAll forest "" [.endDocument] (fun _ => rfl)

/-- Trees are found in their events, whether the document ends or not. -/
theorem eventsAll_append_injective {first second : List EventTree} {ending other : List Event}
    (ends : Event.IsEnding ending) (otherEnds : Event.IsEnding other)
    (same : eventsAll first ++ ending = eventsAll second ++ other) : first = second := by
  have events : eventsAll first = eventsAll second := by
    rw [← withoutEnd_eventsAll first ends, same, withoutEnd_eventsAll second otherEnds]
  have read := forest?_eventsAll first
  rwa [events, forest?_eventsAll, Option.some.injEq, eq_comm] at read

/-- Trees whose events are the same but for their texts are written alike. -/
theorem xmlTextAll_eq_of_sameButTexts {first second : List EventTree} {ending other : List Event}
    (ends : Event.IsEnding ending) (otherEnds : Event.IsEnding other)
    (same : Event.SameButTexts (eventsAll first ++ ending) (eventsAll second ++ other)) :
    xmlTextAll first = xmlTextAll second := by
  have text : ∀ forest, xmlTextAll (joined "" forest) = xmlTextAll forest := fun forest =>
    (xmlTextAll_joined forest "").trans String.empty_append
  have events := Event.SameButTexts.iff_condense_eq.mp same
  rw [condense_eventsAll first ends, condense_eventsAll second otherEnds] at events
  rw [← text first, eventsAll_append_injective ends otherEnds events, text]

end EventTree

/-! ## The writer -/

namespace Xml

/-- Balanced events with an element in them are accepted, and what is written is the declaration and
the element as it is rendered.  If other balanced events differ from them only in how texts are cut,
in empty texts and in characters that are replaced, the same is written of those. -/
theorem written_eq_rendered {events : List Event} (balanced : checkBalanced events = .ok ())
    (started : ∃ name classValue attributes, .startElement name classValue attributes ∈ events) :
    ∃ name classValue attributes children ending,
      let root : EventTree := .element name classValue attributes children
      events = root.events ++ ending ∧ Event.IsEnding ending ∧
        (sink.feed {} events).2 = none ∧
        written events = "<?xml version=\"1.0\" encoding=\"UTF-8\"?>" ++ root.rendered ∧
        ∀ other, checkBalanced other = .ok () → Event.SameButTexts events other →
          written other = written events := by
  rcases checkBalanced_eq_ok_iff.mp balanced with
    ⟨forest, ending, rfl, ends, rfl | ⟨name, classValue, attributes, children, rfl⟩⟩
  · -- Without an element there is no start.
    rcases started with ⟨name, classValue, attributes, member⟩
    rcases ends with rfl | rfl <;> simp at member
  · have alone : ∀ tree, EventTree.eventsAll [tree] = tree.events := fun tree => by simp
    have aloneText : ∀ tree, EventTree.xmlTextAll [tree] = tree.xmlText := fun tree => by simp
    rw [alone]
    rcases written_element name classValue attributes children ends with ⟨accepted, text⟩
    refine ⟨name, classValue, attributes, children, ending, rfl, ends, accepted, ?_, ?_⟩
    · rw [text, afterRoot, EventTree.xmlText_eq_rendered, Writer.declaration]
    · intro other otherBalanced same
      rcases checkBalanced_eq_ok_iff.mp otherBalanced with
        ⟨otherForest, otherEnding, rfl, otherEnds, shape⟩
      rw [← alone] at same
      have texts := EventTree.xmlTextAll_eq_of_sameButTexts ends otherEnds same
      rw [aloneText] at texts
      rcases shape with rfl | ⟨otherName, otherClass, given, content, rfl⟩
      · exact absurd texts (EventTree.xmlText_element_ne_empty name classValue attributes children)
      · rw [aloneText] at texts
        rw [alone, text, (written_element otherName otherClass given content otherEnds).2, afterRoot,
          afterRoot, texts]

/-- An element with nothing but empty texts, next to a text in two pieces. -/
theorem written_of_blank_eq_rendered :
    let pieces : List Event := [.startElement "p" "- topic/p " [],
      .startElement "b" "+ topic/ph hi-d/b " [], .characters "", .characters "", .endElement,
      .characters "1 <", .characters " 2", .endElement, .endDocument]
    let whole : List Event := [.startElement "p" "- topic/p " [],
      .startElement "b" "+ topic/ph hi-d/b " [], .endElement, .characters "1 < 2", .endElement,
      .endDocument]
    let declaration := "<?xml version=\"1.0\" encoding=\"UTF-8\"?>"
    let text := "<p class=\"- topic/p \"><b class=\"+ topic/ph hi-d/b \"/>1 &lt; 2</p>"
    checkBalanced pieces = .ok () ∧ checkBalanced whole = .ok () ∧
      Event.SameButTexts pieces whole ∧ written pieces = declaration ++ text ∧
      written whole = written pieces := by
  intro pieces whole declaration text
  have balanced : checkBalanced pieces = .ok () := rfl
  have wholeBalanced : checkBalanced whole = .ok () := rfl
  have same : Event.SameButTexts pieces whole :=
    Event.SameButTexts.iff_condense_eq.mpr (by decide +kernel)
  have delivered : written pieces = declaration ++ text := by decide +kernel
  rcases written_eq_rendered balanced ⟨_, _, _, List.mem_cons_self⟩ with
    ⟨_, _, _, _, _, _, _, _, _, alike⟩
  exact ⟨balanced, wholeBalanced, same, delivered, alike whole wholeBalanced same⟩

end Xml

end TopicPress
