import Mathlib.Logic.Relation
import TopicPress.Proofs.XmlStream

/-!
# Events up to their texts

How a text is cut into events is not part of what an element holds, and a character that XML has no
place for cannot be written.  So lists of events count as the same here if they differ only in three
respects: in where texts are cut, in events without text, and in the characters that have to be
replaced.  Every list is brought to a form in which each text is mended and in one piece, and two
lists are the same in this sense if and only if they come to the same form.
-/

namespace TopicPress

namespace Xml

theorem mend_append (first second : String) : mend (first ++ second) = mend first ++ mend second := by
  simp [mend]

@[simp] theorem mend_empty : mend "" = "" := rfl

/-- The character that stands for the others is allowed itself. -/
theorem mend_mend (text : String) : mend (mend text) = mend text := by
  have once : mendCharacter ∘ mendCharacter = mendCharacter :=
    funext fun c => if_pos (isAllowed_mendCharacter c)
  rw [mend, mend, String.toList_ofList, List.map_map, once]

end Xml

/-! ## Condensing -/

namespace Event

/-- The event with its text, or its attribute values other than the class, fit for XML. -/
def mended : Event → Event
  | startElement name classValue attributes =>
    startElement name classValue (attributes.map Xml.Writer.mendAttribute)
  | characters text => characters (Xml.mend text)
  | endElement => endElement
  | endDocument => endDocument

/-- A text as events: one, or none if the text is empty. -/
def ofText (text : String) : List Event := if text = "" then [] else [characters text]

/-- Join each text with the ones that follow it directly; `begun` is what has been joined so far. -/
def joinTexts (begun : String) : List Event → List Event
  | [] => ofText begun
  | characters text :: rest => joinTexts (begun ++ text) rest
  | startElement name classValue attributes :: rest =>
    ofText begun ++ startElement name classValue attributes :: joinTexts "" rest
  | endElement :: rest => ofText begun ++ endElement :: joinTexts "" rest
  | endDocument :: rest => ofText begun ++ endDocument :: joinTexts "" rest

/-- The events with all texts mended, each in one piece and none of them empty. -/
def condense (events : List Event) : List Event := joinTexts "" (events.map mended)

/-- An event is mended once and for all. -/
theorem mended_mended (event : Event) : event.mended.mended = event.mended := by
  cases event <;> simp [mended, Xml.mend_mend, Xml.Writer.mendAttribute]

@[simp] theorem ofText_empty : ofText "" = [] := rfl

/-! ## Differences -/

/-- The three respects in which events may differ that count as the same. -/
inductive TextDifference : List Event → List Event → Prop
  /-- Two texts next to each other, or one. -/
  | joined (before : List Event) (first second : String) (after : List Event) :
      TextDifference (before ++ characters first :: characters second :: after)
        (before ++ characters (first ++ second) :: after)
  /-- An empty text, or none. -/
  | dropped (before after : List Event) :
      TextDifference (before ++ characters "" :: after) (before ++ after)
  /-- An event as it is, or mended. -/
  | replaced (before : List Event) (event : Event) (after : List Event) :
      TextDifference (before ++ event :: after) (before ++ event.mended :: after)

/-- Events that differ in nothing else. -/
def SameButTexts : List Event → List Event → Prop := Relation.EqvGen TextDifference

theorem TextDifference.cons {first second : List Event} (differ : TextDifference first second)
    (event : Event) : TextDifference (event :: first) (event :: second) := by
  cases differ with
  | joined before firstText secondText after =>
      exact .joined (event :: before) firstText secondText after
  | dropped before after => exact .dropped (event :: before) after
  | replaced before other after => exact .replaced (event :: before) other after

namespace SameButTexts

theorem refl (events : List Event) : SameButTexts events events := Relation.EqvGen.refl events

theorem symm {first second : List Event} (same : SameButTexts first second) :
    SameButTexts second first := Relation.EqvGen.symm first second same

theorem trans {first second third : List Event} (same : SameButTexts first second)
    (further : SameButTexts second third) : SameButTexts first third :=
  Relation.EqvGen.trans first second third same further

theorem of_difference {first second : List Event} (differ : TextDifference first second) :
    SameButTexts first second := Relation.EqvGen.rel first second differ

theorem cons {first second : List Event} (same : SameButTexts first second) (event : Event) :
    SameButTexts (event :: first) (event :: second) := by
  induction same with
  | rel first second differ => exact of_difference (differ.cons event)
  | refl events => exact refl (event :: events)
  | symm first second _ inductionHypothesis => exact inductionHypothesis.symm
  | trans first second third _ _ firstHypothesis secondHypothesis =>
      exact firstHypothesis.trans secondHypothesis

theorem append {first second : List Event} (same : SameButTexts first second)
    (before : List Event) : SameButTexts (before ++ first) (before ++ second) := by
  induction before with
  | nil => exact same
  | cons event rest inductionHypothesis => exact inductionHypothesis.cons event

theorem map_mended (events : List Event) : SameButTexts events (events.map mended) := by
  induction events with
  | nil => exact refl []
  | cons event rest inductionHypothesis =>
      exact (of_difference (.replaced [] event rest)).trans (inductionHypothesis.cons event.mended)

theorem ofText_append (text : String) (events : List Event) :
    SameButTexts (characters text :: events) (ofText text ++ events) := by
  by_cases empty : text = ""
  · rw [empty]
    exact of_difference (.dropped [] events)
  · rw [ofText, if_neg empty]
    exact refl _

/-- An event that is no text ends what has been joined, and begins anew with nothing. -/
private theorem joinTexts_of_rest (begun : String) (event : Event) {rest : List Event}
    (joined : SameButTexts (characters "" :: rest) (Event.joinTexts "" rest)) :
    SameButTexts (characters begun :: event :: rest)
      (ofText begun ++ event :: Event.joinTexts "" rest) := by
  have fresh : SameButTexts rest (Event.joinTexts "" rest) :=
    (of_difference (.dropped [] rest)).symm.trans joined
  exact (ofText_append begun (event :: rest)).trans ((fresh.cons event).append (ofText begun))

theorem joinTexts (events : List Event) :
    ∀ begun, SameButTexts (characters begun :: events) (Event.joinTexts begun events) := by
  induction events with
  | nil =>
      intro begun
      have alone := ofText_append begun []
      rwa [List.append_nil] at alone
  | cons event rest inductionHypothesis =>
      intro begun
      cases event with
      | characters text =>
          exact (of_difference (.joined [] begun text rest)).trans
            (inductionHypothesis (begun ++ text))
      | startElement name classValue attributes =>
          exact joinTexts_of_rest begun _ (inductionHypothesis "")
      | endElement => exact joinTexts_of_rest begun _ (inductionHypothesis "")
      | endDocument => exact joinTexts_of_rest begun _ (inductionHypothesis "")

/-- Condensing changes nothing else. -/
theorem condense (events : List Event) : SameButTexts events (Event.condense events) := by
  have fresh : SameButTexts (events.map mended) (characters "" :: events.map mended) :=
    (of_difference (.dropped [] (events.map mended))).symm
  exact (map_mended events).trans (fresh.trans (joinTexts (events.map mended) ""))

/-- Events that condense to the same are the same but for their texts. -/
theorem of_condense_eq {first second : List Event}
    (same : Event.condense first = Event.condense second) : SameButTexts first second := by
  have firstCondensed := condense first
  rw [same] at firstCondensed
  exact firstCondensed.trans (condense second).symm

/-- What is joined does not depend on what comes before. -/
private theorem joinTexts_append {first second : List Event}
    (alike : ∀ begun, Event.joinTexts begun first = Event.joinTexts begun second)
    (before : List Event) :
    ∀ begun, Event.joinTexts begun (before ++ first) = Event.joinTexts begun (before ++ second) := by
  induction before with
  | nil => exact alike
  | cons event rest inductionHypothesis =>
      intro begun
      cases event <;> simp [Event.joinTexts, inductionHypothesis]

theorem condense_eq_of_difference {first second : List Event}
    (differ : TextDifference first second) : Event.condense first = Event.condense second := by
  rw [Event.condense, Event.condense]
  cases differ with
  | joined before firstText secondText after =>
      rw [List.map_append, List.map_append]
      apply joinTexts_append
      intro begun
      simp [mended, Event.joinTexts, Xml.mend_append, String.append_assoc]
  | dropped before after =>
      rw [List.map_append, List.map_append]
      apply joinTexts_append
      intro begun
      simp [mended, Event.joinTexts]
  | replaced before event after =>
      simp [mended_mended]

/-- Events are the same but for their texts if and only if they condense to the same. -/
theorem iff_condense_eq {first second : List Event} :
    SameButTexts first second ↔ Event.condense first = Event.condense second := by
  constructor
  · intro same
    induction same with
    | rel first second differ => exact condense_eq_of_difference differ
    | refl events => rfl
    | symm first second _ inductionHypothesis => exact inductionHypothesis.symm
    | trans first second third _ _ firstHypothesis secondHypothesis =>
        exact firstHypothesis.trans secondHypothesis
  · exact of_condense_eq

end SameButTexts

end Event

end TopicPress
