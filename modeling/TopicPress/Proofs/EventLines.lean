import Mathlib.Data.List.Forall2
import TopicPress.Event.JsonLines
import TopicPress.Proofs.JsonReading

/-!
# Events are read back from their lines

Every event is written as a JSON text on a line of its own.  No control character is written for an
event, so that the line feeds of the whole are the ends of its lines, and each line by itself stands
for one object: what the event is called and what it carries.  Whoever reads the lines as JSON finds
the events, all of them, in their order, and nothing else.
-/

namespace TopicPress

open Json (Term Represents)

/-! ## Objects for events -/

/-- An attribute as an object. -/
def Attribute.object (item : Attribute) : Term :=
  .object [("name", .string item.name), ("value", .string item.value)]

namespace Event

/-- What an event carries, by name. -/
def fields : Event → List (String × Term)
  | startElement name classValue attributes =>
    [("name", .string name), ("class", .string classValue),
      ("attributes", .array (attributes.map Attribute.object))]
  | characters text => [("text", .string text)]
  | endElement => []
  | endDocument => []

/-- An event as an object. -/
def object (event : Event) : Term := .object (("event", .string event.label) :: event.fields)

end Event

theorem elementsTerms_attributes (attributes : List Attribute) :
    Json.elementsTerms (attributes.map Attribute.toJson) = attributes.map Attribute.object := by
  induction attributes with
  | nil => rfl
  | cons item rest inductionHypothesis =>
      rw [List.map_cons, List.map_cons, Json.elementsTerms, inductionHypothesis]
      rfl

theorem Event.term_toJson (event : Event) : event.toJson.term = event.object := by
  cases event with
  | startElement name classValue attributes =>
      rw [object, fields, ← elementsTerms_attributes]
      rfl
  | characters text => rfl
  | endElement => rfl
  | endDocument => rfl

/-! ## Events from objects -/

namespace Json.Term

/-- The value of the first member that has a name. -/
def member? (name : String) : Term → Option Term
  | object members => members.lookup name
  | _ => none

def string? : Term → Option String
  | string text => some text
  | _ => none

def elements? : Term → Option (List Term)
  | array elements => some elements
  | _ => none

/-- The text of a member. -/
def text? (name : String) (term : Term) : Option String := (term.member? name).bind string?

end Json.Term

/-- The attribute that an object describes. -/
def Attribute.ofTerm? (term : Term) : Option Attribute := do
  let name ← term.text? "name"
  let value ← term.text? "value"
  return ⟨name, value⟩

/-- The event that an object describes, whatever the order of its members is. -/
def Event.ofTerm? (term : Term) : Option Event := do
  match ← term.text? "event" with
  | "start-element" =>
    let name ← term.text? "name"
    let classValue ← term.text? "class"
    let elements ← (term.member? "attributes").bind Term.elements?
    let attributes ← elements.mapM Attribute.ofTerm?
    return startElement name classValue attributes
  | "characters" =>
    let text ← term.text? "text"
    return characters text
  | "end-element" => return endElement
  | "end-document" => return endDocument
  | _ => none

theorem Attribute.mapM_ofTerm? (attributes : List Attribute) :
    (attributes.map Attribute.object).mapM Attribute.ofTerm? = some attributes := by
  induction attributes with
  | nil => rfl
  | cons item rest inductionHypothesis =>
      have first : Attribute.ofTerm? item.object = some item := rfl
      rw [List.map_cons, List.mapM_cons, first, inductionHypothesis]
      rfl

namespace Event

/-- The object of an event describes the event. -/
theorem ofTerm?_object (event : Event) : ofTerm? event.object = some event := by
  cases event with
  | startElement name classValue attributes =>
      have read := Attribute.mapM_ofTerm? attributes
      simp [ofTerm?, object, fields, label, List.lookup_cons, Term.text?, Term.member?, Term.string?,
        Term.elements?, read]
  | characters text => rfl
  | endElement => rfl
  | endDocument => rfl

/-! ## Lines -/

/-- A text in lines that are JSON, each for an object that describes an event. -/
def ReadAs (text : List Char) (events : List Event) : Prop :=
  ∃ lines, text.splitOn '\n' = lines ++ [[]] ∧
    List.Forall₂ (fun event line => ∃ term, Represents line term ∧ ofTerm? term = some event)
      events lines

/-- The line of an event by itself stands for the object of the event, and for nothing else. -/
def Describes (event : Event) (line : List Char) : Prop :=
  ∀ term, Represents line term ↔ term = event.object

theorem describes_text (event : Event) : event.Describes event.toJson.text := by
  intro term
  rw [Json.Value.represents_iff, term_toJson]

theorem Describes.unique {first second : Event} {line : List Char} (described : first.Describes line)
    {term : Term} (represents : Represents line term) (read : ofTerm? term = some second) :
    second = first := by
  rw [(described term).1 represents, ofTerm?_object] at read
  exact (Option.some.inj read).symm

/-- The line feeds are the ends of the lines. -/
theorem splitOn_jsonLines (events : List Event) :
    (jsonLines events).toList.splitOn '\n' = events.map (fun event => event.toJson.text) ++ [[]] := by
  rw [jsonLines, String.toList_ofList]
  induction events with
  | nil => rfl
  | cons event rest inductionHypothesis =>
      have noLineFeed : ∀ c ∈ event.toJson.text, (c == '\n') = false := by
        intro c member
        rw [beq_eq_false_iff_ne]
        rintro rfl
        exact absurd (event.toJson.noControl_text _ member) (by decide)
      rw [List.flatMap_cons, line, List.append_assoc, List.singleton_append, List.splitOn,
        List.splitOnP_append_cons_of_forall_mem noLineFeed '\n' rfl]
      exact congrArg _ inductionHypothesis

theorem forall₂_describes (events : List Event) :
    List.Forall₂ Describes events (events.map (fun event => event.toJson.text)) := by
  induction events with
  | nil => exact .nil
  | cons event rest inductionHypothesis => exact .cons event.describes_text inductionHypothesis

/-- Lines that describe events are read as these events only. -/
theorem eq_of_forall₂_describes {events others : List Event} {lines : List (List Char)}
    (described : List.Forall₂ Describes events lines)
    (read : List.Forall₂ (fun event line => ∃ term, Represents line term ∧ ofTerm? term = some event)
      others lines) : others = events := by
  induction described generalizing others with
  | nil =>
      cases read
      rfl
  | cons first _ inductionHypothesis =>
      cases read with
      | cons firstRead later =>
          rcases firstRead with ⟨term, represents, found⟩
          rw [first.unique represents found, inductionHypothesis later]

/-- The lines of events: splitting them at the line feeds gives a line for each event and nothing
behind the last one, each line is JSON for the object of its event and for nothing else, and what is
read from the lines are the events. -/
theorem jsonLines_readBack (events : List Event) :
    (∃ lines, (jsonLines events).toList.splitOn '\n' = lines ++ [[]] ∧
      List.Forall₂ (fun event line => ∀ term, Represents line term ↔ term = event.object)
        events lines) ∧
      ∀ others, ReadAs (jsonLines events).toList others ↔ others = events := by
  have split := splitOn_jsonLines events
  have described := forall₂_describes events
  refine ⟨⟨_, split, described⟩, fun others => ⟨?_, ?_⟩⟩
  · rintro ⟨lines, otherSplit, read⟩
    rw [split] at otherSplit
    rw [← List.append_cancel_right otherSplit] at read
    exact eq_of_forall₂_describes described read
  · rintro rfl
    refine ⟨_, split, described.imp ?_⟩
    intro event line describes
    exact ⟨event.object, (describes _).2 rfl, event.ofTerm?_object⟩

/-- A text with a quote, a line feed and a control character that has no letter. -/
example : (jsonLines [.characters "\"\n\x01é"]).toList =
    "\x7b\"event\":\"characters\",\"text\":\"\\\"\\n\\u0001é\"\x7d\n".toList := by
  decide +kernel

end Event

end TopicPress
