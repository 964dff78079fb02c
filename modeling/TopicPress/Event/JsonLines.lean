import TopicPress.Event.Basic
import TopicPress.Json.Value

/-!
# Events as JSON lines

One object for each event, each on a line of its own.
-/

namespace TopicPress

/-- An attribute as an object. -/
def Attribute.toJson (item : Attribute) : Json.Value :=
  .object [("name", .string item.name), ("value", .string item.value)]

namespace Event

/-- What an event is called. -/
def label : Event → String
  | startElement _ _ _ => "start-element"
  | characters _ => "characters"
  | endElement => "end-element"
  | endDocument => "end-document"

/-- What an event carries, as the members of an object. -/
def members : Event → List (String × Json.Value)
  | startElement name classValue attributes =>
    [("name", .string name), ("class", .string classValue),
      ("attributes", .array (attributes.map Attribute.toJson))]
  | characters text => [("text", .string text)]
  | endElement => []
  | endDocument => []

/-- An event as an object. -/
def toJson (event : Event) : Json.Value :=
  .object (("event", .string event.label) :: event.members)

/-- The line of an event, with its line feed. -/
def line (event : Event) : List Char := event.toJson.text ++ ['\n']

/-- The lines of events in order. -/
def jsonLines (events : List Event) : String := String.ofList (events.flatMap line)

end Event

end TopicPress
