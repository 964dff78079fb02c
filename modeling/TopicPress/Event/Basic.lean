/-!
# Output events

A rendered topic is a sequence of events: elements start and end, characters stand between, and the
document ends once.  An end carries no name, so a reader that needs one keeps its own record of the
open elements.  Text is delivered as it is; escaping is the reader's business.
-/

namespace TopicPress

/-- An attribute other than the class of an element. -/
structure Attribute where
  name : String
  value : String
  deriving DecidableEq

inductive Event where
  | startElement (name classValue : String) (attributes : List Attribute)
  | characters (text : String)
  | endElement
  | endDocument
  deriving DecidableEq

end TopicPress
