/-!
# Options

What a caller may choose about the topic that is made of a document.
-/

namespace TopicPress

structure RenderOptions where
  /-- Take the identifier of the topic from the key `id` of the front matter. -/
  identifierFromMetadata : Bool := false
  deriving DecidableEq

end TopicPress
