/-!
# Notices

While a document is read and rendered, notices are left about what was done and about what had to
be mended.  They are data: a function that leaves notices returns them, in order, and nothing that
is written to an output depends on them.
-/

namespace TopicPress

inductive Severity where
  | warn
  | debug
  | trace
  deriving DecidableEq

namespace Severity

def name : Severity → String
  | warn => "WARN"
  | debug => "DEBUG"
  | trace => "TRACE"

end Severity

/-- What a notice is about. -/
inductive Notice where
  /-- Text was read: `bytes` is the length of its UTF-8 form. -/
  | acquired (document : String) (bytes : Nat)
  /-- Bytes that mean nothing in the encoding were replaced. -/
  | malformedBytes (document encoding : String)
  /-- The YAML of a front-matter block cannot be read. -/
  | invalidFrontMatter
  /-- The YAML of a front-matter block is a sequence or a scalar. -/
  | frontMatterNotMapping
  /-- An entry whose key is itself a mapping or a sequence was left out. -/
  | frontMatterKeySkipped (key : String)
  /-- The Markdown tree has a node of a kind that the document tree lacks. -/
  | noCounterpart (node : String)
  | renderingStarted (document : String) (blocks : Nat)
  | renderingFinished (document : String)
  | elementStarted (element : String) (depth : Nat)
  | titleMissing (document : String)
  | prologStarted (keys : Nat)
  /-- A key with an element of its own has a structured value and becomes plain data. -/
  | keyDemoted (key : String)
  /-- Front matter stands where no prolog is written. -/
  | frontMatterIgnored (document path : String)
  /-- The XML writer accepted the start of an element. -/
  | tagOpened (element : String) (depth : Nat)
  /-- The XML writer replaced characters that XML does not allow. -/
  | charactersReplaced
  deriving DecidableEq

namespace Notice

def severity : Notice → Severity
  | acquired _ _ => .debug
  | malformedBytes _ _ => .warn
  | invalidFrontMatter => .warn
  | frontMatterNotMapping => .warn
  | frontMatterKeySkipped _ => .warn
  | noCounterpart _ => .debug
  | renderingStarted _ _ => .debug
  | renderingFinished _ => .debug
  | elementStarted _ _ => .trace
  | titleMissing _ => .warn
  | prologStarted _ => .debug
  | keyDemoted _ => .warn
  | frontMatterIgnored _ _ => .warn
  | tagOpened _ _ => .trace
  | charactersReplaced => .warn

def message : Notice → String
  | acquired _ _ => "Acquired input"
  | malformedBytes _ _ => "Malformed byte sequences replaced while decoding"
  | invalidFrontMatter => "Invalid YAML front matter; scanning lines instead"
  | frontMatterNotMapping => "Front matter is not a mapping; scanning lines instead"
  | frontMatterKeySkipped _ => "Skipping front-matter entry with a non-scalar key"
  | noCounterpart _ => "No document tree counterpart for comrak node"
  | renderingStarted _ _ => "Serializing document"
  | renderingFinished _ => "Document serialized"
  | elementStarted _ _ => "start"
  | titleMissing _ => "No top-level heading, topic title is empty"
  | prologStarted _ => "Writing prolog from front matter"
  | keyDemoted _ => "Non-scalar front matter value, emitting as generic data"
  | frontMatterIgnored _ _ => "Ignoring front matter outside the topic header"
  | tagOpened _ _ => "start element"
  | charactersReplaced => "Replacing characters not allowed in XML with U+FFFD"

/-- The named particulars of a notice, numbers in decimal. -/
def fields : Notice → List (String × String)
  | acquired document bytes => [("document", document), ("bytes", toString bytes)]
  | malformedBytes document encoding => [("document", document), ("encoding", encoding)]
  | invalidFrontMatter => []
  | frontMatterNotMapping => []
  | frontMatterKeySkipped key => [("key", key)]
  | noCounterpart node => [("node", node)]
  | renderingStarted document blocks => [("document", document), ("blocks", toString blocks)]
  | renderingFinished document => [("document", document)]
  | elementStarted element depth => [("element", element), ("depth", toString depth)]
  | titleMissing document => [("document", document)]
  | prologStarted keys => [("keys", toString keys)]
  | keyDemoted key => [("key", key)]
  | frontMatterIgnored document path => [("document", document), ("path", path)]
  | tagOpened element depth => [("element", element), ("depth", toString depth)]
  | charactersReplaced => []

end Notice

end TopicPress
