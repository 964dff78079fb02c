import TopicPress.Event.Basic
import TopicPress.Url.Basic

/-!
# Link targets

The attributes of a cross-reference.  An absolute address leads outside and is taken for a web page;
any other target is a path within the publication, and one that names a Markdown file says so.
-/

namespace TopicPress.Link

/-- The part of a target before its fragment and its query. -/
def path (target : List Char) : List Char :=
  target.takeWhile (fun c => c != '#' && c != '?')

def isMarkdownPath (target : List Char) : Bool :=
  ".md".toList.isSuffixOf (path target) || ".markdown".toList.isSuffixOf (path target)

/-- What the target of a link tells about its scope and its format. -/
def hints (target : String) : List Attribute :=
  if (Url.parse? target).isSome then [⟨"scope", "external"⟩, ⟨"format", "html"⟩]
  else if isMarkdownPath target.toList then [⟨"format", "markdown"⟩]
  else []

def attributes (target : String) : List Attribute :=
  ⟨"href", target⟩ :: hints target

end TopicPress.Link
