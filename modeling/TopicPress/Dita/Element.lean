/-!
# The DITA vocabulary

The elements that a topic is made of.  The class of an element names the modules it descends from,
each followed by a blank; it begins with a minus for a base element and with a plus for one that a
domain adds.
-/

namespace TopicPress.Dita

/-- An element: its name and the value of its class attribute. -/
structure Element where
  name : String
  classValue : String
  deriving DecidableEq

/-- An element of the base topic. -/
def Element.base (name : String) : Element :=
  ⟨name, "- topic/" ++ name ++ " "⟩

/-- An element that `domain` adds, a special case of the base element `ancestor`. -/
def Element.specialised (ancestor domain name : String) : Element :=
  ⟨name, "+ topic/" ++ ancestor ++ " " ++ domain ++ "/" ++ name ++ " "⟩

namespace Element

/-! ## The frame of a topic -/

def topic : Element := base "topic"
def title : Element := base "title"
def prolog : Element := base "prolog"
def body : Element := base "body"
def section_ : Element := base "section"

/-! ## Blocks -/

def paragraph : Element := base "p"
def unorderedList : Element := base "ul"
def orderedList : Element := base "ol"
def listItem : Element := base "li"
def longQuote : Element := base "lq"
def simpleTable : Element := base "simpletable"
def tableHead : Element := base "sthead"
def tableRow : Element := base "strow"
def tableEntry : Element := base "stentry"
def requiredCleanup : Element := base "required-cleanup"
def codeBlock : Element := specialised "pre" "pr-d" "codeblock"

/-! ## Inlines -/

def italic : Element := specialised "ph" "hi-d" "i"
def bold : Element := specialised "ph" "hi-d" "b"
def lineThrough : Element := specialised "ph" "hi-d" "line-through"
def superscript : Element := specialised "ph" "hi-d" "sup"
def subscript : Element := specialised "ph" "hi-d" "sub"
def codePhrase : Element := specialised "ph" "pr-d" "codeph"
def crossReference : Element := base "xref"
def image : Element := base "image"
def alternative : Element := base "alt"

/-! ## Metadata -/

def author : Element := base "author"
def source : Element := base "source"
def publisher : Element := base "publisher"
def permissions : Element := base "permissions"
def metadata : Element := base "metadata"
def audience : Element := base "audience"
def category : Element := base "category"
def keywords : Element := base "keywords"
def keyword : Element := base "keyword"
def resourceId : Element := base "resourceid"
def data : Element := base "data"

end Element

end TopicPress.Dita
