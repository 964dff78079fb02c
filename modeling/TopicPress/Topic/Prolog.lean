import TopicPress.Dita.Element
import TopicPress.Document.FrontMatter
import TopicPress.Event.Basic
import TopicPress.Notice
import TopicPress.Topic.Options

/-!
# The prolog of a topic

Front matter is written in a fixed order, whatever order it was given in: the keys that have an
element of their own come first, each at its place, and every other key follows as plain data in
the order of the keys.  A key whose values include a mapping or a sequence has no use for its
element and is written as plain data as a whole, so no key is written in two ways.
-/

namespace TopicPress

namespace Event

def start (element : Dita.Element) (attributes : List Attribute) : Event :=
  .startElement element.name element.classValue attributes

end Event

namespace Prolog

open Dita (Element)

/-- The key by which front matter may name the topic. -/
def identifierKey : String := "id"

/-- The elements that stand for a key of the same name. -/
def keyElements : List Element :=
  [.audience, .author, .category, .keyword, .permissions, .publisher, .resourceId, .source]

/-- The keys that are not written as plain data, as long as their values allow it. -/
def knownKeys (options : RenderOptions) : FrontMatter :=
  let header := FrontMatter.ofList (keyElements.map (fun element => (element.name, [])))
  if options.identifierFromMetadata then header.insert identifierKey [] else header

def isKnown (options : RenderOptions) (key : String) : Bool :=
  keyElements.any (fun element => element.name == key) ||
    (options.identifierFromMetadata && key == identifierKey)

/-- The values of the key of `element`, unless one of them is structured. -/
def structural? (header : FrontMatter) (element : Element) : Option (List MetaValue) :=
  match header.get? element.name with
  | some values => if values.any MetaValue.isStructured then none else some values
  | none => none

/-- A known key with a structured value. -/
def isDemoted (options : RenderOptions) (header : FrontMatter) (key : String) : Bool :=
  isKnown options key &&
    match header.get? key with
    | some values => values.any MetaValue.isStructured
    | none => false

/-- One element whose content is the text of a value. -/
def textElement (element : Element) (value : MetaValue) : List Event :=
  .start element [] ::
    ((if value.asText.isEmpty then [] else [.characters value.asText]) ++ [.endElement])

/-- One empty element with the text of a value in an attribute. -/
def attributeElement (element : Element) (name : String) (value : MetaValue) : List Event :=
  [.start element [⟨name, value.asText⟩], .endElement]

/-- One element of plain data. -/
def dataElement (key : String) (value : MetaValue) : List Event :=
  [.start .data [⟨"name", key⟩, ⟨"value", value.asText⟩], .endElement]

/-- The values of the key of `element` as contents. -/
def texts (header : FrontMatter) (element : Element) : List Event :=
  ((structural? header element).getD []).flatMap (textElement element)

/-- The values of the key of `element` in the attribute `name`. -/
def attributes (header : FrontMatter) (element : Element) (name : String) : List Event :=
  ((structural? header element).getD []).flatMap (attributeElement element name)

/-- The group of keywords, there as soon as the key is. -/
def keywordGroup (header : FrontMatter) : List Event :=
  if (structural? header .keyword).isSome then
    .start .keywords [] :: (texts header .keyword ++ [.endElement])
  else []

/-- The group of audiences, categories and keywords, there as soon as one of the keys is. -/
def metadataGroup (header : FrontMatter) : List Event :=
  if (structural? header .audience).isSome || (structural? header .category).isSome
      || (structural? header .keyword).isSome then
    .start .metadata [] ::
      (attributes header .audience "audience" ++ texts header .category ++ keywordGroup header
        ++ [.endElement])
  else []

/-- Every key that is not known, and every demoted one, as plain data. -/
def plainData (options : RenderOptions) (header : FrontMatter) : List Event :=
  (header.entries.filter (fun entry =>
    !isKnown options entry.1 || isDemoted options header entry.1)).flatMap
      (fun entry => entry.2.flatMap (dataElement entry.1))

/-- The content of the prolog. -/
def events (options : RenderOptions) (header : FrontMatter) : List Event :=
  texts header .author ++ texts header .source ++ texts header .publisher
    ++ attributes header .permissions "view"
    ++ metadataGroup header
    ++ attributes header .resourceId "appid"
    ++ plainData options header

/-- A notice for each known key that is written as plain data. -/
def notices (options : RenderOptions) (header : FrontMatter) : List Notice :=
  (header.entries.filter (fun entry => isDemoted options header entry.1)).map
    (fun entry => .keyDemoted entry.1)

end Prolog

end TopicPress
