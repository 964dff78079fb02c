import TopicPress.Topic.Link
import TopicPress.Topic.Prolog
import TopicPress.Topic.Rendering
import TopicPress.Topic.Slug

/-!
# From a document to a topic

The first top-level heading becomes the title of the topic and the first top-level front matter its
prolog.  All other top-level nodes make up the body, in their order; a further heading among them
begins a section, which ends before the next one.  Every node is rendered by the rule of its kind,
and a kind without a rule ends the rendering.
-/

namespace TopicPress

open Dita (Element)

/-- How a kind of node is rendered. -/
inductive RenderRule where
  /-- An element around the literal text, if there is one, and the children. -/
  | element (element : Element) (attributes : List Attribute) (literal : Option String)
  /-- An element without content, whatever the children are. -/
  | emptyElement (element : Element) (attributes : List Attribute)
  /-- An image, described by its children or else by its title. -/
  | image (href title : String)
  /-- Characters and nothing else. -/
  | characters (text : String)
  /-- Nothing but a notice. -/
  | ignored
  | unmapped

namespace RenderRule

def plain (element : Element) : RenderRule := .element element [] none

end RenderRule

/-- The attribute that tells the level of a heading. -/
def headingLevel (level : Nat) : Attribute := ⟨"outputclass", "h" ++ toString level⟩

/-- The start number of an ordered list, written unless it is one. -/
def listStart : Option Nat → List Attribute
  | some 1 => []
  | some start => [⟨"start", toString start⟩]
  | none => []

/-- The language of a code block, written unless it is empty. -/
def codeLanguage : Option String → List Attribute
  | some language => if language.isEmpty then [] else [⟨"outputclass", language⟩]
  | none => []

/-- The rendering rules.  Headings come here only when they are below the top level. -/
def NodeKind.rule : NodeKind → RenderRule
  | heading level => .element .paragraph [headingLevel level] none
  | paragraph => .plain .paragraph
  | list false _ => .plain .unorderedList
  | list true start => .element .orderedList (listStart start) none
  | listItem => .plain .listItem
  | codeBlock language literal => .element .codeBlock (codeLanguage language) (some literal)
  | blockQuote => .plain .longQuote
  | table => .plain .simpleTable
  | tableRow true => .plain .tableHead
  | tableRow false => .plain .tableRow
  | tableCell => .plain .tableEntry
  | frontMatter _ => .ignored
  | thematicBreak => .emptyElement .paragraph [⟨"outputclass", "thematic-break"⟩]
  | rawBlock content => .element .requiredCleanup [] (some content)
  | rawInline content => .element .requiredCleanup [] (some content)
  | text content => .characters content
  | lineBreak => .characters "\n"
  | emphasis => .plain .italic
  | strong => .plain .bold
  | strikethrough => .plain .lineThrough
  | superscript => .plain .superscript
  | subscript => .plain .subscript
  | codeSpan content => .element .codePhrase [] (some content)
  | link url _ => .element .crossReference (Link.attributes url) none
  | image url title => .image url title
  | unsupported _ => .unmapped

namespace Rendering

/-- The start of an element below the elements of `path`. -/
def start (path : List String) (element : Element) (attributes : List Attribute) : Rendering :=
  { steps := [.note (.elementStarted element.name path.length),
      .deliver (.start element attributes)] }

def finish : Rendering := .deliver .endElement

/-- An element below the elements of `path`, with its content. -/
def element (path : List String) (element : Element) (attributes : List Attribute)
    (content : Rendering) : Rendering :=
  ((start path element attributes).andThen content).andThen finish

def characters (text : String) : Rendering := .deliver (.characters text)

/-- The literal text of an element, if it has one. -/
def literal : Option String → Rendering
  | some text => characters text
  | none => nothing

end Rendering

/-- The names of the open elements, outermost first, as diagnostics give them. -/
def pathText (path : List String) : String := "/".intercalate path

mutual

/-- Render a node below the elements of `path`. -/
def Node.render (document : String) (path : List String) (node : Node) : Rendering :=
  match node with
  | ⟨kind, position, children⟩ =>
    match kind.rule with
    | .element element attributes literal =>
      .element path element attributes
        ((Rendering.literal literal).andThen
          (Node.renderAll document (path ++ [element.name]) children))
    | .emptyElement element attributes => .element path element attributes .nothing
    | .image href title =>
      let inner := path ++ [Element.image.name]
      let description :=
        if !children.isEmpty then
          Rendering.element inner .alternative []
            (Node.renderAll document (inner ++ [Element.alternative.name]) children)
        else if title.isEmpty then .nothing
        else Rendering.element inner .alternative [] (.characters title)
      .element path .image [⟨"href", href⟩] description
    | .characters text => .characters text
    | .ignored => .note (.frontMatterIgnored document (pathText path))
    | .unmapped =>
      .fail { document, node := kind.name, position, path := pathText path }

/-- Render nodes one after the other. -/
def Node.renderAll (document : String) (path : List String) : List Node → Rendering
  | [] => .nothing
  | node :: rest => (node.render document path).andThen (Node.renderAll document path rest)

end

/-- The attributes of a title: the level of the heading it comes from. -/
def titleAttributes : NodeKind → List Attribute
  | .heading level => [headingLevel level]
  | _ => []

/-- A title made of a heading. -/
def renderTitle (document : String) (path : List String) (heading : Node) : Rendering :=
  .element path .title (titleAttributes heading.kind)
    (Node.renderAll document (path ++ [Element.title.name]) heading.children)

/-- The prolog, which stands directly in the topic. -/
def renderProlog (options : RenderOptions) (path : List String) (header : FrontMatter) : Rendering :=
  (Rendering.note (.prologStarted header.size)).andThen
    (.element path .prolog []
      ((Rendering.ofNotices (Prolog.notices options header)).andThen
        (.ofEvents (Prolog.events options header))))

/-- The blocks of the body from some point on; `inSection` says that a section is open there. -/
def renderBlocks (document : String) (path : List String) (inSection : Bool) :
    List Node → Rendering
  | [] => if inSection then .finish else .nothing
  | node :: rest =>
    if node.kind.isHeading then
      let inner := path ++ [Element.section_.name]
      ((((if inSection then .finish else .nothing : Rendering).andThen
        (.start path .section_ [])).andThen
        (renderTitle document inner node))).andThen
        (renderBlocks document path true rest)
    else
      let inner := if inSection then path ++ [Element.section_.name] else path
      (node.render document inner).andThen (renderBlocks document path inSection rest)

namespace Document

/-- The top-level nodes that are left when the title and the prolog have taken theirs. -/
def bodyBlocks (document : Document) : List Node :=
  (document.children.eraseP (fun node => node.kind.isHeading)).eraseP
    (fun node => node.kind.frontMatter?.isSome)

/-- The identifier that the front matter gives, when the options let it. -/
def metadataId? (options : RenderOptions) (document : Document) : Option String :=
  if options.identifierFromMetadata then
    document.frontMatter?.bind (fun header => header.firstScalar? Prolog.identifierKey)
  else none

/-- The identifier made of the first heading, unless nothing of it can stay. -/
def titleId? (document : Document) : Option String :=
  (document.firstHeadingText?.map slugify).filter (fun id => !id.isEmpty)

/-- The identifier of the topic. -/
def topicId? (options : RenderOptions) (document : Document) : Option String :=
  (document.metadataId? options).or document.titleId?

/-- The title of the topic; without a heading it is there and empty. -/
def renderTopicTitle (document : Document) (path : List String) : Rendering :=
  match document.firstHeading? with
  | some heading => renderTitle document.displayName path heading
  | none =>
    (Rendering.note (.titleMissing document.displayName)).andThen
      (.element path .title [] .nothing)

/-- The prolog of the topic, if there is front matter for it. -/
def renderTopicProlog (options : RenderOptions) (document : Document) (path : List String) :
    Rendering :=
  match document.frontMatter? with
  | some header => renderProlog options path header
  | none => .nothing

/-- The body of the topic, if there is anything for it. -/
def renderTopicBody (document : Document) (path : List String) : Rendering :=
  if document.bodyBlocks.isEmpty then .nothing
  else
    .element path .body []
      (renderBlocks document.displayName (path ++ [Element.body.name]) false document.bodyBlocks)

/-- Render a document as a topic. -/
def render (options : RenderOptions) (document : Document) : Rendering :=
  let inner := [Element.topic.name]
  let attributes := match document.topicId? options with
    | some id => [⟨"id", id⟩]
    | none => []
  .sequence [
    .note (.renderingStarted document.displayName document.children.length),
    .element [] .topic attributes
      (.sequence [
        document.renderTopicTitle inner,
        document.renderTopicProlog options inner,
        document.renderTopicBody inner]),
    .deliver .endDocument,
    .note (.renderingFinished document.displayName)]

/-- The events of a document, or why there are none. -/
def toEvents (options : RenderOptions) (document : Document) :
    Except (RenderError Empty) (Array Event) :=
  let played := Sink.recording.play #[] (document.render options)
  match played.result with
  | .ok () => .ok played.state
  | .error error => .error error

end Document

end TopicPress
