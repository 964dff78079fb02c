import TopicPress.Proofs.Rendering

/-!
# The tree of a topic

The tree that a document is rendered to, written down as a function of the document: no path, no
order of events, no open section.  Every rendering is then shown to yield the events of its tree.  A
node that cannot be rendered counts as nothing in a tree, so a tree exists for every document; the
rendering of such a document delivers a beginning of the tree's events.
-/

namespace TopicPress

open Dita (Element)

/-- An element of the vocabulary with its content. -/
def EventTree.of (element : Element) (attributes : List Attribute) (children : List EventTree) :
    EventTree :=
  .element element.name element.classValue attributes children

@[simp] theorem EventTree.events_of (element : Element) (attributes : List Attribute)
    (children : List EventTree) :
    (EventTree.of element attributes children).events =
      .start element attributes :: (EventTree.eventsAll children ++ [.endElement]) :=
  EventTree.events_element _ _ _ _

/-- What holds of no nodes, and goes on to hold when a node comes first of whose children it holds,
holds of all lists of nodes. -/
@[elab_as_elim]
theorem Node.forestInduction {motive : List Node → Prop} (nil : motive [])
    (cons : ∀ kind position children rest, motive children → motive rest →
      motive (⟨kind, position, children⟩ :: rest)) :
    ∀ nodes, motive nodes
  | [] => nil
  | ⟨kind, position, children⟩ :: rest =>
      cons kind position children rest (forestInduction nil cons children)
        (forestInduction nil cons rest)

/-! ## Nodes -/

/-- The trees of a node by its rule, where `content` are those of its children; `childless` says
that there are no children, which is not the same as that nothing is to be seen of them. -/
def RenderRule.trees (rule : RenderRule) (childless : Bool) (content : List EventTree) :
    List EventTree :=
  match rule with
  | .element container attributes literal =>
    [.of container attributes (literal.toList.map .characters ++ content)]
  | .emptyElement container attributes => [.of container attributes []]
  | .image href title =>
    let description : List EventTree :=
      if !childless then [.of .alternative [] content]
      else if title.isEmpty then [] else [.of .alternative [] [.characters title]]
    [.of .image [⟨"href", href⟩] description]
  | .characters text => [.characters text]
  | .ignored => []
  | .unmapped => []

mutual

/-- The trees that a node is rendered to. -/
def Node.trees (node : Node) : List EventTree :=
  match node with
  | ⟨kind, _, children⟩ => kind.rule.trees children.isEmpty (Node.treesAll children)

/-- The trees that nodes are rendered to, one node after the other. -/
def Node.treesAll : List Node → List EventTree
  | [] => []
  | node :: rest => node.trees ++ Node.treesAll rest

end

@[simp] theorem Node.treesAll_nil : Node.treesAll [] = [] := by
  rw [Node.treesAll]

@[simp] theorem Node.treesAll_cons (node : Node) (rest : List Node) :
    Node.treesAll (node :: rest) = node.trees ++ Node.treesAll rest := by
  rw [Node.treesAll]

theorem Node.trees_eq (kind : NodeKind) (position : Option SourcePosition) (children : List Node) :
    (⟨kind, position, children⟩ : Node).trees =
      kind.rule.trees children.isEmpty (Node.treesAll children) := by
  rw [Node.trees]

/-- A node yields the events of its trees if its children do. -/
private theorem Node.render_yields_of_children {document : String} {children : List Node}
    (inChildren : ∀ path, (Node.renderAll document path children).Yields
      (EventTree.eventsAll (Node.treesAll children)))
    (path : List String) (kind : NodeKind) (position : Option SourcePosition) :
    ((⟨kind, position, children⟩ : Node).render document path).Yields
      (EventTree.eventsAll (⟨kind, position, children⟩ : Node).trees) := by
  rw [Node.render, Node.trees_eq]
  cases kind.rule with
  | element element attributes literal =>
      have whole := ((Rendering.Yields.literal literal).andThen
        (inChildren (path ++ [element.name]))).element path element attributes
      simpa [RenderRule.trees] using whole
  | emptyElement element attributes =>
      simpa [RenderRule.trees] using Rendering.yields_nothing.element path element attributes
  | image href title =>
      cases children with
      | cons first rest =>
          have description := (inChildren (path ++ [Element.image.name] ++
            [Element.alternative.name])).element (path ++ [Element.image.name]) .alternative []
          simpa [RenderRule.trees] using description.element path .image [⟨"href", href⟩]
      | nil =>
          cases titled : title.isEmpty with
          | true =>
              simpa [RenderRule.trees, titled] using
                Rendering.yields_nothing.element path .image [⟨"href", href⟩]
          | false =>
              have description := (Rendering.yields_characters title).element
                (path ++ [Element.image.name]) .alternative []
              simpa [RenderRule.trees, titled] using
                description.element path .image [⟨"href", href⟩]
  | characters text => simpa [RenderRule.trees] using Rendering.yields_characters text
  | ignored => simpa [RenderRule.trees] using Rendering.yields_note _
  | unmapped => simpa [RenderRule.trees] using Rendering.yields_fail _

/-- Nodes yield the events of their trees, wherever they stand. -/
theorem Node.renderAll_yields (document : String) (nodes : List Node) :
    ∀ path, (Node.renderAll document path nodes).Yields
      (EventTree.eventsAll (Node.treesAll nodes)) := by
  induction nodes using Node.forestInduction with
  | nil =>
      intro path
      rw [Node.renderAll, Node.treesAll_nil]
      exact Rendering.yields_nothing
  | cons kind position children rest inChildren inRest =>
      intro path
      rw [Node.renderAll, Node.treesAll_cons, EventTree.eventsAll_append]
      exact (Node.render_yields_of_children inChildren path kind position).andThen (inRest path)

theorem Node.render_yields (document : String) (path : List String) (node : Node) :
    (node.render document path).Yields (EventTree.eventsAll node.trees) := by
  cases node with
  | mk kind position children =>
      exact Node.render_yields_of_children (Node.renderAll_yields document children) path kind
        position

/-! ## The prolog -/

namespace Prolog

def textTree (element : Element) (value : MetaValue) : EventTree :=
  .of element [] (if value.asText.isEmpty then [] else [.characters value.asText])

def attributeTree (element : Element) (name : String) (value : MetaValue) : EventTree :=
  .of element [⟨name, value.asText⟩] []

def dataTree (key : String) (value : MetaValue) : EventTree :=
  .of .data [⟨"name", key⟩, ⟨"value", value.asText⟩] []

def textTrees (header : FrontMatter) (element : Element) : List EventTree :=
  ((structural? header element).getD []).map (textTree element)

def attributeTrees (header : FrontMatter) (element : Element) (name : String) : List EventTree :=
  ((structural? header element).getD []).map (attributeTree element name)

def keywordTrees (header : FrontMatter) : List EventTree :=
  if (structural? header .keyword).isSome then [.of .keywords [] (textTrees header .keyword)]
  else []

def metadataTrees (header : FrontMatter) : List EventTree :=
  if (structural? header .audience).isSome || (structural? header .category).isSome
      || (structural? header .keyword).isSome then
    [.of .metadata [] (attributeTrees header .audience "audience" ++ textTrees header .category
      ++ keywordTrees header)]
  else []

def dataTrees (options : RenderOptions) (header : FrontMatter) : List EventTree :=
  (header.entries.filter (fun entry =>
    !isKnown options entry.1 || isDemoted options header entry.1)).flatMap
      (fun entry => entry.2.map (dataTree entry.1))

/-- The content of the prolog as trees. -/
def trees (options : RenderOptions) (header : FrontMatter) : List EventTree :=
  textTrees header .author ++ textTrees header .source ++ textTrees header .publisher
    ++ attributeTrees header .permissions "view"
    ++ metadataTrees header
    ++ attributeTrees header .resourceId "appid"
    ++ dataTrees options header

theorem eventsAll_textTrees (header : FrontMatter) (element : Element) :
    EventTree.eventsAll (textTrees header element) = texts header element := by
  rw [textTrees, texts, EventTree.eventsAll_map]
  have each : ∀ value, (textTree element value).events = textElement element value := by
    intro value
    rw [textTree, textElement, EventTree.events_of]
    cases value.asText.isEmpty <;> simp
  simp only [each]

theorem eventsAll_attributeTrees (header : FrontMatter) (element : Element) (name : String) :
    EventTree.eventsAll (attributeTrees header element name) = attributes header element name := by
  rw [attributeTrees, attributes, EventTree.eventsAll_map]
  have each : ∀ value,
      (attributeTree element name value).events = attributeElement element name value := by
    intro value
    simp [attributeTree, attributeElement]
  simp only [each]

theorem eventsAll_keywordTrees (header : FrontMatter) :
    EventTree.eventsAll (keywordTrees header) = keywordGroup header := by
  rw [keywordTrees, keywordGroup]
  cases (structural? header .keyword).isSome with
  | true => simp [eventsAll_textTrees]
  | false => rfl

theorem eventsAll_metadataTrees (header : FrontMatter) :
    EventTree.eventsAll (metadataTrees header) = metadataGroup header := by
  rw [metadataTrees, metadataGroup]
  split
  · simp [eventsAll_textTrees, eventsAll_attributeTrees, eventsAll_keywordTrees]
  · rfl

theorem events_dataTree (key : String) (value : MetaValue) :
    (dataTree key value).events = dataElement key value := by
  simp [dataTree, dataElement]

theorem eventsAll_dataTrees (options : RenderOptions) (header : FrontMatter) :
    EventTree.eventsAll (dataTrees options header) = plainData options header := by
  rw [dataTrees, plainData, EventTree.eventsAll_flatMap]
  simp only [EventTree.eventsAll_map, events_dataTree]

/-- The content of the prolog is what its trees say. -/
theorem eventsAll_trees (options : RenderOptions) (header : FrontMatter) :
    EventTree.eventsAll (trees options header) = events options header := by
  simp only [trees, events, EventTree.eventsAll_append, eventsAll_textTrees,
    eventsAll_attributeTrees, eventsAll_metadataTrees, eventsAll_dataTrees]

end Prolog

theorem renderProlog_yields (options : RenderOptions) (path : List String) (header : FrontMatter) :
    (renderProlog options path header).Yields
      (EventTree.of .prolog [] (Prolog.trees options header)).events := by
  have content : ((Rendering.ofNotices (Prolog.notices options header)).andThen
      (.ofEvents (Prolog.events options header))).Yields
        ([] ++ EventTree.eventsAll (Prolog.trees options header)) :=
    Rendering.Yields.andThen (.of_events (Rendering.events_ofNotices _))
      (.of_events ((Rendering.events_ofEvents _).trans
        (Prolog.eventsAll_trees options header).symm))
  simpa [renderProlog] using
    (Rendering.yields_note (.prologStarted header.size)).andThen (content.element path .prolog [])

/-! ## Titles and sections -/

/-- The tree of a title that is made of a heading. -/
def titleTree (heading : Node) : EventTree :=
  .of .title (titleAttributes heading.kind) (Node.treesAll heading.children)

theorem renderTitle_yields (document : String) (path : List String) (heading : Node) :
    (renderTitle document path heading).Yields (titleTree heading).events := by
  simpa [renderTitle, titleTree] using (Node.renderAll_yields document heading.children
    (path ++ [Element.title.name])).element path .title (titleAttributes heading.kind)

/-- The trees of the blocks before the first heading, and those of the sections that begin with the
headings. -/
def sectionTrees : List Node → List EventTree × List EventTree
  | [] => ([], [])
  | node :: rest =>
    let (blocks, sections) := sectionTrees rest
    if node.kind.isHeading then ([], .of .section_ [] (titleTree node :: blocks) :: sections)
    else (node.trees ++ blocks, sections)

theorem sectionTrees_heading {node : Node} (heading : node.kind.isHeading = true)
    (rest : List Node) :
    sectionTrees (node :: rest) =
      ([], .of .section_ [] (titleTree node :: (sectionTrees rest).1)
        :: (sectionTrees rest).2) := by
  rw [sectionTrees, heading]
  rfl

theorem sectionTrees_block {node : Node} (block : node.kind.isHeading = false)
    (rest : List Node) :
    sectionTrees (node :: rest) =
      (node.trees ++ (sectionTrees rest).1, (sectionTrees rest).2) := by
  rw [sectionTrees, block]
  rfl

/-- The blocks of the body yield their trees and sections; an open section is closed before the first
section that begins among them. -/
theorem renderBlocks_yields (document : String) (path : List String) (nodes : List Node) :
    ∀ inSection, (renderBlocks document path inSection nodes).Yields
      (EventTree.eventsAll (sectionTrees nodes).1 ++ ((if inSection then [.endElement] else [])
        ++ EventTree.eventsAll (sectionTrees nodes).2)) := by
  induction nodes with
  | nil =>
      intro inSection
      cases inSection with
      | true => exact Rendering.yields_finish
      | false => exact Rendering.yields_nothing
  | cons node rest inductionHypothesis =>
      intro inSection
      rw [renderBlocks, sectionTrees]
      cases heading : node.kind.isHeading with
      | true =>
          have closing : (if inSection then .finish else .nothing : Rendering).Yields
              (if inSection then [.endElement] else []) := by
            cases inSection with
            | true => exact Rendering.yields_finish
            | false => exact Rendering.yields_nothing
          have opening := closing.andThen (Rendering.yields_start path .section_ [])
          have titled := opening.andThen
            (renderTitle_yields document (path ++ [Element.section_.name]) node)
          simpa using titled.andThen (inductionHypothesis true)
      | false =>
          have block := Node.render_yields document
            (if inSection then path ++ [Element.section_.name] else path) node
          simpa using block.andThen (inductionHypothesis inSection)

/-! ## The topic -/

namespace Document

/-- The top-level nodes for the title and the body, in the order of the rendering. -/
def inOrder (document : Document) : List Node :=
  document.firstHeading?.toList ++ document.bodyBlocks

theorem isHeading_of_firstHeading? {document : Document} {heading : Node}
    (found : document.firstHeading? = some heading) : heading.kind.isHeading = true :=
  List.find?_some (p := fun node : Node => node.kind.isHeading) found

def topicAttributes (options : RenderOptions) (document : Document) : List Attribute :=
  match document.topicId? options with
  | some id => [⟨"id", id⟩]
  | none => []

def topicTitleTree (document : Document) : EventTree :=
  match document.firstHeading? with
  | some heading => titleTree heading
  | none => .of .title [] []

def prologTrees (options : RenderOptions) (document : Document) : List EventTree :=
  match document.frontMatter? with
  | some header => [.of .prolog [] (Prolog.trees options header)]
  | none => []

def bodyTrees (document : Document) : List EventTree :=
  if document.bodyBlocks.isEmpty then []
  else
    [.of .body [] ((sectionTrees document.bodyBlocks).1 ++ (sectionTrees document.bodyBlocks).2)]

/-- The content of the topic: the title, and the prolog and the body if there is something for
them. -/
def topicContent (options : RenderOptions) (document : Document) : List EventTree :=
  document.topicTitleTree :: (document.prologTrees options ++ document.bodyTrees)

/-- The tree that a document is rendered to. -/
def topicTree (options : RenderOptions) (document : Document) : EventTree :=
  .of .topic (document.topicAttributes options) (document.topicContent options)

theorem renderTopicTitle_yields (document : Document) (path : List String) :
    (document.renderTopicTitle path).Yields document.topicTitleTree.events := by
  rw [renderTopicTitle, topicTitleTree]
  cases document.firstHeading? with
  | some heading => exact renderTitle_yields document.displayName path heading
  | none =>
      simpa using (Rendering.yields_note (.titleMissing document.displayName)).andThen
        (Rendering.yields_nothing.element path .title [])

theorem renderTopicProlog_yields (options : RenderOptions) (document : Document)
    (path : List String) :
    (document.renderTopicProlog options path).Yields
      (EventTree.eventsAll (document.prologTrees options)) := by
  rw [renderTopicProlog, prologTrees]
  cases document.frontMatter? with
  | some header => simpa using renderProlog_yields options path header
  | none => exact Rendering.yields_nothing

theorem renderTopicBody_yields (document : Document) (path : List String) :
    (document.renderTopicBody path).Yields (EventTree.eventsAll document.bodyTrees) := by
  rw [renderTopicBody, bodyTrees]
  cases document.bodyBlocks.isEmpty with
  | true => exact Rendering.yields_nothing
  | false =>
      simpa using (renderBlocks_yields document.displayName (path ++ [Element.body.name])
        document.bodyBlocks false).element path .body []

/-- The rendering of everything within the topic. -/
def renderContent (options : RenderOptions) (document : Document) (path : List String) :
    Rendering :=
  .sequence [
    document.renderTopicTitle path,
    document.renderTopicProlog options path,
    document.renderTopicBody path]

theorem renderContent_yields (options : RenderOptions) (document : Document)
    (path : List String) :
    (document.renderContent options path).Yields
      (EventTree.eventsAll (document.topicContent options)) := by
  have parts := Rendering.Yields.sequence_cons (document.renderTopicTitle_yields path)
    (.sequence_cons (document.renderTopicProlog_yields options path)
      (.sequence_cons (document.renderTopicBody_yields path) Rendering.yields_sequence_nil))
  simpa [topicContent, renderContent] using parts

/-- A document is one element between notices, with the end of the document after it. -/
theorem render_eq (options : RenderOptions) (document : Document) :
    document.render options =
      .sequence [
        .note (.renderingStarted document.displayName document.children.length),
        .element [] .topic (document.topicAttributes options)
          (document.renderContent options [Element.topic.name]),
        .deliver .endDocument,
        .note (.renderingFinished document.displayName)] := rfl

/-- A document fails where the content of its topic fails. -/
theorem failure_render (options : RenderOptions) (document : Document) :
    (document.render options).failure =
      (document.renderContent options [Element.topic.name]).failure := by
  simp only [render_eq, Rendering.failure_sequence_cons, Rendering.failure_note,
    Rendering.failure_element, Rendering.failure_deliver, Rendering.failure_sequence_nil,
    Option.none_or, Option.or_none]

/-- A document without a failure delivers the events of its tree and then ends. -/
theorem events_render_of_success {options : RenderOptions} {document : Document}
    (succeeded : (document.render options).failure = none) :
    (document.render options).events =
      (document.topicTree options).events ++ [.endDocument] := by
  have topic := (document.renderContent_yields options [Element.topic.name]).element []
    .topic (document.topicAttributes options)
  have whole := Rendering.Yields.sequence_cons
    (Rendering.yields_note (.renderingStarted document.displayName document.children.length))
    (.sequence_cons topic
      (.sequence_cons (.of_events (Rendering.events_deliver .endDocument))
        (.sequence_cons (Rendering.yields_note (.renderingFinished document.displayName))
          Rendering.yields_sequence_nil)))
  rw [render_eq] at succeeded ⊢
  simpa [topicTree] using whole.complete succeeded

/-- A document with a failure starts the topic and delivers what its content delivers. -/
theorem events_render_of_failed {options : RenderOptions} {document : Document}
    {context : NodeContext} (failed : (document.render options).failure = some context) :
    (document.render options).events =
      .start .topic (document.topicAttributes options) ::
        (document.renderContent options [Element.topic.name]).events := by
  rw [failure_render] at failed
  have topicFailed := failed
  rw [← Rendering.failure_element [] .topic (document.topicAttributes options)] at topicFailed
  rw [← Rendering.events_element_of_failure failed [], render_eq, Rendering.sequence,
    List.foldr_cons, List.foldr_cons, Rendering.events_andThen_of_success (Rendering.failure_note _),
    Rendering.andThen_of_failure topicFailed, Rendering.events_note, List.nil_append]

/-- What it delivers of the content is a beginning. -/
theorem events_render_of_failure {options : RenderOptions} {document : Document}
    {context : NodeContext} (failed : (document.render options).failure = some context) :
    ∃ begun, begun <+: EventTree.eventsAll (document.topicContent options) ∧
      (document.render options).events =
        .start .topic (document.topicAttributes options) :: begun :=
  ⟨_, (document.renderContent_yields options [Element.topic.name]).begun,
    events_render_of_failed failed⟩

/-- A document delivers a beginning of its topic and the end of the document, whether it fails or
not. -/
theorem events_render_prefix (options : RenderOptions) (document : Document) :
    (document.render options).events <+: (document.topicTree options).events ++ [.endDocument] := by
  cases outcome : (document.render options).failure with
  | none =>
      have whole := events_render_of_success outcome
      exact whole ▸ List.prefix_refl _
  | some context =>
      rcases events_render_of_failure outcome with ⟨begun, inside, delivered⟩
      rw [delivered, topicTree, EventTree.events_of, List.cons_append, List.prefix_cons_inj,
        List.append_assoc]
      exact inside.trans (List.prefix_append _ _)

end Document

end TopicPress
