import TopicPress.Topic.Serialize

/-!
# Delivering a topic

A rendering is worked out before any of it reaches a sink.  Here the rules of rendering are a program
instead, which hands each event to the sink at the moment it comes to it, and which the sink can end
at any of them by refusing.  Nothing is done after a refusal: no element is closed and no other event
is tried.
-/

namespace TopicPress

open Dita (Element)

/-- What a delivery has come to so far. -/
structure Delivered (State : Type) where
  state : State
  notices : Array Notice := #[]

/-- A part of a delivery.  It is ended early by a refusal, or by a node without a rule. -/
abbrev Delivery (State Refusal : Type) : Type → Type :=
  ExceptT (RenderError Refusal) (StateM (Delivered State))

variable {State Refusal : Type}

namespace Delivery

def note (notice : Notice) : Delivery State Refusal Unit :=
  modify (fun delivered => { delivered with notices := delivered.notices.push notice })

/-- Hand one event to the sink. -/
def emit (sink : Sink State Refusal) (event : Event) : Delivery State Refusal Unit := do
  let delivered ← get
  let receipt := sink.receive delivered.state event
  set ({ state := receipt.state, notices := delivered.notices ++ receipt.notices } :
    Delivered State)
  match receipt.refusal with
  | some reason => throw (.refused reason)
  | none => pure ()

def start (sink : Sink State Refusal) (path : List String) (element : Element)
    (attributes : List Attribute) : Delivery State Refusal Unit := do
  note (.elementStarted element.name path.length)
  emit sink (.start element attributes)

end Delivery

open Delivery (note emit start)

/-! ## Nodes -/

mutual

/-- Deliver a node below the elements of `path`. -/
def Node.deliver (sink : Sink State Refusal) (document : String) (path : List String)
    (node : Node) : Delivery State Refusal Unit :=
  match node with
  | ⟨kind, position, children⟩ =>
    match kind.rule with
    | .element element attributes literal => do
      start sink path element attributes
      if let some text := literal then
        emit sink (.characters text)
      Node.deliverAll sink document (path ++ [element.name]) children
      emit sink .endElement
    | .emptyElement element attributes => do
      start sink path element attributes
      emit sink .endElement
    | .image href title => do
      let inner := path ++ [Element.image.name]
      start sink path .image [⟨"href", href⟩]
      if !children.isEmpty then
        start sink inner .alternative []
        Node.deliverAll sink document (inner ++ [Element.alternative.name]) children
        emit sink .endElement
      else if !title.isEmpty then
        start sink inner .alternative []
        emit sink (.characters title)
        emit sink .endElement
      emit sink .endElement
    | .characters text => emit sink (.characters text)
    | .ignored => note (.frontMatterIgnored document (pathText path))
    | .unmapped =>
      throw (.unmapped { document, node := kind.name, position, path := pathText path })

/-- Deliver nodes one after the other. -/
def Node.deliverAll (sink : Sink State Refusal) (document : String) (path : List String) :
    List Node → Delivery State Refusal Unit
  | [] => pure ()
  | node :: rest => do
    node.deliver sink document path
    Node.deliverAll sink document path rest

end

def deliverTitle (sink : Sink State Refusal) (document : String) (path : List String)
    (heading : Node) : Delivery State Refusal Unit := do
  start sink path .title (titleAttributes heading.kind)
  Node.deliverAll sink document (path ++ [Element.title.name]) heading.children
  emit sink .endElement

/-! ## The prolog -/

namespace Prolog

/-- Deliver the values of the key of `element` as contents. -/
def deliverTexts (sink : Sink State Refusal) (header : FrontMatter) (element : Element) :
    Delivery State Refusal Unit :=
  ((structural? header element).getD []).forM fun value => do
    emit sink (.start element [])
    if !value.asText.isEmpty then
      emit sink (.characters value.asText)
    emit sink .endElement

/-- Deliver the values of the key of `element` in the attribute `name`. -/
def deliverAttributes (sink : Sink State Refusal) (header : FrontMatter) (element : Element)
    (name : String) : Delivery State Refusal Unit :=
  ((structural? header element).getD []).forM fun value => do
    emit sink (.start element [⟨name, value.asText⟩])
    emit sink .endElement

/-- Deliver the content of the prolog. -/
def deliver (sink : Sink State Refusal) (options : RenderOptions) (header : FrontMatter) :
    Delivery State Refusal Unit := do
  header.entries.forM fun entry => do
    if isDemoted options header entry.1 then
      note (.keyDemoted entry.1)
  deliverTexts sink header .author
  deliverTexts sink header .source
  deliverTexts sink header .publisher
  deliverAttributes sink header .permissions "view"
  let hasKeywords := (structural? header .keyword).isSome
  if (structural? header .audience).isSome || (structural? header .category).isSome
      || hasKeywords then
    emit sink (.start .metadata [])
    deliverAttributes sink header .audience "audience"
    deliverTexts sink header .category
    if hasKeywords then
      emit sink (.start .keywords [])
      deliverTexts sink header .keyword
      emit sink .endElement
    emit sink .endElement
  deliverAttributes sink header .resourceId "appid"
  header.entries.forM fun entry => do
    if !isKnown options entry.1 || isDemoted options header entry.1 then
      entry.2.forM fun value => do
        emit sink (.start .data [⟨"name", entry.1⟩, ⟨"value", value.asText⟩])
        emit sink .endElement

end Prolog

def deliverProlog (sink : Sink State Refusal) (options : RenderOptions) (path : List String)
    (header : FrontMatter) : Delivery State Refusal Unit := do
  note (.prologStarted header.size)
  start sink path .prolog []
  Prolog.deliver sink options header
  emit sink .endElement

/-! ## The body and the topic -/

/-- Deliver the blocks of the body from some point on; `inSection` says that a section is open
there. -/
def deliverBlocks (sink : Sink State Refusal) (document : String) (path : List String)
    (inSection : Bool) : List Node → Delivery State Refusal Unit
  | [] => do
    if inSection then
      emit sink .endElement
  | node :: rest =>
    if node.kind.isHeading then do
      if inSection then
        emit sink .endElement
      start sink path .section_ []
      deliverTitle sink document (path ++ [Element.section_.name]) node
      deliverBlocks sink document path true rest
    else do
      node.deliver sink document (if inSection then path ++ [Element.section_.name] else path)
      deliverBlocks sink document path inSection rest

namespace Document

/-- Deliver a document as a topic, with the end of the document after it. -/
def deliver (sink : Sink State Refusal) (options : RenderOptions) (document : Document) :
    Delivery State Refusal Unit := do
  let inner := [Element.topic.name]
  note (.renderingStarted document.displayName document.children.length)
  start sink [] .topic (match document.topicId? options with
    | some id => [⟨"id", id⟩]
    | none => [])
  match document.firstHeading? with
  | some heading => deliverTitle sink document.displayName inner heading
  | none => do
    note (.titleMissing document.displayName)
    start sink inner .title []
    emit sink .endElement
  match document.frontMatter? with
  | some header => deliverProlog sink options inner header
  | none => pure ()
  if !document.bodyBlocks.isEmpty then
    start sink inner .body []
    deliverBlocks sink document.displayName (inner ++ [Element.body.name]) false
      document.bodyBlocks
    emit sink .endElement
  emit sink .endElement
  emit sink .endDocument
  note (.renderingFinished document.displayName)

/-- What comes of delivering a document to a sink in the state `state`. -/
def serialize (sink : Sink State Refusal) (state : State) (options : RenderOptions)
    (document : Document) : Sink.Played State Refusal :=
  let (result, delivered) := (document.deliver sink options).run.run { state }
  { state := delivered.state, notices := delivered.notices, result }

end Document

end TopicPress
