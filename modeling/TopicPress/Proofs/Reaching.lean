import TopicPress.Proofs.TopicTree
import TopicPress.Proofs.TopLevel

/-!
# Where a rendering comes to

The nodes that a rendering comes to, in its order, each with the elements that are open there.  The
order is that of the source but for two things: the first heading is taken first, and the front matter
of the prolog is not come to at all.  Children are looked at unless their parent is one of four kinds
that show nothing of them.  A rendering fails at the first of these nodes that has no counterpart, and
it fails nowhere else.

The renderer hands the names of the open elements down from node to node and never looks at the events
it has delivered.  That it keeps a true account of them is stated here of the events alone: where a
rendering fails, the elements that the events have started and not ended are those of the account.
-/

namespace TopicPress

open Dita (Element)

/-- A node with the names of the elements that are open where it is reached, outermost first. -/
structure Reached where
  path : List String
  node : Node

/-- The kinds of nodes that show nothing of their children. -/
def NodeKind.hidesChildren : NodeKind → Bool
  | text _ => true
  | lineBreak => true
  | thematicBreak => true
  | frontMatter _ => true
  | _ => false

/-- The name of a node without a counterpart. -/
def NodeKind.unsupported? : NodeKind → Option String
  | unsupported name => some name
  | _ => none

/-- The names of the elements that a rule puts around the children of a node. -/
def RenderRule.enclosing : RenderRule → List String
  | .element container _ _ => [container.name]
  | .image _ _ => [Element.image.name, Element.alternative.name]
  | _ => []

mutual

/-- The nodes that are reached when a node is rendered below the elements of `path`. -/
def Node.reached (path : List String) (node : Node) : List Reached :=
  match node with
  | ⟨kind, position, children⟩ =>
    ⟨path, kind, position, children⟩ ::
      if kind.hidesChildren then []
      else Node.reachedAll (path ++ kind.rule.enclosing) children

/-- The nodes that are reached when nodes are rendered one after the other. -/
def Node.reachedAll (path : List String) : List Node → List Reached
  | [] => []
  | node :: rest => node.reached path ++ Node.reachedAll path rest

end

/-- Why a node that is reached ends the rendering, if it does. -/
def Reached.failure? (document : String) (reached : Reached) : Option NodeContext :=
  reached.node.kind.unsupported?.map fun name =>
    { document, node := name, position := reached.node.position, path := pathText reached.path }

@[simp] theorem Node.reachedAll_nil (path : List String) : Node.reachedAll path [] = [] := by
  rw [Node.reachedAll]

@[simp] theorem Node.reachedAll_cons (path : List String) (node : Node) (rest : List Node) :
    Node.reachedAll path (node :: rest) = node.reached path ++ Node.reachedAll path rest := by
  rw [Node.reachedAll]

theorem Node.reached_eq (path : List String) (kind : NodeKind) (position : Option SourcePosition)
    (children : List Node) :
    (⟨kind, position, children⟩ : Node).reached path =
      ⟨path, kind, position, children⟩ ::
        if kind.hidesChildren then []
        else Node.reachedAll (path ++ kind.rule.enclosing) children := by
  rw [Node.reached]

/-! ## Kinds and rules -/

/-- The kinds that hide their children are those whose rules have no place for them. -/
theorem NodeKind.hidesChildren_eq (kind : NodeKind) :
    kind.hidesChildren =
      match kind.rule with
      | .element _ _ _ | .image _ _ | .unmapped => false
      | .emptyElement _ _ | .characters _ | .ignored => true := by
  cases kind with
  | list ordered start => cases ordered <;> rfl
  | tableRow header => cases header <;> rfl
  | _ => rfl

theorem NodeKind.unsupported?_eq (kind : NodeKind) :
    kind.unsupported? = match kind.rule with
      | .unmapped => some kind.name
      | _ => none := by
  cases kind with
  | list ordered start => cases ordered <;> rfl
  | tableRow header => cases header <;> rfl
  | _ => rfl

theorem NodeKind.isSome_unsupported?_eq (kind : NodeKind) :
    kind.unsupported?.isSome = match kind.rule with
      | .unmapped => true
      | _ => false := by
  rw [unsupported?_eq]
  cases kind.rule <;> rfl

/-! ## Open elements -/

/-- The names of the open elements after an event, outermost first. -/
def Event.openNames (names : List String) : Event → List String
  | startElement name _ _ => names ++ [name]
  | endElement => names.dropLast
  | characters _ => names
  | endDocument => names

/-- The names of the elements that are open after events, where those of `names` were open before. -/
def openNames (names : List String) (events : List Event) : List String :=
  events.foldl Event.openNames names

theorem openNames_append (names : List String) (first second : List Event) :
    openNames names (first ++ second) = openNames (openNames names first) second :=
  List.foldl_append

/-- Trees leave open what was open before them. -/
theorem openNames_eventsAll (forest : List EventTree) :
    ∀ names, openNames names (EventTree.eventsAll forest) = names := by
  induction forest using EventTree.forestInduction with
  | nil =>
      intro names
      rfl
  | characters text rest inRest =>
      intro names
      rw [EventTree.eventsAll_cons, EventTree.events_characters, openNames_append, inRest]
      rfl
  | element name classValue attributes children rest inChildren inRest =>
      intro names
      have started : openNames names [.startElement name classValue attributes] = names ++ [name] :=
        rfl
      have ended : openNames (names ++ [name]) [.endElement] = names := List.dropLast_concat
      rw [EventTree.eventsAll_cons, EventTree.events_element, openNames_append,
        ← List.singleton_append, openNames_append, openNames_append, started, inChildren, ended,
        inRest]

/-! ## Following a rendering -/

def Reached.isUnsupported (reached : Reached) : Bool := reached.node.kind.unsupported?.isSome

/-- How the error describes a node. -/
def Reached.context (document : String) (reached : Reached) : NodeContext where
  document := document
  node := reached.node.kind.name
  position := reached.node.position
  path := pathText reached.path

theorem Reached.failure?_eq (document : String) (reached : Reached) :
    reached.failure? document =
      if reached.isUnsupported then some (reached.context document) else none := by
  rw [failure?, isUnsupported, context, NodeKind.unsupported?_eq]
  cases reached.node.kind.rule <;> rfl

theorem Reached.findSome?_failure? (document : String) (reached : List Reached) :
    reached.findSome? (Reached.failure? document) =
      (reached.find? Reached.isUnsupported).map (Reached.context document) := by
  induction reached with
  | nil => rfl
  | cons place rest inductionHypothesis =>
      rw [List.findSome?_cons, List.find?_cons, failure?_eq, inductionHypothesis]
      cases place.isUnsupported <;> rfl

namespace Rendering

/-- A rendering comes to the nodes of `reached`, with the elements of `before` open at its beginning
and those of `after` at its end: it fails at the first node without a counterpart, and with the
elements open that are noted there. -/
structure Follows (document : String) (before after : List String) (reached : List Reached)
    (rendering : Rendering) : Prop where
  failure : rendering.failure =
    (reached.find? Reached.isUnsupported).map (Reached.context document)
  openNames : openNames before rendering.events =
    ((reached.find? Reached.isUnsupported).map Reached.path).getD after

variable {document : String} {before between after path : List String}

theorem Follows.failure_eq_findSome {reached : List Reached} {rendering : Rendering}
    (follows : rendering.Follows document before after reached) :
    rendering.failure = reached.findSome? (Reached.failure? document) := by
  rw [follows.failure, Reached.findSome?_failure?]

/-- Renderings without a node of their own. -/
theorem Follows.of_events {rendering : Rendering} (succeeded : rendering.failure = none)
    (moved : TopicPress.openNames before rendering.events = after) :
    rendering.Follows document before after [] :=
  ⟨succeeded, moved⟩

theorem follows_nothing : nothing.Follows document path path [] := .of_events rfl rfl

theorem follows_note (notice : Notice) : (note notice).Follows document path path [] :=
  .of_events rfl rfl

theorem follows_characters (text : String) : (characters text).Follows document path path [] :=
  .of_events rfl rfl

theorem follows_literal (text : Option String) : (literal text).Follows document path path [] := by
  cases text with
  | none => exact follows_nothing
  | some content => exact follows_characters content

theorem follows_start (element : Element) (attributes : List Attribute) :
    (start path element attributes).Follows document path (path ++ [element.name]) [] :=
  .of_events rfl rfl

theorem follows_finish (name : String) : finish.Follows document (path ++ [name]) path [] :=
  .of_events rfl List.dropLast_concat

/-- Nothing is delivered after the first node without a counterpart. -/
theorem Follows.andThen {early late : List Reached} {first second : Rendering}
    (firstFollows : first.Follows document before between early)
    (secondFollows : second.Follows document between after late) :
    (first.andThen second).Follows document before after (early ++ late) := by
  have earlyFailure := firstFollows.failure
  have earlyNames := firstFollows.openNames
  cases found : early.find? Reached.isUnsupported with
  | some place =>
      rw [found] at earlyFailure earlyNames
      rw [andThen_of_failure earlyFailure]
      constructor
      · rw [List.find?_append, found, earlyFailure]
        rfl
      · rw [List.find?_append, found, earlyNames]
        rfl
  | none =>
      rw [found] at earlyFailure earlyNames
      constructor
      · rw [List.find?_append, found, failure_andThen, earlyFailure, secondFollows.failure]
        rfl
      · rw [List.find?_append, found, events_andThen_of_success earlyFailure, openNames_append,
          earlyNames]
        exact secondFollows.openNames

theorem Follows.element {reached : List Reached} {content : Rendering} {container : Element}
    (contentFollows : content.Follows document (path ++ [container.name])
      (path ++ [container.name]) reached) (attributes : List Attribute) :
    (Rendering.element path container attributes content).Follows document path path reached := by
  have whole := ((follows_start container attributes).andThen contentFollows).andThen
    (follows_finish container.name)
  rwa [List.nil_append, List.append_nil] at whole

/-- A node with a counterpart is passed. -/
theorem Follows.pass {reached : List Reached} {rendering : Rendering} {place : Reached}
    (supported : place.isUnsupported = false)
    (follows : rendering.Follows document before after reached) :
    rendering.Follows document before after (place :: reached) := by
  have passed : (place :: reached).find? Reached.isUnsupported =
      reached.find? Reached.isUnsupported :=
    List.find?_cons_of_neg (by rw [supported]; exact Bool.false_ne_true)
  exact ⟨passed ▸ follows.failure, passed ▸ follows.openNames⟩

/-- At a node without a counterpart the rendering ends. -/
theorem follows_fail {place : Reached} (unsupported : place.isUnsupported = true)
    (rest : List Reached) :
    (fail (place.context document)).Follows document place.path after (place :: rest) := by
  have found : (place :: rest).find? Reached.isUnsupported = some place :=
    List.find?_cons_of_pos unsupported
  constructor
  · rw [found]
    rfl
  · rw [found]
    rfl

end Rendering

open Rendering (follows_nothing follows_note follows_characters follows_literal follows_start
  follows_finish follows_fail)

/-! ## Nodes -/

private theorem Node.render_follows_of_children {document : String} {children : List Node}
    (inChildren : ∀ path, (Node.renderAll document path children).Follows document path path
      (Node.reachedAll path children))
    (path : List String) (kind : NodeKind) (position : Option SourcePosition) :
    ((⟨kind, position, children⟩ : Node).render document path).Follows document path path
      ((⟨kind, position, children⟩ : Node).reached path) := by
  have unsupported : Reached.isUnsupported ⟨path, kind, position, children⟩ = _ :=
    kind.isSome_unsupported?_eq
  rw [Node.render, Node.reached_eq, NodeKind.hidesChildren_eq]
  cases rule : kind.rule with
  | element container attributes literal =>
      rw [rule] at unsupported
      have content := (follows_literal literal).andThen (inChildren (path ++ [container.name]))
      exact (content.element attributes).pass unsupported
  | emptyElement container attributes =>
      rw [rule] at unsupported
      exact (follows_nothing.element attributes).pass unsupported
  | image href title =>
      rw [rule] at unsupported
      refine .pass unsupported (.element ?_ _)
      cases children with
      | cons first rest =>
          have enclosed : path ++ (RenderRule.image href title).enclosing =
              path ++ [Element.image.name] ++ [Element.alternative.name] :=
            (List.append_assoc path [Element.image.name] [Element.alternative.name]).symm
          rw [enclosed]
          exact (inChildren _).element []
      | nil =>
          rw [Node.reachedAll_nil]
          cases title.isEmpty with
          | true => exact follows_nothing
          | false => exact (follows_characters title).element []
  | characters text =>
      rw [rule] at unsupported
      exact (follows_characters text).pass unsupported
  | ignored =>
      rw [rule] at unsupported
      exact (follows_note _).pass unsupported
  | unmapped =>
      rw [rule] at unsupported
      exact follows_fail unsupported _

/-- Nodes come to the nodes that are noted for them, wherever they stand. -/
theorem Node.renderAll_follows (document : String) (nodes : List Node) :
    ∀ path, (Node.renderAll document path nodes).Follows document path path
      (Node.reachedAll path nodes) := by
  induction nodes using Node.forestInduction with
  | nil =>
      intro path
      rw [Node.renderAll, Node.reachedAll_nil]
      exact follows_nothing
  | cons kind position children rest inChildren inRest =>
      intro path
      rw [Node.renderAll, Node.reachedAll_cons]
      exact (Node.render_follows_of_children inChildren path kind position).andThen (inRest path)

theorem Node.render_follows (document : String) (path : List String) (node : Node) :
    (node.render document path).Follows document path path (node.reached path) := by
  cases node with
  | mk kind position children =>
      exact Node.render_follows_of_children (Node.renderAll_follows document children) path kind
        position

/-- A node fails at the first one that is reached and has no counterpart. -/
theorem Node.failure_render (document : String) (path : List String) (node : Node) :
    (node.render document path).failure =
      (node.reached path).findSome? (Reached.failure? document) :=
  (node.render_follows document path).failure_eq_findSome

/-! ## The body and the topic -/

/-- The nodes that are reached among the blocks of the body from some point on; `inSection` says that
a section is open there. -/
def blocksReached (path : List String) (inSection : Bool) : List Node → List Reached
  | [] => []
  | node :: rest =>
    if node.kind.isHeading then
      Node.reachedAll (path ++ [Element.section_.name, Element.title.name]) node.children
        ++ blocksReached path true rest
    else
      node.reached (if inSection then path ++ [Element.section_.name] else path)
        ++ blocksReached path inSection rest

theorem renderTitle_follows (document : String) (path : List String) (heading : Node) :
    (renderTitle document path heading).Follows document path path
      (Node.reachedAll (path ++ [Element.title.name]) heading.children) :=
  (Node.renderAll_follows document heading.children _).element _

theorem failure_renderTitle (document : String) (path : List String) (heading : Node) :
    (renderTitle document path heading).failure =
      (Node.reachedAll (path ++ [Element.title.name]) heading.children).findSome?
        (Reached.failure? document) :=
  (renderTitle_follows document path heading).failure_eq_findSome

/-- The blocks of the body end with the elements of `path` open, whether a section is open at their
beginning or not. -/
theorem renderBlocks_follows (document : String) (path : List String) (nodes : List Node) :
    ∀ inSection, (renderBlocks document path inSection nodes).Follows document
      (if inSection then path ++ [Element.section_.name] else path) path
      (blocksReached path inSection nodes) := by
  have closing : ∀ inSection : Bool,
      (if inSection then .finish else .nothing : Rendering).Follows document
        (if inSection then path ++ [Element.section_.name] else path) path [] := by
    intro inSection
    cases inSection with
    | true => exact follows_finish _
    | false => exact follows_nothing
  induction nodes with
  | nil => exact closing
  | cons node rest inductionHypothesis =>
      intro inSection
      rw [renderBlocks, blocksReached]
      cases node.kind.isHeading with
      | true =>
          have inTitle : path ++ [Element.section_.name, Element.title.name] =
              path ++ [Element.section_.name] ++ [Element.title.name] :=
            (List.append_assoc path [Element.section_.name] [Element.title.name]).symm
          have opening := (closing inSection).andThen (follows_start .section_ [])
          have titled := opening.andThen
            (renderTitle_follows document (path ++ [Element.section_.name]) node)
          rw [inTitle]
          exact titled.andThen (inductionHypothesis true)
      | false =>
          exact (Node.render_follows document _ node).andThen (inductionHypothesis inSection)

namespace Document

/-- The nodes that are reached when a document is rendered, in the order of the rendering. -/
def reached (document : Document) : List Reached :=
  (match document.titleHeading? with
    | some heading =>
      Node.reachedAll [Element.topic.name, Element.title.name] heading.children
    | none => [])
    ++ blocksReached [Element.topic.name, Element.body.name] false document.remaining

theorem renderTopicTitle_follows (document : Document) (path : List String) :
    (document.renderTopicTitle path).Follows document.displayName path path
      (match document.titleHeading? with
        | some heading => Node.reachedAll (path ++ [Element.title.name]) heading.children
        | none => []) := by
  rw [renderTopicTitle, titleHeading?_eq]
  cases document.firstHeading? with
  | some heading => exact renderTitle_follows document.displayName path heading
  | none => exact (follows_note _).andThen (follows_nothing.element [])

theorem failure_renderTopicProlog (options : RenderOptions) (document : Document)
    (path : List String) : (document.renderTopicProlog options path).failure = none := by
  rw [renderTopicProlog]
  cases document.frontMatter? with
  | some header => simp [renderProlog]
  | none => rfl

/-- No node is come to in the prolog. -/
theorem renderTopicProlog_follows (options : RenderOptions) (document : Document)
    (path : List String) :
    (document.renderTopicProlog options path).Follows document.displayName path path [] := by
  have succeeded := document.failure_renderTopicProlog options path
  refine .of_events succeeded ?_
  rw [(document.renderTopicProlog_yields options path).complete succeeded, openNames_eventsAll]

theorem renderTopicBody_follows (document : Document) (path : List String) :
    (document.renderTopicBody path).Follows document.displayName path path
      (blocksReached (path ++ [Element.body.name]) false document.remaining) := by
  rw [renderTopicBody, remaining_eq]
  cases document.bodyBlocks with
  | nil => exact follows_nothing
  | cons block rest => exact (renderBlocks_follows _ _ _ false).element []

/-- A document comes to its nodes with nothing open at its beginning and at its end. -/
theorem render_follows (options : RenderOptions) (document : Document) :
    (document.render options).Follows document.displayName [] [] document.reached := by
  have content := (document.renderTopicTitle_follows [Element.topic.name]).andThen
    ((document.renderTopicProlog_follows options [Element.topic.name]).andThen
      ((document.renderTopicBody_follows [Element.topic.name]).andThen follows_nothing))
  have topic : (Rendering.element [] .topic (document.topicAttributes options)
      (document.renderContent options [Element.topic.name])).Follows document.displayName [] [] _ :=
    Rendering.Follows.element content _
  have ended : (Rendering.deliver .endDocument).Follows document.displayName [] [] [] :=
    .of_events rfl rfl
  have whole := (follows_note (.renderingStarted document.displayName document.children.length)).andThen
    (topic.andThen (ended.andThen
      ((follows_note (.renderingFinished document.displayName)).andThen follows_nothing)))
  simp only [List.nil_append, List.append_nil] at whole
  exact whole

/-- A document fails at the first node that is reached and has no counterpart. -/
theorem failure_render_eq_findSome (options : RenderOptions) (document : Document) :
    (document.render options).failure =
      document.reached.findSome? (Reached.failure? document.displayName) :=
  (document.render_follows options).failure_eq_findSome

end Document

end TopicPress
