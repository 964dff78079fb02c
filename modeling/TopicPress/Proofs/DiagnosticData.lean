import TopicPress.Proofs.Receiving
import TopicPress.Proofs.Reaching

/-!
# Diagnostics and what is rendered

Some of the data in a document is there for diagnostics, or for readers of the source: the name of the
document, the positions of its nodes, the titles of links.  Some makes no difference where it stands:
the title of an image that has children to describe it, the start number of a list without numbers, a
start number of one, an empty language.  None of it gets into a topic.  Documents that agree without
it are rendered to the same events, whatever the sink, and if they fail, they fail at the same node
and with the same elements open; all that tells the failures apart is the name and the position.
-/

namespace TopicPress

open Dita (Element)

/-! ## Documents without diagnostics -/

/-- A kind without the data that no rendering shows; `childless` says that the node has no children. -/
def NodeKind.essential (childless : Bool) : NodeKind → NodeKind
  | list false _ => list false none
  | list true (some 1) => list true none
  | codeBlock (some language) literal =>
    codeBlock (if language.isEmpty then none else some language) literal
  | link url _ => link url ""
  | image url title => image url (if childless then title else "")
  | kind => kind

mutual

/-- A node without a position and without the data that no rendering shows, at any depth. -/
def Node.essential (node : Node) : Node :=
  match node with
  | ⟨kind, _, children⟩ => ⟨kind.essential children.isEmpty, none, Node.essentialAll children⟩

/-- The same for a list of nodes. -/
def Node.essentialAll : List Node → List Node
  | [] => []
  | node :: rest => node.essential :: Node.essentialAll rest

end

/-- A document without its name and without the data that no rendering shows. -/
def Document.essential (document : Document) : Document :=
  { name := none, children := Node.essentialAll document.children }

/-- The documents are equal but for data that is never shown. -/
def Document.Alike (first second : Document) : Prop := first.essential = second.essential

namespace NodeKind

variable (kind : NodeKind) (childless : Bool)

@[simp] theorem name_essential : (kind.essential childless).name = kind.name := by
  unfold essential
  split <;> rfl

@[simp] theorem isHeading_essential : (kind.essential childless).isHeading = kind.isHeading := by
  unfold essential
  split <;> rfl

@[simp] theorem frontMatter?_essential :
    (kind.essential childless).frontMatter? = kind.frontMatter? := by
  unfold essential
  split <;> rfl

@[simp] theorem ownText_essential : (kind.essential childless).ownText = kind.ownText := by
  unfold essential
  split <;> rfl

@[simp] theorem titleAttributes_essential :
    titleAttributes (kind.essential childless) = titleAttributes kind := by
  unfold essential
  split <;> rfl

/-- The rules do not look at the data that is left out, but for the title of an image, which they
look at only if the image has no children. -/
theorem rule_essential :
    (kind.essential childless).rule = kind.rule ∨
      childless = false ∧ ∃ href title, kind.rule = .image href title ∧
        (kind.essential childless).rule = .image href "" := by
  unfold essential
  split
  · exact Or.inl rfl
  · exact Or.inl rfl
  · rename_i language literal
    refine Or.inl ?_
    cases empty : language.isEmpty <;> simp [rule, codeLanguage, empty]
  · exact Or.inl rfl
  · rename_i url title
    cases childless with
    | true => exact Or.inl rfl
    | false => exact Or.inr ⟨rfl, url, title, rfl, rfl⟩
  · exact Or.inl rfl

end NodeKind

namespace Node

@[simp] theorem kind_essential (node : Node) :
    node.essential.kind = node.kind.essential node.children.isEmpty := by
  rcases node with ⟨kind, position, children⟩
  rw [essential]

@[simp] theorem children_essential (node : Node) :
    node.essential.children = Node.essentialAll node.children := by
  rcases node with ⟨kind, position, children⟩
  rw [essential]

theorem essentialAll_eq_map (nodes : List Node) : Node.essentialAll nodes = nodes.map essential := by
  induction nodes with
  | nil => rw [essentialAll, List.map_nil]
  | cons node rest inductionHypothesis => rw [essentialAll, inductionHypothesis, List.map_cons]

@[simp] theorem isEmpty_essentialAll (nodes : List Node) :
    (Node.essentialAll nodes).isEmpty = nodes.isEmpty := by
  rw [essentialAll_eq_map, List.isEmpty_map]

theorem textContents_essentialAll (nodes : List Node) :
    Node.textContents (Node.essentialAll nodes) = Node.textContents nodes := by
  induction nodes using Node.forestInduction with
  | nil => rw [essentialAll]
  | cons kind position children rest inChildren inRest =>
      rw [essentialAll, essential, textContents, textContents, textContent, textContent, inChildren,
        inRest, NodeKind.ownText_essential]

@[simp] theorem textContent_essential (node : Node) :
    node.essential.textContent = node.textContent := by
  rcases node with ⟨kind, position, children⟩
  rw [essential, textContent, textContent, textContents_essentialAll, NodeKind.ownText_essential]

end Node

namespace Document

variable (document : Document)

theorem firstHeading?_essential :
    document.essential.firstHeading? = document.firstHeading?.map Node.essential := by
  rw [firstHeading?, essential, Node.essentialAll_eq_map, List.find?_map, firstHeading?]
  simp only [Function.comp_def, Node.kind_essential, NodeKind.isHeading_essential]

@[simp] theorem frontMatter?_essential :
    document.essential.frontMatter? = document.frontMatter? := by
  rw [frontMatter?, essential, Node.essentialAll_eq_map, List.findSome?_map, frontMatter?]
  simp only [Function.comp_def, Node.kind_essential, NodeKind.frontMatter?_essential]

theorem bodyBlocks_essential :
    document.essential.bodyBlocks = Node.essentialAll document.bodyBlocks := by
  rw [bodyBlocks, essential, Node.essentialAll_eq_map, List.eraseP_map, List.eraseP_map, bodyBlocks,
    Node.essentialAll_eq_map]
  simp only [Function.comp_def, Node.kind_essential, NodeKind.isHeading_essential,
    NodeKind.frontMatter?_essential]

@[simp] theorem firstHeadingText?_essential :
    document.essential.firstHeadingText? = document.firstHeadingText? := by
  rw [firstHeadingText?, firstHeading?_essential, Option.map_map, firstHeadingText?]
  simp only [Function.comp_def, Node.textContent_essential]

/-- The identifier is made of the front matter and the text of the title, which are all kept. -/
@[simp] theorem topicId?_essential (options : RenderOptions) :
    document.essential.topicId? options = document.topicId? options := by
  rw [topicId?, metadataId?, titleId?, firstHeadingText?_essential, frontMatter?_essential, topicId?,
    metadataId?, titleId?]

end Document

/-! ## Renderings that match -/

/-- Why a rendering failed, without saying where in the source. -/
def NodeContext.unplaced (context : NodeContext) : NodeContext :=
  { context with document := "", position := none }

namespace Rendering

/-- The renderings have the same events, and they fail in the same way, wherever that is. -/
structure Matches (first second : Rendering) : Prop where
  events : first.events = second.events
  failure : first.failure.map NodeContext.unplaced = second.failure.map NodeContext.unplaced

namespace Matches

variable {first second third : Rendering}

theorem refl (rendering : Rendering) : rendering.Matches rendering := ⟨rfl, rfl⟩

theorem symm (same : first.Matches second) : second.Matches first :=
  ⟨same.events.symm, same.failure.symm⟩

theorem trans (same : first.Matches second) (further : second.Matches third) :
    first.Matches third :=
  ⟨same.events.trans further.events, same.failure.trans further.failure⟩

theorem failure_cases (same : first.Matches second) :
    (first.failure = none ∧ second.failure = none) ∨
      ∃ context other, first.failure = some context ∧ second.failure = some other ∧
        context.unplaced = other.unplaced := by
  have failures := same.failure
  cases reached : first.failure with
  | none =>
      rw [reached] at failures
      exact Or.inl ⟨rfl, Option.map_eq_none_iff.1 failures.symm⟩
  | some context =>
      rw [reached] at failures
      rcases Option.map_eq_some_iff.1 failures.symm with ⟨other, failed, unplaced⟩
      exact Or.inr ⟨context, other, rfl, failed, unplaced.symm⟩

/-- Notices are no part of what is rendered. -/
theorem note (notice other : Notice) : (Rendering.note notice).Matches (Rendering.note other) :=
  ⟨rfl, rfl⟩

/-- The second of two renderings is left out on both sides, or on neither. -/
theorem andThen {later other : Rendering} (same : first.Matches second)
    (behind : later.Matches other) : (first.andThen later).Matches (second.andThen other) := by
  rcases same.failure_cases with ⟨reached, succeeded⟩ | ⟨context, otherContext, reached, failed, -⟩
  · constructor
    · rw [events_andThen_of_success reached, events_andThen_of_success succeeded, same.events,
        behind.events]
    · rw [failure_andThen, failure_andThen, reached, succeeded]
      exact behind.failure
  · rw [andThen_of_failure reached, andThen_of_failure failed]
    exact same

theorem element (path : List String) (container : Element) (attributes : List Attribute)
    (same : first.Matches second) :
    (Rendering.element path container attributes first).Matches
      (Rendering.element path container attributes second) :=
  ((refl _).andThen same).andThen (refl _)

end Matches

end Rendering

open Rendering (Matches)

/-! ## Rendering without diagnostics -/

private theorem Node.render_essential_of_children {children : List Node} {name other : String}
    (inChildren : ∀ path, (Node.renderAll name path (Node.essentialAll children)).Matches
      (Node.renderAll other path children))
    (path : List String) (kind : NodeKind) (position : Option SourcePosition) :
    ((⟨kind, position, children⟩ : Node).essential.render name path).Matches
      ((⟨kind, position, children⟩ : Node).render other path) := by
  rw [Node.essential, Node.render, Node.render, Node.isEmpty_essentialAll]
  rcases kind.rule_essential children.isEmpty with same | ⟨filled, href, title, rule, untitled⟩
  · rw [same]
    cases kind.rule with
    | element container attributes literal =>
        exact ((Matches.refl _).andThen (inChildren _)).element path container attributes
    | emptyElement container attributes => exact .refl _
    | image href title =>
        refine .element path .image _ ?_
        cases children.isEmpty with
        | true => exact .refl _
        | false => exact (inChildren _).element _ .alternative []
    | characters text => exact .refl _
    | ignored => exact .note _ _
    | unmapped => exact ⟨rfl, by rw [NodeKind.name_essential]; rfl⟩
  · rw [rule, untitled, filled]
    exact ((inChildren _).element _ .alternative []).element path .image _

/-- What nodes are rendered to does not depend on diagnostics. -/
theorem Node.renderAll_essential (name other : String) (nodes : List Node) :
    ∀ path, (Node.renderAll name path (Node.essentialAll nodes)).Matches
      (Node.renderAll other path nodes) := by
  induction nodes using Node.forestInduction with
  | nil =>
      intro path
      rw [Node.essentialAll, Node.renderAll, Node.renderAll]
      exact .refl _
  | cons kind position children rest inChildren inRest =>
      intro path
      rw [Node.essentialAll, Node.renderAll, Node.renderAll]
      exact (Node.render_essential_of_children inChildren path kind position).andThen (inRest path)

theorem Node.render_essential (name other : String) (path : List String) (node : Node) :
    (node.essential.render name path).Matches (node.render other path) := by
  rcases node with ⟨kind, position, children⟩
  exact Node.render_essential_of_children (Node.renderAll_essential name other children) path kind
    position

theorem renderTitle_essential (name other : String) (path : List String) (heading : Node) :
    (renderTitle name path heading.essential).Matches (renderTitle other path heading) := by
  rw [renderTitle, renderTitle, Node.kind_essential, NodeKind.titleAttributes_essential,
    Node.children_essential]
  exact (Node.renderAll_essential name other heading.children _).element _ _ _

theorem renderBlocks_essential (name other : String) (path : List String) (nodes : List Node) :
    ∀ inSection, (renderBlocks name path inSection (Node.essentialAll nodes)).Matches
      (renderBlocks other path inSection nodes) := by
  induction nodes with
  | nil =>
      intro inSection
      rw [Node.essentialAll, renderBlocks, renderBlocks]
      exact .refl _
  | cons node rest inductionHypothesis =>
      intro inSection
      rw [Node.essentialAll, renderBlocks, renderBlocks, Node.kind_essential,
        NodeKind.isHeading_essential]
      cases node.kind.isHeading with
      | true =>
          exact ((Matches.refl _).andThen (renderTitle_essential name other _ node)).andThen
            (inductionHypothesis true)
      | false =>
          exact (Node.render_essential name other _ node).andThen (inductionHypothesis inSection)

namespace Document

theorem renderTopicTitle_essential (document : Document) (path : List String) :
    (document.essential.renderTopicTitle path).Matches (document.renderTopicTitle path) := by
  rw [renderTopicTitle, renderTopicTitle, firstHeading?_essential]
  cases document.firstHeading? with
  | some heading => exact renderTitle_essential _ _ path heading
  | none => exact (Matches.note _ _).andThen (.refl _)

theorem renderTopicBody_essential (document : Document) (path : List String) :
    (document.essential.renderTopicBody path).Matches (document.renderTopicBody path) := by
  rw [renderTopicBody, renderTopicBody, bodyBlocks_essential, Node.isEmpty_essentialAll]
  cases document.bodyBlocks.isEmpty with
  | true => exact .refl _
  | false => exact (renderBlocks_essential _ _ _ document.bodyBlocks false).element path .body []

/-- A document is rendered as it is without diagnostics. -/
theorem render_essential (options : RenderOptions) (document : Document) :
    (document.essential.render options).Matches (document.render options) := by
  have prolog : ∀ path, document.essential.renderTopicProlog options path =
      document.renderTopicProlog options path := by
    intro path
    rw [renderTopicProlog, renderTopicProlog, frontMatter?_essential]
  have content : ∀ path,
      (Rendering.sequence [document.essential.renderTopicTitle path,
        document.essential.renderTopicProlog options path,
        document.essential.renderTopicBody path]).Matches
      (.sequence [document.renderTopicTitle path, document.renderTopicProlog options path,
        document.renderTopicBody path]) := by
    intro path
    rw [prolog]
    exact (document.renderTopicTitle_essential path).andThen
      ((Matches.refl _).andThen ((document.renderTopicBody_essential path).andThen (.refl _)))
  rw [render, render, topicId?_essential]
  exact (Matches.note _ _).andThen (((content _).element [] .topic _).andThen
    ((Matches.refl _).andThen ((Matches.note _ _).andThen (.refl _))))

theorem Alike.render {first second : Document} (alike : first.Alike second)
    (options : RenderOptions) : (first.render options).Matches (second.render options) := by
  have same := second.render_essential options
  rw [← (alike : first.essential = second.essential)] at same
  exact (first.render_essential options).symm.trans same

end Document

/-! ## Runs of documents that are alike -/

/-- An error of a run, without saying where in the source a node was found. -/
def RenderError.unplaced {Refusal : Type} : RenderError Refusal → RenderError Refusal
  | unmapped context => unmapped context.unplaced
  | refused reason => refused reason

/-- The XML of a document is what the writer makes of its events, unless the rendering fails. -/
theorem Xml.ofDocument_eq (options : RenderOptions) (document : Document) :
    ofDocument options document =
      match (document.render options).failure with
      | some context => .error (.unmapped context)
      | none => .ok (sink.feed {} (document.render options).events).1.device.written := by
  have outcome := Sink.play_result_of_accepted (accepts_render options document)
  simp only [ofDocument, Xml.render, outcome, Sink.play_state]
  cases (document.render options).failure <;> rfl

namespace Document

variable {State Refusal : Type}

/-- A failure names the document. -/
theorem document_of_failure {options : RenderOptions} {document : Document} {context : NodeContext}
    (failed : (document.render options).failure = some context) :
    context = ⟨document.displayName, context.node, context.position, context.path⟩ := by
  rw [failure_render_eq_findSome] at failed
  rcases List.exists_of_findSome?_eq_some failed with ⟨reached, -, found⟩
  rcases Option.map_eq_some_iff.1 found with ⟨name, -, rfl⟩
  rfl

/-- Two documents are rendered to the same events and the same XML, or both of them fail.  Then the
same events are delivered before, and the failures name a node of the same kind with the same elements
open around it; each of them has the name of its own document and a position of its own. -/
inductive RenderedAlike (options : RenderOptions) (first second : Document) : Prop where
  | succeeded (events : Array Event) (text : String)
      (firstEvents : first.toEvents options = .ok events)
      (secondEvents : second.toEvents options = .ok events)
      (firstText : Xml.ofDocument options first = .ok text)
      (secondText : Xml.ofDocument options second = .ok text)
  | failed (node path : String) (firstPosition secondPosition : Option SourcePosition)
      (delivered : (first.recorded options).state = (second.recorded options).state)
      (firstEvents : first.toEvents options =
        .error (.unmapped ⟨first.displayName, node, firstPosition, path⟩))
      (secondEvents : second.toEvents options =
        .error (.unmapped ⟨second.displayName, node, secondPosition, path⟩))
      (firstText : Xml.ofDocument options first =
        .error (.unmapped ⟨first.displayName, node, firstPosition, path⟩))
      (secondText : Xml.ofDocument options second =
        .error (.unmapped ⟨second.displayName, node, secondPosition, path⟩))

/-- Nothing in what two documents are rendered to tells them apart, and nothing in a run of a sink from
the state `state` but the name and the position in an error. -/
structure RunAlike (sink : Sink State Refusal) (state : State) (options : RenderOptions)
    (first second : Document) : Prop where
  rendered : RenderedAlike options first second
  left : (first.serialize sink state options).state = (second.serialize sink state options).state
  /-- The sink is given the same events. -/
  given : (first.serialize sink.traced (state, #[]) options).state =
    (second.serialize sink.traced (state, #[]) options).state
  result : (first.serialize sink state options).result.mapError RenderError.unplaced =
    (second.serialize sink state options).result.mapError RenderError.unplaced

theorem renderedAlike_of_matches {options : RenderOptions} {first second : Document}
    (same : (first.render options).Matches (second.render options)) :
    RenderedAlike options first second := by
  have delivered : (first.recorded options).state = (second.recorded options).state := by
    rw [recorded_eq_play, recorded_eq_play, Sink.play_recording_array, Sink.play_recording_array,
      same.events]
  rcases same.failure_cases with ⟨reached, succeeded⟩ | ⟨context, other, reached, failed, unplaced⟩
  · refine .succeeded (first.render options).events.toArray
      (Xml.sink.feed {} (first.render options).events).1.device.written ?_ ?_ ?_ ?_
    · rw [toEvents_eq, reached]
    · rw [toEvents_eq, succeeded, same.events]
    · rw [Xml.ofDocument_eq, reached]
    · rw [Xml.ofDocument_eq, succeeded, same.events]
  · rcases NodeContext.mk.inj unplaced with ⟨-, node, -, path⟩
    rw [document_of_failure reached] at reached
    rw [document_of_failure failed, ← node, ← path] at failed
    refine .failed context.node context.path context.position other.position delivered ?_ ?_ ?_ ?_
    · rw [toEvents_eq, reached]
    · rw [toEvents_eq, failed]
    · rw [Xml.ofDocument_eq, reached]
    · rw [Xml.ofDocument_eq, failed]

/-- Documents that are equal but for data for diagnostics are not told apart. -/
theorem runAlike_of_alike {first second : Document} (alike : first.Alike second)
    (sink : Sink State Refusal) (state : State) (options : RenderOptions) :
    RunAlike sink state options first second := by
  have same := alike.render options
  refine ⟨renderedAlike_of_matches same, ?_, ?_, ?_⟩
  · rw [serialize_eq_play, serialize_eq_play, Sink.play_state, Sink.play_state, same.events]
  · rw [serialize_eq_play, serialize_eq_play, Sink.play_state, Sink.play_state, same.events]
  · rw [serialize_eq_play, serialize_eq_play, Sink.play_result, Sink.play_result, same.events]
    cases (sink.feed state (second.render options).events).2 with
    | some reason => rfl
    | none =>
        rcases same.failure_cases with ⟨reached, succeeded⟩ | ⟨context, other, reached, failed, unplaced⟩
        · rw [reached, succeeded]
        · rw [reached, failed]
          exact congrArg (fun unplaced => Except.error (RenderError.unmapped unplaced)) unplaced

/-- Two drafts with other names, positions and titles, a list that begins with three where no number is
shown, an ordered one whose start is left out, and an empty language that is left out; with a footnote
at their ends and without. -/
theorem runAlike_of_alike_drafts :
    let draft (title : String) (bullets numbers : Option Nat) (language : Option String)
        (position : Option SourcePosition) : List Node :=
      [{ kind := .heading 1, position
         children := [{ kind := .link "u" title, children := [{ kind := .text "T", position }] }] },
        { kind := .list false bullets
          children := [{ kind := .image "i.png" title, children := [{ kind := .text "i" }] }] },
        { kind := .list true numbers, position }, { kind := .codeBlock language "c" }]
    let footnote (position : Option SourcePosition) : Node :=
      { kind := .paragraph, children := [{ kind := .unsupported "footnote_reference", position }] }
    let first : Document :=
      { name := some "a.md", children := draft "t" (some 3) (some 1) none (some ⟨1, 1⟩) }
    let second : Document := { children := draft "" none none (some "") none }
    let firstNoted : Document :=
      { first with children := first.children ++ [footnote (some ⟨9, 1⟩)] }
    let secondNoted : Document := { second with children := second.children ++ [footnote none] }
    first.Alike second ∧ RunAlike Sink.recording #[] {} first second ∧
      (∃ events, first.toEvents {} = .ok events) ∧
      firstNoted.Alike secondNoted ∧ RunAlike Sink.recording #[] {} firstNoted secondNoted ∧
      firstNoted.toEvents {} =
        .error (.unmapped ⟨"a.md", "footnote_reference", some ⟨9, 1⟩, "topic/body/p"⟩) ∧
      secondNoted.toEvents {} =
        .error (.unmapped ⟨"<anonymous>", "footnote_reference", none, "topic/body/p"⟩) := by
  intro draft footnote first second firstNoted secondNoted
  have alike : first.Alike second := rfl
  have alikeNoted : firstNoted.Alike secondNoted := rfl
  have succeeded : (first.render {}).failure = none := by decide +kernel
  have firstFailed : (firstNoted.render {}).failure =
      some ⟨"a.md", "footnote_reference", some ⟨9, 1⟩, "topic/body/p"⟩ := by decide +kernel
  have secondFailed : (secondNoted.render {}).failure =
      some ⟨"<anonymous>", "footnote_reference", none, "topic/body/p"⟩ := by decide +kernel
  refine ⟨alike, runAlike_of_alike alike _ _ _, ⟨(first.render {}).events.toArray, ?_⟩, alikeNoted,
    runAlike_of_alike alikeNoted _ _ _, ?_, ?_⟩
  · rw [toEvents_eq, succeeded]
  · rw [toEvents_eq, firstFailed]
  · rw [toEvents_eq, secondFailed]

end Document

end TopicPress
