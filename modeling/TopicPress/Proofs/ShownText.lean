import TopicPress.Proofs.Playing
import TopicPress.Proofs.TopicTree

/-!
# The text that a topic shows

A reader of the topic sees the characters outside the prolog.  They can be taken from the events by
counting how deep in a prolog one is, or from the tree of the topic by leaving its prolog out.  Taken
from the tree, they are the texts of the top-level nodes one after the other, in the order of the
rendering: sections and titles add nothing, and neither does the prolog or what it was made of.
-/

namespace TopicPress

open Dita (Element)

/-- The texts of the character events outside every prolog, where `depth` elements are open from a
prolog on. -/
def textsOutsideProlog (depth : Nat) : List Event → List String
  | [] => []
  | .startElement name _ _ :: rest =>
    if depth = 0 ∧ name ≠ Element.prolog.name then textsOutsideProlog 0 rest
    else textsOutsideProlog (depth + 1) rest
  | .characters text :: rest =>
    if depth = 0 then text :: textsOutsideProlog 0 rest else textsOutsideProlog depth rest
  | .endElement :: rest => textsOutsideProlog (depth - 1) rest
  | .endDocument :: rest => textsOutsideProlog depth rest

namespace EventTree

mutual

/-- The texts of a tree outside every prolog. -/
def shown (tree : EventTree) : List String :=
  match tree with
  | element name _ _ children => if name = Element.prolog.name then [] else shownAll children
  | characters text => [text]

/-- The texts of trees outside every prolog, one tree after the other. -/
def shownAll : List EventTree → List String
  | [] => []
  | tree :: rest => tree.shown ++ shownAll rest

end

@[simp] theorem shownAll_nil : shownAll [] = [] := by
  rw [shownAll]

@[simp] theorem shownAll_cons (tree : EventTree) (rest : List EventTree) :
    shownAll (tree :: rest) = tree.shown ++ shownAll rest := by
  rw [shownAll]

@[simp] theorem shown_characters (text : String) : (characters text).shown = [text] := by
  rw [shown]

theorem shown_element (name classValue : String) (attributes : List Attribute)
    (children : List EventTree) :
    (element name classValue attributes children).shown =
      if name = Element.prolog.name then [] else shownAll children := by
  rw [shown]

/-- An element other than a prolog shows what its content shows. -/
theorem shown_of {container : Element} (notProlog : container.name ≠ Element.prolog.name)
    (attributes : List Attribute) (children : List EventTree) :
    (EventTree.of container attributes children).shown = shownAll children := by
  rw [EventTree.of, shown_element, if_neg notProlog]

theorem shown_prolog (attributes : List Attribute) (children : List EventTree) :
    (EventTree.of .prolog attributes children).shown = [] := by
  rw [EventTree.of, shown_element, if_pos rfl]

@[simp] theorem shownAll_append (first second : List EventTree) :
    shownAll (first ++ second) = shownAll first ++ shownAll second := by
  induction first with
  | nil => simp
  | cons tree rest inductionHypothesis =>
      rw [List.cons_append, shownAll_cons, inductionHypothesis, shownAll_cons, List.append_assoc]

/-! ## Events and trees -/

/-- Within a prolog no text is counted, and after trees one is as deep in it as before. -/
theorem textsOutsideProlog_within (forest : List EventTree) :
    ∀ depth rest, textsOutsideProlog (depth + 1) (eventsAll forest ++ rest) =
      textsOutsideProlog (depth + 1) rest := by
  induction forest using forestInduction with
  | nil =>
      intro depth rest
      rfl
  | characters text later inLater =>
      intro depth rest
      rw [eventsAll_cons, events_characters, List.append_assoc, List.singleton_append,
        textsOutsideProlog, if_neg (Nat.succ_ne_zero depth), inLater]
  | element name classValue attributes children later inChildren inLater =>
      intro depth rest
      have deep : ¬ (depth + 1 = 0 ∧ name ≠ Element.prolog.name) := by simp
      rw [eventsAll_cons, events_element, List.append_assoc, List.cons_append,
        textsOutsideProlog, if_neg deep, List.append_assoc, inChildren, List.singleton_append,
        textsOutsideProlog, Nat.add_sub_cancel, inLater]

/-- Outside a prolog the texts that are counted are those that the trees show. -/
theorem textsOutsideProlog_outside (forest : List EventTree) :
    ∀ rest, textsOutsideProlog 0 (eventsAll forest ++ rest) =
      shownAll forest ++ textsOutsideProlog 0 rest := by
  induction forest using forestInduction with
  | nil =>
      intro rest
      simp
  | characters text later inLater =>
      intro rest
      rw [eventsAll_cons, events_characters, List.append_assoc, List.singleton_append,
        textsOutsideProlog, if_pos rfl, inLater, shownAll_cons, shown_characters,
        List.append_assoc, List.singleton_append]
  | element name classValue attributes children later inChildren inLater =>
      intro rest
      rw [eventsAll_cons, events_element, List.append_assoc, List.cons_append,
        textsOutsideProlog, List.append_assoc, shownAll_cons, shown_element]
      by_cases prolog : name = Element.prolog.name
      · rw [if_neg (fun both => both.2 prolog), if_pos prolog, textsOutsideProlog_within,
          List.singleton_append, textsOutsideProlog, inLater, List.nil_append]
      · rw [if_pos ⟨rfl, prolog⟩, if_neg prolog, inChildren, List.singleton_append,
          textsOutsideProlog, inLater, List.append_assoc]

end EventTree

/-! ## Nodes -/

/-- The texts that a node shows by its rule, where its children show `content`. -/
def RenderRule.shown (rule : RenderRule) (childless : Bool) (content : List String) : List String :=
  match rule with
  | .element _ _ literal => literal.toList ++ content
  | .emptyElement _ _ => []
  | .image _ title => if !childless then content else if title.isEmpty then [] else [title]
  | .characters text => [text]
  | .ignored => []
  | .unmapped => []

/-- No node becomes a prolog. -/
theorem NodeKind.rule_notProlog {kind : NodeKind} {container : Element}
    {attributes : List Attribute} {literal : Option String}
    (isElement : kind.rule = .element container attributes literal) :
    container.name ≠ Element.prolog.name := by
  cases kind with
  | list ordered start => cases ordered <;> cases isElement <;> decide
  | tableRow header => cases header <;> cases isElement <;> decide
  | _ => cases isElement <;> decide

private theorem shownAll_characters (texts : List String) :
    EventTree.shownAll (texts.map EventTree.characters) = texts := by
  induction texts with
  | nil => simp
  | cons text rest inductionHypothesis =>
      rw [List.map_cons, EventTree.shownAll_cons, inductionHypothesis, EventTree.shown_characters,
        List.singleton_append]

/-- What the trees of a node show is given by its rule. -/
theorem shownAll_trees (kind : NodeKind) (position : Option SourcePosition)
    (children : List Node) :
    EventTree.shownAll (⟨kind, position, children⟩ : Node).trees =
      kind.rule.shown children.isEmpty (EventTree.shownAll (Node.treesAll children)) := by
  have imageShown : Element.image.name ≠ Element.prolog.name := by decide
  have alternativeShown : Element.alternative.name ≠ Element.prolog.name := by decide
  rw [Node.trees_eq]
  cases rule : kind.rule with
  | element container attributes literal =>
      rw [RenderRule.trees, RenderRule.shown, EventTree.shownAll_cons, EventTree.shownAll_nil,
        List.append_nil, EventTree.shown_of (NodeKind.rule_notProlog rule),
        EventTree.shownAll_append, shownAll_characters]
  | emptyElement container attributes =>
      rw [RenderRule.trees, RenderRule.shown, EventTree.shownAll_cons, EventTree.shownAll_nil,
        List.append_nil, EventTree.of, EventTree.shown_element, EventTree.shownAll_nil, ite_self]
  | image href title =>
      rw [RenderRule.trees, RenderRule.shown, EventTree.shownAll_cons, EventTree.shownAll_nil,
        List.append_nil, EventTree.shown_of imageShown]
      cases children.isEmpty with
      | false => simp [EventTree.shown_of alternativeShown]
      | true => cases title.isEmpty <;> simp [EventTree.shown_of alternativeShown]
  | characters text => simp [RenderRule.trees, RenderRule.shown]
  | ignored => simp [RenderRule.trees, RenderRule.shown]
  | unmapped => simp [RenderRule.trees, RenderRule.shown]

/-! ## Titles, sections and topics -/

/-- The texts that nodes show, one node after the other. -/
def Node.shownAll (nodes : List Node) : List String :=
  EventTree.shownAll (Node.treesAll nodes)

theorem Node.shownAll_nil : Node.shownAll [] = [] := by
  rw [Node.shownAll, Node.treesAll_nil, EventTree.shownAll_nil]

theorem Node.shownAll_append (first second : List Node) :
    Node.shownAll (first ++ second) = Node.shownAll first ++ Node.shownAll second := by
  unfold Node.shownAll
  induction first with
  | nil => simp
  | cons node rest inductionHypothesis =>
      rw [List.cons_append, Node.treesAll_cons, EventTree.shownAll_append, inductionHypothesis,
        Node.treesAll_cons, EventTree.shownAll_append, List.append_assoc]

theorem Node.shownAll_singleton (kind : NodeKind) (position : Option SourcePosition)
    (children : List Node) :
    Node.shownAll [⟨kind, position, children⟩] =
      kind.rule.shown children.isEmpty (Node.shownAll children) := by
  rw [Node.shownAll, Node.treesAll_cons, Node.treesAll_nil, List.append_nil, shownAll_trees,
    Node.shownAll]

/-- A heading shows as a title what it shows as a block. -/
theorem shown_titleTree {heading : Node} (isHeading : heading.kind.isHeading = true) :
    (titleTree heading).shown = Node.shownAll [heading] := by
  rcases heading with ⟨kind, position, children⟩
  cases kind with
  | heading level =>
      rw [titleTree, EventTree.shown_of (by decide), Node.shownAll_singleton]
      rfl
  | _ => cases isHeading

/-- Sections show what their blocks show. -/
theorem shownAll_sectionTrees (nodes : List Node) :
    EventTree.shownAll ((sectionTrees nodes).1 ++ (sectionTrees nodes).2) =
      Node.shownAll nodes := by
  have sectionShown : Element.section_.name ≠ Element.prolog.name := by decide
  induction nodes with
  | nil => exact Node.shownAll_nil.symm
  | cons node rest inductionHypothesis =>
      rw [← List.singleton_append, Node.shownAll_append, ← inductionHypothesis,
        List.singleton_append, sectionTrees]
      cases heading : node.kind.isHeading with
      | true =>
          rw [← shown_titleTree heading]
          simp [EventTree.shown_of sectionShown]
      | false =>
          simp [Node.shownAll]

namespace Document

theorem shown_topicTree (options : RenderOptions) (document : Document) :
    (document.topicTree options).shown = Node.shownAll document.inOrder := by
  have title : document.topicTitleTree.shown = Node.shownAll document.firstHeading?.toList := by
    rw [topicTitleTree]
    cases found : document.firstHeading? with
    | some heading => exact shown_titleTree (isHeading_of_firstHeading? found)
    | none =>
        rw [EventTree.shown_of (by decide)]
        exact Node.shownAll_nil.symm
  have prolog : EventTree.shownAll (document.prologTrees options) = [] := by
    rw [prologTrees]
    cases document.frontMatter? with
    | some header => simp [EventTree.shown_prolog]
    | none => exact EventTree.shownAll_nil
  have body : EventTree.shownAll document.bodyTrees = Node.shownAll document.bodyBlocks := by
    have bodyShown : Element.body.name ≠ Element.prolog.name := by decide
    rw [bodyTrees]
    cases blocks : document.bodyBlocks with
    | nil => exact Node.shownAll_nil.symm
    | cons first rest =>
        rw [List.isEmpty_cons, ← shownAll_sectionTrees]
        simp [EventTree.shown_of bodyShown]
  rw [topicTree, EventTree.shown_of (by decide), topicContent, EventTree.shownAll_cons, title,
    EventTree.shownAll_append, prolog, body, List.nil_append, inOrder, Node.shownAll_append]

/-- The text of a topic outside its prolog is that of its top-level nodes. -/
theorem textsOutsideProlog_of_toEvents {options : RenderOptions} {document : Document}
    {events : Array Event} (rendered : document.toEvents options = .ok events) :
    textsOutsideProlog 0 events.toList = Node.shownAll document.inOrder := by
  rw [toEvents_eq] at rendered
  cases outcome : (document.render options).failure with
  | some context =>
      rw [outcome] at rendered
      cases rendered
  | none =>
      rw [outcome] at rendered
      cases rendered
      have single : (document.topicTree options).events =
          EventTree.eventsAll [document.topicTree options] := by simp
      rw [events_render_of_success outcome, single, EventTree.textsOutsideProlog_outside,
        EventTree.shownAll_cons, EventTree.shownAll_nil, List.append_nil, shown_topicTree]
      exact List.append_nil _

end Document

end TopicPress
