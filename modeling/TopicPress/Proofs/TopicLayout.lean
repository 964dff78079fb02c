import TopicPress.Proofs.Coverage
import TopicPress.Proofs.EventReading
import TopicPress.Proofs.Vocabulary

/-!
# The layout of a topic

A topic is read back from its events as a tree, and the tree is compared with the document it was
made of.  The frame of the tree, that is the topic itself, its prolog, its body and the sections, is
given by the kinds of the top-level nodes alone, and no node puts an element of the frame anywhere
else.  Within the body the sections come last, each with a title first; taking the sections apart
again gives the blocks of the document one after the other, each as it is rendered on its own.
-/

namespace TopicPress

open Dita (Element)

/-! ## Places of elements -/

/-- An element with the names of the elements around it, outermost first. -/
structure Place where
  above : List String
  name : String
  deriving DecidableEq

def Place.isSection (place : Place) : Bool := place.name == "section"

namespace EventTree

def name? : EventTree → Option String
  | element name _ _ _ => some name
  | characters _ => none

def children : EventTree → List EventTree
  | element _ _ _ children => children
  | characters _ => []

mutual

/-- The elements of a tree below the elements of `above`, parents before their children. -/
def places (above : List String) (tree : EventTree) : List Place :=
  match tree with
  | element name _ _ children => ⟨above, name⟩ :: placesAll (above ++ [name]) children
  | characters _ => []

/-- The elements of trees, one tree after the other. -/
def placesAll (above : List String) : List EventTree → List Place
  | [] => []
  | tree :: rest => tree.places above ++ placesAll above rest

end

@[simp] theorem placesAll_nil (above : List String) : placesAll above [] = [] := by
  rw [placesAll]

@[simp] theorem placesAll_cons (above : List String) (tree : EventTree) (rest : List EventTree) :
    placesAll above (tree :: rest) = tree.places above ++ placesAll above rest := by
  rw [placesAll]

@[simp] theorem places_characters (above : List String) (text : String) :
    (characters text).places above = [] := by
  rw [places]

@[simp] theorem places_of (above : List String) (container : Element)
    (attributes : List Attribute) (children : List EventTree) :
    (EventTree.of container attributes children).places above =
      ⟨above, container.name⟩ :: placesAll (above ++ [container.name]) children := by
  rw [EventTree.of, places]

@[simp] theorem placesAll_append (above : List String) (first second : List EventTree) :
    placesAll above (first ++ second) = placesAll above first ++ placesAll above second := by
  induction first with
  | nil => simp
  | cons tree rest inductionHypothesis =>
      rw [List.cons_append, placesAll_cons, inductionHypothesis, placesAll_cons,
        List.append_assoc]

end EventTree

/-! ## The frame -/

/-- The places of the elements that a topic is divided by. -/
def framePlaces : List Place :=
  [⟨[], "topic"⟩, ⟨["topic"], "prolog"⟩, ⟨["topic"], "body"⟩, ⟨["topic", "body"], "section"⟩]

def frameNames : List String := framePlaces.map Place.name

namespace EventTree

/-- No element of the trees has a name of the frame. -/
def OutsideFrame (forest : List EventTree) : Prop :=
  ∀ above, ∀ place ∈ placesAll above forest, place.name ∉ frameNames

theorem outsideFrame_nil : OutsideFrame [] := by
  intro above place member
  cases member

theorem OutsideFrame.append {first second : List EventTree} (firstOutside : OutsideFrame first)
    (secondOutside : OutsideFrame second) : OutsideFrame (first ++ second) := by
  intro above place member
  rw [placesAll_append] at member
  exact (List.mem_append.mp member).elim (firstOutside above place) (secondOutside above place)

/-- Every place is that of an element that is started. -/
theorem exists_start_of_mem_placesAll {place : Place} (forest : List EventTree) :
    ∀ above, place ∈ placesAll above forest → ∃ classValue attributes,
      .startElement place.name classValue attributes ∈ eventsAll forest := by
  induction forest using forestInduction with
  | nil =>
      intro above member
      cases member
  | characters text rest inRest =>
      intro above member
      rw [placesAll_cons, places_characters, List.nil_append] at member
      rcases inRest above member with ⟨classValue, attributes, started⟩
      exact ⟨classValue, attributes, List.mem_append_right _ started⟩
  | element name classValue attributes children rest inChildren inRest =>
      intro above member
      rw [placesAll_cons, places, List.cons_append, List.mem_cons, List.mem_append] at member
      rw [eventsAll_cons, events_element]
      rcases member with rfl | inside | later
      · exact ⟨classValue, attributes, by simp⟩
      · rcases inChildren _ inside with ⟨innerClass, innerAttributes, started⟩
        exact ⟨innerClass, innerAttributes, by simp [started]⟩
      · rcases inRest above later with ⟨otherClass, otherAttributes, started⟩
        exact ⟨otherClass, otherAttributes, by simp [started]⟩

/-- Content has no element of the frame. -/
theorem MadeOf.outsideFrame {forest : List EventTree}
    (made : MadeOf Element.contentVocabulary forest) : OutsideFrame forest := by
  have apart : Element.contentVocabulary.all
      (fun element => !frameNames.contains element.name) = true := by decide
  intro above place member framed
  rcases exists_start_of_mem_placesAll forest above member with ⟨classValue, attributes, started⟩
  have known := (made place.name classValue attributes started).1
  have notFramed := List.all_eq_true.mp apart _ known
  simp [framed] at notFramed

/-- Where there is no element of the frame, no section is counted. -/
theorem OutsideFrame.countP_isSection {forest : List EventTree} (outside : OutsideFrame forest)
    (above : List String) : (placesAll above forest).countP Place.isSection = 0 := by
  rw [List.countP_eq_zero]
  intro place member isSection
  have framed : "section" ∈ frameNames := by decide
  exact outside above place member (beq_iff_eq.mp isSection ▸ framed)

/-- The elements of the frame among trees below the elements of `above` stand where they belong. -/
def InFrame (above : List String) (forest : List EventTree) : Prop :=
  ∀ place ∈ placesAll above forest, place.name ∈ frameNames → place ∈ framePlaces

theorem OutsideFrame.inFrame {forest : List EventTree} (outside : OutsideFrame forest)
    (above : List String) : InFrame above forest := by
  intro place member framed
  exact absurd framed (outside above place member)

theorem InFrame.append {above : List String} {first second : List EventTree}
    (firstIn : InFrame above first) (secondIn : InFrame above second) :
    InFrame above (first ++ second) := by
  intro place member
  rw [placesAll_append] at member
  exact (List.mem_append.mp member).elim (firstIn place) (secondIn place)

theorem inFrame_of {above : List String} {container : Element} {attributes : List Attribute}
    {children : List EventTree} (placed : ⟨above, container.name⟩ ∈ framePlaces)
    (inside : InFrame (above ++ [container.name]) children) :
    InFrame above [.of container attributes children] := by
  intro place member framed
  rw [placesAll_cons, placesAll_nil, List.append_nil, places_of] at member
  rcases List.mem_cons.mp member with rfl | later
  · exact placed
  · exact inside place later framed

theorem inFrame_of_forall {above : List String} {forest : List EventTree}
    (each : ∀ tree ∈ forest, InFrame above [tree]) : InFrame above forest := by
  induction forest with
  | nil =>
      intro place member
      cases member
  | cons tree rest inductionHypothesis =>
      have later := inductionHypothesis
        (fun other member => each other (List.mem_cons_of_mem tree member))
      exact (each tree List.mem_cons_self).append later

end EventTree

open EventTree (OutsideFrame InFrame outsideFrame_nil inFrame_of inFrame_of_forall)

/-! ## Nothing else is of the frame -/

theorem Node.trees_outsideFrame (node : Node) : OutsideFrame node.trees :=
  node.trees_madeOf.outsideFrame

theorem titleTree_outsideFrame (heading : Node) : OutsideFrame [titleTree heading] :=
  (titleTree_madeOf heading).outsideFrame

theorem Prolog.trees_outsideFrame (options : RenderOptions) (header : FrontMatter) :
    OutsideFrame (Prolog.trees options header) :=
  (Prolog.trees_madeOf options header).outsideFrame

/-! ## The body -/

def EventTree.isSection (tree : EventTree) : Bool := tree.name? == some "section"

/-- The trees of a body with each section replaced by what is in it. -/
def EventTree.ungroup (content : List EventTree) : List EventTree :=
  content.flatMap (fun tree => if tree.isSection then tree.children else [tree])

/-- The trees that a block of the body is rendered to on its own: a title if it is a heading. -/
def Node.blockTrees (node : Node) : List EventTree :=
  if node.kind.isHeading then [titleTree node] else node.trees

theorem isSection_of_outsideFrame {forest : List EventTree} (outside : OutsideFrame forest) :
    ∀ tree ∈ forest, tree.isSection = false := by
  intro tree member
  cases tree with
  | characters text => rfl
  | element name classValue attributes children =>
      rcases List.append_of_mem member with ⟨before, later, rfl⟩
      have notFramed : name ∉ frameNames := by
        apply outside [] ⟨[], name⟩
        rw [EventTree.placesAll_append, EventTree.placesAll_cons, EventTree.places]
        simp
      have different : name ≠ "section" := by
        rintro rfl
        exact notFramed (by decide)
      simpa [EventTree.isSection, EventTree.name?] using different

theorem EventTree.ungroup_append (first second : List EventTree) :
    ungroup (first ++ second) = ungroup first ++ ungroup second :=
  List.flatMap_append

theorem EventTree.ungroup_section (attributes : List Attribute) (content rest : List EventTree) :
    ungroup (.of .section_ attributes content :: rest) = content ++ ungroup rest :=
  rfl

theorem ungroup_of_outsideFrame {forest : List EventTree} (outside : OutsideFrame forest) :
    EventTree.ungroup forest = forest := by
  have alone : ∀ tree ∈ forest,
      (if tree.isSection then tree.children else [tree]) = [tree] := by
    intro tree member
    rw [isSection_of_outsideFrame outside tree member, if_neg Bool.false_ne_true]
  rw [EventTree.ungroup, List.flatMap_def, List.map_congr_left alone, ← List.flatMap_def,
    List.flatMap_singleton']

/-- The blocks before the first section have no element of the frame in them. -/
theorem sectionTrees_blocks_outsideFrame (nodes : List Node) :
    OutsideFrame (sectionTrees nodes).1 :=
  (sectionTrees_blocks_madeOf nodes).outsideFrame

/-- What follows the blocks are sections, each of a title and of blocks without an element of the
frame in them. -/
theorem exists_of_mem_sectionTrees {nodes : List Node} {tree : EventTree}
    (member : tree ∈ (sectionTrees nodes).2) :
    ∃ heading blocks, tree = .of .section_ [] (titleTree heading :: blocks) ∧
      OutsideFrame blocks := by
  induction nodes with
  | nil => cases member
  | cons node rest inductionHypothesis =>
      cases heading : node.kind.isHeading with
      | true =>
          rw [sectionTrees_heading heading] at member
          rcases List.mem_cons.mp member with rfl | later
          · exact ⟨node, _, rfl, sectionTrees_blocks_outsideFrame rest⟩
          · exact inductionHypothesis later
      | false =>
          rw [sectionTrees_block heading] at member
          exact inductionHypothesis member

/-- There are as many sections as headings, wherever the body is. -/
theorem countP_sections (above : List String) (nodes : List Node) :
    (EventTree.placesAll above (sectionTrees nodes).2).countP Place.isSection =
      nodes.countP (fun node => node.kind.isHeading) := by
  induction nodes with
  | nil => rfl
  | cons node rest inductionHypothesis =>
      cases heading : node.kind.isHeading with
      | true =>
          have inside := ((titleTree_outsideFrame node).append
            (sectionTrees_blocks_outsideFrame rest)).countP_isSection
              (above ++ [Element.section_.name])
          rw [List.singleton_append] at inside
          rw [sectionTrees_heading heading,
            List.countP_cons_of_pos (p := fun node : Node => node.kind.isHeading) heading,
            EventTree.placesAll_cons, EventTree.places_of, List.countP_append,
            List.countP_cons_of_pos rfl, inside, inductionHypothesis, Nat.zero_add,
            Nat.add_comm]
      | false =>
          rw [sectionTrees_block heading, List.countP_cons_of_neg (by simp [heading])]
          exact inductionHypothesis

/-- Taken apart again, the body has the blocks in their order, each as it is on its own. -/
theorem ungroup_sectionTrees (nodes : List Node) :
    EventTree.ungroup ((sectionTrees nodes).1 ++ (sectionTrees nodes).2) =
      nodes.flatMap Node.blockTrees := by
  induction nodes with
  | nil => rfl
  | cons node rest inductionHypothesis =>
      rw [List.flatMap_cons, ← inductionHypothesis, Node.blockTrees]
      cases heading : node.kind.isHeading with
      | true =>
          have blocks := ungroup_of_outsideFrame (sectionTrees_blocks_outsideFrame rest)
          rw [sectionTrees_heading heading, List.nil_append, EventTree.ungroup_section,
            EventTree.ungroup_append, blocks, if_pos rfl, List.cons_append,
            List.singleton_append]
      | false =>
          have block := ungroup_of_outsideFrame node.trees_outsideFrame
          rw [sectionTrees_block heading, List.append_assoc, EventTree.ungroup_append, block,
            if_neg Bool.false_ne_true]

/-! ## Blocks on their own -/

/-- The rendering of a block of the body on its own: a title if it is a heading. -/
def Node.renderAlone (document : String) (node : Node) : Rendering :=
  match node.kind with
  | .heading _ => renderTitle document [] node
  | _ => node.render document []

theorem Node.renderAlone_eq (document : String) (node : Node) :
    node.renderAlone document =
      if node.kind.isHeading then renderTitle document [] node else node.render document [] := by
  rcases node with ⟨kind, position, children⟩
  cases kind <;> rfl

private theorem findSome?_failure_eq_none {document : String} {reached : List Reached}
    (supported : reached.filterMap Reached.unsupported? = []) :
    reached.findSome? (Reached.failure? document) = none := by
  rw [List.findSome?_eq_none_iff]
  intro place member
  rw [Reached.failure?, Option.map_eq_none_iff]
  exact List.filterMap_eq_nil_iff.mp supported place member

/-- A block below which everything has a counterpart is rendered to its trees. -/
theorem Node.renderAlone_of_supported {node : Node} (supported : unsupportedNames [node] = [])
    (document : String) :
    (node.renderAlone document).failure = none ∧
      (node.renderAlone document).events = EventTree.eventsAll node.blockTrees := by
  have whole : (node.renderAlone document).failure = none ∧
      (node.renderAlone document).Yields (EventTree.eventsAll node.blockTrees) := by
    rw [Node.renderAlone_eq, Node.blockTrees]
    cases heading : node.kind.isHeading with
    | true =>
        rw [unsupportedNames_heading heading] at supported
        rw [if_pos rfl, if_pos rfl, failure_renderTitle, EventTree.eventsAll_cons,
          EventTree.eventsAll_nil, List.append_nil]
        exact ⟨findSome?_failure_eq_none ((filterMap_reachedAll node.children _).trans supported),
          renderTitle_yields document [] node⟩
    | false =>
        have reached := (filterMap_reachedAll [node] []).trans supported
        rw [Node.reachedAll_cons, Node.reachedAll_nil, List.append_nil] at reached
        rw [if_neg Bool.false_ne_true, if_neg Bool.false_ne_true, Node.failure_render]
        exact ⟨findSome?_failure_eq_none reached, Node.render_yields document [] node⟩
  exact ⟨whole.1, whole.2.complete whole.1⟩

/-! ## Counting headings -/

/-- Of the headings only the first is taken away. -/
theorem Node.countP_isHeading_remaining (nodes : List Node) : ∀ titled headed,
    (Node.remaining titled headed nodes).countP (fun node => node.kind.isHeading) =
      (Node.headings nodes).length - if titled then 0 else 1 := by
  induction nodes with
  | nil => intro titled headed; cases titled <;> rfl
  | cons node rest inductionHypothesis =>
      intro titled headed
      cases heading : node.kind.isHeading with
      | true =>
          rw [Node.remaining_heading rest heading, Node.headings_cons, if_pos heading,
            List.countP_append, inductionHypothesis]
          cases titled <;> simp [heading, Nat.add_comm]
      | false =>
          rw [Node.headings_cons, if_neg (by simp [heading]), ← inductionHypothesis titled headed]
          cases frontMatter : node.kind.frontMatter?.isSome with
          | true =>
              rw [Node.remaining_frontMatter rest frontMatter, List.countP_append,
                inductionHypothesis, inductionHypothesis]
              cases headed <;> simp [heading]
          | false =>
              rw [Node.remaining_other rest heading frontMatter,
                List.countP_cons_of_neg (by simp [heading])]

/-- One heading has become the title, if there is one. -/
theorem Document.countP_isHeading_bodyBlocks (document : Document) :
    document.bodyBlocks.countP (fun node => node.kind.isHeading) =
      (Node.headings document.children).length - 1 := by
  rw [← remaining_eq]
  exact Node.countP_isHeading_remaining document.children false false

/-! ## The layout -/

/-- What is in those children of a tree that have a given name. -/
def EventTree.within (name : String) (tree : EventTree) : List EventTree :=
  (tree.children.filter (fun child => child.name? == some name)).flatMap children

/-- How the tree of a topic is laid out for a document. -/
structure FollowsLayout (document : Document) (topic : EventTree) : Prop where
  isTopic : topic.name? = some "topic"
  /-- A topic has a title, and a prolog and a body if there is something for them; it has nothing
  else, and no characters. -/
  parts : topic.children.map EventTree.name? =
    some "title" ::
      ((if document.header?.isSome then [some "prolog"] else [])
        ++ (if document.remaining.isEmpty then [] else [some "body"]))
  /-- Topics, prologs, bodies and sections stand where they belong and nowhere else. -/
  frame : ∀ place ∈ topic.places [], place.name ∈ frameNames → place ∈ framePlaces
  sectionCount : (topic.places []).countP Place.isSection =
    (Node.headings document.children).length - 1
  sectionsLast : ∀ tree ∈ (topic.within "body").dropWhile (fun tree => !tree.isSection),
    tree.isSection = true
  titleFirst : ∀ tree ∈ topic.within "body", tree.isSection = true →
    tree.children.head?.bind EventTree.name? = some "title"
  /-- Every node that remains for the body can be rendered on its own. -/
  blocksRendered : ∀ node ∈ document.remaining,
    (node.renderAlone document.displayName).failure = none
  /-- The body without the grouping is made of the nodes that remain, in their order. -/
  blocks : EventTree.eventsAll (EventTree.ungroup (topic.within "body")) =
    document.remaining.flatMap (fun node => (node.renderAlone document.displayName).events)

namespace Document

theorem name?_topicTitleTree (document : Document) :
    document.topicTitleTree.name? = some "title" := by
  rw [topicTitleTree]
  cases document.firstHeading? <;> rfl

theorem topicTitleTree_outsideFrame (document : Document) :
    OutsideFrame [document.topicTitleTree] :=
  document.topicTitleTree_madeOf.outsideFrame

/-- The content of the body, if there is one. -/
theorem within_body_topicTree (options : RenderOptions) (document : Document) :
    (document.topicTree options).within "body" =
      (sectionTrees document.bodyBlocks).1 ++ (sectionTrees document.bodyBlocks).2 := by
  have title : (document.topicTitleTree.name? == some "body") = false := by
    rw [name?_topicTitleTree]
    decide
  have prolog : (document.prologTrees options).filter
      (fun child => child.name? == some "body") = [] := by
    rw [prologTrees]
    cases document.frontMatter? <;> rfl
  rw [EventTree.within, topicTree, EventTree.of, EventTree.children, topicContent,
    List.filter_cons, title, if_neg Bool.false_ne_true, List.filter_append, prolog,
    List.nil_append, bodyTrees]
  cases document.bodyBlocks with
  | nil => rfl
  | cons block rest => exact List.append_nil _

theorem frame_topicTree (options : RenderOptions) (document : Document) :
    InFrame [] [document.topicTree options] := by
  have prolog : InFrame [Element.topic.name] (document.prologTrees options) := by
    rw [prologTrees]
    cases document.frontMatter? with
    | some header =>
        exact inFrame_of (by decide) ((Prolog.trees_outsideFrame options header).inFrame _)
    | none => exact outsideFrame_nil.inFrame _
  have sections : InFrame [Element.topic.name, Element.body.name]
      (sectionTrees document.bodyBlocks).2 := by
    apply inFrame_of_forall
    intro tree member
    rcases exists_of_mem_sectionTrees member with ⟨heading, blocks, rfl, outside⟩
    exact inFrame_of (by decide) (((titleTree_outsideFrame heading).append outside).inFrame _)
  have body : InFrame [Element.topic.name] document.bodyTrees := by
    rw [bodyTrees]
    split
    · exact outsideFrame_nil.inFrame _
    · exact inFrame_of (by decide)
        (((sectionTrees_blocks_outsideFrame document.bodyBlocks).inFrame _).append sections)
  exact inFrame_of (by decide)
    ((document.topicTitleTree_outsideFrame.inFrame _).append (prolog.append body))

theorem countP_isSection_topicTree (options : RenderOptions) (document : Document) :
    ((document.topicTree options).places []).countP Place.isSection =
      (Node.headings document.children).length - 1 := by
  have title := document.topicTitleTree_outsideFrame.countP_isSection [Element.topic.name]
  rw [EventTree.placesAll_cons, EventTree.placesAll_nil, List.append_nil] at title
  have prolog : (EventTree.placesAll [Element.topic.name]
      (document.prologTrees options)).countP Place.isSection = 0 := by
    rw [prologTrees]
    cases document.frontMatter? with
    | some header =>
        rw [EventTree.placesAll_cons, EventTree.placesAll_nil, List.append_nil,
          EventTree.places_of, List.countP_cons_of_neg (by decide)]
        exact (Prolog.trees_outsideFrame options header).countP_isSection _
    | none => rfl
  have body : (EventTree.placesAll [Element.topic.name] document.bodyTrees).countP
      Place.isSection = document.bodyBlocks.countP (fun node => node.kind.isHeading) := by
    rw [bodyTrees]
    cases document.bodyBlocks with
    | nil => rfl
    | cons block rest =>
        have blocks := (sectionTrees_blocks_outsideFrame (block :: rest)).countP_isSection
          ([Element.topic.name] ++ [Element.body.name])
        rw [List.isEmpty_cons, if_neg Bool.false_ne_true, EventTree.placesAll_cons,
          EventTree.placesAll_nil, List.append_nil, EventTree.places_of,
          List.countP_cons_of_neg (by decide), EventTree.placesAll_append, List.countP_append,
          blocks, countP_sections, Nat.zero_add]
  rw [topicTree, EventTree.places_of, List.countP_cons_of_neg (by decide), topicContent,
    EventTree.placesAll_cons, EventTree.placesAll_append, List.countP_append, List.countP_append,
    List.nil_append, title, prolog, body, Nat.zero_add, Nat.zero_add,
    countP_isHeading_bodyBlocks]

/-- The tree of a topic whose blocks can all be rendered is laid out for its document. -/
theorem topicTree_followsLayout (options : RenderOptions) {document : Document}
    (supported : unsupportedNames document.bodyBlocks = []) :
    FollowsLayout document (document.topicTree options) := by
  have alone : ∀ node ∈ document.bodyBlocks,
      (node.renderAlone document.displayName).failure = none ∧
        (node.renderAlone document.displayName).events =
          EventTree.eventsAll node.blockTrees := by
    intro node member
    apply Node.renderAlone_of_supported
    rw [List.eq_nil_iff_forall_not_mem]
    intro name found
    have below := (mem_unsupportedNames_iff document.bodyBlocks).mpr ⟨node, member, found⟩
    rw [supported] at below
    cases below
  have blocksFirst := isSection_of_outsideFrame
    (sectionTrees_blocks_outsideFrame document.bodyBlocks)
  have sectionOf : ∀ tree ∈ (sectionTrees document.bodyBlocks).2, tree.isSection = true ∧
      tree.children.head?.bind EventTree.name? = some "title" := by
    intro tree member
    rcases exists_of_mem_sectionTrees member with ⟨heading, blocks, rfl, _⟩
    exact ⟨rfl, rfl⟩
  constructor
  · rfl
  · have title := document.name?_topicTitleTree
    rw [header?_eq, remaining_eq, topicTree, EventTree.of, EventTree.children, topicContent,
      List.map_cons, List.map_append, title, prologTrees, bodyTrees]
    congr 2
    · cases document.frontMatter? <;> rfl
    · cases document.bodyBlocks.isEmpty <;> rfl
  · have framed := document.frame_topicTree options
    rwa [InFrame, EventTree.placesAll_cons, EventTree.placesAll_nil, List.append_nil] at framed
  · exact document.countP_isSection_topicTree options
  · intro tree member
    rw [within_body_topicTree, List.dropWhile_append_of_pos] at member
    · exact (sectionOf tree ((List.dropWhile_sublist _).subset member)).1
    · intro block inBlocks
      rw [blocksFirst block inBlocks]
      rfl
  · intro tree member isSection
    rw [within_body_topicTree] at member
    rcases List.mem_append.mp member with inBlocks | inSections
    · rw [blocksFirst tree inBlocks] at isSection
      cases isSection
    · exact (sectionOf tree inSections).2
  · intro node member
    rw [remaining_eq] at member
    exact (alone node member).1
  · rw [within_body_topicTree, ungroup_sectionTrees, EventTree.eventsAll_flatMap, remaining_eq]
    rw [List.flatMap_def, List.flatMap_def,
      List.map_congr_left (fun node member => (alone node member).2)]

theorem document?_of_toEvents {options : RenderOptions} {document : Document}
    {events : Array Event} (rendered : document.toEvents options = .ok events) :
    EventTree.document? events.toList = some (document.topicTree options) := by
  rw [toEvents_eq] at rendered
  cases outcome : (document.render options).failure with
  | some context =>
      rw [outcome] at rendered
      cases rendered
  | none =>
      rw [outcome] at rendered
      cases rendered
      exact EventTree.document?_eq_some_iff.mpr (events_render_of_success outcome)

/-- The events of a document that can be rendered are read as one tree, which is laid out for the
document. -/
theorem toEvents_followsLayout {options : RenderOptions} {document : Document}
    {events : Array Event} (rendered : document.toEvents options = .ok events) :
    ∃ topic, EventTree.document? events.toList = some topic ∧ FollowsLayout document topic := by
  have supported : unsupportedNames document.inOrder = [] := by
    rw [← filterMap_reached]
    exact exists_toEvents_eq_ok_iff.mp ⟨events, rendered⟩
  have blocks : unsupportedNames document.bodyBlocks = [] := by
    rw [List.eq_nil_iff_forall_not_mem]
    intro name found
    rcases (mem_unsupportedNames_iff _).mp found with ⟨node, member, below⟩
    have reached := (mem_unsupportedNames_iff document.inOrder).mpr
      ⟨node, List.mem_append_right _ member, below⟩
    rw [supported] at reached
    cases reached
  exact ⟨document.topicTree options, document?_of_toEvents rendered,
    topicTree_followsLayout options blocks⟩

/-- Title and prolog come from behind other blocks, a heading in a quotation opens no section, and a
second front matter belongs to the body. -/
theorem toEvents_of_late_title_followsLayout :
    let heading (text : String) : Node := { kind := .heading 2, children := [{ kind := .text text }] }
    let document : Document :=
      { children := [{ kind := .paragraph }, { kind := .frontMatter .empty }, heading "A",
          { kind := .blockQuote, children := [heading "B"] }, heading "C", { kind := .text "d" },
          { kind := .frontMatter .empty }, heading "E"] }
    ∃ events, document.toEvents {} = .ok events ∧
      ∃ topic, EventTree.document? events.toList = some topic ∧ FollowsLayout document topic ∧
        topic.children.map EventTree.name? = [some "title", some "prolog", some "body"] ∧
        (topic.within "body").map EventTree.name? =
          [some "p", some "lq", some "section", some "section"] := by
  intro heading document
  have supported : document.reached.filterMap Reached.unsupported? = [] := by decide
  rcases exists_toEvents_eq_ok_iff.mpr supported with ⟨events, rendered⟩
  rcases toEvents_followsLayout rendered with ⟨topic, read, follows⟩
  have same : topic = document.topicTree {} :=
    Option.some.inj (read.symm.trans (document?_of_toEvents rendered))
  refine ⟨events, rendered, topic, read, follows, follows.parts, ?_⟩
  rw [same]
  decide

end Document

end TopicPress
