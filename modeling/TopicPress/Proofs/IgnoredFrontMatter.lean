import TopicPress.Proofs.CourseRuns

/-!
# Front matter outside the header

Only the first front matter at the top of a document becomes a prolog.  Any other is passed over with
a notice, and a document without it is rendered to the same events and fails at the same node, as
long as two things that are told by their having content keep some: the body, which is there if a
block is left for it, and an image, which takes its title for a description if it has no children.
The course of the pruned document is the course of the document without the front matter on it, which
says this for all sinks at once.
-/

namespace TopicPress

open Dita (Element)

/-! ## Pruning -/

mutual

/-- A node without the front matter below it. -/
def Node.pruned (node : Node) : Node :=
  match node with
  | ⟨kind, position, children⟩ => ⟨kind, position, Node.prunedAll false children⟩

/-- Nodes without the front matter among them and below them; `sparing` says that the first among
them stays. -/
def Node.prunedAll (sparing : Bool) : List Node → List Node
  | [] => []
  | node :: rest =>
    if node.kind.frontMatter?.isSome then
      (if sparing then [node] else []) ++ Node.prunedAll false rest
    else node.pruned :: Node.prunedAll sparing rest

end

/-- The document without its front matter, at any depth, but for the first at its top. -/
def Document.pruned (document : Document) : Document :=
  { document with children := Node.prunedAll true document.children }

def NodeKind.isImage : NodeKind → Bool
  | image _ _ => true
  | _ => false

/-- No image loses all its children when nodes are pruned. -/
def DescriptionsStay (nodes : List Node) : Prop :=
  ∀ node ∈ Node.preorderAll nodes,
    node.kind.isImage = true → Node.prunedAll false node.children = [] → node.children = []

/-- No front matter has anything below it. -/
def FrontMatterChildless (nodes : List Node) : Prop :=
  ∀ node ∈ Node.preorderAll nodes, node.kind.frontMatter?.isSome = true → node.children = []

/-- The front matter of a document is all that its pruning takes away: there is nothing below it, and
neither the body nor an image is left empty. -/
structure Document.Prunable (document : Document) : Prop where
  childless : FrontMatterChildless document.children
  described : DescriptionsStay document.children
  bodied : document.pruned.remaining = [] → document.remaining = []

@[simp] theorem Node.prunedAll_nil (sparing : Bool) : Node.prunedAll sparing [] = [] := by
  rw [Node.prunedAll]

theorem Node.prunedAll_dropped {node : Node}
    (frontMatter : node.kind.frontMatter?.isSome = true) (rest : List Node) :
    Node.prunedAll false (node :: rest) = Node.prunedAll false rest := by
  rw [Node.prunedAll, if_pos frontMatter]
  rfl

theorem Node.prunedAll_spared {node : Node}
    (frontMatter : node.kind.frontMatter?.isSome = true) (rest : List Node) :
    Node.prunedAll true (node :: rest) = node :: Node.prunedAll false rest := by
  rw [Node.prunedAll, if_pos frontMatter]
  rfl

theorem Node.prunedAll_other {node : Node} (other : node.kind.frontMatter?.isSome = false)
    (sparing : Bool) (rest : List Node) :
    Node.prunedAll sparing (node :: rest) = node.pruned :: Node.prunedAll sparing rest := by
  rw [Node.prunedAll, other]
  rfl

@[simp] theorem Node.kind_pruned (node : Node) : node.pruned.kind = node.kind := by
  rcases node with ⟨kind, position, children⟩
  rw [Node.pruned]

@[simp] theorem Node.children_pruned (node : Node) :
    node.pruned.children = Node.prunedAll false node.children := by
  rcases node with ⟨kind, position, children⟩
  rw [Node.pruned]

/-! ## What holds below -/

theorem Node.mem_preorder (node : Node) : node ∈ node.preorder := by
  rcases node with ⟨kind, position, children⟩
  rw [Node.preorder]
  exact List.mem_cons_self

theorem Node.preorder_subset {node : Node} {nodes : List Node} (member : node ∈ nodes) :
    node.preorder ⊆ Node.preorderAll nodes := by
  intro below inside
  rw [Node.preorderAll_eq_flatMap]
  exact List.mem_flatMap.mpr ⟨node, member, inside⟩

theorem Node.preorderAll_children_subset {node : Node} {nodes : List Node} (member : node ∈ nodes) :
    Node.preorderAll node.children ⊆ Node.preorderAll nodes := by
  refine List.Subset.trans ?_ (Node.preorder_subset member)
  rcases node with ⟨kind, position, children⟩
  rw [Node.preorder]
  exact List.subset_cons_self _ _

theorem Node.preorderAll_subset {part whole : List Node} (inside : part ⊆ whole) :
    Node.preorderAll part ⊆ Node.preorderAll whole := by
  intro below member
  rw [Node.preorderAll_eq_flatMap] at member
  rcases List.mem_flatMap.mp member with ⟨node, among, belowIt⟩
  exact Node.preorder_subset (inside among) belowIt

/-! ## The course of what is pruned -/

/-- What is left to pass when front matter is taken away. -/
def Waypoint.pruned? : Waypoint → Option Waypoint
  | .event delivered => some (.event delivered)
  | .place reached =>
    if reached.isFrontMatter then none
    else some (.place { reached with node := reached.node.pruned })

theorem filterMap_pruned?_events (events : List Event) :
    (events.map Waypoint.event).filterMap Waypoint.pruned? = events.map .event := by
  rw [List.filterMap_map]
  exact congrFun List.filterMap_eq_map events

theorem filterMap_pruned?_elementCourse (element : Element) (attributes : List Attribute)
    (content : List Waypoint) :
    (elementCourse element attributes content).filterMap Waypoint.pruned? =
      elementCourse element attributes (content.filterMap Waypoint.pruned?) := by
  have started : Waypoint.pruned? (.event (.start element attributes)) =
      some (.event (.start element attributes)) := rfl
  rw [elementCourse, List.filterMap_cons_some started, List.filterMap_append]
  rfl

/-- The rules look at the children only to see whether an image has any. -/
theorem RenderRule.filterMap_pruned?_course (rule : RenderRule) {childless prunedChildless : Bool}
    (same : ∀ href title, rule = .image href title → prunedChildless = childless)
    (content : List Waypoint) :
    (rule.course childless content).filterMap Waypoint.pruned? =
      rule.course prunedChildless (content.filterMap Waypoint.pruned?) := by
  cases rule with
  | element container attributes literal =>
      have shown : (literal.toList.flatMap charactersCourse).filterMap Waypoint.pruned? =
          literal.toList.flatMap charactersCourse := by
        cases literal <;> rfl
      rw [course, course, filterMap_pruned?_elementCourse, List.filterMap_append, shown]
  | emptyElement container attributes => exact filterMap_pruned?_elementCourse _ _ _
  | image href title =>
      rw [same href title rfl, course, course, filterMap_pruned?_elementCourse]
      cases childless with
      | false => exact congrArg _ (filterMap_pruned?_elementCourse _ _ _)
      | true => cases title.isEmpty <;> rfl
  | characters text => rfl
  | ignored => rfl
  | unmapped => rfl

theorem NodeKind.isImage_of_rule {kind : NodeKind} {href title : String}
    (rule : kind.rule = .image href title) : kind.isImage = true := by
  cases kind with
  | list ordered start => cases ordered <;> cases rule
  | tableRow header => cases header <;> cases rule
  | image url shown => rfl
  | _ => cases rule

theorem NodeKind.rule_of_frontMatter {kind : NodeKind}
    (frontMatter : kind.frontMatter?.isSome = true) : kind.rule = .ignored := by
  rw [isSome_frontMatter?_eq] at frontMatter
  split at frontMatter
  · assumption
  · cases frontMatter

theorem NodeKind.ownText_of_frontMatter {kind : NodeKind}
    (frontMatter : kind.frontMatter?.isSome = true) : kind.ownText = "" := by
  cases kind with
  | frontMatter header => rfl
  | _ => cases frontMatter

/-- Nothing is left of the course through front matter. -/
theorem Node.filterMap_course_frontMatter {node : Node}
    (frontMatter : node.kind.frontMatter?.isSome = true) (path : List String) :
    (node.course path).filterMap Waypoint.pruned? = [] := by
  rcases node with ⟨kind, position, children⟩
  have dropped : Waypoint.pruned? (.place ⟨path, kind, position, children⟩) = none :=
    if_pos frontMatter
  rw [Node.course_eq, List.filterMap_cons_none dropped, NodeKind.rule_of_frontMatter frontMatter]
  rfl

private theorem Node.course_pruned_of_children {children : List Node}
    (inChildren : ∀ path, Node.courseAll path (Node.prunedAll false children) =
      (Node.courseAll path children).filterMap Waypoint.pruned?)
    {kind : NodeKind} {position : Option SourcePosition}
    (stays : kind.isImage = true → Node.prunedAll false children = [] → children = [])
    (other : kind.frontMatter?.isSome = false) (path : List String) :
    (⟨kind, position, children⟩ : Node).pruned.course path =
      ((⟨kind, position, children⟩ : Node).course path).filterMap Waypoint.pruned? := by
  have kept : Waypoint.pruned? (.place ⟨path, kind, position, children⟩) =
      some (.place ⟨path, (⟨kind, position, children⟩ : Node).pruned⟩) :=
    if_neg (by rw [Reached.isFrontMatter, other]; exact Bool.false_ne_true)
  have same : ∀ href title, kind.rule = .image href title →
      (Node.prunedAll false children).isEmpty = children.isEmpty := by
    intro href title rule
    rw [Bool.eq_iff_iff, List.isEmpty_iff, List.isEmpty_iff]
    constructor
    · exact stays (NodeKind.isImage_of_rule rule)
    · rintro rfl
      exact Node.prunedAll_nil false
  rw [Node.course_eq, List.filterMap_cons_some kept, RenderRule.filterMap_pruned?_course _ same,
    ← inChildren, Node.pruned, Node.course_eq]

/-- The course through pruned nodes is the course through the nodes, without the front matter. -/
theorem Node.courseAll_prunedAll (nodes : List Node) :
    DescriptionsStay nodes → ∀ path, Node.courseAll path (Node.prunedAll false nodes) =
      (Node.courseAll path nodes).filterMap Waypoint.pruned? := by
  induction nodes using Node.forestInduction with
  | nil =>
      intro stays path
      rw [Node.prunedAll_nil, Node.courseAll_nil, List.filterMap_nil]
  | cons kind position children rest inChildren inRest =>
      intro stays path
      rw [DescriptionsStay, Node.preorderAll, Node.preorder, List.forall_mem_append,
        List.forall_mem_cons] at stays
      rcases stays with ⟨⟨here, below⟩, later⟩
      rw [Node.courseAll_cons, List.filterMap_append, ← inRest later]
      cases frontMatter : kind.frontMatter?.isSome with
      | true =>
          rw [Node.prunedAll_dropped frontMatter,
            Node.filterMap_course_frontMatter frontMatter, List.nil_append]
      | false =>
          rw [Node.prunedAll_other frontMatter, Node.courseAll_cons,
            Node.course_pruned_of_children (inChildren below) here frontMatter]

theorem DescriptionsStay.of_subset {part whole : List Node} (stays : DescriptionsStay whole)
    (inside : part ⊆ whole) : DescriptionsStay part := fun below member =>
  stays below (Node.preorderAll_subset inside member)

theorem DescriptionsStay.of_mem {node : Node} {nodes : List Node} (stays : DescriptionsStay nodes)
    (member : node ∈ nodes) : DescriptionsStay node.children := fun below inside =>
  stays below (Node.preorderAll_children_subset member inside)

theorem Node.titleCourse_pruned {heading : Node} (stays : DescriptionsStay heading.children)
    (path : List String) :
    titleCourse path heading.pruned =
      (titleCourse path heading).filterMap Waypoint.pruned? := by
  rw [titleCourse, titleCourse, filterMap_pruned?_elementCourse, Node.kind_pruned,
    Node.children_pruned, Node.courseAll_prunedAll _ stays]

theorem Node.course_pruned {node : Node} {nodes : List Node} (stays : DescriptionsStay nodes)
    (member : node ∈ nodes) (other : node.kind.frontMatter?.isSome = false) (path : List String) :
    node.pruned.course path = (node.course path).filterMap Waypoint.pruned? := by
  have here := stays node (Node.preorder_subset member node.mem_preorder)
  have inChildren := Node.courseAll_prunedAll _ (stays.of_mem member)
  rcases node with ⟨kind, position, children⟩
  exact Node.course_pruned_of_children inChildren here other path

theorem blocksCourse_prunedAll {path : List String} {nodes : List Node} :
    DescriptionsStay nodes → ∀ inSection, blocksCourse path inSection (Node.prunedAll false nodes) =
      (blocksCourse path inSection nodes).filterMap Waypoint.pruned? := by
  induction nodes with
  | nil =>
      intro stays inSection
      rw [Node.prunedAll_nil]
      cases inSection <;> rfl
  | cons node rest inductionHypothesis =>
      intro stays inSection
      have inRest := inductionHypothesis (stays.of_subset (List.subset_cons_self node rest))
      have member : node ∈ node :: rest := List.mem_cons_self
      cases frontMatter : node.kind.frontMatter?.isSome with
      | true =>
          rw [Node.prunedAll_dropped frontMatter, inRest,
            blocksCourse_block (NodeKind.isHeading_of_frontMatter frontMatter),
            List.filterMap_append, Node.filterMap_course_frontMatter frontMatter, List.nil_append]
      | false =>
          rw [Node.prunedAll_other frontMatter]
          cases heading : node.kind.isHeading with
          | true =>
              have prunedHeading : node.pruned.kind.isHeading = true := by
                rw [Node.kind_pruned, heading]
              have closing : (if inSection then [Waypoint.event .endElement] else []).filterMap
                  Waypoint.pruned? = if inSection then [.event .endElement] else [] := by
                cases inSection <;> rfl
              rw [blocksCourse_heading prunedHeading, blocksCourse_heading heading, inRest,
                Node.titleCourse_pruned (stays.of_mem member), List.filterMap_append,
                List.filterMap_append, List.filterMap_append, closing]
              rfl
          | false =>
              have prunedBlock : node.pruned.kind.isHeading = false := by
                rw [Node.kind_pruned, heading]
              rw [blocksCourse_block prunedBlock, blocksCourse_block heading, inRest,
                Node.course_pruned stays member frontMatter, List.filterMap_append]

/-! ## Pruning at the top -/

/-- The first heading stays the first. -/
theorem Node.find?_isHeading_prunedAll (nodes : List Node) :
    ∀ sparing, (Node.prunedAll sparing nodes).find? (fun node => node.kind.isHeading) =
      (nodes.find? (fun node => node.kind.isHeading)).map Node.pruned := by
  induction nodes with
  | nil =>
      intro sparing
      rw [Node.prunedAll_nil]
      rfl
  | cons node rest inductionHypothesis =>
      intro sparing
      cases frontMatter : node.kind.frontMatter?.isSome with
      | true =>
          have block := NodeKind.isHeading_of_frontMatter frontMatter
          rw [List.find?_cons, block]
          cases sparing with
          | true =>
              rw [Node.prunedAll_spared frontMatter, List.find?_cons, block, inductionHypothesis]
          | false => rw [Node.prunedAll_dropped frontMatter, inductionHypothesis]
      | false =>
          rw [Node.prunedAll_other frontMatter, List.find?_cons, List.find?_cons,
            inductionHypothesis, Node.kind_pruned]
          cases node.kind.isHeading <;> rfl

/-- The first front matter is spared. -/
theorem Node.findSome?_frontMatter?_prunedAll (nodes : List Node) :
    (Node.prunedAll true nodes).findSome? (fun node => node.kind.frontMatter?) =
      nodes.findSome? (fun node => node.kind.frontMatter?) := by
  induction nodes with
  | nil => rw [Node.prunedAll_nil]
  | cons node rest inductionHypothesis =>
      cases frontMatter : node.kind.frontMatter? with
      | some header =>
          have isSome : node.kind.frontMatter?.isSome = true := by rw [frontMatter]; rfl
          rw [Node.prunedAll_spared isSome, List.findSome?_cons, List.findSome?_cons, frontMatter]
      | none =>
          have isNone : node.kind.frontMatter?.isSome = false := by rw [frontMatter]; rfl
          rw [Node.prunedAll_other isNone, List.findSome?_cons, List.findSome?_cons,
            Node.kind_pruned, frontMatter, inductionHypothesis]

/-- What is spared is taken out, and what remains is pruned: nothing has been spared any more once the
front matter for the prolog has been taken. -/
theorem Node.remaining_prunedAll (nodes : List Node) :
    ∀ titled headed, Node.remaining titled headed (Node.prunedAll (!headed) nodes) =
      Node.prunedAll false (Node.remaining titled headed nodes) := by
  induction nodes with
  | nil =>
      intro titled headed
      rw [Node.prunedAll_nil, Node.remaining, Node.prunedAll_nil]
  | cons node rest inductionHypothesis =>
      intro titled headed
      cases frontMatter : node.kind.frontMatter?.isSome with
      | true =>
          have later := inductionHypothesis titled true
          rw [Node.remaining_frontMatter rest frontMatter]
          cases headed with
          | true =>
              rw [Bool.not_true, Node.prunedAll_dropped frontMatter, if_pos rfl,
                List.singleton_append, Node.prunedAll_dropped frontMatter]
              exact later
          | false =>
              rw [Bool.not_false, Node.prunedAll_spared frontMatter,
                Node.remaining_frontMatter _ frontMatter, if_neg Bool.false_ne_true]
              exact later
      | false =>
          have otherPruned : node.pruned.kind.frontMatter?.isSome = false := by
            rw [Node.kind_pruned, frontMatter]
          rw [Node.prunedAll_other frontMatter]
          cases heading : node.kind.isHeading with
          | true =>
              have headingPruned : node.pruned.kind.isHeading = true := by
                rw [Node.kind_pruned, heading]
              rw [Node.remaining_heading _ headingPruned, Node.remaining_heading rest heading,
                inductionHypothesis]
              cases titled with
              | true => exact (Node.prunedAll_other frontMatter false _).symm
              | false => rfl
          | false =>
              have blockPruned : node.pruned.kind.isHeading = false := by
                rw [Node.kind_pruned, heading]
              rw [Node.remaining_other _ blockPruned otherPruned,
                Node.remaining_other rest heading frontMatter, inductionHypothesis,
                Node.prunedAll_other frontMatter]

/-! ## Text -/

/-- Front matter has no text of its own, so nothing of the text is lost if there is nothing below
it. -/
theorem Node.textContents_prunedAll (nodes : List Node) :
    FrontMatterChildless nodes → Node.textContents (Node.prunedAll false nodes) =
      Node.textContents nodes := by
  induction nodes using Node.forestInduction with
  | nil =>
      intro childless
      rw [Node.prunedAll_nil]
  | cons kind position children rest inChildren inRest =>
      intro childless
      rw [FrontMatterChildless, Node.preorderAll, Node.preorder, List.forall_mem_append,
        List.forall_mem_cons] at childless
      rcases childless with ⟨⟨here, below⟩, later⟩
      rw [Node.textContents, Node.textContent]
      cases frontMatter : kind.frontMatter?.isSome with
      | true =>
          have noText : kind.ownText = "" := NodeKind.ownText_of_frontMatter frontMatter
          have noChildren : children = [] := here frontMatter
          rw [Node.prunedAll_dropped frontMatter, inRest later, noText, noChildren,
            Node.textContents, String.empty_append, String.empty_append]
      | false =>
          rw [Node.prunedAll_other frontMatter, Node.textContents, Node.pruned, Node.textContent,
            inChildren below, inRest later]

namespace Document

variable {document : Document}

theorem firstHeading?_pruned (document : Document) :
    document.pruned.firstHeading? = document.firstHeading?.map Node.pruned :=
  Node.find?_isHeading_prunedAll document.children true

theorem frontMatter?_pruned (document : Document) :
    document.pruned.frontMatter? = document.frontMatter? :=
  Node.findSome?_frontMatter?_prunedAll document.children

theorem remaining_pruned (document : Document) :
    document.pruned.remaining = Node.prunedAll false document.remaining :=
  Node.remaining_prunedAll document.children false false

theorem remaining_subset (document : Document) : document.remaining ⊆ document.children := by
  rw [remaining_eq]
  exact List.Subset.trans (List.eraseP_sublist.subset) (List.eraseP_sublist.subset)

theorem mem_of_firstHeading? {heading : Node} (found : document.firstHeading? = some heading) :
    heading ∈ document.children :=
  List.mem_of_find?_eq_some found

theorem firstHeadingText?_pruned (childless : FrontMatterChildless document.children) :
    document.pruned.firstHeadingText? = document.firstHeadingText? := by
  rw [firstHeadingText?, firstHeadingText?, firstHeading?_pruned]
  cases found : document.firstHeading? with
  | none => rfl
  | some heading =>
      have below : FrontMatterChildless heading.children := fun node inside =>
        childless node (Node.preorderAll_children_subset (mem_of_firstHeading? found) inside)
      have same := Node.textContents_prunedAll _ below
      rcases heading with ⟨kind, position, children⟩
      rw [Option.map_some, Option.map_some, Option.map_some, Node.pruned, Node.textContent,
        Node.textContent, same]

theorem topicAttributes_pruned (childless : FrontMatterChildless document.children)
    (options : RenderOptions) :
    document.pruned.topicAttributes options = document.topicAttributes options := by
  rw [topicAttributes, topicAttributes, topicId?, topicId?, metadataId?, metadataId?, titleId?,
    titleId?, frontMatter?_pruned, firstHeadingText?_pruned childless]

/-- The course of a document that is pruned is the course of the document without front matter. -/
theorem course_pruned (prunable : document.Prunable) (options : RenderOptions) :
    document.pruned.course options = (document.course options).filterMap Waypoint.pruned? := by
  have title : ∀ path, document.pruned.topicTitleCourse path =
      (document.topicTitleCourse path).filterMap Waypoint.pruned? := by
    intro path
    rw [topicTitleCourse, topicTitleCourse, titleHeading?_eq, titleHeading?_eq,
      firstHeading?_pruned]
    cases found : document.firstHeading? with
    | none => rfl
    | some heading =>
        exact Node.titleCourse_pruned (prunable.described.of_mem (mem_of_firstHeading? found)) path
  have prolog : document.pruned.prologCourse options =
      (document.prologCourse options).filterMap Waypoint.pruned? := by
    rw [prologCourse, prologCourse, header?_eq, header?_eq, frontMatter?_pruned]
    cases document.frontMatter? with
    | none => rfl
    | some header => rw [filterMap_pruned?_elementCourse, filterMap_pruned?_events]
  have body : ∀ path, document.pruned.bodyCourse path =
      (document.bodyCourse path).filterMap Waypoint.pruned? := by
    intro path
    have bodied := prunable.bodied
    have stays := prunable.described.of_subset document.remaining_subset
    rw [bodyCourse, bodyCourse]
    rw [remaining_pruned] at bodied ⊢
    cases blocks : document.remaining with
    | nil =>
        rw [Node.prunedAll_nil]
        rfl
    | cons block rest =>
        rw [blocks] at bodied stays
        have left : (Node.prunedAll false (block :: rest)).isEmpty = false := by
          rw [List.isEmpty_eq_false_iff]
          exact fun empty => List.cons_ne_nil _ _ (bodied empty)
        rw [left, if_neg Bool.false_ne_true, blocksCourse_prunedAll stays]
        exact (filterMap_pruned?_elementCourse _ _ _).symm
  rw [course, course, topicAttributes_pruned prunable.childless, title, prolog, body,
    List.filterMap_append, filterMap_pruned?_elementCourse, List.filterMap_append,
    List.filterMap_append]
  rfl

end Document

/-! ## Runs of what is pruned -/

@[simp] theorem Node.position_pruned (node : Node) : node.pruned.position = node.position := by
  rcases node with ⟨kind, position, children⟩
  rw [Node.pruned]

/-- A node that is pruned fails, or does not, as the node does. -/
theorem Waypoint.rendering_place_pruned {place : Reached} (other : place.isFrontMatter = false)
    (document : String) :
    Waypoint.rendering document (.place { place with node := place.node.pruned }) =
      Waypoint.rendering document (.place place) := by
  rcases place with ⟨path, node⟩
  rw [Waypoint.rendering, Waypoint.rendering, Reached.isFrontMatter, Reached.isUnsupported,
    Reached.context, Node.kind_pruned, Node.position_pruned]
  rfl

/-- Front matter on a course makes no difference to the events and to the failure. -/
theorem Rendering.along_filterMap_pruned? (document : String) (course : List Waypoint) :
    (along document (course.filterMap Waypoint.pruned?)).events = (along document course).events ∧
      (along document (course.filterMap Waypoint.pruned?)).failure =
        (along document course).failure := by
  induction course with
  | nil => exact ⟨rfl, rfl⟩
  | cons waypoint rest inductionHypothesis =>
      rcases inductionHypothesis with ⟨events, failure⟩
      cases waypoint with
      | event event => exact ⟨congrArg (event :: ·) events, failure⟩
      | place place =>
          cases frontMatter : place.isFrontMatter with
          | true =>
              have dropped : Waypoint.pruned? (.place place) = none := if_pos frontMatter
              rw [List.filterMap_cons_none dropped, events, failure, along_cons, Waypoint.rendering,
                if_pos frontMatter]
              exact ⟨rfl, rfl⟩
          | false =>
              have kept : Waypoint.pruned? (.place place) =
                  some (.place { place with node := place.node.pruned }) :=
                if_neg (by rw [frontMatter]; exact Bool.false_ne_true)
              rw [List.filterMap_cons_some kept, along_cons, along_cons,
                Waypoint.rendering_place_pruned frontMatter]
              cases reached : (Waypoint.rendering document (.place place)).failure with
              | some context =>
                  rw [andThen_of_failure reached, andThen_of_failure reached]
                  exact ⟨rfl, rfl⟩
              | none =>
                  rw [events_andThen_of_success reached, events_andThen_of_success reached,
                    failure_andThen, failure_andThen, events, failure]
                  exact ⟨rfl, rfl⟩

namespace Document

variable {State Refusal : Type}

theorem events_render_pruned {document : Document} (prunable : document.Prunable)
    (options : RenderOptions) :
    (document.pruned.render options).events = (document.render options).events ∧
      (document.pruned.render options).failure = (document.render options).failure := by
  have goes := document.render_goesAlong options
  have prunedGoes := document.pruned.render_goesAlong options
  rw [Rendering.GoesAlong, course_pruned prunable] at prunedGoes
  rw [← Rendering.events_trimmed, ← Rendering.failure_trimmed, prunedGoes,
    ← Rendering.events_trimmed (document.render options),
    ← Rendering.failure_trimmed (document.render options), goes]
  exact Rendering.along_filterMap_pruned? _ _

end Document

/-- No front matter is left on a course that is pruned. -/
theorem isFrontMatter_of_mem_places_pruned {course : List Waypoint} {place : Reached}
    (member : place ∈ places (course.filterMap Waypoint.pruned?)) : place.isFrontMatter = false := by
  rcases List.mem_filterMap.mp member with ⟨waypoint, inside, isPlace⟩
  rcases List.mem_filterMap.mp inside with ⟨source, _, pruned⟩
  cases source with
  | event event =>
      rw [← Option.some.inj pruned] at isPlace
      cases isPlace
  | place source =>
      rw [Waypoint.pruned?] at pruned
      split at pruned
      · cases pruned
      · rename_i other
        rw [← Option.some.inj pruned] at isPlace
        rw [← Option.some.inj isPlace, Reached.isFrontMatter, Node.kind_pruned]
        exact Bool.eq_false_iff.mpr other

namespace Document

variable {State Refusal : Type}

/-- Front matter outside the header is passed over: with and without it, a run of a sink from the
state `state` comes to the same end. -/
structure PassesOverFrontMatter (sink : Sink State Refusal) (state : State)
    (options : RenderOptions) (document : Document) : Prop where
  left : (document.pruned.serialize sink state options).state =
    (document.serialize sink state options).state
  result : (document.pruned.serialize sink state options).result =
    (document.serialize sink state options).result
  /-- The sink is given the same events. -/
  given : (document.pruned.serialize sink.traced (state, #[]) options).state =
    (document.serialize sink.traced (state, #[]) options).state
  /-- A run comes to nodes that are reached in the document, in their order, up to some point. -/
  passed : sink.passed state (document.course options) <+: document.reached
  /-- Unless the sink refuses an event, the run comes to all front matter that is reached before the
  first node without a counterpart. -/
  unrefused : (∀ reason, (document.serialize sink state options).result ≠ .error (.refused reason)) →
    (sink.passed state (document.course options)).filter Reached.isFrontMatter =
      (document.reached.takeWhile (fun place => !place.isUnsupported)).filter Reached.isFrontMatter
  /-- The run leaves one notice for each front matter that it comes to, in the order of the
  rendering. -/
  notices : sink.SilentOnFrontMatter →
    (document.serialize sink state options).notices.toList.filter Notice.isFrontMatterIgnored =
      ((sink.passed state (document.course options)).filter Reached.isFrontMatter).map
        (Reached.ignoredNotice document.displayName)
  /-- All of this front matter is pruned, for then no such notice is left. -/
  prunedNotices : sink.SilentOnFrontMatter →
    (document.pruned.serialize sink state options).notices.toList.filter
      Notice.isFrontMatterIgnored = []

/-- Front matter that is pruned makes no difference but for the notices about it. -/
theorem passesOverFrontMatter {document : Document} (prunable : document.Prunable)
    (sink : Sink State Refusal) (state : State) (options : RenderOptions) :
    document.PassesOverFrontMatter sink state options := by
  rcases events_render_pruned prunable options with ⟨events, failure⟩
  refine ⟨?_, ?_, ?_, ?_, ?_, ?_, ?_⟩
  · rw [serialize_eq_play, serialize_eq_play, Sink.play_state, Sink.play_state, events]
  · rw [serialize_eq_play, serialize_eq_play, Sink.play_result, Sink.play_result, events, failure]
  · rw [serialize_eq_play, serialize_eq_play, Sink.play_state, Sink.play_state, events]
  · rw [← document.places_course options]
    exact sink.passed_prefix _ state
  · intro unrefused
    have goes : (document.render options).trimmed = _ := document.render_goesAlong options
    rw [← document.places_course options]
    apply sink.filter_passed_of_accepted document.displayName
    rw [← goes, Rendering.events_trimmed]
    cases answer : (sink.feed state (document.render options).events).2 with
    | none => rfl
    | some reason =>
        refine absurd ?_ (unrefused reason)
        rw [serialize_eq_play, Sink.play_result, answer]
  · intro silent
    rw [serialize_eq_play]
    exact Sink.filter_notices_play silent (document.render_goesAlong options) state
  · intro silent
    have noFrontMatter : (sink.passed state (document.pruned.course options)).filter
        Reached.isFrontMatter = [] := by
      rw [List.filter_eq_nil_iff]
      intro place member
      have onCourse := (sink.passed_prefix _ state).subset member
      rw [course_pruned prunable] at onCourse
      rw [isFrontMatter_of_mem_places_pruned onCourse]
      exact Bool.false_ne_true
    rw [serialize_eq_play,
      Sink.filter_notices_play silent (document.pruned.render_goesAlong options) state,
      noFrontMatter]
    rfl

/-- Front matter in a quotation before the header, in the title, below a text that hides it, beside
the description of an image, among the blocks, in the title of a section and after the failure. -/
theorem passesOverFrontMatter_scattered :
    let header : Node := { kind := .frontMatter .empty }
    let text : Node := { kind := .text "x", children := [header] }
    let image : Node := { kind := .image "i.png" "", children := [text, header] }
    let footnote : Node := { kind := .unsupported "footnote_reference", position := some ⟨9, 1⟩ }
    let document : Document :=
      { name := some "a.md"
        children := [
          { kind := .blockQuote, children := [header] }, header,
          { kind := .heading 1, children := [text, header, { kind := .emphasis, children := [header] }] },
          { kind := .paragraph, children := [image] }, header,
          { kind := .heading 2, children := [header] }, footnote, header] }
    document.Prunable ∧
      (document.pruned.serialize Sink.recording #[] {}).result =
        (document.serialize Sink.recording #[] {}).result ∧
      (document.serialize Sink.recording #[] {}).notices.toList.filter
        Notice.isFrontMatterIgnored =
        ["topic/title", "topic/title/i", "topic/body/lq", "topic/body/p/image/alt", "topic/body",
          "topic/body/section/title"].map (.frontMatterIgnored "a.md") := by
  intro header text image footnote document
  have prunable : document.Prunable := by
    refine ⟨?_, ?_, ?_⟩
    · unfold FrontMatterChildless
      decide +kernel
    · unfold DescriptionsStay
      decide +kernel
    · decide +kernel
  have passes := passesOverFrontMatter prunable Sink.recording #[] {}
  refine ⟨prunable, passes.result, (passes.notices Sink.silentOnFrontMatter_recording).trans ?_⟩
  decide +kernel

end Document

end TopicPress
