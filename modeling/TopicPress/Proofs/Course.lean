import TopicPress.Proofs.Reaching

/-!
# The course of a rendering

The events of a rendering do not tell which nodes it comes to between them, and the nodes that it
comes to do not tell of the events.  The course of a document has both in one list, in the order of
the rendering and without a failure.  A rendering goes along the course of its document up to the
first node without a counterpart, and the notices about front matter that it leaves on the way are
those that the front matter on the course calls for.
-/

namespace TopicPress

open Dita (Element)

/-! ## Courses -/

/-- What is passed on the way: an event that is delivered or a node that is come to. -/
inductive Waypoint where
  | event (event : Event)
  | place (place : Reached)

def Waypoint.place? : Waypoint → Option Reached
  | .event _ => none
  | .place reached => some reached

/-- An element around a course. -/
def elementCourse (element : Element) (attributes : List Attribute) (content : List Waypoint) :
    List Waypoint :=
  .event (.start element attributes) :: (content ++ [.event .endElement])

def charactersCourse (text : String) : List Waypoint := [.event (.characters text)]

/-- The course through a node by its rule, where `content` is the one through its children. -/
def RenderRule.course (rule : RenderRule) (childless : Bool) (content : List Waypoint) :
    List Waypoint :=
  match rule with
  | .element container attributes literal =>
    elementCourse container attributes (literal.toList.flatMap charactersCourse ++ content)
  | .emptyElement container attributes => elementCourse container attributes []
  | .image href title =>
    let description :=
      if !childless then elementCourse .alternative [] content
      else if title.isEmpty then [] else elementCourse .alternative [] (charactersCourse title)
    elementCourse .image [⟨"href", href⟩] description
  | .characters text => charactersCourse text
  | .ignored => []
  -- What is below a node without a counterpart is on the course, but no rendering gets there.
  | .unmapped => content

mutual

/-- The course through a node below the elements of `path`. -/
def Node.course (path : List String) (node : Node) : List Waypoint :=
  match node with
  | ⟨kind, position, children⟩ =>
    .place ⟨path, kind, position, children⟩ ::
      kind.rule.course children.isEmpty (Node.courseAll (path ++ kind.rule.enclosing) children)

/-- The course through nodes, one after the other. -/
def Node.courseAll (path : List String) : List Node → List Waypoint
  | [] => []
  | node :: rest => node.course path ++ Node.courseAll path rest

end

@[simp] theorem Node.courseAll_nil (path : List String) : Node.courseAll path [] = [] := by
  rw [Node.courseAll]

@[simp] theorem Node.courseAll_cons (path : List String) (node : Node) (rest : List Node) :
    Node.courseAll path (node :: rest) = node.course path ++ Node.courseAll path rest := by
  rw [Node.courseAll]

theorem Node.course_eq (path : List String) (kind : NodeKind) (position : Option SourcePosition)
    (children : List Node) :
    (⟨kind, position, children⟩ : Node).course path =
      .place ⟨path, kind, position, children⟩ ::
        kind.rule.course children.isEmpty
          (Node.courseAll (path ++ kind.rule.enclosing) children) := by
  rw [Node.course]

/-- The course through a heading that is made a title. -/
def titleCourse (path : List String) (heading : Node) : List Waypoint :=
  elementCourse .title (titleAttributes heading.kind)
    (Node.courseAll (path ++ [Element.title.name]) heading.children)

/-- The course through the blocks of the body from some point on. -/
def blocksCourse (path : List String) (inSection : Bool) : List Node → List Waypoint
  | [] => if inSection then [.event .endElement] else []
  | node :: rest =>
    if node.kind.isHeading then
      (if inSection then [.event .endElement] else []) ++ [.event (.start .section_ [])]
        ++ titleCourse (path ++ [Element.section_.name]) node ++ blocksCourse path true rest
    else
      node.course (if inSection then path ++ [Element.section_.name] else path)
        ++ blocksCourse path inSection rest

theorem blocksCourse_heading {node : Node} (heading : node.kind.isHeading = true)
    (path : List String) (inSection : Bool) (rest : List Node) :
    blocksCourse path inSection (node :: rest) =
      (if inSection then [.event .endElement] else []) ++ [.event (.start .section_ [])]
        ++ titleCourse (path ++ [Element.section_.name]) node ++ blocksCourse path true rest := by
  rw [blocksCourse, if_pos heading]

theorem blocksCourse_block {node : Node} (block : node.kind.isHeading = false)
    (path : List String) (inSection : Bool) (rest : List Node) :
    blocksCourse path inSection (node :: rest) =
      node.course (if inSection then path ++ [Element.section_.name] else path)
        ++ blocksCourse path inSection rest := by
  rw [blocksCourse, block, if_neg Bool.false_ne_true]

namespace Document

def topicTitleCourse (document : Document) (path : List String) : List Waypoint :=
  match document.titleHeading? with
  | some heading => titleCourse path heading
  | none => elementCourse .title [] []

def prologCourse (options : RenderOptions) (document : Document) : List Waypoint :=
  match document.header? with
  | some header => elementCourse .prolog [] ((Prolog.events options header).map .event)
  | none => []

def bodyCourse (document : Document) (path : List String) : List Waypoint :=
  if document.remaining.isEmpty then []
  else
    elementCourse .body [] (blocksCourse (path ++ [Element.body.name]) false document.remaining)

/-- The course through a document: its title, its prolog and its body, and the end behind them. -/
def course (options : RenderOptions) (document : Document) : List Waypoint :=
  let inner := [Element.topic.name]
  elementCourse .topic (document.topicAttributes options)
      (document.topicTitleCourse inner ++ document.prologCourse options ++ document.bodyCourse inner)
    ++ [.event .endDocument]

end Document

/-! ## The nodes on a course -/

/-- The nodes on a course, in their order. -/
def places (course : List Waypoint) : List Reached := course.filterMap Waypoint.place?

@[simp] theorem places_nil : places [] = [] := rfl

@[simp] theorem places_append (first second : List Waypoint) :
    places (first ++ second) = places first ++ places second :=
  List.filterMap_append

@[simp] theorem places_cons_event (event : Event) (rest : List Waypoint) :
    places (.event event :: rest) = places rest := rfl

@[simp] theorem places_cons_place (place : Reached) (rest : List Waypoint) :
    places (.place place :: rest) = place :: places rest := rfl

@[simp] theorem places_elementCourse (element : Element) (attributes : List Attribute)
    (content : List Waypoint) : places (elementCourse element attributes content) = places content := by
  simp [elementCourse]

@[simp] theorem places_events (events : List Event) : places (events.map .event) = [] := by
  induction events with
  | nil => rfl
  | cons event rest inductionHypothesis => exact inductionHypothesis

/-- A rule that has a place for the children keeps the nodes on the course through them. -/
theorem RenderRule.places_course (rule : RenderRule) {childless : Bool} {content : List Waypoint}
    (empty : childless = true → content = []) :
    places (rule.course childless content) =
      match rule with
      | .element _ _ _ | .image _ _ | .unmapped => places content
      | .emptyElement _ _ | .characters _ | .ignored => [] := by
  cases rule with
  | element container attributes literal => cases literal <;> simp [course, charactersCourse]
  | image href title =>
      cases childless with
      | true =>
          rw [empty rfl]
          cases shown : title.isEmpty <;> simp [course, charactersCourse, shown]
      | false => simp [course]
  | _ => simp [course, charactersCourse]

/-- The nodes on the course are those that a rendering reaches if nothing ends it. -/
theorem Node.places_courseAll (nodes : List Node) :
    ∀ path, places (Node.courseAll path nodes) = Node.reachedAll path nodes := by
  induction nodes using Node.forestInduction with
  | nil =>
      intro path
      rw [Node.courseAll_nil, Node.reachedAll_nil, places_nil]
  | cons kind position children rest inChildren inRest =>
      intro path
      have empty : children.isEmpty = true →
          Node.courseAll (path ++ kind.rule.enclosing) children = [] := by
        intro childless
        rw [List.isEmpty_iff.mp childless, Node.courseAll_nil]
      rw [Node.courseAll_cons, Node.course_eq, Node.reachedAll_cons, Node.reached_eq, places_append,
        places_cons_place, RenderRule.places_course _ empty, inChildren, inRest,
        NodeKind.hidesChildren_eq]
      cases kind.rule <;> rfl

theorem Node.places_course (path : List String) (node : Node) :
    places (node.course path) = node.reached path := by
  have alone := Node.places_courseAll [node] path
  rwa [Node.courseAll_cons, Node.courseAll_nil, List.append_nil, Node.reachedAll_cons,
    Node.reachedAll_nil, List.append_nil] at alone

theorem places_titleCourse (path : List String) (heading : Node) :
    places (titleCourse path heading) =
      Node.reachedAll (path ++ [Element.title.name]) heading.children := by
  rw [titleCourse, places_elementCourse, Node.places_courseAll]

theorem places_blocksCourse (path : List String) (nodes : List Node) :
    ∀ inSection, places (blocksCourse path inSection nodes) = blocksReached path inSection nodes := by
  induction nodes with
  | nil =>
      intro inSection
      cases inSection <;> rfl
  | cons node rest inductionHypothesis =>
      intro inSection
      rw [blocksCourse, blocksReached]
      cases node.kind.isHeading with
      | true =>
          have ended : places (if inSection then [.event .endElement] else []) = [] := by
            cases inSection <;> rfl
          simp [places_titleCourse, ended, inductionHypothesis]
      | false => simp [Node.places_course, inductionHypothesis]

/-- The nodes on the course of a document. -/
theorem Document.places_course (options : RenderOptions) (document : Document) :
    places (document.course options) = document.reached := by
  have title : places (document.topicTitleCourse [Element.topic.name]) =
      match document.titleHeading? with
      | some heading => Node.reachedAll [Element.topic.name, Element.title.name] heading.children
      | none => [] := by
    rw [topicTitleCourse]
    cases document.titleHeading? with
    | some heading => exact places_titleCourse _ heading
    | none => rfl
  have prolog : places (document.prologCourse options) = [] := by
    rw [prologCourse]
    cases document.header? <;> simp
  have body : places (document.bodyCourse [Element.topic.name]) =
      blocksReached [Element.topic.name, Element.body.name] false document.remaining := by
    rw [bodyCourse]
    cases document.remaining with
    | nil => rfl
    | cons block rest => exact (places_elementCourse _ _ _).trans (places_blocksCourse _ _ false)
  rw [course, reached, places_append, places_elementCourse, places_append, places_append, title,
    prolog, body, List.append_nil]
  exact List.append_nil _

/-! ## Renderings along a course -/

/-- Front matter that no prolog is made of. -/
def Reached.isFrontMatter (place : Reached) : Bool := place.node.kind.frontMatter?.isSome

/-- The notice that front matter calls for where it is come to. -/
def Reached.ignoredNotice (document : String) (place : Reached) : Notice :=
  .frontMatterIgnored document (pathText place.path)

def Notice.isFrontMatterIgnored : Notice → Bool
  | frontMatterIgnored _ _ => true
  | _ => false

/-- An event, or the notice that front matter is ignored. -/
def Step.isMarked : Step → Bool
  | deliver _ => true
  | note notice => notice.isFrontMatterIgnored

namespace Rendering

/-- The second of two renderings may itself be made of two. -/
theorem andThen_assoc (first second third : Rendering) :
    (first.andThen second).andThen third = first.andThen (second.andThen third) := by
  cases reached : first.failure with
  | some context => rw [andThen_of_failure reached, andThen_of_failure reached,
      andThen_of_failure reached]
  | none =>
      cases later : second.failure with
      | some context => simp only [andThen, reached, later]
      | none => simp only [andThen, reached, later, List.append_assoc]

/-- A rendering without the notices about anything but ignored front matter. -/
def trimmed (rendering : Rendering) : Rendering :=
  { rendering with steps := rendering.steps.filter Step.isMarked }

@[simp] theorem failure_trimmed (rendering : Rendering) :
    rendering.trimmed.failure = rendering.failure := rfl

@[simp] theorem events_trimmed (rendering : Rendering) :
    rendering.trimmed.events = rendering.events := by
  rw [events, events, trimmed, List.filterMap_filter]
  congr 1
  funext step
  cases step with
  | deliver event => rfl
  | note notice =>
      simp only [Step.event?]
      split <;> rfl

theorem trimmed_andThen (first second : Rendering) :
    (first.andThen second).trimmed = first.trimmed.andThen second.trimmed := by
  cases reached : first.failure with
  | some context =>
      have trimmedToo : first.trimmed.failure = some context := reached
      rw [andThen_of_failure reached, andThen_of_failure trimmedToo]
  | none => simp only [andThen, trimmed, reached, List.filter_append]

end Rendering

/-- What is rendered where something is passed: an event, or a notice, or a failure, or nothing. -/
def Waypoint.rendering (document : String) : Waypoint → Rendering
  | .event delivered => .deliver delivered
  | .place reached =>
    if reached.isFrontMatter then .note (reached.ignoredNotice document)
    else if reached.isUnsupported then .fail (reached.context document)
    else .nothing

namespace Rendering

/-- The rendering of what is passed on a course, up to the first failure. -/
def along (document : String) (course : List Waypoint) : Rendering :=
  .sequence (course.map (Waypoint.rendering document))

variable {document : String}

@[simp] theorem along_cons (waypoint : Waypoint) (rest : List Waypoint) :
    along document (waypoint :: rest) =
      (waypoint.rendering document).andThen (along document rest) := rfl

theorem along_append (first second : List Waypoint) :
    along document (first ++ second) = (along document first).andThen (along document second) := by
  induction first with
  | nil => rfl
  | cons waypoint rest inductionHypothesis =>
      rw [List.cons_append, along_cons, inductionHypothesis, along_cons, andThen_assoc]

/-- A rendering goes along a course, but for notices about anything but front matter. -/
def GoesAlong (document : String) (course : List Waypoint) (rendering : Rendering) : Prop :=
  rendering.trimmed = along document course

theorem GoesAlong.andThen {early late : List Waypoint} {first second : Rendering}
    (firstGoes : first.GoesAlong document early) (secondGoes : second.GoesAlong document late) :
    (first.andThen second).GoesAlong document (early ++ late) := by
  rw [GoesAlong, trimmed_andThen, firstGoes, secondGoes, along_append]

theorem goesAlong_nothing : nothing.GoesAlong document [] := rfl

theorem goesAlong_note (notice : Notice) (other : notice.isFrontMatterIgnored = false) :
    (note notice).GoesAlong document [] := by
  rw [GoesAlong, note, trimmed, List.filter_cons_of_neg (by simp [Step.isMarked, other])]
  rfl

theorem goesAlong_deliver (event : Event) :
    (deliver event).GoesAlong document [.event event] := rfl

theorem goesAlong_characters (text : String) :
    (characters text).GoesAlong document (charactersCourse text) := rfl

theorem goesAlong_literal (text : Option String) :
    (literal text).GoesAlong document (text.toList.flatMap charactersCourse) := by
  cases text with
  | none => rfl
  | some content => rfl

theorem goesAlong_start (path : List String) (element : Element) (attributes : List Attribute) :
    (start path element attributes).GoesAlong document [.event (.start element attributes)] := rfl

theorem goesAlong_finish : finish.GoesAlong document [.event .endElement] := rfl

theorem goesAlong_ofEvents (events : List Event) :
    (ofEvents events).GoesAlong document (events.map .event) := by
  induction events with
  | nil => rfl
  | cons event rest inductionHypothesis =>
      exact (goesAlong_deliver event).andThen inductionHypothesis

theorem goesAlong_ofNotices {notices : List Notice}
    (other : ∀ notice ∈ notices, notice.isFrontMatterIgnored = false) :
    (ofNotices notices).GoesAlong document [] := by
  induction notices with
  | nil => rfl
  | cons notice rest inductionHypothesis =>
      rcases List.forall_mem_cons.mp other with ⟨first, later⟩
      exact (goesAlong_note notice first).andThen (inductionHypothesis later)

theorem GoesAlong.element {course : List Waypoint} {content : Rendering}
    (contentGoes : content.GoesAlong document course) (path : List String) (element : Element)
    (attributes : List Attribute) :
    (Rendering.element path element attributes content).GoesAlong document
      (elementCourse element attributes course) :=
  ((goesAlong_start path element attributes).andThen contentGoes).andThen goesAlong_finish

/-- Nothing is rendered for a node with a counterpart where the node is come to. -/
theorem GoesAlong.pass {course : List Waypoint} {rendering : Rendering} {place : Reached}
    (other : place.isFrontMatter = false) (supported : place.isUnsupported = false)
    (goes : rendering.GoesAlong document course) :
    rendering.GoesAlong document (.place place :: course) := by
  rw [GoesAlong, along_cons, Waypoint.rendering, other, supported]
  exact goes

end Rendering

open Rendering (goesAlong_nothing goesAlong_note goesAlong_deliver goesAlong_characters
  goesAlong_literal goesAlong_start goesAlong_finish goesAlong_ofEvents goesAlong_ofNotices)

theorem NodeKind.isSome_frontMatter?_eq (kind : NodeKind) :
    kind.frontMatter?.isSome = match kind.rule with
      | .ignored => true
      | _ => false := by
  cases kind with
  | list ordered start => cases ordered <;> rfl
  | tableRow header => cases header <;> rfl
  | _ => rfl

theorem Reached.isUnsupported_of_isFrontMatter {place : Reached}
    (frontMatter : place.isFrontMatter = true) : place.isUnsupported = false := by
  rw [isFrontMatter, NodeKind.isSome_frontMatter?_eq] at frontMatter
  rw [isUnsupported, NodeKind.isSome_unsupported?_eq]
  split at frontMatter
  · rename_i ignored
    rw [ignored]
  · cases frontMatter

/-! ## Documents go along their courses -/

private theorem Node.render_goesAlong_of_children {document : String} {children : List Node}
    (inChildren : ∀ path, (Node.renderAll document path children).GoesAlong document
      (Node.courseAll path children))
    (path : List String) (kind : NodeKind) (position : Option SourcePosition) :
    ((⟨kind, position, children⟩ : Node).render document path).GoesAlong document
      ((⟨kind, position, children⟩ : Node).course path) := by
  have frontMatter : Reached.isFrontMatter ⟨path, kind, position, children⟩ = _ :=
    kind.isSome_frontMatter?_eq
  have unsupported : Reached.isUnsupported ⟨path, kind, position, children⟩ = _ :=
    kind.isSome_unsupported?_eq
  rw [Node.render, Node.course_eq]
  cases rule : kind.rule with
  | element container attributes literal =>
      rw [rule] at frontMatter unsupported
      have content := (goesAlong_literal literal).andThen (inChildren (path ++ [container.name]))
      exact (content.element path container attributes).pass frontMatter unsupported
  | emptyElement container attributes =>
      rw [rule] at frontMatter unsupported
      exact (goesAlong_nothing.element path container attributes).pass frontMatter unsupported
  | image href title =>
      rw [rule] at frontMatter unsupported
      refine .pass frontMatter unsupported (.element ?_ _ _ _)
      cases children with
      | cons first rest =>
          have enclosed : path ++ (RenderRule.image href title).enclosing =
              path ++ [Element.image.name] ++ [Element.alternative.name] :=
            (List.append_assoc path [Element.image.name] [Element.alternative.name]).symm
          rw [enclosed]
          exact (inChildren _).element _ .alternative []
      | nil =>
          cases title.isEmpty with
          | true => exact goesAlong_nothing
          | false => exact (goesAlong_characters title).element _ .alternative []
  | characters text =>
      rw [rule] at frontMatter unsupported
      exact (goesAlong_characters text).pass frontMatter unsupported
  | ignored =>
      rw [rule] at frontMatter
      rw [Rendering.GoesAlong, Rendering.along_cons, Waypoint.rendering, frontMatter]
      rfl
  | unmapped =>
      rw [rule] at frontMatter unsupported
      rw [Rendering.GoesAlong, Rendering.along_cons, Waypoint.rendering, frontMatter, unsupported]
      rfl

theorem Node.renderAll_goesAlong (document : String) (nodes : List Node) :
    ∀ path, (Node.renderAll document path nodes).GoesAlong document (Node.courseAll path nodes) := by
  induction nodes using Node.forestInduction with
  | nil =>
      intro path
      rw [Node.renderAll, Node.courseAll_nil]
      exact goesAlong_nothing
  | cons kind position children rest inChildren inRest =>
      intro path
      rw [Node.renderAll, Node.courseAll_cons]
      exact (Node.render_goesAlong_of_children inChildren path kind position).andThen (inRest path)

theorem Node.render_goesAlong (document : String) (path : List String) (node : Node) :
    (node.render document path).GoesAlong document (node.course path) := by
  cases node with
  | mk kind position children =>
      exact Node.render_goesAlong_of_children (Node.renderAll_goesAlong document children) path kind
        position

theorem renderTitle_goesAlong (document : String) (path : List String) (heading : Node) :
    (renderTitle document path heading).GoesAlong document (titleCourse path heading) :=
  (Node.renderAll_goesAlong document heading.children _).element _ _ _

theorem renderBlocks_goesAlong (document : String) (path : List String) (nodes : List Node) :
    ∀ inSection, (renderBlocks document path inSection nodes).GoesAlong document
      (blocksCourse path inSection nodes) := by
  have closing : ∀ inSection : Bool,
      (if inSection then .finish else .nothing : Rendering).GoesAlong document
        (if inSection then [.event .endElement] else []) := by
    intro inSection
    cases inSection with
    | true => exact goesAlong_finish
    | false => exact goesAlong_nothing
  induction nodes with
  | nil => exact closing
  | cons node rest inductionHypothesis =>
      intro inSection
      rw [renderBlocks, blocksCourse]
      cases node.kind.isHeading with
      | true =>
          have opening := (closing inSection).andThen (goesAlong_start path .section_ [])
          exact (opening.andThen (renderTitle_goesAlong document _ node)).andThen
            (inductionHypothesis true)
      | false => exact (Node.render_goesAlong document _ node).andThen (inductionHypothesis inSection)

theorem renderProlog_goesAlong {document : String} (options : RenderOptions) (path : List String)
    (header : FrontMatter) :
    (renderProlog options path header).GoesAlong document
      (elementCourse .prolog [] ((Prolog.events options header).map .event)) := by
  have demoted : ∀ notice ∈ Prolog.notices options header, notice.isFrontMatterIgnored = false := by
    intro notice member
    rcases List.mem_map.mp member with ⟨entry, _, rfl⟩
    rfl
  refine (goesAlong_note _ rfl).andThen (.element ?_ path .prolog [])
  exact (goesAlong_ofNotices demoted).andThen (goesAlong_ofEvents (Prolog.events options header))

namespace Document

theorem renderTopicTitle_goesAlong (document : Document) (path : List String) :
    (document.renderTopicTitle path).GoesAlong document.displayName
      (document.topicTitleCourse path) := by
  rw [renderTopicTitle, topicTitleCourse, titleHeading?_eq]
  cases document.firstHeading? with
  | some heading => exact renderTitle_goesAlong document.displayName path heading
  | none => exact (goesAlong_note _ rfl).andThen (goesAlong_nothing.element path .title [])

theorem renderTopicProlog_goesAlong (options : RenderOptions) (document : Document)
    (path : List String) :
    (document.renderTopicProlog options path).GoesAlong document.displayName
      (document.prologCourse options) := by
  rw [renderTopicProlog, prologCourse, header?_eq]
  cases document.frontMatter? with
  | some header => exact renderProlog_goesAlong options path header
  | none => exact goesAlong_nothing

theorem renderTopicBody_goesAlong (document : Document) (path : List String) :
    (document.renderTopicBody path).GoesAlong document.displayName (document.bodyCourse path) := by
  rw [renderTopicBody, bodyCourse, remaining_eq]
  cases document.bodyBlocks with
  | nil => exact goesAlong_nothing
  | cons block rest => exact (renderBlocks_goesAlong _ _ _ false).element _ .body []

/-- A document is rendered along its course. -/
theorem render_goesAlong (options : RenderOptions) (document : Document) :
    (document.render options).GoesAlong document.displayName (document.course options) := by
  have content := (document.renderTopicTitle_goesAlong [Element.topic.name]).andThen
    ((document.renderTopicProlog_goesAlong options [Element.topic.name]).andThen
      ((document.renderTopicBody_goesAlong [Element.topic.name]).andThen goesAlong_nothing))
  have topic := content.element [] .topic (document.topicAttributes options)
  have whole :=
    (goesAlong_note (.renderingStarted document.displayName document.children.length) rfl).andThen
      (topic.andThen ((goesAlong_deliver .endDocument).andThen
        ((goesAlong_note (.renderingFinished document.displayName) rfl).andThen goesAlong_nothing)))
  simp only [List.nil_append, List.append_nil, ← List.append_assoc] at whole
  exact whole

end Document

end TopicPress
