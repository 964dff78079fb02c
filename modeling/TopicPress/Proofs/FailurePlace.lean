import Mathlib.Data.List.Forall2
import TopicPress.Proofs.Reaching
import TopicPress.Proofs.Receiving

/-!
# Where a failure is reported

A document that cannot be rendered is refused because of one node, and the error says which and
where.  Which node that is can be read off the document: the order of the rendering is written down
here without paths and events, with nothing but the division of the topic that each node belongs to.
Where it stands can be read off the events: the path in the error names the elements that the events
delivered so far have left open.  Neither depends on the sink, as long as it refuses nothing.
-/

namespace TopicPress

open Dita (Element)

/-! ## The order of the rendering -/

mutual

/-- A node and what is looked at below it, parents before their children. -/
def Node.visited (node : Node) : List Node :=
  match node with
  | ⟨kind, position, children⟩ =>
    ⟨kind, position, children⟩ :: if kind.hidesChildren then [] else Node.visitedAll children

/-- Nodes and what is looked at below them, one node after the other. -/
def Node.visitedAll : List Node → List Node
  | [] => []
  | node :: rest => node.visited ++ Node.visitedAll rest

end

@[simp] theorem Node.visitedAll_nil : Node.visitedAll [] = [] := by
  rw [Node.visitedAll]

@[simp] theorem Node.visitedAll_cons (node : Node) (rest : List Node) :
    Node.visitedAll (node :: rest) = node.visited ++ Node.visitedAll rest := by
  rw [Node.visitedAll]

theorem Node.visited_eq (kind : NodeKind) (position : Option SourcePosition)
    (children : List Node) :
    (⟨kind, position, children⟩ : Node).visited =
      ⟨kind, position, children⟩ ::
        if kind.hidesChildren then [] else Node.visitedAll children := by
  rw [Node.visited]

/-- A node with the division of the topic that it belongs to. -/
structure Visit where
  division : List String
  node : Node

def Visit.isUnsupported (visit : Visit) : Bool := visit.node.kind.unsupported?.isSome

/-- The nodes of one division. -/
def visitsIn (division : List String) (nodes : List Node) : List Visit :=
  nodes.map (fun node => ⟨division, node⟩)

/-- What is looked at in a section: what is below its heading, and the nodes after the heading. -/
def sectionVisits (part : Node × List Node) : List Visit :=
  visitsIn ["topic", "body", "section", "title"] (Node.visitedAll part.1.children)
    ++ visitsIn ["topic", "body", "section"] (Node.visitedAll part.2)

/-- The nodes of a document in the order of the rendering: what is below the heading for the title, and
then the nodes for the body, a further heading standing for what is below it. -/
def Document.visits (document : Document) : List Visit :=
  visitsIn ["topic", "title"]
      (document.titleHeading?.elim [] (fun heading => Node.visitedAll heading.children))
    ++ visitsIn ["topic", "body"] (Node.visitedAll (divided document.remaining).1)
    ++ (divided document.remaining).2.flatMap sectionVisits

/-! ## Visits and what is reached -/

/-- The visit of a node that is reached within its division. -/
structure Visit.Finds (visit : Visit) (place : Reached) : Prop where
  same : visit.node = place.node
  inside : visit.division <+: place.path

/-- Visits find places, one by one. -/
def VisitsFind : List Visit → List Reached → Prop := List.Forall₂ Visit.Finds

theorem visitsFind_nil : VisitsFind [] [] := .nil

theorem VisitsFind.append {early late : List Visit} {earlyPlaces latePlaces : List Reached}
    (first : VisitsFind early earlyPlaces) (second : VisitsFind late latePlaces) :
    VisitsFind (early ++ late) (earlyPlaces ++ latePlaces) :=
  List.rel_append first second

/-- The first visit without a counterpart finds the first place without one. -/
theorem VisitsFind.first {visits : List Visit} {places : List Reached}
    (found : VisitsFind visits places) :
    (visits.find? Visit.isUnsupported = none ∧ places.find? Reached.isUnsupported = none) ∨
      ∃ visit place, visits.find? Visit.isUnsupported = some visit ∧
        places.find? Reached.isUnsupported = some place ∧ visit.Finds place := by
  induction found with
  | nil => exact Or.inl ⟨rfl, rfl⟩
  | @cons visit place later laterPlaces finds _ inductionHypothesis =>
      have same : visit.isUnsupported = place.isUnsupported := by
        rw [Visit.isUnsupported, Reached.isUnsupported, finds.same]
      rw [List.find?_cons, List.find?_cons, same]
      cases place.isUnsupported with
      | true => exact Or.inr ⟨visit, place, rfl, rfl, finds⟩
      | false => exact inductionHypothesis

/-- Nodes are visited as they are reached, below every path within the division. -/
theorem Node.visitsFind_reachedAll {division : List String} (nodes : List Node) :
    ∀ path, division <+: path →
      VisitsFind (visitsIn division (Node.visitedAll nodes)) (Node.reachedAll path nodes) := by
  induction nodes using Node.forestInduction with
  | nil =>
      intro path inside
      rw [Node.visitedAll_nil, Node.reachedAll_nil]
      exact visitsFind_nil
  | cons kind position children rest inChildren inRest =>
      intro path inside
      rw [Node.visitedAll_cons, Node.visited_eq, Node.reachedAll_cons, Node.reached_eq, visitsIn,
        List.map_append, List.map_cons]
      refine .append (.cons ⟨rfl, inside⟩ ?_) (inRest path inside)
      cases kind.hidesChildren with
      | true => exact visitsFind_nil
      | false => exact inChildren _ (inside.trans (List.prefix_append _ _))

theorem Node.visitsFind_reached {division path : List String} (inside : division <+: path)
    (node : Node) : VisitsFind (visitsIn division node.visited) (node.reached path) := by
  have alone := Node.visitsFind_reachedAll [node] path inside
  rwa [Node.visitedAll_cons, Node.visitedAll_nil, List.append_nil, Node.reachedAll_cons,
    Node.reachedAll_nil, List.append_nil] at alone

/-- The blocks from some point on are visited as they are reached, whether a section is open there or
not. -/
theorem visitsFind_blocks (nodes : List Node) :
    ∀ inSection, VisitsFind
      (visitsIn (if inSection then ["topic", "body", "section"] else ["topic", "body"])
          (Node.visitedAll (divided nodes).1)
        ++ (divided nodes).2.flatMap sectionVisits)
      (blocksReached [Element.topic.name, Element.body.name] inSection nodes) := by
  induction nodes with
  | nil =>
      intro inSection
      exact visitsFind_nil
  | cons node rest inductionHypothesis =>
      intro inSection
      rw [blocksReached]
      cases heading : node.kind.isHeading with
      | true =>
          have title := Node.visitsFind_reachedAll node.children
            ["topic", "body", "section", "title"] (List.prefix_refl _)
          rw [divided_heading rest heading, List.flatMap_cons, sectionVisits, List.append_assoc]
          exact title.append (inductionHypothesis true)
      | false =>
          have block := Node.visitsFind_reached (List.prefix_refl
            (if inSection then ["topic", "body", "section"] else ["topic", "body"])) node
          rw [divided_block rest heading, Node.visitedAll_cons, visitsIn, List.map_append,
            List.append_assoc]
          refine .append ?_ (inductionHypothesis inSection)
          cases inSection <;> exact block

theorem Document.visitsFind_reached (document : Document) :
    VisitsFind document.visits document.reached := by
  rw [visits, reached, List.append_assoc]
  refine .append ?_ (visitsFind_blocks document.remaining false)
  cases document.titleHeading? with
  | some heading => exact Node.visitsFind_reachedAll heading.children _ (List.prefix_refl _)
  | none => exact visitsFind_nil

/-! ## Sinks that refuse nothing -/

/-- A sink that refuses nothing accepts all events. -/
theorem Sink.exists_feed_eq_of_accepts {State Refusal : Type} {sink : Sink State Refusal}
    (accepts : ∀ state event, (sink.receive state event).refusal = none) (events : List Event) :
    ∀ state, ∃ final, sink.feed state events = (final, none) := by
  induction events with
  | nil =>
      intro state
      exact ⟨state, rfl⟩
  | cons event rest inductionHypothesis =>
      intro state
      rw [Sink.feed_cons_of_accepted (accepts state event)]
      exact inductionHypothesis _

namespace Document

/-- With a sink that refuses nothing, a document is rendered unless a node without a counterpart is
visited.  If one is, the error describes the first of them: by its name, its position, the document
and the elements that the events given to the sink have left open, which begin with the division of
the topic that the node belongs to. -/
theorem serialize_fails_at_first_unsupported {State Refusal : Type} {sink : Sink State Refusal}
    (accepts : ∀ state event, (sink.receive state event).refusal = none) (state : State)
    (options : RenderOptions) (document : Document) :
    let run := document.serialize sink.traced (state, #[]) options
    let openElements := openNames [] run.state.2.toList
    (document.serialize sink state options).result = run.result ∧
      (run.result = .ok () ↔ ∀ visit ∈ document.visits, visit.isUnsupported = false) ∧
      ∀ visit, document.visits.find? Visit.isUnsupported = some visit →
        run.result = .error (.unmapped {
          document := document.displayName
          node := visit.node.kind.name
          position := visit.node.position
          path := "/".intercalate openElements }) ∧
        visit.division <+: openElements := by
  intro run openElements
  have follows := document.render_follows options
  rcases Sink.exists_feed_eq_of_accepts accepts (document.render options).events state with
    ⟨final, fed⟩
  have traced := Sink.feed_traced_of_accepted fed #[]
  have played : run = sink.traced.play (state, #[]) (document.render options) :=
    serialize_eq_play _ _ _ _
  have accepted : (sink.traced.feed (state, #[]) (document.render options).events).2 = none := by
    rw [traced]
  have result := Sink.play_result_of_accepted accepted
  have trace : run.state.2.toList = (document.render options).events := by
    rw [played, Sink.play_state, traced]
    simp
  have noneUnsupported : document.visits.find? Visit.isUnsupported = none ↔
      ∀ visit ∈ document.visits, visit.isUnsupported = false := by
    simp only [List.find?_eq_none, Bool.not_eq_true]
  refine ⟨((document.deliveredAsRecorded sink state options).traced).2, ?_⟩
  rw [← noneUnsupported]
  rw [← played, follows.failure] at result
  rcases document.visitsFind_reached.first with
    ⟨noVisit, noPlace⟩ | ⟨visit, place, firstVisit, firstPlace, finds⟩
  · rw [noPlace] at result
    rw [noVisit]
    refine ⟨iff_of_true result rfl, ?_⟩
    intro visit found
    cases found
  · have left : openElements = place.path := by
      rw [show openElements = openNames [] run.state.2.toList from rfl, trace, follows.openNames,
        firstPlace]
      rfl
    rw [firstPlace] at result
    rw [firstVisit, left]
    refine ⟨iff_of_false ?_ (Option.some_ne_none visit), ?_⟩
    · intro succeeded
      rw [result] at succeeded
      cases succeeded
    · intro found same
      rw [← Option.some.inj same, finds.same]
      exact ⟨result, finds.inside⟩

/-- A line break shows nothing of its children, and the image stands in the title of a section. -/
theorem serialize_fails_below_further_heading :
    let footnote : Node := { kind := .unsupported "footnote_reference", position := some ⟨4, 9⟩ }
    let document : Document :=
      { name := some "a.md"
        children := [{ kind := .lineBreak, children := [footnote] }, { kind := .heading 1 },
          { kind := .heading 2, children := [{ kind := .image "i.png" "", children := [footnote] }] }] }
    (∀ kept event, (Sink.recording.receive kept event).refusal = none) ∧
      document.visits.find? Visit.isUnsupported =
        some ⟨["topic", "body", "section", "title"], footnote⟩ ∧
      (document.serialize Sink.recording #[] {}).result = .error (.unmapped {
        document := "a.md"
        node := "footnote_reference"
        position := some ⟨4, 9⟩
        path := "topic/body/section/title/image/alt" }) := by
  intro footnote document
  have accepts : ∀ kept event, (Sink.recording.receive kept event).refusal = none :=
    fun _ _ => rfl
  have first : document.visits.find? Visit.isUnsupported =
      some ⟨["topic", "body", "section", "title"], footnote⟩ := rfl
  rcases serialize_fails_at_first_unsupported accepts #[] {} document with ⟨same, _, fails⟩
  have left : openNames [] (document.serialize Sink.recording.traced (#[], #[]) {}).state.2.toList =
      ["topic", "body", "section", "title", "image", "alt"] := by
    decide +kernel
  have described := (fails _ first).1
  rw [left] at described
  exact ⟨accepts, first, same.trans described⟩

end Document

end TopicPress
