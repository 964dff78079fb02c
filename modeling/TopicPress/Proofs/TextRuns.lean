import TopicPress.Proofs.KeptNodes
import TopicPress.Proofs.Runs

/-!
# Texts are merged as far as they go

The conversion of a Markdown tree merges what it puts side by side, wherever it comes from: pieces of
text may be neighbours in the tree or become neighbours because a group between them gives way.  So no
two texts are left side by side.  What there is instead is told list by list.  The lists of siblings in
the document are those of the tree with groups expanded, and where a run of pieces stood there is one
text, which begins where the run began.

The first part needs no condition on the tree.  The second does: what stands below a piece of text is
given up when the piece is merged, so it makes no list of siblings that could be compared.
-/

namespace TopicPress

/-! ## Lists of siblings -/

/-- The top-level nodes, and the children of every node. -/
def Document.siblingLists (document : Document) : List (List Node) :=
  document.children :: (Node.preorderAll document.children).map Node.children

/-- The top-level nodes, and the children of every node but texts. -/
def Document.keptSiblingLists (document : Document) : List (List Node) :=
  document.children ::
    (Node.keptAt 0 document.children).map (fun placed => placed.node.children)

/-- No two neighbours are both texts. -/
def NoTextsTogether (siblings : List Node) : Prop :=
  siblings.IsChain (fun first second =>
    ¬ (first.kind.isText = true ∧ second.kind.isText = true))

/-- A text and where it begins. -/
structure Passage where
  text : String
  position : Option SourcePosition
  deriving DecidableEq

/-- The passage that a node is, if it is a text. -/
def Node.passage? (node : Node) : Option Passage :=
  match node.kind with
  | .text content => some ⟨content, node.position⟩
  | _ => none

theorem Node.passage?_of_not_isText {node : Node} (noText : node.kind.isText = false) :
    node.passage? = none := by
  rcases node with ⟨kind, position, children⟩
  cases kind with
  | text content => cases noText
  | _ => rfl

namespace Markdown

def Node.isPiece (node : Node) : Bool := node.kind.piece?.isSome

/-- The pieces of text among nodes. -/
def Node.pieces (nodes : List Node) : List String :=
  nodes.filterMap (fun node => node.kind.piece?)

theorem Node.pieces_cons {node : Node} {content : String}
    (isPiece : node.kind.piece? = some content) (rest : List Node) :
    Node.pieces (node :: rest) = content :: Node.pieces rest :=
  List.filterMap_cons_some isPiece

/-- The top-level nodes, and what every node holds that is kept, with what they group in place of
groups. -/
def Node.siblingLists (root : Node) : List (List Node) :=
  Node.expandAll [root] ::
    ((Node.placedAll 0 [root]).filter (fun placed => placed.node.kind.kept?.isSome)).map
      (fun placed => Node.expandAll placed.node.children)

/-- What stands for a run of siblings that are all pieces of text, or none of which is one: a passage
made of all the pieces, which begins where the first of them does, or nothing that is a passage for any
of them.  A line number of zero says that the place is not known. -/
def passages (run : List Node) : List (Option Passage) :=
  if run.all Node.isPiece then
    [some {
      text := String.join (Node.pieces run)
      position := run.head?.bind (fun first =>
        if first.position.line = 0 then none else some first.position) }]
  else run.map (fun _ => none)

/-! ## No two texts are neighbours -/

theorem exists_text_of_isText {node : TopicPress.Node} (text : node.kind.isText = true) :
    ∃ content position children, node = ⟨.text content, position, children⟩ := by
  rcases node with ⟨kind, position, children⟩
  cases kind with
  | text content => exact ⟨content, position, children, rfl⟩
  | _ => cases text

theorem consMerging_texts (first second : String) (position next : Option SourcePosition)
    (children below more : List TopicPress.Node) :
    consMerging ⟨.text first, position, children⟩ (⟨.text second, next, below⟩ :: more) =
      ⟨.text (first ++ second), position, children⟩ :: more := rfl

/-- Nodes of which one is no text are not merged. -/
theorem consMerging_of_not_both {node : TopicPress.Node} {nodes : List TopicPress.Node}
    (notBoth : ∀ next ∈ nodes.head?, ¬ (node.kind.isText = true ∧ next.kind.isText = true)) :
    consMerging node nodes = node :: nodes := by
  rcases consMerging_cases node nodes with
    apart | ⟨first, second, position, children, more, isText, rfl, merged⟩
  · exact apart
  · refine absurd ⟨?_, rfl⟩ (notBoth _ rfl)
    rw [isText]
    rfl

theorem noTextsTogether_consMerging (node : TopicPress.Node) {nodes : List TopicPress.Node}
    (apart : NoTextsTogether nodes) : NoTextsTogether (consMerging node nodes) := by
  by_cases both : ∀ next ∈ nodes.head?, ¬ (node.kind.isText = true ∧ next.kind.isText = true)
  · rw [consMerging_of_not_both both]
    exact List.isChain_cons.mpr ⟨both, apart⟩
  · simp only [not_forall, not_not] at both
    rcases both with ⟨next, isHead, text, nextText⟩
    rcases List.head?_eq_some_iff.mp isHead with ⟨more, rfl⟩
    rcases exists_text_of_isText text with ⟨first, position, children, rfl⟩
    rcases exists_text_of_isText nextText with ⟨second, nextPosition, below, rfl⟩
    rw [consMerging_texts]
    -- What followed the second text follows the merged one, and neither is followed by a text.
    rw [NoTextsTogether, List.isChain_cons] at apart ⊢
    exact apart

theorem noTextsTogether_convertAll (nodes : List Node) :
    NoTextsTogether (Node.convertAll nodes) := by
  induction nodes with
  | nil =>
      rw [Node.convertAll_nil]
      exact List.isChain_nil
  | cons node rest inductionHypothesis =>
      rw [Node.convertAll_cons]
      induction node.convert with
      | nil => exact inductionHypothesis
      | cons first others inOthers => exact noTextsTogether_consMerging first inOthers

theorem noTextsTogether_everywhere (nodes : List Node) :
    Everywhere (fun node => NoTextsTogether node.children) (Node.convertAll nodes) :=
  everywhere_convertAll (fun _ _ _ _ apart => apart) nodes
    (fun source _ _ _ => noTextsTogether_convertAll source.children)

/-! ## Runs of pieces -/

/-- A node that is neither a group nor a piece of text is kept beside the nodes after it. -/
theorem convertAll_cons_of_not_isPiece {node : Node} (single : node.kind.isGroup = false)
    (noPiece : node.isPiece = false) (rest : List Node) :
    ∃ found, found.kind.isText = false ∧
      Node.convertAll (node :: rest) = found :: Node.convertAll rest := by
  rcases Node.convert_of_not_group single with ⟨counterpart, isNode, converted⟩
  have noText : counterpart.isText = false := (Kind.isText_counterpart isNode).trans noPiece
  refine ⟨⟨counterpart, position? node.position, Node.convertAll node.children⟩, noText, ?_⟩
  rw [Node.convertAll_cons, converted, List.foldr_cons, List.foldr_nil]
  refine consMerging_of_not_both ?_
  rintro next _ ⟨text, _⟩
  rw [noText] at text
  cases text

/-- A piece of text becomes a text. -/
theorem convert_of_isPiece {node : Node} (piece : node.isPiece = true) :
    ∃ content, node.kind.piece? = some content ∧
      node.convert =
        [⟨.text content, position? node.position, Node.convertAll node.children⟩] := by
  rcases node with ⟨kind, position, children⟩
  cases kind with
  | text content =>
      refine ⟨content, rfl, ?_⟩
      rw [Node.convert]
      rfl
  | softBreak =>
      refine ⟨"\n", rfl, ?_⟩
      rw [Node.convert]
      rfl
  | _ => cases piece

/-- No text stands in front where no piece does. -/
theorem head?_convertAll_of_not_isPiece {nodes : List Node}
    (single : ∀ node ∈ nodes, node.kind.isGroup = false)
    (noPiece : ∀ node ∈ nodes.head?, node.isPiece = false) :
    ∀ next ∈ (Node.convertAll nodes).head?, next.kind.isText = false := by
  cases nodes with
  | nil => simp
  | cons node rest =>
      rcases convertAll_cons_of_not_isPiece (single node List.mem_cons_self) (noPiece node rfl) rest
        with ⟨found, noText, converted⟩
      rw [converted]
      simpa using noText

/-- A run of pieces becomes one text, which stands where the first of them stood. -/
theorem convertAll_pieces {first : Node} {others : List Node}
    (pieces : ∀ node ∈ first :: others, node.isPiece = true) {rest : List Node}
    (ends : ∀ next ∈ (Node.convertAll rest).head?, next.kind.isText = false) :
    Node.convertAll (first :: others ++ rest) =
      ⟨.text (String.join (Node.pieces (first :: others))), position? first.position,
        Node.convertAll first.children⟩ :: Node.convertAll rest := by
  induction others generalizing first with
  | nil =>
      rcases convert_of_isPiece (pieces first List.mem_cons_self) with
        ⟨content, isPiece, converted⟩
      rw [List.singleton_append, Node.convertAll_cons, converted, List.foldr_cons, List.foldr_nil,
        consMerging_of_not_both, Node.pieces_cons isPiece]
      · simp [Node.pieces]
      · rintro next isHead ⟨_, text⟩
        rw [ends next isHead] at text
        cases text
  | cons second more inductionHypothesis =>
      rcases convert_of_isPiece (pieces first List.mem_cons_self) with
        ⟨content, isPiece, converted⟩
      have later := inductionHypothesis
        (fun node member => pieces node (List.mem_cons_of_mem first member))
      rw [List.cons_append, Node.convertAll_cons, converted, List.foldr_cons, List.foldr_nil,
        later, consMerging_texts, Node.pieces_cons isPiece, String.join_cons]

/-- Nodes other than groups and pieces are kept one by one. -/
theorem map_passage?_convertAll_append {run : List Node}
    (single : ∀ node ∈ run, node.kind.isGroup = false)
    (noPieces : ∀ node ∈ run, node.isPiece = false) (rest : List Node) :
    (Node.convertAll (run ++ rest)).map TopicPress.Node.passage? =
      run.map (fun _ => none) ++ (Node.convertAll rest).map TopicPress.Node.passage? := by
  induction run with
  | nil => rfl
  | cons node others inductionHypothesis =>
      rw [List.forall_mem_cons] at single noPieces
      rcases convertAll_cons_of_not_isPiece single.1 noPieces.1 (others ++ rest) with
        ⟨found, noText, converted⟩
      rw [List.cons_append, converted, List.map_cons, inductionHypothesis single.2 noPieces.2,
        TopicPress.Node.passage?_of_not_isText noText]
      rfl

/-- The passages of siblings are those of their runs. -/
theorem map_passage?_convertAll (siblings : List Node) :
    (Node.convertAll siblings).map TopicPress.Node.passage? =
      (runs Node.isPiece (Node.expandAll siblings)).flatMap passages := by
  rw [← Node.convertAll_expandAll]
  have noGroups := Node.isGroup_of_mem_expandAll siblings
  revert noGroups
  induction Node.expandAll siblings using runInduction Node.isPiece with
  | nil =>
      intro _
      rw [Node.convertAll_nil]
      rfl
  | run answer run rest first inductionHypothesis =>
      intro noGroups
      rw [List.forall_mem_append] at noGroups
      rw [runs_append first, List.flatMap_cons, ← inductionHypothesis noGroups.2]
      cases answer with
      | true =>
          have ends := head?_convertAll_of_not_isPiece noGroups.2 first.ends
          rcases List.exists_cons_of_ne_nil first.notEmpty with ⟨piece, others, rfl⟩
          rw [convertAll_pieces first.alike ends, passages, first.all_eq]
          rfl
      | false =>
          rw [map_passage?_convertAll_append noGroups.1 first.alike, passages, first.all_eq,
            if_neg Bool.false_ne_true]

/-! ## Documents -/

/-- How a document has the texts of the tree that it is made of. -/
structure MergesTexts (root : Node) (document : Document) : Prop where
  /-- Nowhere are two texts neighbours. -/
  apart : ∀ siblings ∈ document.siblingLists, NoTextsTogether siblings
  /-- Nothing stands below a text. -/
  childless : PiecesChildless [root] → TextsChildless document.children
  /-- Each text is made of one maximal run of pieces, and there is one for each run. -/
  ofRuns : PiecesChildless [root] →
    document.keptSiblingLists.map (fun siblings => siblings.map TopicPress.Node.passage?) =
      root.siblingLists.map (fun siblings => (runs Node.isPiece siblings).flatMap passages)

/-- The document of any tree has the texts of the tree, merged as far as they go. -/
theorem toDocument_mergesTexts (root : Node) (name : Option String) :
    MergesTexts root (root.toDocument name) where
  apart := by
    rw [Document.siblingLists, root.children_toDocument name, List.forall_mem_cons,
      List.forall_mem_map]
    exact ⟨noTextsTogether_convertAll [root], noTextsTogether_everywhere [root]⟩
  childless := by
    intro childless
    rw [root.children_toDocument name]
    exact textsChildless_convertAll childless
  ofRuns := by
    intro childless
    rw [Document.keptSiblingLists, root.children_toDocument name,
      keptAt_convertAll [root] childless, Node.siblingLists, List.map_cons, List.map_cons,
      map_passage?_convertAll]
    congr 1
    induction Node.placedAll 0 [root] with
    | nil => rfl
    | cons placed rest inductionHypothesis =>
        cases kept : placed.node.kind.kept? with
        | none => simpa [keptNode?, kept] using inductionHypothesis
        | some found => simpa [keptNode?, kept, map_passage?_convertAll] using inductionHypothesis

/-- A soft break in a group between texts, an empty text before a code span, and an image with a title
and with texts in a group. -/
theorem mergesTexts_of_group :
    let code : Node := { kind := .code "x", position := ⟨1, 7⟩ }
    let image : Node :=
      { kind := .image "a.png" "b"
        children := [{ kind := .escaped, position := ⟨2, 3⟩, children := [
          { kind := .text "c", position := ⟨2, 3⟩ }, { kind := .text "d" }] }] }
    let paragraph : Node :=
      { kind := .paragraph
        children := [{ kind := .text "a", position := ⟨1, 1⟩ },
          { kind := .escaped, children := [{ kind := .softBreak }, { kind := .text "b" }] },
          { kind := .text "" }, code, image, { kind := .softBreak }] }
    let root : Node := { kind := .document, children := [paragraph] }
    PiecesChildless [root] ∧
      (root.toDocument none).keptSiblingLists.map (fun siblings =>
          siblings.map TopicPress.Node.passage?) =
        [[none], [some ⟨"a\nb", some ⟨1, 1⟩⟩, none, none, some ⟨"\n", none⟩], [],
          [some ⟨"cd", some ⟨2, 3⟩⟩]] := by
  intro code image paragraph root
  have childless : PiecesChildless [root] := by decide
  refine ⟨childless, ?_⟩
  rw [(toDocument_mergesTexts root none).ofRuns childless]
  decide

end Markdown

end TopicPress
