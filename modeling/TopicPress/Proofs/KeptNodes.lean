import TopicPress.Proofs.Merging
import TopicPress.Proofs.TopLevel

/-!
# No node is lost

Converting a Markdown tree takes two kinds of nodes away: groups, which give way to what they group,
and pieces of text, of which several may become one.  All other nodes are kept, each as one node, in
the same order and below each other as before, where groups do not count as levels.  Both trees are
written down as a list of their nodes with the depth of each one, and the lists are the same but for
what each kind of node is kept as.

That holds of trees in which pieces of text have nothing below them.  A text that is merged into the one
before it is given up with all that it has.
-/

namespace TopicPress

/-! ## Nodes with their depth -/

/-- A node and the number of nodes that it is below. -/
structure Placed (Node : Type) where
  depth : Nat
  node : Node

mutual

/-- A node that is as deep as `depth` and all that is below it, parents before their children. -/
def Node.placed (depth : Nat) (node : Node) : List (Placed Node) :=
  match node with
  | ⟨kind, position, children⟩ =>
    ⟨depth, ⟨kind, position, children⟩⟩ :: Node.placedAll (depth + 1) children

/-- Nodes that are as deep as `depth` and all that is below them. -/
def Node.placedAll (depth : Nat) : List Node → List (Placed Node)
  | [] => []
  | node :: rest => node.placed depth ++ Node.placedAll depth rest

end

def NodeKind.isText : NodeKind → Bool
  | text _ => true
  | _ => false

/-- The nodes other than texts, with the depth of each one. -/
def Node.keptAt (depth : Nat) (nodes : List Node) : List (Placed Node) :=
  (Node.placedAll depth nodes).filter (fun placed => !placed.node.kind.isText)

/-- What is told of a node when its children are told apart. -/
structure OutlineItem where
  depth : Nat
  kind : NodeKind
  position : Option SourcePosition
  deriving DecidableEq

/-- All nodes but texts, parents before their children. -/
def Document.outline (document : Document) : List OutlineItem :=
  (Node.keptAt 0 document.children).map
    (fun placed => ⟨placed.depth, placed.node.kind, placed.node.position⟩)

namespace Node

theorem keptAt_nil (depth : Nat) : keptAt depth [] = [] := by
  rw [keptAt, placedAll]
  rfl

theorem keptAt_cons (depth : Nat) (node : Node) (rest : List Node) :
    keptAt depth (node :: rest) = keptAt depth [node] ++ keptAt depth rest := by
  simp [keptAt, placedAll]

theorem keptAt_singleton (depth : Nat) (kind : NodeKind) (position : Option SourcePosition)
    (children : List Node) :
    keptAt depth [⟨kind, position, children⟩] =
      (if kind.isText then [] else [⟨depth, ⟨kind, position, children⟩⟩])
        ++ keptAt (depth + 1) children := by
  cases text : kind.isText <;> simp [keptAt, placedAll, placed, text]

end Node

namespace Markdown

/-! ## What nodes are kept as -/

/-- The text that a text or the end of a line is a piece of. -/
def Kind.piece? : Kind → Option String
  | text content => some content
  | softBreak => some "\n"
  | _ => none

/-- No piece of text has anything below it. -/
def PiecesChildless (nodes : List Node) : Prop :=
  ∀ node ∈ Node.preorderAll nodes, node.kind.piece?.isSome = true → node.children = []

instance (nodes : List Node) : Decidable (PiecesChildless nodes) :=
  inferInstanceAs (Decidable
    (∀ node ∈ Node.preorderAll nodes, node.kind.piece?.isSome = true → node.children = []))

theorem piecesChildless_nil : PiecesChildless [] := by
  rw [PiecesChildless, Node.preorderAll_nil]
  exact List.forall_mem_nil _

theorem piecesChildless_cons {kind : Kind} {position : SourcePosition} {children rest : List Node} :
    PiecesChildless (⟨kind, position, children⟩ :: rest) ↔
      (kind.piece?.isSome = true → children = []) ∧
        PiecesChildless children ∧ PiecesChildless rest := by
  simp only [PiecesChildless, Node.preorderAll_cons, List.forall_mem_cons, List.forall_mem_append]

/-- The first word of a text, of those between white space. -/
def firstWord? (text : String) : Option String :=
  ((text.toList.splitOnP Text.isWhiteSpace).find? (fun word => !word.isEmpty)).map String.ofList

/-- What nodes are kept as, if they are neither groups nor pieces of text. -/
def Kind.kept? : Kind → Option NodeKind
  | document | escaped => none
  | text _ | softBreak => none
  | frontMatter raw => some (.frontMatter (FrontMatterBlock.read raw).1)
  | blockQuote => some .blockQuote
  | list true start => some (.list true (some start))
  | list false _ => some (.list false none)
  | item => some .listItem
  | codeBlock info literal => some (.codeBlock (firstWord? info) literal)
  | htmlBlock literal => some (.rawBlock literal)
  | paragraph => some .paragraph
  | heading level => some (.heading level)
  | thematicBreak => some .thematicBreak
  | table => some .table
  | tableRow header => some (.tableRow header)
  | tableCell => some .tableCell
  | lineBreak => some .lineBreak
  | code literal => some (.codeSpan literal)
  | htmlInline content => some (.rawInline content)
  | emphasis => some .emphasis
  | strong => some .strong
  | strikethrough => some .strikethrough
  | superscript => some .superscript
  | subscript => some .subscript
  | link url title => some (.link url title)
  | image url title => some (.image url title)
  | extension name => some (.unsupported name)

mutual

/-- A node that is as deep as `depth` and all that is below it; groups are no deeper than what holds
them. -/
def Node.placed (depth : Nat) (node : Node) : List (Placed Node) :=
  match node with
  | ⟨kind, position, children⟩ =>
    ⟨depth, ⟨kind, position, children⟩⟩ ::
      Node.placedAll (if kind.isGroup then depth else depth + 1) children

def Node.placedAll (depth : Nat) : List Node → List (Placed Node)
  | [] => []
  | node :: rest => node.placed depth ++ Node.placedAll depth rest

end

/-- All nodes of a tree that are kept, parents before their children, where a line number of zero says
that the place is not known. -/
def Node.outline (root : Node) : List OutlineItem :=
  (Node.placedAll 0 [root]).filterMap (fun placed =>
    placed.node.kind.kept?.map (fun kind =>
      ⟨placed.depth, kind,
        if placed.node.position.line = 0 then none else some placed.node.position⟩))

theorem Node.placedAll_nil (depth : Nat) : Node.placedAll depth [] = [] := by
  rw [Node.placedAll]

theorem Node.placedAll_cons (depth : Nat) (kind : Kind) (position : SourcePosition)
    (children rest : List Node) :
    Node.placedAll depth (⟨kind, position, children⟩ :: rest) =
      ⟨depth, ⟨kind, position, children⟩⟩ ::
        (Node.placedAll (if kind.isGroup then depth else depth + 1) children
          ++ Node.placedAll depth rest) := by
  rw [Node.placedAll, Node.placed, List.cons_append]

private theorem head?_splitOnP (text : List Char) :
    (text.splitOnP Text.isWhiteSpace).head? =
      some (text.takeWhile (fun c => !Text.isWhiteSpace c)) := by
  induction text with
  | nil => rfl
  | cons c rest inductionHypothesis =>
      cases blank : Text.isWhiteSpace c with
      | true => simp [List.splitOnP_cons_eq_if_modifyHead, blank]
      | false =>
          rw [List.splitOnP_cons_eq_if_modifyHead, blank, if_neg Bool.false_ne_true,
            List.head?_modifyHead, inductionHypothesis,
            List.takeWhile_cons_of_pos (by simp [blank])]
          rfl

/-- A word is found by dropping the white space before it and taking what is before the next. -/
theorem language?_eq_firstWord? (info : String) : language? info = firstWord? info := by
  rw [language?, firstWord?]
  induction info.toList with
  | nil => rfl
  | cons c rest inductionHypothesis =>
      cases blank : Text.isWhiteSpace c with
      | true =>
          rw [List.dropWhile_cons_of_pos blank, List.splitOnP_cons_eq_if_modifyHead, blank,
            if_pos rfl]
          exact inductionHypothesis
      | false =>
          have first := head?_splitOnP (c :: rest)
          rw [List.takeWhile_cons_of_pos (by simp [blank])] at first
          rcases List.head?_eq_some_iff.mp first with ⟨more, words⟩
          rw [List.dropWhile_cons_of_neg (by simp [blank]),
            List.takeWhile_cons_of_pos (by simp [blank]), words]
          rfl

/-- A kind that is kept has its counterpart, which is no text; a kind that is not kept is a group or
becomes a text. -/
theorem Kind.counterpart_kept (kind : Kind) :
    match kind.kept? with
    | some found => kind.counterpart = .node found ∧ found.isText = false ∧ kind.isGroup = false
    | none =>
      (kind.isGroup = true ∧ kind.counterpart = .children) ∨
        (kind.isGroup = false ∧ kind.piece?.isSome = true ∧
          ∃ content, kind.counterpart = .node (.text content)) := by
  cases kind with
  | codeBlock info literal =>
      rw [kept?, counterpart, language?_eq_firstWord?]
      exact ⟨rfl, rfl, rfl⟩
  | list ordered start => cases ordered <;> exact ⟨rfl, rfl, rfl⟩
  | document => exact Or.inl ⟨rfl, rfl⟩
  | escaped => exact Or.inl ⟨rfl, rfl⟩
  | text content => exact Or.inr ⟨rfl, rfl, content, rfl⟩
  | softBreak => exact Or.inr ⟨rfl, rfl, "\n", rfl⟩
  | _ => exact ⟨rfl, rfl, rfl⟩

/-- Pieces of text become texts, and no other node does. -/
theorem Kind.isText_counterpart {kind : Kind} {found : NodeKind}
    (isNode : kind.counterpart = .node found) : found.isText = kind.piece?.isSome := by
  cases kind <;> cases isNode <;> rfl

/-! ## What holds of all that is converted -/

/-- What holds of nodes and of all nodes below them. -/
def Everywhere (holds : TopicPress.Node → Prop) (nodes : List TopicPress.Node) : Prop :=
  ∀ node ∈ TopicPress.Node.preorderAll nodes, holds node

section Everywhere

variable {holds : TopicPress.Node → Prop}

theorem everywhere_nil : Everywhere holds [] := by
  rw [Everywhere, TopicPress.Node.preorderAll]
  exact List.forall_mem_nil _

theorem everywhere_cons {node : TopicPress.Node} {rest : List TopicPress.Node} :
    Everywhere holds (node :: rest) ↔
      holds node ∧ Everywhere holds node.children ∧ Everywhere holds rest := by
  rcases node with ⟨kind, position, children⟩
  simp only [Everywhere, TopicPress.Node.preorderAll, TopicPress.Node.preorder, List.cons_append,
    List.forall_mem_cons, List.forall_mem_append]

/-- What holds of a text goes on to hold when the text is made longer. -/
def HoldsOfLonger (holds : TopicPress.Node → Prop) : Prop :=
  ∀ first second position children,
    holds ⟨.text first, position, children⟩ → holds ⟨.text (first ++ second), position, children⟩

theorem everywhere_consMerging (longer : HoldsOfLonger holds) {node : TopicPress.Node}
    {nodes : List TopicPress.Node} (all : Everywhere holds (node :: nodes)) :
    Everywhere holds (consMerging node nodes) := by
  rcases consMerging_cases node nodes with
    apart | ⟨first, second, position, children, more, isText, rfl, merged⟩
  · rwa [apart]
  · rcases node with ⟨kind, nodePosition, nodeChildren⟩
    cases isText
    rcases everywhere_cons.mp all with ⟨here, below, later⟩
    rw [merged]
    exact everywhere_cons.mpr
      ⟨longer first second _ _ here, below, (everywhere_cons.mp later).2.2⟩

theorem everywhere_foldr (longer : HoldsOfLonger holds) {nodes later : List TopicPress.Node}
    (early : Everywhere holds nodes) (late : Everywhere holds later) :
    Everywhere holds (nodes.foldr consMerging later) := by
  induction nodes with
  | nil => exact late
  | cons node rest inductionHypothesis =>
      rcases everywhere_cons.mp early with ⟨here, below, others⟩
      exact everywhere_consMerging longer
        (everywhere_cons.mpr ⟨here, below, inductionHypothesis others⟩)

/-- What holds of the counterpart of every node, and of longer texts, holds of all that is
converted. -/
theorem everywhere_convertAll (longer : HoldsOfLonger holds) (nodes : List Node) :
    (∀ source ∈ Node.preorderAll nodes, ∀ found, source.kind.counterpart = .node found →
      holds ⟨found, position? source.position, Node.convertAll source.children⟩) →
        Everywhere holds (Node.convertAll nodes) := by
  induction nodes using Node.forestInduction with
  | nil =>
      intro _
      rw [Node.convertAll_nil]
      exact everywhere_nil
  | cons kind position children rest inChildren inRest =>
      intro all
      rcases Node.forall_mem_preorderAll_cons all with ⟨here, below, later⟩
      rw [Node.convertAll_cons]
      refine everywhere_foldr longer ?_ (inRest later)
      rw [Node.convert]
      cases counterpart : kind.counterpart with
      | children => exact inChildren below
      | node found =>
          exact everywhere_cons.mpr ⟨here found counterpart, inChildren below, everywhere_nil⟩

end Everywhere

/-- No text has anything below it. -/
def TextsChildless : List TopicPress.Node → Prop :=
  Everywhere (fun node => node.kind.isText = true → node.children = [])

theorem holdsOfLonger_childless :
    HoldsOfLonger (fun node => node.kind.isText = true → node.children = []) :=
  fun _ _ _ _ childless _ => childless rfl

theorem textsChildless_convertAll {nodes : List Node} (childless : PiecesChildless nodes) :
    TextsChildless (Node.convertAll nodes) := by
  refine everywhere_convertAll holdsOfLonger_childless nodes ?_
  intro source member found counterpart text
  have piece : source.kind.piece?.isSome = true :=
    (Kind.isText_counterpart counterpart).symm.trans text
  exact (congrArg Node.convertAll (childless source member piece)).trans Node.convertAll_nil

/-! ## Merging keeps nodes -/

theorem keptAt_consMerging {node : TopicPress.Node} {nodes : List TopicPress.Node}
    (childless : TextsChildless (node :: nodes)) (depth : Nat) :
    Node.keptAt depth (consMerging node nodes) =
      Node.keptAt depth [node] ++ Node.keptAt depth nodes := by
  rcases consMerging_cases node nodes with
    apart | ⟨first, second, position, children, more, isText, rfl, merged⟩
  · rw [apart, Node.keptAt_cons]
  · rcases node with ⟨kind, nodePosition, nodeChildren⟩
    cases isText
    rcases everywhere_cons.mp childless with ⟨alone, _, later⟩
    have here : nodeChildren = [] := alone rfl
    have next : children = [] := (everywhere_cons.mp later).1 rfl
    rw [merged, here, next, Node.keptAt_cons, Node.keptAt_cons depth ⟨.text second, position, []⟩]
    simp [Node.keptAt_singleton, Node.keptAt_nil, NodeKind.isText]

theorem keptAt_foldr {nodes later : List TopicPress.Node} (early : TextsChildless nodes)
    (late : TextsChildless later) (depth : Nat) :
    Node.keptAt depth (nodes.foldr consMerging later) =
      Node.keptAt depth nodes ++ Node.keptAt depth later := by
  induction nodes with
  | nil => rw [List.foldr_nil, Node.keptAt_nil, List.nil_append]
  | cons node rest inductionHypothesis =>
      rcases everywhere_cons.mp early with ⟨here, below, others⟩
      have merged : TextsChildless (node :: rest.foldr consMerging later) :=
        everywhere_cons.mpr ⟨here, below, everywhere_foldr holdsOfLonger_childless others late⟩
      rw [List.foldr_cons, keptAt_consMerging merged, inductionHypothesis others,
        Node.keptAt_cons depth node rest, List.append_assoc]

/-! ## The kept nodes of a tree -/

/-- A node as it is kept, with what becomes of its children. -/
def keptNode? (placed : Placed Node) : Option (Placed TopicPress.Node) :=
  placed.node.kind.kept?.map (fun kind =>
    ⟨placed.depth,
      ⟨kind, position? placed.node.position, Node.convertAll placed.node.children⟩⟩)

/-- The nodes that are kept are all that becomes of nodes, texts apart. -/
theorem keptAt_convertAll (nodes : List Node) : PiecesChildless nodes →
    ∀ depth, Node.keptAt depth (Node.convertAll nodes) =
      (Node.placedAll depth nodes).filterMap keptNode? := by
  induction nodes using Node.forestInduction with
  | nil =>
      intro _ depth
      rw [Node.convertAll_nil, Node.keptAt_nil, Node.placedAll_nil]
      rfl
  | cons kind position children rest inChildren inRest =>
      intro childless depth
      rcases piecesChildless_cons.mp childless with ⟨leaf, below, later⟩
      have alone : PiecesChildless [⟨kind, position, children⟩] :=
        piecesChildless_cons.mpr ⟨leaf, below, piecesChildless_nil⟩
      have here := textsChildless_convertAll alone
      rw [Node.convertAll_singleton] at here
      have counterpart := kind.counterpart_kept
      rw [Node.convertAll_cons, keptAt_foldr here (textsChildless_convertAll later),
        inRest later, Node.placedAll_cons, List.filterMap_cons, List.filterMap_append,
        ← inChildren below, keptNode?, Node.convert]
      cases kept : kind.kept? with
      | some found =>
          simp only [kept] at counterpart
          rcases counterpart with ⟨isNode, noText, noGroup⟩
          rw [isNode, noGroup]
          simp [Node.keptAt_singleton, noText]
      | none =>
          simp only [kept] at counterpart
          rcases counterpart with ⟨group, isGroup⟩ | ⟨noGroup, piece, content, isText⟩
          · rw [isGroup, group]
            rfl
          · rw [isText, noGroup, leaf piece]
            simp [Node.keptAt_singleton, NodeKind.isText]

theorem Node.children_toDocument (root : Node) (name : Option String) :
    (root.toDocument name).children = Node.convertAll [root] :=
  root.convertAll_singleton.symm

/-- The document of a tree has all nodes of the tree that are kept and no others but texts, in the
same order and equally deep. -/
theorem outline_toDocument {root : Node} (childless : PiecesChildless [root])
    (name : Option String) : (root.toDocument name).outline = root.outline := by
  rw [Document.outline, root.children_toDocument name, keptAt_convertAll [root] childless,
    Node.outline, List.map_filterMap]
  congr 1
  funext placed
  rw [keptNode?, Option.map_map]
  rfl

/-- A paragraph in a group, with a place that is not known, and texts around an emphasis that merge
across a group. -/
theorem outline_toDocument_of_group :
    let emphasis : Node :=
      { kind := .emphasis, position := ⟨2, 3⟩, children := [{ kind := .text "c" }] }
    let paragraph : Node :=
      { kind := .paragraph
        children := [{ kind := .text "a" },
          { kind := .escaped, children := [{ kind := .softBreak }] }, emphasis,
          { kind := .extension "footnote_reference", position := ⟨2, 6⟩ }] }
    let root : Node :=
      { kind := .document, position := ⟨1, 1⟩
        children := [{ kind := .document, children := [paragraph] },
          { kind := .codeBlock " rust  ignore" "", position := ⟨4, 1⟩ }] }
    PiecesChildless [root] ∧ (root.toDocument none).outline = root.outline ∧
      root.outline = [⟨0, .paragraph, none⟩, ⟨1, .emphasis, some ⟨2, 3⟩⟩,
        ⟨1, .unsupported "footnote_reference", some ⟨2, 6⟩⟩,
        ⟨0, .codeBlock (some "rust") "", some ⟨4, 1⟩⟩] := by
  intro emphasis paragraph root
  have childless : PiecesChildless [root] := by decide
  exact ⟨childless, outline_toDocument childless none, by decide⟩

end Markdown

end TopicPress
