import TopicPress.Proofs.Coverage
import TopicPress.Proofs.ShownText

/-!
# No text is lost

The text of a Markdown tree is all there in the topic that is made of it, once and in order.  What
text a node has by itself is written down here without regard to how the node is converted or
rendered; only for an image one has to know whether anything is left of what it holds.  The one thing
that is moved is the first heading at the top level, which becomes the title and with it the first
thing to be read.
-/

namespace TopicPress.Markdown

/-- The text that a node of this kind has by itself. -/
def Kind.ownText : Kind → String
  | text content => content
  | softBreak => "\n"
  | lineBreak => "\n"
  | code literal => literal
  | codeBlock _ literal => literal
  | htmlBlock literal => literal
  | htmlInline content => content
  | _ => ""

/-- The text that a node has by itself, what is below it apart.  An image has its title if it holds
nothing. -/
def Node.literal (node : Node) : String :=
  match node.kind with
  | .image _ title => if (Node.expandAll node.children).isEmpty then title else ""
  | kind => kind.ownText

/-- The texts of nodes and of everything below them, in order. -/
def Node.literals (nodes : List Node) : List String :=
  (Node.preorderAll nodes).map Node.literal

theorem Node.literals_append (first second : List Node) :
    Node.literals (first ++ second) = Node.literals first ++ Node.literals second := by
  rw [Node.literals, Node.preorderAll_append, List.map_append]
  rfl

def Kind.isHeading : Kind → Bool
  | heading _ => true
  | _ => false

/-- Nodes with the first heading before all others. -/
def Node.headingFirst (nodes : List Node) : List Node :=
  (nodes.find? (fun node => node.kind.isHeading)).toList
    ++ nodes.eraseP (fun node => node.kind.isHeading)

/-! ## The text of what is converted -/

/-- The characters that nodes show. -/
def shownCharacters (nodes : List TopicPress.Node) : List Char :=
  (TopicPress.Node.shownAll nodes).flatMap String.toList

theorem shownCharacters_append (first second : List TopicPress.Node) :
    shownCharacters (first ++ second) = shownCharacters first ++ shownCharacters second := by
  rw [shownCharacters, Node.shownAll_append, List.flatMap_append]
  rfl

theorem additive_shownCharacters : Additive shownCharacters where
  nil := by
    rw [shownCharacters, Node.shownAll_nil, List.flatMap_nil]
  cons := by
    intro node rest
    exact shownCharacters_append [node] rest
  text := by
    intro first second position nextPosition children nextChildren
    simp [shownCharacters, Node.shownAll_singleton, NodeKind.rule, RenderRule.shown]

theorem shownCharacters_singleton (kind : NodeKind) (position : Option SourcePosition)
    (children : List TopicPress.Node) :
    shownCharacters [⟨kind, position, children⟩] =
      (kind.rule.shown children.isEmpty (Node.shownAll children)).flatMap String.toList := by
  rw [shownCharacters, Node.shownAll_singleton]

/-- Kinds have the text that the rules of their counterparts put before the children, and without a
place for children they are made without them. -/
theorem Kind.counterpart_shown {kind : Kind} (supported : kind.isSupported = true) :
    match kind.counterpart with
    | .children => kind.ownText = ""
    | .node counterpart =>
      match counterpart.rule with
      | .element _ _ literal => literal.getD "" = kind.ownText
      | .image _ _ => ∃ url title, kind = .image url title
      | .emptyElement _ _ | .ignored => kind.isLeaf = true ∧ kind.ownText = ""
      | .characters content => kind.isLeaf = true ∧ kind.ownText = content
      | .unmapped => False := by
  cases kind with
  | list ordered start => cases ordered <;> rfl
  | tableRow header => cases header <;> rfl
  | image url title => exact ⟨url, title, rfl⟩
  | extension name => cases supported
  | thematicBreak => exact ⟨rfl, rfl⟩
  | frontMatter raw => exact ⟨rfl, rfl⟩
  | text content => exact ⟨rfl, rfl⟩
  | softBreak => exact ⟨rfl, rfl⟩
  | lineBreak => exact ⟨rfl, rfl⟩
  | _ => rfl

/-- An image shows its title if nothing is left of what it holds. -/
theorem shownCharacters_image (url title : String) (position : Option SourcePosition)
    (children : List Node) :
    shownCharacters [⟨.image url title, position, Node.convertAll children⟩] =
      (if (Node.expandAll children).isEmpty then title else "").toList
        ++ shownCharacters (Node.convertAll children) := by
  have empty : (Node.convertAll children).isEmpty = (Node.expandAll children).isEmpty := by
    rw [Bool.eq_iff_iff, List.isEmpty_iff, List.isEmpty_iff]
    exact Node.convertAll_eq_nil_iff children
  rw [shownCharacters_singleton, empty]
  cases expanded : (Node.expandAll children).isEmpty with
  | true =>
      rw [expanded, List.isEmpty_iff] at empty
      rw [empty, additive_shownCharacters.nil]
      cases titled : title.isEmpty with
      | true => simp [NodeKind.rule, RenderRule.shown, String.isEmpty_iff.mp titled]
      | false => simp [NodeKind.rule, RenderRule.shown, titled]
  | false => simp [NodeKind.rule, RenderRule.shown, shownCharacters]

/-- What a node shows is its own text and what is below it. -/
theorem shownCharacters_convert {kind : Kind} {position : SourcePosition} {children : List Node}
    (supported : kind.isSupported = true) (leaf : kind.isLeaf = true → children = []) :
    shownCharacters (⟨kind, position, children⟩ : Node).convert =
      (⟨kind, position, children⟩ : Node).literal.toList
        ++ shownCharacters (Node.convertAll children) := by
  by_cases image : ∃ url title, kind = .image url title
  · rcases image with ⟨url, title, rfl⟩
    rw [Node.convert]
    exact shownCharacters_image url title _ children
  · have own : (⟨kind, position, children⟩ : Node).literal = kind.ownText := by
      cases kind with
      | image url title => exact absurd ⟨url, title, rfl⟩ image
      | _ => rfl
    have shown := kind.counterpart_shown supported
    rw [Node.convert, own]
    have nothing : shownCharacters (Node.convertAll []) = [] := by
      rw [Node.convertAll_nil, additive_shownCharacters.nil]
    cases counterpart : kind.counterpart with
    | children =>
        simp only [counterpart] at shown
        rw [shown]
        rfl
    | node found =>
        simp only [counterpart] at shown
        simp only [shownCharacters_singleton]
        cases rule : found.rule with
        | element container attributes literal =>
            simp only [rule] at shown
            rw [RenderRule.shown, List.flatMap_append, ← shown]
            cases literal <;> simp [shownCharacters]
        | emptyElement container attributes =>
            simp only [rule] at shown
            rw [shown.2, leaf shown.1, nothing]
            rfl
        | image href title =>
            simp only [rule] at shown
            exact absurd shown image
        | characters content =>
            simp only [rule] at shown
            rw [shown.2, leaf shown.1, nothing]
            simp [RenderRule.shown]
        | ignored =>
            simp only [rule] at shown
            rw [shown.2, leaf shown.1, nothing]
            rfl
        | unmapped => simp only [rule] at shown

/-- What becomes of trees shows the text of the trees. -/
theorem shownCharacters_convertAll (nodes : List Node) :
    LeavesChildless nodes → AllSupported nodes →
      shownCharacters (Node.convertAll nodes) = (Node.literals nodes).flatMap String.toList := by
  unfold Node.literals
  induction nodes using Node.forestInduction with
  | nil =>
      intro childless supported
      rw [Node.convertAll_nil, additive_shownCharacters.nil, Node.preorderAll_nil]
      rfl
  | cons kind position children rest inChildren inRest =>
      intro childless supported
      rcases Node.forall_mem_preorderAll_cons childless with ⟨leaf, childlessBelow, childlessLater⟩
      rcases Node.forall_mem_preorderAll_cons supported with
        ⟨supportedHere, supportedBelow, supportedLater⟩
      rw [additive_shownCharacters.convertAll_cons, shownCharacters_convert supportedHere leaf,
        inChildren childlessBelow supportedBelow, inRest childlessLater supportedLater,
        Node.preorderAll_cons, List.map_cons, List.flatMap_cons, List.map_append,
        List.flatMap_append, List.append_assoc]

/-! ## The order of top-level nodes -/

theorem Kind.isHeading_counterpart {kind : Kind} {counterpart : NodeKind}
    (found : kind.counterpart = .node counterpart) : counterpart.isHeading = kind.isHeading := by
  cases kind <;> cases found <;> rfl

/-- Merging neither makes a heading nor takes one away. -/
theorem find?_isHeading_consMerging {node : TopicPress.Node}
    (noHeading : node.kind.isHeading = false) (nodes : List TopicPress.Node) :
    (consMerging node nodes).find? (fun node => node.kind.isHeading) =
      nodes.find? (fun node => node.kind.isHeading) := by
  rcases consMerging_cases node nodes with
    apart | ⟨first, second, position, children, more, isText, rfl, merged⟩
  · rw [apart, List.find?_cons, noHeading]
  · rw [merged, List.find?_cons, List.find?_cons]
    rfl

theorem consMerging_of_isHeading {node : TopicPress.Node} (heading : node.kind.isHeading = true)
    (nodes : List TopicPress.Node) : consMerging node nodes = node :: nodes := by
  rcases consMerging_cases node nodes with
    apart | ⟨first, second, position, children, more, isText, seam, merged⟩
  · exact apart
  · rw [isText] at heading
    cases heading

theorem Additive.eraseP_consMerging {Item : Type} {measure : List TopicPress.Node → List Item}
    (additive : Additive measure) {node : TopicPress.Node}
    (noHeading : node.kind.isHeading = false) (nodes : List TopicPress.Node) :
    measure ((Markdown.consMerging node nodes).eraseP (fun node => node.kind.isHeading)) =
      measure [node] ++ measure (nodes.eraseP (fun node => node.kind.isHeading)) := by
  rcases consMerging_cases node nodes with
    apart | ⟨first, second, position, children, more, isText, rfl, merged⟩
  · rw [apart, List.eraseP_cons, noHeading, cond_false, additive.cons]
  · have whole := additive.consMerging node
      (⟨.text second, position, children⟩ :: more.eraseP (fun node => node.kind.isHeading))
    simp only [Markdown.consMerging, isText] at whole
    rw [merged]
    exact whole

/-- Of nodes without groups, the first heading and the others show their own texts after the
conversion as well. -/
theorem shownCharacters_heading_others (nodes : List Node)
    (single : ∀ node ∈ nodes, node.kind.isGroup = false) :
    LeavesChildless nodes → AllSupported nodes →
      shownCharacters
          ((Node.convertAll nodes).find? (fun node => node.kind.isHeading)).toList =
        (Node.literals (nodes.find? (fun node => node.kind.isHeading)).toList).flatMap
          String.toList ∧
      shownCharacters ((Node.convertAll nodes).eraseP (fun node => node.kind.isHeading)) =
        (Node.literals (nodes.eraseP (fun node => node.kind.isHeading))).flatMap
          String.toList := by
  induction nodes with
  | nil =>
      intro childless supported
      rw [Node.convertAll_nil]
      exact ⟨additive_shownCharacters.nil, additive_shownCharacters.nil⟩
  | cons node rest inductionHypothesis =>
      intro childless supported
      have parts : Node.preorderAll (node :: rest) =
          Node.preorderAll [node] ++ Node.preorderAll rest := Node.preorderAll_append [node] rest
      rw [LeavesChildless, parts, List.forall_mem_append] at childless
      rw [AllSupported, parts, List.forall_mem_append] at supported
      have singleLater : ∀ later ∈ rest, later.kind.isGroup = false :=
        fun later member => single later (List.mem_cons_of_mem node member)
      rcases inductionHypothesis singleLater childless.2 supported.2 with ⟨heading, others⟩
      rcases Node.convert_of_not_group (single node List.mem_cons_self) with
        ⟨counterpart, found, converted⟩
      have same := Kind.isHeading_counterpart found
      -- By itself the node shows its own text; the merging with what follows does not change that.
      have own := shownCharacters_convertAll [node] childless.1 supported.1
      rw [Node.convertAll_singleton, converted] at own
      rw [Node.convertAll_cons, converted, List.foldr_cons, List.foldr_nil, List.find?_cons,
        List.eraseP_cons]
      cases isHeading : node.kind.isHeading with
      | true =>
          rw [isHeading] at same
          have all := shownCharacters_convertAll rest childless.2 supported.2
          rw [consMerging_of_isHeading same, List.find?_cons, List.eraseP_cons, same]
          exact ⟨own, all⟩
      | false =>
          rw [isHeading] at same
          have seam := Node.literals_append [node]
            (rest.eraseP (fun node => node.kind.isHeading))
          rw [List.singleton_append] at seam
          rw [find?_isHeading_consMerging same, additive_shownCharacters.eraseP_consMerging same,
            own, others, cond_false, seam, List.flatMap_append]
          exact ⟨heading, rfl⟩

/-- Front matter shows nothing, so it makes no difference to leave it out. -/
theorem shownCharacters_eraseP_frontMatter (nodes : List TopicPress.Node) :
    shownCharacters (nodes.eraseP (fun node => node.kind.frontMatter?.isSome)) =
      shownCharacters nodes := by
  induction nodes with
  | nil => rfl
  | cons node rest inductionHypothesis =>
      rw [List.eraseP_cons, additive_shownCharacters.cons node rest]
      cases isFrontMatter : node.kind.frontMatter?.isSome with
      | true =>
          rcases node with ⟨kind, position, children⟩
          cases kind with
          | frontMatter header =>
              rw [shownCharacters_singleton]
              rfl
          | _ => cases isFrontMatter
      | false => rw [cond_false, additive_shownCharacters.cons, inductionHypothesis]

/-- The document of a tree shows the text of the tree, the first heading at the top level first. -/
theorem shownCharacters_inOrder {root : Node} (isDocument : root.kind = .document)
    (childless : LeavesChildless [root]) (supported : AllSupported [root])
    (name : Option String) :
    shownCharacters (root.toDocument name).inOrder =
      (Node.literals (Node.headingFirst (Node.expandAll root.children))).flatMap String.toList := by
  rcases root with ⟨kind, position, children⟩
  cases isDocument
  rcases Node.forall_mem_preorderAll_cons childless with ⟨_, childlessBelow, _⟩
  rcases Node.forall_mem_preorderAll_cons supported with ⟨_, supportedBelow, _⟩
  have kept := (Node.preorderAll_expandAll_sublist children).subset
  rcases shownCharacters_heading_others (Node.expandAll children)
    (Node.isGroup_of_mem_expandAll children)
    (fun node member => childlessBelow node (kept member))
    (fun node member => supportedBelow node (kept member)) with ⟨heading, others⟩
  rw [Node.convertAll_expandAll] at heading others
  have nodes : (Node.toDocument ⟨.document, position, children⟩ name).children =
      Node.convertAll children := by
    rw [Node.toDocument, Node.convert]
    rfl
  rw [Document.inOrder, Document.firstHeading?, Document.bodyBlocks, nodes,
    shownCharacters_append, shownCharacters_eraseP_frontMatter, heading, others,
    Node.headingFirst, Node.literals_append, List.flatMap_append]

/-- No text is lost, doubled or moved, but that the first heading comes first: the text of a topic
outside its prolog is the text of the Markdown tree that the topic is made of. -/
theorem topicText_eq_literals {root : Node} (isDocument : root.kind = .document)
    (childless : LeavesChildless [root]) (supported : AllSupported [root])
    (name : Option String) (options : RenderOptions) :
    ∃ events, (root.toDocument name).toEvents options = .ok events ∧
      String.join (textsOutsideProlog 0 events.toList) =
        String.join (Node.literals (Node.headingFirst (Node.expandAll root.children))) := by
  rcases (exists_toEvents_iff_supported childless name options).mpr supported with
    ⟨events, rendered⟩
  refine ⟨events, rendered, ?_⟩
  rw [Document.textsOutsideProlog_of_toEvents rendered, ← String.toList_inj,
    String.toList_join, String.toList_join]
  exact shownCharacters_inOrder isDocument childless supported name

/-- A heading that comes late and stands in a group, and an image that holds an empty group. -/
theorem topicText_of_late_heading :
    let picture : Node := { kind := .image "map.png" "map", children := [{ kind := .escaped }] }
    let paragraph : Node :=
      { kind := .paragraph
        children := [{ kind := .text "a" }, { kind := .softBreak },
          { kind := .escaped, children := [{ kind := .text "*" }] }, picture] }
    let heading : Node := { kind := .heading 2, children := [{ kind := .text "Late" }] }
    let root : Node :=
      { kind := .document
        children := [{ kind := .frontMatter "---\nauthor: Ada\n---\n" }, paragraph,
          { kind := .escaped, children := [heading] }, { kind := .codeBlock "" "b\n" }] }
    root.kind = .document ∧ LeavesChildless [root] ∧ AllSupported [root] ∧
      ∃ events, (root.toDocument none).toEvents {} = .ok events ∧
        String.join (textsOutsideProlog 0 events.toList) = "Latea\n*mapb\n" := by
  intro picture paragraph heading root
  have childless : LeavesChildless [root] := by decide
  have supported : AllSupported [root] := by decide
  have text : String.join (Node.literals (Node.headingFirst (Node.expandAll root.children))) =
      "Latea\n*mapb\n" := by decide
  have isDocument : root.kind = .document := rfl
  have shown := topicText_eq_literals isDocument childless supported none {}
  rw [text] at shown
  exact ⟨isDocument, childless, supported, shown⟩

end TopicPress.Markdown
