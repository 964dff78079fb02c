import TopicPress.Proofs.Merging
import TopicPress.Proofs.Playing
import TopicPress.Proofs.Reaching

/-!
# Nothing is dropped silently

A node without a counterpart is found wherever it stands in a Markdown tree: the conversion gives it
a place in the document, and the rendering comes to that place.  Both steps leave nodes out on
purpose, the one when it merges texts and dissolves groups, the other when it passes over children
that cannot be shown; so the nodes that are found are counted through both.  What the trees have to
satisfy is that the kinds whose children are passed over have none.
-/

namespace TopicPress

/-- The name of a node that is reached and has no counterpart. -/
def Reached.unsupported? (reached : Reached) : Option String := reached.node.kind.unsupported?

/-- The names of the nodes without a counterpart that are reached when nodes are rendered. -/
def unsupportedNames (nodes : List Node) : List String :=
  (Node.reachedAll [] nodes).filterMap Reached.unsupported?

/-- The elements that are open make no difference to which nodes are reached. -/
theorem filterMap_reachedAll (nodes : List Node) :
    ∀ path, (Node.reachedAll path nodes).filterMap Reached.unsupported? =
      unsupportedNames nodes := by
  unfold unsupportedNames
  induction nodes using Node.forestInduction with
  | nil =>
      intro path
      rw [Node.reachedAll_nil, Node.reachedAll_nil]
  | cons kind position children rest inChildren inRest =>
      intro path
      simp only [Node.reachedAll_cons, Node.reached_eq, List.filterMap_append, inRest path]
      congr 1
      cases kind.hidesChildren with
      | true => rfl
      | false =>
          have inside := (inChildren (path ++ kind.rule.enclosing)).trans
            (inChildren ([] ++ kind.rule.enclosing)).symm
          simp only [List.filterMap_cons, Bool.false_eq_true, if_false, inside]
          rfl

theorem unsupportedNames_nil : unsupportedNames [] = [] := by
  rw [unsupportedNames, Node.reachedAll_nil]
  rfl

theorem unsupportedNames_cons (node : Node) (rest : List Node) :
    unsupportedNames (node :: rest) = unsupportedNames [node] ++ unsupportedNames rest := by
  simp [unsupportedNames]

theorem unsupportedNames_singleton (kind : NodeKind) (position : Option SourcePosition)
    (children : List Node) :
    unsupportedNames [⟨kind, position, children⟩] =
      kind.unsupported?.toList
        ++ if kind.hidesChildren then [] else unsupportedNames children := by
  have head : Reached.unsupported? ⟨[], kind, position, children⟩ = kind.unsupported? := rfl
  rw [unsupportedNames, Node.reachedAll_cons, Node.reachedAll_nil, List.append_nil,
    Node.reached_eq, List.filterMap_cons, head]
  have below : (if kind.hidesChildren then []
      else Node.reachedAll ([] ++ kind.rule.enclosing) children).filterMap Reached.unsupported? =
        if kind.hidesChildren then [] else unsupportedNames children := by
    cases kind.hidesChildren with
    | true => rfl
    | false => exact filterMap_reachedAll children _
  rw [below]
  cases kind.unsupported? <;> rfl

theorem mem_unsupportedNames_iff {name : String} (nodes : List Node) :
    name ∈ unsupportedNames nodes ↔ ∃ node ∈ nodes, name ∈ unsupportedNames [node] := by
  induction nodes with
  | nil => simp [unsupportedNames_nil]
  | cons node rest inductionHypothesis =>
      rw [unsupportedNames_cons, List.mem_append, inductionHypothesis]
      simp only [List.mem_cons, exists_eq_or_imp]

/-! ## Documents -/

/-- A heading has nothing to be found but what is below it. -/
theorem unsupportedNames_heading {node : Node} (isHeading : node.kind.isHeading = true) :
    unsupportedNames [node] = unsupportedNames node.children := by
  rcases node with ⟨kind, position, children⟩
  cases kind with
  | heading level => exact unsupportedNames_singleton _ _ _
  | _ => cases isHeading

/-- Front matter has nothing to be found. -/
theorem unsupportedNames_frontMatter {node : Node}
    (isFrontMatter : node.kind.frontMatter?.isSome = true) : unsupportedNames [node] = [] := by
  rcases node with ⟨kind, position, children⟩
  cases kind with
  | frontMatter header => exact unsupportedNames_singleton _ _ _
  | _ => cases isFrontMatter

theorem filterMap_blocksReached (path : List String) (nodes : List Node) :
    ∀ inSection, (blocksReached path inSection nodes).filterMap Reached.unsupported? =
      unsupportedNames nodes := by
  induction nodes with
  | nil =>
      intro inSection
      exact unsupportedNames_nil.symm
  | cons node rest inductionHypothesis =>
      intro inSection
      rw [blocksReached, unsupportedNames_cons]
      cases heading : node.kind.isHeading with
      | true =>
          rw [unsupportedNames_heading heading]
          simp [List.filterMap_append, filterMap_reachedAll, inductionHypothesis]
      | false =>
          have block := filterMap_reachedAll [node]
            (if inSection then path ++ [Dita.Element.section_.name] else path)
          rw [Node.reachedAll_cons, Node.reachedAll_nil, List.append_nil] at block
          simp [List.filterMap_append, block, inductionHypothesis]

theorem Document.filterMap_reached (document : Document) :
    document.reached.filterMap Reached.unsupported? = unsupportedNames document.inOrder := by
  rw [reached, inOrder, titleHeading?_eq, remaining_eq, List.filterMap_append,
    filterMap_blocksReached]
  cases found : document.firstHeading? with
  | none => rfl
  | some heading =>
      rw [Option.toList_some, List.singleton_append, unsupportedNames_cons,
        unsupportedNames_heading (isHeading_of_firstHeading? found)]
      simp only [filterMap_reachedAll]

private theorem mem_find?_append_eraseP {Item : Type} (test : Item → Bool) {item : Item}
    {items : List Item} (member : item ∈ items) :
    item ∈ (items.find? test).toList ++ items.eraseP test := by
  induction items with
  | nil => cases member
  | cons first rest inductionHypothesis =>
      cases outcome : test first with
      | true => simpa [outcome] using member
      | false =>
          rcases List.mem_cons.mp member with rfl | later
          · simp [outcome]
          · have found := inductionHypothesis later
            rw [List.mem_append] at found
            rw [List.find?_cons, List.eraseP_cons, outcome, cond_false, List.mem_append]
            exact found.imp_right (List.mem_cons_of_mem first)

/-- Whatever is to be found below the top-level nodes is found: neither the order of the rendering nor
the front matter that it leaves out makes a difference. -/
theorem Document.mem_unsupportedNames_inOrder {document : Document} {name : String} :
    name ∈ unsupportedNames document.inOrder ↔ name ∈ unsupportedNames document.children := by
  rw [mem_unsupportedNames_iff, mem_unsupportedNames_iff document.children]
  constructor
  · rintro ⟨node, member, found⟩
    refine ⟨node, ?_, found⟩
    rcases List.mem_append.mp member with heading | block
    · exact List.mem_of_find?_eq_some (Option.mem_toList.mp heading)
    · exact List.mem_of_mem_eraseP (List.mem_of_mem_eraseP block)
  · rintro ⟨node, member, found⟩
    refine ⟨node, ?_, found⟩
    have parted := mem_find?_append_eraseP (fun node : Node => node.kind.isHeading) member
    rcases List.mem_append.mp parted with heading | left
    · exact List.mem_append_left _ heading
    · apply List.mem_append_right
      refine (List.mem_eraseP_of_neg ?_).mpr left
      intro isFrontMatter
      rw [unsupportedNames_frontMatter isFrontMatter] at found
      cases found

theorem Document.exists_toEvents_eq_ok_iff {options : RenderOptions} {document : Document} :
    (∃ events, document.toEvents options = .ok events) ↔
      document.reached.filterMap Reached.unsupported? = [] := by
  have failure : (document.render options).failure = none ↔
      document.reached.filterMap Reached.unsupported? = [] := by
    rw [failure_render_eq_findSome, List.findSome?_eq_none_iff, List.filterMap_eq_nil_iff]
    simp only [Reached.failure?, Option.map_eq_none_iff, Reached.unsupported?]
  rw [← failure, toEvents_eq]
  cases (document.render options).failure <;> simp

/-- What keeps a document from being rendered is a node that is reached. -/
theorem Document.mem_reached_of_toEvents_eq_error {options : RenderOptions} {document : Document}
    {error : RenderError Empty} (failed : document.toEvents options = .error error) :
    ∃ context, error = .unmapped context ∧
      context.node ∈ document.reached.filterMap Reached.unsupported? := by
  rw [toEvents_eq] at failed
  cases outcome : (document.render options).failure with
  | none =>
      rw [outcome] at failed
      cases failed
  | some context =>
      rw [outcome] at failed
      cases failed
      refine ⟨context, rfl, ?_⟩
      rw [failure_render_eq_findSome] at outcome
      rcases List.exists_of_findSome?_eq_some outcome with ⟨reached, member, fails⟩
      rcases Option.map_eq_some_iff.mp fails with ⟨name, found, rfl⟩
      exact List.mem_filterMap.mpr ⟨reached, member, found⟩

/-! ## Markdown trees -/

namespace Markdown

/-- The kinds of nodes that have a counterpart or give way to their children. -/
def Kind.isSupported : Kind → Bool
  | document | paragraph | heading _ | codeBlock _ _ | blockQuote | list _ _ | item => true
  | thematicBreak | frontMatter _ | htmlBlock _ | table | tableRow _ | tableCell => true
  | text _ | softBreak | lineBreak | code _ | htmlInline _ => true
  | emphasis | strong | strikethrough | superscript | subscript => true
  | link _ _ | image _ _ | escaped => true
  | extension _ => false

/-- The kinds of nodes that are made without children. -/
def Kind.isLeaf : Kind → Bool
  | text _ | softBreak | lineBreak | thematicBreak | frontMatter _ => true
  | _ => false

/-- Every node of trees that is of a kind made without children has none. -/
def LeavesChildless (nodes : List Node) : Prop :=
  ∀ node ∈ Node.preorderAll nodes, node.kind.isLeaf = true → node.children = []

instance (nodes : List Node) : Decidable (LeavesChildless nodes) :=
  inferInstanceAs (Decidable
    (∀ node ∈ Node.preorderAll nodes, node.kind.isLeaf = true → node.children = []))

/-- Every node of trees is of a supported kind. -/
def AllSupported (nodes : List Node) : Prop :=
  ∀ node ∈ Node.preorderAll nodes, node.kind.isSupported = true

instance (nodes : List Node) : Decidable (AllSupported nodes) :=
  inferInstanceAs (Decidable (∀ node ∈ Node.preorderAll nodes, node.kind.isSupported = true))

/-- What is recognised in a text besides CommonMark. -/
inductive Feature where
  | frontMatter
  | table
  | strikethrough
  | superscript
  | subscript
  /-- A node for every character after a backslash. -/
  | escapedSpans
  | other (name : String)
  deriving DecidableEq

/-- The feature that a kind of node is due to, unless it is one of CommonMark. -/
def Kind.feature? : Kind → Option Feature
  | frontMatter _ => some .frontMatter
  | table | tableRow _ | tableCell => some .table
  | strikethrough => some .strikethrough
  | superscript => some .superscript
  | subscript => some .subscript
  | escaped => some .escapedSpans
  | extension name => some (.other name)
  | _ => none

/-- The features that texts are read with. -/
def enabledFeatures : List Feature :=
  [.table, .strikethrough, .superscript, .subscript, .frontMatter]

/-- The kinds of nodes that the enabled features and CommonMark have. -/
def Kind.isEnabled (kind : Kind) : Bool := kind.feature?.all enabledFeatures.contains

/-- The name of a kind without a counterpart. -/
def Kind.unsupported? : Kind → Option String
  | extension name => some name
  | _ => none

theorem Kind.eq_extension_of_unsupported? {kind : Kind} {name : String}
    (found : kind.unsupported? = some name) : kind = .extension name := by
  cases kind with
  | extension other => exact congrArg extension (Option.some.inj found)
  | _ => cases found

theorem Kind.isSupported_of_isEnabled {kind : Kind} (enabled : kind.isEnabled = true) :
    kind.isSupported = true := by
  cases kind with
  | extension name => cases enabled
  | _ => rfl

theorem Kind.unsupported?_eq_none_iff (kind : Kind) :
    kind.unsupported? = none ↔ kind.isSupported = true := by
  cases kind <;> simp [unsupported?, isSupported]

/-- The counterpart of a kind is found if and only if the kind itself has no counterpart, and only
kinds made without children hide them. -/
theorem Kind.counterpart_unsupported (kind : Kind) :
    match kind.counterpart with
    | .node counterpart => counterpart.unsupported? = kind.unsupported? ∧
        (counterpart.hidesChildren = true → kind.isLeaf = true)
    | .children => kind.unsupported? = none := by
  cases kind <;> simp [counterpart, unsupported?, isLeaf, NodeKind.unsupported?,
    NodeKind.hidesChildren]

theorem additive_unsupportedNames : Additive unsupportedNames where
  nil := unsupportedNames_nil
  cons := unsupportedNames_cons
  text := by
    intro first second position nextPosition children nextChildren
    simp only [unsupportedNames_singleton]
    rfl

/-- What is to be found in the counterparts of Markdown trees is what is to be found in the trees. -/
theorem unsupportedNames_convertAll (nodes : List Node) : LeavesChildless nodes →
    unsupportedNames (Node.convertAll nodes) =
      (Node.preorderAll nodes).filterMap (fun node => node.kind.unsupported?) := by
  induction nodes using Node.forestInduction with
  | nil =>
      intro childless
      rw [Node.convertAll_nil, Node.preorderAll_nil, unsupportedNames_nil]
      rfl
  | cons kind position children rest inChildren inRest =>
      intro childless
      rcases Node.forall_mem_preorderAll_cons childless with ⟨leaf, below, later⟩
      have counterpart := kind.counterpart_unsupported
      rw [additive_unsupportedNames.convertAll_cons, inRest later, Node.preorderAll_cons,
        List.filterMap_cons, List.filterMap_append, ← inChildren below, Node.convert]
      cases outcome : kind.counterpart with
      | children =>
          rw [outcome] at counterpart
          simp only [counterpart]
      | node found =>
          rw [outcome] at counterpart
          simp only [unsupportedNames_singleton, counterpart.1]
          cases hidden : found.hidesChildren with
          | true =>
              have empty : children = [] := leaf (counterpart.2 hidden)
              rw [empty, Node.convertAll_nil, unsupportedNames_nil]
              cases kind.unsupported? <;> rfl
          | false => cases kind.unsupported? <;> rfl

/-- What is reached in the document of a tree and has no counterpart stands in the tree. -/
theorem mem_filterMap_reached_iff {root : Node} (childless : LeavesChildless [root])
    (name : Option String) {found : String} :
    found ∈ (root.toDocument name).reached.filterMap Reached.unsupported? ↔
      ∃ node ∈ Node.preorderAll [root], node.kind.unsupported? = some found := by
  have children : (root.toDocument name).children = Node.convertAll [root] :=
    root.convertAll_singleton.symm
  rw [Document.filterMap_reached, Document.mem_unsupportedNames_inOrder, children,
    unsupportedNames_convertAll [root] childless, List.mem_filterMap]

theorem exists_toEvents_iff_supported {root : Node} (childless : LeavesChildless [root])
    (name : Option String) (options : RenderOptions) :
    (∃ events, (root.toDocument name).toEvents options = .ok events) ↔ AllSupported [root] := by
  rw [Document.exists_toEvents_eq_ok_iff, List.eq_nil_iff_forall_not_mem]
  simp only [mem_filterMap_reached_iff childless, AllSupported, ← Kind.unsupported?_eq_none_iff,
    Option.eq_none_iff_forall_ne_some]
  constructor
  · intro absent node member found same
    exact absent found ⟨node, member, same⟩
  · rintro absent found ⟨node, member, same⟩
    exact absent node member found same

/-- A document made of a Markdown tree is rendered if and only if the tree has supported kinds only;
if it is not, the error names an unsupported node of the tree.  A tree that needs no features but the
enabled ones is rendered. -/
theorem toEvents_toDocument_iff_supported {root : Node} (childless : LeavesChildless [root])
    (name : Option String) (options : RenderOptions) :
    ((∃ events, (root.toDocument name).toEvents options = .ok events) ↔ AllSupported [root]) ∧
      (∀ error, (root.toDocument name).toEvents options = .error error →
        ∃ context, error = .unmapped context ∧ ∃ node ∈ Node.preorderAll [root],
          node.kind = .extension context.node) ∧
      ((∀ node ∈ Node.preorderAll [root], node.kind.isEnabled = true) →
        ∃ events, (root.toDocument name).toEvents options = .ok events) := by
  have rendered := exists_toEvents_iff_supported childless name options
  refine ⟨rendered, ?_, ?_⟩
  · intro error failed
    rcases Document.mem_reached_of_toEvents_eq_error failed with ⟨context, rfl, found⟩
    rcases (mem_filterMap_reached_iff childless name).mp found with ⟨node, member, same⟩
    exact ⟨context, rfl, node, member, Kind.eq_extension_of_unsupported? same⟩
  · intro enabled
    apply rendered.mpr
    intro node member
    exact Kind.isSupported_of_isEnabled (enabled node member)

/-- Neither a group nor an image hides the reference to a footnote. -/
theorem toEvents_footnote_fails :
    let footnote : Node := { kind := .extension "footnote_reference" }
    let image : Node := { kind := .image "map.png" "", children := [footnote] }
    let root : Node :=
      { kind := .document
        children := [{ kind := .heading 1, children := [{ kind := .escaped, children := [image] }] }] }
    LeavesChildless [root] ∧
      ¬ ∃ events, (root.toDocument (some "notes.md")).toEvents {} = .ok events := by
  intro footnote image root
  have childless : LeavesChildless [root] := by decide
  refine ⟨childless, ?_⟩
  intro rendered
  have supported := (toEvents_toDocument_iff_supported childless (some "notes.md") {}).1.mp rendered
  exact absurd supported (by decide)

end Markdown

end TopicPress
