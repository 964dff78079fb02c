import TopicPress.Markdown.ToDocument

/-!
# Converting Markdown trees piece by piece

The conversion merges neighbouring texts while it goes along, so what becomes of a node depends on
the nodes beside it.  Still it can be taken apart: converting nodes in two parts and merging at the
seam gives what converting all of them gives.  From this it follows that a node that only groups
others might as well not be there.
-/

namespace TopicPress.Markdown

/-- What holds of no nodes, and goes on to hold when a node comes first of whose children it holds,
holds of all lists of nodes. -/
@[elab_as_elim]
theorem Node.forestInduction {motive : List Node → Prop} (nil : motive [])
    (cons : ∀ kind position children rest, motive children → motive rest →
      motive (⟨kind, position, children⟩ :: rest)) :
    ∀ nodes, motive nodes
  | [] => nil
  | ⟨kind, position, children⟩ :: rest =>
      cons kind position children rest (forestInduction nil cons children)
        (forestInduction nil cons rest)

/-! ## Nodes in order -/

mutual

/-- A node and everything below it, parents before their children. -/
def Node.preorder (node : Node) : List Node :=
  match node with
  | ⟨kind, position, children⟩ => ⟨kind, position, children⟩ :: Node.preorderAll children

/-- The nodes of a list of trees, parents before their children. -/
def Node.preorderAll : List Node → List Node
  | [] => []
  | node :: rest => node.preorder ++ Node.preorderAll rest

end

@[simp] theorem Node.preorderAll_nil : Node.preorderAll [] = [] := by
  rw [Node.preorderAll]

@[simp] theorem Node.preorderAll_cons (kind : Kind) (position : SourcePosition)
    (children rest : List Node) :
    Node.preorderAll (⟨kind, position, children⟩ :: rest) =
      ⟨kind, position, children⟩ :: (Node.preorderAll children ++ Node.preorderAll rest) := by
  rw [Node.preorderAll, Node.preorder, List.cons_append]

theorem Node.preorderAll_append (first second : List Node) :
    Node.preorderAll (first ++ second) = Node.preorderAll first ++ Node.preorderAll second := by
  induction first with
  | nil => simp
  | cons node rest inductionHypothesis =>
      rw [List.cons_append, Node.preorderAll, inductionHypothesis, Node.preorderAll,
        List.append_assoc]

/-- What holds of all nodes of trees holds of the first node, of all nodes below it and of all nodes
of the later trees. -/
theorem Node.forall_mem_preorderAll_cons {holds : Node → Prop} {kind : Kind}
    {position : SourcePosition} {children rest : List Node}
    (all : ∀ node ∈ Node.preorderAll (⟨kind, position, children⟩ :: rest), holds node) :
    holds ⟨kind, position, children⟩ ∧ (∀ node ∈ Node.preorderAll children, holds node) ∧
      ∀ node ∈ Node.preorderAll rest, holds node := by
  rw [Node.preorderAll_cons, List.forall_mem_cons, List.forall_mem_append] at all
  exact all

/-! ## Merging -/

/-- A node is put before others as it is, unless two texts are made one. -/
theorem consMerging_cases (node : TopicPress.Node) (nodes : List TopicPress.Node) :
    consMerging node nodes = node :: nodes ∨
      ∃ first second position children more, node.kind = .text first ∧
        nodes = ⟨.text second, position, children⟩ :: more ∧
        consMerging node nodes =
          ⟨.text (first ++ second), node.position, node.children⟩ :: more := by
  unfold consMerging
  split
  · rename_i first second position children more isText
    exact .inr ⟨first, second, position, children, more, isText, rfl, rfl⟩
  · exact .inl rfl

/-- Of three texts it makes no difference which two are merged first. -/
private theorem consMerging_text_consMerging {node : TopicPress.Node} {first : String}
    (isText : node.kind = .text first) (second : String) (position : Option SourcePosition)
    (children nodes : List TopicPress.Node) :
    consMerging node (consMerging ⟨.text second, position, children⟩ nodes) =
      consMerging ⟨.text (first ++ second), node.position, node.children⟩ nodes := by
  cases nodes with
  | nil => simp only [consMerging, isText]
  | cons next more =>
      rcases next with ⟨kind, nextPosition, nextChildren⟩
      cases kind with
      | text third => simp only [consMerging, isText, String.append_assoc]
      | _ => simp only [consMerging, isText]

/-- Merging a node into nodes that are themselves merged into others, in either order. -/
theorem foldr_consMerging_consMerging (node : TopicPress.Node) (nodes later : List TopicPress.Node) :
    (consMerging node nodes).foldr consMerging later =
      consMerging node (nodes.foldr consMerging later) := by
  rcases consMerging_cases node nodes with
    apart | ⟨first, second, position, children, more, isText, rfl, merged⟩
  · rw [apart, List.foldr_cons]
  · rw [merged, List.foldr_cons, List.foldr_cons, consMerging_text_consMerging isText]

@[simp] theorem Node.convertAll_nil : Node.convertAll [] = [] := by
  rw [Node.convertAll]

theorem Node.convertAll_cons (node : Node) (rest : List Node) :
    Node.convertAll (node :: rest) = node.convert.foldr consMerging (Node.convertAll rest) := by
  rw [Node.convertAll]

private theorem foldr_foldr_consMerging (nodes early late : List TopicPress.Node) :
    (nodes.foldr consMerging early).foldr consMerging late =
      nodes.foldr consMerging (early.foldr consMerging late) := by
  induction nodes with
  | nil => rfl
  | cons node rest inductionHypothesis =>
      rw [List.foldr_cons, List.foldr_cons, foldr_consMerging_consMerging, inductionHypothesis]

/-- Nodes can be converted in two parts that are merged at the seam. -/
theorem Node.convertAll_append (first second : List Node) :
    Node.convertAll (first ++ second) =
      (Node.convertAll first).foldr consMerging (Node.convertAll second) := by
  induction first with
  | nil => simp
  | cons node rest inductionHypothesis =>
      rw [List.cons_append, Node.convertAll_cons, inductionHypothesis, Node.convertAll_cons,
        foldr_foldr_consMerging]

/-- What is converted is merged already. -/
theorem Node.foldr_convertAll (nodes : List Node) :
    (Node.convertAll nodes).foldr consMerging [] = Node.convertAll nodes := by
  have whole := Node.convertAll_append nodes []
  rw [List.append_nil, Node.convertAll_nil] at whole
  exact whole.symm

/-- What takes the place of a node is what converting it alone gives. -/
theorem Node.convertAll_singleton (node : Node) : Node.convertAll [node] = node.convert := by
  rcases node with ⟨kind, position, children⟩
  rw [Node.convertAll_cons, Node.convertAll_nil, Node.convert]
  cases kind.counterpart with
  | children => exact Node.foldr_convertAll children
  | node counterpart => cases counterpart <;> rfl

/-! ## Groups -/

/-- The kinds of nodes that only group others. -/
def Kind.isGroup : Kind → Bool
  | document => true
  | escaped => true
  | _ => false

theorem Kind.isGroup_eq_true_iff (kind : Kind) :
    kind.isGroup = true ↔ kind.counterpart = .children := by
  cases kind <;> simp [isGroup, counterpart]

mutual

/-- A node, or in place of a group what it groups. -/
def Node.expand (node : Node) : List Node :=
  match node with
  | ⟨kind, position, children⟩ =>
    if kind.isGroup then Node.expandAll children else [⟨kind, position, children⟩]

/-- Nodes with what they group in place of groups, at the top level. -/
def Node.expandAll : List Node → List Node
  | [] => []
  | node :: rest => node.expand ++ Node.expandAll rest

end

theorem Node.expandAll_nil : Node.expandAll [] = [] := by
  rw [Node.expandAll]

theorem Node.expandAll_cons (kind : Kind) (position : SourcePosition) (children rest : List Node) :
    Node.expandAll (⟨kind, position, children⟩ :: rest) =
      (if kind.isGroup then Node.expandAll children else [⟨kind, position, children⟩])
        ++ Node.expandAll rest := by
  rw [Node.expandAll, Node.expand]

/-- No group is left at the top level. -/
theorem Node.isGroup_of_mem_expandAll (nodes : List Node) :
    ∀ node ∈ Node.expandAll nodes, node.kind.isGroup = false := by
  induction nodes using Node.forestInduction with
  | nil => simp [Node.expandAll_nil]
  | cons kind position children rest inChildren inRest =>
      rw [Node.expandAll_cons, List.forall_mem_append]
      refine ⟨?_, inRest⟩
      cases group : kind.isGroup with
      | true => simpa using inChildren
      | false => simpa using group

/-- Expanding takes nodes away and adds none. -/
theorem Node.preorderAll_expandAll_sublist (nodes : List Node) :
    List.Sublist (Node.preorderAll (Node.expandAll nodes)) (Node.preorderAll nodes) := by
  induction nodes using Node.forestInduction with
  | nil => simp [Node.expandAll_nil]
  | cons kind position children rest inChildren inRest =>
      rw [Node.expandAll_cons, Node.preorderAll_append, Node.preorderAll_cons, ← List.cons_append]
      refine List.Sublist.append ?_ inRest
      cases kind.isGroup with
      | true => exact inChildren.cons _
      | false => simp

/-- A group gives way to what it groups. -/
theorem Node.convert_of_isGroup {kind : Kind} (isGroup : kind.isGroup = true)
    (position : SourcePosition) (children : List Node) :
    Node.convert ⟨kind, position, children⟩ = Node.convertAll children := by
  rw [Node.convert, (Kind.isGroup_eq_true_iff kind).mp isGroup]

/-- Groups make no difference to what becomes of nodes. -/
theorem Node.convertAll_expandAll (nodes : List Node) :
    Node.convertAll (Node.expandAll nodes) = Node.convertAll nodes := by
  induction nodes using Node.forestInduction with
  | nil => rw [Node.expandAll_nil]
  | cons kind position children rest inChildren inRest =>
      rw [Node.expandAll_cons, Node.convertAll_append, inRest, Node.convertAll_cons]
      congr 1
      cases group : kind.isGroup with
      | true => rw [if_pos rfl, inChildren, Node.convert_of_isGroup group]
      | false => exact Node.convertAll_singleton _

/-- A node that is no group has one node in its place. -/
theorem Node.convert_of_not_group {node : Node} (single : node.kind.isGroup = false) :
    ∃ counterpart, node.kind.counterpart = .node counterpart ∧
      node.convert = [⟨counterpart, position? node.position, Node.convertAll node.children⟩] := by
  rcases node with ⟨kind, position, children⟩
  cases found : kind.counterpart with
  | children =>
      have group := (Kind.isGroup_eq_true_iff kind).mpr found
      rw [single] at group
      cases group
  | node counterpart =>
      refine ⟨counterpart, rfl, ?_⟩
      rw [Node.convert, found]

/-- Nothing becomes of nodes only if all of them are groups of nothing. -/
theorem Node.convertAll_eq_nil_iff (nodes : List Node) :
    Node.convertAll nodes = [] ↔ Node.expandAll nodes = [] := by
  rw [← Node.convertAll_expandAll]
  have single := Node.isGroup_of_mem_expandAll nodes
  cases expanded : Node.expandAll nodes with
  | nil => simp
  | cons node rest =>
      rw [expanded] at single
      rcases Node.convert_of_not_group (single node List.mem_cons_self) with
        ⟨counterpart, _, converted⟩
      rw [Node.convertAll_cons, converted, List.foldr_cons, List.foldr_nil]
      rcases consMerging_cases ⟨counterpart, position? node.position,
        Node.convertAll node.children⟩ (Node.convertAll rest) with
          apart | ⟨first, second, position, children, more, isText, seam, merged⟩
      · simp [apart]
      · simp [merged]

/-! ## Measures of what is converted -/

/-- What is measured of nodes adds up over a list, and it makes no difference to it how a text is
divided. -/
structure Additive {Item : Type} (measure : List TopicPress.Node → List Item) : Prop where
  nil : measure [] = []
  cons : ∀ node rest, measure (node :: rest) = measure [node] ++ measure rest
  text : ∀ first second position nextPosition children nextChildren,
    measure [⟨.text (first ++ second), position, children⟩] =
      measure [⟨.text first, position, children⟩]
        ++ measure [⟨.text second, nextPosition, nextChildren⟩]

namespace Additive

variable {Item : Type} {measure : List TopicPress.Node → List Item}

theorem consMerging (additive : Additive measure) (node : TopicPress.Node)
    (nodes : List TopicPress.Node) :
    measure (consMerging node nodes) = measure [node] ++ measure nodes := by
  rcases consMerging_cases node nodes with
    apart | ⟨first, second, position, children, more, isText, rfl, merged⟩
  · rw [apart, additive.cons]
  · rcases node with ⟨kind, nodePosition, nodeChildren⟩
    cases isText
    rw [merged, additive.cons _ more,
      additive.text first second nodePosition position nodeChildren children, List.append_assoc,
      ← additive.cons ⟨.text second, position, children⟩ more]

theorem foldr_consMerging (additive : Additive measure) (nodes later : List TopicPress.Node) :
    measure (nodes.foldr Markdown.consMerging later) = measure nodes ++ measure later := by
  induction nodes with
  | nil => rw [List.foldr_nil, additive.nil, List.nil_append]
  | cons node rest inductionHypothesis =>
      rw [List.foldr_cons, additive.consMerging, inductionHypothesis, additive.cons node rest,
        List.append_assoc]

/-- The measure of what is converted adds up as well. -/
theorem convertAll_cons (additive : Additive measure) (node : Node) (rest : List Node) :
    measure (Node.convertAll (node :: rest)) =
      measure node.convert ++ measure (Node.convertAll rest) := by
  rw [Node.convertAll_cons, additive.foldr_consMerging]

end Additive

end TopicPress.Markdown
