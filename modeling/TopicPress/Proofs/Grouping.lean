import Mathlib.Logic.Relation
import TopicPress.Proofs.Merging

/-!
# Groups cannot be seen

Whether nodes are put into a group or stand side by side makes no difference to the document, however
often it is done and however deeply.  The texts of a group are merged first, and then with what stands
beside the group; that this comes to the same as merging all of them in one go is what
`Node.convertAll_append` says.  No group says anything that a notice would be left of, either.
-/

namespace TopicPress.Markdown

/-! ## Putting nodes into groups -/

/-- A run of consecutive nodes is put into a group, among the nodes of a list or among the children of
one of them, at any depth. -/
inductive Node.Grouping : List Node → List Node → Prop
  | here {kind : Kind} (isGroup : kind.isGroup = true) (position : SourcePosition)
      (before run after : List Node) :
      Grouping (before ++ run ++ after) (before ++ ⟨kind, position, run⟩ :: after)
  | inside (kind : Kind) (position : SourcePosition) (before after : List Node)
      {children grouped : List Node} (grouping : Grouping children grouped) :
      Grouping (before ++ ⟨kind, position, children⟩ :: after)
        (before ++ ⟨kind, position, grouped⟩ :: after)

/-- A run of consecutive nodes somewhere below a root is put into a group. -/
inductive Node.GroupedBelow : Node → Node → Prop
  | ofChildren (kind : Kind) (position : SourcePosition) {children grouped : List Node}
      (grouping : Grouping children grouped) :
      GroupedBelow ⟨kind, position, children⟩ ⟨kind, position, grouped⟩

namespace Node

/-! ## The document -/

/-- What becomes of a node depends on its children only through what becomes of them. -/
theorem convert_congr (kind : Kind) (position : SourcePosition) {children grouped : List Node}
    (same : convertAll grouped = convertAll children) :
    Node.convert ⟨kind, position, grouped⟩ = Node.convert ⟨kind, position, children⟩ := by
  rw [Node.convert, Node.convert, same]

theorem convertAll_of_grouping {nodes grouped : List Node} (grouping : Grouping nodes grouped) :
    convertAll grouped = convertAll nodes := by
  induction grouping with
  | here isGroup position before run after =>
      rw [convertAll_append, convertAll_cons, convert_of_isGroup isGroup, List.append_assoc,
        convertAll_append before, convertAll_append run]
  | inside kind position before after _ inductionHypothesis =>
      rw [convertAll_append, convertAll_cons, convert_congr kind position inductionHypothesis,
        ← convertAll_cons, ← convertAll_append]

theorem convert_of_groupedBelow {root grouped : Node} (grouping : GroupedBelow root grouped) :
    grouped.convert = root.convert := by
  cases grouping with
  | ofChildren kind position grouping =>
      exact convert_congr kind position (convertAll_of_grouping grouping)

/-! ## Notices -/

theorem noticesAll_append (first second : List Node) :
    noticesAll (first ++ second) = noticesAll first ++ noticesAll second := by
  induction first with
  | nil => rw [noticesAll, List.nil_append, List.nil_append]
  | cons node rest inductionHypothesis =>
      rw [List.cons_append, noticesAll, inductionHypothesis, noticesAll, List.append_assoc]

theorem notices_of_isGroup {kind : Kind} (isGroup : kind.isGroup = true) (position : SourcePosition)
    (children : List Node) : Node.notices ⟨kind, position, children⟩ = noticesAll children := by
  have silent : kind.notices = [] := by
    cases kind <;> first | rfl | cases isGroup
  rw [Node.notices, silent, List.nil_append]

theorem noticesAll_of_grouping {nodes grouped : List Node} (grouping : Grouping nodes grouped) :
    noticesAll grouped = noticesAll nodes := by
  induction grouping with
  | here isGroup position before run after =>
      rw [noticesAll_append, noticesAll, notices_of_isGroup isGroup, List.append_assoc,
        noticesAll_append before, noticesAll_append run]
  | inside kind position before after _ inductionHypothesis =>
      rw [noticesAll_append, noticesAll_append, noticesAll, noticesAll, Node.notices, Node.notices,
        inductionHypothesis]

theorem notices_of_groupedBelow {root grouped : Node} (grouping : GroupedBelow root grouped) :
    grouped.notices = root.notices := by
  cases grouping with
  | ofChildren kind position grouping =>
      rw [Node.notices, Node.notices, noticesAll_of_grouping grouping]

/-! ## Conversions -/

/-- Any number of runs below a root can be put into groups, one after the other, and the document stays
the same with all positions in it, and so do the notices that the conversion leaves; and they stay the
same if the root is put below a document node. -/
theorem toDocument_grouped (root : Node) (name : Option String) :
    (∀ grouped, Relation.ReflTransGen GroupedBelow root grouped →
      grouped.toDocument name = root.toDocument name ∧ grouped.notices = root.notices) ∧
    ∀ position, Node.toDocument ⟨.document, position, [root]⟩ name = root.toDocument name ∧
      Node.notices ⟨.document, position, [root]⟩ = root.notices := by
  constructor
  · intro grouped groupings
    induction groupings with
    | refl => exact ⟨rfl, rfl⟩
    | tail _ last inductionHypothesis =>
        rcases inductionHypothesis with ⟨document, notices⟩
        constructor
        · rw [← document, toDocument, convert_of_groupedBelow last, ← toDocument]
        · rw [← notices, notices_of_groupedBelow last]
  · intro position
    have alone : Node.convert ⟨.document, position, [root]⟩ = convertAll [root] :=
      convert_of_isGroup rfl position [root]
    constructor
    · rw [toDocument, alone, convertAll_singleton, ← toDocument]
    · rw [notices_of_isGroup rfl, noticesAll, noticesAll, List.append_nil]

/-- The pieces of a text, two of them in a group, and then that group in another one. -/
theorem toDocument_grouped_twice :
    let pieces : List Node :=
      [{ kind := .text "a", position := ⟨1, 1⟩ }, { kind := .softBreak, position := ⟨1, 2⟩ },
        { kind := .text "b", position := ⟨2, 1⟩ }]
    let group : Node := { kind := .escaped, position := ⟨1, 2⟩, children := pieces.drop 1 }
    let root : Node := { kind := .document, children := [{ kind := .paragraph, children := pieces }] }
    let once : Node :=
      { kind := .document
        children := [{ kind := .paragraph, children := pieces.take 1 ++ [group] }] }
    let twice : Node :=
      { kind := .document
        children := [{ kind := .paragraph
                       children := pieces.take 1 ++ [{ kind := .document, children := [group] }] }] }
    GroupedBelow root once ∧ GroupedBelow once twice ∧
      twice.toDocument none = root.toDocument none := by
  intro pieces group root once twice
  have first : GroupedBelow root once :=
    .ofChildren _ _ (.inside _ _ [] [] (.here rfl ⟨1, 2⟩ (pieces.take 1) (pieces.drop 1) []))
  have second : GroupedBelow once twice :=
    .ofChildren _ _ (.inside _ _ [] [] (.here rfl ⟨0, 0⟩ (pieces.take 1) [group] []))
  have groupings := (Relation.ReflTransGen.single first).tail second
  exact ⟨first, second, ((toDocument_grouped root none).1 twice groupings).1⟩

end Node

end TopicPress.Markdown
