import TopicPress.Topic.Serialize

/-!
# The nodes of a document

What becomes of the nodes at the top of a document is settled by their kinds and their order.  The
first heading is for the title, the first front matter for the prolog, and what remains is for the body,
where each further heading begins a section.  This is written down here with nothing but the kinds, in
one pass over the nodes.  The renderer takes the title and the prolog out one after the other, and what
it finds is the same.
-/

namespace TopicPress

/-! ## All nodes -/

mutual

/-- A node and everything below it, parents before their children. -/
def Node.preorder (node : Node) : List Node :=
  match node with
  | ⟨kind, position, children⟩ => ⟨kind, position, children⟩ :: Node.preorderAll children

/-- The nodes of a list of trees, parents before their children. -/
def Node.preorderAll : List Node → List Node
  | [] => []
  | node :: rest => node.preorder ++ Node.preorderAll rest

end

theorem Node.preorderAll_eq_flatMap (nodes : List Node) :
    Node.preorderAll nodes = nodes.flatMap Node.preorder := by
  induction nodes with
  | nil => rw [Node.preorderAll, List.flatMap_nil]
  | cons node rest inductionHypothesis =>
      rw [Node.preorderAll, inductionHypothesis, List.flatMap_cons]

/-! ## The nodes at the top -/

/-- The headings among nodes, in their order. -/
def Node.headings : List Node → List Node
  | [] => []
  | node :: rest =>
    match node.kind with
    | .heading _ => node :: Node.headings rest
    | _ => Node.headings rest

/-- The front matter among nodes, in its order. -/
def Node.headers : List Node → List FrontMatter
  | [] => []
  | node :: rest =>
    match node.kind with
    | .frontMatter header => header :: Node.headers rest
    | _ => Node.headers rest

/-- What remains of nodes without the first heading and the first front matter; `titled` and `headed`
say that these have been taken before. -/
def Node.remaining (titled headed : Bool) : List Node → List Node
  | [] => []
  | node :: rest =>
    match node.kind with
    | .heading _ => (if titled then [node] else []) ++ Node.remaining true headed rest
    | .frontMatter _ => (if headed then [node] else []) ++ Node.remaining titled true rest
    | _ => node :: Node.remaining titled headed rest

/-- The nodes before the first heading, and each heading with the nodes between it and the next. -/
def divided : List Node → List Node × List (Node × List Node)
  | [] => ([], [])
  | node :: rest =>
    let (leading, sections) := divided rest
    match node.kind with
    | .heading _ => ([], (node, leading) :: sections)
    | _ => (node :: leading, sections)

namespace Document

/-- The heading that the title is made of. -/
def titleHeading? (document : Document) : Option Node := (Node.headings document.children).head?

/-- The front matter that the prolog is made of. -/
def header? (document : Document) : Option FrontMatter := (Node.headers document.children).head?

/-- The nodes that the body is made of. -/
def remaining (document : Document) : List Node := Node.remaining false false document.children

end Document

/-! ## One node after the other -/

section Steps

variable (node : Node) (rest : List Node)

theorem Node.headings_cons :
    Node.headings (node :: rest) =
      if node.kind.isHeading then node :: Node.headings rest else Node.headings rest := by
  rcases node with ⟨kind, position, children⟩
  cases kind <;> rfl

theorem Node.headers_cons :
    Node.headers (node :: rest) = node.kind.frontMatter?.toList ++ Node.headers rest := by
  rcases node with ⟨kind, position, children⟩
  cases kind <;> rfl

variable {node}

theorem Node.remaining_heading (heading : node.kind.isHeading = true) (titled headed : Bool) :
    Node.remaining titled headed (node :: rest) =
      (if titled then [node] else []) ++ Node.remaining true headed rest := by
  rcases node with ⟨kind, position, children⟩
  cases kind with
  | heading level => rfl
  | _ => cases heading

theorem Node.remaining_frontMatter (frontMatter : node.kind.frontMatter?.isSome = true)
    (titled headed : Bool) :
    Node.remaining titled headed (node :: rest) =
      (if headed then [node] else []) ++ Node.remaining titled true rest := by
  rcases node with ⟨kind, position, children⟩
  cases kind with
  | frontMatter header => rfl
  | _ => cases frontMatter

theorem Node.remaining_other (block : node.kind.isHeading = false)
    (other : node.kind.frontMatter?.isSome = false) (titled headed : Bool) :
    Node.remaining titled headed (node :: rest) = node :: Node.remaining titled headed rest := by
  rcases node with ⟨kind, position, children⟩
  cases kind with
  | heading level => cases block
  | frontMatter header => exact nomatch (other : true = false)
  | _ => rfl

theorem divided_heading (heading : node.kind.isHeading = true) :
    divided (node :: rest) = ([], (node, (divided rest).1) :: (divided rest).2) := by
  rcases node with ⟨kind, position, children⟩
  cases kind with
  | heading level => rfl
  | _ => cases heading

theorem divided_block (block : node.kind.isHeading = false) :
    divided (node :: rest) = (node :: (divided rest).1, (divided rest).2) := by
  rcases node with ⟨kind, position, children⟩
  cases kind with
  | heading level => cases block
  | _ => rfl

end Steps

theorem NodeKind.isHeading_of_frontMatter {kind : NodeKind}
    (frontMatter : kind.frontMatter?.isSome = true) : kind.isHeading = false := by
  cases kind with
  | frontMatter header => rfl
  | _ => cases frontMatter

/-! ## What the renderer finds -/

theorem Node.headings_eq_filter (nodes : List Node) :
    Node.headings nodes = nodes.filter (fun node => node.kind.isHeading) := by
  induction nodes with
  | nil => rfl
  | cons node rest inductionHypothesis =>
      rw [Node.headings_cons, List.filter_cons, inductionHypothesis]

theorem Node.headers_eq_filterMap (nodes : List Node) :
    Node.headers nodes = nodes.filterMap (fun node => node.kind.frontMatter?) := by
  induction nodes with
  | nil => rfl
  | cons node rest inductionHypothesis =>
      rw [Node.headers_cons, List.filterMap_cons, inductionHypothesis]
      cases node.kind.frontMatter? <;> rfl

/-- Taking out both in one pass comes to the same as taking out one and then the other. -/
theorem Node.remaining_eq_eraseP (nodes : List Node) :
    ∀ titled headed, Node.remaining titled headed nodes =
      let untitled := if titled then nodes else nodes.eraseP (fun node => node.kind.isHeading)
      if headed then untitled else untitled.eraseP (fun node => node.kind.frontMatter?.isSome) := by
  induction nodes with
  | nil => intro titled headed; cases titled <;> cases headed <;> rfl
  | cons node rest inductionHypothesis =>
      intro titled headed
      cases frontMatter : node.kind.frontMatter?.isSome with
      | true =>
          have block := NodeKind.isHeading_of_frontMatter frontMatter
          rw [Node.remaining_frontMatter rest frontMatter, inductionHypothesis]
          cases titled <;> cases headed <;> simp [block, frontMatter]
      | false =>
          cases heading : node.kind.isHeading with
          | true =>
              rw [Node.remaining_heading rest heading, inductionHypothesis]
              cases titled <;> cases headed <;> simp [heading, frontMatter]
          | false =>
              rw [Node.remaining_other rest heading frontMatter, inductionHypothesis]
              cases titled <;> cases headed <;> simp [heading, frontMatter]

namespace Document

variable (document : Document)

theorem titleHeading?_eq : document.titleHeading? = document.firstHeading? := by
  rw [titleHeading?, Node.headings_eq_filter, List.head?_filter, firstHeading?]

theorem header?_eq : document.header? = document.frontMatter? := by
  rw [header?, Node.headers_eq_filterMap, List.head?_filterMap, frontMatter?]

theorem remaining_eq : document.remaining = document.bodyBlocks :=
  Node.remaining_eq_eraseP document.children false false

end Document

end TopicPress
