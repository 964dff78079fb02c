import TopicPress.Proofs.TopicLayout

/-!
# The table of elements

The mapping of nodes to elements, as a table that does not look at the renderer: each kind has its
row, with the name, the class and the attributes of its element spelled out and with what stands in
it.  A document is translated row by row, its nodes below each other as they are.  What is delivered
for a document is read back as a tree, and the title and the body of that tree are the translation.

The attributes of a cross-reference are a parameter of the table.  Addresses that lead outside are
marked as such; the renderer also marks a target within the publication that is a Markdown file.
-/

namespace TopicPress

/-! ## Attributes -/

namespace Link

/-- The target, and for an absolute address that it is a web page outside. -/
def scopeAttributes (target : String) : List Attribute :=
  if (Url.parse? target).isSome then
    [⟨"href", target⟩, ⟨"scope", "external"⟩, ⟨"format", "html"⟩]
  else [⟨"href", target⟩]

/-- The same, and for any other target that names a Markdown file its format. -/
def formatAttributes (target : String) : List Attribute :=
  if (Url.parse? target).isNone ∧ isMarkdownPath target.toList = true then
    scopeAttributes target ++ [⟨"format", "markdown"⟩]
  else scopeAttributes target

theorem attributes_eq (target : String) : attributes target = formatAttributes target := by
  rw [attributes, hints, formatAttributes, scopeAttributes]
  cases Url.parse? target with
  | some address => rfl
  | none => cases isMarkdownPath target.toList <;> rfl

end Link

/-- The level of a heading. -/
def NodeKind.levelAttributes : NodeKind → List Attribute
  | .heading level => [⟨"outputclass", "h" ++ toString level⟩]
  | _ => []

/-! ## The table -/

section Table

variable (links : String → List Attribute)

/-- What stands for a node of some kind, where `content` stands for its children; `childless` says
that it has none. -/
def NodeKind.row (childless : Bool) (content : List EventTree) : NodeKind → List EventTree
  | heading level => [.element "p" "- topic/p " (heading level).levelAttributes content]
  | paragraph => [.element "p" "- topic/p " [] content]
  | list false _ => [.element "ul" "- topic/ul " [] content]
  | list true start =>
    [.element "ol" "- topic/ol "
      ((start.filter (· ≠ 1)).toList.map fun number => ⟨"start", toString number⟩) content]
  | listItem => [.element "li" "- topic/li " [] content]
  | codeBlock language literal =>
    [.element "codeblock" "+ topic/pre pr-d/codeblock "
      ((language.filter (· ≠ "")).toList.map fun name => ⟨"outputclass", name⟩)
      (.characters literal :: content)]
  | blockQuote => [.element "lq" "- topic/lq " [] content]
  | table => [.element "simpletable" "- topic/simpletable " [] content]
  | tableRow true => [.element "sthead" "- topic/sthead " [] content]
  | tableRow false => [.element "strow" "- topic/strow " [] content]
  | tableCell => [.element "stentry" "- topic/stentry " [] content]
  | frontMatter _ => []
  | thematicBreak => [.element "p" "- topic/p " [⟨"outputclass", "thematic-break"⟩] []]
  | rawBlock raw =>
    [.element "required-cleanup" "- topic/required-cleanup " [] (.characters raw :: content)]
  | rawInline raw =>
    [.element "required-cleanup" "- topic/required-cleanup " [] (.characters raw :: content)]
  | text shown => [.characters shown]
  | lineBreak => [.characters "\n"]
  | emphasis => [.element "i" "+ topic/ph hi-d/i " [] content]
  | strong => [.element "b" "+ topic/ph hi-d/b " [] content]
  | strikethrough => [.element "line-through" "+ topic/ph hi-d/line-through " [] content]
  | superscript => [.element "sup" "+ topic/ph hi-d/sup " [] content]
  | subscript => [.element "sub" "+ topic/ph hi-d/sub " [] content]
  | codeSpan literal =>
    [.element "codeph" "+ topic/ph pr-d/codeph " [] (.characters literal :: content)]
  | link url _ => [.element "xref" "- topic/xref " (links url) content]
  | image url title =>
    [.element "image" "- topic/image " [⟨"href", url⟩]
      (if childless = false then [.element "alt" "- topic/alt " [] content]
      else if title = "" then []
      else [.element "alt" "- topic/alt " [] [.characters title]])]
  | unsupported _ => []

mutual

/-- What stands for a node and everything below it. -/
def Node.translation (node : Node) : List EventTree :=
  match node with
  | ⟨kind, _, children⟩ => kind.row links children.isEmpty (Node.translationAll children)

/-- What stands for nodes, one node after the other. -/
def Node.translationAll : List Node → List EventTree
  | [] => []
  | node :: rest => node.translation ++ Node.translationAll rest

end

/-- The title that stands for a heading at the top level. -/
def Node.titleTranslation (heading : Node) : EventTree :=
  .element "title" "- topic/title " heading.kind.levelAttributes
    (Node.translationAll links heading.children)

/-- The section that stands for a heading and the nodes after it. -/
def sectionTranslation (part : Node × List Node) : EventTree :=
  .element "section" "- topic/section " []
    (part.1.titleTranslation links :: Node.translationAll links part.2)

namespace Document

/-- The title of a topic, which is there and empty without a heading. -/
def titleTranslation (document : Document) : EventTree :=
  match document.titleHeading? with
  | some heading => heading.titleTranslation links
  | none => .element "title" "- topic/title " [] []

/-- The body of a topic, if there is a node for it. -/
def bodyTranslation (document : Document) : List EventTree :=
  if document.remaining.isEmpty then []
  else
    [.element "body" "- topic/body " []
      (Node.translationAll links (divided document.remaining).1
        ++ (divided document.remaining).2.map (sectionTranslation links))]

/-- The title and the body of a topic are the translation of a document; between them is nothing but
a prolog. -/
def TranslatesTo (document : Document) (topic : EventTree) : Prop :=
  ∃ attributes prolog,
    topic = .element "topic" "- topic/topic " attributes
      (document.titleTranslation links :: (prolog ++ document.bodyTranslation links)) ∧
    ∀ tree ∈ prolog, ∃ content, tree = .element "prolog" "- topic/prolog " [] content

end Document

@[simp] theorem Node.translationAll_nil : Node.translationAll links [] = [] := by
  rw [Node.translationAll]

@[simp] theorem Node.translationAll_cons (node : Node) (rest : List Node) :
    Node.translationAll links (node :: rest) =
      node.translation links ++ Node.translationAll links rest := by
  rw [Node.translationAll]

end Table

/-! ## Trees by the table -/

theorem listStart_eq (start : Option Nat) :
    listStart start =
      (start.filter (· ≠ 1)).toList.map (fun number => ⟨"start", toString number⟩) := by
  cases start with
  | none => rfl
  | some number =>
      by_cases one : number = 1
      · subst one
        rfl
      · rw [listStart]
        · simp [Option.filter, one]
        · exact one

theorem codeLanguage_eq (language : Option String) :
    codeLanguage language =
      (language.filter (· ≠ "")).toList.map (fun name => ⟨"outputclass", name⟩) := by
  cases language with
  | none => rfl
  | some name =>
      by_cases empty : name = ""
      · subst empty
        rfl
      · simp [codeLanguage, Option.filter, empty]

/-- The rule of a kind follows its row. -/
theorem NodeKind.trees_rule_eq_row (kind : NodeKind) (childless : Bool)
    (content : List EventTree) :
    kind.rule.trees childless content = kind.row Link.formatAttributes childless content := by
  cases kind with
  | list ordered start =>
      cases ordered with
      | false => rfl
      | true =>
          rw [row, ← listStart_eq]
          rfl
  | codeBlock language literal =>
      rw [row, ← codeLanguage_eq]
      rfl
  | tableRow header => cases header <;> rfl
  | link url title =>
      rw [row, ← Link.attributes_eq]
      rfl
  | image url title =>
      simp only [rule, RenderRule.trees, row, ← String.isEmpty_iff]
      cases childless <;> cases title.isEmpty <;> rfl
  | _ => rfl

theorem Node.treesAll_eq_translationAll (nodes : List Node) :
    Node.treesAll nodes = Node.translationAll Link.formatAttributes nodes := by
  induction nodes using Node.forestInduction with
  | nil => rw [Node.treesAll_nil, Node.translationAll_nil]
  | cons kind position children rest inChildren inRest =>
      rw [Node.treesAll_cons, Node.translationAll_cons, Node.trees_eq, Node.translation,
        NodeKind.trees_rule_eq_row, inChildren, inRest]

theorem titleTree_eq_translation (heading : Node) :
    titleTree heading = heading.titleTranslation Link.formatAttributes := by
  rw [titleTree, Node.treesAll_eq_translationAll]
  cases heading with
  | mk kind position children => cases kind <;> rfl

/-- The blocks before the first section and the sections are the translation of the parts that the
headings divide the body into. -/
theorem sectionTrees_eq_translation (nodes : List Node) :
    sectionTrees nodes =
      (Node.translationAll Link.formatAttributes (divided nodes).1,
        (divided nodes).2.map (sectionTranslation Link.formatAttributes)) := by
  have each : ∀ node : Node, node.trees = node.translation Link.formatAttributes := by
    intro node
    have alone := Node.treesAll_eq_translationAll [node]
    simpa using alone
  induction nodes with
  | nil => rw [sectionTrees, divided, Node.translationAll_nil, List.map_nil]
  | cons node rest inductionHypothesis =>
      cases heading : node.kind.isHeading with
      | true =>
          rw [sectionTrees_heading heading, divided_heading rest heading, inductionHypothesis,
            titleTree_eq_translation]
          rfl
      | false =>
          rw [sectionTrees_block heading, divided_block rest heading, inductionHypothesis, each,
            Node.translationAll_cons]

/-! ## What is delivered -/

namespace Document

theorem topicTree_translates (options : RenderOptions) (document : Document) :
    document.TranslatesTo Link.formatAttributes (document.topicTree options) := by
  have title : document.topicTitleTree = document.titleTranslation Link.formatAttributes := by
    rw [topicTitleTree, titleTranslation, titleHeading?_eq]
    cases document.firstHeading? with
    | none => rfl
    | some heading => exact titleTree_eq_translation heading
  have body : document.bodyTrees = document.bodyTranslation Link.formatAttributes := by
    rw [bodyTrees, bodyTranslation, remaining_eq, sectionTrees_eq_translation]
    rfl
  refine ⟨document.topicAttributes options, document.prologTrees options, ?_, ?_⟩
  · rw [topicTree, topicContent, title, body]
    rfl
  · intro tree member
    rw [prologTrees] at member
    cases given : document.frontMatter? with
    | none =>
        rw [given] at member
        cases member
    | some header =>
        rw [given] at member
        exact ⟨Prolog.trees options header, List.mem_singleton.mp member⟩

/-- What is delivered for a document is read back as a topic whose title and body are the
translation of the document by the table, with the format of links to Markdown files. -/
theorem toEvents_translates {options : RenderOptions} {document : Document} {events : Array Event}
    (rendered : document.toEvents options = .ok events) :
    ∃ topic, EventTree.document? events.toList = some topic ∧
      document.TranslatesTo Link.formatAttributes topic :=
  ⟨document.topicTree options, document?_of_toEvents rendered, document.topicTree_translates options⟩

/-- A document with a link to a Markdown file beside it. -/
def linkToMarkdown : Document :=
  { children := [{
      kind := .paragraph
      children := [{ kind := .link "other.md" "", children := [{ kind := .text "o" }] }] }] }

/-- The link has its format. -/
theorem linkToMarkdown_translates :
    ∃ events topic, linkToMarkdown.toEvents {} = .ok events ∧
      EventTree.document? events.toList = some topic ∧
      linkToMarkdown.TranslatesTo Link.formatAttributes topic := by
  have rendered : ∃ events, linkToMarkdown.toEvents {} = .ok events := ⟨_, rfl⟩
  rcases rendered with ⟨events, delivered⟩
  rcases toEvents_translates delivered with ⟨topic, read, translated⟩
  exact ⟨events, topic, delivered, read, translated⟩

/-- With the address alone it would not be the link that is delivered. -/
theorem linkToMarkdown_not_by_scope :
    ∃ events, linkToMarkdown.toEvents {} = .ok events ∧
      ∀ topic, EventTree.document? events.toList = some topic →
        ¬ linkToMarkdown.TranslatesTo Link.scopeAttributes topic := by
  refine ⟨_, rfl, ?_⟩
  intro topic read translated
  have body : linkToMarkdown.bodyTranslation Link.scopeAttributes =
      [.element "body" "- topic/body " []
        [.element "p" "- topic/p " []
          [.element "xref" "- topic/xref " [⟨"href", "other.md"⟩] [.characters "o"]]]] := by
    rfl
  have bare : Event.startElement "xref" "- topic/xref " [⟨"href", "other.md"⟩] ∈
      topic.events ++ [.endDocument] := by
    rcases translated with ⟨attributes, prolog, rfl, _⟩
    rw [body]
    simp
  rw [← EventTree.document?_eq_some_iff.mp read] at bare
  exact absurd bare (by decide)

end Document

end TopicPress
