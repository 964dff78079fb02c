import TopicPress.Document.FrontMatterBlock
import TopicPress.Markdown.Tree

/-!
# From Markdown trees to documents

Most nodes have a counterpart.  The reader of Markdown splits text at line ends, escapes and
entities; here neighbouring pieces become one text again, and nodes that only group others give way
to their children.
-/

namespace TopicPress.Markdown

/-- What becomes of a node. -/
inductive Counterpart where
  | node (kind : NodeKind)
  /-- The children take the place of the node. -/
  | children

/-- The first word of the info string of a code block. -/
def language? (info : String) : Option String :=
  let word := (info.toList.dropWhile Text.isWhiteSpace).takeWhile (fun c => !Text.isWhiteSpace c)
  if word.isEmpty then none else some (String.ofList word)

/-- The counterpart of each kind. -/
def Kind.counterpart : Kind → Counterpart
  | document => .children
  | escaped => .children
  | frontMatter raw => .node (.frontMatter (FrontMatterBlock.read raw).1)
  | blockQuote => .node .blockQuote
  | list ordered start => .node (.list ordered (if ordered then some start else none))
  | item => .node .listItem
  | codeBlock info literal => .node (.codeBlock (language? info) literal)
  | htmlBlock literal => .node (.rawBlock literal)
  | paragraph => .node .paragraph
  | heading level => .node (.heading level)
  | thematicBreak => .node .thematicBreak
  | table => .node .table
  | tableRow header => .node (.tableRow header)
  | tableCell => .node .tableCell
  | text content => .node (.text content)
  | softBreak => .node (.text "\n")
  | lineBreak => .node .lineBreak
  | code literal => .node (.codeSpan literal)
  | htmlInline content => .node (.rawInline content)
  | emphasis => .node .emphasis
  | strong => .node .strong
  | strikethrough => .node .strikethrough
  | superscript => .node .superscript
  | subscript => .node .subscript
  | link url title => .node (.link url title)
  | image url title => .node (.image url title)
  | extension name => .node (.unsupported name)

/-- The notices that the conversion of a node leaves. -/
def Kind.notices : Kind → List Notice
  | frontMatter raw => (FrontMatterBlock.read raw).2
  | extension name => [.noCounterpart name]
  | _ => []

/-- The place of a node, if it is known. -/
def position? (position : SourcePosition) : Option SourcePosition :=
  if position.line = 0 then none else some position

/-- Put a node before others.  Two texts become one, which stands where the first one stood and has
the children of the first one. -/
def consMerging (node : TopicPress.Node) (rest : List TopicPress.Node) : List TopicPress.Node :=
  match node.kind, rest with
  | .text first, ⟨.text second, _, _⟩ :: more =>
    ⟨.text (first ++ second), node.position, node.children⟩ :: more
  | _, _ => node :: rest

mutual

/-- The nodes that take the place of a node. -/
def Node.convert (node : Node) : List TopicPress.Node :=
  match node with
  | ⟨kind, position, children⟩ =>
    match kind.counterpart with
    | .children => Node.convertAll children
    | .node kind => [⟨kind, position? position, Node.convertAll children⟩]

/-- The nodes that take the place of several, neighbouring texts merged. -/
def Node.convertAll : List Node → List TopicPress.Node
  | [] => []
  | node :: rest => node.convert.foldr consMerging (Node.convertAll rest)

end

mutual

/-- The notices that the conversion of a node and of everything below it leaves. -/
def Node.notices (node : Node) : List Notice :=
  match node with
  | ⟨kind, _, children⟩ => kind.notices ++ Node.noticesAll children

def Node.noticesAll : List Node → List Notice
  | [] => []
  | node :: rest => node.notices ++ Node.noticesAll rest

end

/-- The document that a tree stands for. -/
def Node.toDocument (root : Node) (name : Option String) : Document :=
  { name, children := root.convert }

end TopicPress.Markdown
