import TopicPress.Document.FrontMatter

/-!
# The document tree

What is rendered: a tree of blocks and inlines, read from a Markdown text or built by hand.  Any
kind of node may have children; which children are looked at is the renderer's decision, not a
condition on the tree.
-/

namespace TopicPress

/-- A line and a column, both counted from one. -/
structure SourcePosition where
  line : Nat
  column : Nat
  deriving DecidableEq

/-- The kinds of nodes with the data each one carries. -/
inductive NodeKind where
  | heading (level : Nat)
  | paragraph
  | list (ordered : Bool) (start : Option Nat)
  | listItem
  | codeBlock (language : Option String) (literal : String)
  | blockQuote
  | table
  | tableRow (header : Bool)
  | tableCell
  | frontMatter (header : FrontMatter)
  | thematicBreak
  | rawBlock (text : String)
  | text (text : String)
  | emphasis
  | strong
  | strikethrough
  | superscript
  | subscript
  | codeSpan (text : String)
  | link (url title : String)
  | image (url title : String)
  | lineBreak
  | rawInline (text : String)
  /-- Something the Markdown reader produced that has no counterpart here. -/
  | unsupported (name : String)
  deriving DecidableEq

namespace NodeKind

/-- The name by which diagnostics call a kind. -/
def name : NodeKind → String
  | heading _ => "heading"
  | paragraph => "paragraph"
  | list _ _ => "list"
  | listItem => "list_item"
  | codeBlock _ _ => "code_block"
  | blockQuote => "block_quote"
  | table => "table"
  | tableRow _ => "table_row"
  | tableCell => "table_cell"
  | frontMatter _ => "front_matter"
  | thematicBreak => "thematic_break"
  | rawBlock _ => "raw_block"
  | text _ => "text"
  | emphasis => "emphasis"
  | strong => "strong"
  | strikethrough => "strikethrough"
  | superscript => "superscript"
  | subscript => "subscript"
  | codeSpan _ => "code_span"
  | link _ _ => "link"
  | image _ _ => "image"
  | lineBreak => "line_break"
  | rawInline _ => "raw_inline"
  | unsupported name => name

/-- The text that a node of this kind shows by itself, its children apart. -/
def ownText : NodeKind → String
  | text content => content
  | codeSpan content => content
  | rawInline content => content
  | lineBreak => " "
  | _ => ""

def isHeading : NodeKind → Bool
  | heading _ => true
  | _ => false

def frontMatter? : NodeKind → Option FrontMatter
  | frontMatter header => some header
  | _ => none

end NodeKind

/-- A node of the document tree. -/
structure Node where
  kind : NodeKind
  position : Option SourcePosition := none
  children : List Node := []

instance : Inhabited Node := ⟨{ kind := .paragraph }⟩

mutual

/-- The text of a node and of everything below it, in source order. -/
def Node.textContent (node : Node) : String :=
  match node with
  | ⟨kind, _, children⟩ => kind.ownText ++ Node.textContents children

/-- The texts of a list of nodes, one after the other. -/
def Node.textContents : List Node → String
  | [] => ""
  | node :: rest => node.textContent ++ Node.textContents rest

end

/-- A document: its top-level nodes, and the name it is known by. -/
structure Document where
  name : Option String := none
  children : List Node := []

namespace Document

/-- The name that diagnostics use. -/
def displayName (document : Document) : String :=
  document.name.getD "<anonymous>"

/-- The first front matter among the top-level nodes. -/
def frontMatter? (document : Document) : Option FrontMatter :=
  document.children.findSome? (fun node => node.kind.frontMatter?)

/-- The first heading among the top-level nodes. -/
def firstHeading? (document : Document) : Option Node :=
  document.children.find? (fun node => node.kind.isHeading)

/-- The text of the first top-level heading. -/
def firstHeadingText? (document : Document) : Option String :=
  document.firstHeading?.map Node.textContent

end Document

end TopicPress
