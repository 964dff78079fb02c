import TopicPress.Document.Basic

/-!
# The Markdown tree

What a Markdown text is read into.  Besides the nodes of CommonMark there are those of tables,
strikethrough, superscript, subscript and front matter, which have counterparts in a document, and
those of further extensions, which have none.
-/

namespace TopicPress.Markdown

inductive Kind where
  | document
  /-- A block of metadata with its fences. -/
  | frontMatter (raw : String)
  | blockQuote
  | list (ordered : Bool) (start : Nat)
  | item
  | codeBlock (info literal : String)
  | htmlBlock (literal : String)
  | paragraph
  | heading (level : Nat)
  | thematicBreak
  | table
  | tableRow (header : Bool)
  | tableCell
  | text (text : String)
  | softBreak
  | lineBreak
  | code (literal : String)
  | htmlInline (text : String)
  | emphasis
  | strong
  | strikethrough
  | superscript
  | subscript
  | link (url title : String)
  | image (url title : String)
  /-- A character after a backslash, held by the children. -/
  | escaped
  /-- A node of some other extension, by the name that diagnostics call it. -/
  | extension (name : String)
  deriving DecidableEq

/-- A node and where it begins; a line number of zero says that the place is not known. -/
structure Node where
  kind : Kind
  position : SourcePosition := ⟨0, 0⟩
  children : List Node := []

instance : Inhabited Node := ⟨{ kind := .document }⟩

end TopicPress.Markdown
