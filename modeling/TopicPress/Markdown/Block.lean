import TopicPress.Document.Basic

/-!
# Blocks

The block structure of a Markdown text, before the text of its paragraphs, headings and cells has
been read for inlines.
-/

namespace TopicPress.Markdown

/-- The text of a block: its lines with their ends, and for each line the bytes that come before it
in the source. -/
structure Content where
  text : List Char
  offsets : List Nat

inductive BlockKind where
  | blockQuote
  | list (ordered : Bool) (start : Nat)
  | item
  | codeBlock (info literal : String)
  | htmlBlock (literal : String)
  | paragraph (content : Content)
  | heading (level : Nat) (content : Content)
  | thematicBreak
  | table
  | tableRow (header : Bool)
  | tableCell (content : Content)

/-- A block and where it begins. -/
structure Block where
  kind : BlockKind
  position : SourcePosition
  children : List Block := []

end TopicPress.Markdown
