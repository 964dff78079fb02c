import TopicPress.Markdown.Block
import TopicPress.Markdown.BlockStart
import TopicPress.Markdown.Definition
import TopicPress.Markdown.TableRow

/-!
# Open blocks

While the lines of a text are read, some blocks are open: containers, each in the one before, and at
the end perhaps a leaf that takes lines of text.  Closing a block puts it into its container; the
definitions at the beginning of a paragraph are taken off when it is closed, and a paragraph of
nothing else leaves no block.
-/

namespace TopicPress.Markdown

open Text BlockStart

/-- What is open around the present line. -/
inductive Container where
  | blockQuote
  | list (style : ListStyle) (start : Nat)
  /-- An item, whose lines are indented by `indent` columns. -/
  | item (indent : Nat)
  | table (columns : Nat)

/-- An open container with the blocks that were closed in it, last first. -/
structure OpenContainer where
  container : Container
  position : SourcePosition
  children : List Block := []

/-- The text of an open block: its lines and the bytes before them, last first. -/
structure OpenText where
  lines : List Line := []
  offsets : List Nat := []

/-- The text of lines with their ends, where the lines come last first. -/
def textOf (lines : List Line) : List Char :=
  lines.foldl (fun text line => line.whole ++ text) []

def OpenText.text (held : OpenText) : List Char := textOf held.lines

/-- The text of a block that is closed. -/
def OpenText.content (held : OpenText) : Content := ⟨held.text, held.offsets.reverse⟩

/-- What takes the lines of text. -/
inductive Leaf where
  /-- `refused` says that the paragraph was not made a table by a line that could have been its
  row of markers. -/
  | paragraph (text : OpenText) (refused : Bool)
  | fencedCode (fence : Fence) (info : List Char) (lines : List Line)
  | indentedCode (lines : List Line)
  | html (start : Html.BlockStart) (lines : List Line)

structure OpenLeaf where
  leaf : Leaf
  position : SourcePosition

/-- All that was read: closed blocks of the document, last first, open containers, innermost first,
the open leaf, and the definitions. -/
structure OpenBlocks where
  closed : List Block := []
  containers : List OpenContainer := []
  leaf : Option OpenLeaf := none
  definitions : Definitions := {}

/-! ## Closing leaves -/

/-- The text of an indented code block: without the blank lines at its end, and ended by a line
feed. -/
def indentedText (lines : List Line) : List Char :=
  match lines.dropWhile (fun line => line.text.all isBlank) with
  | [] => ['\n']
  | last :: before => textOf ({ last with ending := ['\n'] } :: before)

/-- The info string that is meant. -/
def cleanInfo (info : List Char) : String :=
  String.ofList (LinkPart.dropEscapes (trimBy isLineSpace (CharacterReference.resolve info)))

/-- Is the first line of the text blank? -/
def beginsBlank (text : List Char) : Bool :=
  (text.takeWhile (fun c => !isLineEnd c)).all isBlank

/-- The text of a paragraph after its definitions, and the definitions with them. -/
def OpenText.settle (held : OpenText) (definitions : Definitions) : Definitions × OpenText :=
  let taken := takeDefinitions definitions held.text
  (taken.1, { held with lines := [⟨taken.2, []⟩] })

/-- The block that a leaf becomes, if it becomes one. -/
def OpenLeaf.close (leaf : OpenLeaf) (definitions : Definitions) : Definitions × Option Block :=
  match leaf.leaf with
  | .paragraph text _ =>
    let settled := text.settle definitions
    if beginsBlank settled.2.text then (settled.1, none)
    else (settled.1, some ⟨.paragraph settled.2.content, leaf.position, []⟩)
  | .fencedCode _ info lines =>
    (definitions, some ⟨.codeBlock (cleanInfo info) (String.ofList (textOf lines)),
      leaf.position, []⟩)
  | .indentedCode lines =>
    (definitions, some ⟨.codeBlock "" (String.ofList (indentedText lines)), leaf.position, []⟩)
  | .html _ lines =>
    (definitions, some ⟨.htmlBlock (String.ofList (textOf lines)), leaf.position, []⟩)

/-! ## Closing containers -/

/-- The kind of block that a container becomes. -/
def Container.kind : Container → BlockKind
  | blockQuote => .blockQuote
  | list style start => .list style.isOrdered start
  | item _ => .item
  | table _ => .table

def OpenContainer.block (container : OpenContainer) : Block :=
  ⟨container.container.kind, container.position, container.children.reverse⟩

namespace OpenBlocks

/-- Put a block into the innermost container. -/
def add (state : OpenBlocks) (block : Block) : OpenBlocks :=
  match state.containers with
  | [] => { state with closed := block :: state.closed }
  | inner :: outer =>
    { state with containers := { inner with children := block :: inner.children } :: outer }

/-- Close the leaf. -/
def closeLeaf (state : OpenBlocks) : OpenBlocks :=
  match state.leaf with
  | none => state
  | some leaf =>
    let closed := leaf.close state.definitions
    let rest := { state with leaf := none, definitions := closed.1 }
    match closed.2 with
    | none => rest
    | some block => rest.add block

/-- Close the innermost container. -/
def closeContainer (state : OpenBlocks) : OpenBlocks :=
  match state.containers with
  | [] => state
  | inner :: outer => ({ state with containers := outer }).add inner.block

/-- Close `count` containers. -/
def closeContainers (state : OpenBlocks) : Nat → OpenBlocks
  | 0 => state
  | count + 1 => state.closeContainer.closeContainers count

/-- Close the leaf and all containers but the `depth` outermost ones. -/
def closeTo (state : OpenBlocks) (depth : Nat) : OpenBlocks :=
  state.closeLeaf.closeContainers (state.containers.length - depth)

/-- Close lists and tables that are innermost, since they hold items and rows only. -/
def leaveStrict (state : OpenBlocks) : OpenBlocks :=
  match state.containers with
  | ⟨.list _ _, _, _⟩ :: _ => state.closeContainer
  | ⟨.table _, _, _⟩ :: _ => state.closeContainer
  | _ => state

/-- Open a container in the innermost one. -/
def push (state : OpenBlocks) (container : Container) (position : SourcePosition) : OpenBlocks :=
  { state with containers := { container, position } :: state.containers }

/-- Open a leaf. -/
def start (state : OpenBlocks) (leaf : Leaf) (position : SourcePosition) : OpenBlocks :=
  { state with leaf := some { leaf, position } }

/-- Close everything: the blocks of the document and the definitions. -/
def finish (state : OpenBlocks) : List Block × Definitions :=
  let final := state.closeTo 0
  (final.closed.reverse, final.definitions)

end OpenBlocks

end TopicPress.Markdown
