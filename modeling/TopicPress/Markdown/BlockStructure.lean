import TopicPress.Markdown.OpenBlocks

/-!
# The block structure of a text

A line is read in three steps.  First it is followed into the open containers as far as it belongs
to them.  Then it may open blocks, which closes those that it does not belong to.  What is left of
it is text for the leaf; a line of text goes on with a paragraph even if it does not belong to the
containers around it.
-/

namespace TopicPress.Markdown

open Text BlockStart

/-! ## Following a line into the open blocks -/

/-- Go past a block-quote mark and the space after it. -/
def pastQuote? (cursor : Cursor) : Option Cursor :=
  match cursor.toText.rest with
  | '>' :: _ =>
    if cursor.indent < 4 then some (cursor.toText.next.skipBlankColumns 1) else none
  | _ => none

/-- Can a line be a row of a table?  A carriage return alone does not end one. -/
def Line.endsRow (line : Line) : Bool := line.ending != ['\r']

/-- The cells of what is left of a line, if it can be a row. -/
def rowOf (line : Line) (cursor : Cursor) : Option (List Cell) :=
  let cells := TableRow.cells cursor.toText.rest
  if line.endsRow && !cells.isEmpty then some cells else none

/-- The cursor within a container if the line belongs to it; `isEmpty` says that the container has
nothing in it yet. -/
def Container.follow? (container : Container) (isEmpty : Bool) (line : Line) (cursor : Cursor) :
    Option Cursor :=
  match container with
  | blockQuote => pastQuote? cursor
  | list _ _ => some cursor
  | item indent =>
    if indent ≤ cursor.indent then some (cursor.skipColumns indent)
    else if cursor.isBlankRest && !isEmpty then some cursor.toText
    else none
  | table _ => if (rowOf line cursor).isSome then some cursor else none

/-- Follow the line into containers, outermost first, where `hasLeaf` says that a leaf is open in the
last one: how many it belongs to, and the cursor within them. -/
def follow (hasLeaf : Bool) (line : Line) : List OpenContainer → Cursor → Nat × Cursor
  | [], cursor => (0, cursor)
  | ⟨container, _, children⟩ :: inner, cursor =>
    match container.follow? (children.isEmpty && inner.isEmpty && !hasLeaf) line cursor with
    | none => (0, cursor)
    | some cursor =>
      let followed := follow hasLeaf line inner cursor
      (followed.1 + 1, followed.2)

/-- What a line does to the leaf whose containers it belongs to. -/
inductive LeafStep where
  /-- The line does not belong to the leaf. -/
  | leaves
  /-- The line may go on with a paragraph or open a block. -/
  | mayContinue (text : OpenText) (refused : Bool)
  /-- The line belongs to the leaf, which becomes this one. -/
  | becomes (leaf : Leaf)
  /-- The line ends the leaf and has nothing else. -/
  | ends (leaf : Leaf)

/-- The line that is left of one. -/
def restLine (cursor : Cursor) (line : Line) : Line := { line with text := cursor.remaining }

/-- A block of HTML with one more line, and whether the line ends it. -/
def growHtml (start : Html.BlockStart) (lines : List Line) (cursor : Cursor) (line : Line) :
    Leaf × Bool :=
  (.html start (restLine cursor line :: lines), start.endsOn cursor.toText.rest)

/-- What the line does to a leaf. -/
def Leaf.step (leaf : Leaf) (cursor : Cursor) (line : Line) : LeafStep :=
  match leaf with
  | paragraph text refused =>
    if cursor.isBlankRest then .leaves else .mayContinue text refused
  | fencedCode fence info lines =>
    if cursor.indent < 4 && fence.closedBy cursor.toText.rest then .ends leaf
    else
      .becomes (.fencedCode fence info
        (restLine (cursor.skipBlankColumns fence.indent) line :: lines))
  | indentedCode lines =>
    if 4 ≤ cursor.indent then
      .becomes (.indentedCode (restLine (cursor.skipColumns 4) line :: lines))
    else if cursor.isBlankRest then
      .becomes (.indentedCode (restLine cursor.toText line :: lines))
    else .leaves
  | html start lines =>
    if start.endsBeforeBlank && cursor.isBlankRest then .leaves
    else
      let grown := growHtml start lines cursor line
      if grown.2 then .ends grown.1 else .becomes grown.1

/-! ## Opening blocks -/

/-- The place where a line is read: the open blocks, how many of the containers it belongs to, the
paragraph that it may go on with, and the line. -/
structure Spot where
  state : OpenBlocks
  depth : Nat
  /-- The paragraph that the line belongs to. -/
  paragraph : Option (OpenText × Bool)
  /-- A paragraph is open, whether the line belongs to it or not, and the line has opened nothing. -/
  afterParagraph : Bool
  cursor : Cursor
  line : Line
  number : Nat

namespace Spot

/-- The open blocks once those that the line does not belong to are closed, lists and tables
included unless `strict`. -/
def settled (spot : Spot) (strict : Bool) : OpenBlocks :=
  let state := spot.state.closeTo spot.depth
  if strict then state else state.leaveStrict

/-- The place of the next character that is no blank. -/
def here (spot : Spot) : SourcePosition := spot.cursor.toText.place spot.number

/-- The text of the line after its indentation. -/
def text (spot : Spot) : List Char := spot.cursor.toText.rest

def isIndented (spot : Spot) : Bool := 4 ≤ spot.cursor.indent

/-- The innermost container that the line belongs to. -/
def container? (spot : Spot) : Option Container :=
  (spot.state.containers.drop (spot.state.containers.length - spot.depth)).head?.map
    OpenContainer.container

/-- The spot after a container has been opened, with the cursor within it. -/
def enter (spot : Spot) (state : OpenBlocks) (container : Container) (cursor : Cursor) : Spot :=
  let state := state.push container spot.here
  { spot with
    state, cursor, depth := state.containers.length, paragraph := none, afterParagraph := false }

end Spot

/-- What comes of looking for a block. -/
inductive Opening where
  /-- A container was opened, and the rest of the line may open more. -/
  | container (spot : Spot)
  /-- The whole line was used. -/
  | done (state : OpenBlocks)
  /-- The line opens nothing more. -/
  | nothing (spot : Spot)

/-- Open a block quote. -/
def openQuote? (spot : Spot) : Option Opening :=
  (pastQuote? spot.cursor).map fun cursor =>
    .container (spot.enter (spot.settled false) .blockQuote cursor)

/-- Open a heading that begins with number signs; it has one line. -/
def openHeading? (spot : Spot) : Option Opening :=
  (heading? spot.text).map fun (level, length) =>
    let cursor := (spot.cursor.toText.skip length)
    let text := headingText cursor.rest
    .done ((spot.settled false).add
      ⟨.heading level ⟨text, [cursor.offset]⟩, spot.here, []⟩)

/-- Open a fenced code block. -/
def openFence? (spot : Spot) : Option Opening :=
  (fence? spot.text).map fun (mark, length) =>
    let fence := { mark, length, indent := spot.cursor.toText.offset - spot.cursor.offset : Fence }
    .done ((spot.settled false).start (.fencedCode fence (spot.text.drop length) []) spot.here)

/-- Open a block of HTML. -/
def openHtml? (spot : Spot) : Option Opening :=
  (Html.blockStart? spot.paragraph.isSome spot.line.ended spot.text).map fun start =>
    let grown := growHtml start [] spot.cursor spot.line
    let state := (spot.settled false).start grown.1 spot.here
    .done (if grown.2 then state.closeLeaf else state)

/-- Make the paragraph a heading, if the line is an underline.  Definitions are taken off it first;
if nothing is left, the line is the text of the paragraph. -/
def openUnderlined? (spot : Spot) : Option Opening :=
  match spot.paragraph, underline? spot.text, spot.state.leaf with
  | some (text, refused), some level, some leaf =>
    let settled := text.settle spot.state.definitions
    let state := { spot.state with definitions := settled.1 }
    if beginsBlank settled.2.text then
      let emptied : OpenText := { settled.2 with lines := [] }
      some (.nothing { spot with
        state := { state with leaf := some { leaf with leaf := .paragraph emptied refused } }
        paragraph := some (emptied, refused) })
    else
      some (.done (({ state with leaf := none } : OpenBlocks).add
        ⟨.heading level settled.2.content, leaf.position, []⟩))
  | _, _, _ => none

/-- Open a rule. -/
def openThematicBreak? (spot : Spot) : Option Opening :=
  if isThematicBreak spot.text then
    some (.done ((spot.settled false).add ⟨.thematicBreak, spot.here, []⟩))
  else none

/-- The columns from the marker of an item to its text, with the cursor after them.  Five columns or
more are one column and indented code; an item without text on its line has one column. -/
def pastMarker (cursor : Cursor) : Nat × Cursor :=
  let spaced := cursor.skipBlankColumns 6
  let columns := spaced.column - cursor.column
  if columns = 0 then (1, cursor)
  else if 5 ≤ columns || spaced.rest.isEmpty then (1, cursor.nextColumn)
  else (columns, spaced)

/-- Open an item, and a list if the present one has another style. -/
def openItem? (spot : Spot) : Option Opening :=
  (listMarker? spot.paragraph.isSome spot.line.ended spot.text).map fun marker =>
    let past := pastMarker (spot.cursor.toText.skip marker.length)
    let item := Container.item (spot.cursor.indent + marker.length + past.1)
    let sameList := match spot.container? with
      | some (.list style _) => style == marker.style
      | _ => false
    let state :=
      if sameList then spot.settled true
      else (spot.settled false).push (.list marker.style marker.number) spot.here
    .container (spot.enter state item past.2)

/-- Open an indented code block. -/
def openIndented? (spot : Spot) : Option Opening :=
  if spot.isIndented && !spot.afterParagraph && !spot.cursor.isBlankRest then
    let cursor := spot.cursor.skipColumns 4
    some (.done ((spot.settled false).start
      (.indentedCode [restLine cursor spot.line]) (cursor.place spot.number)))
  else none

/-! ## Tables -/

/-- The row of cells of a line, where the table begins at `start`. -/
def tableRow (header : Bool) (start : SourcePosition) (number : Nat) (cells : List Cell) : Block :=
  { kind := .tableRow header
    position := ⟨number, start.column⟩
    children := cells.map fun cell =>
      { kind := .tableCell ⟨cell.text, [start.column + cell.start + cell.indent - 1]⟩
        position := ⟨number, start.column + cell.start⟩ } }

/-- The cells that a row lacks; they stand at the end of its last cell. -/
def missingCells (start : SourcePosition) (number columns : Nat) (cells : List Cell) :
    List Block :=
  let column := match cells.getLast? with
    | some cell => start.column + cell.last
    | none => start.column
  List.replicate (columns - cells.length)
    { kind := .tableCell ⟨[], [column - 1]⟩, position := ⟨number, column⟩ }

/-- Make the last line of the paragraph the header of a table, if the line is its row of markers.
The lines before it stay a paragraph. -/
def openTable (spot : Spot) (text : OpenText) (leaf : OpenLeaf) (columns : Nat) : Opening :=
  let header := text.lines.head?.getD ⟨[], []⟩
  let before := text.lines.tail
  let cells := TableRow.cells header.text
  if cells.length ≠ columns || !text.lines.all Line.endsRow then
    .nothing { spot with
      state := { spot.state with leaf := some { leaf with leaf := .paragraph text true } }
      paragraph := some (text, true) }
  else
    let offsets := text.offsets.reverse
    let start : SourcePosition :=
      ⟨leaf.position.line + before.length, (offsets[before.length]?).getD 0 + 1⟩
    let preface := trimBy isLineSpace (TableRow.unescapePipes (textOf before))
    let emptied := { spot.state with leaf := none }
    let state :=
      if before.isEmpty then emptied
      else emptied.add ⟨.paragraph ⟨preface, offsets.take before.length⟩, leaf.position, []⟩
    let table := state.push (.table columns) start
    .done (table.add (tableRow true start start.line cells))

/-- Open a table or a row of one. -/
def openTableOrRow? (spot : Spot) : Option Opening :=
  if spot.isIndented then none
  else
    match spot.paragraph, spot.state.leaf, spot.container? with
    | some (text, refused), some leaf, _ =>
      if refused || !spot.line.endsRow then none
      else (TableRow.columns? spot.text).map (openTable spot text leaf)
    | none, _, some (.table columns) =>
      match rowOf spot.line spot.cursor, spot.state.containers with
      | some cells, ⟨_, start, _⟩ :: _ =>
        let kept := cells.take columns
        let row := tableRow false start spot.number kept
        some (.done (spot.state.add
          { row with children := row.children ++ missingCells start spot.number columns kept }))
      | _, _ => none
    | _, _, _ => none

/-! ## Reading a line -/

/-- Look for a block that begins here; `lists` says that it may be a list. -/
def openBlock (lists : Bool) (spot : Spot) : Opening :=
  let visible (found : Option Opening) : Option Opening := if spot.isIndented then none else found
  let found :=
    (visible (openQuote? spot)).or <|
    (visible (openHeading? spot)).or <|
    (visible (openFence? spot)).or <|
    (visible (openHtml? spot)).or <|
    (visible (openUnderlined? spot)).or <|
    (visible (openThematicBreak? spot)).or <|
    (if lists then visible (openItem? spot) else none).or <|
    (openIndented? spot).or <|
    openTableOrRow? spot
  found.getD (.nothing spot)

/-- The number of blocks on one line from which on it opens no more lists. -/
def listLimit : Nat := 99

/-- Open blocks one in the other, at most `most` of them, where `opened` were opened before. -/
def openBlocks (opened : Nat) : Nat → Spot → Opening
  | 0, spot => .nothing spot
  | most + 1, spot =>
    match openBlock (opened < listLimit) spot with
    | .container inner => openBlocks (opened + 1) most inner
    | other => other

/-- Add the line to a paragraph, from where the cursor stands. -/
def OpenText.addLine (held : OpenText) (line : Line) (cursor : Cursor) : OpenText :=
  { lines := restLine cursor line :: held.lines
    offsets := cursor.remainingOffset :: held.offsets }

/-- What is left of the line is text. -/
def addText (spot : Spot) : OpenBlocks :=
  let lazy := match spot.afterParagraph, spot.state.leaf with
    | true, some ⟨.paragraph text refused, position⟩ => some (text, refused, position)
    | _, _ => none
  match spot.paragraph, lazy with
  | some (text, refused), some (_, _, position) =>
    spot.state.start (.paragraph (text.addLine spot.line spot.cursor.toText) refused) position
  | _, _ =>
    if spot.cursor.isBlankRest then spot.settled true
    else
      match lazy with
      | some (text, refused, position) =>
        spot.state.start (.paragraph (text.addLine spot.line spot.cursor) refused) position
      | none =>
        (spot.settled false).start
          (.paragraph (({} : OpenText).addLine spot.line spot.cursor.toText) false) spot.here

/-- Read a line, whose containers have been followed. -/
def readInside (spot : Spot) : OpenBlocks :=
  match openBlocks 0 (spot.line.text.length + 1) spot with
  | .container spot => addText spot
  | .nothing spot => addText spot
  | .done state => state

/-- Is the open leaf a paragraph? -/
def OpenBlocks.inParagraph (state : OpenBlocks) : Bool :=
  match state.leaf with
  | some ⟨.paragraph _ _, _⟩ => true
  | _ => false

/-- Read one more line. -/
def OpenBlocks.step (state : OpenBlocks) (number : Nat) (line : Line) (cursor : Cursor) :
    OpenBlocks :=
  let followed := follow state.leaf.isSome line state.containers.reverse cursor
  let spot : Spot :=
    { state, depth := followed.1, paragraph := none, afterParagraph := state.inParagraph,
      cursor := followed.2, line, number }
  if followed.1 < state.containers.length then readInside spot
  else
    match state.leaf with
    | none => readInside spot
    | some leaf =>
      match leaf.leaf.step followed.2 line with
      | .leaves => readInside spot
      | .mayContinue text refused => readInside { spot with paragraph := some (text, refused) }
      | .becomes grown => state.start grown leaf.position
      | .ends grown => (state.start grown leaf.position).closeLeaf

/-- Read lines, of which the first has the number `number`. -/
def OpenBlocks.readLines (state : OpenBlocks) (number : Nat) : List Line → OpenBlocks
  | [] => state
  | line :: rest =>
    (state.step number line { rest := line.text }).readLines (number + 1) rest

end TopicPress.Markdown
