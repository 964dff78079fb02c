import TopicPress.Markdown.BlockStructure
import TopicPress.Markdown.Inline

/-!
# Reading Markdown

A text is read into a tree: a block of metadata between fences at its very beginning is set apart,
the lines after it give the blocks, and the texts of the blocks give the inlines.
-/

namespace TopicPress.Markdown

/-! ## Front matter -/

/-- Split a text after the first occurrence of `part`. -/
def splitAfter? (part : List Char) : List Char → Option (List Char × List Char)
  | [] => if part.isEmpty then some ([], []) else none
  | c :: rest =>
    if part.isPrefixOf (c :: rest) then some (part, (c :: rest).drop part.length)
    else (splitAfter? part rest).map (fun (before, after) => (c :: before, after))

/-- Split a text after its end, if `part` occurs there and nowhere before. -/
def splitEnd? (part : List Char) (text : List Char) : Option (List Char × List Char) :=
  (splitAfter? part text).filter (fun (_, rest) => rest.isEmpty)

/-- A line end at the beginning of a text, and what comes after it. -/
def splitLineEnd? : List Char → Option (List Char × List Char)
  | '\n' :: rest => some (['\n'], rest)
  | '\r' :: '\n' :: rest => some (['\r', '\n'], rest)
  | _ => none

/-- Split the front matter off a text: it begins with a line of three hyphens and goes on to the
next such line that does not directly follow the first one, and one line end after that.  A fence
with a carriage return is looked for before one without. -/
def splitFrontMatter? (text : List Char) : Option (List Char × List Char) :=
  match text with
  | '-' :: '-' :: '-' :: afterFence =>
    (splitLineEnd? afterFence).bind fun (lineEnd, body) =>
      ((splitAfter? "\n---\r\n".toList body).or <|
        (splitAfter? "\n---\n".toList body).or <|
        splitEnd? "\n---".toList body).map fun (block, rest) =>
          let blank := (splitLineEnd? rest).getD ([], rest)
          ("---".toList ++ lineEnd ++ block ++ blank.1, blank.2)
  | _ => none

/-! ## From blocks to nodes -/

/-- The inlines of a block, and the bytes that further references may bring in. -/
def BlockKind.inlines (kind : BlockKind) (definitions : Definitions) (line allowance : Nat) :
    List Node × Nat :=
  match kind with
  | paragraph content => content.inlines definitions line allowance
  | heading _ content => content.inlines definitions line allowance
  | tableCell content => content.inlines definitions line allowance
  | _ => ([], allowance)

/-- The kind of node that a block becomes. -/
def BlockKind.nodeKind : BlockKind → Kind
  | blockQuote => .blockQuote
  | list ordered start => .list ordered start
  | item => .item
  | codeBlock info literal => .codeBlock info literal
  | htmlBlock literal => .htmlBlock literal
  | paragraph _ => .paragraph
  | heading level _ => .heading level
  | thematicBreak => .thematicBreak
  | table => .table
  | tableRow header => .tableRow header
  | tableCell _ => .tableCell

mutual

/-- The node that a block becomes, and the bytes that further references may bring in. -/
def Block.toNode (definitions : Definitions) (allowance : Nat) (block : Block) : Node × Nat :=
  match block with
  | ⟨kind, position, children⟩ =>
    let (inlines, allowance) := kind.inlines definitions position.line allowance
    let (blocks, allowance) := Block.toNodes definitions allowance children
    ({ kind := kind.nodeKind, position, children := inlines ++ blocks }, allowance)

/-- The nodes that blocks become, and the bytes that further references may bring in. -/
def Block.toNodes (definitions : Definitions) (allowance : Nat) : List Block → List Node × Nat
  | [] => ([], allowance)
  | block :: rest =>
    let (node, allowance) := block.toNode definitions allowance
    let (nodes, allowance) := Block.toNodes definitions allowance rest
    (node :: nodes, allowance)

end

/-! ## Texts -/

/-- A byte order mark at the beginning of a text does not count. -/
def withoutMark (text : List Char) : List Char :=
  match text with
  | '\uFEFF' :: rest => rest
  | _ => text

/-- Read the lines of a text, of which the first has the number `number`; only in the first line of
all, a byte order mark is passed over. -/
def readBlocks (number : Nat) (text : List Char) : OpenBlocks :=
  match linesOf text with
  | [] => {}
  | first :: rest =>
    let cursor : Cursor := match number, first.text with
      | 1, '\uFEFF' :: text => { rest := text, offset := 3 }
      | _, text => { rest := text }
    (OpenBlocks.step {} number first cursor).readLines (number + 1) rest

/-- The nodes of a text that begins in the line `number`. -/
def readNodes (number : Nat) (text : List Char) : List Node :=
  let (blocks, definitions) := (readBlocks number text).finish
  (Block.toNodes definitions (Utf8.size text) blocks).1

/-- Read a text into a tree. -/
def read (text : String) : Node :=
  let chars := text.toList
  let children := match splitFrontMatter? (withoutMark chars) with
    | some (block, rest) =>
      { kind := .frontMatter (String.ofList block), position := ⟨1, 1⟩ : Node }
        :: readNodes (block.count '\n' + 1) rest
    | none => readNodes 1 chars
  { kind := .document, position := ⟨1, 1⟩, children }

end TopicPress.Markdown
