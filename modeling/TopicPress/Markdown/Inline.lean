import TopicPress.Markdown.Block
import TopicPress.Markdown.Definition
import TopicPress.Markdown.Emphasis
import TopicPress.Markdown.Html
import TopicPress.Text.Utf8

/-!
# Inlines

The text of a paragraph, a heading or a cell: code spans, links, images, emphasis, HTML, line breaks
and plain text.  The text is read from left to right.  An opening bracket starts a new level of
pieces; the bracket that closes it makes a link or an image of the level, or gives the level back to
the one around it as text.  All references of a text together bring in no more bytes than it has, so
that a few definitions cannot make a tree that is much larger than the text.
-/

namespace TopicPress.Markdown

open Text

/-! ## Places in a text -/

/-- How far the text of a block has been read, and where that is in the source. -/
structure Reader where
  /-- What was read, last character first. -/
  passed : List Char := []
  rest : List Char
  position : SourcePosition
  /-- The bytes before the lines after the present one in their source lines. -/
  offsets : List Nat

namespace Reader

/-- A reader at the beginning of a text whose first line is the line `line` of the source. -/
def ofContent (content : Content) (line : Nat) : Reader :=
  { rest := dropEndWhile isLineSpace content.text
    position := ⟨line, content.offsets.head?.getD 0 + 1⟩
    offsets := content.offsets.tail }

/-- Go on by one character within the line. -/
def nextInLine (reader : Reader) : Reader :=
  match reader.rest with
  | [] => reader
  | c :: rest =>
    { reader with
      passed := c :: reader.passed, rest
      position := { reader.position with column := reader.position.column + Utf8.width c } }

/-- Go on by one character that ends the line. -/
def nextLine (reader : Reader) : Reader :=
  { passed := reader.rest.take 1 ++ reader.passed, rest := reader.rest.tail
    offsets := reader.offsets.tail
    position := ⟨reader.position.line + 1, reader.offsets.head?.getD 0 + 1⟩ }

/-- Go on by one character; a line feed ends the line. -/
def next (reader : Reader) : Reader :=
  if reader.rest.head? = some '\n' then reader.nextLine else reader.nextInLine

/-- Go on past the characters that end a line. -/
def pastLineEnd (reader : Reader) : Reader :=
  match reader.rest with
  | '\r' :: '\n' :: _ => reader.nextInLine.nextLine
  | _ => reader.nextLine

/-- Go on by `count` characters. -/
def skip (reader : Reader) : Nat → Reader
  | 0 => reader
  | count + 1 => (reader.next).skip count

/-- Go on by `count` characters as if they stood in one line. -/
def skipInLine (reader : Reader) : Nat → Reader
  | 0 => reader
  | count + 1 => (reader.nextInLine).skipInLine count

/-- Go on to a rest of the text. -/
def skipTo (reader : Reader) (rest : List Char) : Reader :=
  reader.skip (reader.rest.length - rest.length)

/-- Go on to a rest of the text as if what comes before it stood in one line. -/
def skipInLineTo (reader : Reader) (rest : List Char) : Reader :=
  reader.skipInLine (reader.rest.length - rest.length)

/-- Go past spaces and tabs. -/
def skipBlanks (reader : Reader) : Reader :=
  reader.skip (reader.rest.takeWhile isBlank).length

/-- The character before, with tildes left out; a line feed at the beginning. -/
def before (reader : Reader) : Char := (reader.passed.find? (· ≠ '~')).getD '\n'

end Reader

/-- The character that comes first in a text, with tildes left out; a line feed at the end. -/
def firstBut (text : List Char) : Char := (text.find? (· ≠ '~')).getD '\n'

/-! ## Levels -/

/-- An opening bracket with the pieces that came before it. -/
structure Bracket where
  image : Bool
  position : SourcePosition
  /-- What was read up to the bracket, the bracket included. -/
  passed : List Char
  /-- Another bracket was opened after this one. -/
  followed : Bool := false
  /-- The pieces before the bracket, last first. -/
  before : List Piece

/-- The text of the bracket. -/
def Bracket.node (bracket : Bracket) : Node :=
  { kind := .text (if bracket.image then "![" else "["), position := bracket.position }

/-- Constructs of HTML that do not end any more in the text.  After a comment without an end, no
declaration and no CDATA section is looked for either. -/
structure Endless where
  comment : Bool := false
  cdata : Bool := false
  instruction : Bool := false

/-- The runs of backticks that were met in the search for fences of code spans. -/
structure Fences where
  /-- A search has come to the end of the text. -/
  complete : Bool := false
  /-- The lengths of runs and where they begin, the last one met first. -/
  met : List (Nat × Nat) := []

/-- Is a fence of `count` backticks worth looking for after `place`?  Once a search has come to the
end, it is only if such a run was last met further on. -/
def Fences.mayFollow (fences : Fences) (count place : Nat) : Bool :=
  !fences.complete || place < (fences.met.lookup count).getD 0

/-- The state of reading a text. -/
structure InlineState where
  reader : Reader
  /-- The pieces since the last open bracket, last first. -/
  pieces : List Piece := []
  /-- The open brackets, innermost first. -/
  brackets : List Bracket := []
  /-- No bracket has been opened for a link since the last link, or at all. -/
  linksClosed : Bool := true
  /-- A bracket was the last to be opened or closed, and it was opened. -/
  withinBrackets : Bool := false
  fences : Fences := {}
  endless : Endless := {}
  /-- The bytes that references may still bring in. -/
  allowance : Nat

namespace InlineState

/-- Add a piece. -/
def add (state : InlineState) (piece : Piece) : InlineState :=
  { state with pieces := piece :: state.pieces }

/-- Add a node that begins at the reader's place, and go on to `reader`. -/
def addNode (state : InlineState) (kind : Kind) (reader : Reader) (children : List Node := []) :
    InlineState :=
  { (state.add (.node { kind, position := state.reader.position, children })) with reader }

/-- Add the next `count` characters as plain text. -/
def addText (state : InlineState) (count : Nat) : InlineState :=
  state.addNode (.text (String.ofList (state.reader.rest.take count))) (state.reader.skip count)

end InlineState

/-! ## Code spans -/

/-- The backticks that can make a fence. -/
def backtickLimit : Nat := 80

/-- What comes before and after the next run of exactly `count` backticks, where `run` backticks
stand before the text. -/
def closingBackticks? (count run : Nat) : List Char → Option (List Char × List Char)
  | [] => if run = count then some ([], []) else none
  | c :: rest =>
    if c = '\x60' then closingBackticks? count (run + 1) rest
    else if run = count then some ([], c :: rest)
    else
      (closingBackticks? count 0 rest).map
        (fun (inner, after) => (List.replicate run '\x60' ++ c :: inner, after))

/-- The text with a space for each line feed, and for each carriage return that no line feed
follows. -/
def spaceLineEnds : List Char → List Char
  | '\r' :: '\n' :: rest => '\r' :: ' ' :: spaceLineEnds rest
  | c :: rest => (if isLineEnd c then ' ' else c) :: spaceLineEnds rest
  | [] => []

/-- The text of a code span: its line ends are spaces, and it goes without one space at either end
if it has spaces there and something else. -/
def codeText (inner : List Char) : List Char :=
  let spaced := spaceLineEnds inner
  if inner.all (fun c => c == ' ' || isLineEnd c) then spaced
  else
    match spaced, spaced.getLast? with
    | ' ' :: rest, some ' ' => rest.dropLast
    | _, _ => spaced

/-- The runs of backticks in a text, the last one first: their lengths, and where they begin if the
text begins at `place`, of which the last `run` characters are backticks. -/
def backtickRuns (place run : Nat) (found : List (Nat × Nat)) : List Char → List (Nat × Nat)
  | [] => if run = 0 then found else (run, place - run) :: found
  | c :: rest =>
    if c = '\x60' then backtickRuns (place + 1) (run + 1) found rest
    else
      backtickRuns (place + 1) 0 (if run = 0 then found else (run, place - run) :: found) rest

/-- A run of backticks: a code span, or text. -/
def readBackticks (state : InlineState) : InlineState :=
  let count := (state.reader.rest.takeWhile (· == '\x60')).length
  let place := state.reader.passed.length + count
  if backtickLimit < count || !state.fences.mayFollow count place then state.addText count
  else
    let text := state.reader.rest.drop count
    match closingBackticks? count 0 text with
    | some (inner, after) =>
      let met := (count, place + inner.length) :: backtickRuns place 0 state.fences.met inner
      { (state.addNode (.code (String.ofList (codeText inner))) (state.reader.skipTo after)) with
        fences := { state.fences with met } }
    | none =>
      { state.addText count with
        fences := { complete := true, met := backtickRuns place 0 state.fences.met text } }

/-! ## Escapes, references and breaks -/

/-- A backslash: an escape, which stands where the escaped character does, a line break, or text. -/
def readBackslash (state : InlineState) : InlineState :=
  let after := state.reader.next
  match after.rest with
  | c :: _ =>
    if isLineEnd c then state.addNode .lineBreak after.pastLineEnd.skipBlanks
    else if isAsciiPunctuation c then ({ state with reader := after } : InlineState).addText 1
    else state.addText 1
  | [] => state.addText 1

/-- An ampersand: a character reference, or text. -/
def readAmpersand (state : InlineState) : InlineState :=
  match CharacterReference.read? state.reader.rest.tail with
  | some (characters, after) =>
    state.addNode (.text (String.ofList characters)) (state.reader.skipTo after)
  | none => state.addText 1

/-- A line end: a break if two spaces come before it, which begins with them. -/
def readLineEnd (state : InlineState) : InlineState :=
  let reader := state.reader.pastLineEnd.skipBlanks
  match state.reader.passed with
  | ' ' :: ' ' :: _ =>
    let position := { state.reader.position with column := state.reader.position.column - 2 }
    { (state.add (.node { kind := .lineBreak, position })) with reader }
  | _ => state.addNode .softBreak reader

/-! ## Autolinks and HTML -/

/-- A scheme and a colon, and whatever comes before `>` without white space and angles. -/
def absoluteUrl? (text : List Char) : Option (List Char × List Char) :=
  let scheme := text.takeWhile (fun c => c.isAlphanum || c == '+' || c == '.' || c == '-')
  let body := text.takeWhile (fun c => 0x20 < c.toNat && c ≠ '<' && c ≠ '>')
  match text, text.drop scheme.length, text.drop body.length with
  | first :: _, ':' :: _, '>' :: after =>
    if first.isAlpha && 2 ≤ scheme.length && scheme.length ≤ 32 then some (body, after) else none
  | _, _, _ => none

/-- A character of the part of an address before the at sign. -/
def isMailboxCharacter (c : Char) : Bool :=
  c.isAlphanum || ".!#$%&'*+/=?^_`\x7b|\x7d~-".toList.contains c

/-- Up to 63 letters, digits and hyphens, with no hyphen at either end. -/
def isHostLabel (label : List Char) : Bool :=
  label.all (fun c => c.isAlphanum || c == '-') && label.length ≤ 63
    && ((label.head?.map Char.isAlphanum).getD false)
    && ((label.getLast?.map Char.isAlphanum).getD false)

/-- A mail address before `>`. -/
def mailAddress? (text : List Char) : Option (List Char × List Char) :=
  let mailbox := text.takeWhile isMailboxCharacter
  match mailbox, text.drop mailbox.length with
  | _ :: _, '@' :: rest =>
    let host := rest.takeWhile (fun c => c.isAlphanum || c == '-' || c == '.')
    match rest.drop host.length with
    | '>' :: after =>
      if (host.splitOn '.').all isHostLabel then some (mailbox ++ '@' :: host, after) else none
    | _ => none
  | _, _ => none

/-- The link of an autolink: its target, and the text of the link. -/
def autolink? (text : List Char) : Option (String × String × List Char) :=
  match absoluteUrl? text with
  | some (body, after) =>
    let meant := String.ofList (CharacterReference.resolve body)
    some (meant, meant, after)
  | none =>
    (mailAddress? text).map fun (body, after) =>
      let meant := String.ofList (CharacterReference.resolve body)
      ("mailto:" ++ meant, meant, after)

/-- HTML after a `<`: what comes after it if it ends, and what is known not to end any more. -/
def readHtml? (endless : Endless) (text : List Char) : Option (List Char) × Endless :=
  match text with
  | '!' :: '-' :: '-' :: rest =>
    if endless.comment then (none, endless)
    else
      let after := Html.comment? rest
      (after, { endless with comment := after.isNone })
  | '!' :: '[' :: rest =>
    if endless.comment || endless.cdata then (none, endless)
    else
      let after := Html.cdata? rest
      (after, { endless with cdata := after.isNone && rest.take 6 == "CDATA[".toList })
  | '!' :: rest =>
    if endless.comment then (none, endless) else (Html.declaration? rest, endless)
  | '?' :: rest =>
    if endless.instruction then (none, endless)
    else
      let after := Html.instruction? rest
      (after, { endless with instruction := after.isNone })
  | _ => (Html.tag? text, endless)

/-- An opening angle: an autolink, HTML, or text. -/
def readAngle (state : InlineState) : InlineState :=
  let inner := state.reader.rest.tail
  match autolink? inner with
  | some (url, shown, after) =>
    let label := { kind := .text shown, position := state.reader.next.position : Node }
    state.addNode (.link url "") (state.reader.skipTo after) [label]
  | none =>
    match readHtml? state.endless inner with
    | (some after, endless) =>
      let length := state.reader.rest.length - after.length
      { state.addNode (.htmlInline (String.ofList (state.reader.rest.take length)))
          (state.reader.skipTo after) with endless }
    | (none, endless) => { state.addText 1 with endless }

/-! ## Emphasis -/

/-- A run of delimiters. -/
def readRun (state : InlineState) (mark : Char) : InlineState :=
  let count := (state.reader.rest.takeWhile (· == mark)).length
  let run := Run.between mark state.reader.before (firstBut (state.reader.rest.drop count)) count
    state.reader.position
  if run.isDelimiter then
    { (state.add (.run run)) with reader := state.reader.skip count }
  else state.addText count

/-! ## Links and images -/

/-- Open a bracket of `length` characters. -/
def openBracket (state : InlineState) (image : Bool) (length : Nat) : InlineState :=
  let reader := state.reader.skip length
  let bracket : Bracket :=
    { image, position := state.reader.position, passed := reader.passed, before := state.pieces }
  let outer := match state.brackets with
    | [] => []
    | inner :: outer => { inner with followed := true } :: outer
  { state with
    reader, pieces := [], brackets := bracket :: outer
    linksClosed := state.linksClosed && image, withinBrackets := true }

/-- The target in parentheses after a bracket. -/
def inlineTarget? (text : List Char) : Option (Target × List Char) :=
  match text with
  | '(' :: rest =>
    (LinkPart.destination? (rest.dropWhile isAsciiSpace)).bind fun (destination, after) =>
      let spaced := after.dropWhile isAsciiSpace
      let title := if spaced.length < after.length then LinkPart.title? spaced else none
      let (title, afterTitle) := title.getD ([], spaced)
      match afterTitle.dropWhile isAsciiSpace with
      | ')' :: rest =>
        some (⟨LinkPart.cleanDestination destination, LinkPart.clean title⟩, rest)
      | _ => none
  | _ => none

/-- The label after a bracket, and what comes after it.  Without a label, or with an empty one, the
text in the brackets is the label, unless it has brackets itself. -/
def referenceLabel? (inner : Option (List Char)) (text : List Char) :
    Option (List Char × List Char) :=
  match LinkPart.label? text with
  | some (label, after) =>
    (if label.isEmpty then inner.or (some label) else some label).map (fun label => (label, after))
  | none => inner.map (fun label => (label, text))

/-- The target that the label after a bracket refers to, if it is not too large. -/
def labelledTarget? (definitions : Definitions) (allowance : Nat) (inner : Option (List Char))
    (text : List Char) : Option (Target × List Char) :=
  (referenceLabel? inner text).bind fun (label, after) =>
    (definitions.find? label).bind fun target =>
      if target.size ≤ allowance then some (target, after) else none

/-- What comes after a bracket: the target, what comes after it, and the bytes that it brings in. -/
def target? (definitions : Definitions) (allowance : Nat) (inner : Option (List Char))
    (text : List Char) : Option (Target × List Char × Nat) :=
  ((inlineTarget? text).map (fun (target, after) => (target, after, 0))).or
    ((labelledTarget? definitions allowance inner text).map
      (fun (target, after) => (target, after, target.size)))

/-- Give the level of the innermost bracket to the one around it, the bracket as text. -/
def dropBracket (state : InlineState) (bracket : Bracket) (outer : List Bracket) : InlineState :=
  { state with
    pieces := state.pieces ++ .node bracket.node :: bracket.before, brackets := outer }

/-- A closing bracket: the end of a link or an image, or text. -/
def closeBracket (definitions : Definitions) (state : InlineState) : InlineState :=
  let state := { state with withinBrackets := false }
  let reader := state.reader.next
  match state.brackets with
  | [] => state.addText 1
  | bracket :: outer =>
    if !bracket.image && state.linksClosed then (dropBracket state bracket outer).addText 1
    else
      let length := state.reader.passed.length - bracket.passed.length
      let inner :=
        if bracket.followed then none else some (state.reader.passed.take length).reverse
      match target? definitions state.allowance inner reader.rest with
      | some (target, after, size) =>
        let kind :=
          if bracket.image then Kind.image target.url target.title
          else Kind.link target.url target.title
        let node :=
          { kind, position := bracket.position, children := resolve state.pieces.reverse : Node }
        { state with
          reader := reader.skipInLineTo after
          pieces := .node node :: bracket.before
          brackets := outer
          linksClosed := state.linksClosed || !bracket.image
          allowance := state.allowance - size }
      | none => (dropBracket state bracket outer).addText 1

/-! ## Plain text -/

/-- Characters that may begin something other than plain text. -/
def isSpecial (withinBrackets : Bool) (c : Char) : Bool :=
  "\r\n`\\&<*_~[]!".toList.contains c || (c == '^' && !withinBrackets)

/-- Plain text up to the next special character, without the white space before a line end. -/
def readText (state : InlineState) : InlineState :=
  let count :=
    (state.reader.rest.takeWhile (fun c => !isSpecial state.withinBrackets c)).length
  let reader := state.reader.skip count
  let written := state.reader.rest.take count
  let shown := if reader.rest.head?.any isLineEnd then dropEndWhile isLineSpace written else written
  if shown.isEmpty then { state with reader }
  else state.addNode (.text (String.ofList shown)) reader

/-- Read what begins with the next character. -/
def readNext (definitions : Definitions) (state : InlineState) : InlineState :=
  match state.reader.rest with
  | [] => state
  | '\r' :: _ => readLineEnd state
  | '\n' :: _ => readLineEnd state
  | '\x60' :: _ => readBackticks state
  | '\\' :: _ => readBackslash state
  | '&' :: _ => readAmpersand state
  | '<' :: _ => readAngle state
  | '[' :: _ => openBracket state false 1
  | ']' :: _ => closeBracket definitions state
  | '!' :: '[' :: rest => if rest.head? = some '^' then state.addText 1 else openBracket state true 2
  | '!' :: _ => state.addText 1
  | c :: _ =>
    if c = '*' || c = '_' || c = '~' || (c = '^' && !state.withinBrackets) then readRun state c
    else readText state

/-- Give up the brackets that are still open. -/
def dropBrackets (state : InlineState) : List Bracket → List Piece
  | [] => state.pieces
  | bracket :: outer => dropBrackets (dropBracket state bracket outer) outer

/-- Read the whole text, in at most `most` steps. -/
def readInlines (definitions : Definitions) (most : Nat) (state : InlineState) : InlineState :=
  match most with
  | 0 => state
  | most + 1 =>
    if state.reader.rest.isEmpty then state
    else readInlines definitions most (readNext definitions state)

/-- The inlines of a text that begins in the line `line` of the source, and the bytes that further
references may bring in, where these ones may bring in `allowance`. -/
def Content.inlines (content : Content) (definitions : Definitions) (line allowance : Nat) :
    List Node × Nat :=
  let reader := Reader.ofContent content line
  let final := readInlines definitions reader.rest.length { reader, allowance }
  (resolve (dropBrackets final final.brackets).reverse, final.allowance)

end TopicPress.Markdown
