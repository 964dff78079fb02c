import TopicPress.Document.Basic
import TopicPress.Text.Ascii
import TopicPress.Text.Utf8

/-!
# Lines and columns

Markdown reads a text line by line.  Within a line, indentation is measured in columns, and a tab
reaches to the next multiple of four; a block can take some of the columns of a tab and leave the
others to its content.
-/

namespace TopicPress.Markdown

open Text

/-- A line, and the characters that end it: only the last line may lack them. -/
structure Line where
  text : List Char
  ending : List Char := ['\n']

/-- Has the line an end? -/
def Line.ended (line : Line) : Bool := !line.ending.isEmpty

/-- The line with its end. -/
def Line.whole (line : Line) : List Char := line.text ++ line.ending

/-- The lines of a text, where `line` holds the characters of the present one, last first.  A line
feed, a carriage return, or both in turn end a line. -/
def linesFrom (line : List Char) : List Char → List Line
  | [] => if line.isEmpty then [] else [⟨line.reverse, []⟩]
  | '\r' :: '\n' :: rest => ⟨line.reverse, ['\r', '\n']⟩ :: linesFrom [] rest
  | c :: rest =>
    if isLineEnd c then ⟨line.reverse, [c]⟩ :: linesFrom [] rest else linesFrom (c :: line) rest

/-- The lines of a text. -/
def linesOf (text : List Char) : List Line := linesFrom [] text

/-- How far a line has been read. -/
structure Cursor where
  /-- What is left.  It begins with a tab of which some columns were taken, if `inTab`. -/
  rest : List Char
  /-- The bytes before the rest. -/
  offset : Nat := 0
  /-- The columns before what is left. -/
  column : Nat := 0
  inTab : Bool := false

namespace Cursor

/-- The columns to the next tab stop. -/
def toTabStop (column : Nat) : Nat := 4 - column % 4

/-- Go on by one character. -/
def next (cursor : Cursor) : Cursor :=
  match cursor.rest with
  | [] => cursor
  | c :: rest =>
    { rest, offset := cursor.offset + Utf8.width c,
      column := cursor.column + (if c = '\t' then toTabStop cursor.column else 1) }

/-- Go on by `count` characters. -/
def skip (cursor : Cursor) : Nat → Cursor
  | 0 => cursor
  | count + 1 => (cursor.next).skip count

/-- Go on by one column, which may be one of several of a tab. -/
def nextColumn (cursor : Cursor) : Cursor :=
  match cursor.rest with
  | '\t' :: _ =>
    if toTabStop cursor.column = 1 then cursor.next
    else { cursor with column := cursor.column + 1, inTab := true }
  | _ => cursor.next

/-- Go on by `count` columns. -/
def skipColumns (cursor : Cursor) : Nat → Cursor
  | 0 => cursor
  | count + 1 => (cursor.nextColumn).skipColumns count

/-- Does a space or a tab come next? -/
def atBlank (cursor : Cursor) : Bool :=
  match cursor.rest with
  | c :: _ => isBlank c
  | [] => false

/-- Go on by at most `count` columns of spaces and tabs. -/
def skipBlankColumns (cursor : Cursor) : Nat → Cursor
  | 0 => cursor
  | count + 1 => if cursor.atBlank then (cursor.nextColumn).skipBlankColumns count else cursor

/-- Go on to the first character that is no space and no tab. -/
def toText (cursor : Cursor) : Cursor :=
  cursor.skip (cursor.rest.takeWhile isBlank).length

/-- The columns of spaces and tabs that come next. -/
def indent (cursor : Cursor) : Nat := cursor.toText.column - cursor.column

/-- Is nothing left but spaces and tabs? -/
def isBlankRest (cursor : Cursor) : Bool := cursor.rest.all isBlank

/-- The place of what comes next, counted from one. -/
def place (cursor : Cursor) (line : Nat) : SourcePosition := ⟨line, cursor.offset + 1⟩

/-- What is left as text: the columns left of a tab are spaces. -/
def remaining (cursor : Cursor) : List Char :=
  if cursor.inTab then
    List.replicate (toTabStop cursor.column) ' ' ++ cursor.rest.tail
  else cursor.rest

/-- The bytes before the text that is left; a tab that was begun counts as read. -/
def remainingOffset (cursor : Cursor) : Nat :=
  if cursor.inTab then cursor.offset + 1 else cursor.offset

end Cursor

end TopicPress.Markdown
