import TopicPress.Text.Ascii
import TopicPress.Text.Blank
import TopicPress.Text.Utf8

/-!
# Rows of tables

A row is divided into cells by pipes; a pipe at either end of the row may be left out.  A pipe after
a backslash belongs to its cell.  Below the header of a table, a row of hyphens with colons gives
the alignment of the columns, of which only their number matters here.
-/

namespace TopicPress.Markdown

open Text

/-- A cell, without the white space around its text, and where it stands in its line, in bytes. -/
structure Cell where
  text : List Char
  /-- What comes before the cell: it begins right after a pipe. -/
  start : Nat
  /-- The white space before the text. -/
  indent : Nat
  /-- What comes before the last character of the cell, white space included. -/
  last : Nat

namespace TableRow

/-- White space within a row. -/
def isRowBlank (c : Char) : Bool := c == ' ' || c == '\t' || c == '\x0b' || c == '\x0c'

/-- Drop the backslashes that stand before pipes, where two backslashes belong together. -/
def unescapePipes : List Char → List Char
  | '\\' :: c :: rest =>
    if c = '|' then '|' :: unescapePipes rest else '\\' :: c :: unescapePipes rest
  | c :: rest => c :: unescapePipes rest
  | [] => []

/-- A cell that is being read. -/
structure Reading where
  start : Nat
  indent : Nat := 0
  /-- The bytes of the text. -/
  width : Nat := 0
  /-- The characters that were read, last first. -/
  chars : List Char := []
  /-- Only white space came since the pipe. -/
  fresh : Bool := true

/-- The cell as far as it was read. -/
def Reading.cell (reading : Reading) : Cell :=
  { text := trimBy isLineSpace (unescapePipes reading.chars.reverse)
    start := reading.start
    indent := reading.indent
    last := reading.start + reading.indent + reading.width - 1 }

/-- Read one more character of the cell. -/
def Reading.add (reading : Reading) (c : Char) : Reading :=
  if reading.fresh && isRowBlank c then { reading with indent := reading.indent + 1 }
  else { reading with width := reading.width + Utf8.width c, chars := c :: reading.chars,
                      fresh := false }

/-- The cells of a line from the one that is being read on, where `escaped` says that a backslash
comes before. -/
def cellsFrom (reading : Reading) (escaped : Bool) : List Char → List Cell
  | [] => if reading.chars.isEmpty then [] else [reading.cell]
  | c :: rest =>
    if c = '|' && !escaped then
      let next := reading.start + reading.indent + reading.width + 1
      reading.cell :: cellsFrom { start := next } false rest
    else cellsFrom (reading.add c) (c = '\\') rest

/-- The cells of a line; there may be none. -/
def cells : List Char → List Cell
  | '|' :: rest => cellsFrom { start := 1 } false rest
  | line => cellsFrom { start := 0, fresh := false } false line

/-- Hyphens with a colon at either end or not. -/
def isMarker (text : List Char) : Bool :=
  let body := match trimBy isRowBlank text with
    | ':' :: rest => rest
    | trimmed => trimmed
  let hyphens := body.takeWhile (· == '-')
  !hyphens.isEmpty && (body.drop hyphens.length == [] || body.drop hyphens.length == [':'])

/-- The number of columns that a row of markers gives. -/
def columns? (line : List Char) : Option Nat :=
  let inner := match line with
    | '|' :: rest => rest
    | _ => line
  let parts := inner.splitOn '|'
  let markers :=
    match parts.reverse with
    | last :: _ :: _ => if last.all isRowBlank then parts.dropLast else parts
    | _ => parts
  if markers.all isMarker then some markers.length else none

end TableRow

end TopicPress.Markdown
