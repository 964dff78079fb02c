import TopicPress.Yaml.Mark

/-!
# Block scalars

A block scalar begins with a bar or an angle bracket and holds the indented lines after it.  Its
header may give the indentation and say what becomes of the line breaks at the end; after an angle
bracket single line breaks within are read as blanks.
-/

namespace TopicPress.Yaml.BlockScalar

/-- What becomes of the line breaks at the end. -/
inductive Chomping where
  | strip
  | clip
  | keep
  deriving DecidableEq

/-- The signs after the indicator. -/
structure Header where
  chomping : Chomping := .clip
  /-- The given indentation, zero when there is none. -/
  increment : Nat := 0

def chompingOf (c : Char) : Option Chomping :=
  if c == '+' then some .keep else if c == '-' then some .strip else none

/-- Read the signs, in either order, each at most once; an indentation of zero is refused. -/
def readHeader (place : Place) : Option (Header × Place) :=
  match chompingOf place.first with
  | some chomping =>
    let place := place.skip 1
    if place.first == '0' then none
    else if place.first.isDigit then
      some ({ chomping, increment := place.first.toNat - '0'.toNat }, place.skip 1)
    else some ({ chomping }, place)
  | none =>
    if place.first == '0' then none
    else if place.first.isDigit then
      let increment := place.first.toNat - '0'.toNat
      let place := place.skip 1
      match chompingOf place.first with
      | some chomping => some ({ chomping, increment }, place.skip 1)
      | none => some ({ increment }, place)
    else some ({}, place)

/-- Pass over empty lines and the indentation of the first line that is not empty, up to the column
`indent` if there is one.  The results are the number of line breaks and the greatest column. -/
def skipIndent (indent : Option Nat) (breaks deepest : Nat) (mark : Mark) :
    List Char → Nat × Nat × Place
  | [] => (breaks, max deepest mark.column, ⟨mark, []⟩)
  | '\r' :: '\n' :: rest =>
    skipIndent indent (breaks + 1) (max deepest mark.column) (mark.newline 2) rest
  | c :: rest =>
    let within := match indent with
      | some indent => mark.column < indent
      | none => true
    if c == ' ' && within then skipIndent indent breaks deepest mark.blank rest
    else if isBreak c then
      skipIndent indent (breaks + 1) (max deepest mark.column) (mark.newline 1) rest
    else (breaks, max deepest mark.column, ⟨mark, c :: rest⟩)

/-- The lines read so far. -/
structure Lines where
  text : List Char := []
  /-- The last line has ended. -/
  ended : Bool := false
  /-- The empty lines after it. -/
  emptyLines : Nat := 0
  /-- The last line began with a blank. -/
  indented : Bool := false

/-- The text with the line breaks before a new line, which begins with the character `c`. -/
def Lines.join (lines : Lines) (literal : Bool) (c : Char) : List Char :=
  let empty := List.replicate lines.emptyLines '\n'
  if !literal && lines.ended && !lines.indented && !isBlank c then
    (if lines.emptyLines == 0 then [' '] else empty) ++ lines.text
  else empty ++ (if lines.ended then ['\n'] else []) ++ lines.text

/-- Read lines that begin in the column `indent`; `fuel` bounds their number. -/
def readLines (literal : Bool) (indent : Nat) (lines : Lines) (place : Place) :
    Nat → Lines × Place
  | 0 => (lines, place)
  | fuel + 1 =>
    if place.mark.column != indent || isEnd place.first then (lines, place)
    else if indent == 0 && startsDocument '.' place.rest then (lines, place)
    else
      let content := place.rest.takeWhile (fun c => !isBreakOrEnd c)
      let text := content.reverse ++ lines.join literal place.first
      let indented := isBlank place.first
      let mark := { place.mark with
        index := place.mark.index + content.length, column := place.mark.column + content.length }
      let after : Place := ⟨mark, place.rest.drop content.length⟩
      if isEnd after.first then ({ text, indented }, after)
      else
        let next := after.skipBreak
        let (emptyLines, _, next) := skipIndent (some indent) 0 0 next.mark next.rest
        readLines literal indent { text, ended := true, emptyLines, indented } next fuel

/-- What a scalar without any line comes to; `breaks` counts the empty lines after the header, and
`headerEnded` tells whether the header's own line ended. -/
def emptyText (chomping : Chomping) (headerEnded sameLine : Bool) (breaks : Nat) : List Char :=
  let headerBreak := if headerEnded then ['\n'] else []
  match chomping with
  | .strip => []
  | .clip => if sameLine then [] else headerBreak
  | .keep =>
    if sameLine then [] else if breaks == 0 then headerBreak else List.replicate breaks '\n'

/-- The block scalar at a place, which holds the indicator.  `parent` is the indentation of the
block that it belongs to. -/
def scan (literal : Bool) (parent : Int) (place : Place) : Option (String × Place) :=
  match readHeader (place.skip 1) with
  | none => none
  | some (header, afterHeader) =>
    match afterHeader.lineEnd with
    | none => none
    | some line =>
      if !isBreakOrEnd line.place.first then none
      else
        let headerEnded := isBreak line.place.first
        let start := line.place.skipBreak
        if start.first == '\t' then none
        else
          let given : Nat :=
            if header.increment == 0 then 0
            else if 0 ≤ parent then (parent + header.increment).toNat else header.increment
          let (breaks, deepest, body) :=
            skipIndent (if given == 0 then none else some given) 0 0 start.mark start.rest
          let found := max deepest (parent + 1).toNat
          let indent := if given != 0 then given else if 0 < parent then max found 1 else found
          if isEnd body.first then
            let sameLine := body.mark.line == place.mark.line
            some (String.ofList (emptyText header.chomping headerEnded sameLine breaks), body)
          else if body.mark.column < indent && parent < (body.mark.column : Int) then none
          else
            let (lines, after) := readLines literal indent { emptyLines := breaks } body
              (body.rest.length + 1)
            let text := if header.chomping == .strip then lines.text
              else (if isEnd after.first && after.mark.column ≥ max indent 1 then ['\n'] else [])
                ++ (if lines.ended then ['\n'] else []) ++ lines.text
            let text := if header.chomping == .keep then
                List.replicate lines.emptyLines '\n' ++ text
              else text
            some (String.ofList text.reverse, after)

end TopicPress.Yaml.BlockScalar
