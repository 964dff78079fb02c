import TopicPress.Markdown.Html
import TopicPress.Markdown.Line
import TopicPress.Text.Blank

/-!
# What begins a block

Recognisers for the lines, after their indentation, that begin or end a block: rules, headings,
fences and list markers.
-/

namespace TopicPress.Markdown.BlockStart

open Text

/-! ## Rules and headings -/

/-- Three or more of one of the marks `*`, `_` and `-`, with blanks anywhere. -/
def isThematicBreak (text : List Char) : Bool :=
  match text with
  | mark :: _ =>
    (mark == '*' || mark == '_' || mark == '-')
      && text.all (fun c => c == mark || isBlank c)
      && 3 ≤ (text.filter (· == mark)).length
  | [] => false

/-- The level of a heading that begins with number signs, and the characters up to its text. -/
def heading? (text : List Char) : Option (Nat × Nat) :=
  let level := (text.takeWhile (· == '#')).length
  let rest := text.drop level
  let blanks := (rest.takeWhile isBlank).length
  if level = 0 || 6 < level then none
  else if rest.isEmpty || blanks ≠ 0 then some (level, level + blanks)
  else none

/-- The text of a heading without the number signs that close it. -/
def headingText (text : List Char) : List Char :=
  let trimmed := dropEndWhile isLineSpace text
  let body := dropEndWhile (· == '#') trimmed
  if body.length = trimmed.length then trimmed
  else
    match body.getLast? with
    | none => []
    | some c => if isBlank c then dropEndWhile isLineSpace body else trimmed

/-- The level of the heading that an underline makes of the paragraph before it. -/
def underline? (text : List Char) : Option Nat :=
  match text with
  | mark :: _ =>
    if (mark = '=' || mark = '-') && (text.dropWhile (· == mark)).all isBlank then
      some (if mark = '=' then 1 else 2)
    else none
  | [] => none

/-! ## Fences -/

/-- The fence of a code block. -/
structure Fence where
  mark : Char
  length : Nat
  /-- The columns before the fence, which are taken off the lines of the block. -/
  indent : Nat

/-- The mark and the length of a fence that opens a code block. -/
def fence? (text : List Char) : Option (Char × Nat) :=
  match text with
  | mark :: _ =>
    let length := (text.takeWhile (· == mark)).length
    let info := text.drop length
    if (mark = '\x60' || mark = '~') && 3 ≤ length
        && (mark ≠ '\x60' || info.all (· ≠ '\x60')) then
      some (mark, length)
    else none
  | [] => none

/-- Does the line close the code block? -/
def Fence.closedBy (fence : Fence) (text : List Char) : Bool :=
  fence.length ≤ (text.takeWhile (· == fence.mark)).length
    && (text.dropWhile (· == fence.mark)).all isBlank

/-! ## List markers -/

/-- What the markers of the items of a list have in common. -/
inductive ListStyle where
  | bullet (mark : Char)
  | ordered (delimiter : Char)
  deriving DecidableEq

def ListStyle.isOrdered : ListStyle → Bool
  | bullet _ => false
  | ordered _ => true

/-- The marker of a list item. -/
structure ListMarker where
  style : ListStyle
  /-- The number of an ordered item. -/
  number : Nat := 1
  /-- The characters of the marker. -/
  length : Nat

/-- Is this white space or the end of the line, which counts only if `ended`? -/
def endsMarker (ended : Bool) : List Char → Bool
  | [] => ended
  | c :: _ => isBlank c

/-- The marker at the beginning of a text.  An item that interrupts a paragraph must not be empty,
and if it is numbered its number must be one.  A number must not end a text whose last line has no
end; `ended` says that the line has one. -/
def listMarker? (afterParagraph ended : Bool) (text : List Char) : Option ListMarker :=
  let accept (marker : ListMarker) (rest : List Char) : Option ListMarker :=
    let stands := endsMarker (ended || !marker.style.isOrdered) rest
    if stands && !(afterParagraph && (marker.number ≠ 1 || rest.all isBlank)) then some marker
    else none
  match text with
  | [] => none
  | c :: rest =>
    if c = '*' || c = '-' || c = '+' then accept { style := .bullet c, length := 1 } rest
    else
      let digits := (text.take 9).takeWhile Char.isDigit
      let number := digits.foldl (fun value digit => value * 10 + (digit.toNat - '0'.toNat)) 0
      match digits, text.drop digits.length with
      | _ :: _, delimiter :: rest =>
        if delimiter = '.' || delimiter = ')' then
          accept { style := .ordered delimiter, number, length := digits.length + 1 } rest
        else none
      | _, _ => none

end TopicPress.Markdown.BlockStart
