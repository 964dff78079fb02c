import TopicPress.Yaml.Mark

/-!
# Plain scalars

A plain scalar is text without quotes.  It may go on over several lines as long as they are indented
deeply enough; a line break between words is read as a blank, and of several the first is dropped.
-/

namespace TopicPress.Yaml.PlainScalar

/-- Where the scalar stands: the least column of its further lines, and whether it is part of a
collection in flow style. -/
structure Context where
  indent : Int
  inFlow : Bool

/-- Whether a character can be part of a plain scalar, given the one after it. -/
def canContinue (inFlow : Bool) (c next : Char) : Bool :=
  if c == ':' && (isGap next || (inFlow && isFlow next)) then false
  else !(inFlow && isFlow c)

/-- What precedes the present character. -/
inductive Mode where
  /-- Nothing: the scalar begins here. -/
  | beginning
  | word
  | gap
  /-- A tab within the indentation of a line that must turn out empty. -/
  | tabbed
  /-- A comment on such a line. -/
  | comment
  deriving DecidableEq

/-- The words read so far, last character first, and the gap after them. -/
structure Words where
  text : List Char := []
  /-- The blanks since the last word on its line, last first. -/
  blanks : List Char := []
  /-- A line ended since the last word. -/
  broken : Bool := false
  /-- The empty lines after that. -/
  emptyLines : Nat := 0

/-- The text with what the gap after it stands for; `leading` says that a new line has begun. -/
def Words.closeGap (words : Words) (leading : Bool) : Words :=
  if leading then
    if words.broken && words.emptyLines == 0 then
      { words with text := ' ' :: words.text, broken := false }
    else
      { words with
        text := List.replicate words.emptyLines '\n' ++ words.text, broken := false, emptyLines := 0 }
  else { words with text := words.blanks ++ words.text, blanks := [] }

/-- Read from a place on.  The result is the text and the place after it and after its gap. -/
def read (context : Context) (mode : Mode) (words : Words) (mark : Mark) :
    List Char → Option (List Char × Place)
  | [] => some (words.text.reverse, ⟨mark, []⟩)
  | c :: rest =>
    let stop := some (words.text.reverse, (⟨mark, c :: rest⟩ : Place))
    if c == '\r' && first rest == '\n' then
      read context mode words { mark with index := mark.index + 1 } rest
    else if isBreak c then
      let words := if mark.leading then { words with emptyLines := words.emptyLines + 1 }
        else { words with blanks := [], broken := true }
      read context .gap words (mark.newline 1) rest
    else if isEnd c then stop
    else if mode == .comment then read context .comment words (mark.solid 1) rest
    else if isBlank c then
      if mode == .tabbed then read context .tabbed words mark.blank rest
      else if !mark.leading then
        read context .gap { words with blanks := c :: words.blanks } mark.blank rest
      else if c == '\t' && (mark.column : Int) < context.indent then
        read context .tabbed words mark.blank rest
      else read context .gap words mark.blank rest
    else if mode == .tabbed then
      if c == '#' then read context .comment words (mark.solid 1) rest else none
    else
      let extend (words : Words) :=
        read context .word { words with text := c :: words.text } (mark.solid 1) rest
      let ends := !canContinue context.inFlow c (first rest)
      if mode == .word then if ends then stop else extend words
      else if mode == .gap && !context.inFlow && (mark.column : Int) < context.indent then stop
      else if (mark.column == 0 && startsIndicator (c :: rest)) || c == '#' then stop
      else if context.inFlow && c == '-' && isFlow (first rest) then none
      else if ends then stop
      else extend (words.closeGap mark.leading)

/-- The plain scalar at a place; there is at least one character to it. -/
def scan (context : Context) (place : Place) : Option (String × Place) :=
  if context.inFlow && (place.mark.column : Int) < context.indent then none
  else
    match read context .beginning {} place.mark place.rest with
    | none => none
    | some ([], _) => none
    | some (text, after) => some (String.ofList text, after)

end TopicPress.Yaml.PlainScalar
