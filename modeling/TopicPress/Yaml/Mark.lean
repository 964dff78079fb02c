import TopicPress.Yaml.Token

/-!
# Places in a YAML text

A place in a text knows its line and column, because indentation has a meaning, and whether only
blanks precede it on its line.  The functions here pass over parts of a text that hold no token.
-/

namespace TopicPress.Yaml

structure Mark where
  index : Nat := 0
  line : Nat := 0
  column : Nat := 0
  /-- Only blanks stand between the beginning of the line and this place. -/
  leading : Bool := true
  deriving DecidableEq

namespace Mark

/-- Past a blank. -/
def blank (mark : Mark) : Mark :=
  { mark with index := mark.index + 1, column := mark.column + 1 }

/-- Past `count` characters of a token or a comment. -/
def solid (mark : Mark) (count : Nat) : Mark :=
  { mark with index := mark.index + count, column := mark.column + count, leading := false }

/-- Past a line break of `count` characters. -/
def newline (mark : Mark) (count : Nat) : Mark :=
  { index := mark.index + count, line := mark.line + 1, column := 0, leading := true }

end Mark

/-- A place in a text with the text from there on. -/
structure Place where
  mark : Mark
  rest : List Char

namespace Place

/-- Past `count` characters of a token. -/
def skip (place : Place) (count : Nat) : Place :=
  ⟨place.mark.solid count, place.rest.drop count⟩

def first (place : Place) : Char := Yaml.first place.rest

def second (place : Place) : Char := Yaml.second place.rest

/-- Past a comment, up to the end of the line. -/
def skipComment (place : Place) : Place :=
  place.skip (place.rest.takeWhile (fun c => !isBreakOrEnd c)).length

/-- Past a line break, if there is one here. -/
def skipBreak (place : Place) : Place :=
  match place.rest with
  | '\r' :: '\n' :: rest => ⟨place.mark.newline 2, rest⟩
  | c :: rest => if isBreak c then ⟨place.mark.newline 1, rest⟩ else place
  | [] => place

end Place

/-- What was passed before the end of a line or the next token on it. -/
structure LineRest where
  place : Place
  sawTab : Bool
  sawSpace : Bool

/-- Pass over blanks and a comment on the same line; tabs count only if `tabs`.  A comment must not
follow a token at once. -/
def toLineEnd (tabs sawTab sawSpace : Bool) (mark : Mark) : List Char → Option LineRest
  | ' ' :: rest => toLineEnd tabs sawTab true mark.blank rest
  | '\t' :: rest =>
    if tabs then toLineEnd tabs true sawSpace mark.blank rest
    else some ⟨⟨mark, '\t' :: rest⟩, sawTab, sawSpace⟩
  | '#' :: rest =>
    if sawTab || sawSpace then
      some ⟨Place.skipComment ⟨mark, '#' :: rest⟩, sawTab, sawSpace⟩
    else none
  | rest => some ⟨⟨mark, rest⟩, sawTab, sawSpace⟩

/-- Pass over the rest of a line, tabs included, up to a token. -/
def Place.lineEnd (place : Place) : Option LineRest :=
  toLineEnd true false false place.mark place.rest

/-- What the way to the next token has come to on the present line. -/
inductive Approach where
  | clear
  /-- A tab stood where there should be indentation; only an empty line may hold one. -/
  | tabbed
  | comment
  deriving DecidableEq

/-- Pass over blanks, comments and line breaks up to the next token.  Also say whether a line break
was passed.  `indent` is the indentation that tabs must not stand in, if there is one. -/
def toToken (indent : Option Int) (approach : Approach) (passedBreak : Bool) (mark : Mark) :
    List Char → Option (Place × Bool)
  | [] => some (⟨mark, []⟩, passedBreak)
  | '\r' :: '\n' :: rest => toToken indent .clear true (mark.newline 2) rest
  | c :: rest =>
    if isBreak c then toToken indent .clear true (mark.newline 1) rest
    else if isEnd c then some (⟨mark, c :: rest⟩, passedBreak)
    else if approach == .comment then toToken indent .comment passedBreak (mark.solid 1) rest
    else if c == '#' then toToken indent .comment passedBreak (mark.solid 1) rest
    else if isBlank c then
      let tabbed := c == '\t' && mark.leading &&
        match indent with
        | some indent => (mark.column : Int) < indent
        | none => false
      toToken indent (if tabbed then .tabbed else approach) passedBreak mark.blank rest
    else if approach == .tabbed then none
    else some (⟨mark, c :: rest⟩, passedBreak)

end TopicPress.Yaml
