import TopicPress.Markdown.CharacterReference
import TopicPress.Text.Blank
import TopicPress.Text.CaseFold
import TopicPress.Text.Utf8

/-!
# Parts of links

Labels, destinations and titles, as they occur in links, in images and in definitions.  A reader
gives the part as it is written and what comes after it; `cleanDestination` and `clean` give what is
meant by a destination and by a title.
-/

namespace TopicPress.Markdown.LinkPart

open Text

/-! ## Blanks between parts -/

/-- The text without one line end at its beginning. -/
def dropLineEnd (text : List Char) : List Char :=
  match text with
  | '\r' :: '\n' :: rest => rest
  | '\r' :: rest => rest
  | '\n' :: rest => rest
  | _ => text

/-- Drop spaces and tabs, with at most one line end among them. -/
def dropBlanks (text : List Char) : List Char :=
  (dropLineEnd (text.dropWhile isBlank)).dropWhile isBlank

/-! ## Labels -/

/-- The characters of a label up to its closing bracket, where `room` bytes may still come. -/
def labelBody? (room : Nat) : List Char → Option (List Char × List Char)
  | [] => none
  | ']' :: rest => some ([], rest)
  | '[' :: _ => none
  | '\\' :: c :: rest =>
    if isAsciiPunctuation c then
      if room < 2 then none
      else (labelBody? (room - 2) rest).map (fun (body, after) => ('\\' :: c :: body, after))
    else if room < 1 then none
    else (labelBody? (room - 1) (c :: rest)).map (fun (body, after) => ('\\' :: body, after))
  | c :: rest =>
    if room < Utf8.width c then none
    else (labelBody? (room - Utf8.width c) rest).map (fun (body, after) => (c :: body, after))

/-- A label in brackets, of at most a thousand bytes; white space around it does not count. -/
def label? : List Char → Option (List Char × List Char)
  | '[' :: rest =>
    (labelBody? 1000 rest).map (fun (body, after) => (trimBy isLineSpace body, after))
  | _ => none

/-- One space for every stretch of white space, where `spaced` says that the last character was
white space. -/
def collapse (spaced : Bool) : List Char → List Char
  | [] => []
  | c :: rest =>
    if isWhiteSpace c then
      if spaced then collapse true rest else ' ' :: collapse true rest
    else c :: collapse false rest

/-- The form by which labels are compared: neither case nor the amount of white space counts. -/
def normalizeLabel (label : List Char) : List Char :=
  foldCase (collapse false (trimBy isLineSpace label))

/-! ## Destinations -/

/-- The rest of a destination in angle brackets. -/
def bracketedBody? : List Char → Option (List Char × List Char)
  | [] => none
  | '>' :: rest => some ([], rest)
  | '<' :: _ => none
  | '\n' :: _ => none
  | ['\\'] => none
  | '\\' :: c :: rest =>
    (bracketedBody? rest).map (fun (body, after) => ('\\' :: c :: body, after))
  | c :: rest => (bracketedBody? rest).map (fun (body, after) => (c :: body, after))

/-- A destination without brackets, where `depth` parentheses are open, and what comes after it.
It ends before white space and before a parenthesis that closes none of its own. -/
def bareBody? (depth : Nat) : List Char → Option (List Char × List Char)
  | [] => if depth = 0 then some ([], []) else none
  | ['\\'] => if depth = 0 then some (['\\'], []) else none
  | '\\' :: c :: rest =>
    if isAsciiPunctuation c then
      (bareBody? depth rest).map (fun (body, after) => ('\\' :: c :: body, after))
    else (bareBody? depth (c :: rest)).map (fun (body, after) => ('\\' :: body, after))
  | c :: rest =>
    if c = '(' then
      if 32 ≤ depth then none
      else (bareBody? (depth + 1) rest).map (fun (body, after) => (c :: body, after))
    else if c = ')' then
      match depth with
      | 0 => some ([], c :: rest)
      | depth + 1 => (bareBody? depth rest).map (fun (body, after) => (c :: body, after))
    else if isLineSpace c then
      if depth = 0 then some ([], c :: rest) else none
    else (bareBody? depth rest).map (fun (body, after) => (c :: body, after))

/-- A destination.  Something must come after one in brackets. -/
def destination? : List Char → Option (List Char × List Char)
  | '<' :: rest => (bracketedBody? rest).filter (fun (_, after) => !after.isEmpty)
  | [] => none
  | c :: rest => if isLineSpace c then none else bareBody? 0 (c :: rest)

/-- Drop the backslashes that stand before punctuation. -/
def dropEscapes : List Char → List Char
  | '\\' :: c :: rest =>
    if isAsciiPunctuation c then c :: dropEscapes rest else '\\' :: dropEscapes (c :: rest)
  | c :: rest => c :: dropEscapes rest
  | [] => []

/-- The text that is meant, references and escapes resolved. -/
def clean (text : List Char) : String :=
  String.ofList (dropEscapes (CharacterReference.resolve text))

/-- The destination that is meant. -/
def cleanDestination (destination : List Char) : String :=
  clean (trimBy isLineSpace destination)

/-! ## Titles -/

/-- The end of a title: the text up to a closing mark, and what comes after.  A mark after a
backslash ends the title only if no later mark does. -/
def titleBody? (opening : Option Char) (closing : Char) (escaped : Bool) :
    List Char → Option (List Char × List Char)
  | [] => none
  | c :: rest =>
    if opening = some c && !escaped then none
    else if c = closing then
      if escaped then
        match titleBody? opening closing false rest with
        | some (body, after) => some (c :: body, after)
        | none => some ([], rest)
      else some ([], rest)
    else
      (titleBody? opening closing (c = '\\') rest).map (fun (body, after) => (c :: body, after))

/-- A title without its quotes or parentheses. -/
def title? : List Char → Option (List Char × List Char)
  | '"' :: rest => titleBody? none '"' false rest
  | '\'' :: rest => titleBody? none '\'' false rest
  | '(' :: rest => titleBody? (some '(') ')' false rest
  | _ => none

end TopicPress.Markdown.LinkPart
