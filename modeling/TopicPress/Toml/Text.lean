import TopicPress.Text.Ascii

/-!
# The text of TOML

Blanks, comments, line ends, quoted text and keys.  Each reader takes what it reads off the front of
a text and gives back the rest.  There is no reader that goes on after a mistake, so a failure is
only ever `none`.
-/

namespace TopicPress.Toml

open Text

/-- Takes something off the front of a text. -/
abbrev Reader (α : Type) := List Char → Option (α × List Char)

/-! ## Blanks, comments and line ends -/

def skipBlanks (text : List Char) : List Char := text.dropWhile isBlank

/-- May a character stand in a comment or in text between quotes?  Control characters other than the
tab may not. -/
def isVisible (c : Char) : Bool := c == '\t' || !isAsciiControl c

/-- Take a line feed, or a carriage return and a line feed. -/
def newline? : List Char → Option (List Char)
  | '\n' :: rest => some rest
  | '\r' :: '\n' :: rest => some rest
  | _ => none

/-- Skip a comment, if there is one. -/
def skipComment : List Char → List Char
  | '#' :: rest => rest.dropWhile isVisible
  | text => text

/-- The end of a line of the document: blanks, perhaps a comment, and a line end or the end of the
text. -/
def lineEnd? (text : List Char) : Option (List Char) :=
  match skipComment (skipBlanks text) with
  | [] => some []
  | rest => newline? rest

/-- Skip blanks, comments and line ends, as they may stand between the elements of an array.  A
comment there ends with its line. -/
def skipSpace (fuel : Nat) (text : List Char) : Option (List Char) :=
  match fuel with
  | 0 => none
  | fuel + 1 =>
    match skipBlanks text with
    | '#' :: rest => (newline? (rest.dropWhile isVisible)).bind (skipSpace fuel)
    | '\n' :: rest => skipSpace fuel rest
    | '\r' :: rest => (newline? ('\r' :: rest)).bind (skipSpace fuel)
    | rest => some rest

/-! ## Quoted text on one line -/

/-- The value of hexadecimal digits. -/
def hexValue? (digits : List Char) : Option Nat :=
  digits.foldlM (fun value c => (hexDigit? c).map (value * 16 + ·)) 0

/-- The character with a number, unless the number is a surrogate's or too large. -/
def character? (number : Nat) : Option Char :=
  if h : number.isValidChar then some (Char.ofNatAux number h) else none

/-- The character that a letter after a backslash stands for. -/
def escaped? : Char → Option Char
  | 'b' => some '\x08'
  | 't' => some '\t'
  | 'n' => some '\n'
  | 'f' => some '\x0c'
  | 'r' => some '\r'
  | '"' => some '"'
  | '\\' => some '\\'
  | _ => none

/-- An escape, after its backslash. -/
def escape : Reader Char
  | 'u' :: rest => do
    if rest.length < 4 then none
    return (← character? (← hexValue? (rest.take 4)), rest.drop 4)
  | 'U' :: rest => do
    if rest.length < 8 then none
    return (← character? (← hexValue? (rest.take 8)), rest.drop 8)
  | c :: rest => (escaped? c).map (·, rest)
  | [] => none

/-- The text up to a double quote, where `done` is what has been read, last first. -/
def basicString (fuel : Nat) (done : List Char) (text : List Char) :
    Option (List Char × List Char) :=
  match fuel, text with
  | _, '"' :: rest => some (done.reverse, rest)
  | fuel + 1, '\\' :: rest =>
    match escape rest with
    | some (c, rest) => basicString fuel (c :: done) rest
    | none => none
  | fuel + 1, c :: rest => if isVisible c then basicString fuel (c :: done) rest else none
  | _, _ => none

/-- The text up to a single quote.  Nothing is escaped in it. -/
def literalString (text : List Char) : Option (List Char × List Char) :=
  let content := text.takeWhile fun c => isVisible c && c != '\''
  match text.drop content.length with
  | '\'' :: rest => some (content, rest)
  | _ => none

/-! ## Quoted text on several lines -/

/-- What ends text on several lines: three quotes and up to two more, which belong to the text. -/
def closing (quote : Char) (text : List Char) : Option (List Char × List Char) :=
  let count := (text.takeWhile (· == quote)).length
  if count < 3 then none
  else
    let extra := min (count - 3) 2
    some (List.replicate extra quote, text.drop (3 + extra))

/-- Skip blanks and line ends. -/
def skipLines : List Char → List Char
  | '\r' :: '\n' :: rest => skipLines rest
  | c :: rest => if isBlank c || c == '\n' then skipLines rest else c :: rest
  | [] => []

/-- After a backslash at the end of a line: all blanks and line ends up to what comes next. -/
def continuation? (text : List Char) : Option (List Char) :=
  (newline? (skipBlanks text)).map skipLines

/-- The text up to three double quotes, where `done` is what has been read, last first. -/
def multilineBasicString (fuel : Nat) (done : List Char) (text : List Char) :
    Option (List Char × List Char) :=
  match fuel with
  | 0 => none
  | fuel + 1 =>
    match closing '"' text with
    | some (extra, rest) => some (done.reverse ++ extra, rest)
    | none =>
      match text with
      | '\\' :: rest =>
        match continuation? rest with
        | some rest => multilineBasicString fuel done rest
        | none =>
          match escape rest with
          | some (c, rest) => multilineBasicString fuel (c :: done) rest
          | none => none
      | c :: rest =>
        if isVisible c then multilineBasicString fuel (c :: done) rest
        else
          match newline? text with
          | some rest => multilineBasicString fuel ('\n' :: done) rest
          | none => none
      | [] => none

/-- The text up to three single quotes, where `done` is what has been read, last first. -/
def multilineLiteralString (fuel : Nat) (done : List Char) (text : List Char) :
    Option (List Char × List Char) :=
  match fuel with
  | 0 => none
  | fuel + 1 =>
    match closing '\'' text with
    | some (extra, rest) => some (done.reverse ++ extra, rest)
    | none =>
      match text with
      | c :: rest =>
        if isVisible c then multilineLiteralString fuel (c :: done) rest
        else
          match newline? text with
          | some rest => multilineLiteralString fuel ('\n' :: done) rest
          | none => none
      | [] => none

/-- Drop a line end right after the opening quotes. -/
def dropFirstNewline (text : List Char) : List Char := (newline? text).getD text

/-- Quoted text of any kind. -/
def string : Reader String
  | '"' :: '"' :: '"' :: rest =>
    let text := dropFirstNewline rest
    (multilineBasicString (text.length + 1) [] text).map fun read =>
      (String.ofList read.1, read.2)
  | '\'' :: '\'' :: '\'' :: rest =>
    let text := dropFirstNewline rest
    (multilineLiteralString (text.length + 1) [] text).map fun read =>
      (String.ofList read.1, read.2)
  | '"' :: rest =>
    (basicString rest.length [] rest).map fun read => (String.ofList read.1, read.2)
  | '\'' :: rest => (literalString rest).map fun read => (String.ofList read.1, read.2)
  | _ => none

/-! ## Keys -/

/-- May a character stand in a key without quotes? -/
def isBare (c : Char) : Bool := c.isAlphanum || c == '-' || c == '_'

/-- One key: bare, or in quotes on one line. -/
def simpleKey : Reader String
  | '"' :: rest =>
    (basicString rest.length [] rest).map fun read => (String.ofList read.1, read.2)
  | '\'' :: rest => (literalString rest).map fun read => (String.ofList read.1, read.2)
  | text =>
    let key := text.takeWhile isBare
    if key.isEmpty then none else some (String.ofList key, text.drop key.length)

/-- The keys of a dotted key, where `done` are those that have been read, last first, with blanks
around them. -/
def dottedKeys (fuel : Nat) (done : List String) (text : List Char) :
    Option (List String × List Char) :=
  match fuel with
  | 0 => none
  | fuel + 1 =>
    match simpleKey (skipBlanks text) with
    | none => none
    | some (key, rest) =>
      match skipBlanks rest with
      | '.' :: rest => dottedKeys fuel (key :: done) rest
      | rest => some ((key :: done).reverse, rest)

/-- How deep keys and values may be nested. -/
def depthLimit : Nat := 80

/-- A key with dots or without, as the keys before the last one and the last one. -/
def key : Reader (List String × String) := fun text => do
  let (keys, rest) ← dottedKeys (text.length + 1) [] text
  if depthLimit ≤ keys.length then none
  let last ← keys.getLast?
  return ((keys.dropLast, last), rest)

end TopicPress.Toml
