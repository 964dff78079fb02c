import TopicPress.Toml.Scalar

/-!
# TOML documents

A document is a sequence of lines: keys with values, headers in brackets and in double brackets,
comments and empty lines.  A key with a value goes into the table that the last header opened.
-/

namespace TopicPress.Toml

/-! ## Values -/

mutual

/-- A value, inside `depth` arrays and tables in braces. -/
def value (fuel depth : Nat) (text : List Char) : Option (Item × List Char) :=
  match fuel with
  | 0 => none
  | fuel + 1 =>
    match text with
    | '[' :: rest =>
      if depthLimit ≤ depth + 1 then none
      else do
        let rest ← skipSpace (rest.length + 1) rest
        match rest with
        | ']' :: rest => return (.array [], rest)
        | _ => elements fuel (depth + 1) [] rest
    | '\x7b' :: rest =>
      if depthLimit ≤ depth + 1 then none
      else
        match skipBlanks rest with
        | '\x7d' :: rest => some (.inlineTable [], rest)
        | _ => pairs fuel (depth + 1) [] rest
    | _ => (scalar text).map fun read => (.scalar read.1, read.2)

/-- The elements of an array up to its bracket, where `done` are those that have been read, last
first.  A comma may follow the last one. -/
def elements (fuel depth : Nat) (done : List Item) (text : List Char) :
    Option (Item × List Char) :=
  match fuel with
  | 0 => none
  | fuel + 1 => do
    let (element, rest) ← value fuel depth text
    let rest ← skipSpace (rest.length + 1) rest
    match rest with
    | ']' :: rest => return (.array (element :: done).reverse, rest)
    | ',' :: rest =>
      let rest ← skipSpace (rest.length + 1) rest
      match rest with
      | ']' :: rest => return (.array (element :: done).reverse, rest)
      | _ => elements fuel depth (element :: done) rest
    | _ => none

/-- The entries of a table in braces up to its brace, added to those that have been read.  All stand
on one line, and no comma follows the last one. -/
def pairs (fuel depth : Nat) (entries : Entries) (text : List Char) :
    Option (Item × List Char) :=
  match fuel with
  | 0 => none
  | fuel + 1 => do
    let ((path, last), rest) ← key text
    match rest with
    | '=' :: rest =>
      let (item, rest) ← value fuel depth (skipBlanks rest)
      let entries ← entries.addDotted path last item
      match skipBlanks rest with
      | '\x7d' :: rest => return (.inlineTable entries, rest)
      | ',' :: rest => pairs fuel depth entries rest
      | _ => none
    | _ => none

end

/-- A value that is not inside another one. -/
def outermostValue : Reader Item := fun text => value (2 * text.length + 2) 0 text

/-! ## Lines -/

/-- A document as far as it has been read. -/
structure Reading where
  root : Entries := []
  /-- The keys of the last header. -/
  header : List String := []

namespace Reading

/-- A key with its value, up to the end of the line. -/
def pair (reading : Reading) (text : List Char) : Option (Reading × List Char) := do
  let ((path, last), rest) ← key text
  match rest with
  | '=' :: rest =>
    let (item, rest) ← outermostValue (skipBlanks rest)
    let rest ← lineEnd? rest
    let root ← reading.root.addBelow reading.header path last item
    return ({ reading with root }, rest)
  | _ => none

/-- A header, after its bracket, up to the end of the line. -/
def header? (reading : Reading) (text : List Char) : Option (Reading × List Char) := do
  let ((path, last), rest) ← key text
  match rest with
  | ']' :: rest =>
    let rest ← lineEnd? rest
    let root ← reading.root.openTable path last
    return (⟨root, path ++ [last]⟩, rest)
  | _ => none

/-- A header in double brackets, after both, up to the end of the line. -/
def doubleHeader? (reading : Reading) (text : List Char) : Option (Reading × List Char) := do
  let ((path, last), rest) ← key text
  match rest with
  | ']' :: ']' :: rest =>
    let rest ← lineEnd? rest
    let root ← reading.root.openNextTable path last
    return (⟨root, path ++ [last]⟩, rest)
  | _ => none

/-- One line that is not empty. -/
def line (reading : Reading) (text : List Char) : Option (Reading × List Char) :=
  match text with
  | '[' :: '[' :: rest => reading.doubleHeader? rest
  | '[' :: rest => reading.header? rest
  | '#' :: _ => (lineEnd? text).map (reading, ·)
  | '\n' :: _ => (lineEnd? text).map (reading, ·)
  | '\r' :: _ => (lineEnd? text).map (reading, ·)
  | _ => reading.pair text

/-- All lines. -/
def lines (fuel : Nat) (reading : Reading) (text : List Char) : Option Reading :=
  match fuel, skipBlanks text with
  | _, [] => some reading
  | 0, _ => none
  | fuel + 1, text => do
    let (reading, rest) ← reading.line text
    reading.lines fuel rest

end Reading

/-- The entries of the document that a text is, if it is one.  A byte-order mark may come first. -/
def read? (text : List Char) : Option Entries :=
  let text := if text.head? = some '\uFEFF' then text.tail else text
  (Reading.lines (text.length + 1) {} text).map Reading.root

end TopicPress.Toml
