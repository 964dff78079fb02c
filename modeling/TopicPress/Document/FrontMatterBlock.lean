import TopicPress.Document.FrontMatter
import TopicPress.Notice
import TopicPress.Text.Blank
import TopicPress.Text.Lines
import TopicPress.Yaml.Document

/-!
# Front-matter blocks

A front-matter block is YAML between lines of three hyphens.  Reading one never fails: a block that
is not YAML, or whose YAML is no mapping, is read line by line for what looks like a key with a
value or with items below it.
-/

namespace TopicPress.FrontMatterBlock

open Text

/-! ## Fences -/

/-- The line that opens a block and may close it. -/
def fence : List Char := ['-', '-', '-']

/-- A line that opens a block, blanks at its end apart. -/
def isOpening (line : List Char) : Bool := trimEnd line == fence

/-- A line that closes a block, blanks at its end apart. -/
def isClosing (line : List Char) : Bool := trimEnd line == fence || trimEnd line == ['.', '.', '.']

/-- The lines between the fences; either fence may be missing. -/
def bodyLines (raw : List Char) : List (List Char) :=
  let all := lines raw
  let inner := match all with
    | first :: rest => if isOpening first then rest else all
    | [] => []
  inner.takeWhile (fun line => !isClosing line)

/-- The text between the fences, every line ended by a line feed. -/
def body (raw : List Char) : List Char :=
  (bodyLines raw).flatMap (fun line => line ++ ['\n'])

/-! ## Reading YAML -/

/-- A value that is no sequence, or an item of one. -/
def itemOf (value : Yaml.Value) : MetaValue :=
  match value with
  | .null => .null
  | .invalid => .null
  | .sequence _ => .structured value.flowText
  | .mapping _ => .structured value.flowText
  | other => (other.scalarText?.map MetaValue.scalar).getD .null

/-- The values that a key is given: the items of a sequence, or one value. -/
def valuesOf (value : Yaml.Value) : List MetaValue :=
  match value with
  | .sequence items => items.map itemOf
  | other => [itemOf other]

/-- The mapping with one more entry; an entry whose key is no scalar is left out. -/
def addEntry (header : FrontMatter) (entry : Yaml.Value × Yaml.Value) : FrontMatter :=
  match entry.1.scalarText? with
  | some key => header.insert key (valuesOf entry.2)
  | none => header

/-- A notice for each entry that is left out. -/
def entryNotices (entries : List (Yaml.Value × Yaml.Value)) : List Notice :=
  (entries.filter (fun entry => entry.1.scalarText?.isNone)).map
    (fun entry => .frontMatterKeySkipped entry.1.flowText)

/-! ## Reading lines -/

/-- Text without the quotes around it, if the same quote stands at both ends. -/
def unquote (text : List Char) : List Char :=
  match text with
  | quote :: rest =>
    if quote = '"' || quote = '\'' then
      match rest.reverse with
      | last :: inner => if last = quote then inner.reverse else text
      | [] => text
    else text
  | [] => []

/-- A scalar from a text that may be quoted. -/
def scalarOf (text : List Char) : MetaValue := .scalar (String.ofList (unquote text))

/-- What has been read of the lines: the entries, and the key that items belong to. -/
structure Progress where
  header : FrontMatter := .empty
  current : Option String := none

/-- A key without a value on its line and without items is null. -/
def Progress.finishKey (progress : Progress) : FrontMatter :=
  match progress.current with
  | some key =>
    if progress.header.get? key = some [] then progress.header.insert key [.null]
    else progress.header
  | none => progress.header

/-- Read a line that is neither empty, nor a comment, nor an item. -/
def readEntry (header : FrontMatter) (line : List Char) : Progress :=
  match line.dropWhile (· ≠ ':') with
  | [] => { header }
  | _ :: rest =>
    let key := String.ofList (unquote (trim (line.takeWhile (· ≠ ':'))))
    let value := trim rest
    if value.isEmpty then { header := header.insert key [], current := some key }
    else { header := header.insert key [scalarOf value] }

/-- Read one more line. -/
def Progress.step (progress : Progress) (line : List Char) : Progress :=
  match trim line with
  | [] => progress
  | '#' :: _ => progress
  | '-' :: item =>
    match progress.current with
    | some key => { progress with header := progress.header.push key (scalarOf (trim item)) }
    | none => progress
  | trimmed => readEntry progress.finishKey trimmed

/-- Read lines for keys with their values. -/
def scanLines (text : List Char) : FrontMatter :=
  ((lines text).foldl Progress.step {}).finishKey

/-! ## Blocks -/

/-- Read a block, fences included, and leave notices about what could not be read as it should. -/
def read (raw : String) : FrontMatter × List Notice :=
  let text := body raw.toList
  match Yaml.documents? text with
  | none => (scanLines text, [.invalidFrontMatter])
  | some [] => (.empty, [])
  | some (.null :: _) => (.empty, [])
  | some (.mapping entries :: _) => (entries.foldl addEntry .empty, entryNotices entries)
  | some (_ :: _) => (scanLines text, [.frontMatterNotMapping])

end TopicPress.FrontMatterBlock
