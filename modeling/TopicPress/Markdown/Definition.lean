import TopicPress.Markdown.LinkPart

/-!
# Definitions of links

A paragraph may begin with definitions: a label, a colon, a destination and perhaps a title.  They
are taken off the paragraph, and links and images refer to them by their labels.
-/

namespace TopicPress.Markdown

open Text LinkPart

/-- Where a link goes, and its title. -/
structure Target where
  url : String
  title : String := ""
  deriving DecidableEq

/-- The bytes that a reference to the target brings into the text. -/
def Target.size (target : Target) : Nat := target.url.utf8ByteSize + target.title.utf8ByteSize

/-- The definitions of a text by normalized label. -/
structure Definitions where
  entries : List (List Char × Target) := []

namespace Definitions

/-- The target of a label; of several definitions the first one counts. -/
def find? (definitions : Definitions) (label : List Char) : Option Target :=
  definitions.entries.lookup (normalizeLabel label)

/-- Add a definition after the others. -/
def add (definitions : Definitions) (label : List Char) (target : Target) : Definitions :=
  ⟨definitions.entries ++ [(normalizeLabel label, target)]⟩

end Definitions

/-- The text after the blanks at the end of a line and the line end. -/
def afterLine? (text : List Char) : Option (List Char) :=
  match text.dropWhile isBlank with
  | [] => some []
  | c :: rest => if isLineEnd c then some (dropLineEnd (c :: rest)) else none

/-- What may come after a destination: a title between blanks and the line end, or only the line
end. -/
def readTitle? (text : List Char) : Option (String × List Char) :=
  let spaced := dropBlanks text
  let title? := if spaced.length < text.length then title? spaced else none
  match title? with
  | some (title, after) =>
    match afterLine? after with
    | some rest => some (clean title, rest)
    | none => (afterLine? text).map (fun rest => ("", rest))
  | none => (afterLine? text).map (fun rest => ("", rest))

/-- A definition at the beginning of a text: its label, its target, and the rest. -/
def readDefinition? (text : List Char) : Option (List Char × Target × List Char) :=
  match label? text with
  | some (label, ':' :: afterColon) =>
    if label.isEmpty then none
    else
      (destination? (dropBlanks afterColon)).bind fun (destination, afterDestination) =>
        (readTitle? afterDestination).map fun (title, rest) =>
          (label, ⟨cleanDestination destination, title⟩, rest)
  | _ => none

/-- Take the definitions off the beginning of a text. -/
def takeDefinitions (definitions : Definitions) (text : List Char) :
    Definitions × List Char :=
  match readDefinition? text with
  | some (label, target, rest) =>
    if rest.length < text.length then takeDefinitions (definitions.add label target) rest
    else (definitions, text)
  | none => (definitions, text)
termination_by text.length

end TopicPress.Markdown
