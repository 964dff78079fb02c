import TopicPress.Text.Ascii

/-!
# HTML in Markdown

Tags, comments, processing instructions, declarations and CDATA sections within text, and the lines
that begin and end blocks of HTML.  A recogniser takes the text where the construct would begin and
gives what comes after it.
-/

namespace TopicPress.Markdown.Html

open Text

/-- What a recogniser gives: what comes after the construct, if there is one. -/
abbrev Recogniser := List Char → Option (List Char)

/-- The text after `word`, whose case does not count, if the text begins with it. -/
def afterWord? (word : List Char) (text : List Char) : Option (List Char) :=
  if (text.take word.length).map Char.toLower == word then some (text.drop word.length) else none

/-- The text after one of the words. -/
def afterOneOf? (words : List String) (text : List Char) : Option (List Char) :=
  words.findSome? (fun word => afterWord? word.toList text)

/-! ## Tags -/

def isTagCharacter (c : Char) : Bool := c.isAlphanum || c == '-'

def isAttributeStart (c : Char) : Bool := c.isAlpha || c == '_' || c == ':'

def isAttributeCharacter (c : Char) : Bool :=
  c.isAlphanum || c == '_' || c == ':' || c == '.' || c == '-'

/-- A character of a value without quotes. -/
def isBareCharacter (c : Char) : Bool :=
  !(isAsciiSpace c || c == '"' || c == '\'' || c == '=' || c == '<' || c == '>' || c == '\x60')

/-- The name of a tag. -/
def tagName? : Recogniser
  | c :: rest => if c.isAlpha then some (rest.dropWhile isTagCharacter) else none
  | [] => none

/-- What comes after the quote that ends a value. -/
def quoted? (quote : Char) (text : List Char) : Option (List Char) :=
  match text.dropWhile (· ≠ quote) with
  | _ :: rest => some rest
  | [] => none

/-- The value of an attribute. -/
def attributeValue? : Recogniser
  | [] => none
  | '"' :: rest => quoted? '"' rest
  | '\'' :: rest => quoted? '\'' rest
  | c :: rest => if isBareCharacter c then some (rest.dropWhile isBareCharacter) else none

/-- What comes after the value of an attribute, or after its name if it has no value. -/
def afterValue (text : List Char) : List Char :=
  match text.dropWhile isAsciiSpace with
  | '=' :: rest => (attributeValue? (rest.dropWhile isAsciiSpace)).getD text
  | _ => text

/-- An attribute with the white space before it. -/
def attribute? (text : List Char) : Option (List Char) :=
  match text with
  | space :: rest =>
    if isAsciiSpace space then
      match rest.dropWhile isAsciiSpace with
      | c :: rest =>
        if isAttributeStart c then some (afterValue (rest.dropWhile isAttributeCharacter)) else none
      | [] => none
    else none
  | [] => none

/-- Any number of attributes, at most `most`. -/
def attributes : Nat → List Char → List Char
  | 0, text => text
  | most + 1, text =>
    match attribute? text with
    | some rest => attributes most rest
    | none => text

/-- A start tag after its `<`. -/
def startTag? (text : List Char) : Option (List Char) :=
  (tagName? text).bind fun rest =>
    match (attributes rest.length rest).dropWhile isAsciiSpace with
    | '/' :: '>' :: rest => some rest
    | '>' :: rest => some rest
    | _ => none

/-- An end tag after its `<`. -/
def endTag? (text : List Char) : Option (List Char) :=
  match text with
  | '/' :: rest =>
    (tagName? rest).bind fun rest =>
      match rest.dropWhile isAsciiSpace with
      | '>' :: rest => some rest
      | _ => none
  | _ => none

/-- A start tag or an end tag after its `<`. -/
def tag? (text : List Char) : Option (List Char) := (endTag? text).or (startTag? text)

/-! ## Other constructs -/

/-- The end of a construct that a run of marks and `>` end: what comes after, where `count` marks
stand before the text.  The body takes its marks three by three if `two`, otherwise two by two, so
that of a longer run the ones taken last decide whether it ends the construct. -/
def afterMarks? (mark : Char) (two : Bool) (count : Nat) : List Char → Option (List Char)
  | [] => none
  | c :: rest =>
    if c = mark then afterMarks? mark two (count + 1) rest
    else if c = '>' && (if two then count % 3 == 2 else count % 2 == 1) then some rest
    else afterMarks? mark two 0 rest

/-- A comment after its `<!--`: the shortest ones are `<!-->` and `<!--->`. -/
def comment? (text : List Char) : Option (List Char) :=
  match text with
  | '>' :: rest => some rest
  | '-' :: '>' :: rest => some rest
  | _ => afterMarks? '-' true 0 text

/-- A CDATA section after its `<![`. -/
def cdata? (text : List Char) : Option (List Char) :=
  if text.take 6 == "CDATA[".toList then afterMarks? ']' true 0 (text.drop 6) else none

/-- A processing instruction after its `<?`. -/
def instruction? (text : List Char) : Option (List Char) := afterMarks? '?' false 0 text

/-- A declaration after its `<!`: a name in capital letters, white space, and what comes before the
next `>`. -/
def declaration? (text : List Char) : Option (List Char) :=
  let rest := text.dropWhile Char.isUpper
  match rest with
  | space :: body =>
    if rest.length < text.length && isAsciiSpace space then
      match body.dropWhile (· ≠ '>') with
      | _ :: after => some after
      | [] => none
    else none
  | [] => none

/-! ## Blocks -/

/-- What begins a block of HTML, which decides what ends it. -/
inductive BlockStart where
  /-- Elements whose content is no Markdown, up to one of their end tags. -/
  | verbatim
  | comment
  | instruction
  | declaration
  | cdata
  /-- The tag of a block-level element, up to a blank line. -/
  | element
  /-- Any other tag alone on its line, up to a blank line. -/
  | tag
  deriving DecidableEq

/-- The elements of `BlockStart.verbatim`. -/
def verbatimNames : List String := ["script", "pre", "textarea", "style"]

/-- The elements of `BlockStart.element`. -/
def elementNames : List String := ["address", "article", "aside", "base", "basefont", "blockquote",
  "body", "caption", "center", "col", "colgroup", "dd", "details", "dialog", "dir", "div", "dl",
  "dt", "fieldset", "figcaption", "figure", "footer", "form", "frame", "frameset", "h1", "h2", "h3",
  "h4", "h5", "h6", "head", "header", "hr", "html", "iframe", "legend", "li", "link", "main",
  "menu", "menuitem", "nav", "noframes", "ol", "optgroup", "option", "p", "param", "search",
  "section", "summary", "table", "tbody", "td", "tfoot", "th", "thead", "title", "tr", "track",
  "ul"]

/-- Does the name of a verbatim element stand alone: before white space, `>` or the line end?
`ended` says that the line has an end, as all lines have but perhaps the last. -/
def endsVerbatimName (ended : Bool) : List Char → Bool
  | [] => ended
  | c :: _ => isAsciiSpace c || c == '>'

/-- Does the name of a block-level element stand alone? -/
def endsElementName (ended : Bool) : List Char → Bool
  | [] => ended
  | '/' :: '>' :: _ => true
  | c :: _ => isAsciiSpace c || c == '>'

/-- Is a name of the list at the beginning, and does it end there? -/
def hasName (names : List String) (ends : List Char → Bool) (text : List Char) : Bool :=
  names.any (fun name => ((afterWord? name.toList text).map ends).getD false)

/-- The start that a line after its indentation makes; the last kind cannot interrupt a
paragraph. -/
def blockStart? (afterParagraph ended : Bool) (text : List Char) : Option BlockStart :=
  match text with
  | '<' :: rest =>
    if hasName verbatimNames (endsVerbatimName ended) rest then some .verbatim
    else match rest with
      | '!' :: '-' :: '-' :: _ => some .comment
      | '?' :: _ => some .instruction
      | '!' :: c :: more =>
        if c.isAlpha then some .declaration
        else if (afterWord? "[cdata[".toList (c :: more)).isSome then some .cdata
        else none
      | _ =>
        let name := match rest with
          | '/' :: name => name
          | _ => rest
        if hasName elementNames (endsElementName ended) name then some .element
        else if afterParagraph then none
        else match tag? rest with
          | some after =>
            if after.all (fun c => isBlank c || c == '\x0c') then some .tag else none
          | none => none
  | _ => none

/-- Does the word, in any case, occur in the text? -/
def contains (word : List Char) : List Char → Bool
  | [] => word.isEmpty
  | c :: rest => (afterWord? word (c :: rest)).isSome || contains word rest

/-- The texts one of which ends a block on its line; a block without them ends before a blank
line. -/
def BlockStart.ends : BlockStart → List String
  | verbatim => verbatimNames.map (fun name => "</" ++ name ++ ">")
  | comment => ["-->"]
  | instruction => ["?>"]
  | declaration => [">"]
  | cdata => ["]]>"]
  | element => []
  | tag => []

/-- Does a line end the block that it belongs to? -/
def BlockStart.endsOn (start : BlockStart) (line : List Char) : Bool :=
  start.ends.any (fun word => contains word.toList line)

/-- Does a blank line end the block? -/
def BlockStart.endsBeforeBlank (start : BlockStart) : Bool := start.ends.isEmpty

end TopicPress.Markdown.Html
