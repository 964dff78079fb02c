/-!
# YAML tokens

The classes of characters that YAML distinguishes, and the tokens that a text is taken apart into.
A text that ends is treated as if a NUL character followed, so a NUL within it ends it too.
-/

namespace TopicPress.Yaml

/-! ## Characters -/

def isBlank (c : Char) : Bool := c == ' ' || c == '\t'

def isBreak (c : Char) : Bool := c == '\n' || c == '\r'

def isEnd (c : Char) : Bool := c == '\x00'

def isBreakOrEnd (c : Char) : Bool := isBreak c || isEnd c

/-- A blank, a line break or the end: what separates words. -/
def isGap (c : Char) : Bool := isBlank c || isBreakOrEnd c

/-- The indicators of collections in flow style. -/
def isFlow (c : Char) : Bool := c == ',' || c == '[' || c == ']' || c == '\x7b' || c == '\x7d'

/-- Letters, digits, the underscore and the hyphen, within ASCII. -/
def isWord (c : Char) : Bool := c.isAlphanum || c == '_' || c == '-'

def isUri (c : Char) : Bool :=
  c.isAlphanum || "-#;/?:@&=+$,_.!~*'()[]%".toList.contains c

/-- What may stand in the suffix of a tag. -/
def isTag (c : Char) : Bool := isUri c && !isFlow c && c != '!'

def isAnchor (c : Char) : Bool := !isGap c && !isFlow c && c != '\uFEFF'

/-- The first character of a text. -/
def first (rest : List Char) : Char := rest.headD '\x00'

/-- The second character of a text. -/
def second (rest : List Char) : Char := first rest.tail

/-- A line of three hyphens or three dots stands at the beginning of `rest`. -/
def startsDocument (mark : Char) (rest : List Char) : Bool :=
  match rest with
  | a :: b :: c :: more => a == mark && b == mark && c == mark && isGap (first more)
  | _ => false

def startsIndicator (rest : List Char) : Bool :=
  startsDocument '-' rest || startsDocument '.' rest

/-! ## Tokens -/

/-- A scalar is plain or not; only a plain one can be anything but text. -/
inductive Style where
  | plain
  | quoted
  deriving DecidableEq

inductive Token where
  | streamEnd
  | versionDirective
  /-- The replacement of the handle of tags. -/
  | tagDirective (handle replacement : String)
  | documentStart
  | documentEnd
  | blockSequenceStart
  | blockMappingStart
  | blockEnd
  | flowSequenceStart
  | flowSequenceEnd
  | flowMappingStart
  | flowMappingEnd
  | blockEntry
  | flowEntry
  | key
  | value
  | alias_ (name : String)
  /-- An anchor, and the column it stands in. -/
  | anchor (name : String) (column : Nat)
  /-- A tag, and the column it stands in. -/
  | tag (handle suffix : String) (column : Nat)
  | scalar (style : Style) (text : String)
  deriving DecidableEq

end TopicPress.Yaml
