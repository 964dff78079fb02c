/-!
# Text in XML

Which characters XML 1.0 allows, what is put in place of the others, and how the characters that
have a meaning of their own are written.
-/

namespace TopicPress.Xml

/-- The characters of XML 1.0.  No character is a surrogate, so those need no mention. -/
def isAllowed (c : Char) : Bool :=
  c == '\t' || c == '\n' || c == '\r' || (0x20 ≤ c.toNat && c.toNat != 0xFFFE && c.toNat != 0xFFFF)

/-- A character that is not allowed is replaced. -/
def mendCharacter (c : Char) : Char := if isAllowed c then c else '\uFFFD'

/-- Whether any character of a text has to be replaced. -/
def needsMending (text : String) : Bool := !text.toList.all isAllowed

/-- The text with every character that is not allowed replaced. -/
def mend (text : String) : String := String.ofList (text.toList.map mendCharacter)

/-- The written form of a character: five have a name. -/
def escapeCharacter : Char → List Char
  | '<' => "&lt;".toList
  | '>' => "&gt;".toList
  | '&' => "&amp;".toList
  | '\'' => "&apos;".toList
  | '"' => "&quot;".toList
  | c => [c]

/-- The written form of a text, in content and in attribute values alike. -/
def escape (text : String) : String := String.ofList (text.toList.flatMap escapeCharacter)

end TopicPress.Xml
