/-!
# ASCII classes

The classes of characters that Markdown names by listing them; characters outside ASCII belong to
none of them.
-/

namespace TopicPress.Text

/-- A space, a tab or one of the characters that end or feed lines. -/
def isAsciiSpace (c : Char) : Bool := c == ' ' || ('\t' ≤ c && c ≤ '\r')

/-- A character that ends a line, alone or with another. -/
def isLineEnd (c : Char) : Bool := c == '\n' || c == '\r'

/-- A space, a tab or a character that ends a line. -/
def isLineSpace (c : Char) : Bool := c == ' ' || c == '\t' || isLineEnd c

/-- A space or a tab. -/
def isBlank (c : Char) : Bool := c == ' ' || c == '\t'

/-- The visible characters that are neither letters nor digits. -/
def isAsciiPunctuation (c : Char) : Bool :=
  ('!' ≤ c && c ≤ '/') || (':' ≤ c && c ≤ '@') || ('[' ≤ c && c ≤ '\x60') || ('\x7b' ≤ c && c ≤ '~')

/-- A control character. -/
def isAsciiControl (c : Char) : Bool := c.toNat < 0x20 || c.toNat == 0x7F

/-- The value of a hexadecimal digit in either case. -/
def hexDigit? (c : Char) : Option Nat :=
  if c.isDigit then some (c.toNat - '0'.toNat)
  else if 'a' ≤ c && c ≤ 'f' then some (c.toNat - 'a'.toNat + 10)
  else if 'A' ≤ c && c ≤ 'F' then some (c.toNat - 'A'.toNat + 10)
  else none

end TopicPress.Text
