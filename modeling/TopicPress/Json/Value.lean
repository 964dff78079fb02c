/-!
# JSON

The part of JSON that events need: strings, arrays and objects, written without any space.  In a
string only the quote, the backslash and the control characters below U+0020 are escaped, so that
what is written never holds a line end.
-/

namespace TopicPress.Json

inductive Value where
  | string (text : String)
  | array (elements : List Value)
  | object (members : List (String × Value))

/-! ## Strings -/

/-- The escape of a control character that has no letter. -/
def numericEscape (c : Char) : List Char :=
  ['\\', 'u', '0', '0', Nat.digitChar (c.toNat / 16), Nat.digitChar (c.toNat % 16)]

/-- How a character stands in a string. -/
def escape (c : Char) : List Char :=
  match c with
  | '"' => ['\\', '"']
  | '\\' => ['\\', '\\']
  | '\x08' => ['\\', 'b']
  | '\x0c' => ['\\', 'f']
  | '\n' => ['\\', 'n']
  | '\r' => ['\\', 'r']
  | '\t' => ['\\', 't']
  | _ => if c.toNat < 0x20 then numericEscape c else [c]

/-- A text in quotes. -/
def quoted (text : String) : List Char := '"' :: text.toList.flatMap escape ++ ['"']

/-! ## Values -/

mutual

/-- The text of a value. -/
def Value.text : Value → List Char
  | .string text => quoted text
  | .array elements => '[' :: elementsText elements ++ [']']
  | .object members => '\x7b' :: membersText members ++ ['\x7d']

/-- The texts of the elements of an array, with commas between them. -/
def elementsText : List Value → List Char
  | [] => []
  | [element] => element.text
  | element :: rest => element.text ++ ',' :: elementsText rest

/-- The texts of the members of an object, with commas between them. -/
def membersText : List (String × Value) → List Char
  | [] => []
  | [(name, value)] => quoted name ++ ':' :: value.text
  | (name, value) :: rest => quoted name ++ ':' :: value.text ++ ',' :: membersText rest

end

end TopicPress.Json
