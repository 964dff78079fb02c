import TopicPress.Encoding.Basic
import TopicPress.Json.Value

/-!
# The grammar of JSON

The productions of RFC 8259, each with what it stands for.  All of JSON is here: every kind of value,
white space wherever it may stand, and every way of writing a character in a string.  A number stands
for its spelling, and an object for its members in order.  Only strings that write half of a pair of
surrogates, which are no Unicode text, stand for nothing.
-/

namespace TopicPress.Json

/-- What a JSON text stands for. -/
inductive Term where
  | null
  | boolean (value : Bool)
  | number (spelling : List Char)
  | string (text : String)
  | array (elements : List Term)
  | object (members : List (String × Term))

namespace Grammar

/-! ## White space -/

def blanks : List Char := [' ', '\t', '\n', '\r']

/-- White space (`ws`). -/
def Blank (space : List Char) : Prop := ∀ c ∈ space, c ∈ blanks

/-! ## Numbers -/

/-- One digit or more (`1*DIGIT`). -/
structure Digits (digits : List Char) : Prop where
  filled : digits ≠ []
  each : ∀ c ∈ digits, c.isDigit = true

/-- The part of a number in front of the point (`int`). -/
inductive Integer : List Char → Prop
  | zero : Integer ['0']
  | positive {first : Char} {rest : List Char} :
      first.isDigit = true → first ≠ '0' → (∀ c ∈ rest, c.isDigit = true) → Integer (first :: rest)

/-- The part of a number behind the point, if it is there (`frac`). -/
inductive Fraction : List Char → Prop
  | absent : Fraction []
  | present {digits : List Char} : Digits digits → Fraction ('.' :: digits)

/-- The exponent of a number, if it is there (`exp`). -/
inductive Exponent : List Char → Prop
  | absent : Exponent []
  | present {mark : Char} {sign digits : List Char} :
      mark ∈ ['e', 'E'] → sign ∈ [[], ['+'], ['-']] → Digits digits →
        Exponent (mark :: (sign ++ digits))

/-- A number (`number`). -/
inductive Number : List Char → Prop
  | intro {sign integer fraction exponent : List Char} :
      sign ∈ [[], ['-']] → Integer integer → Fraction fraction → Exponent exponent →
        Number (sign ++ (integer ++ (fraction ++ exponent)))

/-! ## Strings -/

/-- A character that stands for itself in a string (`unescaped`). -/
structure Plain (c : Char) : Prop where
  noControl : 0x20 ≤ c.toNat
  noQuote : c ≠ '"'
  noBackslash : c ≠ '\\'

/-- The characters that a letter after a backslash stands for. -/
def letters : List (Char × Char) :=
  [('"', '"'), ('\\', '\\'), ('/', '/'), ('b', '\x08'), ('f', '\x0c'), ('n', '\n'), ('r', '\r'),
    ('t', '\t')]

/-- The value of a hexadecimal digit, in capitals or not (`HEXDIG`). -/
def hexValue? (c : Char) : Option Nat :=
  if '0' ≤ c ∧ c ≤ '9' then some (c.toNat - '0'.toNat)
  else if 'a' ≤ c ∧ c ≤ 'f' then some (c.toNat - 'a'.toNat + 10)
  else if 'A' ≤ c ∧ c ≤ 'F' then some (c.toNat - 'A'.toNat + 10)
  else none

/-- Four hexadecimal digits, and the unit of UTF-16 that they stand for (`4HEXDIG`). -/
inductive CodeUnit : List Char → Nat → Prop
  | intro {a b c d : Char} {first second third fourth : Nat} :
      hexValue? a = some first → hexValue? b = some second → hexValue? c = some third →
        hexValue? d = some fourth →
        CodeUnit [a, b, c, d] (((first * 16 + second) * 16 + third) * 16 + fourth)

/-- A character as it stands in a string (`char`), two of which may be needed for one that UTF-16
writes as a pair. -/
inductive Character : List Char → Char → Prop
  | plain {c : Char} : Plain c → Character [c] c
  | letter {letter c : Char} : (letter, c) ∈ letters → Character ['\\', letter] c
  | unit {digits : List Char} {unit : Nat} :
      CodeUnit digits unit → Encoding.isHighSurrogate unit = false →
        Encoding.isLowSurrogate unit = false → Character ('\\' :: 'u' :: digits) (Char.ofNat unit)
  | pair {highDigits lowDigits : List Char} {high low : Nat} :
      CodeUnit highDigits high → Encoding.isHighSurrogate high = true → CodeUnit lowDigits low →
        Encoding.isLowSurrogate low = true →
        Character ('\\' :: 'u' :: (highDigits ++ '\\' :: 'u' :: lowDigits))
          (Char.ofNat (0x10000 + (high - 0xD800) * 0x400 + (low - 0xDC00)))

/-- What stands between the quotes of a string, and its text. -/
inductive Characters : List Char → List Char → Prop
  | nil : Characters [] []
  | cons {spelling rest text : List Char} {c : Char} :
      Character spelling c → Characters rest text → Characters (spelling ++ rest) (c :: text)

/-! ## Values -/

mutual

/-- A value without white space around it (`value`). -/
inductive Spells : List Char → Term → Prop
  | literalNull : Spells ['n', 'u', 'l', 'l'] .null
  | literalTrue : Spells ['t', 'r', 'u', 'e'] (.boolean true)
  | literalFalse : Spells ['f', 'a', 'l', 's', 'e'] (.boolean false)
  | number {spelling : List Char} : Number spelling → Spells spelling (.number spelling)
  | string {body text : List Char} :
      Characters body text → Spells ('"' :: (body ++ ['"'])) (.string (String.ofList text))
  | emptyArray {space : List Char} : Blank space → Spells ('[' :: (space ++ [']'])) (.array [])
  | array {body : List Char} {elements : List Term} :
      SpellsElements body elements → Spells ('[' :: (body ++ [']'])) (.array elements)
  | emptyObject {space : List Char} :
      Blank space → Spells ('\x7b' :: (space ++ ['\x7d'])) (.object [])
  | object {body : List Char} {members : List (String × Term)} :
      SpellsMembers body members → Spells ('\x7b' :: (body ++ ['\x7d'])) (.object members)

/-- The elements of an array between its brackets, one at least. -/
inductive SpellsElements : List Char → List Term → Prop
  | last {before spelling after : List Char} {element : Term} :
      Blank before → Spells spelling element → Blank after →
        SpellsElements (before ++ (spelling ++ after)) [element]
  | more {before spelling after rest : List Char} {element : Term} {elements : List Term} :
      Blank before → Spells spelling element → Blank after → SpellsElements rest elements →
        SpellsElements (before ++ (spelling ++ (after ++ ',' :: rest))) (element :: elements)

/-- The members of an object between its braces, one at least. -/
inductive SpellsMembers : List Char → List (String × Term) → Prop
  | last {before body text between behind spelling after : List Char} {value : Term} :
      Blank before → Characters body text → Blank between → Blank behind → Spells spelling value →
        Blank after →
        SpellsMembers
          (before ++ '"' :: (body ++ '"' :: (between ++ ':' :: (behind ++ (spelling ++ after)))))
          [(String.ofList text, value)]
  | more {before body text between behind spelling after rest : List Char} {value : Term}
      {members : List (String × Term)} :
      Blank before → Characters body text → Blank between → Blank behind → Spells spelling value →
        Blank after → SpellsMembers rest members →
        SpellsMembers
          (before ++ '"' :: (body ++ '"' :: (between ++ ':' :: (behind ++ (spelling ++
            (after ++ ',' :: rest))))))
          ((String.ofList text, value) :: members)

end

end Grammar

/-- A JSON text (`JSON-text`): a value with white space around it. -/
inductive Represents : List Char → Term → Prop
  | intro {before spelling after : List Char} {term : Term} :
      Grammar.Blank before → Grammar.Spells spelling term → Grammar.Blank after →
        Represents (before ++ (spelling ++ after)) term

end TopicPress.Json
