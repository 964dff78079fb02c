import TopicPress.Markdown.CharacterName
import TopicPress.Text.Ascii

/-!
# Character references

An ampersand, what stands for characters, and a semicolon: a number sign with a decimal or
hexadecimal number of limited length, or a name.  All else is an ampersand that stands for itself.
-/

namespace TopicPress.Markdown.CharacterReference

open Text

/-- The character with a number; numbers of no character give U+FFFD, and so does U+E000. -/
def ofNumber (number : Nat) : Char :=
  if number = 0 || (0xD800 ≤ number && number ≤ 0xE000) || 0x110000 ≤ number then '\uFFFD'
  else Char.ofNat number

/-- A number of at most `most` digits and a semicolon; the number and what comes after. -/
def readNumber? (base most : Nat) (digit? : Char → Option Nat) (text : List Char) :
    Option (Nat × List Char) :=
  let digits := text.takeWhile (fun c => (digit? c).isSome)
  match text.dropWhile (fun c => (digit? c).isSome) with
  | ';' :: rest =>
    if digits.isEmpty || most < digits.length then none
    else some (digits.foldl (fun value c => value * base + (digit? c).getD 0) 0, rest)
  | _ => none

/-- What comes after a number sign. -/
def readNumeric? (text : List Char) : Option (List Char × List Char) :=
  let number? := match text with
    | 'x' :: rest => readNumber? 16 7 hexDigit? rest
    | 'X' :: rest => readNumber? 16 7 hexDigit? rest
    | _ => readNumber? 10 7 (fun c => if c.isDigit then hexDigit? c else none) text
  number?.map (fun (number, rest) => ([ofNumber number], rest))

/-- A name and a semicolon; a name has no space and at most 31 bytes. -/
def readNamed? (text : List Char) : Option (List Char × List Char) :=
  let window := text.take 32
  let name := window.takeWhile (fun c => c ≠ ';' && c ≠ ' ')
  match window.drop name.length with
  | ';' :: _ =>
    (CharacterName.find? name).map (fun characters => (characters, text.drop (name.length + 1)))
  | _ => none

/-- What comes after an ampersand, if it makes a reference with it: the characters that it stands
for, and the rest. -/
def read? (text : List Char) : Option (List Char × List Char) :=
  match text with
  | '#' :: rest => readNumeric? rest
  | _ => readNamed? text

/-- The text with its references resolved, where the first `skip` characters belong to a reference
that was resolved already. -/
def resolveFrom (skip : Nat) : List Char → List Char
  | [] => []
  | c :: rest =>
    match skip with
    | skip + 1 => resolveFrom skip rest
    | 0 =>
      if c = '&' then
        match read? rest with
        | some (characters, after) =>
          characters ++ resolveFrom (rest.length - after.length) rest
        | none => c :: resolveFrom 0 rest
      else c :: resolveFrom 0 rest

/-- The text with its references resolved. -/
def resolve (text : List Char) : List Char := resolveFrom 0 text

end TopicPress.Markdown.CharacterReference
