import TopicPress.Encoding.CodePage
import TopicPress.Text.Utf8

/-!
# Encodings

How bytes are read as text.  Decoding never fails: bytes that mean nothing give U+FFFD, and it is
told whether there were any.
-/

namespace TopicPress

/-- An encoding of text in bytes. -/
inductive Encoding where
  | utf8
  /-- Units of two bytes, the more significant byte first or last. -/
  | utf16 (bigEndian : Bool)
  | codePage (page : CodePage)
  /-- ASCII, with private characters for the other bytes. -/
  | userDefined
  /-- Encodings of the scripts of East Asia. -/
  | multiByte (name : String)

namespace Encoding

def name : Encoding → String
  | utf8 => "UTF-8"
  | utf16 bigEndian => if bigEndian then "UTF-16BE" else "UTF-16LE"
  | codePage page => page.name
  | userDefined => "x-user-defined"
  | multiByte name => name

/-! ## Units of two bytes -/

/-- A unit of UTF-16. -/
def unit (bigEndian : Bool) (first second : UInt8) : Nat :=
  if bigEndian then first.toNat * 256 + second.toNat else second.toNat * 256 + first.toNat

/-- The units of a list of bytes, and whether a byte is left over. -/
def units (bigEndian : Bool) : List UInt8 → List Nat × Bool
  | [] => ([], false)
  | [_] => ([], true)
  | first :: second :: rest =>
    let read := units bigEndian rest
    (unit bigEndian first second :: read.1, read.2)

def isHighSurrogate (unit : Nat) : Bool := 0xD800 ≤ unit && unit < 0xDC00

def isLowSurrogate (unit : Nat) : Bool := 0xDC00 ≤ unit && unit < 0xE000

/-- The characters of units, where `leftOver` says that a byte comes after them.  A surrogate by
itself gives U+FFFD, and so does the byte, together with a high surrogate right before it. -/
def fromUnits (leftOver : Bool) : List Nat → List Char × Bool
  | [] => if leftOver then (['\uFFFD'], true) else ([], false)
  | first :: rest =>
    if isHighSurrogate first then
      match rest with
      | second :: after =>
        if isLowSurrogate second then
          let read := fromUnits leftOver after
          (Char.ofNat (0x10000 + (first - 0xD800) * 0x400 + (second - 0xDC00)) :: read.1, read.2)
        else ('\uFFFD' :: (fromUnits leftOver (second :: after)).1, true)
      | [] => (['\uFFFD'], true)
    else if isLowSurrogate first then ('\uFFFD' :: (fromUnits leftOver rest).1, true)
    else
      let read := fromUnits leftOver rest
      (Char.ofNat first :: read.1, read.2)

/-- Decode UTF-16. -/
def decodeUnits (bigEndian : Bool) (bytes : List UInt8) : List Char × Bool :=
  let read := units bigEndian bytes
  fromUnits read.2 read.1

/-! ## Single bytes -/

/-- Decode byte by byte; a byte without a character gives U+FFFD. -/
def decodeBytes (character? : UInt8 → Option Char) (bytes : List UInt8) : List Char × Bool :=
  (bytes.map (fun byte => (character? byte).getD '\uFFFD'),
    bytes.any (fun byte => (character? byte).isNone))

/-- The character of a byte, beyond ASCII a private one. -/
def userDefinedCharacter? (byte : UInt8) : Option Char :=
  if byte < 0x80 then some (Char.ofNat byte.toNat)
  else some (Char.ofNat (0xF780 + (byte.toNat - 0x80)))

/-! ## Several bytes -/

/-- How the encodings of the scripts of East Asia are read, each by its name.  Their tables are not
here, so that nothing but what holds for all tables can be said of them. -/
class MultiByte where
  decode (name : String) (bytes : List UInt8) : List Char × Bool

/-! ## Decoding -/

/-- A byte order mark in UTF-8. -/
def mark : List UInt8 := [0xEF, 0xBB, 0xBF]

/-- The bytes without one byte order mark at their beginning. -/
def dropMark (bytes : List UInt8) : List UInt8 :=
  if mark.isPrefixOf bytes then bytes.drop mark.length else bytes

/-- Decode bytes, and tell whether some of them mean nothing.  Only in UTF-8 a byte order mark at the
beginning is left out. -/
def decode [MultiByte] (encoding : Encoding) (bytes : List UInt8) : List Char × Bool :=
  match encoding with
  | utf8 => Utf8.decodeLossy (dropMark bytes)
  | utf16 bigEndian => decodeUnits bigEndian bytes
  | codePage page => decodeBytes page.character? bytes
  | userDefined => decodeBytes userDefinedCharacter? bytes
  | multiByte name => MultiByte.decode name bytes

end Encoding

end TopicPress
