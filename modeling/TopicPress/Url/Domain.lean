import TopicPress.Text.Utf8
import TopicPress.Url.DomainCharacter
import TopicPress.Url.Ipv4

/-!
# Domain names

A host of a web address is percent-decoded, read as UTF-8 and taken apart at its dots.  Characters
outside ASCII are allowed as far as internationalised names allow them; an encoded label must decode
to something that such a name may hold; and a name with characters written from right to left must
not mix directions within a label.
-/

namespace TopicPress.Url.Domain

/-- Decode percent escapes; a percent sign without two hexadecimal digits stays as it is. -/
def percentDecode : List UInt8 → List UInt8
  | [] => []
  | byte :: first :: second :: rest =>
    if byte == 0x25 then
      match Ipv4.digitValue (Char.ofNat first.toNat), Ipv4.digitValue (Char.ofNat second.toNat) with
      | some high, some low => UInt8.ofNat (high * 16 + low) :: percentDecode rest
      | _, _ => byte :: percentDecode (first :: second :: rest)
    else byte :: percentDecode (first :: second :: rest)
  | byte :: rest => byte :: percentDecode rest

/-- ASCII characters that a domain may not hold: controls, the blank, and the delimiters. -/
def isForbidden (c : Char) : Bool :=
  c.toNat ≤ 0x20 || c.toNat == 0x7F || "%#/:<>?@[\\]^|".toList.contains c

/-- One character as it is looked up: `none` when the name cannot hold it, otherwise what stands for
it, ASCII letters in lower case. -/
def mapCharacter (c : Char) : Option (List Char) :=
  if c.toNat < 0x80 then some [c.toLower]
  else if 0xFF01 ≤ c.toNat && c.toNat ≤ 0xFF5E && c.toNat != 0xFF0E then
    some [(Char.ofNat (c.toNat - 0xFEE0)).toLower]
  else
    match DomainCharacter.letter c with
    | 'D' => none
    | 'I' => some []
    | 'S' => some ['.']
    | _ => some [c]

/-! ## Directions -/

/-- The direction letter of any character. -/
def direction (c : Char) : Char :=
  if c.toNat < 0x80 then
    if c.isAlpha then 'L' else if c.isDigit then 'E' else 'N'
  else
    match DomainCharacter.letter c with
    | 'M' => 'L'
    | 'B' => 'L'
    | letter => letter

/-- The directions of a label from its end, trailing marks dropped. -/
def trailing (label : List Char) : List Char :=
  ((label.map direction).reverse).dropWhile (· == 'C')

/-- A label of a name that has characters written from right to left keeps to one direction. -/
def hasOneDirection (label : List Char) : Bool :=
  let directions := label.map direction
  match directions with
  | [] => true
  | 'R' :: _ =>
    directions.all (fun d => d != 'L') &&
      (match trailing label with
        | last :: _ => last == 'R' || last == 'E' || last == 'A'
        | [] => false) &&
      !(directions.contains 'E' && directions.contains 'A')
  | 'L' :: _ =>
    directions.all (fun d => d != 'R' && d != 'A') &&
      (match trailing label with
        | last :: _ => last == 'L' || last == 'E'
        | [] => false)
  | _ => false

/-! ## Encoded labels -/

/-- The value of a digit of an encoded label. -/
def punycodeDigit (c : Char) : Option Nat :=
  if c.isDigit then some (c.toNat - '0'.toNat + 26)
  else if 'a' ≤ c && c ≤ 'z' then some (c.toNat - 'a'.toNat)
  else none

/-- Fit the bias to the last difference. -/
def punycodeAdapt (delta count : Nat) (first : Bool) : Nat :=
  let start := if first then delta / 700 else delta / 2
  reduce (start + start / count) 0 64
where
  reduce (delta step : Nat) : Nat → Nat
    | 0 => step
    | fuel + 1 =>
      if delta > 455 then reduce (delta / 35) (step + 36) fuel
      else step + 36 * delta / (delta + 38)

/-- One difference of an encoded label: its value and the digits after it. -/
def punycodeDelta (bias value weight step : Nat) : List Char → Option (Nat × List Char)
  | [] => none
  | c :: rest =>
    match punycodeDigit c with
    | none => none
    | some digit =>
      let threshold := if step ≤ bias then 1 else if step ≥ bias + 26 then 26 else step - bias
      let value := value + digit * weight
      if value > 0xFFFFFFFF then none
      else if digit < threshold then some (value, rest)
      else punycodeDelta bias value (weight * (36 - threshold)) (step + 36) rest

/-- Insert the characters that the digits describe into `known`; each difference takes at least one
digit, so as many rounds as there are digits suffice. -/
def punycodeInsert (code bias position : Nat) (known digits : List Char) (first : Bool) :
    Nat → Option (List Char)
  | 0 => if digits.isEmpty then some known else none
  | fuel + 1 =>
    if digits.isEmpty then some known
    else
      match punycodeDelta bias 0 1 36 digits with
      | none => none
      | some (delta, rest) =>
        let count := known.length + 1
        let index := position + delta
        let code := code + index / count
        let place := index % count
        if code > 0x10FFFF || (0xD800 ≤ code && code ≤ 0xDFFF) then none
        else
          let known := known.take place ++ Char.ofNat code :: known.drop place
          punycodeInsert code (punycodeAdapt delta count first) (place + 1) known rest false fuel

/-- The characters of an encoded label, its first four characters left out. -/
def punycodeDecode? (label : List Char) : Option (List Char) :=
  let encoded := (label.reverse.takeWhile (· != '-')).reverse
  let basic := label.take (label.length - encoded.length - 1)
  punycodeInsert 128 72 0 basic encoded true (encoded.length + 1)

/-! ## Labels and names -/

def isMark (c : Char) : Bool :=
  c.toNat ≥ 0x80 && (DomainCharacter.letter c == 'C' || DomainCharacter.letter c == 'B')

/-- Allowed in a label as it stands, without anything taking its place. -/
def isSettled (c : Char) : Bool :=
  if c.toNat < 0x80 then !isForbidden c && !c.isUpper && c != '.'
  else !(['D', 'I', 'S', 'M'].contains (DomainCharacter.letter c))

/-- The characters that a label shows, when it is a label at all. -/
def shownLabel? (label : List Char) : Option (List Char) :=
  match label with
  | 'x' :: 'n' :: '-' :: '-' :: encoded =>
    match punycodeDecode? encoded with
    | none => none
    | some shown =>
      if shown.all isSettled && shown.any (fun c => c.toNat ≥ 0x80)
          && !(shown.head?.any isMark) then some shown
      else none
  | _ =>
    if label.any isForbidden || label.head?.any isMark then none else some label

/-- The name as it is looked up, labels outside ASCII left as they are shown. -/
def ofBytes? (bytes : List UInt8) : Option (List Char) :=
  match Utf8.decode? (percentDecode bytes) with
  | none => none
  | some text =>
    match text.mapM mapCharacter with
    | none => none
    | some mapped =>
      let name := mapped.flatten
      match (name.splitOn '.').mapM shownLabel? with
      | none => none
      | some labels =>
        let rightToLeft := labels.any (fun label => label.any (fun c =>
          direction c == 'R' || direction c == 'A'))
        if rightToLeft && !(labels.all hasOneDirection) then none else some name

end TopicPress.Url.Domain
