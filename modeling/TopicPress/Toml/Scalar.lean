import TopicPress.Toml.Item
import TopicPress.Toml.Text

/-!
# TOML scalars

Numbers, dates and times, and the two truth values.  A text that begins with a digit is tried as a
date or a time, then as a decimal, then as an integer; what a reader leaves is for its caller to
refuse.
-/

namespace TopicPress.Toml

open Text

/-! ## Dates and times -/

/-- The value of decimal digits. -/
def decimalValue (digits : List Char) : Nat :=
  digits.foldl (fun value c => value * 10 + (c.toNat - '0'.toNat)) 0

/-- Exactly `count` decimal digits, with a value between the bounds. -/
def digitsBetween (count low high : Nat) : Reader Nat := fun text =>
  let digits := text.take count
  let value := decimalValue digits
  if digits.length = count ∧ digits.all Char.isDigit ∧ low ≤ value ∧ value ≤ high then
    some (value, text.drop count)
  else none

/-- Take one of the given characters. -/
def oneOf (chars : List Char) : Reader Char
  | c :: rest => if chars.contains c then some (c, rest) else none
  | [] => none

/-- The number of days of a month. -/
def daysOf (year month : Nat) : Nat :=
  if month = 2 then
    if year % 4 = 0 ∧ (year % 100 ≠ 0 ∨ year % 400 = 0) then 29 else 28
  else if [4, 6, 9, 11].contains month then 30
  else 31

/-- A date, such as `1979-05-27`. -/
def date : Reader Date := fun text => do
  let (year, text) ← digitsBetween 4 0 9999 text
  let (_, text) ← oneOf ['-'] text
  let (month, text) ← digitsBetween 2 1 12 text
  let (_, text) ← oneOf ['-'] text
  let (day, text) ← digitsBetween 2 1 (daysOf year month) text
  return (⟨year, month, day⟩, text)

/-- A time, such as `07:32:00.5`.  A second 60 is allowed. -/
def time : Reader Time := fun text => do
  let (hour, text) ← digitsBetween 2 0 23 text
  let (_, text) ← oneOf [':'] text
  let (minute, text) ← digitsBetween 2 0 59 text
  let (_, text) ← oneOf [':'] text
  let (second, text) ← digitsBetween 2 0 60 text
  match text with
  | '.' :: rest =>
    let fraction := rest.takeWhile Char.isDigit
    if fraction.isEmpty then none
    else return (⟨hour, minute, second, fraction⟩, rest.drop fraction.length)
  | _ => return (⟨hour, minute, second, []⟩, text)

/-- How far a time is ahead of universal time, such as `Z` or `-07:00`. -/
def offset : Reader Offset
  | 'Z' :: rest => some (⟨0⟩, rest)
  | 'z' :: rest => some (⟨0⟩, rest)
  | sign :: text =>
    if sign = '+' ∨ sign = '-' then do
      let (hour, text) ← digitsBetween 2 0 23 text
      let (_, text) ← oneOf [':'] text
      let (minute, text) ← digitsBetween 2 0 59 text
      let minutes : Int := hour * 60 + minute
      return (⟨if sign = '-' then -minutes else minutes⟩, text)
    else none
  | [] => none

/-- The time after a date, with the offset after it if there is one. -/
def timeOfDate : Reader (Time × Option Offset) := fun text => do
  let (_, text) ← oneOf ['T', 't', ' '] text
  let (time, text) ← time text
  match offset text with
  | some (offset, text) => return ((time, some offset), text)
  | none => return ((time, none), text)

/-- A date, a time or both. -/
def dateOrTime : Reader Scalar := fun text =>
  match date text with
  | some (date, rest) =>
    match timeOfDate rest with
    | some ((time, offset), rest) => some (.dateTime date time offset, rest)
    | none => some (.date date, rest)
  | none => (time text).map fun read => (.time read.1, read.2)

/-! ## Numbers -/

/-- The digits of a number, with single underscores between them, which are dropped.  `isDigit` says
what a digit is. -/
def digits (isDigit : Char → Bool) : Reader (List Char) := fun text =>
  let run := text.takeWhile fun c => isDigit c || c == '_'
  if (run.splitOn '_').any List.isEmpty then none
  else some (run.filter isDigit, text.drop run.length)

/-- A sign, if there is one: is the number below zero? -/
def sign : List Char → Bool × List Char
  | '-' :: rest => (true, rest)
  | '+' :: rest => (false, rest)
  | text => (false, text)

/-- The digits of a whole number: a zero, or digits of which the first is none. -/
def wholeDigits : Reader (List Char)
  | '0' :: rest => some (['0'], rest)
  | text => digits Char.isDigit text

/-- The least integer that there is no room for. -/
def integerLimit : Int := Int.pow 2 63

/-- An integer, if there is room for it. -/
def integer? (value : Int) : Option Scalar :=
  if -integerLimit ≤ value ∧ value < integerLimit then some (.integer value) else none

/-- The value of digits in a base. -/
def valueIn (base : Nat) (digits : List Char) : Nat :=
  digits.foldl (fun value c => value * base + (hexDigit? c).getD 0) 0

/-- A digit in a base up to sixteen. -/
def isDigitIn (base : Nat) (c : Char) : Bool := (hexDigit? c).any (· < base)

/-- An integer in a base, after the letter that tells the base. -/
def basedInteger (base : Nat) : Reader Scalar := fun text => do
  let (read, text) ← digits (isDigitIn base) text
  return (← integer? (valueIn base read), text)

/-- An integer. -/
def integer : Reader Scalar
  | '0' :: 'x' :: rest => basedInteger 16 rest
  | '0' :: 'o' :: rest => basedInteger 8 rest
  | '0' :: 'b' :: rest => basedInteger 2 rest
  | text => do
    let (negative, text) := sign text
    let (read, text) ← wholeDigits text
    let magnitude : Int := decimalValue read
    return (← integer? (if negative then -magnitude else magnitude), text)

/-- The exponent of a decimal, after the letter. -/
def exponent : Reader Int := fun text => do
  let (negative, text) := sign text
  let (read, text) ← digits Char.isDigit text
  let magnitude : Int := decimalValue read
  return (if negative then -magnitude else magnitude, text)

/-- An exponent with its letter. -/
def letteredExponent : Reader Int := fun text => do
  let (_, text) ← oneOf ['e', 'E'] text
  exponent text

/-- A decimal with a point or an exponent or both. -/
def finiteDecimal : Reader Decimal := fun text => do
  let (negative, text) := sign text
  let (whole, text) ← wholeDigits text
  match text with
  | '.' :: rest =>
    let (fraction, text) ← digits Char.isDigit rest
    let places : Int := fraction.length
    let mantissa := decimalValue (whole ++ fraction)
    match text with
    | c :: _ =>
      if c = 'e' ∨ c = 'E' then
        let (exponent, text) ← letteredExponent text
        return (.finite negative mantissa (exponent - places), text)
      else return (.finite negative mantissa (-places), text)
    | [] => return (.finite negative mantissa (-places), text)
  | _ =>
    let (exponent, text) ← letteredExponent text
    return (.finite negative (decimalValue whole) exponent, text)

/-- Half a unit above the largest number of double precision: from here on a number counts as
infinite. -/
def decimalLimit : Nat := Nat.pow 2 1024 - Nat.pow 2 970

/-- Does a decimal have a value of double precision?  Only numbers that are too large have none;
those that are too far below zero count as infinite. -/
def Decimal.hasRoom : Decimal → Bool
  | .finite false mantissa exponent =>
    let size : Int := (Nat.toDigits 10 mantissa).length + exponent
    if mantissa = 0 ∨ size < 300 then true
    else if 320 < size then false
    else if 0 ≤ exponent then mantissa * Nat.pow 10 exponent.toNat < decimalLimit
    else mantissa < decimalLimit * Nat.pow 10 (-exponent).toNat
  | _ => true

/-- A decimal that is no number, or infinite. -/
def specialDecimal : Reader Decimal := fun text =>
  let (negative, text) := sign text
  match text with
  | 'i' :: 'n' :: 'f' :: rest => some (.infinite negative, rest)
  | 'n' :: 'a' :: 'n' :: rest => some (.notANumber, rest)
  | _ => none

/-- A decimal. -/
def decimal : Reader Scalar := fun text =>
  match finiteDecimal text with
  | some (value, rest) => if value.hasRoom then some (.decimal value, rest) else none
  | none => (specialDecimal text).map fun read => (.decimal read.1, read.2)

/-! ## Scalars -/

/-- A date, a time or a number. -/
def dateOrNumber : Reader Scalar := fun text =>
  match dateOrTime text with
  | some read => some read
  | none =>
    match decimal text with
    | some read => some read
    | none => integer text

/-- A scalar of any kind. -/
def scalar : Reader Scalar := fun text =>
  match text with
  | 't' :: 'r' :: 'u' :: 'e' :: rest => some (.boolean true, rest)
  | 'f' :: 'a' :: 'l' :: 's' :: 'e' :: rest => some (.boolean false, rest)
  | c :: _ =>
    if c = '"' ∨ c = '\'' then (string text).map fun read => (.string read.1, read.2)
    else dateOrNumber text
  | [] => none

end TopicPress.Toml
