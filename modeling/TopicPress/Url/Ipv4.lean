/-!
# IPv4 addresses in hosts

A host whose last label is a number is an address.  Numbers are decimal, octal with a leading zero,
or hexadecimal, and the last number fills all the bytes that are left.
-/

namespace TopicPress.Url.Ipv4

/-- The value of a digit, up to base sixteen. -/
def digitValue (c : Char) : Option Nat :=
  if '0' ≤ c && c ≤ '9' then some (c.toNat - '0'.toNat)
  else if 'a' ≤ c && c ≤ 'f' then some (c.toNat - 'a'.toNat + 10)
  else if 'A' ≤ c && c ≤ 'F' then some (c.toNat - 'A'.toNat + 10)
  else none

/-- Read digits of one base; no digit at all is zero. -/
def digits? (base value : Nat) : List Char → Option Nat
  | [] => some value
  | c :: rest =>
    match digitValue c with
    | some digit => if digit < base then digits? base (value * base + digit) rest else none
    | none => none

/-- A number of an address. -/
def number? : List Char → Option Nat
  | [] => none
  | '0' :: 'x' :: rest => digits? 16 0 rest
  | '0' :: 'X' :: rest => digits? 16 0 rest
  | '0' :: c :: rest => digits? 8 0 (c :: rest)
  | part => digits? 10 0 part

/-- The parts of a host between its dots; one empty part at the end does not count. -/
def parts (host : List Char) : List (List Char) :=
  let all := host.splitOn '.'
  match all.reverse with
  | [] :: front@(_ :: _) => front.reverse
  | _ => all

/-- A host is read as an address when its last part is a number, or only digits. -/
def endsInNumber (host : List Char) : Bool :=
  match (parts host).getLast? with
  | none => false
  | some last => (!last.isEmpty && last.all Char.isDigit) || (number? last).isSome

/-- An address has at most four numbers, each but the last a byte. -/
def isAddress (host : List Char) : Bool :=
  match (parts host).mapM number? with
  | none => false
  | some numbers =>
    match numbers.reverse with
    | [] => false
    | last :: front =>
      front.length ≤ 3 && front.all (· ≤ 255) && last < Nat.pow 256 (4 - front.length)

end TopicPress.Url.Ipv4
