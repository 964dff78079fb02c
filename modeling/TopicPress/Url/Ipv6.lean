import TopicPress.Url.Ipv4

/-!
# IPv6 addresses in hosts

Eight groups of up to four hexadecimal digits between colons; one double colon stands for groups of
zeros, and the last two groups may be written as an IPv4 address.
-/

namespace TopicPress.Url.Ipv6

def isHexDigit (c : Char) : Bool := (Ipv4.digitValue c).isSome

/-- A decimal byte without a leading zero. -/
def isDecimalByte (digits : List Char) : Bool :=
  match digits with
  | [] => false
  | ['0'] => true
  | '0' :: _ => false
  | _ => digits.length ≤ 3 && digits.all Char.isDigit &&
      match Ipv4.digits? 10 0 digits with
      | some value => value ≤ 255
      | none => false

/-- Four decimal bytes with dots between them. -/
def isDottedQuad (text : List Char) : Bool :=
  let bytes := text.splitOn '.'
  bytes.length == 4 && bytes.all isDecimalByte

/-- Read groups from the beginning of one, `count` groups having been seen. -/
def groups (count : Nat) (compressed : Bool) (text : List Char) : Bool :=
  match text with
  | [] => count == 8 || (compressed && count ≤ 8)
  | ':' :: rest => count < 8 && !compressed && groups (count + 1) true rest
  | c :: more =>
    let text := c :: more
    let digits := (text.take 4).takeWhile isHexDigit
    let rest := text.drop digits.length
    count < 8 &&
      match same : rest with
      | [] => count + 1 == 8 || compressed
      | '.' :: _ => !digits.isEmpty && count ≤ 6 && isDottedQuad text &&
          (count + 2 == 8 || compressed)
      | ':' :: after => !after.isEmpty && groups (count + 1) compressed after
      | _ => false
termination_by text.length
decreasing_by
  · simp
  · have shorter := congrArg List.length same
    simp only [rest, text, List.length_drop, List.length_cons] at shorter
    simp only [List.length_cons]
    omega

/-- The text between the brackets of a host. -/
def isAddress (text : List Char) : Bool :=
  match text with
  | [] => false
  | [_] => false
  | ':' :: ':' :: rest => groups 1 true rest
  | ':' :: _ => false
  | _ => groups 0 false text

end TopicPress.Url.Ipv6
