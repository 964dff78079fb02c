/-!
# UTF-8

Reading bytes as UTF-8, in the two ways that are needed: strictly, where one ill-formed byte spoils
the text, and leniently, where each maximal ill-formed part gives one U+FFFD.  Both are built on one
function that takes the first character off a list of bytes.
-/

namespace TopicPress.Utf8

/-- The bytes of a text. -/
def bytesOf (text : String) : List UInt8 := text.toUTF8.data.toList

/-- The number of bytes that a character takes. -/
def width (c : Char) : Nat :=
  if c.val < 0x80 then 1 else if c.val < 0x800 then 2 else if c.val < 0x10000 then 3 else 4

/-- The number of bytes of a text. -/
def size (text : List Char) : Nat := text.foldl (fun total c => total + width c) 0

/-- What stands at the beginning of a list of bytes. -/
inductive Head where
  /-- A character. -/
  | character (c : Char) (rest : List UInt8)
  /-- Bytes that begin no character, as many as could have begun one. -/
  | malformed (rest : List UInt8)

/-- The rest of the list after its head. -/
def Head.rest : Head → List UInt8
  | character _ rest => rest
  | malformed rest => rest

def isContinuation (byte : UInt8) : Bool := 0x80 ≤ byte && byte ≤ 0xBF

/-- The second bytes that may follow `lead`: they keep out overlong forms, surrogates and what lies
above U+10FFFF. -/
def isSecond (lead byte : UInt8) : Bool :=
  if lead == 0xE0 then 0xA0 ≤ byte && byte ≤ 0xBF
  else if lead == 0xED then 0x80 ≤ byte && byte ≤ 0x9F
  else if lead == 0xF0 then 0x90 ≤ byte && byte ≤ 0xBF
  else if lead == 0xF4 then 0x80 ≤ byte && byte ≤ 0x8F
  else isContinuation byte

/-- The payload of a continuation byte. -/
def payload (byte : UInt8) : Nat := byte.toNat % 64

/-- The head of a list of bytes that begins with `lead`. -/
def head (lead : UInt8) (rest : List UInt8) : Head :=
  if lead < 0x80 then .character (Char.ofNat lead.toNat) rest
  else if lead < 0xC2 || 0xF4 < lead then .malformed rest
  else
    match rest with
    | [] => .malformed []
    | second :: afterSecond =>
      if lead < 0xE0 then
        if isContinuation second then
          .character (Char.ofNat ((lead.toNat % 32) * 64 + payload second)) afterSecond
        else .malformed rest
      else if !isSecond lead second then .malformed rest
      else
        match afterSecond with
        | [] => .malformed []
        | third :: afterThird =>
          if !isContinuation third then .malformed afterSecond
          else if lead < 0xF0 then
            .character (Char.ofNat ((lead.toNat % 16) * 4096 + payload second * 64
              + payload third)) afterThird
          else
            match afterThird with
            | [] => .malformed []
            | fourth :: afterFourth =>
              if !isContinuation fourth then .malformed afterThird
              else .character (Char.ofNat ((lead.toNat % 8) * 262144 + payload second * 4096
                + payload third * 64 + payload fourth)) afterFourth

/-- The head takes at least the first byte. -/
theorem length_rest_head (lead : UInt8) (rest : List UInt8) :
    (head lead rest).rest.length ≤ rest.length := by
  unfold head
  repeat' split
  all_goals simp only [Head.rest, List.length_cons, List.length_nil]
  all_goals omega

/-- Decode, putting U+FFFD for each ill-formed part; also say whether there was one. -/
def decodeLossy (bytes : List UInt8) : List Char × Bool :=
  match bytes with
  | [] => ([], false)
  | lead :: rest =>
    match _split : head lead rest with
    | .character c later =>
      let decoded := decodeLossy later
      (c :: decoded.1, decoded.2)
    | .malformed later => ('\uFFFD' :: (decodeLossy later).1, true)
termination_by bytes.length
decreasing_by
  all_goals
    have bound := length_rest_head lead rest
    rw [_split] at bound
    simp only [Head.rest] at bound
    simp only [List.length_cons]
    omega

/-- Decode bytes that are UTF-8 throughout. -/
def decode? (bytes : List UInt8) : Option (List Char) :=
  match decodeLossy bytes with
  | (chars, false) => some chars
  | (_, true) => none

end TopicPress.Utf8
