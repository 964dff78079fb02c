import TopicPress.Yaml.Token

/-!
# YAML values

What a YAML document stands for.  A plain scalar is null, a truth value, an integer of 64 bits or a
real number if its spelling says so, and text otherwise.  An integer keeps its value and not its
spelling; a real number keeps its spelling.
-/

namespace TopicPress.Yaml

inductive Value where
  | null
  | boolean (value : Bool)
  | integer (value : Int)
  | real (spelling : String)
  | text (text : String)
  | sequence (items : List Value)
  /-- The entries in source order, each a key with its value. -/
  | mapping (entries : List (Value × Value))
  /-- A scalar whose tag promises something that its spelling does not hold. -/
  | invalid

namespace Value

instance : Inhabited Value := ⟨null⟩

mutual

/-- Whether two values are the same, the order of the entries of mappings included. -/
def same : Value → Value → Bool
  | null, null => true
  | boolean a, boolean b => a == b
  | integer a, integer b => a == b
  | real a, real b => a == b
  | text a, text b => a == b
  | sequence a, sequence b => sameItems a b
  | mapping a, mapping b => sameEntries a b
  | invalid, invalid => true
  | _, _ => false

def sameItems : List Value → List Value → Bool
  | [], [] => true
  | a :: as, b :: bs => same a b && sameItems as bs
  | _, _ => false

def sameEntries : List (Value × Value) → List (Value × Value) → Bool
  | [], [] => true
  | (key, value) :: as, (key', value') :: bs => same key key' && same value value' && sameEntries as bs
  | _, _ => false

end

/-! ## Numbers -/

/-- The value of a digit up to base sixteen. -/
def digit? (c : Char) : Option Nat :=
  if c.isDigit then some (c.toNat - '0'.toNat)
  else if 'a' ≤ c && c ≤ 'f' then some (c.toNat - 'a'.toNat + 10)
  else if 'A' ≤ c && c ≤ 'F' then some (c.toNat - 'A'.toNat + 10)
  else none

/-- The value of at least one digit of a base. -/
def natural? (base : Nat) (digits : List Char) : Option Nat :=
  if digits.isEmpty then none
  else
    digits.foldl (fun value c =>
      match value, digit? c with
      | some value, some digit => if digit < base then some (value * base + digit) else none
      | _, _ => none) (some 0)

/-- An integer of 64 bits: perhaps a sign, and at least one digit. -/
def integer? (base : Nat) (spelling : List Char) : Option Int :=
  let (negative, digits) := match spelling with
    | '-' :: digits => (true, digits)
    | '+' :: digits => (false, digits)
    | digits => (false, digits)
  match natural? base digits with
  | none => none
  | some value =>
    let signed : Int := if negative then -value else value
    if -9223372036854775808 ≤ signed && signed ≤ 9223372036854775807 then some signed else none

def isSign (c : Char) : Bool := c == '+' || c == '-'

/-- Digits with at most one point among them, then perhaps an exponent. -/
def isDecimal (spelling : List Char) : Bool :=
  let unsigned := match spelling with
    | c :: rest => if isSign c then rest else spelling
    | [] => []
  let whole := unsigned.takeWhile Char.isDigit
  let afterWhole := unsigned.drop whole.length
  let (fraction, afterFraction) := match afterWhole with
    | '.' :: rest => (rest.takeWhile Char.isDigit, rest.dropWhile Char.isDigit)
    | rest => ([], rest)
  let exponent := match afterFraction with
    | [] => true
    | mark :: rest =>
      let digits := match rest with
        | c :: more => if isSign c then more else rest
        | [] => []
      (mark == 'e' || mark == 'E') && !digits.isEmpty && digits.all Char.isDigit
  !(whole.isEmpty && fraction.isEmpty) && exponent

/-- The spellings of real numbers, infinities and what is not a number included. -/
def isReal (spelling : String) : Bool :=
  [".inf", ".Inf", ".INF", "+.inf", "+.Inf", "+.INF", "-.inf", "-.Inf", "-.INF",
    ".nan", ".NaN", ".NAN"].contains spelling
    || isDecimal spelling.toList

/-! ## Scalars -/

/-- An integer with a mark of its own: another base, or a plus sign. -/
def markedInteger? (spelling : List Char) : Option Int :=
  match spelling with
  | '0' :: 'x' :: digits => integer? 16 digits
  | '0' :: 'o' :: digits => integer? 8 digits
  | '+' :: digits => integer? 10 digits
  | _ => none

/-- The spellings of truth values. -/
def truth? (spelling : String) : Option Bool :=
  if spelling == "true" || spelling == "True" || spelling == "TRUE" then some true
  else if spelling == "false" || spelling == "False" || spelling == "FALSE" then some false
  else none

/-- What a plain scalar without a tag stands for. -/
def ofPlain (spelling : String) : Value :=
  match markedInteger? spelling.toList with
  | some value => integer value
  | none =>
    if spelling == "" || spelling == "~" || spelling == "null" then null
    else
      match truth? spelling, integer? 10 spelling.toList with
      | some value, _ => boolean value
      | none, some value => integer value
      | none, none => if isReal spelling then real spelling else text spelling

/-- A tag: what its handle stands for, and its suffix. -/
structure Tag where
  space : String
  suffix : String

/-- The tags of the core schema. -/
def coreSpace : String := "tag:yaml.org,2002:"

/-- What a plain scalar with a tag of the core schema stands for. -/
def ofCoreTag (suffix spelling : String) : Value :=
  match suffix with
  | "bool" => ((truth? spelling).map boolean).getD invalid
  | "int" => ((integer? 10 spelling.toList).map integer).getD invalid
  | "float" => if isReal spelling then real spelling else invalid
  | "null" => if spelling == "~" || spelling == "null" then null else invalid
  | _ => text spelling

/-- What a scalar stands for. -/
def ofScalar (style : Style) (tag : Option Tag) (spelling : String) : Value :=
  match style with
  | .quoted => text spelling
  | .plain =>
    match tag with
    | none => ofPlain spelling
    | some tag => if tag.space == coreSpace then ofCoreTag tag.suffix spelling else text spelling

/-! ## Texts -/

/-- The text of a scalar other than null. -/
def scalarText? : Value → Option String
  | text content => some content
  | real spelling => some spelling
  | integer value => some (toString value)
  | boolean value => some (if value then "true" else "false")
  | _ => none

mutual

/-- A value on one line. -/
def flowText (value : Value) : String :=
  match value with
  | sequence items => "[" ++ ", ".intercalate (flowTexts items) ++ "]"
  | mapping entries => "\x7b" ++ ", ".intercalate (entryTexts entries) ++ "\x7d"
  | null => "~"
  | invalid => "~"
  | text content => content
  | real spelling => spelling
  | integer value => toString value
  | boolean value => if value then "true" else "false"

def flowTexts : List Value → List String
  | [] => []
  | item :: rest => flowText item :: flowTexts rest

def entryTexts : List (Value × Value) → List String
  | [] => []
  | (key, value) :: rest => (flowText key ++ ": " ++ flowText value) :: entryTexts rest

end

end Value

end TopicPress.Yaml
