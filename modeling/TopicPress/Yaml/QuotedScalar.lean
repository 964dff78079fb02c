import TopicPress.Yaml.Mark

/-!
# Quoted scalars

Text between single quotes, where two quotes stand for one, or between double quotes, where a
backslash begins an escape.  Line breaks are folded as in plain scalars; between double quotes an
escaped line break joins the lines without a blank.
-/

namespace TopicPress.Yaml.QuotedScalar

structure Context where
  /-- Between single quotes. -/
  single : Bool
  /-- The least column of further lines. -/
  indent : Int

/-! ## Escapes -/

/-- The value of hexadecimal digits. -/
def hexNumber? (value : Nat) : List Char → Option Nat
  | [] => some value
  | c :: rest =>
    if c.isDigit then hexNumber? (value * 16 + (c.toNat - '0'.toNat)) rest
    else if 'a' ≤ c && c ≤ 'f' then hexNumber? (value * 16 + (c.toNat - 'a'.toNat + 10)) rest
    else if 'A' ≤ c && c ≤ 'F' then hexNumber? (value * 16 + (c.toNat - 'A'.toNat + 10)) rest
    else none

def isScalarValue (code : Nat) : Bool :=
  code < 0xD800 || (0xDFFF < code && code ≤ 0x10FFFF)

/-- The character that `count` hexadecimal digits stand for. -/
def hexCharacter? (count : Nat) (digits : List Char) : Option Char :=
  if digits.length < count then none
  else
    match hexNumber? 0 (digits.take count) with
    | some code => if isScalarValue code then some (Char.ofNat code) else none
    | none => none

/-- The character that an escape stands for, and how many characters follow the backslash; `rest`
is what follows the backslash. -/
def escape? (rest : List Char) : Option (Char × Nat) :=
  match rest with
  | [] => none
  | c :: digits =>
    match c with
    | '0' => some ('\x00', 1)
    | 'a' => some ('\x07', 1)
    | 'b' => some ('\x08', 1)
    | 't' => some ('\t', 1)
    | '\t' => some ('\t', 1)
    | 'n' => some ('\n', 1)
    | 'v' => some ('\x0b', 1)
    | 'f' => some ('\x0c', 1)
    | 'r' => some ('\r', 1)
    | 'e' => some ('\x1b', 1)
    | ' ' => some (' ', 1)
    | '"' => some ('"', 1)
    | '/' => some ('/', 1)
    | '\\' => some ('\\', 1)
    | 'N' => some ('\u0085', 1)
    | '_' => some ('\u00a0', 1)
    | 'L' => some ('\u2028', 1)
    | 'P' => some ('\u2029', 1)
    | 'x' => (hexCharacter? 2 digits).map (fun c => (c, 3))
    | 'u' => (hexCharacter? 4 digits).map (fun c => (c, 5))
    | 'U' => (hexCharacter? 8 digits).map (fun c => (c, 9))
    | _ => none

/-! ## Text -/

/-- What precedes the present character. -/
inductive Mode where
  | text
  | gap
  deriving DecidableEq

/-- The text read so far, last character first, and the gap after it. -/
structure Words where
  text : List Char := []
  /-- The blanks of the gap as long as it has no line break, last first. -/
  blanks : List Char := []
  /-- The gap has a line break, or began with an escaped one. -/
  lines : Bool := false
  /-- The first line break of the gap, which is read as a blank unless more follow. -/
  broken : Bool := false
  /-- The line breaks after that. -/
  emptyLines : Nat := 0

/-- The text with what the gap after it stands for. -/
def Words.closeGap (words : Words) : Words :=
  if words.lines then
    let filling := if words.broken && words.emptyLines == 0 then [' ']
      else List.replicate words.emptyLines '\n'
    { text := filling ++ words.text }
  else { text := words.blanks ++ words.text }

/-- Read from a place after the opening quote to the closing one. -/
def read (context : Context) (mode : Mode) (words : Words) (mark : Mark) (rest : List Char) :
    Option (List Char × Place) :=
  match rest with
  | [] => none
  | c :: later =>
    if isBlank c then
      if words.lines then
        if c == '\t' && (mark.column : Int) < context.indent then none
        else read context .gap words mark.blank later
      else read context .gap { words with blanks := c :: words.blanks } mark.blank later
    else if c == '\r' && first later == '\n' then
      read context mode words { mark with index := mark.index + 1 } later
    else if isBreak c then
      let words := if words.lines then { words with emptyLines := words.emptyLines + 1 }
        else { words with blanks := [], lines := true, broken := true }
      read context .gap words (mark.newline 1) later
    else
      let words := if mode == .gap then words.closeGap else words
      if mode == .gap && mark.column == 0 && startsIndicator rest then none
      else if isEnd c then none
      else if mode == .gap && (mark.column : Int) < context.indent then none
      else if context.single then
        if c == '\'' then
          if first later == '\'' then
            read context .text { words with text := '\'' :: words.text } (mark.solid 2)
              (later.drop 1)
          else some (words.text.reverse, ⟨mark.solid 1, later⟩)
        else read context .text { words with text := c :: words.text } (mark.solid 1) later
      else if c == '"' then some (words.text.reverse, ⟨mark.solid 1, later⟩)
      else if c == '\\' then
        if isBreak (first later) then
          let length := if first later == '\r' && second later == '\n' then 2 else 1
          let next := (mark.solid 1).newline length
          -- A quote at once after an escaped line break closes the scalar in any column.
          if first (later.drop length) == '"' then
            some (words.text.reverse, ⟨next.solid 1, later.drop (length + 1)⟩)
          else read context .gap { words with lines := true } next (later.drop length)
        else
          match escape? later with
          | none => none
          | some (decoded, length) =>
            read context .text { words with text := decoded :: words.text }
              (mark.solid (length + 1)) (later.drop length)
      else read context .text { words with text := c :: words.text } (mark.solid 1) later
termination_by rest.length
decreasing_by
  all_goals
    simp only [List.length_cons, List.length_drop]
    omega

/-- What may follow a quoted scalar that began on `line`. -/
def mayFollow (inFlow : Bool) (line : Nat) (after : Place) : Bool :=
  let c := after.first
  if isBreakOrEnd c then true
  else if c == ':' then inFlow || line == after.mark.line
  else inFlow && (c == ',' || c == '\x7d' || c == ']')

/-- The quoted scalar at a place, which holds the opening quote. -/
def scan (context : Context) (inFlow : Bool) (place : Place) : Option (String × Place) :=
  match read context .text {} (place.mark.solid 1) (place.rest.drop 1) with
  | none => none
  | some (text, after) =>
    match after.lineEnd with
    | none => none
    | some line =>
      if mayFollow inFlow place.mark.line line.place then some (String.ofList text, line.place)
      else none

end TopicPress.Yaml.QuotedScalar
