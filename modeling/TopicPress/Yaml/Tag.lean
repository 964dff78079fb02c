import TopicPress.Yaml.Mark

/-!
# Tags, anchors and directives

The small parts of YAML that begin with an exclamation mark, an ampersand, an asterisk or a percent
sign.
-/

namespace TopicPress.Yaml

/-- The value of two hexadecimal digits after a percent sign. -/
def escapedByte? (rest : List Char) : Option Nat :=
  match rest with
  | '%' :: high :: low :: _ =>
    match hexDigit? high, hexDigit? low with
    | some high, some low => some (high * 16 + low)
    | _, _ => none
  | _ => none
where
  hexDigit? (c : Char) : Option Nat :=
    if c.isDigit then some (c.toNat - '0'.toNat)
    else if 'a' ≤ c && c ≤ 'f' then some (c.toNat - 'a'.toNat + 10)
    else if 'A' ≤ c && c ≤ 'F' then some (c.toNat - 'A'.toNat + 10)
    else none

/-- Read the escaped bytes after the first one of a character; each byte adds eight bits. -/
def escapedTail? (code : Nat) (place : Place) : Nat → Option (Nat × Place)
  | 0 => some (code, place)
  | count + 1 =>
    match escapedByte? place.rest with
    | some byte =>
      if byte / 64 == 2 then escapedTail? (code * 256 + byte) (place.skip 3) count else none
    | none => none

/-- Read an escaped character. -/
def escapedCharacter? (place : Place) : Option (Char × Place) :=
  match escapedByte? place.rest with
  | none => none
  | some byte =>
    let more : Option Nat :=
      if byte < 0x80 then some 0 else if byte / 32 == 6 then some 1
      else if byte / 16 == 14 then some 2 else if byte / 8 == 30 then some 3 else none
    match more with
    | none => none
    | some more =>
      match escapedTail? byte (place.skip 3) more with
      | none => none
      | some (code, after) =>
        if code < 0xD800 || (0xDFFF < code && code ≤ 0x10FFFF) then some (Char.ofNat code, after)
        else none

/-- Read characters of a kind, escaped ones decoded; `fuel` bounds their number. -/
def readUri (allowed : Char → Bool) (text : List Char) (place : Place) :
    Nat → Option (List Char × Place)
  | 0 => some (text.reverse, place)
  | fuel + 1 =>
    if !allowed place.first then some (text.reverse, place)
    else if place.first == '%' then
      match escapedCharacter? place with
      | none => none
      | some (c, after) => readUri allowed (c :: text) after fuel
    else readUri allowed (place.first :: text) (place.skip 1) fuel

/-- The word at a place. -/
def readWord (place : Place) : List Char × Place :=
  let word := place.rest.takeWhile isWord
  (word, place.skip word.length)

/-- Pass over blanks. -/
def skipBlanks (place : Place) : Place :=
  let count := (place.rest.takeWhile isBlank).length
  ⟨{ place.mark with index := place.mark.index + count, column := place.mark.column + count },
    place.rest.drop count⟩

/-- The handle of a tag: an exclamation mark, a word, and perhaps another exclamation mark, which a
directive cannot do without. -/
def readHandle (directive : Bool) (place : Place) : Option (List Char × Place) :=
  if place.first != '!' then none
  else
    let (word, after) := readWord (place.skip 1)
    if after.first == '!' then some ('!' :: word ++ ['!'], after.skip 1)
    else if directive && !word.isEmpty then none
    else some ('!' :: word, after)

/-- Read a tag; the results are its handle and its suffix. -/
def readTag (inFlow : Bool) (place : Place) : Option (List Char × List Char × Place) :=
  let parts : Option (List Char × List Char × Place) :=
    if place.second == '<' then
      match readUri isUri [] (place.skip 2) place.rest.length with
      | none => none
      | some (suffix, after) => if after.first == '>' then some ([], suffix, after.skip 1) else none
    else
      match readHandle false place with
      | none => none
      | some (handle, after) =>
        if handle.length ≥ 2 && handle.getLast? == some '!' then
          match readUri isTag [] after after.rest.length with
          | none => none
          | some (suffix, end_) => if suffix.isEmpty then none else some (handle, suffix, end_)
        else
          match readUri isTag (handle.drop 1).reverse after after.rest.length with
          | none => none
          | some ([], end_) => some ([], ['!'], end_)
          | some (suffix, end_) => some (['!'], suffix, end_)
  match parts with
  | none => none
  | some (handle, suffix, after) =>
    if isGap after.first || (inFlow && isFlow after.first) then some (handle, suffix, after)
    else none

/-- The name of an anchor or of an alias. -/
def readAnchor (place : Place) : Option (String × Place) :=
  let start := place.skip 1
  let name := start.rest.takeWhile isAnchor
  if name.isEmpty then none else some (String.ofList name, start.skip name.length)

/-- A number of a version: one to nine digits. -/
def readVersionNumber (place : Place) : Option Place :=
  let digits := place.rest.takeWhile Char.isDigit
  if digits.isEmpty || digits.length > 9 then none else some (place.skip digits.length)

/-- Read a directive up to the beginning of the next line. -/
def readDirective (place : Place) : Option (Token × Place) :=
  let (name, afterName) := readWord (place.skip 1)
  if name.isEmpty || !isGap afterName.first then none
  else
    let content : Option (Token × Place) :=
      if name == "YAML".toList then
        match readVersionNumber (skipBlanks afterName) with
        | none => none
        | some afterMajor =>
          if afterMajor.first != '.' then none
          else (readVersionNumber (afterMajor.skip 1)).map (fun after => (.versionDirective, after))
      else if name == "TAG".toList then
        match readHandle true (skipBlanks afterName) with
        | none => none
        | some (handle, afterHandle) =>
          let start := skipBlanks afterHandle
          if start.first != '!' && !isTag start.first then none
          else
            let head : Option (List Char × Place) :=
              if start.first == '%' then
                (escapedCharacter? start).map (fun (c, after) => ([c], after))
              else some ([start.first], start.skip 1)
            match head with
            | none => none
            | some (text, afterHead) =>
              match readUri isUri text afterHead afterHead.rest.length with
              | none => none
              | some (replacement, after) =>
                if isGap after.first then
                  some (.tagDirective (String.ofList handle) (String.ofList replacement), after)
                else none
      else some (.tagDirective "" "", afterName.skipComment)
    match content with
    | none => none
    | some (token, after) =>
      match after.lineEnd with
      | none => none
      | some line =>
        if isBreakOrEnd line.place.first then some (token, line.place.skipBreak) else none

end TopicPress.Yaml
