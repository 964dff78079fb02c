import TopicPress.Yaml.BlockScalar
import TopicPress.Yaml.PlainScalar
import TopicPress.Yaml.QuotedScalar
import TopicPress.Yaml.Tag

/-!
# Taking a YAML text apart

A text is read token by token.  Two things make the state more than a place in the text.  In block
style the indentation opens and closes collections, so the columns of the open ones are kept.  And a
key is recognised only by the colon after it, so for each level of nesting it is remembered where
the last token that may turn out to be a key stands; the tokens that mark it as a key are inserted
there afterwards.
-/

namespace TopicPress.Yaml

/-- A token that may turn out to be a key. -/
structure KeyCandidate where
  possible : Bool := false
  /-- A mapping is already open in its column, so anything else would be a mistake. -/
  required : Bool := false
  /-- How many tokens precede it. -/
  position : Nat := 0
  mark : Mark := {}

/-- An indentation that was in force before the present one. -/
structure Indent where
  column : Int
  /-- The present one opened a collection, whose end is a token. -/
  opened : Bool

structure Scanner where
  place : Place
  /-- The tokens so far, last first. -/
  tokens : List Token := []
  /-- The number of tokens so far. -/
  count : Nat := 0
  /-- Where a colon may follow a key in flow style without a blank after it. -/
  adjacentValueAt : Nat := 0
  keyAllowed : Bool := true
  /-- A candidate for each level of nesting, innermost first. -/
  candidates : List KeyCandidate := [{}]
  indent : Int := -1
  indents : List Indent := []
  flowLevel : Nat := 0
  flowMappingStarted : Bool := false
  /-- For each open sequence in flow style, innermost first, whether a mapping without brackets is
  open in it. -/
  flowSequences : List Bool := []

namespace Scanner

def inFlow (s : Scanner) : Bool := s.flowLevel > 0

def column (s : Scanner) : Int := s.place.mark.column

/-- Put a token after all others. -/
def push (s : Scanner) (token : Token) : Scanner :=
  { s with tokens := token :: s.tokens, count := s.count + 1 }

/-- Put a token after the first `position` tokens. -/
def insert (s : Scanner) (position : Nat) (token : Token) : Scanner :=
  let later := s.count - position
  { s with
    tokens := s.tokens.take later ++ token :: s.tokens.drop later
    count := s.count + 1 }

/-- Past `count` characters. -/
def skip (s : Scanner) (count : Nat) : Scanner := { s with place := s.place.skip count }

/-- Past blanks and a comment on the line. -/
def skipLineEnd (s : Scanner) : Option Scanner :=
  s.place.lineEnd.map (fun line => { s with place := line.place })

/-! ## Candidates for keys -/

def candidate (s : Scanner) : KeyCandidate := s.candidates.headD {}

def setCandidate (s : Scanner) (candidate : KeyCandidate) : Scanner :=
  { s with candidates := candidate :: s.candidates.tail }

/-- The next token may turn out to be a key, if keys are allowed here. -/
def saveCandidate (s : Scanner) : Scanner :=
  if s.keyAllowed then
    let required := !s.inFlow && s.indent == s.column && (s.indents.head?.any Indent.opened)
    s.setCandidate { possible := true, required, position := s.count, mark := s.place.mark }
  else s

/-- The candidate is no key after all. -/
def dropCandidate (s : Scanner) : Option Scanner :=
  if s.candidate.possible && s.candidate.required then none
  else some (s.setCandidate { s.candidate with possible := false })

/-- Outside collections in flow style a key stands on one line and is not too long. -/
def dropStale (s : Scanner) : Option Scanner :=
  let mark := s.candidate.mark
  if s.candidate.possible && !s.inFlow &&
      (mark.line < s.place.mark.line || mark.index + 1024 < s.place.mark.index) then
    if s.candidate.required then none
    else some (s.setCandidate { s.candidate with possible := false })
  else some s

/-! ## Indentation -/

/-- Leave the collections that are indented more deeply than `column`. -/
def unrollTo (column : Int) (s : Scanner) : List Indent → Scanner
  | [] => s
  | previous :: rest =>
    if column < s.indent then
      let s := { s with indent := previous.column, indents := rest }
      unrollTo column (if previous.opened then s.push .blockEnd else s) rest
    else s

def unroll (s : Scanner) (column : Int) : Scanner :=
  if s.inFlow then s else unrollTo column s s.indents

/-- Open a collection in `column` unless one is open there; `position` tells where its token goes. -/
def roll (s : Scanner) (column : Int) (position : Option Nat) (token : Token) : Scanner :=
  if s.inFlow then s
  else
    let s := match s.indents with
      | previous :: rest =>
        if s.indent ≤ column && !previous.opened then
          { s with indent := previous.column, indents := rest }
        else s
      | [] => s
    if s.indent < column then
      let s := { s with indent := column, indents := ⟨s.indent, true⟩ :: s.indents }
      match position with
      | some position => s.insert position token
      | none => s.push token
    else s

/-- Ask for one more column of indentation without opening anything. -/
def rollOneColumn (s : Scanner) : Scanner :=
  if !s.inFlow && (s.indents.head?.any Indent.opened) then
    { s with indent := s.indent + 1, indents := ⟨s.indent, false⟩ :: s.indents }
  else s

/-- Take back indentations that opened nothing. -/
def unrollPlainFrom (s : Scanner) : List Indent → Scanner
  | [] => s
  | previous :: rest =>
    if previous.opened then s
    else unrollPlainFrom { s with indent := previous.column, indents := rest } rest

def unrollPlain (s : Scanner) : Scanner := unrollPlainFrom s s.indents

/-! ## Steps -/

/-- Close a mapping without brackets in the innermost sequence in flow style. -/
def endFlowPair (s : Scanner) : Scanner :=
  match s.flowSequences with
  | true :: rest =>
    ({ s with flowMappingStarted := false, flowSequences := false :: rest } : Scanner).push
      .flowMappingEnd
  | _ => s

def scanStreamEnd (s : Scanner) : Option Scanner :=
  if s.candidates.any (fun c => c.required && c.possible) then none
  else
    let s := { s with
      candidates := s.candidates.map (fun (c : KeyCandidate) => { c with possible := false }) }
    some ((s.unroll (-1)).push .streamEnd)

def scanDirective (s : Scanner) : Option Scanner :=
  match (s.unroll (-1)).dropCandidate with
  | none => none
  | some s =>
    match readDirective s.place with
    | none => none
    | some (token, place) => some (({ s with keyAllowed := false, place } : Scanner).push token)

def scanDocumentMark (s : Scanner) (token : Token) : Option Scanner :=
  (s.unroll (-1)).dropCandidate.map
    (fun (s : Scanner) => (({ s with keyAllowed := false } : Scanner).skip 3).push token)

def scanDocumentEnd (s : Scanner) : Option Scanner :=
  match (s.scanDocumentMark .documentEnd).bind skipLineEnd with
  | none => none
  | some s => if isBreakOrEnd s.place.first then some s else none

def scanFlowStart (s : Scanner) (token : Token) : Option Scanner :=
  if s.flowLevel ≥ 255 then none
  else
    let s := s.saveCandidate.rollOneColumn
    let s := { s with
      candidates := {} :: s.candidates, flowLevel := s.flowLevel + 1, keyAllowed := true }
    let s := s.skip 1
    let s := if token == .flowMappingStart then { s with flowMappingStarted := true }
      else { s with flowSequences := false :: s.flowSequences }
    s.skipLineEnd.map (fun (s : Scanner) => s.push token)

def scanFlowEnd (s : Scanner) (token : Token) : Option Scanner :=
  match s.dropCandidate with
  | none => none
  | some s =>
    let s := if s.inFlow then
        { s with flowLevel := s.flowLevel - 1, candidates := s.candidates.tail }
      else s
    let s := { s with keyAllowed := false }
    let s := if token == .flowSequenceEnd then
        let s := s.endFlowPair
        { s with flowSequences := s.flowSequences.tail }
      else s
    match (s.skip 1).skipLineEnd with
    | none => none
    | some s =>
      let s := if s.inFlow then { s with adjacentValueAt := s.place.mark.index } else s
      some (s.push token)

def scanFlowEntry (s : Scanner) : Option Scanner :=
  match s.dropCandidate with
  | none => none
  | some s =>
    let s : Scanner := { s with keyAllowed := true }
    (s.endFlowPair.skip 1).skipLineEnd.map (fun (s : Scanner) => s.push .flowEntry)

/-- The last token is an anchor or a tag in the first column. -/
def afterProperty (s : Scanner) : Bool :=
  match s.tokens with
  | .anchor _ 0 :: _ => true
  | .tag _ _ 0 :: _ => true
  | _ => false

def scanBlockEntry (s : Scanner) : Option Scanner :=
  if s.inFlow || !s.keyAllowed then none
  else if s.afterProperty && s.column == 0 && s.indent > -1 then none
  else
    let s := (s.skip 1).roll s.column none .blockSequenceStart
    match s.place.lineEnd with
    | none => none
    | some line =>
      let s := { s with place := line.place }
      if line.sawTab && s.place.first == '-' && isGap s.place.second then none
      else
        match toLineEnd false false false s.place.mark s.place.rest with
        | none => none
        | some line =>
          let s := { s with place := line.place }
          let s := if isBreak s.place.first || isFlow s.place.first then s.rollOneColumn else s
          s.dropCandidate.map (fun (s : Scanner) =>
            ({ s with keyAllowed := true } : Scanner).push .blockEntry)

/-- Pass over white space after the sign of a key, of which there must be some. -/
def skipAfterKey (sawSpace keyAllowed : Bool) (inFlow : Bool) (place : Place) :
    Nat → Option (Place × Bool)
  | 0 => if sawSpace then some (place, keyAllowed) else none
  | fuel + 1 =>
    let c := place.first
    if c == ' ' then
      skipAfterKey true keyAllowed inFlow ⟨place.mark.blank, place.rest.drop 1⟩ fuel
    else if isBreak c then skipAfterKey true (keyAllowed || !inFlow) inFlow place.skipBreak fuel
    else if c == '#' then skipAfterKey sawSpace keyAllowed inFlow place.skipComment fuel
    else if sawSpace then some (place, keyAllowed) else none

def scanKey (s : Scanner) : Option Scanner :=
  if !s.inFlow && !s.keyAllowed then none
  else
    let s := if s.inFlow then { s with flowMappingStarted := true }
      else s.roll s.column none .blockMappingStart
    match s.dropCandidate with
    | none => none
    | some s =>
      let s := ({ s with keyAllowed := !s.inFlow } : Scanner).skip 1
      match skipAfterKey false s.keyAllowed s.inFlow s.place (s.place.rest.length + 1) with
      | none => none
      | some (place, keyAllowed) =>
        if place.first == '\t' then none else some (({ s with place, keyAllowed } : Scanner).push .key)

/-- What may follow a colon on its line: after a tab without any blank, no word. -/
def skipAfterColon (s : Scanner) : Option Scanner :=
  if s.place.first == '\t' then
    match s.place.lineEnd with
    | none => none
    | some line =>
      let c := line.place.first
      if !line.sawSpace && (c == '-' || isWord c) then none
      else some { s with place := line.place }
  else some s

def scanValue (s : Scanner) : Option Scanner :=
  let candidate := s.candidate
  let colon := s.place.mark
  let pairStarts := !s.flowSequences.isEmpty && !s.flowMappingStarted
  let s := if pairStarts then { s with flowSequences := true :: s.flowSequences.tail } else s
  match (s.skip 1).skipAfterColon with
  | none => none
  | some s =>
    if candidate.possible then
      let s := s.insert candidate.position .key
      if pairStarts && candidate.mark.line < colon.line then none
      else
        let s := if pairStarts then s.insert candidate.position .flowMappingStart else s
        let s := (s.roll candidate.mark.column (some candidate.position)
          .blockMappingStart).rollOneColumn
        let s := s.setCandidate { s.candidate with possible := false }
        some (({ s with keyAllowed := false } : Scanner).push .value)
    else
      let s := if pairStarts then s.push .flowMappingStart else s
      if s.inFlow then some (({ s.rollOneColumn with keyAllowed := false } : Scanner).push .value)
      else if !s.keyAllowed then none
      else
        let s := (s.roll colon.column none .blockMappingStart).rollOneColumn
        some (({ s with keyAllowed := true } : Scanner).push .value)

def scanAnchor (s : Scanner) (make : String → Token) : Option Scanner :=
  let s := { s.saveCandidate with keyAllowed := false }
  (readAnchor s.place).map (fun (name, place) =>
    ({ s with place } : Scanner).push (make name))

def scanTag (s : Scanner) : Option Scanner :=
  let s := { s.saveCandidate with keyAllowed := false }
  (readTag s.inFlow s.place).map (fun (handle, suffix, place) =>
    ({ s with place } : Scanner).push
      (.tag (String.ofList handle) (String.ofList suffix) s.place.mark.column))

def scanBlockScalar (s : Scanner) (literal : Bool) : Option Scanner :=
  let s := ({ s.saveCandidate with keyAllowed := true } : Scanner).unrollPlain
  (BlockScalar.scan literal s.indent s.place).map (fun (text, place) =>
    ({ s with place } : Scanner).push (.scalar .quoted text))

/-- Pass over everything before the next token. -/
def skipToToken (s : Scanner) : Option Scanner :=
  let indent := if s.indents.isEmpty then none else some s.indent
  match toToken indent .clear false s.place.mark s.place.rest with
  | none => none
  | some (place, passedBreak) =>
    some { s with place, keyAllowed := s.keyAllowed || (passedBreak && !s.inFlow) }

def scanQuotedScalar (s : Scanner) (single : Bool) : Option Scanner :=
  let s := { s.saveCandidate with keyAllowed := false }
  match QuotedScalar.scan { single, indent := s.indent } s.inFlow s.place with
  | none => none
  | some (text, place) =>
    ({ s with place } : Scanner).skipToToken.map (fun (s : Scanner) =>
      ({ s with adjacentValueAt := s.place.mark.index } : Scanner).push (.scalar .quoted text))

def scanPlainScalar (s : Scanner) : Option Scanner :=
  let s := ({ s.saveCandidate with keyAllowed := false } : Scanner).unrollPlain
  match PlainScalar.scan { indent := s.indent + 1, inFlow := s.inFlow } s.place with
  | none => none
  | some (text, place) =>
    some (({ s with place, keyAllowed := place.mark.leading } : Scanner).push (.scalar .plain text))

/-- Read the token that begins at the present place. -/
def scanToken (s : Scanner) : Option Scanner :=
  let c := s.place.first
  let next := s.place.second
  if s.column == 0 && c == '%' then s.scanDirective
  else if s.column == 0 && startsDocument '-' s.place.rest then s.scanDocumentMark .documentStart
  else if s.column == 0 && startsDocument '.' s.place.rest then s.scanDocumentEnd
  else if s.column < s.indent then none
  else
    match c with
    | '[' => s.scanFlowStart .flowSequenceStart
    | '\x7b' => s.scanFlowStart .flowMappingStart
    | ']' => s.scanFlowEnd .flowSequenceEnd
    | '\x7d' => s.scanFlowEnd .flowMappingEnd
    | ',' => s.scanFlowEntry
    | '-' => if isGap next then s.scanBlockEntry else s.scanPlainScalar
    | '?' => if isGap next then s.scanKey else s.scanPlainScalar
    | ':' =>
      if isGap next || (s.inFlow && (isFlow next || s.place.mark.index == s.adjacentValueAt)) then
        s.scanValue
      else s.scanPlainScalar
    | '*' => s.scanAnchor .alias_
    | '&' => s.scanAnchor (fun name => .anchor name s.place.mark.column)
    | '!' => s.scanTag
    | '|' => if s.inFlow then s.scanPlainScalar else s.scanBlockScalar true
    | '>' => if s.inFlow then s.scanPlainScalar else s.scanBlockScalar false
    | '\'' => s.scanQuotedScalar true
    | '"' => s.scanQuotedScalar false
    | '%' => none
    | '@' => none
    | '\x60' => none
    | _ => s.scanPlainScalar

/-- Read on to the next token, closing the collections that end before it. -/
def advance (s : Scanner) : Option Scanner :=
  (s.skipToToken.bind dropStale).map (fun s => s.unroll s.column)

/-- Read tokens to the end of the text; `fuel` bounds their number. -/
def run (s : Scanner) : Nat → Option (List Token)
  | 0 => none
  | fuel + 1 =>
    match s.advance with
    | none => none
    | some s =>
      if isEnd s.place.first then s.scanStreamEnd.map (fun s => s.tokens.reverse)
      else s.scanToken.bind (fun s => s.run fuel)

end Scanner

/-- Take a text apart.  Every token takes at least one character, so the fuel suffices. -/
def scan (text : List Char) : Option (List Token) :=
  ({ place := ⟨{}, text⟩ } : Scanner).run (text.length + 1)

end TopicPress.Yaml
