import TopicPress.Yaml.Scanner
import TopicPress.Yaml.Value

/-!
# YAML documents

The tokens of a text make up documents, and each document is one value.  A key that is given twice
in one mapping makes the whole text unreadable, as does any other mistake in any of the documents.
-/

namespace TopicPress.Yaml

/-- What has been read of the tokens: what is left of them, and the names of values given so far. -/
structure Reading where
  tokens : List Token
  /-- The numbers of the anchors, the latest first. -/
  anchors : List (String × Nat) := []
  /-- The values of the anchors that are complete. -/
  values : List (Nat × Value) := []
  nextAnchor : Nat := 1
  /-- The replacements of the handles of tags. -/
  handles : List (String × String) := []

/-- Reading goes on or fails for good. -/
abbrev Reader := StateT Reading Option

namespace Reader

def peek : Reader Token := fun reading =>
  match reading.tokens with
  | [] => none
  | token :: _ => some (token, reading)

def skip : Reader Unit := fun reading =>
  some ((), { reading with tokens := reading.tokens.tail })

def fail {α : Type} : Reader α := fun _ => none

/-! ## Properties of values -/

/-- The tag that a handle and a suffix make up. -/
def resolveTag (handle suffix : String) : Reader Value.Tag := do
  let handles := (← get).handles
  if handle == "!!" then
    return { space := (handles.lookup "!!").getD Value.coreSpace, suffix }
  else if handle == "" && suffix == "!" then
    return { space := (handles.lookup "").getD "", suffix }
  else
    match handles.lookup handle with
    | some space => return { space, suffix }
    | none =>
      if handle.length ≥ 2 && handle.toList.getLast? == some '!' then fail
      else return { space := handle, suffix }

/-- Give an anchor the next number. -/
def registerAnchor (name : String) : Reader Nat := do
  let reading ← get
  set { reading with
    anchors := (name, reading.nextAnchor) :: reading.anchors
    nextAnchor := reading.nextAnchor + 1 }
  return reading.nextAnchor

/-- An anchor and a tag in either order, each at most once. -/
def properties : Reader (Option Nat × Option Value.Tag) := do
  match ← peek with
  | .anchor name _ =>
    skip
    let number ← registerAnchor name
    match ← peek with
    | .tag handle suffix _ =>
      skip
      return (some number, some (← resolveTag handle suffix))
    | _ => return (some number, none)
  | .tag handle suffix _ =>
    skip
    let tag ← resolveTag handle suffix
    match ← peek with
    | .anchor name _ =>
      skip
      return (some (← registerAnchor name), some tag)
    | _ => return (none, some tag)
  | _ => return (none, none)

/-- Remember the value of an anchor. -/
def complete (anchor : Option Nat) (value : Value) : Reader Value := do
  match anchor with
  | some number => modify fun reading => { reading with values := (number, value) :: reading.values }
  | none => pure ()
  return value

/-- The value that an alias stands for; within that value itself it stands for nothing valid. -/
def resolveAlias (name : String) : Reader Value := do
  let reading ← get
  match reading.anchors.lookup name with
  | none => fail
  | some number => return (reading.values.lookup number).getD .invalid

/-! ## Mappings -/

/-- The entries of a mapping so far, and the key that waits for its value. -/
structure Entries where
  entries : List (Value × Value) := []
  key : Option Value := none

/-- Take one more value: a key or the value of the key before it.  An invalid value is never kept
as a key. -/
def Entries.add (entries : Entries) (value : Value) : Option Entries :=
  match entries.key with
  | none =>
    match value with
    | .invalid => some entries
    | key => some { entries with key := some key }
  | some key =>
    if entries.entries.any (fun entry => entry.1.same key) then none
    else some { entries := entries.entries ++ [(key, value)] }

/-- The mapping of keys and values that were read in turn. -/
def mappingOf (values : List Value) : Reader Value :=
  match values.foldlM Entries.add {} with
  | some entries => return .mapping entries.entries
  | none => fail

/-! ## Values

The fuel bounds how many tokens and empty values are read; each function passes on what is left to
the functions it calls. -/

mutual

/-- A value; `block` allows collections in block style, and `indentless` a sequence whose hyphens
stand in the column of the key that it belongs to. -/
def value (block indentless : Bool) : Nat → Reader Value
  | 0 => fail
  | fuel + 1 => do
    match ← peek with
    | .alias_ name =>
      skip
      resolveAlias name
    | _ =>
      let (anchor, tag) ← properties
      match ← peek with
      | .blockEntry =>
        if indentless then
          complete anchor (.sequence (← indentlessItems fuel))
        else emptyValue anchor tag
      | .scalar style text =>
        skip
        complete anchor (.ofScalar style tag text)
      | .flowSequenceStart =>
        skip
        complete anchor (.sequence (← flowItems true fuel))
      | .flowMappingStart =>
        skip
        complete anchor (← mappingOf (← flowEntries true fuel))
      | .blockSequenceStart =>
        if block then
          skip
          complete anchor (.sequence (← blockItems fuel))
        else emptyValue anchor tag
      | .blockMappingStart =>
        if block then
          skip
          complete anchor (← mappingOf (← blockEntries fuel))
        else emptyValue anchor tag
      | _ => emptyValue anchor tag

/-- Nothing after an anchor or a tag is an empty scalar; nothing at all is a mistake. -/
def emptyValue (anchor : Option Nat) (tag : Option Value.Tag) : Reader Value :=
  if anchor.isSome || tag.isSome then complete anchor (.ofScalar .plain tag "") else fail

/-- The items of a sequence whose hyphens open no block. -/
def indentlessItems : Nat → Reader (List Value)
  | 0 => fail
  | fuel + 1 => do
    match ← peek with
    | .blockEntry =>
      skip
      let item ← match ← peek with
        | .blockEntry | .key | .value | .blockEnd => pure Value.null
        | _ => value true false fuel
      return item :: (← indentlessItems fuel)
    | _ => return []

/-- The items of a sequence in block style. -/
def blockItems : Nat → Reader (List Value)
  | 0 => fail
  | fuel + 1 => do
    match ← peek with
    | .blockEnd =>
      skip
      return []
    | .blockEntry =>
      skip
      let item ← match ← peek with
        | .blockEntry | .blockEnd => pure Value.null
        | _ => value true false fuel
      return item :: (← blockItems fuel)
    | _ => fail

/-- The keys and values of a mapping in block style, in turn. -/
def blockEntries : Nat → Reader (List Value)
  | 0 => fail
  | fuel + 1 => do
    match ← peek with
    | .blockEnd =>
      skip
      return []
    | .key =>
      skip
      let key ← match ← peek with
        | .key | .value | .blockEnd => pure Value.null
        | _ => value true true fuel
      let content ← blockValue fuel
      return key :: content :: (← blockEntries fuel)
    | .value =>
      let content ← blockValue fuel
      return .null :: content :: (← blockEntries fuel)
    | _ => fail

/-- The value of a key in block style. -/
def blockValue : Nat → Reader Value
  | 0 => fail
  | fuel + 1 => do
    match ← peek with
    | .value =>
      skip
      match ← peek with
      | .key | .value | .blockEnd => return .null
      | _ => value true true fuel
    | _ => return .null

/-- The items of a sequence in flow style; `first` says that no comma is due. -/
def flowItems (isFirst : Bool) : Nat → Reader (List Value)
  | 0 => fail
  | fuel + 1 => do
    match ← peek with
    | .flowSequenceEnd =>
      skip
      return []
    | token =>
      if !isFirst then
        if token == .flowEntry then skip else fail
      match ← peek with
      | .flowSequenceEnd =>
        skip
        return []
      | .key =>
        skip
        let key ← match ← peek with
          | .value | .flowEntry | .flowSequenceEnd =>
            skip
            pure Value.null
          | _ => value false false fuel
        let content ← flowPairValue fuel
        let item ← mappingOf [key, content]
        return item :: (← flowItems false fuel)
      | _ =>
        let item ← value false false fuel
        return item :: (← flowItems false fuel)

/-- The value of a pair that stands in a sequence without brackets of its own. -/
def flowPairValue : Nat → Reader Value
  | 0 => fail
  | fuel + 1 => do
    match ← peek with
    | .value =>
      skip
      match ← peek with
      | .flowEntry | .flowSequenceEnd => return .null
      | _ => value false false fuel
    | _ => return .null

/-- The keys and values of a mapping in flow style, in turn. -/
def flowEntries (isFirst : Bool) : Nat → Reader (List Value)
  | 0 => fail
  | fuel + 1 => do
    match ← peek with
    | .flowMappingEnd =>
      skip
      return []
    | token =>
      if !isFirst then
        if token == .flowEntry then skip else fail
      match ← peek with
      | .key =>
        skip
        let key ← match ← peek with
          | .value | .flowEntry | .flowMappingEnd => pure Value.null
          | _ => value false false fuel
        let content ← flowValue fuel
        return key :: content :: (← flowEntries false fuel)
      | .value =>
        let content ← flowValue fuel
        return .null :: content :: (← flowEntries false fuel)
      | .flowMappingEnd =>
        skip
        return []
      | _ =>
        let key ← value false false fuel
        return key :: .null :: (← flowEntries false fuel)

/-- The value of a key in flow style. -/
def flowValue : Nat → Reader Value
  | 0 => fail
  | fuel + 1 => do
    match ← peek with
    | .value =>
      skip
      match ← peek with
      | .flowEntry | .flowMappingEnd => return .null
      | _ => value false false fuel
    | _ => return .null

end

/-! ## Documents -/

/-- The directives before a document; only the replacement of the last one is kept. -/
def directives (versionSeen : Bool) : Nat → Reader Unit
  | 0 => fail
  | fuel + 1 => do
    match ← peek with
    | .versionDirective =>
      if versionSeen then fail
      modify fun reading => { reading with handles := [] }
      skip
      directives true fuel
    | .tagDirective handle replacement =>
      modify fun reading => { reading with handles := [(handle, replacement)] }
      skip
      directives versionSeen fuel
    | _ => pure ()

/-- A document that begins with hyphens. -/
def explicitDocument (fuel : Nat) : Reader Value := do
  directives false fuel
  match ← peek with
  | .documentStart =>
    skip
    match ← peek with
    | .versionDirective | .tagDirective _ _ | .documentStart | .documentEnd | .streamEnd =>
      return .null
    | _ => value true false fuel
  | _ => fail

/-- Pass over the ends of documents. -/
def skipDocumentEnds : Nat → Reader Unit
  | 0 => pure ()
  | fuel + 1 => do
    match ← peek with
    | .documentEnd =>
      skip
      skipDocumentEnds fuel
    | _ => pure ()

/-- The documents of a text; `implicit` says that the next one may begin without hyphens. -/
def documents (implicit : Bool) (size : Nat) : Nat → Reader (List Value)
  | 0 => fail
  | fuel + 1 => do
    skipDocumentEnds size
    modify fun reading => { reading with anchors := [] }
    match ← peek with
    | .streamEnd => return []
    | token =>
      let explicit := match token with
        | .versionDirective | .tagDirective _ _ | .documentStart => true
        | _ => !implicit
      let content ← if explicit then explicitDocument size else value true false size
      modify fun reading => { reading with handles := [] }
      match ← peek with
      | .documentEnd =>
        skip
        return content :: (← documents true size fuel)
      | .versionDirective | .tagDirective _ _ => fail
      | _ => return content :: (← documents false size fuel)

end Reader

/-- The documents of a text.  A value takes a token or stands before one, and no more than two values
stand before one token, so the fuel suffices. -/
def documents? (text : List Char) : Option (List Value) :=
  match scan text with
  | none => none
  | some tokens =>
    let size := 4 * tokens.length + 4
    ((Reader.documents true size size).run { tokens }).map Prod.fst

end TopicPress.Yaml
