import TopicPress.Encoding.Label
import TopicPress.Input.Stream
import TopicPress.Notice
import TopicPress.Url.Basic

/-!
# Acquisition

The text of a document comes from a stream of bytes in some encoding, from a stream of characters,
or from a location: the URL of a file, or a path.  The whole document is read before it is decoded.
-/

namespace TopicPress

/-- Why a text could not be acquired. -/
inductive AcquisitionError where
  | read (document : String) (cause : IoError)
  | unsupportedEncoding (document label : String)
  /-- The location is a URL, but not one of a file. -/
  | unsupportedLocation (location : String)
  | invalidCharacters (document : String)
  deriving DecidableEq

namespace AcquisitionError

def message : AcquisitionError → String
  | read document cause => "Failed to read " ++ document ++ ": " ++ cause.message
  | unsupportedEncoding document label =>
    "Unsupported encoding '" ++ label ++ "' for " ++ document
  | unsupportedLocation location =>
    "Unsupported location '" ++ location ++ "': only file locations can be resolved"
  | invalidCharacters document => "Character stream for " ++ document ++ " is not valid UTF-8"

/-- The error that this one reports, if there is one. -/
def cause? : AcquisitionError → Option IoError
  | read _ cause => some cause
  | _ => none

end AcquisitionError

/-- The text of a document, and what the document is called. -/
structure AcquiredText where
  document : String
  text : List Char

/-- A text or an error, with the notices that were left. -/
structure Acquisition where
  result : Except AcquisitionError AcquiredText
  notices : List Notice := []

namespace Acquisition

/-- What a document without a name is called. -/
def anonymous : String := "<stream>"

/-- The encoding that a label declares, and UTF-8 without a label. -/
def encoding (document : String) (label : Option String) : Except AcquisitionError Encoding :=
  match label with
  | none => .ok .utf8
  | some label =>
    match Encoding.ofLabel? label with
    | some encoding => .ok encoding
    | none => .error (.unsupportedEncoding document label)

/-- Acquired text, with a notice about it. -/
def succeed (document : String) (text : List Char) : Acquisition :=
  { result := .ok { document, text }
    notices := [.acquired document (Utf8.size text)] }

/-- Decode the bytes of a document. -/
def ofBytes [Encoding.MultiByte] (document : String) (encoding : Encoding) (bytes : List UInt8) : Acquisition :=
  let decoded := encoding.decode bytes
  let acquired := succeed document decoded.1
  if decoded.2 then
    { acquired with notices := .malformedBytes document encoding.name :: acquired.notices }
  else acquired

/-- The acquisition of what may not have been read. -/
def ofRead [Encoding.MultiByte] (document : String) (encoding : Encoding)
    (read : Except IoError (List UInt8)) : Acquisition :=
  match read with
  | .ok bytes => ofBytes document encoding bytes
  | .error error => { result := .error (.read document error) }

/-- Acquire a document from a stream of bytes. -/
def fromBytes [Encoding.MultiByte] (stream : Stream) (label name : Option String) : Acquisition :=
  let document := name.getD anonymous
  match encoding document label with
  | .error error => { result := .error error }
  | .ok encoding => ofRead document encoding stream.readAll

/-- Acquire a document from a stream of characters. -/
def fromCharacters (stream : Stream) (name : Option String) : Acquisition :=
  let document := name.getD anonymous
  match stream.readText with
  | .ok text => succeed document text
  | .error error =>
    { result := .error
        (if error.isInvalidData then .invalidCharacters document else .read document error) }

/-- The path, in bytes, that a location names.  A scheme of one letter is a drive, and what is no URL
is a path. -/
def path (location : String) : Except AcquisitionError (List UInt8) :=
  match Url.parse? location with
  | none => .ok (Utf8.bytesOf location)
  | some url =>
    if url.scheme = "file" then
      match url.filePath? with
      | some path => .ok path
      | none => .error (.unsupportedLocation location)
    else if url.scheme.length = 1 then .ok (Utf8.bytesOf location)
    else .error (.unsupportedLocation location)

/-- The encoding and the path with which a location is to be read. -/
def plan (location : String) (label name : Option String) :
    Except AcquisitionError (Encoding × List UInt8) := do
  let encoding ← encoding (name.getD location) label
  let path ← path location
  return (encoding, path)

/-- Acquire a document from what `read` reads.  Nothing is read if the label means nothing. -/
def fromReader [Encoding.MultiByte] {m : Type → Type} [Monad m]
    (read : m (Except IoError (List UInt8))) (label name : Option String) : m Acquisition := do
  let document := name.getD anonymous
  match encoding document label with
  | .error error => return { result := .error error }
  | .ok encoding => return ofRead document encoding (← read)

/-- Acquire a document from a location, where `read` reads the file at a path. -/
def fromLocation [Encoding.MultiByte] {m : Type → Type} [Monad m]
    (read : List UInt8 → m (Except IoError (List UInt8))) (location : String)
    (label name : Option String) : m Acquisition := do
  match plan location label name with
  | .error error => return { result := .error error }
  | .ok (encoding, path) => return ofRead (name.getD location) encoding (← read path)

/-- Where the text of a document comes from. -/
inductive Origin where
  | bytes (stream : Stream)
  | characters (stream : Stream)
  | location (location : String)

/-- What is to be acquired, with the label of its encoding and with its name. -/
structure Source where
  origin : Origin
  label : Option String := none
  name : Option String := none

/-- Acquire a document, where `read` reads the file at a path.  Characters are decoded already, so
that a label of theirs is not looked at. -/
def acquire [Encoding.MultiByte] {m : Type → Type} [Monad m]
    (read : List UInt8 → m (Except IoError (List UInt8))) (source : Source) : m Acquisition :=
  match source.origin with
  | .bytes stream => return fromBytes stream source.label source.name
  | .characters stream => return fromCharacters stream source.name
  | .location location => fromLocation read location source.label source.name

end Acquisition

end TopicPress
