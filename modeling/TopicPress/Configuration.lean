import TopicPress.Input.Stream
import TopicPress.Toml.Document
import TopicPress.Topic.Options

/-!
# Configuration files

A TOML file may choose the options.  Keys that mean nothing are no mistakes, but the key of an
option with a value of another type is.
-/

namespace TopicPress

/-- Why a configuration file does not give options. -/
inductive ConfigurationError where
  | unreadable (path : String) (cause : IoError)
  /-- The file is no TOML document, or an option has a value of the wrong type. -/
  | invalid (path : String)
  deriving DecidableEq

namespace ConfigurationError

def message : ConfigurationError → String
  | unreadable path _ => "Failed to read config file " ++ path
  | invalid path => "Invalid config file " ++ path

/-- What made the file useless. -/
def cause : ConfigurationError → String
  | unreadable _ cause => cause.message
  | invalid _ => "TOML parse error"

end ConfigurationError

namespace Configuration

/-- The key of the option to take the identifier from the front matter. -/
def identifierKey : String := "identifier-from-metadata"

/-- The options that a TOML document chooses. -/
def options? (entries : Toml.Entries) : Option RenderOptions :=
  match entries.lookup identifierKey with
  | none => some {}
  | some (.scalar (.boolean identifierFromMetadata)) => some { identifierFromMetadata }
  | some _ => none

/-- The options that the bytes of a file choose. -/
def ofBytes (path : String) (bytes : List UInt8) : Except ConfigurationError RenderOptions :=
  match Utf8.decode? bytes with
  | none => .error (.unreadable path .notUtf8)
  | some text =>
    match (Toml.read? text).bind options? with
    | some options => .ok options
    | none => .error (.invalid path)

/-- The options that a file chooses, which `readFile` may have failed to read. -/
def ofRead (path : String) (read : Except IoError (List UInt8)) :
    Except ConfigurationError RenderOptions :=
  match read with
  | .ok bytes => ofBytes path bytes
  | .error cause => .error (.unreadable path cause)

/-- Turn the option on that a flag asks for. -/
def withFlag (identifierFromMetadata : Bool) (options : RenderOptions) : RenderOptions :=
  if identifierFromMetadata then { options with identifierFromMetadata := true } else options

/-- The options of a file, if there is one, and of a flag.  A flag turns its option on whatever the
file says, but does not make up for a file that gives no options. -/
def load {m : Type → Type} [Monad m] (readFile : List UInt8 → m (Except IoError (List UInt8)))
    (path : Option String) (identifierFromMetadata : Bool) :
    m (Except ConfigurationError RenderOptions) := do
  match path with
  | none => return .ok (withFlag identifierFromMetadata {})
  | some path =>
    let read ← readFile (Utf8.bytesOf path)
    return (ofRead path read).map (withFlag identifierFromMetadata)

end Configuration

end TopicPress
