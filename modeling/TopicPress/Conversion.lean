import TopicPress.Configuration
import TopicPress.Event.JsonLines
import TopicPress.FileSystem
import TopicPress.Input.Acquisition
import TopicPress.Markdown.Reading
import TopicPress.Markdown.ToDocument
import TopicPress.Xml.Document

/-!
# Conversions

A conversion reads a configuration file and a Markdown document, and writes the topic that the
document makes.  It is a program over the few things that it asks of its surroundings, so that it
can be run on real files as well as on a file system that is only data.  Whatever can go wrong
before the topic is complete goes wrong before anything is written.
-/

namespace TopicPress

namespace Conversion

/-! ## Requests -/

/-- Where the document comes from. -/
inductive Source where
  | standardInput
  | location (location : String)
  deriving DecidableEq

/-- Where the topic goes. -/
inductive Target where
  | standardOutput
  | file (path : String)
  deriving DecidableEq

/-- The name that stands for standard input and for standard output. -/
def dash : String := "-"

def Source.ofArgument : Option String → Source
  | none => standardInput
  | some argument => if argument = dash then standardInput else location argument

def Target.ofArgument : Option String → Target
  | none => standardOutput
  | some argument => if argument = dash then standardOutput else file argument

/-- How the topic is written. -/
inductive Form where
  | xml
  /-- Each event as a line of JSON. -/
  | eventLines
  deriving DecidableEq

structure Request where
  source : Source := .standardInput
  target : Target := .standardOutput
  /-- The label of the encoding of the document. -/
  encoding : Option String := none
  identifierFromMetadata : Bool := false
  /-- The path of the configuration file. -/
  configuration : Option String := none
  form : Form := .xml
  deriving DecidableEq

/-! ## Surroundings -/

/-- Why a file could not be written. -/
inductive WriteFailure where
  | create (cause : IoError)
  | write (cause : IoError)
  deriving DecidableEq

/-- What a conversion asks of its surroundings. -/
structure Surroundings (m : Type → Type) where
  readFile : List UInt8 → m (Except IoError (List UInt8))
  readInput : m (Except IoError (List UInt8))
  /-- Write a file, in place of the one that is there if there is one. -/
  writeFile : List UInt8 → List UInt8 → m (Except WriteFailure Unit)
  writeOutput : List UInt8 → m (Except IoError Unit)

/-! ## Errors -/

/-- Why a conversion failed. -/
inductive Failure where
  | configuration (error : ConfigurationError)
  | acquisition (error : AcquisitionError)
  | rendering (error : RenderError Xml.WriteError)
  | file (path : String) (failure : WriteFailure)
  | output (cause : IoError)

namespace Failure

/-- What went wrong, and what was wrong that made it go wrong, outermost first. -/
def chain : Failure → List String
  | configuration error => [error.message, error.cause]
  | acquisition error =>
    "Failed to acquire input document" :: error.message
      :: (error.cause?.map IoError.message).toList
  | rendering error =>
    error.message Xml.WriteError.message
      :: match error with
        | .unmapped _ => []
        | .refused reason =>
          reason.message
            :: match reason with
              | .device fault => [fault]
              | _ => []
  | file path (.create cause) => ["Failed to create output file " ++ path, cause.message]
  | file path (.write cause) => ["Failed to write output file " ++ path, cause.message]
  | output cause => [cause.message]

/-- The outermost message. -/
def message (failure : Failure) : String := failure.chain.headD ""

/-- Put blanks after each line end, so that the lines of a text stand below each other. -/
def indent (width : Nat) (text : String) : String :=
  text.replace "\n" ("\n" ++ "".pushn ' ' width)

/-- The causes of a failure, numbered if there are several. -/
def causeLines (causes : List String) : List String :=
  match causes with
  | [cause] => ["    " ++ indent 4 cause]
  | causes => causes.zipIdx.map fun (cause, number) =>
    let digits := toString number
    "".pushn ' ' (5 - digits.length) ++ digits ++ ": " ++ indent 7 cause

/-- What is reported of a failure. -/
def report (failure : Failure) : String :=
  let causes := failure.chain.tail
  let explanation :=
    if causes.isEmpty then ""
    else "\n\nCaused by:" ++ String.join ((causeLines causes).map fun line => "\n" ++ line)
  "Error: " ++ failure.message ++ explanation ++ "\n"

end Failure

/-! ## Running a conversion -/

/-- What came of a step, with the notices that were left. -/
structure Outcome (α : Type) where
  result : Except Failure α
  notices : List Notice := []

/-- The name of the document on standard input. -/
def inputName : String := "<stdin>"

/-- The text of a topic in one of its forms. -/
def topicText (form : Form) (options : RenderOptions) (document : Document) : Outcome String :=
  match form with
  | .xml =>
    let played := Xml.render options document {}
    { result := match played.result with
        | .ok () => .ok played.state.device.written
        | .error error => .error (.rendering error)
      notices := played.notices.toList }
  | .eventLines =>
    let rendering := document.render options
    { result := match rendering.failure with
        | none => .ok (Event.jsonLines rendering.events)
        | some context => .error (.rendering (.unmapped context))
      notices := rendering.notices }

/-- The text of the topic that an acquired text makes. -/
def convert (form : Form) (options : RenderOptions) (acquired : AcquiredText) : Outcome String :=
  let root := Markdown.read (String.ofList acquired.text)
  let topic := topicText form options (root.toDocument (some acquired.document))
  { topic with notices := root.notices ++ topic.notices }

variable {m : Type → Type} [Monad m]

/-- Acquire the document that a request names. -/
def acquire [Encoding.MultiByte] (surroundings : Surroundings m) (request : Request) :
    m Acquisition :=
  match request.source with
  | .standardInput =>
    Acquisition.fromReader surroundings.readInput request.encoding (some inputName)
  | .location location =>
    Acquisition.fromLocation surroundings.readFile location request.encoding none

/-- The text of the topic that a request asks for.  Nothing is written. -/
def prepare [Encoding.MultiByte] (surroundings : Surroundings m) (request : Request) :
    m (Outcome String) := do
  match ← Configuration.load surroundings.readFile request.configuration
      request.identifierFromMetadata with
  | .error error => return { result := .error (.configuration error) }
  | .ok options =>
    let acquisition ← acquire surroundings request
    match acquisition.result with
    | .error error =>
      return { result := .error (.acquisition error), notices := acquisition.notices }
    | .ok acquired =>
      let topic := convert request.form options acquired
      return { topic with notices := acquisition.notices ++ topic.notices }

/-- Write the text of a topic where it should go. -/
def deliver (surroundings : Surroundings m) (target : Target) (text : String) :
    m (Except Failure Unit) := do
  match target with
  | .standardOutput =>
    match ← surroundings.writeOutput (Utf8.bytesOf text) with
    | .ok () => return .ok ()
    | .error cause => return .error (.output cause)
  | .file path =>
    match ← surroundings.writeFile (Utf8.bytesOf path) (Utf8.bytesOf text) with
    | .ok () => return .ok ()
    | .error failure => return .error (.file path failure)

/-- Carry out a request. -/
def execute [Encoding.MultiByte] (surroundings : Surroundings m) (request : Request) :
    m (Outcome Unit) := do
  let topic ← prepare surroundings request
  match topic.result with
  | .error failure => return { result := .error failure, notices := topic.notices }
  | .ok text =>
    let result ← deliver surroundings request.target text
    return { result, notices := topic.notices }

/-! ## Surroundings that are data -/

/-- Files, standard input and what has been written to standard output. -/
structure World where
  files : FileSystem := {}
  input : Stream := { pieces := [] }
  output : List UInt8 := []

/-- The surroundings that a world makes. -/
def World.surroundings : Surroundings (StateM World) where
  readFile path := do return (← get).files.read path
  readInput := do return (← get).input.readAll
  writeFile path bytes := do
    let world ← get
    match world.files.write path bytes with
    | .ok files =>
      set { world with files }
      return .ok ()
    | .error cause => return .error (.create cause)
  writeOutput bytes := do
    modify fun world => { world with output := world.output ++ bytes }
    return .ok ()

end Conversion

end TopicPress
