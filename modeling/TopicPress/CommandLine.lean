import TopicPress.Conversion

/-!
# The command line

Arguments ask for a conversion, for help or for the version.  They are understood from left to
right, and the first that means nothing, or that asks for help, settles the matter.
-/

namespace TopicPress.CommandLine

open Conversion

/-! ## Options -/

/-- The options that take a value. -/
inductive ValueOption where
  | output
  | encoding
  | configuration
  deriving DecidableEq

/-- The options that take none. -/
inductive Flag where
  | identifierFromMetadata
  | events
  | help
  | version
  deriving DecidableEq

/-- An option of either kind. -/
inductive AnyOption where
  | valued (option : ValueOption)
  | flag (flag : Flag)
  deriving DecidableEq

/-- The option that a long name means. -/
def longOption? (name : String) : Option AnyOption :=
  match name with
  | "output" => some (.valued .output)
  | "encoding" => some (.valued .encoding)
  | "config" => some (.valued .configuration)
  | "id-from-metadata" => some (.flag .identifierFromMetadata)
  | "events" => some (.flag .events)
  | "help" => some (.flag .help)
  | "version" => some (.flag .version)
  | _ => none

/-- The option that a letter means. -/
def shortOption? (letter : Char) : Option AnyOption :=
  match letter with
  | 'o' => some (.valued .output)
  | 'h' => some (.flag .help)
  | 'V' => some (.flag .version)
  | _ => none

/-- How an option that takes a value is shown. -/
def ValueOption.shown : ValueOption → String
  | output => "--output <OUTPUT>"
  | encoding => "--encoding <ENCODING>"
  | configuration => "--config <CONFIG>"

/-- How a flag is shown. -/
def Flag.shown : Flag → String
  | identifierFromMetadata => "--id-from-metadata"
  | events => "--events"
  | help => "--help"
  | version => "--version"

/-! ## Mistakes -/

/-- Why arguments are not understood. -/
inductive UsageError where
  | unexpectedArgument (argument : String)
  | missingValue (option : ValueOption)
  /-- The path of a configuration file is empty. -/
  | emptyValue (option : ValueOption)
  | repeated (shown : String)
  /-- A flag was given a value. -/
  | unexpectedValue (value : String) (flag : Flag)
  deriving DecidableEq

namespace UsageError

def message : UsageError → String
  | unexpectedArgument argument => "unexpected argument '" ++ argument ++ "' found"
  | missingValue option =>
    "a value is required for '" ++ option.shown ++ "' but none was supplied"
  | emptyValue option => "a value is required for '" ++ option.shown ++ "' but none was supplied"
  | repeated shown => "the argument '" ++ shown ++ "' cannot be used multiple times"
  | unexpectedValue value flag =>
    "unexpected value '" ++ value ++ "' for '" ++ flag.shown ++ "' found; no more were expected"

end UsageError

/-! ## Understanding arguments -/

/-- What the arguments up to some point have given. -/
structure Given where
  input : Option String := none
  output : Option String := none
  encoding : Option String := none
  configuration : Option String := none
  identifierFromMetadata : Bool := false
  events : Bool := false
  deriving DecidableEq

/-- What arguments ask for. -/
inductive Invocation where
  | convert (request : Request)
  | help
  | version
  deriving DecidableEq

/-- The request of all arguments. -/
def Given.request (given : Given) : Request where
  source := .ofArgument given.input
  target := .ofArgument given.output
  encoding := given.encoding
  identifierFromMetadata := given.identifierFromMetadata
  configuration := given.configuration
  form := if given.events then .eventLines else .xml

/-- Give an option its value. -/
def Given.setValue (given : Given) (option : ValueOption) (value : String) :
    Except UsageError Given :=
  match option with
  | .output =>
    if given.output.isSome then .error (.repeated option.shown)
    else .ok { given with output := some value }
  | .encoding =>
    if given.encoding.isSome then .error (.repeated option.shown)
    else .ok { given with encoding := some value }
  | .configuration =>
    if given.configuration.isSome then .error (.repeated option.shown)
    else if value.isEmpty then .error (.emptyValue option)
    else .ok { given with configuration := some value }

/-- Take an argument that is no option. -/
def Given.setInput (given : Given) (argument : String) : Except UsageError Given :=
  if given.input.isSome then .error (.unexpectedArgument argument)
  else .ok { given with input := some argument }

/-- What a flag does: it goes on with more given, or it settles what is asked for. -/
def Given.setFlag (given : Given) (flag : Flag) : Except UsageError (Given ⊕ Invocation) :=
  match flag with
  | .identifierFromMetadata =>
    if given.identifierFromMetadata then .error (.repeated flag.shown)
    else .ok (.inl { given with identifierFromMetadata := true })
  | .events =>
    if given.events then .error (.repeated flag.shown)
    else .ok (.inl { given with events := true })
  | .help => .ok (.inr .help)
  | .version => .ok (.inr .version)

/-- How an argument is to be taken. -/
inductive Shape where
  /-- It is no option. -/
  | plain
  /-- Two hyphens: what follows is no option. -/
  | separator
  /-- A long option, perhaps with a value after an equals sign. -/
  | long (name : String) (value : Option String)
  /-- Letters of short options. -/
  | short (letters : List Char)
  deriving DecidableEq

/-- The shape of an argument.  A single hyphen is no option. -/
def Shape.of (argument : String) : Shape :=
  match argument.toList with
  | ['-', '-'] => .separator
  | '-' :: '-' :: rest =>
    let name := rest.takeWhile (· != '=')
    match rest.drop name.length with
    | _ :: value => .long (String.ofList name) (some (String.ofList value))
    | [] => .long (String.ofList name) none
  | '-' :: c :: rest => .short (c :: rest)
  | _ => .plain

/-- What letters of short options come to. -/
inductive Cluster where
  /-- All were flags. -/
  | done (given : Given)
  /-- A flag settled what is asked for. -/
  | settled (invocation : Invocation)
  /-- The last one takes a value, which is the next argument. -/
  | awaiting (given : Given) (option : ValueOption)

/-- Take the letters of short options.  What follows the letter of an option that takes a value is
its value, an equals sign before it apart. -/
def cluster (given : Given) : List Char → Except UsageError Cluster
  | [] => .ok (.done given)
  | letter :: rest =>
    match shortOption? letter with
    | none => .error (.unexpectedArgument (String.ofList ['-', letter]))
    | some (.flag flag) => do
      match ← given.setFlag flag with
      | .inl given => cluster given rest
      | .inr invocation => return .settled invocation
    | some (.valued option) =>
      match rest with
      | [] => .ok (.awaiting given option)
      | '=' :: value => return .done (← given.setValue option (String.ofList value))
      | value => return .done (← given.setValue option (String.ofList value))

/-- Take arguments of which none is an option. -/
def plainArguments (given : Given) (arguments : List String) : Except UsageError Given :=
  arguments.foldlM Given.setInput given

/-- Take arguments.  `awaited` is the option whose value comes next. -/
def understandFrom (given : Given) (awaited : Option ValueOption) :
    List String → Except UsageError Invocation
  | [] =>
    match awaited with
    | some option => .error (.missingValue option)
    | none => .ok (.convert given.request)
  | argument :: rest =>
    match awaited, Shape.of argument with
    | some option, .plain => do
      understandFrom (← given.setValue option argument) none rest
    | some option, _ => .error (.missingValue option)
    | none, .plain => do understandFrom (← given.setInput argument) none rest
    | none, .separator => return .convert (← plainArguments given rest).request
    | none, .long name value =>
      match longOption? name, value with
      | none, _ => .error (.unexpectedArgument argument)
      | some (.flag flag), some value => .error (.unexpectedValue value flag)
      | some (.flag flag), none => do
        match ← given.setFlag flag with
        | .inl given => understandFrom given none rest
        | .inr invocation => return invocation
      | some (.valued option), some value => do
        understandFrom (← given.setValue option value) none rest
      | some (.valued option), none => understandFrom given (some option) rest
    | none, .short letters => do
      match ← cluster given letters with
      | .done given => understandFrom given none rest
      | .settled invocation => return invocation
      | .awaiting given option => understandFrom given (some option) rest

/-- What the arguments of a program ask for. -/
def understand (arguments : List String) : Except UsageError Invocation :=
  understandFrom {} none arguments

/-! ## Running the program -/

/-- The character of a byte in ASCII. -/
def asciiCharacter? (byte : UInt8) : Option Char :=
  if byte < 0x80 then some (Char.ofNat byte.toNat) else none

/-- The program has no tables of the encodings of the scripts of East Asia: it reads their ASCII
characters and nothing else. -/
instance : Encoding.MultiByte where
  decode _ := Encoding.decodeBytes asciiCharacter?

/-- The name of the program and its version. -/
def versionText : String := "md2dita 0.1.0\n"

def usage : String := "Usage: md2dita [OPTIONS] [INPUT]\n"

def helpText : String :=
  "Convert Markdown to a DITA topic\n\n"
    ++ usage
    ++ "\nArguments:\n"
    ++ "  [INPUT]  Input file or file URL ('-' or absent for stdin)\n"
    ++ "\nOptions:\n"
    ++ "  -o, --output <OUTPUT>      Write output to FILE (default stdout)\n"
    ++ "      --encoding <ENCODING>  Character encoding label of the input (default UTF-8)\n"
    ++ "      --id-from-metadata     Use the front-matter \x60id\x60 key as the topic id\n"
    ++ "      --config <CONFIG>      TOML file with serializer options\n"
    ++ "      --events               Write the event stream as JSON lines instead of XML\n"
    ++ "  -h, --help                 Print help\n"
    ++ "  -V, --version              Print version\n"

/-- How a run of the program ends. -/
structure Exit where
  status : UInt8 := 0
  /-- What is written to standard error. -/
  complaint : String := ""
  deriving DecidableEq

/-- The end of a run whose arguments are not understood. -/
def Exit.ofUsageError (error : UsageError) : Exit where
  status := 2
  complaint := "error: " ++ error.message ++ "\n\n" ++ usage
    ++ "\nFor more information, try '--help'.\n"

/-- The end of a run that a failure ended. -/
def Exit.ofFailure (failure : Failure) : Exit := { status := 1, complaint := failure.report }

variable {m : Type → Type} [Monad m]

/-- Write a text to standard output and end the run. -/
def print (surroundings : Surroundings m) (text : String) : m Exit := do
  match ← surroundings.writeOutput (Utf8.bytesOf text) with
  | .ok () => return {}
  | .error cause => return .ofFailure (.output cause)

/-- Run the program. -/
def run (surroundings : Surroundings m) (arguments : List String) : m Exit := do
  match understand arguments with
  | .error error => return .ofUsageError error
  | .ok .help => print surroundings helpText
  | .ok .version => print surroundings versionText
  | .ok (.convert request) =>
    let outcome ← execute surroundings request
    match outcome.result with
    | .ok () => return {}
    | .error failure => return .ofFailure failure

end TopicPress.CommandLine
