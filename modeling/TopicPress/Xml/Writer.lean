import TopicPress.Event.Sink
import TopicPress.Xml.Text

/-!
# The XML writer

A sink that writes events as XML.  The declaration comes before the root element, the class is the
first attribute, and nothing is indented because white space in a topic has a meaning.  A start tag
is held back until something follows it, so that an element without content can be written in its
empty form.  The device that the text goes to may fail; what the writer is left with then is part of
its state.
-/

namespace TopicPress.Xml

/-- Where the text goes.  While a fault is present nothing can be written. -/
structure Device where
  written : String := ""
  fault : Option String := none
  deriving DecidableEq

namespace Device

/-- Write `text`, or say why it cannot be written. -/
def write (device : Device) (text : String) : Except String Device :=
  match device.fault with
  | some fault => .error fault
  | none => .ok { device with written := device.written ++ text }

end Device

/-- A start tag that has not been written yet; its attribute values are fit for XML. -/
structure StartTag where
  name : String
  classValue : String
  attributes : List Attribute
  deriving DecidableEq

namespace StartTag

/-- One attribute with the blank before it. -/
def attributeText (item : Attribute) : String :=
  " " ++ item.name ++ "=\"" ++ escape item.value ++ "\""

/-- Everything between the brackets of the tag. -/
def inner (tag : StartTag) : String :=
  tag.name ++ String.join ((⟨"class", tag.classValue⟩ :: tag.attributes).map attributeText)

/-- The tag of an element with content. -/
def opening (tag : StartTag) : String := "<" ++ tag.inner ++ ">"

/-- The tag of an element without content. -/
def selfClosing (tag : StartTag) : String := "<" ++ tag.inner ++ "/>"

end StartTag

/-- Why the writer refuses an event. -/
inductive WriteError where
  /-- The device failed. -/
  | device (fault : String)
  | unmatchedEnd
  | strayCharacters
  | multipleRoots (name : String)
  | unclosed (name : String)
  | afterEndDocument
  deriving DecidableEq

namespace WriteError

def message : WriteError → String
  | device fault => "I/O error: " ++ fault
  | unmatchedEnd => "End of element with no element open"
  | strayCharacters => "Character data outside the root element"
  | multipleRoots name => "Element <" ++ name ++ "> after the root element was closed"
  | unclosed name => "Document ended with <" ++ name ++ "> still open"
  | afterEndDocument => "Event after end of document"

end WriteError

structure Writer where
  device : Device := {}
  /-- The names of the open elements, innermost first. -/
  openNames : List String := []
  pending : Option StartTag := none
  rootClosed : Bool := false
  finished : Bool := false
  deriving DecidableEq

namespace Writer

def declaration : String := "<?xml version=\"1.0\" encoding=\"UTF-8\"?>"

def closingTag (name : String) : String := "</" ++ name ++ ">"

/-- A refusal that leaves the writer as `writer`. -/
def refuse (writer : Writer) (error : WriteError) (notices : List Notice := []) :
    Receipt Writer WriteError :=
  { state := writer, refusal := some error, notices }

def accept (writer : Writer) (notices : List Notice := []) : Receipt Writer WriteError :=
  { state := writer, notices }

/-- Write to the device and go on with what `next` does. -/
def writeThen (writer : Writer) (text : String) (notices : List Notice)
    (next : Writer → Receipt Writer WriteError) : Receipt Writer WriteError :=
  match writer.device.write text with
  | .ok device => next { writer with device }
  | .error fault => writer.refuse (.device fault) notices

/-- Write the start tag that is held back, if there is one, and go on.  The tag is given up even
when the device fails. -/
def flushThen (writer : Writer) (next : Writer → Receipt Writer WriteError) :
    Receipt Writer WriteError :=
  match writer.pending with
  | some tag => { writer with pending := none }.writeThen tag.opening [] next
  | none => next writer

/-- An attribute with its value mended. -/
def mendAttribute (item : Attribute) : Attribute :=
  { item with value := mend item.value }

/-- One notice for each attribute value that has to be mended. -/
def attributeNotices (attributes : List Attribute) : List Notice :=
  (attributes.filter (fun item => needsMending item.value)).map
    (fun _ => .charactersReplaced)

def startElement (writer : Writer) (name classValue : String) (attributes : List Attribute) :
    Receipt Writer WriteError :=
  if writer.finished then writer.refuse .afterEndDocument
  else if writer.rootClosed then writer.refuse (.multipleRoots name)
  else
    let hold : Writer → Receipt Writer WriteError := fun writer =>
      writer.flushThen fun writer =>
        let tag := ⟨name, classValue, attributes.map mendAttribute⟩
        { writer with pending := some tag, openNames := name :: writer.openNames }.accept
          (.tagOpened name writer.openNames.length :: attributeNotices attributes)
    if writer.openNames.isEmpty then writer.writeThen declaration [] hold else hold writer

def characters (writer : Writer) (text : String) : Receipt Writer WriteError :=
  if writer.finished then writer.refuse .afterEndDocument
  else if writer.openNames.isEmpty then writer.refuse .strayCharacters
  else if text.isEmpty then writer.accept
  else
    writer.flushThen fun writer =>
      let notices := if needsMending text then [Notice.charactersReplaced] else []
      writer.writeThen (escape (mend text)) notices fun writer => writer.accept notices

def endElement (writer : Writer) : Receipt Writer WriteError :=
  if writer.finished then writer.refuse .afterEndDocument
  else
    match writer.openNames with
    | [] => writer.refuse .unmatchedEnd
    | name :: rest =>
      let text := match writer.pending with
        | some tag => tag.selfClosing
        | none => closingTag name
      { writer with openNames := rest, pending := none }.writeThen text [] fun writer =>
        { writer with rootClosed := writer.rootClosed || rest.isEmpty }.accept

def endDocument (writer : Writer) : Receipt Writer WriteError :=
  if writer.finished then writer.refuse .afterEndDocument
  else
    match writer.openNames with
    | name :: _ => writer.refuse (.unclosed name)
    | [] => writer.writeThen "" [] fun writer => { writer with finished := true }.accept

end Writer

/-- The sink that writes XML. -/
def sink : Sink Writer WriteError where
  receive writer
    | .startElement name classValue attributes => writer.startElement name classValue attributes
    | .characters text => writer.characters text
    | .endElement => writer.endElement
    | .endDocument => writer.endDocument

end TopicPress.Xml
