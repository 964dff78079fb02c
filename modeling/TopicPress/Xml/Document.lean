import TopicPress.Topic.Serialize
import TopicPress.Xml.Writer

/-!
# Documents as XML

A document is written as XML by carrying out its rendering with the XML writer.
-/

namespace TopicPress.Xml

/-- Render a document as XML to a device. -/
def render (options : RenderOptions) (document : Document) (device : Device) :
    Sink.Played Writer WriteError :=
  sink.play { device } (document.render options)

/-- The XML text of a document, or why there is none. -/
def ofDocument (options : RenderOptions) (document : Document) :
    Except (RenderError WriteError) String :=
  let played := render options document {}
  match played.result with
  | .ok () => .ok played.state.device.written
  | .error error => .error error

end TopicPress.Xml
