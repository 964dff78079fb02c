import TopicPress.Proofs.PrologOrder
import TopicPress.Proofs.TopicIdentifier

/-!
# What the option for the identifier reaches

Whether the front matter may name the topic is read in several places: at the start of the topic, at
the choice of the plain data and at the notices about it.  Two runs of one document that differ in
this option are compared here.  They come to the same end, and they deliver the same events once the
identifier is taken out of both: the attribute at the start of the topic, and the elements of plain
data for its key.  Without the key in the front matter there is nothing to take out.
-/

namespace TopicPress

open Dita (Element)

/-! ## Leaving out plain data -/

namespace Prolog

/-- How many elements are open, from an element of plain data for `key` on, after an event. -/
def dataDepth (key : String) (depth : Nat) : Event → Nat
  | .startElement name classValue attributes =>
    if depth = 0 ∧ dataText? key (.startElement name classValue attributes) = none then 0
    else depth + 1
  | .endElement => depth - 1
  | .characters _ => depth
  | .endDocument => depth

/-- The events outside the elements of plain data for `key`, where `depth` elements are open from
such an element on. -/
def withoutData (key : String) (depth : Nat) : List Event → List Event
  | [] => []
  | event :: rest =>
    if depth = 0 ∧ dataDepth key depth event = 0 then
      event :: withoutData key (dataDepth key depth event) rest
    else withoutData key (dataDepth key depth event) rest

theorem withoutData_characters (key text : String) (rest : List Event) :
    withoutData key 0 (.characters text :: rest) = .characters text :: withoutData key 0 rest := rfl

theorem withoutData_end (key : String) (rest : List Event) :
    withoutData key 0 (.endElement :: rest) = .endElement :: withoutData key 0 rest := rfl

theorem withoutData_start {key name classValue : String} {attributes : List Attribute}
    (other : dataText? key (.startElement name classValue attributes) = none) (rest : List Event) :
    withoutData key 0 (.startElement name classValue attributes :: rest) =
      .startElement name classValue attributes :: withoutData key 0 rest := by
  have outside : dataDepth key 0 (.startElement name classValue attributes) = 0 :=
    if_pos ⟨rfl, other⟩
  rw [withoutData, outside, if_pos ⟨rfl, rfl⟩]

theorem withoutData_start_of_ne {element : Element} (other : element.name ≠ Element.data.name)
    (key : String) (attributes : List Attribute) (rest : List Event) :
    withoutData key 0 (.start element attributes :: rest) =
      .start element attributes :: withoutData key 0 rest :=
  withoutData_start (if_neg (fun both => other both.1)) rest

/-- Nothing is left of trees within an element that is left out. -/
theorem withoutData_within (key : String) (forest : List EventTree) :
    ∀ depth rest, withoutData key (depth + 1) (EventTree.eventsAll forest ++ rest) =
      withoutData key (depth + 1) rest := by
  induction forest using EventTree.forestInduction with
  | nil =>
      intro depth rest
      rfl
  | characters text later inLater =>
      intro depth rest
      exact inLater depth rest
  | element name classValue attributes children later inChildren inLater =>
      intro depth rest
      have started : dataDepth key (depth + 1) (.startElement name classValue attributes) =
          depth + 1 + 1 := by
        simp [dataDepth]
      have ended : dataDepth key (depth + 1 + 1) .endElement = depth + 1 := rfl
      rw [EventTree.eventsAll_cons, EventTree.events_element, List.append_assoc, List.cons_append,
        withoutData, started, if_neg (fun both => Nat.succ_ne_zero _ both.2), List.append_assoc,
        inChildren, List.singleton_append, withoutData, ended,
        if_neg (fun both => Nat.succ_ne_zero _ both.2), inLater]

/-- An element of plain data for `key` is left out as a whole. -/
theorem withoutData_element {key name classValue : String} {attributes : List Attribute}
    (ofKey : dataText? key (.startElement name classValue attributes) ≠ none)
    (children : List EventTree) (rest : List Event) :
    withoutData key 0
        ((EventTree.element name classValue attributes children).events ++ rest) =
      withoutData key 0 rest := by
  have started : dataDepth key 0 (.startElement name classValue attributes) = 1 :=
    if_neg (fun both => ofKey both.2)
  have ended : dataDepth key 1 .endElement = 0 := rfl
  rw [EventTree.events_element, List.cons_append, List.append_assoc, withoutData, started,
    if_neg (fun both => Nat.succ_ne_zero _ both.2), withoutData_within, List.singleton_append,
    withoutData, ended, if_neg (fun both => Nat.succ_ne_zero _ both.1)]

/-- Leaving out elements within trees does not touch what follows them. -/
theorem withoutData_eventsAll (key : String) (forest : List EventTree) :
    ∀ rest, withoutData key 0 (EventTree.eventsAll forest ++ rest) =
      withoutData key 0 (EventTree.eventsAll forest) ++ withoutData key 0 rest := by
  induction forest using EventTree.forestInduction with
  | nil =>
      intro rest
      rfl
  | characters text later inLater =>
      intro rest
      rw [EventTree.eventsAll_cons, EventTree.events_characters, List.append_assoc,
        List.singleton_append, List.singleton_append, withoutData_characters,
        withoutData_characters, inLater, List.cons_append]
  | element name classValue attributes children later inChildren inLater =>
      intro rest
      by_cases other : dataText? key (.startElement name classValue attributes) = none
      · rw [EventTree.eventsAll_cons, EventTree.events_element]
        simp only [List.append_assoc, List.cons_append, List.nil_append, withoutData_start other,
          inChildren (.endElement :: _), withoutData_end, inLater rest]
      · rw [EventTree.eventsAll_cons, List.append_assoc, withoutData_element other,
          withoutData_element other, inLater]

theorem withoutData_dataElement (key other : String) (value : MetaValue) (rest : List Event) :
    withoutData key 0 (dataElement other value ++ rest) =
      (if other = key then [] else dataElement other value) ++ withoutData key 0 rest := by
  by_cases same : other = key
  · have ofKey : dataText? key (.start .data [⟨"name", other⟩, ⟨"value", value.asText⟩]) ≠ none := by
      simp [dataText?, Event.start, attributeValue?, same]
    rw [if_pos same, ← events_dataTree]
    exact withoutData_element ofKey [] rest
  · have notOfKey : dataText? key (.start .data [⟨"name", other⟩, ⟨"value", value.asText⟩]) =
        none := by
      simp [dataText?, Event.start, attributeValue?, same]
    rw [if_neg same]
    exact withoutData_start notOfKey (.endElement :: rest)

/-- The values of an entry are left out together, or not at all. -/
theorem withoutData_values (key other : String) (values : List MetaValue) (rest : List Event) :
    withoutData key 0 (values.flatMap (dataElement other) ++ rest) =
      (if other = key then [] else values.flatMap (dataElement other))
        ++ withoutData key 0 rest := by
  induction values with
  | nil => simp
  | cons value later inductionHypothesis =>
      rw [List.flatMap_cons, List.append_assoc, withoutData_dataElement, inductionHypothesis]
      by_cases same : other = key
      · simp [same]
      · simp [same]

/-- Whether entries of `key` are chosen makes no difference when they are left out. -/
theorem withoutData_entries {key : String} {first second : String → Bool}
    (agree : ∀ other, other ≠ key → first other = second other) (entries : List FrontMatter.Entry)
    (rest : List Event) :
    withoutData key 0 ((entries.filter (fun entry => first entry.1)).flatMap
        (fun entry => entry.2.flatMap (dataElement entry.1)) ++ rest) =
      withoutData key 0 ((entries.filter (fun entry => second entry.1)).flatMap
        (fun entry => entry.2.flatMap (dataElement entry.1)) ++ rest) := by
  induction entries with
  | nil => rfl
  | cons entry later inductionHypothesis =>
      rw [List.filter_cons, List.filter_cons]
      by_cases same : entry.1 = key
      · -- The values are left out, or they are not there.
        have leftOut : ∀ more, withoutData key 0
            (entry.2.flatMap (dataElement entry.1) ++ more) = withoutData key 0 more := by
          intro more
          rw [withoutData_values, if_pos same, List.nil_append]
        cases first entry.1 <;> cases second entry.1 <;>
          simp only [Bool.false_eq_true, if_false, if_true, List.flatMap_cons, List.append_assoc,
            leftOut, inductionHypothesis]
      · rw [agree entry.1 same]
        split
        · rw [List.flatMap_cons, List.flatMap_cons, List.append_assoc, List.append_assoc,
            withoutData_values, withoutData_values, inductionHypothesis]
        · exact inductionHypothesis

/-! ## Other keys -/

/-- The options say nothing about any other key. -/
theorem isKnown_of_ne {key : String} (other : key ≠ identifierKey) (first second : RenderOptions) :
    isKnown first key = isKnown second key := by
  rw [isKnown, isKnown, beq_eq_false_iff_ne.mpr other, Bool.and_false, Bool.and_false]

theorem isDemoted_of_ne {key : String} (other : key ≠ identifierKey)
    (first second : RenderOptions) (header : FrontMatter) :
    isDemoted first header key = isDemoted second header key := by
  rw [isDemoted, isDemoted, isKnown_of_ne other first second]

/-- Of a prolog without the plain data of the identifier, the options change nothing. -/
theorem withoutData_events (first second : RenderOptions) (header : FrontMatter)
    (rest : List Event) :
    withoutData identifierKey 0 (events first header ++ rest) =
      withoutData identifierKey 0 (events second header ++ rest) := by
  have structural : ∃ fixed, ∀ options, trees options header = fixed ++ dataTrees options header :=
    ⟨_, fun _ => rfl⟩
  rcases structural with ⟨fixed, divided⟩
  have delivered : ∀ options, events options header ++ rest =
      EventTree.eventsAll fixed ++ (plainData options header ++ rest) := by
    intro options
    rw [← eventsAll_trees, divided, EventTree.eventsAll_append, eventsAll_dataTrees,
      List.append_assoc]
  have agree : ∀ key, key ≠ identifierKey →
      (!isKnown first key || isDemoted first header key) =
        (!isKnown second key || isDemoted second header key) := by
    intro key other
    rw [isKnown_of_ne other first second, isDemoted_of_ne other first second]
  rw [delivered, delivered, withoutData_eventsAll, withoutData_eventsAll identifierKey fixed,
    plainData, plainData]
  exact congrArg _ (withoutData_entries agree header.entries rest)

section WithoutIdentifier

variable {header : FrontMatter} (absent : header.get? identifierKey = none)

include absent

theorem key_ne_of_absent {entry : FrontMatter.Entry} (member : entry ∈ header.entries) :
    entry.1 ≠ identifierKey := by
  intro same
  have present := FrontMatter.get?_of_mem member
  rw [same, absent] at present
  cases present

theorem events_of_absent (first second : RenderOptions) :
    events first header = events second header := by
  have chosen : plainData first header = plainData second header := by
    rw [plainData, plainData]
    congr 1
    apply List.filter_congr
    intro entry member
    have other := key_ne_of_absent absent member
    rw [isKnown_of_ne other first second, isDemoted_of_ne other first second]
  rw [events, events, chosen]

theorem notices_of_absent (first second : RenderOptions) :
    notices first header = notices second header := by
  rw [notices, notices]
  congr 1
  apply List.filter_congr
  intro entry member
  exact isDemoted_of_ne (key_ne_of_absent absent member) first second header

end WithoutIdentifier

end Prolog

/-! ## Two runs -/

/-- The start of a topic without its identifier; any other event is left as it is. -/
def Event.withoutTopicId : Event → Event
  | .startElement name classValue attributes =>
    .startElement name classValue
      (if name = "topic" then attributes.filter (fun item => item.name != "id") else attributes)
  | event => event

/-- Events without the identifier at the start of the topic and without the elements of plain data
that are named for its key. -/
def withoutIdentifier (events : List Event) : List Event :=
  (Prolog.withoutData Prolog.identifierKey 0 events).map Event.withoutTopicId

namespace Document

/-- At the start of the topic there is nothing but the identifier. -/
theorem withoutIdentifier_start_topic (options : RenderOptions) (document : Document)
    (content : List Event) :
    withoutIdentifier (.start .topic (document.topicAttributes options) :: content) =
      .start .topic [] :: withoutIdentifier content := by
  have bare : Event.withoutTopicId (.start .topic (document.topicAttributes options)) =
      .start .topic [] := by
    rw [topicAttributes]
    cases document.topicId? options <;> rfl
  have kept : Prolog.withoutData Prolog.identifierKey 0
      (.start .topic (document.topicAttributes options) :: content) =
        .start .topic (document.topicAttributes options) ::
          Prolog.withoutData Prolog.identifierKey 0 content :=
    Prolog.withoutData_start_of_ne (by decide) _ _ content
  rw [withoutIdentifier, kept, List.map_cons, bare, withoutIdentifier]

theorem withoutData_prologTrees (first second : RenderOptions) (document : Document)
    (rest : List Event) :
    Prolog.withoutData Prolog.identifierKey 0
        (EventTree.eventsAll (document.prologTrees first) ++ rest) =
      Prolog.withoutData Prolog.identifierKey 0
        (EventTree.eventsAll (document.prologTrees second) ++ rest) := by
  rw [prologTrees, prologTrees]
  cases document.frontMatter? with
  | none => rfl
  | some header =>
      have started : ∀ content, Prolog.withoutData Prolog.identifierKey 0
          (.start .prolog [] :: content) =
            .start .prolog [] :: Prolog.withoutData Prolog.identifierKey 0 content :=
        Prolog.withoutData_start_of_ne (by decide) _ _
      simp only [EventTree.eventsAll_cons, EventTree.eventsAll_nil, EventTree.events_of,
        Prolog.eventsAll_trees, List.append_nil, List.append_assoc, List.cons_append, started]
      exact congrArg _ (Prolog.withoutData_events first second header _)

/-- But for the identifier, a document delivers the same events with all options, whether it fails
or not. -/
theorem withoutIdentifier_render (first second : RenderOptions) (document : Document) :
    withoutIdentifier (document.render first).events =
      withoutIdentifier (document.render second).events := by
  cases outcome : (document.renderTopicTitle [Element.topic.name]).failure with
  | some context =>
      rw [events_render_of_title_failed outcome, events_render_of_title_failed outcome,
        withoutIdentifier_start_topic, withoutIdentifier_start_topic]
  | none =>
      rcases events_render_of_title outcome with ⟨later, _, delivered⟩
      have title := Prolog.withoutData_eventsAll Prolog.identifierKey [document.topicTitleTree]
      rw [EventTree.eventsAll_cons, EventTree.eventsAll_nil, List.append_nil] at title
      rw [delivered, delivered, withoutIdentifier_start_topic, withoutIdentifier_start_topic,
        withoutIdentifier, withoutIdentifier, title, title,
        document.withoutData_prologTrees first second later]

/-- Without the key in the front matter, the option changes nothing at all. -/
theorem render_of_absent {document : Document}
    (absent : ∀ header ∈ document.frontMatter?, header.get? Prolog.identifierKey = none)
    (first second : RenderOptions) : document.render first = document.render second := by
  have prolog : ∀ path, document.renderTopicProlog first path =
      document.renderTopicProlog second path := by
    intro path
    rw [renderTopicProlog, renderTopicProlog]
    cases given : document.frontMatter? with
    | none => rfl
    | some header =>
        have withoutKey := absent header given
        simp only [renderProlog, Prolog.events_of_absent withoutKey first second,
          Prolog.notices_of_absent withoutKey first second]
  have identifier : document.topicId? first = document.topicId? second := by
    have unnamed : ∀ options, document.metadataId? options = none := by
      intro options
      rw [metadataId?]
      cases given : document.frontMatter? with
      | none => exact ite_self none
      | some header =>
          rw [Option.bind_some, FrontMatter.firstScalar?, absent header given]
          exact ite_self none
    rw [topicId?, topicId?, unnamed, unnamed]
  rw [render, render, identifier, prolog]

/-- Two runs of a document that differ in the options come to the same end, and the events of both
are the same without the identifier.  If the front matter of the topic does not have the key, the
runs do not differ. -/
theorem recordings_agree_but_for_identifier (document : Document) (first second : RenderOptions) :
    (document.recorded first).result = (document.recorded second).result ∧
      withoutIdentifier (document.recorded first).state.toList =
        withoutIdentifier (document.recorded second).state.toList ∧
      ((∀ header ∈ document.frontMatter?, header.get? Prolog.identifierKey = none) →
        document.recorded first = document.recorded second) := by
  refine ⟨?_, ?_, ?_⟩
  · rw [recorded_eq_play, recorded_eq_play, Sink.play_recording_result,
      Sink.play_recording_result, failure_render_eq_findSome, failure_render_eq_findSome]
  · rw [recorded_eq_play, recorded_eq_play, Sink.play_recording_state,
      Sink.play_recording_state]
    exact document.withoutIdentifier_render first second
  · intro absent
    rw [recorded_eq_play, recorded_eq_play, render_of_absent absent first second]

/-- One key names the topic or is plain data; another key is plain data in any case. -/
theorem recordings_agree_on_introduction :
    let heading : Node := { kind := .heading 1, children := [{ kind := .text "Start" }] }
    let other : FrontMatter.Entry := ("lang", [.scalar "en"])
    let named : Document :=
      { children := [heading,
          { kind := .frontMatter (FrontMatter.ofList [("id", [.scalar "intro"]), other]) }] }
    let unnamed : Document :=
      { children := [heading, { kind := .frontMatter (FrontMatter.ofList [other]) }] }
    let enabled : RenderOptions := { identifierFromMetadata := true }
    (named.recorded enabled).state ≠ (named.recorded {}).state ∧
      withoutIdentifier (named.recorded enabled).state.toList =
        withoutIdentifier (named.recorded {}).state.toList ∧
      unnamed.recorded enabled = unnamed.recorded {} := by
  intro heading other named unnamed enabled
  have absent : ∀ header ∈ unnamed.frontMatter?, header.get? Prolog.identifierKey = none := by
    rintro header ⟨⟩
    rfl
  exact ⟨by decide +kernel, (named.recordings_agree_but_for_identifier enabled {}).2.1,
    (unnamed.recordings_agree_but_for_identifier enabled {}).2.2 absent⟩

end Document

end TopicPress
