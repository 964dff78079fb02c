import TopicPress.Proofs.PrologReading
import TopicPress.Proofs.Reaching
import TopicPress.Proofs.Receiving
import TopicPress.Proofs.Vocabulary

/-!
# The identifier of a topic and its prolog

The options may let the front matter name the topic.  Two parts of the rendering then look at the
same key: the start of the topic takes the first value, whatever the others are, and the prolog
leaves the key out unless one of its values is structured.  They agree on every front matter without
a structured value for the key.  With one, the identifier is given twice: at the start of the topic
and among the plain data.
-/

namespace TopicPress

open Dita (Element)

/-! ## Inside the prolog -/

/-- How many elements are open from a prolog on after an event, where `depth` of them were open
before. -/
def prologDepth (depth : Nat) : Event → Nat
  | .startElement name _ _ => if depth = 0 ∧ name ≠ Element.prolog.name then 0 else depth + 1
  | .endElement => depth - 1
  | .characters _ => depth
  | .endDocument => depth

/-- The events between the start of a prolog and its end, where `depth` elements are open from a
prolog on.  A prolog that is not closed goes on to the end of the events. -/
def insideProlog (depth : Nat) : List Event → List Event
  | [] => []
  | event :: rest =>
    if depth ≠ 0 ∧ prologDepth depth event ≠ 0 then
      event :: insideProlog (prologDepth depth event) rest
    else insideProlog (prologDepth depth event) rest

theorem insideProlog_prefix {begun : List Event} :
    ∀ {depth : Nat} {events : List Event}, begun <+: events →
      insideProlog depth begun <+: insideProlog depth events := by
  induction begun with
  | nil =>
      intro depth events isBeginning
      exact List.nil_prefix
  | cons event rest inductionHypothesis =>
      intro depth events isBeginning
      rcases List.cons_prefix_iff.mp isBeginning with ⟨later, rfl, inside⟩
      rw [insideProlog, insideProlog]
      split
      · exact (List.prefix_cons_inj event).mpr (inductionHypothesis inside)
      · exact inductionHypothesis inside

namespace EventTree

theorem insideProlog_within (forest : List EventTree) :
    ∀ depth rest, insideProlog (depth + 1) (eventsAll forest ++ rest) =
      eventsAll forest ++ insideProlog (depth + 1) rest := by
  induction forest using forestInduction with
  | nil =>
      intro depth rest
      rfl
  | characters text later inLater =>
      intro depth rest
      rw [eventsAll_cons, events_characters, List.append_assoc, List.singleton_append, insideProlog,
        prologDepth, if_pos ⟨Nat.succ_ne_zero depth, Nat.succ_ne_zero depth⟩, inLater]
      rfl
  | element name classValue attributes children later inChildren inLater =>
      intro depth rest
      have started : prologDepth (depth + 1) (.startElement name classValue attributes) =
          depth + 1 + 1 := by
        simp [prologDepth]
      have ended : prologDepth (depth + 1 + 1) .endElement = depth + 1 := rfl
      rw [eventsAll_cons, events_element, List.append_assoc, List.cons_append, insideProlog,
        started, if_pos ⟨Nat.succ_ne_zero depth, Nat.succ_ne_zero _⟩, List.append_assoc,
        inChildren, List.singleton_append, insideProlog, ended,
        if_pos ⟨Nat.succ_ne_zero _, Nat.succ_ne_zero depth⟩, inLater]
      simp

/-- Trees without a prolog among them have nothing inside one. -/
theorem insideProlog_outside {elements : List Element}
    (noProlog : ∀ element ∈ elements, element.name ≠ Element.prolog.name) (forest : List EventTree) :
    MadeOf elements forest →
      ∀ rest, insideProlog 0 (eventsAll forest ++ rest) = insideProlog 0 rest := by
  induction forest using forestInduction with
  | nil =>
      intro made rest
      rfl
  | characters text later inLater =>
      intro made rest
      have laterMade : MadeOf elements later := by
        intro name classValue attributes member
        exact made name classValue attributes (List.mem_append_right _ member)
      rw [eventsAll_cons, events_characters, List.append_assoc, List.singleton_append, insideProlog,
        if_neg (fun both => both.1 rfl)]
      exact inLater laterMade rest
  | element name classValue attributes children later inChildren inLater =>
      intro made rest
      have laterMade : MadeOf elements later := by
        intro other otherClass given member
        exact made other otherClass given (List.mem_append_right _ member)
      have childrenMade : MadeOf elements children := by
        intro other otherClass given member
        apply made other otherClass given
        rw [eventsAll_cons, events_element]
        simp [member]
      have known : name ≠ Element.prolog.name := by
        apply noProlog ⟨name, classValue⟩
        apply (made name classValue attributes _).1
        rw [eventsAll_cons, events_element]
        simp
      have started : prologDepth 0 (.startElement name classValue attributes) = 0 :=
        if_pos ⟨rfl, known⟩
      rw [eventsAll_cons, events_element, List.append_assoc, List.cons_append, insideProlog,
        started, if_neg (fun both => both.1 rfl), List.append_assoc, inChildren childrenMade,
        List.singleton_append, insideProlog, if_neg (fun both => both.1 rfl)]
      exact inLater laterMade rest

end EventTree

theorem insideProlog_of_prolog (content : List EventTree) (rest : List Event) :
    insideProlog 0 ((EventTree.of .prolog [] content).events ++ rest) =
      EventTree.eventsAll content ++ insideProlog 0 rest := by
  have started : prologDepth 0 (.start .prolog []) = 1 := rfl
  have ended : prologDepth 1 .endElement = 0 := rfl
  rw [EventTree.events_of, List.cons_append, List.append_assoc, insideProlog, started,
    if_neg (fun both => both.1 rfl), EventTree.insideProlog_within, List.singleton_append,
    insideProlog, ended, if_neg (fun both => both.2 rfl)]

/-! ## Plain data for a key -/

namespace Prolog

/-- The text of an event that begins plain data for `key`. -/
def dataText? (key : String) : Event → Option String
  | .startElement name _ attributes =>
    if name = Element.data.name ∧ attributeValue? "name" attributes = some key then
      some ((attributeValue? "value" attributes).getD "")
    else none
  | _ => none

/-- The texts that stand as plain data for `key`, in their order. -/
def dataTexts (key : String) (events : List Event) : List String :=
  events.filterMap (dataText? key)

theorem dataTexts_append (key : String) (first second : List Event) :
    dataTexts key (first ++ second) = dataTexts key first ++ dataTexts key second :=
  List.filterMap_append

theorem dataTexts_start {element : Element} (other : element.name ≠ Element.data.name)
    (key : String) (attributes : List Attribute) (rest : List Event) :
    dataTexts key (.start element attributes :: rest) = dataTexts key rest :=
  List.filterMap_cons_none (if_neg (fun both => other both.1))

theorem dataTexts_flatMap {Item : Type} (key : String) (items : List Item)
    (written : Item → List Event) :
    dataTexts key (items.flatMap written) =
      items.flatMap (fun item => dataTexts key (written item)) :=
  List.filterMap_flatMap

theorem dataTexts_texts (header : FrontMatter) {element : Element}
    (other : element.name ≠ Element.data.name) (key : String) :
    dataTexts key (texts header element) = [] := by
  rw [texts, dataTexts_flatMap, List.flatMap_eq_nil_iff]
  intro value _
  rw [textElement, dataTexts_start other]
  split <;> rfl

theorem dataTexts_attributes (header : FrontMatter) {element : Element}
    (other : element.name ≠ Element.data.name) (name key : String) :
    dataTexts key (attributes header element name) = [] := by
  rw [attributes, dataTexts_flatMap, List.flatMap_eq_nil_iff]
  intro value _
  rw [attributeElement, dataTexts_start other]
  rfl

theorem dataTexts_keywordGroup (header : FrontMatter) (key : String) :
    dataTexts key (keywordGroup header) = [] := by
  rw [keywordGroup]
  split
  · rw [dataTexts_start (by decide), dataTexts_append, dataTexts_texts header (by decide)]
    rfl
  · rfl

theorem dataTexts_metadataGroup (header : FrontMatter) (key : String) :
    dataTexts key (metadataGroup header) = [] := by
  rw [metadataGroup]
  split
  · rw [dataTexts_start (by decide), dataTexts_append, dataTexts_append, dataTexts_append,
      dataTexts_attributes header (by decide), dataTexts_texts header (by decide),
      dataTexts_keywordGroup]
    rfl
  · rfl

theorem dataTexts_dataElement (key other : String) (value : MetaValue) :
    dataTexts key (dataElement other value) = if other = key then [value.asText] else [] := by
  by_cases same : other = key <;>
    simp [dataTexts, dataText?, dataElement, Event.start, attributeValue?, same]

/-- The events of plain data give the same texts as the readings of its trees. -/
theorem dataTexts_plainData (options : RenderOptions) (header : FrontMatter) (key : String) :
    dataTexts key (plainData options header) = textsOf key (dataReadings options header) := by
  rw [plainData, dataReadings, textsOf_flatMap, dataTexts_flatMap]
  congr 1
  funext entry
  rw [dataTexts_flatMap, textsOf_map]
  simp only [dataTexts_dataElement]
  split
  · exact List.map_eq_flatMap.symm
  · exact List.flatMap_eq_nil_iff.mpr (fun _ _ => rfl)

/-- Plain data has all values of a key that is not known or has a structured value, and no value of
any other key. -/
theorem dataTexts_events (options : RenderOptions) (header : FrontMatter) (key : String) :
    dataTexts key (events options header) =
      if !isKnown options key || isDemoted options header key then
        (valuesOf header key).map MetaValue.asText
      else [] := by
  rw [events, dataTexts_append, dataTexts_append, dataTexts_append, dataTexts_append,
    dataTexts_append, dataTexts_append, dataTexts_texts header (by decide),
    dataTexts_texts header (by decide), dataTexts_texts header (by decide),
    dataTexts_attributes header (by decide), dataTexts_metadataGroup,
    dataTexts_attributes header (by decide), dataTexts_plainData, textsOf_dataReadings]
  rfl

/-- The key that names the topic is plain data if one of its values is structured. -/
theorem dataTexts_identifier {options : RenderOptions}
    (enabled : options.identifierFromMetadata = true) (header : FrontMatter) :
    dataTexts identifierKey (events options header) =
      if ∃ value ∈ valuesOf header identifierKey, value.isStructured = true then
        (valuesOf header identifierKey).map MetaValue.asText
      else [] := by
  have known : isKnown options identifierKey = true := by
    rw [isKnown_eq, enabled]
    exact Bool.or_true _
  rw [dataTexts_events, isDemoted_eq, known, Bool.not_true, Bool.false_or, Bool.true_and]
  simp only [List.any_eq_true]

end Prolog

/-! ## Documents -/

namespace Document

theorem topicAttributes_of_metadata {options : RenderOptions} {document : Document}
    {header : FrontMatter} {id : String} (enabled : options.identifierFromMetadata = true)
    (given : document.frontMatter? = some header)
    (named : header.firstScalar? Prolog.identifierKey = some id) :
    document.topicAttributes options = [⟨"id", id⟩] := by
  have chosen : document.topicId? options = some id := by
    rw [topicId?, metadataId?, if_pos enabled, given, Option.bind_some, named]
    rfl
  rw [topicAttributes, chosen]

theorem head?_render (options : RenderOptions) (document : Document) :
    (document.render options).events.head? =
      some (.start .topic (document.topicAttributes options)) := by
  cases outcome : (document.render options).failure with
  | none =>
      rw [events_render_of_success outcome]
      rfl
  | some context =>
      rw [events_render_of_failed outcome]
      rfl

/-- A document whose title fails delivers nothing but a beginning of the title. -/
theorem events_render_of_title_failed {options : RenderOptions} {document : Document}
    {context : NodeContext}
    (failed : (document.renderTopicTitle [Element.topic.name]).failure = some context) :
    (document.render options).events =
      .start .topic (document.topicAttributes options) ::
        (document.renderTopicTitle [Element.topic.name]).events := by
  have stopped : document.renderContent options [Element.topic.name] =
      document.renderTopicTitle [Element.topic.name] := Rendering.andThen_of_failure failed _
  have outcome : (document.render options).failure = some context := by
    rw [failure_render, stopped, failed]
  rw [events_render_of_failed outcome, stopped]

/-- A document whose title does not fail delivers the title and the prolog as a whole.  What follows
them is the same for all options. -/
theorem events_render_of_title {document : Document}
    (succeeded : (document.renderTopicTitle [Element.topic.name]).failure = none) :
    ∃ later, later <+: EventTree.eventsAll document.bodyTrees ++ [.endElement, .endDocument] ∧
      ∀ options, (document.render options).events =
        .start .topic (document.topicAttributes options) ::
          (document.topicTitleTree.events ++
            (EventTree.eventsAll (document.prologTrees options) ++ later)) := by
  cases outcome : document.reached.findSome? (Reached.failure? document.displayName) with
  | none =>
      refine ⟨_, List.prefix_refl _, ?_⟩
      intro options
      have complete := (document.failure_render_eq_findSome options).trans outcome
      rw [events_render_of_success complete, topicTree, EventTree.events_of, topicContent]
      simp
  | some context =>
      let inner := [Element.topic.name]
      have title := (document.renderTopicTitle_yields inner).complete succeeded
      have body := (Rendering.Yields.sequence_cons (document.renderTopicBody_yields inner)
        Rendering.yields_sequence_nil).begun
      rw [List.append_nil] at body
      refine ⟨_, body.trans (List.prefix_append _ _), ?_⟩
      intro options
      have failed := (document.failure_render_eq_findSome options).trans outcome
      have prologSucceeded := document.failure_renderTopicProlog options inner
      have prolog := (document.renderTopicProlog_yields options inner).complete prologSucceeded
      rw [events_render_of_failed failed, renderContent, Rendering.sequence, List.foldr_cons,
        List.foldr_cons, Rendering.events_andThen_of_success succeeded,
        Rendering.events_andThen_of_success prologSucceeded, title, prolog]
      rfl

theorem bodyVocabulary_noProlog :
    ∀ element ∈ Element.bodyVocabulary, element.name ≠ Element.prolog.name := by
  decide

theorem insideProlog_title (document : Document) (rest : List Event) :
    insideProlog 0 (document.topicTitleTree.events ++ rest) = insideProlog 0 rest := by
  have made := document.topicTitleTree_madeOf.widen Element.contentVocabulary_subset_bodyVocabulary
  have outside := EventTree.insideProlog_outside bodyVocabulary_noProlog _ made rest
  rwa [EventTree.eventsAll_cons, EventTree.eventsAll_nil, List.append_nil] at outside

theorem insideProlog_body (document : Document) (rest : List Event) :
    insideProlog 0 (EventTree.eventsAll document.bodyTrees ++ rest) = insideProlog 0 rest :=
  EventTree.insideProlog_outside bodyVocabulary_noProlog _ document.bodyTrees_madeOf rest

theorem start_prolog_not_mem_title {document : Document} {begun : List Event}
    (beginning : begun <+: document.topicTitleTree.events) : .start .prolog [] ∉ begun := by
  intro member
  have inTitle := beginning.subset member
  rw [← List.append_nil document.topicTitleTree.events, ← EventTree.eventsAll_nil,
    ← EventTree.eventsAll_cons] at inTitle
  have known := (document.topicTitleTree_madeOf _ _ _ inTitle).1
  exact absurd known (by decide)

/-- What is delivered inside the prolog is all of it, unless the prolog is not delivered at all. -/
theorem insideProlog_render {options : RenderOptions} {document : Document} {header : FrontMatter}
    (given : document.frontMatter? = some header) :
    insideProlog 0 (document.render options).events =
      if .start .prolog [] ∈ (document.render options).events then Prolog.events options header
      else [] := by
  have started : ∀ rest, insideProlog 0
      (.start .topic (document.topicAttributes options) :: rest) = insideProlog 0 rest :=
    fun _ => rfl
  cases outcome : (document.renderTopicTitle [Element.topic.name]).failure with
  | some context =>
      have begun := (document.renderTopicTitle_yields [Element.topic.name]).begun
      have absent : .start .prolog [] ∉ Event.start .topic (document.topicAttributes options) ::
          (document.renderTopicTitle [Element.topic.name]).events := by
        rw [List.mem_cons, not_or]
        refine ⟨?_, start_prolog_not_mem_title begun⟩
        intro same
        injection same with names
        exact absurd names (by decide)
      have inside : insideProlog 0 _ <+: insideProlog 0 _ :=
        insideProlog_prefix (begun.trans (List.prefix_append _ []))
      rw [insideProlog_title] at inside
      rw [events_render_of_title_failed outcome, if_neg absent, started]
      exact List.prefix_nil.mp inside
  | none =>
      rcases events_render_of_title outcome with ⟨later, beginning, delivered⟩
      have present : .start .prolog [] ∈ (document.render options).events := by
        rw [delivered, prologTrees, given]
        simp
      have after : insideProlog 0 _ <+: insideProlog 0 _ := insideProlog_prefix beginning
      rw [insideProlog_body] at after
      rw [if_pos present, delivered, started, insideProlog_title, prologTrees, given,
        EventTree.eventsAll_cons, EventTree.eventsAll_nil, List.append_nil, insideProlog_of_prolog,
        Prolog.eventsAll_trees, List.prefix_nil.mp after, List.append_nil]

/-- A topic that the front matter names starts with that identifier.  Once the prolog is delivered,
the values of the key are given a second time, as plain data, if one of them is structured, and
otherwise they are not. -/
theorem identifier_repeated_iff_structured (options : RenderOptions) (document : Document)
    {header : FrontMatter} {id : String} (enabled : options.identifierFromMetadata = true)
    (given : document.frontMatter? = some header)
    (named : header.firstScalar? Prolog.identifierKey = some id) :
    let delivered := (document.recorded options).state.toList
    let values := Prolog.valuesOf header Prolog.identifierKey
    delivered.head? = some (.start .topic [⟨"id", id⟩]) ∧
      ((document.recorded options).result = .ok () → .start .prolog [] ∈ delivered) ∧
      Prolog.dataTexts Prolog.identifierKey (insideProlog 0 delivered) =
        if .start .prolog [] ∈ delivered ∧ ∃ value ∈ values, value.isStructured = true then
          values.map MetaValue.asText
        else [] := by
  intro delivered values
  have kept : delivered = (document.render options).events := by
    rw [← Sink.play_recording_state, ← recorded_eq_play]
  refine ⟨?_, ?_, ?_⟩
  · rw [kept, head?_render, topicAttributes_of_metadata enabled given named]
  · intro succeeded
    rw [recorded_eq_play, Sink.play_recording_result] at succeeded
    have complete : (document.render options).failure = none := by
      cases outcome : (document.render options).failure with
      | none => rfl
      | some context =>
          rw [outcome] at succeeded
          cases succeeded
    rw [kept, events_render_of_success complete, topicTree, topicContent, prologTrees, given]
    simp
  · rw [kept, insideProlog_render given]
    by_cases begun : .start .prolog [] ∈ (document.render options).events
    · rw [if_pos begun, Prolog.dataTexts_identifier enabled]
      simp only [begun, true_and]
      rfl
    · rw [if_neg begun, if_neg (fun both => begun both.1)]
      rfl

/-- Without a structured value the key is used for the topic alone. -/
theorem identifier_of_scalars_not_repeated :
    let header := FrontMatter.ofList [("id", [.scalar "intro", .null, .scalar "other"])]
    let document : Document := { children := [{ kind := .frontMatter header }] }
    let options : RenderOptions := { identifierFromMetadata := true }
    let delivered := (document.recorded options).state.toList
    delivered.head? = some (.start .topic [⟨"id", "intro"⟩]) ∧
      .start .prolog [] ∈ delivered ∧
      Prolog.dataTexts Prolog.identifierKey (insideProlog 0 delivered) = [] := by
  intro header document options delivered
  have named : header.firstScalar? Prolog.identifierKey = some "intro" := by decide
  rcases identifier_repeated_iff_structured options document rfl rfl named with
    ⟨first, begun, repeated⟩
  have plain : ¬ ∃ value ∈ Prolog.valuesOf header Prolog.identifierKey,
      value.isStructured = true := by decide
  refine ⟨first, begun rfl, ?_⟩
  exact repeated.trans (if_neg (fun both => plain both.2))

/-- A structured value behind the one that names the topic brings both back. -/
theorem identifier_before_structured_repeated :
    let header := FrontMatter.ofList [("id", [.scalar "intro", .structured "a: b"])]
    let document : Document := { children := [{ kind := .frontMatter header }] }
    let delivered := (document.recorded { identifierFromMetadata := true }).state.toList
    document.frontMatter? = some header ∧
      header.firstScalar? Prolog.identifierKey = some "intro" ∧
      delivered.head? = some (.start .topic [⟨"id", "intro"⟩]) ∧
      Prolog.dataTexts Prolog.identifierKey (insideProlog 0 delivered) = ["intro", "a: b"] := by
  decide +kernel

end Document

end TopicPress
