import TopicPress.Proofs.XmlProcessor
import TopicPress.Proofs.XmlReadBack
import TopicPress.Proofs.XmlWellFormed

/-!
# White space that does not survive

The writer escapes five characters and writes every other one as it is.  A processor therefore reads
a line feed for a carriage return in a text, and a space for a tab or a line end in an attribute
value.  Everything else comes out as it was given, so the events of a document are read back exactly
if and only if they have no such white space.
-/

namespace TopicPress

open Xml.Processor (Place takenValue takenAttribute)

private theorem map_eq_self_iff {Item : Type} (change : Item → Item) (items : List Item) :
    items.map change = items ↔ ∀ item ∈ items, change item = item := by
  have unchanged : items.map change = items.map id ↔ ∀ item ∈ items, change item = id item :=
    List.map_inj_left
  rwa [List.map_id] at unchanged

namespace Event

/-- The event as a processor takes it. -/
def taken : Event → Event
  | startElement name classValue attributes =>
    startElement name (takenValue classValue) (attributes.map takenAttribute)
  | characters text => characters (Place.text.takenText text)
  | endElement => endElement
  | endDocument => endDocument

/-- An attribute value without tabs and line ends. -/
def IsUnbroken (value : String) : Prop :=
  ∀ c ∈ value.toList, c ≠ '\t' ∧ c ≠ '\n' ∧ c ≠ '\r'

/-- No carriage return in a text, no tab and no line end in an attribute value. -/
def HasLastingSpace : Event → Prop
  | startElement _ classValue attributes =>
    IsUnbroken classValue ∧ ∀ item ∈ attributes, IsUnbroken item.value
  | characters text => '\r' ∉ text.toList
  | endElement => True
  | endDocument => True

/-- The characters of a text, or of the attribute values, are all characters of XML. -/
def IsAllowed : Event → Prop
  | startElement _ classValue attributes =>
    Xml.needsMending classValue = false ∧
      ∀ item ∈ attributes, Xml.needsMending item.value = false
  | characters text => Xml.needsMending text = false
  | endElement => True
  | endDocument => True

end Event

namespace Xml.Processor

open Reader (Reads Piecewise closingTag_append content?_append not_mem_end not_mem_escape
  not_mem_inner_slash opening_append selfClosing_append slash tag?_inner text?_escape)

/-! ## What is taken as it is given -/

theorem lineEnds_eq_nil_iff (text : List Char) : lineEnds text = [] ↔ text = [] := by
  induction text with
  | nil => simp [lineEnds]
  | cons c rest inductionHypothesis =>
      rw [lineEnds]
      by_cases carriageReturn : c = '\r'
      · rw [if_pos carriageReturn]
        by_cases both : rest.head? = some '\n'
        · have notEmpty : rest ≠ [] := by
            rintro rfl
            cases both
          simp [if_pos both, inductionHypothesis, notEmpty]
        · simp [if_neg both]
      · simp [if_neg carriageReturn]

theorem carriageReturn_not_mem_lineEnds (text : List Char) : '\r' ∉ lineEnds text := by
  induction text with
  | nil => simp [lineEnds]
  | cons c rest inductionHypothesis =>
      rw [lineEnds]
      by_cases carriageReturn : c = '\r'
      · rw [if_pos carriageReturn]
        split
        · exact inductionHypothesis
        · simp [inductionHypothesis]
      · rw [if_neg carriageReturn, List.mem_cons, not_or]
        exact ⟨Ne.symm carriageReturn, inductionHypothesis⟩

theorem lineEnds_eq_self_iff (text : List Char) : lineEnds text = text ↔ '\r' ∉ text := by
  constructor
  · intro same
    rw [← same]
    exact carriageReturn_not_mem_lineEnds text
  · intro absent
    have whole := lineEnds_of_not_mem absent []
    rwa [List.append_nil, lineEnds, List.append_nil] at whole

theorem takenText_text_eq_iff (text : String) :
    Place.text.takenText text = text ↔ '\r' ∉ text.toList := by
  have unchanged : ∀ characters : List Char, characters.map Place.text.taken = characters :=
    fun characters => List.map_id characters
  rw [Place.takenText, unchanged, ← String.toList_inj, String.toList_ofList,
    lineEnds_eq_self_iff]

theorem spaced_eq_self_iff (c : Char) : spaced c = c ↔ c ≠ '\t' ∧ c ≠ '\n' ∧ c ≠ '\r' := by
  have spelled : (c = '\t' ∨ Text.isLineEnd c = true) ↔ c = '\t' ∨ c = '\n' ∨ c = '\r' := by
    simp [Text.isLineEnd]
  rw [spaced]
  by_cases white : c = '\t' ∨ Text.isLineEnd c = true
  · rw [if_pos white]
    rcases spelled.mp white with rfl | rfl | rfl <;> decide
  · rw [if_neg white]
    have notSpelled := mt spelled.mpr white
    simpa [not_or] using notSpelled

theorem spaced_spaced (c : Char) : spaced (spaced c) = spaced c := by
  by_cases white : c = '\t' ∨ Text.isLineEnd c = true
  · have space : spaced c = ' ' := if_pos white
    rw [space]
    decide
  · have same : spaced c = c := if_neg white
    rw [same, same]

theorem takenValue_eq_iff (value : String) :
    takenValue value = value ↔ Event.IsUnbroken value := by
  have spelled : takenValue value = value ↔ (lineEnds value.toList).map spaced = value.toList := by
    rw [← String.toList_inj, takenValue, Place.takenText, String.toList_ofList]
    rfl
  rw [spelled]
  constructor
  · intro same c member
    rw [← same] at member
    rcases List.mem_map.mp member with ⟨original, _, rfl⟩
    exact (spaced_eq_self_iff _).mp (spaced_spaced original)
  · intro unbroken
    have noCarriageReturn : '\r' ∉ value.toList := fun member => (unbroken _ member).2.2 rfl
    rw [(lineEnds_eq_self_iff _).mpr noCarriageReturn, map_eq_self_iff]
    intro c member
    exact (spaced_eq_self_iff c).mpr (unbroken c member)

theorem taken_eq_iff (event : Event) : event.taken = event ↔ event.HasLastingSpace := by
  cases event with
  | startElement name classValue attributes =>
      have values : attributes.map takenAttribute = attributes ↔
          ∀ item ∈ attributes, Event.IsUnbroken item.value := by
        have each : ∀ item, takenAttribute item = item ↔ Event.IsUnbroken item.value := by
          intro item
          rw [← takenValue_eq_iff]
          constructor
          · intro same
            exact congrArg Attribute.value same
          · intro same
            rw [takenAttribute, same]
        rw [map_eq_self_iff]
        simp only [each]
      rw [Event.taken, Event.HasLastingSpace, Event.startElement.injEq, values,
        takenValue_eq_iff]
      simp
  | characters text => simp [Event.taken, Event.HasLastingSpace, takenText_text_eq_iff]
  | endElement => simp [Event.taken, Event.HasLastingSpace]
  | endDocument => simp [Event.taken, Event.HasLastingSpace]

/-! ## Reading within an element -/

/-- Texts and tags that are taken as events, whatever text is written directly before them. -/
def Takes (content : List Char) (events : List Event) : Prop :=
  ∀ begun, Reader.content? (prepare .text ((escape begun).toList ++ content)) =
    some ((Event.joinTexts begun events).map Event.taken)

theorem ofText_map_taken (text : String) :
    (Event.ofText text).map Event.taken = Event.ofText (Place.text.takenText text) := by
  have empty : Place.text.takenText text = "" ↔ text = "" := by
    rw [← String.toList_eq_nil_iff, ← String.toList_eq_nil_iff, Place.takenText,
      String.toList_ofList, List.map_eq_nil_iff, lineEnds_eq_nil_iff]
  rw [Event.ofText, Event.ofText]
  by_cases nothing : text = ""
  · rw [if_pos nothing, if_pos (empty.mpr nothing)]
    rfl
  · rw [if_neg nothing, if_neg (mt empty.mp nothing)]
    rfl

theorem takes_nil : Takes [] [] := by
  intro begun
  have stays : ∀ c, c ≠ '<' → c ≠ '"' → Place.text.next c = .text := fun c notOpening _ =>
    if_neg notOpening
  have read := Reads.nil (Place.text.takenText begun)
  rw [prepare_escape stays begun (by simp), Event.joinTexts, ofText_map_taken]
  exact read

theorem Takes.content {content : List Char} {events : List Event} (takes : Takes content events) :
    Reader.content? (prepare .text content) =
      some ((Event.joinTexts "" events).map Event.taken) :=
  takes ""

theorem Takes.text {rest : List Char} {later : List Event} (takes : Takes rest later)
    (text : String) : Takes ((escape text).toList ++ rest) (.characters text :: later) := by
  intro begun
  have together : (escape begun).toList ++ ((escape text).toList ++ rest) =
      (escape (begun ++ text)).toList ++ rest := by
    simp [escape]
  rw [together, takes]
  rfl

/-- A text, a tag that comes out as another one, and what is taken after it. -/
theorem Takes.tag {rest : List Char} {later : List Event} (takes : Takes rest later)
    {inside prepared : List Char} {tag : List Event}
    (tagPrepared : prepare .tag (inside ++ '>' :: rest) = prepared ++ prepare .tag ('>' :: rest))
    (unopened : '<' ∉ prepared) (closed : '>' ∉ prepared)
    (tagRead : Reader.tag? prepared = some tag) (begun : String) :
    Reader.content? (prepare .text ((escape begun).toList ++ '<' :: (inside ++ '>' :: rest))) =
      some ((Event.ofText begun).map Event.taken ++ tag ++
        (Event.joinTexts "" later).map Event.taken) := by
  rw [prepare_text begun tagPrepared, content?_append (not_mem_escape rfl _) unopened closed
    (text?_escape _) tagRead takes.content, ofText_map_taken]

theorem Takes.closingTag {rest : List Char} {later : List Event} (takes : Takes rest later)
    {name : String} (named : Grammar.isName name.toList = true) :
    Takes ((Writer.closingTag name).toList ++ rest) (.endElement :: later) := by
  intro begun
  have slashKept : Place.tag.next '/' = .tag := rfl
  have tagPrepared : prepare .tag (('/' :: name.toList) ++ '>' :: rest) =
      '/' :: name.toList ++ prepare .tag ('>' :: rest) := by
    rw [List.cons_append, prepare_mark (by decide) (by decide) rfl, slashKept, prepare_name named]
    rfl
  rw [closingTag_append, takes.tag tagPrepared (not_mem_end rfl named) (not_mem_end rfl named) rfl]
  simp [Event.joinTexts, Event.taken]

theorem Takes.startTag {rest : List Char} {later : List Event} (takes : Takes rest later)
    (alone : Bool) {tag : StartTag} (named : Grammar.isName tag.name.toList = true)
    (attributesNamed : ∀ item ∈ tag.attributes, Grammar.isName item.name.toList = true)
    (begun : String) :
    Reader.content? (prepare .text ((escape begun).toList ++
      '<' :: ((tag.inner.toList ++ slash alone) ++ '>' :: rest))) =
        some ((Event.ofText begun).map Event.taken ++
          (Event.startElement tag.name tag.classValue tag.attributes).taken ::
            ((if alone then [.endElement] else []) ++
              (Event.joinTexts "" later).map Event.taken)) := by
  have takenNamed : ∀ item ∈ (takenTag tag).attributes, Grammar.isName item.name.toList = true :=
    List.forall_mem_map.mpr attributesNamed
  have tagPrepared : prepare .tag ((tag.inner.toList ++ slash alone) ++ '>' :: rest) =
      ((takenTag tag).inner.toList ++ slash alone) ++ prepare .tag ('>' :: rest) := by
    rw [List.append_assoc, prepare_inner named attributesNamed, List.append_assoc]
    cases alone with
    | true =>
        have slashKept : Place.tag.next '/' = .tag := rfl
        rw [slash, if_pos rfl, List.singleton_append, prepare_mark (by decide) (by decide) rfl,
          slashKept]
        rfl
    | false => rfl
  rw [takes.tag tagPrepared (not_mem_inner_slash rfl alone named takenNamed)
    (not_mem_inner_slash rfl alone named takenNamed) (tag?_inner alone named takenNamed)]
  simp [Event.taken, takenTag]

theorem Takes.opening {rest : List Char} {later : List Event} (takes : Takes rest later)
    {tag : StartTag} (named : Grammar.isName tag.name.toList = true)
    (attributesNamed : ∀ item ∈ tag.attributes, Grammar.isName item.name.toList = true) :
    Takes (tag.opening.toList ++ rest)
      (.startElement tag.name tag.classValue tag.attributes :: later) := by
  intro begun
  rw [opening_append, takes.startTag false named attributesNamed]
  simp [Event.joinTexts]

theorem Takes.selfClosing {rest : List Char} {later : List Event} (takes : Takes rest later)
    {tag : StartTag} (named : Grammar.isName tag.name.toList = true)
    (attributesNamed : ∀ item ∈ tag.attributes, Grammar.isName item.name.toList = true)
    {inside : List Event}
    (nothing : Event.joinTexts "" inside = Event.joinTexts "" (.endElement :: later)) :
    Takes (tag.selfClosing.toList ++ rest)
      (.startElement tag.name tag.classValue tag.attributes :: inside) := by
  intro begun
  rw [selfClosing_append, takes.startTag true named attributesNamed]
  simp [Event.joinTexts, nothing, Event.taken]

theorem piecewise_takes : Piecewise Takes :=
  ⟨Takes.text, Takes.closingTag, Takes.opening, Takes.selfClosing⟩

/-! ## Documents -/

theorem prepare_declaration (rest : List Char) :
    prepare .text (Writer.declaration.toList ++ rest) =
      Writer.declaration.toList ++ prepare .text rest := by
  rfl

theorem events?_afterRoot {root : EventTree} (named : ∀ event ∈ root.events, event.IsNamed) :
    events? (afterRoot root).device.written =
      some ((Event.condense root.events).map Event.taken) := by
  have all : EventTree.eventsAll [root] = root.events := by simp
  have text : EventTree.xmlTextAll [root] = root.xmlText := by simp
  have read := (piecewise_takes.xmlTextAll [root] (all ▸ named) takes_nil).content
  rw [all, text, List.append_nil, List.append_nil] at read
  rw [events?, afterRoot, String.toList_append, prepare_declaration,
    Reader.skipDeclaration_declaration, read]
  rfl

end Xml.Processor

namespace Event

theorem hasLastingSpace_ofText (text : String) (rest : List Event) :
    (∀ event ∈ ofText text ++ rest, event.HasLastingSpace) ↔
      '\r' ∉ text.toList ∧ ∀ event ∈ rest, event.HasLastingSpace := by
  rw [List.forall_mem_append, ofText]
  by_cases empty : text = ""
  · simp [empty]
  · simp [empty, HasLastingSpace]

theorem hasLastingSpace_joinTexts (events : List Event) :
    ∀ begun, (∀ event ∈ joinTexts begun events, event.HasLastingSpace) ↔
      '\r' ∉ begun.toList ∧ ∀ event ∈ events, event.HasLastingSpace := by
  induction events with
  | nil =>
      intro begun
      have alone := hasLastingSpace_ofText begun []
      rwa [List.append_nil] at alone
  | cons event rest inductionHypothesis =>
      intro begun
      have other : (∀ item ∈ ofText begun ++ event :: joinTexts "" rest, item.HasLastingSpace) ↔
          '\r' ∉ begun.toList ∧ ∀ item ∈ event :: rest, item.HasLastingSpace := by
        rw [hasLastingSpace_ofText, List.forall_mem_cons, inductionHypothesis,
          List.forall_mem_cons]
        simp
      cases event with
      | characters text =>
          rw [joinTexts, inductionHypothesis, List.forall_mem_cons]
          simp [HasLastingSpace, and_assoc]
      | startElement name classValue attributes => exact other
      | endElement => exact other
      | endDocument => exact other

theorem hasLastingSpace_withoutEnd (events : List Event) :
    (∀ event ∈ withoutEnd events, event.HasLastingSpace) ↔
      ∀ event ∈ events, event.HasLastingSpace := by
  constructor
  · intro lasting event member
    by_cases isEnd : event = .endDocument
    · rw [isEnd]
      trivial
    · exact lasting event (List.mem_filter.mpr ⟨member, bne_iff_ne.mpr isEnd⟩)
  · intro lasting event member
    exact lasting event (List.mem_filter.mp member).1

theorem mended_of_isAllowed {event : Event} (allowed : event.IsAllowed) : event.mended = event := by
  have unchanged : ∀ text, Xml.needsMending text = false → Xml.mend text = text := by
    intro text fit
    rw [Xml.needsMending, Bool.not_eq_false', List.all_eq_true] at fit
    have unmended : text.toList.map Xml.mendCharacter = text.toList :=
      (map_eq_self_iff _ _).mpr (fun c member => if_pos (fit c member))
    rw [Xml.mend, unmended, String.ofList_toList]
  cases event with
  | startElement name classValue attributes =>
      have attributesUnmended : attributes.map Xml.Writer.mendAttribute = attributes := by
        rw [map_eq_self_iff]
        intro item member
        rw [Xml.Writer.mendAttribute, unchanged item.value (allowed.2 item member)]
      rw [mended, attributesUnmended]
  | characters text => rw [mended, unchanged text allowed]
  | endElement => rfl
  | endDocument => rfl

end Event

namespace Xml

/-- A document of characters of XML is written in the grammar, and a processor takes its events with
other white space, if they have white space that does not last, and as they were given if not. -/
theorem processed_iff_hasLastingSpace {events : List Event} (document : IsDocument events)
    (fits : ∀ event ∈ events, event.FitsXml) (allowed : ∀ event ∈ events, event.IsAllowed) :
    (sink.feed {} events).2 = none ∧ (∃ root, Grammar.WellFormed root (written events)) ∧
      Processor.events? (written events) =
        some ((Event.joinTexts "" (Event.withoutEnd events)).map Event.taken) ∧
      (Processor.events? (written events) =
          some (Event.joinTexts "" (Event.withoutEnd events)) ↔
        ∀ event ∈ events, event.HasLastingSpace) := by
  rcases written_eq_afterRoot document with
    ⟨name, classValue, attributes, children, begun, unended, accepted, text⟩
  have rootNamed := fun event member => document.named event (begun.subset member)
  have rootFits := fun event member => fits event (begun.subset member)
  have condensed : Event.condense (Event.withoutEnd events) =
      Event.joinTexts "" (Event.withoutEnd events) := by
    have unmended : (Event.withoutEnd events).map Event.mended = Event.withoutEnd events := by
      rw [map_eq_self_iff]
      intro event member
      exact Event.mended_of_isAllowed (allowed event (List.mem_filter.mp member).1)
    rw [Event.condense, unmended]
  have taken := Processor.events?_afterRoot rootNamed
  rw [← text, ← unended, condensed] at taken
  refine ⟨accepted, ⟨name, ?_⟩, taken, ?_⟩
  · rw [EventTree.events_element, List.forall_mem_cons, List.forall_mem_append] at rootFits
    refine .of_element (element_derived rootFits.1 (content_derived children rootFits.2.1)) ?_
    rw [text, afterRoot, String.toList_append]
    rfl
  · rw [taken, Option.some.injEq, map_eq_self_iff]
    simp only [Processor.taken_eq_iff]
    rw [Event.hasLastingSpace_joinTexts, Event.hasLastingSpace_withoutEnd]
    simp

/-- Tabs and line feeds of a text last, and so do the spaces of a value. -/
theorem processed_of_code :
    let events : List Event := [.startElement "codeblock" "- topic/codeblock " [⟨"id", "a  b"⟩],
      .characters "x:\n", .characters "\ty\n\n", .endElement, .endDocument]
    IsDocument events ∧ (∀ event ∈ events, event.FitsXml) ∧ (∀ event ∈ events, event.IsAllowed) ∧
      Processor.events? (written events) =
        some [.startElement "codeblock" "- topic/codeblock " [⟨"id", "a  b"⟩],
          .characters "x:\n\ty\n\n", .endElement] := by
  intro events
  have document : IsDocument events :=
    ⟨⟨"codeblock", "- topic/codeblock ", [⟨"id", "a  b"⟩],
      [.characters "x:\n", .characters "\ty\n\n"], [.endDocument], by simp [events], Or.inr rfl⟩,
      by simp [events, Event.IsNamed]; decide⟩
  have fits : ∀ event ∈ events, event.FitsXml := by
    simp [events, Event.FitsXml]
    decide
  have allowed : ∀ event ∈ events, event.IsAllowed := by
    simp [events, Event.IsAllowed]
    decide
  have lasting : ∀ event ∈ events, event.HasLastingSpace := by
    simp [events, Event.HasLastingSpace, Event.IsUnbroken]
  rcases processed_iff_hasLastingSpace document fits allowed with ⟨_, _, _, exactly⟩
  exact ⟨document, fits, allowed, exactly.mpr lasting⟩

/-- A tab of a value becomes a space, and a carriage return of a text a line feed. -/
theorem processed_of_tab_and_carriageReturn :
    let events : List Event := [.startElement "a" "" [⟨"b", "x\ty"⟩], .characters "c\rd",
      .endElement, .endDocument]
    IsDocument events ∧ (∀ event ∈ events, event.FitsXml) ∧ (∀ event ∈ events, event.IsAllowed) ∧
      (sink.feed {} events).2 = none ∧
      Processor.events? (written events) =
        some [.startElement "a" "" [⟨"b", "x y"⟩], .characters "c\nd", .endElement] ∧
      Processor.events? (written events) ≠
        some [.startElement "a" "" [⟨"b", "x\ty"⟩], .characters "c\rd", .endElement] := by
  intro events
  refine ⟨⟨⟨"a", "", [⟨"b", "x\ty"⟩], [.characters "c\rd"], [.endDocument], by simp [events],
    Or.inr rfl⟩, by simp [events, Event.IsNamed]; decide⟩, ?_, ?_, ?_, ?_, ?_⟩
  · simp [events, Event.FitsXml]
    decide
  · simp [events, Event.IsAllowed]
    decide
  · decide +kernel
  · decide +kernel
  · decide +kernel

end Xml

end TopicPress
