import TopicPress.Proofs.TopicIdentifier
import TopicPress.Proofs.TopicLayout

/-!
# The identifier of a topic and its title

A topic that the front matter does not name gets its identifier from the text of the first heading.
That text is not quite what stands in the title: it is taken from the nodes of the heading, where a line
break counts as a blank, and the title is what the nodes are rendered to, where it is a line feed.  The
identifier does not show the difference, because one character that cannot stay in it is as good as any
other.  Where a node has more to it than it shows, or shows more than it has, nothing is said.
-/

namespace TopicPress

open Dita (Element)

/-! ## What an identifier takes from a title -/

namespace Slug

/-- What an identifier sees of a character: nothing but a gap if it cannot stay. -/
def seen (c : Char) : Char := if isIdCharacter c then c else ' '

theorem join_map_seen (title : List Char) :
    ∀ kept waiting, join kept waiting (title.map seen) = join kept waiting title := by
  induction title with
  | nil =>
      intro kept waiting
      rfl
  | cons c rest inductionHypothesis =>
      intro kept waiting
      cases stays : isIdCharacter c with
      | true =>
          have same : seen c = c := if_pos stays
          simp only [List.map_cons, same, join, inductionHypothesis]
      | false =>
          have gap : seen c = ' ' := if_neg (Bool.eq_false_iff.mp stays)
          have noBlank : isIdCharacter ' ' = false := rfl
          rw [List.map_cons, gap, join, join, stays, noBlank]
          exact inductionHypothesis kept true

end Slug

/-- Titles that look the same to an identifier have the same. -/
theorem slugify_congr {first second : String}
    (same : first.toList.map Slug.seen = second.toList.map Slug.seen) :
    slugify first = slugify second := by
  rw [slugify, slugify, Slug.ofChars, Slug.ofChars, ← Slug.join_map_seen first.toList, same,
    Slug.join_map_seen]

/-! ## Nodes that show what they have -/

namespace Node

/-- An inline node whose text is what it is rendered to. -/
def showsItsText (node : Node) : Bool :=
  match node.kind with
  | .text _ | .codeSpan _ | .rawInline _ | .lineBreak => node.children.isEmpty
  | .emphasis | .strong | .strikethrough | .superscript | .subscript | .link _ _ => true
  | .image _ title => !node.children.isEmpty || title.isEmpty
  | _ => false

/-- The rule of such a node puts its own text where its characters are. -/
theorem rule_of_showsItsText {node : Node} (showsText : node.showsItsText = true) :
    match node.kind.rule with
    | .element _ _ literal => literal.getD "" = node.kind.ownText
    | .characters text => node.children = [] ∧
        text.toList.map Slug.seen = node.kind.ownText.toList.map Slug.seen
    | .image _ title => node.kind.ownText = "" ∧ (node.children.isEmpty = true → title = "")
    | _ => False := by
  rcases node with ⟨kind, position, children⟩
  cases kind with
  | text content => exact ⟨List.isEmpty_iff.mp showsText, rfl⟩
  | lineBreak =>
      -- The one node that is told in two ways: a blank of its own, a line feed by its rule.
      have gap : "\n".toList.map Slug.seen = " ".toList.map Slug.seen := by decide
      exact ⟨List.isEmpty_iff.mp showsText, gap⟩
  | image url title =>
      refine ⟨rfl, fun (childless : children.isEmpty = true) => ?_⟩
      simpa [showsItsText, childless] using showsText
  | codeSpan content => rfl
  | rawInline content => rfl
  | emphasis => rfl
  | strong => rfl
  | strikethrough => rfl
  | superscript => rfl
  | subscript => rfl
  | link url title => rfl
  | _ => cases showsText

end Node

namespace Event

/-- The text that an event delivers. -/
def text : Event → String
  | characters text => text
  | _ => ""

/-- The characters of events, one after the other. -/
def textOf (events : List Event) : String := String.join (events.map Event.text)

theorem textOf_append (first second : List Event) :
    (textOf (first ++ second)).toList = (textOf first).toList ++ (textOf second).toList := by
  simp [textOf, String.toList_join]

end Event

namespace EventTree

theorem textOf_of (container : Element) (attributes : List Attribute) (children : List EventTree) :
    (Event.textOf (eventsAll [.of container attributes children])).toList =
      (Event.textOf (eventsAll children)).toList := by
  simp [Event.textOf, String.toList_join, Event.text, Event.start]

theorem textOf_literal (literal : Option String) (rest : List EventTree) :
    (Event.textOf (eventsAll (literal.toList.map .characters ++ rest))).toList =
      (literal.getD "").toList ++ (Event.textOf (eventsAll rest)).toList := by
  cases literal <;> simp [Event.textOf, String.toList_join, Event.text]

end EventTree

open EventTree (textOf_of textOf_literal)

/-- A node that shows its text has the text that it is rendered to, if its children have theirs. -/
theorem seen_trees_of_showsItsText {node : Node} (showsText : node.showsItsText = true) :
    (Event.textOf (EventTree.eventsAll node.trees)).toList.map Slug.seen =
      (node.kind.ownText.toList ++
        (Event.textOf (EventTree.eventsAll (Node.treesAll node.children))).toList).map Slug.seen := by
  have rule := Node.rule_of_showsItsText showsText
  rcases node with ⟨kind, position, children⟩
  rw [Node.trees_eq]
  cases isRule : kind.rule with
  | element container attributes literal =>
      simp only [isRule] at rule
      rw [RenderRule.trees, textOf_of, textOf_literal, rule]
  | image href title =>
      simp only [isRule] at rule
      rcases rule with ⟨nothing, untitled⟩
      rw [RenderRule.trees, textOf_of, nothing]
      cases childless : children.isEmpty with
      | false =>
          rw [Bool.not_false, if_pos rfl, textOf_of]
          rfl
      | true =>
          rw [List.isEmpty_iff.mp childless, untitled childless]
          rfl
  | characters text =>
      simp only [isRule] at rule
      rcases rule with ⟨rfl, same⟩
      rw [RenderRule.trees, ← List.append_nil [EventTree.characters text]]
      have own := textOf_literal (some text) []
      rw [Node.treesAll_nil, List.map_append, ← same, ← List.map_append]
      exact congrArg (List.map Slug.seen) own
  | emptyElement container attributes => simp only [isRule] at rule
  | ignored => simp only [isRule] at rule
  | unmapped => simp only [isRule] at rule

/-- Nodes have the text that they are rendered to, as far as an identifier can see. -/
theorem seen_treesAll (nodes : List Node) :
    (∀ node ∈ Node.preorderAll nodes, node.showsItsText = true) →
      (Event.textOf (EventTree.eventsAll (Node.treesAll nodes))).toList.map Slug.seen =
        (Node.textContents nodes).toList.map Slug.seen := by
  induction nodes using Node.forestInduction with
  | nil =>
      intro showsText
      rw [Node.treesAll_nil, Node.textContents]
      rfl
  | cons kind position children rest inChildren inRest =>
      intro showsText
      rw [Node.preorderAll, Node.preorder, List.forall_mem_append, List.forall_mem_cons] at showsText
      rcases showsText with ⟨⟨here, below⟩, later⟩
      rw [Node.treesAll_cons, EventTree.eventsAll_append, Event.textOf_append, List.map_append,
        inRest later, seen_trees_of_showsItsText here, List.map_append, inChildren below,
        Node.textContents, Node.textContent, String.toList_append, String.toList_append,
        List.map_append, List.map_append]

/-! ## Documents -/

/-- The attributes of an element that has the identifier `id`, or none if there is nothing in it. -/
def identifierAttributes (id : String) : List Attribute := if id = "" then [] else [⟨"id", id⟩]

namespace Document

/-- The front matter names the topic, and the options let it. -/
def NamedBy (options : RenderOptions) (document : Document) (id : String) : Prop :=
  options.identifierFromMetadata = true ∧ ∃ header, document.header? = some header ∧
    header.firstScalar? Prolog.identifierKey = some id

theorem metadataId?_eq_some_iff {options : RenderOptions} {document : Document} {id : String} :
    document.metadataId? options = some id ↔ document.NamedBy options id := by
  rw [metadataId?, NamedBy, header?_eq]
  cases options.identifierFromMetadata with
  | false => simp
  | true => simp [Option.bind_eq_some_iff]

theorem topicAttributes_of_unnamed {options : RenderOptions} {document : Document}
    (unnamed : ∀ id, ¬ document.NamedBy options id) :
    document.topicAttributes options =
      match document.firstHeadingText? with
      | some title => identifierAttributes (slugify title)
      | none => [] := by
  have noMetadata : document.metadataId? options = none :=
    Option.eq_none_iff_forall_ne_some.mpr fun id found => unnamed id (metadataId?_eq_some_iff.mp found)
  rw [topicAttributes, topicId?, noMetadata, Option.none_or, titleId?]
  cases document.firstHeadingText? with
  | none => rfl
  | some title =>
      by_cases nothing : slugify title = ""
      · simp [identifierAttributes, nothing, Option.filter]
      · simp [identifierAttributes, nothing, Option.filter]

/-- The title is the only part of a topic that is called so. -/
theorem within_title_topicTree (options : RenderOptions) (document : Document) :
    (document.topicTree options).within "title" = document.topicTitleTree.children := by
  have title : (document.topicTitleTree.name? == some "title") = true := by
    rw [name?_topicTitleTree]
    decide
  have prolog : (document.prologTrees options).filter
      (fun child => child.name? == some "title") = [] := by
    rw [prologTrees]
    cases document.frontMatter? <;> rfl
  have body : document.bodyTrees.filter
      (fun child => child.name? == some "title") = [] := by
    rw [bodyTrees]
    cases document.bodyBlocks.isEmpty <;> rfl
  rw [EventTree.within, topicTree, EventTree.of, EventTree.children, topicContent,
    List.filter_cons, title, if_pos rfl, List.filter_append, prolog, body, List.append_nil,
    List.flatMap_singleton]

/-- The text of the title has the identifier of the text of the heading. -/
theorem slugify_textContent_firstHeading {document : Document} {heading : Node}
    (found : document.firstHeading? = some heading)
    (showText : ∀ node ∈ Node.preorderAll heading.children, node.showsItsText = true) :
    slugify heading.textContent =
      slugify (Event.textOf (EventTree.eventsAll document.topicTitleTree.children)) := by
  have isHeading := isHeading_of_firstHeading? found
  rcases heading with ⟨kind, position, children⟩
  cases kind with
  | heading level =>
      have title : document.topicTitleTree.children = Node.treesAll children := by
        rw [topicTitleTree, found]
        rfl
      have content : (⟨.heading level, position, children⟩ : Node).textContent =
          Node.textContents children := by
        rw [Node.textContent]
        exact String.empty_append
      rw [title, content]
      exact slugify_congr (seen_treesAll children showText).symm
  | _ => cases isHeading

/-- How the start of a topic agrees with what stands in it, where the topic has been read back as a
tree and its start has the attributes `attributes`. -/
structure IdentifiedBy (options : RenderOptions) (document : Document) (topic : EventTree)
    (attributes : List Attribute) : Prop where
  /-- Front matter that names the topic does so verbatim, whatever the title is. -/
  byMetadata : ∀ id, document.NamedBy options id → attributes = [⟨"id", id⟩]
  /-- Otherwise the identifier is made of the characters in the title. -/
  byTitle : (∀ id, ¬ document.NamedBy options id) →
    ∀ heading, document.titleHeading? = some heading →
      (∀ node ∈ Node.preorderAll heading.children, node.showsItsText = true) →
        attributes = identifierAttributes
          (slugify (Event.textOf (EventTree.eventsAll (topic.within "title"))))
  /-- Without either there is none. -/
  byNothing : (∀ id, ¬ document.NamedBy options id) → document.titleHeading? = none →
    attributes = []

theorem topicTree_identifiedBy (options : RenderOptions) (document : Document) :
    document.IdentifiedBy options (document.topicTree options)
      (document.topicAttributes options) := by
  refine ⟨?_, ?_, ?_⟩
  · rintro id ⟨enabled, header, given, named⟩
    rw [header?_eq] at given
    exact topicAttributes_of_metadata enabled given named
  · intro unnamed heading found showText
    rw [titleHeading?_eq] at found
    rw [topicAttributes_of_unnamed unnamed, firstHeadingText?, found, Option.map_some,
      within_title_topicTree, ← slugify_textContent_firstHeading found showText]
  · intro unnamed untitled
    rw [titleHeading?_eq] at untitled
    rw [topicAttributes_of_unnamed unnamed, firstHeadingText?, untitled, Option.map_none]

theorem head?_of_toEvents {options : RenderOptions} {document : Document} {events : Array Event}
    (rendered : document.toEvents options = .ok events) :
    events.toList.head? = some (.start .topic (document.topicAttributes options)) := by
  rw [toEvents_eq] at rendered
  cases outcome : (document.render options).failure with
  | some context =>
      rw [outcome] at rendered
      cases rendered
  | none =>
      rw [outcome] at rendered
      cases rendered
      exact head?_render options document

/-- The topic of a document that can be rendered starts with an identifier that agrees with its front
matter or with its title. -/
theorem toEvents_identified {options : RenderOptions} {document : Document} {events : Array Event}
    (rendered : document.toEvents options = .ok events) :
    ∃ topic attributes, EventTree.document? events.toList = some topic ∧
      events.toList.head? = some (.start .topic attributes) ∧
      document.IdentifiedBy options topic attributes := by
  exact ⟨_, _, document?_of_toEvents rendered, head?_of_toEvents rendered,
    topicTree_identifiedBy options document⟩

/-- A line break in emphasized text, an image with a description and a code span. -/
theorem toEvents_identified_by_inlines :
    let children : List Node := [
      { kind := .emphasis, children := [{ kind := .text "On" }, { kind := .lineBreak }] },
      { kind := .image "a.png" "unseen", children := [{ kind := .text "one" }] },
      { kind := .codeSpan "'s" }]
    let document : Document := { children := [{ kind := .heading 1, children }] }
    (∀ node ∈ Node.preorderAll children, node.showsItsText = true) ∧
      (∀ id, ¬ document.NamedBy {} id) ∧
      ∃ events, document.toEvents {} = .ok events ∧
        events.toList.head? = some (.start .topic [⟨"id", "on_one_s"⟩]) ∧
        ∃ topic attributes, EventTree.document? events.toList = some topic ∧
          events.toList.head? = some (.start .topic attributes) ∧
          document.IdentifiedBy {} topic attributes := by
  intro children document
  have unnamed : ∀ id, ¬ document.NamedBy {} id := fun id named => Bool.false_ne_true named.1
  have supported : document.reached.filterMap Reached.unsupported? = [] := by decide
  rcases exists_toEvents_eq_ok_iff.mpr supported with ⟨events, rendered⟩
  refine ⟨by decide, unnamed, events, rendered, ?_, toEvents_identified rendered⟩
  rw [head?_of_toEvents rendered]
  decide +kernel

end Document

end TopicPress
