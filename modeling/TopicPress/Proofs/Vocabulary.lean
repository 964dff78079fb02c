import TopicPress.Proofs.TopicTree

/-!
# The vocabulary of topics

Whatever a document holds, the elements of its topic and the names of their attributes come from
fixed lists.  Names, urls, languages, identifiers and the keys of front matter only ever become
values of attributes or characters.
-/

namespace TopicPress

open Dita (Element)

/-- Every element that a topic may have. -/
def Dita.Element.vocabulary : List Element :=
  [topic, title, prolog, body, section_, paragraph, unorderedList, orderedList, listItem, longQuote,
    simpleTable, tableHead, tableRow, tableEntry, requiredCleanup, codeBlock, italic, bold,
    lineThrough, superscript, subscript, codePhrase, crossReference, image, alternative, author,
    source, publisher, permissions, metadata, audience, category, keywords, keyword, resourceId,
    data]

/-- The names of the attributes that an element may have together, besides its class. -/
def attributeNames : List (List String) :=
  [[], ["id"], ["outputclass"], ["start"], ["href"], ["href", "scope", "format"],
    ["href", "format"], ["view"], ["audience"], ["appid"], ["name", "value"]]

/-- An event starts an element of the vocabulary, if it starts one at all. -/
def Event.InVocabulary : Event → Prop
  | .startElement name classValue attributes =>
    ⟨name, classValue⟩ ∈ Dita.Element.vocabulary ∧
      attributes.map Attribute.name ∈ attributeNames
  | _ => True

/-- All events of trees are of the vocabulary. -/
def EventTree.InVocabulary (forest : List EventTree) : Prop :=
  ∀ event ∈ EventTree.eventsAll forest, event.InVocabulary

/-- The elements that divide a topic. -/
def Dita.Element.frame : List Element := [topic, prolog, body, section_]

/-- Every other element: the content of titles, of the prolog and of the body is made of them. -/
def Dita.Element.contentVocabulary : List Element :=
  vocabulary.filter (fun element => !frame.contains element)

/-- The elements that a body is made of, itself among them. -/
def Dita.Element.bodyVocabulary : List Element := body :: section_ :: contentVocabulary

theorem Dita.Element.contentVocabulary_subset_bodyVocabulary :
    contentVocabulary ⊆ bodyVocabulary := by
  intro element known
  exact List.mem_cons_of_mem _ (List.mem_cons_of_mem _ known)

theorem Dita.Element.contentVocabulary_subset_vocabulary : contentVocabulary ⊆ vocabulary :=
  fun _ known => (List.mem_filter.mp known).1

theorem Dita.Element.bodyVocabulary_subset_vocabulary : bodyVocabulary ⊆ vocabulary := by
  intro element known
  rcases List.mem_cons.mp known with rfl | known
  · decide
  · rcases List.mem_cons.mp known with rfl | content
    · decide
    · exact contentVocabulary_subset_vocabulary content

namespace EventTree

/-- The elements of trees are among `elements`, and have attributes of the vocabulary. -/
def MadeOf (elements : List Element) (forest : List EventTree) : Prop :=
  ∀ name classValue attributes,
    .startElement name classValue attributes ∈ EventTree.eventsAll forest →
      ⟨name, classValue⟩ ∈ elements ∧ attributes.map Attribute.name ∈ attributeNames

variable {elements : List Element}

theorem madeOf_nil : MadeOf elements [] := by
  intro name classValue attributes member
  cases member

theorem madeOf_characters (text : String) : MadeOf elements [.characters text] := by
  intro name classValue attributes member
  simp at member

theorem MadeOf.append {first second : List EventTree} (firstMade : MadeOf elements first)
    (secondMade : MadeOf elements second) : MadeOf elements (first ++ second) := by
  intro name classValue attributes member
  rw [eventsAll_append] at member
  exact (List.mem_append.mp member).elim (firstMade name classValue attributes)
    (secondMade name classValue attributes)

theorem madeOf_of {element : Element} {attributes : List Attribute} {children : List EventTree}
    (known : element ∈ elements) (named : attributes.map Attribute.name ∈ attributeNames)
    (inside : MadeOf elements children) : MadeOf elements [.of element attributes children] := by
  intro name classValue given member
  rw [eventsAll_cons, eventsAll_nil, List.append_nil, events_of] at member
  rcases List.mem_cons.mp member with same | later
  · cases same
    exact ⟨known, named⟩
  · rcases List.mem_append.mp later with content | last
    · exact inside name classValue given content
    · cases List.mem_singleton.mp last

theorem madeOf_flatMap {Item : Type} {items : List Item} {trees : Item → List EventTree}
    (each : ∀ item, MadeOf elements (trees item)) : MadeOf elements (items.flatMap trees) := by
  induction items with
  | nil => exact madeOf_nil
  | cons item rest inductionHypothesis => exact (each item).append inductionHypothesis

theorem madeOf_map {Item : Type} {items : List Item} {tree : Item → EventTree}
    (each : ∀ item, MadeOf elements [tree item]) : MadeOf elements (items.map tree) := by
  rw [← List.flatMap_singleton' (items.map tree), List.flatMap_map]
  exact madeOf_flatMap each

theorem MadeOf.widen {wider : List Element} {forest : List EventTree}
    (made : MadeOf elements forest) (subset : elements ⊆ wider) : MadeOf wider forest := by
  intro name classValue attributes member
  rcases made name classValue attributes member with ⟨known, named⟩
  exact ⟨subset known, named⟩

theorem MadeOf.inVocabulary {forest : List EventTree} (made : MadeOf Dita.Element.vocabulary forest) :
    InVocabulary forest := by
  intro event member
  cases event with
  | startElement name classValue attributes => exact made name classValue attributes member
  | characters text => trivial
  | endElement => trivial
  | endDocument => trivial

end EventTree

open EventTree (MadeOf madeOf_nil madeOf_characters madeOf_of madeOf_map madeOf_flatMap)

open Dita.Element (bodyVocabulary contentVocabulary vocabulary
  contentVocabulary_subset_bodyVocabulary contentVocabulary_subset_vocabulary
  bodyVocabulary_subset_vocabulary)

/-! ## Nodes -/

/-- The element of a rule, if it has one, is one of content with attributes of the vocabulary. -/
def RenderRule.MakesContent : RenderRule → Prop
  | .element container attributes _ =>
    container ∈ contentVocabulary ∧ attributes.map Attribute.name ∈ attributeNames
  | .emptyElement container attributes =>
    container ∈ contentVocabulary ∧ attributes.map Attribute.name ∈ attributeNames
  | _ => True

theorem listStart_names (start : Option Nat) :
    (listStart start).map Attribute.name ∈ attributeNames := by
  unfold listStart
  split
  · decide
  · exact (by decide : ["start"] ∈ attributeNames)
  · decide

theorem codeLanguage_names (language : Option String) :
    (codeLanguage language).map Attribute.name ∈ attributeNames := by
  unfold codeLanguage
  split
  · split
    · decide
    · exact (by decide : ["outputclass"] ∈ attributeNames)
  · decide

theorem linkAttributes_names (target : String) :
    (Link.attributes target).map Attribute.name ∈ attributeNames := by
  unfold Link.attributes Link.hints
  split
  · exact (by decide : ["href", "scope", "format"] ∈ attributeNames)
  · split
    · exact (by decide : ["href", "format"] ∈ attributeNames)
    · exact (by decide : ["href"] ∈ attributeNames)

theorem NodeKind.rule_makesContent (kind : NodeKind) : kind.rule.MakesContent := by
  have outputClass : ["outputclass"] ∈ attributeNames := by decide
  cases kind with
  | heading level => exact ⟨by decide, outputClass⟩
  | list ordered start =>
      cases ordered with
      | true => exact ⟨by decide, listStart_names start⟩
      | false => exact ⟨by decide, by decide⟩
  | codeBlock language literal => exact ⟨by decide, codeLanguage_names language⟩
  | tableRow header => cases header <;> exact ⟨by decide, by decide⟩
  | link url title => exact ⟨by decide, linkAttributes_names url⟩
  | frontMatter header => trivial
  | text content => trivial
  | image url title => trivial
  | lineBreak => trivial
  | unsupported name => trivial
  | _ => exact ⟨by decide, by decide⟩

theorem RenderRule.trees_madeOf {rule : RenderRule} (known : rule.MakesContent)
    (childless : Bool) {content : List EventTree} (inside : MadeOf contentVocabulary content) :
    MadeOf contentVocabulary (rule.trees childless content) := by
  cases rule with
  | element container attributes literal =>
      exact madeOf_of known.1 known.2 ((madeOf_map madeOf_characters).append inside)
  | emptyElement container attributes => exact madeOf_of known.1 known.2 madeOf_nil
  | image href title =>
      refine madeOf_of (by decide) (by exact (by decide : ["href"] ∈ attributeNames)) ?_
      split
      · exact madeOf_of (by decide) (by decide) inside
      · split
        · exact madeOf_nil
        · exact madeOf_of (by decide) (by decide) (madeOf_characters title)
  | characters text => exact madeOf_characters text
  | ignored => exact madeOf_nil
  | unmapped => exact madeOf_nil

/-- Nodes become content and nothing else. -/
theorem Node.treesAll_madeOf (nodes : List Node) :
    MadeOf contentVocabulary (Node.treesAll nodes) := by
  induction nodes using Node.forestInduction with
  | nil =>
      rw [Node.treesAll_nil]
      exact madeOf_nil
  | cons kind position children rest inChildren inRest =>
      rw [Node.treesAll_cons, Node.trees_eq]
      exact (RenderRule.trees_madeOf kind.rule_makesContent _ inChildren).append inRest

theorem Node.trees_madeOf (node : Node) : MadeOf contentVocabulary node.trees := by
  simpa using Node.treesAll_madeOf [node]

/-! ## The prolog -/

namespace Prolog

theorem textTrees_madeOf (header : FrontMatter) (element : Element)
    (known : element ∈ contentVocabulary) : MadeOf contentVocabulary (textTrees header element) := by
  apply madeOf_map
  intro value
  apply madeOf_of known (by decide)
  split
  · exact madeOf_nil
  · exact madeOf_characters _

theorem attributeTrees_madeOf (header : FrontMatter) (element : Element) (name : String)
    (known : element ∈ contentVocabulary) (named : [name] ∈ attributeNames) :
    MadeOf contentVocabulary (attributeTrees header element name) :=
  madeOf_map (fun _ => madeOf_of known named madeOf_nil)

theorem keywordTrees_madeOf (header : FrontMatter) :
    MadeOf contentVocabulary (keywordTrees header) := by
  rw [keywordTrees]
  split
  · exact madeOf_of (by decide) (by decide) (textTrees_madeOf header _ (by decide))
  · exact madeOf_nil

theorem metadataTrees_madeOf (header : FrontMatter) :
    MadeOf contentVocabulary (metadataTrees header) := by
  rw [metadataTrees]
  split
  · exact madeOf_of (by decide) (by decide)
      (((attributeTrees_madeOf header _ _ (by decide) (by decide)).append
        (textTrees_madeOf header _ (by decide))).append (keywordTrees_madeOf header))
  · exact madeOf_nil

theorem dataTrees_madeOf (options : RenderOptions) (header : FrontMatter) :
    MadeOf contentVocabulary (dataTrees options header) := by
  have dataNames : ["name", "value"] ∈ attributeNames := by decide
  exact madeOf_flatMap (fun entry =>
    madeOf_map (fun value => madeOf_of (by decide) dataNames madeOf_nil))

theorem trees_madeOf (options : RenderOptions) (header : FrontMatter) :
    MadeOf contentVocabulary (trees options header) := by
  have authors := textTrees_madeOf header .author (by decide)
  have sources := textTrees_madeOf header .source (by decide)
  have publishers := textTrees_madeOf header .publisher (by decide)
  have permissions := attributeTrees_madeOf header .permissions "view" (by decide) (by decide)
  have resources := attributeTrees_madeOf header .resourceId "appid" (by decide) (by decide)
  exact (((((authors.append sources).append publishers).append permissions).append
    (metadataTrees_madeOf header)).append resources).append (dataTrees_madeOf options header)

end Prolog

/-! ## Sections and the topic -/

theorem titleTree_madeOf (heading : Node) : MadeOf contentVocabulary [titleTree heading] := by
  refine madeOf_of (by decide) ?_ (Node.treesAll_madeOf heading.children)
  unfold titleAttributes
  split
  · exact (by decide : ["outputclass"] ∈ attributeNames)
  · decide

/-- The blocks before the first section are content. -/
theorem sectionTrees_blocks_madeOf (nodes : List Node) :
    MadeOf contentVocabulary (sectionTrees nodes).1 := by
  induction nodes with
  | nil => exact madeOf_nil
  | cons node rest inductionHypothesis =>
      cases isHeading : node.kind.isHeading with
      | true =>
          rw [sectionTrees_heading isHeading]
          exact madeOf_nil
      | false =>
          rw [sectionTrees_block isHeading]
          exact (Node.trees_madeOf node).append inductionHypothesis

/-- What follows are sections of content. -/
theorem sectionTrees_sections_madeOf (nodes : List Node) :
    MadeOf bodyVocabulary (sectionTrees nodes).2 := by
  induction nodes with
  | nil => exact madeOf_nil
  | cons node rest inductionHypothesis =>
      cases isHeading : node.kind.isHeading with
      | true =>
          rw [sectionTrees_heading isHeading]
          have content := (titleTree_madeOf node).append (sectionTrees_blocks_madeOf rest)
          exact (madeOf_of (by decide) (by decide)
            (content.widen contentVocabulary_subset_bodyVocabulary)).append inductionHypothesis
      | false =>
          rw [sectionTrees_block isHeading]
          exact inductionHypothesis

namespace Document

theorem topicTitleTree_madeOf (document : Document) :
    MadeOf contentVocabulary [document.topicTitleTree] := by
  unfold topicTitleTree
  split
  · exact titleTree_madeOf _
  · exact madeOf_of (by decide) (by decide) madeOf_nil

theorem bodyTrees_madeOf (document : Document) : MadeOf bodyVocabulary document.bodyTrees := by
  have blocks := sectionTrees_blocks_madeOf document.bodyBlocks
  unfold bodyTrees
  split
  · exact madeOf_nil
  · exact madeOf_of (by decide) (by decide)
      ((blocks.widen contentVocabulary_subset_bodyVocabulary).append
        (sectionTrees_sections_madeOf document.bodyBlocks))

/-- The topic of any document is made of the vocabulary. -/
theorem topicTree_inVocabulary (options : RenderOptions) (document : Document) :
    EventTree.InVocabulary [document.topicTree options] := by
  have attributes : (document.topicAttributes options).map Attribute.name ∈ attributeNames := by
    unfold topicAttributes
    split
    · exact (by decide : ["id"] ∈ attributeNames)
    · decide
  have title := document.topicTitleTree_madeOf.widen contentVocabulary_subset_vocabulary
  have prolog : MadeOf vocabulary (document.prologTrees options) := by
    unfold prologTrees
    split
    · exact madeOf_of (by decide) (by decide)
        ((Prolog.trees_madeOf options _).widen contentVocabulary_subset_vocabulary)
    · exact madeOf_nil
  have body := document.bodyTrees_madeOf.widen bodyVocabulary_subset_vocabulary
  have whole : MadeOf vocabulary [document.topicTree options] :=
    madeOf_of (by decide) attributes (title.append (prolog.append body))
  exact whole.inVocabulary

end Document

end TopicPress
