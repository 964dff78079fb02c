import TopicPress.Proofs.EventReading
import TopicPress.Proofs.TopicTree

/-!
# Reading front matter back from a prolog

Front matter goes into a prolog in six shapes: as the content of an element, in one of three
attributes, within groups, and as plain data.  A reader that knows the shapes, but neither the
options nor the front matter, gets the values of every key back, in their order and each once.  The
one key that may be missing is the one that names the topic.
-/

namespace TopicPress.Prolog

open Dita (Element)

/-! ## The reader -/

/-- A value that is read from a prolog, with the key that it belongs to. -/
structure Reading where
  key : String
  text : String
  /-- The value stands in an element of plain data. -/
  asData : Bool
  deriving DecidableEq

/-- The elements that have a value for their content. -/
def textElements : List Element := [.author, .source, .publisher, .category, .keyword]

/-- The elements that have a value in an attribute, with the name of the attribute. -/
def attributeElements : List (Element × String) :=
  [(.permissions, "view"), (.audience, "audience"), (.resourceId, "appid")]

/-- The characters that stand directly in an element. -/
def contentText (content : List EventTree) : String :=
  String.join (content.map fun
    | .characters text => text
    | .element _ _ _ _ => "")

def attributeValue? (name : String) (attributes : List Attribute) : Option String :=
  (attributes.find? (fun item => item.name == name)).map Attribute.value

/-- The value that an element holds by itself, if it is of a kind that holds one. -/
def readElement? (name : String) (attributes : List Attribute) (content : List EventTree) :
    Option Reading :=
  if textElements.any (fun element => element.name == name) then
    some ⟨name, contentText content, false⟩
  else
    match attributeElements.find? (fun item => item.1.name == name) with
    | some (_, valueName) => (attributeValue? valueName attributes).map (⟨name, ·, false⟩)
    | none =>
      if name = Element.data.name then
        match attributeValue? "name" attributes, attributeValue? "value" attributes with
        | some key, some value => some ⟨key, value, true⟩
        | _, _ => none
      else none

mutual

/-- The values in a tree.  An element that holds none by itself may be a group of others. -/
def readings (tree : EventTree) : List Reading :=
  match tree with
  | .element name _ attributes content =>
    match readElement? name attributes content with
    | some reading => [reading]
    | none => readingsAll content
  | .characters _ => []

/-- The values in trees, one tree after the other. -/
def readingsAll : List EventTree → List Reading
  | [] => []
  | tree :: rest => readings tree ++ readingsAll rest

end

/-- The values in the events of a prolog, if these are the events of trees. -/
def read? (events : List Event) : Option (List Reading) :=
  (EventTree.forest? events).map readingsAll

@[simp] theorem readingsAll_nil : readingsAll [] = [] := by
  rw [readingsAll]

@[simp] theorem readingsAll_cons (tree : EventTree) (rest : List EventTree) :
    readingsAll (tree :: rest) = readings tree ++ readingsAll rest := by
  rw [readingsAll]

@[simp] theorem readingsAll_append (first second : List EventTree) :
    readingsAll (first ++ second) = readingsAll first ++ readingsAll second := by
  induction first with
  | nil => simp
  | cons tree rest inductionHypothesis =>
      rw [List.cons_append, readingsAll_cons, inductionHypothesis, readingsAll_cons,
        List.append_assoc]

theorem readingsAll_flatMap {Item : Type} (items : List Item) (trees : Item → List EventTree) :
    readingsAll (items.flatMap trees) = items.flatMap (fun item => readingsAll (trees item)) := by
  induction items with
  | nil => exact readingsAll_nil
  | cons item rest inductionHypothesis =>
      rw [List.flatMap_cons, List.flatMap_cons, readingsAll_append, inductionHypothesis]

/-- Trees that hold one value each are read one value after the other. -/
theorem readingsAll_map {Item : Type} {tree : Item → EventTree} {reading : Item → Reading}
    (each : ∀ item, readings (tree item) = [reading item]) (items : List Item) :
    readingsAll (items.map tree) = items.map reading := by
  induction items with
  | nil => exact readingsAll_nil
  | cons item rest inductionHypothesis =>
      rw [List.map_cons, readingsAll_cons, each, inductionHypothesis, List.map_cons,
        List.singleton_append]

theorem readings_of_element {container : Element} {attributes : List Attribute}
    {content : List EventTree} {reading : Reading}
    (holds : readElement? container.name attributes content = some reading) :
    readings (.of container attributes content) = [reading] := by
  rw [EventTree.of, readings, holds]

theorem readings_of_group {container : Element} {attributes : List Attribute}
    {content : List EventTree} (group : readElement? container.name attributes content = none) :
    readings (.of container attributes content) = readingsAll content := by
  rw [EventTree.of, readings, group]

/-! ## The values of a prolog -/

/-- The readings of the values of `key` that have an element of their own. -/
def structuralReadings (header : FrontMatter) (element : Element) : List Reading :=
  ((structural? header element).getD []).map (fun value => ⟨element.name, value.asText, false⟩)

theorem structuralReadings_of_absent {header : FrontMatter} {element : Element}
    (absent : (structural? header element).isSome = false) :
    structuralReadings header element = [] := by
  rw [structuralReadings, Option.isNone_iff_eq_none.mp (Option.isSome_eq_false_iff.mp absent)]
  rfl

/-- The readings of the values that are plain data. -/
def dataReadings (options : RenderOptions) (header : FrontMatter) : List Reading :=
  (header.entries.filter (fun entry =>
    !isKnown options entry.1 || isDemoted options header entry.1)).flatMap
      (fun entry => entry.2.map (fun value => ⟨entry.1, value.asText, true⟩))

theorem readingsAll_textTrees (header : FrontMatter) {element : Element}
    (holdsText : textElements.any (fun other => other.name == element.name) = true) :
    readingsAll (textTrees header element) = structuralReadings header element := by
  apply readingsAll_map
  intro value
  apply readings_of_element
  rw [readElement?, if_pos holdsText]
  cases empty : value.asText.isEmpty with
  | true =>
      rw [String.isEmpty_iff.mp empty]
      rfl
  | false =>
      rw [if_neg Bool.false_ne_true, contentText, List.map_singleton, String.join_cons,
        String.join_nil, String.append_empty]

theorem readingsAll_attributeTrees (header : FrontMatter) {element : Element} {name : String}
    (holdsNoText : textElements.any (fun other => other.name == element.name) = false)
    (holdsAttribute : attributeElements.find? (fun item => item.1.name == element.name) =
      some (element, name)) :
    readingsAll (attributeTrees header element name) = structuralReadings header element := by
  apply readingsAll_map
  intro value
  apply readings_of_element
  rw [readElement?, holdsNoText, if_neg Bool.false_ne_true, holdsAttribute]
  simp [attributeValue?]

theorem readingsAll_keywordTrees (header : FrontMatter) :
    readingsAll (keywordTrees header) = structuralReadings header .keyword := by
  rw [keywordTrees]
  split
  · rw [readingsAll_cons, readingsAll_nil, List.append_nil, readings_of_group (by rfl),
      readingsAll_textTrees header (by decide)]
  · rename_i absent
    rw [structuralReadings_of_absent (Bool.not_eq_true _ ▸ absent), readingsAll_nil]

theorem readingsAll_metadataTrees (header : FrontMatter) :
    readingsAll (metadataTrees header) =
      structuralReadings header .audience ++ structuralReadings header .category
        ++ structuralReadings header .keyword := by
  rw [metadataTrees]
  split
  · rw [readingsAll_cons, readingsAll_nil, List.append_nil, readings_of_group (by rfl),
      readingsAll_append, readingsAll_append,
      readingsAll_attributeTrees header (by decide) (by decide),
      readingsAll_textTrees header (by decide), readingsAll_keywordTrees]
  · rename_i absent
    rw [Bool.not_eq_true, Bool.or_eq_false_iff, Bool.or_eq_false_iff] at absent
    rcases absent with ⟨⟨noAudience, noCategory⟩, noKeyword⟩
    rw [structuralReadings_of_absent noAudience, structuralReadings_of_absent noCategory,
      structuralReadings_of_absent noKeyword, readingsAll_nil]
    rfl

theorem readingsAll_dataTrees (options : RenderOptions) (header : FrontMatter) :
    readingsAll (dataTrees options header) = dataReadings options header := by
  have each : ∀ key value, readings (dataTree key value) = [⟨key, value.asText, true⟩] := by
    intro key value
    apply readings_of_element
    rfl
  rw [dataTrees, dataReadings, readingsAll_flatMap]
  congr 1
  funext entry
  exact readingsAll_map (each entry.1) entry.2

/-- The elements that stand for keys, in the order of the prolog. -/
def valueElements : List Element :=
  [.author, .source, .publisher, .permissions, .audience, .category, .keyword, .resourceId]

/-- A prolog has the values of the keys with an element of their own, and then the plain data. -/
theorem readingsAll_trees (options : RenderOptions) (header : FrontMatter) :
    readingsAll (trees options header) =
      valueElements.flatMap (structuralReadings header) ++ dataReadings options header := by
  have authors := readingsAll_textTrees header
    (by decide : textElements.any (fun other => other.name == Element.author.name) = true)
  have sources := readingsAll_textTrees header
    (by decide : textElements.any (fun other => other.name == Element.source.name) = true)
  have publishers := readingsAll_textTrees header
    (by decide : textElements.any (fun other => other.name == Element.publisher.name) = true)
  have permissions : readingsAll (attributeTrees header .permissions "view") =
      structuralReadings header .permissions :=
    readingsAll_attributeTrees header (by decide) (by decide)
  have resources : readingsAll (attributeTrees header .resourceId "appid") =
      structuralReadings header .resourceId :=
    readingsAll_attributeTrees header (by decide) (by decide)
  simp only [trees, readingsAll_append, authors, sources, publishers, permissions,
    readingsAll_metadataTrees, resources, readingsAll_dataTrees, valueElements, List.flatMap_cons,
    List.flatMap_nil, List.append_nil, List.append_assoc]

/-! ## The values of one key -/

/-- The texts that are read for a key, in their order. -/
def textsOf (key : String) (found : List Reading) : List String :=
  (found.filter (fun reading => reading.key == key)).map Reading.text

theorem textsOf_append (key : String) (first second : List Reading) :
    textsOf key (first ++ second) = textsOf key first ++ textsOf key second := by
  rw [textsOf, List.filter_append, List.map_append]
  rfl

theorem textsOf_flatMap {Item : Type} (key : String) (items : List Item)
    (found : Item → List Reading) :
    textsOf key (items.flatMap found) = items.flatMap (fun item => textsOf key (found item)) := by
  induction items with
  | nil => rfl
  | cons item rest inductionHypothesis =>
      rw [List.flatMap_cons, List.flatMap_cons, textsOf_append, inductionHypothesis]

/-- Readings of values of one key are found for this key and for no other. -/
theorem textsOf_map (key other : String) (asData : Bool) (values : List MetaValue) :
    textsOf key (values.map (fun value => ⟨other, value.asText, asData⟩)) =
      if other = key then values.map MetaValue.asText else [] := by
  have ofKey : ((fun reading : Reading => reading.key == key) ∘
      fun value : MetaValue => ⟨other, value.asText, asData⟩) = fun _ => other == key := rfl
  rw [textsOf, List.filter_map, ofKey, List.map_map]
  by_cases same : other = key
  · rw [if_pos same, List.filter_eq_self.mpr (fun _ _ => beq_iff_eq.mpr same)]
    rfl
  · rw [if_neg same, List.filter_eq_nil_iff.mpr (fun _ _ held => same (beq_iff_eq.mp held))]
    rfl

def valuesOf (header : FrontMatter) (key : String) : List MetaValue := (header.get? key).getD []

theorem getD_structural? (header : FrontMatter) (element : Element) :
    (structural? header element).getD [] =
      if (valuesOf header element.name).any MetaValue.isStructured then []
      else valuesOf header element.name := by
  rw [structural?, valuesOf]
  cases header.get? element.name with
  | none => rfl
  | some values => cases structured : values.any MetaValue.isStructured <;> simp [structured]

private theorem flatMap_of_name {elements : List Element}
    (distinct : (elements.map Element.name).Nodup) (key : String) (texts : List String) :
    elements.flatMap (fun element => if element.name = key then texts else []) =
      if elements.any (fun element => element.name == key) then texts else [] := by
  induction elements with
  | nil => rfl
  | cons element rest inductionHypothesis =>
      rw [List.map_cons, List.nodup_cons] at distinct
      rw [List.flatMap_cons, inductionHypothesis distinct.2, List.any_cons]
      by_cases same : element.name = key
      · have absent : rest.any (fun other => other.name == key) = false := by
          rw [List.any_eq_false]
          intro other member equal
          exact distinct.1 (List.mem_map.mpr ⟨other, member, (beq_iff_eq.mp equal).trans same.symm⟩)
        rw [absent, beq_iff_eq.mpr same, if_pos same]
        exact List.append_nil texts
      · rw [if_neg same, beq_eq_false_iff_ne.mpr same, Bool.false_or, List.nil_append]

/-- A key with an element of its own has its values there, unless one of them is structured. -/
theorem textsOf_structuralReadings (header : FrontMatter) (key : String) :
    textsOf key (valueElements.flatMap (structuralReadings header)) =
      if valueElements.any (fun element => element.name == key) &&
          !(valuesOf header key).any MetaValue.isStructured then
        (valuesOf header key).map MetaValue.asText
      else [] := by
  have each : ∀ element : Element, textsOf key (structuralReadings header element) =
      if element.name = key then
        (if (valuesOf header key).any MetaValue.isStructured then []
          else (valuesOf header key).map MetaValue.asText)
      else [] := by
    intro element
    rw [structuralReadings, getD_structural?, textsOf_map]
    by_cases same : element.name = key
    · rw [if_pos same, if_pos same, same]
      split <;> rfl
    · rw [if_neg same, if_neg same]
  rw [textsOf_flatMap]
  simp only [each]
  rw [flatMap_of_name (by decide)]
  cases valueElements.any (fun element => element.name == key) <;>
    cases (valuesOf header key).any MetaValue.isStructured <;> rfl

/-- Of entries in order, those that are chosen by their key are found for this key. -/
private theorem textsOf_entries {entries : List FrontMatter.Entry}
    (ordered : FrontMatter.Ordered entries) (chosen : String → Bool) (key : String) :
    textsOf key ((entries.filter (fun entry => chosen entry.1)).flatMap
        (fun entry => entry.2.map (fun value => ⟨entry.1, value.asText, true⟩))) =
      if chosen key then ((entries.lookup key).getD []).map MetaValue.asText else [] := by
  rw [textsOf_flatMap]
  simp only [textsOf_map]
  induction entries with
  | nil => simp
  | cons entry rest inductionHypothesis =>
      have ⟨before, restOrdered⟩ := List.pairwise_cons.mp ordered
      have later := inductionHypothesis restOrdered
      by_cases same : entry.1 = key
      · -- The key is not found again behind its entry.
        have absent : rest.lookup key = none := by
          rw [List.lookup_eq_none_iff]
          intro other member
          rw [bne_iff_ne]
          rintro rfl
          exact KeyBefore.irrefl _ (same ▸ before other member)
        rw [absent] at later
        have found : (entry :: rest).lookup key = some entry.2 := by
          rw [← same, List.lookup_cons_self]
        rw [found, List.filter_cons, same]
        cases isChosen : chosen key with
        | true =>
            rw [isChosen] at later
            rw [if_pos rfl, List.flatMap_cons, later, if_pos same]
            exact List.append_nil _
        | false =>
            rw [isChosen] at later
            exact later
      · have found : (entry :: rest).lookup key = rest.lookup key := by
          rw [List.lookup_cons, beq_eq_false_iff_ne.mpr (Ne.symm same)]
        rw [found, ← later, List.filter_cons]
        split
        · rw [List.flatMap_cons, if_neg same, List.nil_append]
        · rfl

theorem textsOf_dataReadings (options : RenderOptions) (header : FrontMatter) (key : String) :
    textsOf key (dataReadings options header) =
      if !isKnown options key || isDemoted options header key then
        (valuesOf header key).map MetaValue.asText
      else [] :=
  textsOf_entries header.ordered
    (fun key => !isKnown options key || isDemoted options header key) key

theorem isDemoted_eq (options : RenderOptions) (header : FrontMatter) (key : String) :
    isDemoted options header key =
      (isKnown options key && (valuesOf header key).any MetaValue.isStructured) := by
  rw [isDemoted, valuesOf]
  cases header.get? key <;> rfl

theorem isKnown_eq (options : RenderOptions) (key : String) :
    isKnown options key =
      (valueElements.any (fun element => element.name == key) ||
        (options.identifierFromMetadata && key == identifierKey)) := by
  have perm : keyElements.Perm valueElements := by decide
  rw [isKnown, perm.any_eq]

/-- The identifier has no element of its own. -/
theorem identifierKey_not_element :
    valueElements.any (fun element => element.name == identifierKey) = false := by
  decide

/-- Whether a reading is plain data is a matter of its key. -/
theorem asData_of_mem {options : RenderOptions} {header : FrontMatter} {reading : Reading}
    (member : reading ∈ readingsAll (trees options header)) :
    reading.asData = (!isKnown options reading.key || isDemoted options header reading.key) := by
  rw [readingsAll_trees, List.mem_append] at member
  rcases member with structural | data
  · rcases List.mem_flatMap.mp structural with ⟨element, listed, found⟩
    rw [structuralReadings, getD_structural?] at found
    rcases List.mem_map.mp found with ⟨value, valued, rfl⟩
    have known : valueElements.any (fun other => other.name == element.name) = true :=
      List.any_eq_true.mpr ⟨element, listed, beq_self_eq_true _⟩
    rw [isDemoted_eq, isKnown_eq, known]
    cases structured : (valuesOf header element.name).any MetaValue.isStructured with
    | true =>
        rw [structured, if_pos rfl] at valued
        cases valued
    | false => rfl
  · rcases List.mem_flatMap.mp data with ⟨entry, listed, found⟩
    rcases List.mem_map.mp found with ⟨value, valued, rfl⟩
    exact (List.mem_filter.mp listed).2.symm

/-- Reading the events of a prolog gives back the values of every key: in their order, each once, and
nothing for a key that is absent.  Only the key that may name the topic is left out when the options
let it, unless one of its values is structured.  No key is read in two ways. -/
theorem readings_eq_values (options : RenderOptions) (header : FrontMatter) :
    ∃ found, read? (events options header) = some found ∧
      (∀ key, textsOf key found =
        if key = identifierKey ∧ options.identifierFromMetadata = true ∧
            (valuesOf header key).any MetaValue.isStructured = false then []
        else (valuesOf header key).map MetaValue.asText) ∧
      ∀ first ∈ found, ∀ second ∈ found, first.key = second.key →
        first.asData = second.asData := by
  refine ⟨readingsAll (trees options header), ?_, ?_, ?_⟩
  · rw [read?, ← eventsAll_trees, EventTree.forest?_eventsAll]
    rfl
  · intro key
    rw [readingsAll_trees, textsOf_append, textsOf_structuralReadings, textsOf_dataReadings,
      isDemoted_eq, isKnown_eq]
    cases structured : (valuesOf header key).any MetaValue.isStructured with
    | true =>
        cases valueElements.any (fun element => element.name == key) <;>
          cases options.identifierFromMetadata && key == identifierKey <;> simp
    | false =>
        by_cases identifier : key = identifierKey
        · rw [identifier, identifierKey_not_element]
          cases options.identifierFromMetadata <;> simp
        · have spared : ¬ (key = identifierKey ∧ options.identifierFromMetadata = true ∧
              false = false) := fun both => identifier both.1
          rw [if_neg spared, beq_eq_false_iff_ne.mpr identifier]
          cases valueElements.any (fun element => element.name == key) <;> simp
  · intro first firstFound second secondFound same
    rw [asData_of_mem firstFound, asData_of_mem secondFound, same]

/-- A key with a mapping among its values, a key with nothing for one of them, and the key that names
the topic. -/
theorem readings_of_demoted_author :
    let options : RenderOptions := { identifierFromMetadata := true }
    let header := FrontMatter.ofList [("author", [.scalar "A", .structured "B: C"]),
      ("id", [.scalar "x"]), ("keyword", [.null, .scalar "K"])]
    ∃ found, read? (events options header) = some found ∧
      textsOf "author" found = ["A", "B: C"] ∧ textsOf "keyword" found = ["", "K"] ∧
      textsOf "id" found = [] ∧
      ∃ first ∈ found, ∃ second ∈ found, first.text = "A" ∧ second.text = "B: C" ∧
        first.asData = second.asData := by
  intro options header
  rcases readings_eq_values options header with ⟨found, read, texts, oneWay⟩
  have authors : textsOf "author" found = ["A", "B: C"] := by
    rw [texts]
    decide
  have exists_reading : ∀ text ∈ ["A", "B: C"], ∃ reading ∈ found,
      reading.key = "author" ∧ reading.text = text := by
    intro text member
    rw [← authors, textsOf] at member
    rcases List.mem_map.mp member with ⟨reading, chosen, same⟩
    rcases List.mem_filter.mp chosen with ⟨isFound, ofKey⟩
    exact ⟨reading, isFound, beq_iff_eq.mp ofKey, same⟩
  rcases exists_reading "A" (by simp) with ⟨first, firstFound, firstKey, firstText⟩
  rcases exists_reading "B: C" (by simp) with ⟨second, secondFound, secondKey, secondText⟩
  refine ⟨found, read, authors, ?_, ?_, first, firstFound, second, secondFound, firstText,
    secondText, oneWay first firstFound second secondFound (firstKey.trans secondKey.symm)⟩
  · rw [texts]
    decide
  · rw [texts]
    decide

end TopicPress.Prolog
