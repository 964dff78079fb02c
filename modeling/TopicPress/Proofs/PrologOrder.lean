import Mathlib.Data.List.Forall2
import TopicPress.Proofs.FrontMatterUpdates
import TopicPress.Proofs.PrologReading

/-!
# The order of a prolog

The content of a prolog is read from its events and divided into parts.  Each key with an element of
its own has its part, at a place that does not depend on the front matter; audiences, categories and
keywords share a group, and keywords have one more within it.  A group is there for the keys that
are present, not for their values: a key without values opens it and puts nothing in.  Plain data
comes last, in the order of the keys.
-/

namespace TopicPress

namespace Prolog

open Dita (Element)

/-- A key is present and none of its values is structured. -/
def IsPlain (header : FrontMatter) (key : String) : Prop :=
  ∃ values, header.get? key = some values ∧ ∀ value ∈ values, value.isStructured = false

/-- The values of a key, unless one of them is structured. -/
def plainValues (header : FrontMatter) (key : String) : List MetaValue :=
  if (valuesOf header key).any MetaValue.isStructured then [] else valuesOf header key

/-! ## The shapes of elements -/

/-- An element without attributes that has the text of a value for its content, and no content if
there is no text. -/
def IsTextOf (element : Element) (value : MetaValue) (tree : EventTree) : Prop :=
  (value.asText = "" ∧ tree = .of element [] []) ∨
    (value.asText ≠ "" ∧ tree = .of element [] [.characters value.asText])

/-- An element without content that has the text of a value in its only attribute. -/
def IsAttributeOf (element : Element) (name : String) (value : MetaValue) (tree : EventTree) :
    Prop :=
  tree = .of element [⟨name, value.asText⟩] []

/-- An element of plain data without content, with a key and the text of a value. -/
def IsDataOf (key : String) (value : MetaValue) (tree : EventTree) : Prop :=
  tree = .of .data [⟨"name", key⟩, ⟨"value", value.asText⟩] []

/-- One element for each value of the key that the element stands for, the value in its text. -/
def HoldTexts (header : FrontMatter) (element : Element) (trees : List EventTree) : Prop :=
  List.Forall₂ (IsTextOf element) (plainValues header element.name) trees

/-- One element for each value of the key that the element stands for, the value in the attribute
`name`. -/
def HoldAttributes (header : FrontMatter) (element : Element) (name : String)
    (trees : List EventTree) : Prop :=
  List.Forall₂ (IsAttributeOf element name) (plainValues header element.name) trees

/-- The key that an element of plain data names. -/
def dataKey? : EventTree → Option String
  | .element _ _ attributes _ => attributeValue? "name" attributes
  | .characters _ => none

/-- The keys that elements of plain data name, one after the other. -/
def dataKeys (trees : List EventTree) : List String := trees.filterMap dataKey?

/-! ## The parts -/

/-- What is in the group of audiences, categories and keywords. -/
structure GroupParts where
  audiences : List EventTree
  categories : List EventTree
  /-- The content of the group of keywords. -/
  keywords : Option (List EventTree)

/-- The content of a prolog, part by part. -/
structure Parts where
  authors : List EventTree
  sources : List EventTree
  publishers : List EventTree
  permissions : List EventTree
  group : Option GroupParts
  resources : List EventTree
  data : List EventTree

def GroupParts.tree (parts : GroupParts) : EventTree :=
  .of .metadata [] (parts.audiences ++ parts.categories
    ++ (parts.keywords.map (.of .keywords [])).toList)

/-- The parts one after the other. -/
def Parts.forest (parts : Parts) : List EventTree :=
  parts.authors ++ parts.sources ++ parts.publishers ++ parts.permissions
    ++ (parts.group.map GroupParts.tree).toList ++ parts.resources ++ parts.data

/-- The content of the group follows front matter. -/
structure GroupParts.Follow (header : FrontMatter) (parts : GroupParts) : Prop where
  audiences : HoldAttributes header .audience "audience" parts.audiences
  categories : HoldTexts header .category parts.categories
  keywordsPresent : parts.keywords.isSome ↔ IsPlain header "keyword"
  keywords : ∀ keywords ∈ parts.keywords, HoldTexts header .keyword keywords

/-- The parts of a prolog follow front matter. -/
structure Parts.Follow (header : FrontMatter) (parts : Parts) : Prop where
  authors : HoldTexts header .author parts.authors
  sources : HoldTexts header .source parts.sources
  publishers : HoldTexts header .publisher parts.publishers
  permissions : HoldAttributes header .permissions "view" parts.permissions
  groupPresent : parts.group.isSome ↔
    IsPlain header "audience" ∨ IsPlain header "category" ∨ IsPlain header "keyword"
  group : ∀ group ∈ parts.group, group.Follow header
  resources : HoldAttributes header .resourceId "appid" parts.resources
  data : ∀ tree ∈ parts.data, ∃ key value, IsDataOf key value tree
  /-- The keys of plain data do not decrease in the order of their bytes. -/
  dataOrdered : (dataKeys parts.data).Pairwise (fun left right => keyBytes left ≤ keyBytes right)
  /-- The values of a key stand together, all of them and in their order. -/
  dataTogether : ∀ key ∈ dataKeys parts.data, ∃ before own after,
    parts.data = before ++ own ++ after ∧
      List.Forall₂ (IsDataOf key) (valuesOf header key) own ∧
      key ∉ dataKeys before ∧ key ∉ dataKeys after

/-! ## Elements for keys -/

theorem isSome_structural?_iff (header : FrontMatter) (element : Element) :
    (structural? header element).isSome = true ↔ IsPlain header element.name := by
  rw [structural?, IsPlain]
  cases present : header.get? element.name with
  | none => simp
  | some values => cases structured : values.any MetaValue.isStructured <;> simp_all

theorem holdTexts_textTrees (header : FrontMatter) (element : Element) :
    HoldTexts header element (textTrees header element) := by
  rw [HoldTexts, textTrees, getD_structural?, ← plainValues, List.forall₂_map_right_iff,
    List.forall₂_same]
  intro value member
  by_cases empty : value.asText = ""
  · exact Or.inl ⟨empty, by rw [textTree, empty]; rfl⟩
  · exact Or.inr ⟨empty, by simp [textTree, empty]⟩

theorem holdAttributes_attributeTrees (header : FrontMatter) (element : Element) (name : String) :
    HoldAttributes header element name (attributeTrees header element name) := by
  rw [HoldAttributes, attributeTrees, getD_structural?, ← plainValues,
    List.forall₂_map_right_iff, List.forall₂_same]
  intro value member
  rfl

/-! ## Plain data -/

/-- The elements of plain data for entries. -/
def entryTrees (entries : List FrontMatter.Entry) : List EventTree :=
  entries.flatMap (fun entry => entry.2.map (dataTree entry.1))

theorem dataKeys_entryTrees (entries : List FrontMatter.Entry) :
    dataKeys (entryTrees entries) = entries.flatMap (fun entry => entry.2.map (fun _ => entry.1)) := by
  have named : ∀ key value, dataKey? (dataTree key value) = some key := fun _ _ => rfl
  rw [dataKeys, entryTrees, List.filterMap_flatMap]
  simp [List.filterMap_map, named]

theorem exists_entry_of_mem_dataKeys {entries : List FrontMatter.Entry} {key : String}
    (member : key ∈ dataKeys (entryTrees entries)) : ∃ entry ∈ entries, entry.1 = key := by
  rw [dataKeys_entryTrees, List.mem_flatMap] at member
  rcases member with ⟨entry, listed, found⟩
  rcases List.mem_map.mp found with ⟨value, _, same⟩
  exact ⟨entry, listed, same⟩

theorem dataKeys_ordered {entries : List FrontMatter.Entry}
    (ordered : FrontMatter.Ordered entries) :
    (dataKeys (entryTrees entries)).Pairwise
      (fun left right => keyBytes left ≤ keyBytes right) := by
  rw [dataKeys_entryTrees, List.pairwise_flatMap]
  constructor
  · intro entry listed
    rw [List.pairwise_map]
    exact List.pairwise_of_forall (fun _ _ => List.le_refl _)
  · refine ordered.imp ?_
    intro early late before key member other otherMember
    rcases List.mem_map.mp member with ⟨_, _, rfl⟩
    rcases List.mem_map.mp otherMember with ⟨_, _, rfl⟩
    exact List.le_of_lt before

/-- In ordered entries the elements of one key are the elements of one entry. -/
theorem exists_own_of_mem_dataKeys {entries : List FrontMatter.Entry}
    (ordered : FrontMatter.Ordered entries) {key : String}
    (member : key ∈ dataKeys (entryTrees entries)) :
    ∃ before entry after, entry ∈ entries ∧ entry.1 = key ∧
      entryTrees entries = before ++ entry.2.map (dataTree key) ++ after ∧
      key ∉ dataKeys before ∧ key ∉ dataKeys after := by
  rcases exists_entry_of_mem_dataKeys member with ⟨entry, listed, rfl⟩
  rcases List.append_of_mem listed with ⟨early, late, rfl⟩
  have apart := List.pairwise_append.mp ordered
  refine ⟨entryTrees early, entry, entryTrees late, listed, rfl, ?_, ?_, ?_⟩
  · simp [entryTrees]
  · intro found
    rcases exists_entry_of_mem_dataKeys found with ⟨other, otherListed, same⟩
    have before := apart.2.2 other otherListed entry List.mem_cons_self
    rw [same] at before
    exact KeyBefore.irrefl _ before
  · intro found
    rcases exists_entry_of_mem_dataKeys found with ⟨other, otherListed, same⟩
    have before := (List.pairwise_cons.mp apart.2.1).1 other otherListed
    rw [same] at before
    exact KeyBefore.irrefl _ before

/-! ## The prolog -/

def groupParts (header : FrontMatter) : GroupParts where
  audiences := attributeTrees header .audience "audience"
  categories := textTrees header .category
  keywords :=
    if (structural? header .keyword).isSome then some (textTrees header .keyword) else none

/-- The parts that the content of a prolog is put together of. -/
def parts (options : RenderOptions) (header : FrontMatter) : Parts where
  authors := textTrees header .author
  sources := textTrees header .source
  publishers := textTrees header .publisher
  permissions := attributeTrees header .permissions "view"
  group :=
    if (structural? header .audience).isSome || (structural? header .category).isSome
        || (structural? header .keyword).isSome then
      some (groupParts header)
    else none
  resources := attributeTrees header .resourceId "appid"
  data := dataTrees options header

theorem forest_parts (options : RenderOptions) (header : FrontMatter) :
    (parts options header).forest = trees options header := by
  have keywords : ((groupParts header).keywords.map (.of .keywords [])).toList =
      keywordTrees header := by
    rw [groupParts, keywordTrees]
    cases (structural? header .keyword).isSome <;> rfl
  have group : ((parts options header).group.map GroupParts.tree).toList =
      metadataTrees header := by
    simp only [parts, metadataTrees]
    split
    · rw [Option.map_some, Option.toList_some, GroupParts.tree, keywords]
      rfl
    · rfl
  rw [Parts.forest, group]
  rfl

theorem groupParts_follow (header : FrontMatter) : (groupParts header).Follow header where
  audiences := holdAttributes_attributeTrees header .audience "audience"
  categories := holdTexts_textTrees header .category
  keywordsPresent := by
    have keyword : _ ↔ IsPlain header "keyword" := isSome_structural?_iff header .keyword
    rw [← keyword, groupParts]
    simp
  keywords := by
    intro keywords present
    simp only [groupParts] at present
    split at present
    · cases present
      exact holdTexts_textTrees header .keyword
    · cases present

theorem parts_follow (options : RenderOptions) (header : FrontMatter) :
    (parts options header).Follow header where
  authors := holdTexts_textTrees header .author
  sources := holdTexts_textTrees header .source
  publishers := holdTexts_textTrees header .publisher
  permissions := holdAttributes_attributeTrees header .permissions "view"
  groupPresent := by
    have audience : _ ↔ IsPlain header "audience" := isSome_structural?_iff header .audience
    have category : _ ↔ IsPlain header "category" := isSome_structural?_iff header .category
    have keyword : _ ↔ IsPlain header "keyword" := isSome_structural?_iff header .keyword
    rw [← audience, ← category, ← keyword, parts]
    simp [or_assoc]
  group := by
    intro group present
    simp only [parts] at present
    split at present
    · cases present
      exact groupParts_follow header
    · cases present
  resources := holdAttributes_attributeTrees header .resourceId "appid"
  data := by
    intro tree member
    rcases List.mem_flatMap.mp member with ⟨entry, _, found⟩
    rcases List.mem_map.mp found with ⟨value, _, rfl⟩
    exact ⟨entry.1, value, rfl⟩
  dataOrdered := dataKeys_ordered (header.ordered.filter _)
  dataTogether := by
    intro key member
    rcases exists_own_of_mem_dataKeys (header.ordered.filter _) member with
      ⟨before, entry, after, chosen, rfl, whole, notBefore, notAfter⟩
    have values : valuesOf header entry.1 = entry.2 := by
      rw [valuesOf, FrontMatter.get?_of_mem (List.mem_filter.mp chosen).1]
      rfl
    refine ⟨before, entry.2.map (dataTree entry.1), after, whole, ?_, notBefore, notAfter⟩
    rw [values, List.forall₂_map_right_iff, List.forall₂_same]
    intro value _
    rfl

/-- The events of a prolog are those of its parts in their order, and the parts follow the front
matter. -/
theorem events_inOrder (options : RenderOptions) (header : FrontMatter) :
    ∃ parts : Parts, EventTree.forest? (events options header) = some parts.forest ∧
      parts.Follow header := by
  refine ⟨parts options header, ?_, parts_follow options header⟩
  rw [forest_parts, ← eventsAll_trees, EventTree.forest?_eventsAll]

/-- A key without values opens its groups. -/
example : events {} (FrontMatter.ofList [("keyword", [])]) =
    [.start .metadata [], .start .keywords [], .endElement, .endElement] := by
  decide

end Prolog

end TopicPress
