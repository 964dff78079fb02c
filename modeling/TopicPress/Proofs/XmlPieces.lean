import TopicPress.Proofs.XmlWellFormed

/-!
# The pieces of what is written

What a writer of XML writes is made of pieces: markup, which consists of fixed characters and of names,
and the data of events, each spelled out character by character.  In texts and attribute values a
character that XML does not allow is written as a replacement character, exactly one for each, and all
others stay where they are.  Values of the class attribute are data like the others, but nothing in them
is replaced.
-/

namespace TopicPress

open Xml.Grammar (IsCharacter isCharacter_of_all_isPrinted)

/-! ## Data and pieces -/

namespace Xml

instance : DecidablePred IsCharacter := fun c => decidable_of_iff _ (isAllowed_iff c)

/-- What an event asks to have written, apart from names. -/
inductive Datum where
  | classValue (text : String)
  | value (text : String)
  | content (text : String)

/-- The written form of a character in a text or in an attribute value. -/
def spellCharacter (c : Char) : List Char :=
  if IsCharacter c then escapeCharacter c else ['\uFFFD']

def Datum.spelled : Datum → List Char
  | classValue text => text.toList.flatMap escapeCharacter
  | value text => text.toList.flatMap spellCharacter
  | content text => text.toList.flatMap spellCharacter

/-- A part of what is written. -/
inductive Piece where
  | declaration
  | tagBegin (name : String)
  | valueBegin (name : String)
  | datum (given : Datum)
  | valueEnd
  | tagEnd
  | emptyTagEnd
  | closingTag (name : String)

namespace Piece

def spelled : Piece → List Char
  | declaration => Writer.declaration.toList
  | tagBegin name => '<' :: name.toList
  | valueBegin name => ' ' :: (name.toList ++ ['=', '"'])
  | datum given => given.spelled
  | valueEnd => ['"']
  | tagEnd => ['>']
  | emptyTagEnd => ['/', '>']
  | closingTag name => '<' :: '/' :: (name.toList ++ ['>'])

def name? : Piece → Option String
  | tagBegin name => some name
  | valueBegin name => some name
  | closingTag name => some name
  | _ => none

def datum? : Piece → Option Datum
  | datum given => some given
  | _ => none

/-- The names in a piece are made of characters of XML. -/
def NamesAllowed (piece : Piece) : Prop := ∀ name ∈ piece.name?, ∀ c ∈ name.toList, IsCharacter c

/-- An attribute with the blank before it. -/
def ofAttribute (name : String) (value : Datum) : List Piece :=
  [valueBegin name, datum value, valueEnd]

/-- A start tag, up to what ends it. -/
def ofTag (name classValue : String) (attributes : List Attribute) : List Piece :=
  tagBegin name :: (ofAttribute "class" (.classValue classValue) ++
    attributes.flatMap (fun item => ofAttribute item.name (.value item.value)))

/-- The data among the pieces. -/
def dataOf (pieces : List Piece) : List Datum := pieces.filterMap datum?

end Piece

end Xml

namespace Event

open Xml (Datum)

/-- The data of an event, in the order in which they are written. -/
def data : Event → List Datum
  | startElement _ classValue attributes =>
    .classValue classValue :: attributes.map (fun item => .value item.value)
  | characters text => if text = "" then [] else [.content text]
  | _ => []

/-- The names in an event are made of characters of XML. -/
def NamesAllowed : Event → Prop
  | startElement name _ attributes =>
    (∀ c ∈ name.toList, IsCharacter c) ∧ ∀ item ∈ attributes, ∀ c ∈ item.name.toList, IsCharacter c
  | _ => True

end Event

namespace Xml

/-! ## Spelling -/

theorem spellCharacter_eq (c : Char) : escapeCharacter (mendCharacter c) = spellCharacter c := by
  rw [spellCharacter, mendCharacter]
  by_cases allowed : isAllowed c = true
  · rw [if_pos allowed, if_pos ((isAllowed_iff c).mp allowed)]
  · rw [if_neg allowed, if_neg (fun isCharacter => allowed ((isAllowed_iff c).mpr isCharacter))]
    rfl

theorem toList_escape_mend (text : String) :
    (escape (mend text)).toList = text.toList.flatMap spellCharacter := by
  rw [escape, mend, String.toList_ofList, String.toList_ofList, List.flatMap_map]
  exact congrArg text.toList.flatMap (funext spellCharacter_eq)

/-- The five characters that are not written as they are, and what is written for them, are characters
of XML. -/
theorem isCharacter_of_mem_escapeCharacter {c written : Char} (allowed : IsCharacter c)
    (member : written ∈ escapeCharacter c) : IsCharacter written := by
  have derived := data_escapeCharacter ((isAllowed_iff c).mpr allowed) Grammar.Data.nil
  exact derived.isCharacter written (by simpa using member)

theorem isCharacter_of_mem_spellCharacter {c written : Char}
    (member : written ∈ spellCharacter c) : IsCharacter written := by
  rw [spellCharacter] at member
  split at member
  · rename_i allowed
    exact isCharacter_of_mem_escapeCharacter allowed member
  · rw [List.mem_singleton.mp member]
    decide

/-- What XML does not allow is escaped as it is. -/
theorem escapeCharacter_of_not_isCharacter {c : Char} (forbidden : ¬ IsCharacter c) :
    escapeCharacter c = [c] := by
  unfold escapeCharacter
  split
  · exact absurd (by decide) forbidden
  · exact absurd (by decide) forbidden
  · exact absurd (by decide) forbidden
  · exact absurd (by decide) forbidden
  · exact absurd (by decide) forbidden
  · rfl

theorem isCharacter_flatMap_escapeCharacter_iff (text : List Char) :
    (∀ c ∈ text.flatMap escapeCharacter, IsCharacter c) ↔ ∀ c ∈ text, IsCharacter c := by
  constructor
  · intro allowed c member
    refine Decidable.byContradiction fun forbidden => ?_
    refine forbidden (allowed c (List.mem_flatMap.mpr ⟨c, member, ?_⟩))
    rw [escapeCharacter_of_not_isCharacter forbidden]
    exact List.mem_singleton_self c
  · intro allowed c member
    rcases List.mem_flatMap.mp member with ⟨original, listed, written⟩
    exact isCharacter_of_mem_escapeCharacter (allowed original listed) written

theorem isCharacter_flatMap_spellCharacter (text : List Char) :
    ∀ c ∈ text.flatMap spellCharacter, IsCharacter c := by
  intro c member
  rcases List.mem_flatMap.mp member with ⟨original, _, written⟩
  exact isCharacter_of_mem_spellCharacter written

namespace Piece

theorem dataOf_append (first second : List Piece) :
    dataOf (first ++ second) = dataOf first ++ dataOf second :=
  List.filterMap_append

theorem mem_dataOf {given : Datum} {pieces : List Piece} :
    given ∈ dataOf pieces ↔ datum given ∈ pieces := by
  rw [dataOf, List.mem_filterMap]
  constructor
  · rintro ⟨piece, listed, same⟩
    cases piece with
    | datum other =>
        cases same
        exact listed
    | _ => cases same
  · intro listed
    exact ⟨_, listed, rfl⟩

theorem dataOf_ofTag (name classValue : String) (attributes : List Attribute) :
    dataOf (ofTag name classValue attributes) =
      (Event.startElement name classValue attributes).data := by
  have values : dataOf (attributes.flatMap (fun item => ofAttribute item.name (.value item.value))) =
      attributes.map (fun item => .value item.value) := by
    induction attributes with
    | nil => rfl
    | cons item rest inductionHypothesis =>
        rw [List.flatMap_cons, dataOf_append, inductionHypothesis]
        rfl
  rw [ofTag, dataOf, List.filterMap_cons_none rfl, List.filterMap_append]
  exact congrArg (Datum.classValue classValue :: ·) values

theorem spelled_ofAttribute {name value : String} {given : Datum}
    (same : (escape value).toList = given.spelled) :
    (ofAttribute name given).flatMap spelled = (StartTag.attributeText ⟨name, value⟩).toList := by
  simp [ofAttribute, spelled, StartTag.attributeText, same]

theorem spelled_ofTag (name classValue : String) (attributes : List Attribute) :
    (ofTag name classValue attributes).flatMap spelled =
      '<' :: (StartTag.inner ⟨name, classValue, attributes.map Writer.mendAttribute⟩).toList := by
  have values : (attributes.flatMap (fun item =>
        ofAttribute item.name (.value item.value))).flatMap spelled =
      (String.join ((attributes.map Writer.mendAttribute).map StartTag.attributeText)).toList := by
    induction attributes with
    | nil => rfl
    | cons item rest inductionHypothesis =>
        rw [List.flatMap_cons, List.flatMap_append, inductionHypothesis,
          spelled_ofAttribute (toList_escape_mend item.value)]
        simp [Writer.mendAttribute]
  have first : (ofAttribute "class" (.classValue classValue)).flatMap spelled =
      (StartTag.attributeText ⟨"class", classValue⟩).toList :=
    spelled_ofAttribute String.toList_ofList
  rw [ofTag, List.flatMap_cons, List.flatMap_append, first, values]
  simp [spelled, StartTag.inner]

theorem namesAllowed_ofAttribute {name : String} (allowed : ∀ c ∈ name.toList, IsCharacter c)
    (given : Datum) : ∀ piece ∈ ofAttribute name given, piece.NamesAllowed := by
  intro piece member
  simp only [ofAttribute, List.mem_cons, List.not_mem_nil, or_false] at member
  rcases member with rfl | rfl | rfl
  · simpa [NamesAllowed, name?] using allowed
  · simp [NamesAllowed, name?]
  · simp [NamesAllowed, name?]

theorem namesAllowed_ofTag {name classValue : String} {attributes : List Attribute}
    (named : (Event.startElement name classValue attributes).NamesAllowed) :
    ∀ piece ∈ ofTag name classValue attributes, piece.NamesAllowed := by
  intro piece member
  rw [ofTag, List.mem_cons, List.mem_append, List.mem_flatMap] at member
  rcases member with rfl | inClass | ⟨item, listed, inItem⟩
  · simpa [NamesAllowed, name?] using named.1
  · exact namesAllowed_ofAttribute (isCharacter_of_all_isPrinted (by decide)) _ piece inClass
  · exact namesAllowed_ofAttribute (named.2 item listed) _ piece inItem

/-- Every piece is spelled with characters of XML, unless it is a class with others in it. -/
theorem isCharacter_spelled_iff {piece : Piece} (named : piece.NamesAllowed) :
    (∀ c ∈ piece.spelled, IsCharacter c) ↔
      ∀ text, piece = .datum (.classValue text) → ∀ c ∈ text.toList, IsCharacter c := by
  have spelt : (∀ text, piece ≠ .datum (.classValue text)) → ∀ c ∈ piece.spelled, IsCharacter c := by
    intro noClass
    cases piece with
    | datum given =>
        cases given with
        | classValue text => exact absurd rfl (noClass text)
        | value text => exact isCharacter_flatMap_spellCharacter _
        | content text => exact isCharacter_flatMap_spellCharacter _
    | tagBegin name => exact List.forall_mem_cons.mpr ⟨by decide, named name rfl⟩
    | valueBegin name =>
        exact List.forall_mem_cons.mpr ⟨by decide,
          List.forall_mem_append.mpr ⟨named name rfl, isCharacter_of_all_isPrinted (by decide)⟩⟩
    | closingTag name =>
        exact List.forall_mem_cons.mpr ⟨by decide, List.forall_mem_cons.mpr ⟨by decide,
          List.forall_mem_append.mpr ⟨named name rfl, isCharacter_of_all_isPrinted (by decide)⟩⟩⟩
    | declaration => exact isCharacter_of_all_isPrinted (by decide)
    | valueEnd => exact isCharacter_of_all_isPrinted (by decide)
    | tagEnd => exact isCharacter_of_all_isPrinted (by decide)
    | emptyTagEnd => exact isCharacter_of_all_isPrinted (by decide)
  by_cases isClass : ∃ text, piece = .datum (.classValue text)
  · rcases isClass with ⟨text, rfl⟩
    have escaped : (∀ c ∈ spelled (.datum (.classValue text)), IsCharacter c) ↔ _ :=
      isCharacter_flatMap_escapeCharacter_iff text.toList
    rw [escaped]
    constructor
    · intro allowed other same
      cases same
      exact allowed
    · intro allowed
      exact allowed text rfl
  · have noClass := not_exists.mp isClass
    exact ⟨fun _ text same => absurd same (noClass text), fun _ => spelt noClass⟩

theorem isCharacter_flatMap_spelled_iff {pieces : List Piece}
    (named : ∀ piece ∈ pieces, piece.NamesAllowed) :
    (∀ c ∈ pieces.flatMap spelled, IsCharacter c) ↔
      ∀ text, .classValue text ∈ dataOf pieces → ∀ c ∈ text.toList, IsCharacter c := by
  constructor
  · intro allowed text member
    have listed := mem_dataOf.mp member
    refine (isCharacter_spelled_iff (named _ listed)).mp (fun c written => ?_) text rfl
    exact allowed c (List.mem_flatMap.mpr ⟨_, listed, written⟩)
  · intro allowed c member
    rcases List.mem_flatMap.mp member with ⟨piece, listed, written⟩
    refine (isCharacter_spelled_iff (named piece listed)).mpr ?_ c written
    rintro text rfl
    exact allowed text (mem_dataOf.mpr listed)

end Piece

end Xml

end TopicPress
