import TopicPress.Xml.Text

/-!
# A grammar of XML documents

The productions of XML 1.0 that a document without comments, processing instructions, CDATA sections
and a document type is made of, together with the constraints of well-formedness that apply to them:
an end tag has the name of its start tag, no attribute is given twice, and every entity that is
referred to needs no declaration.  Where the productions leave a choice, such as the white space
between attributes, only one possibility is kept.  What is derived here is therefore well-formed XML;
the converse is not claimed.
-/

namespace TopicPress.Xml.Grammar

/-! ## Characters and names -/

/-- The characters of a document (`Char`). -/
def IsCharacter (c : Char) : Prop :=
  c.toNat = 0x9 ∨ c.toNat = 0xA ∨ c.toNat = 0xD ∨ (0x20 ≤ c.toNat ∧ c.toNat ≤ 0xD7FF) ∨
    (0xE000 ≤ c.toNat ∧ c.toNat ≤ 0xFFFD) ∨ (0x10000 ≤ c.toNat ∧ c.toNat ≤ 0x10FFFF)

/-- The first and the last code point of every range of characters that a name may begin with
(`NameStartChar`). -/
def nameStartRanges : List (Nat × Nat) :=
  [(0x3A, 0x3A), (0x41, 0x5A), (0x5F, 0x5F), (0x61, 0x7A), (0xC0, 0xD6), (0xD8, 0xF6),
    (0xF8, 0x2FF), (0x370, 0x37D), (0x37F, 0x1FFF), (0x200C, 0x200D), (0x2070, 0x218F),
    (0x2C00, 0x2FEF), (0x3001, 0xD7FF), (0xF900, 0xFDCF), (0xFDF0, 0xFFFD), (0x10000, 0xEFFFF)]

/-- The ranges of further characters that a name may go on with (`NameChar`). -/
def nameRanges : List (Nat × Nat) :=
  [(0x2D, 0x2E), (0x30, 0x39), (0xB7, 0xB7), (0x300, 0x36F), (0x203F, 0x2040)]

def inRanges (ranges : List (Nat × Nat)) (c : Char) : Bool :=
  ranges.any (fun range => range.1 ≤ c.toNat && c.toNat ≤ range.2)

def isNameStart (c : Char) : Bool := inRanges nameStartRanges c

def isNameCharacter (c : Char) : Bool := isNameStart c || inRanges nameRanges c

/-- A name (`Name`). -/
def isName : List Char → Bool
  | [] => false
  | first :: rest => isNameStart first && rest.all isNameCharacter

/-! ## Data and tags -/

/-- Characters that are markup, or could be taken for the quotes of an attribute value. -/
def reserved : List Char := ['<', '>', '&', '\'', '"']

/-- The names of the entities that need no declaration. -/
def predefinedEntities : List (List Char) :=
  ["lt".toList, "gt".toList, "amp".toList, "apos".toList, "quot".toList]

/-- Text between tags, or between the quotes of an attribute value. -/
inductive Data : List Char → Prop
  | nil : Data []
  | character {c : Char} {rest : List Char} :
      IsCharacter c → c ∉ reserved → Data rest → Data (c :: rest)
  | reference {entity rest : List Char} :
      entity ∈ predefinedEntities → Data rest → Data ('&' :: (entity ++ ';' :: rest))

/-- Attributes, each after a blank, with the list of their names. -/
inductive Attributes : List (List Char) → List Char → Prop
  | nil : Attributes [] []
  | cons {name value rest : List Char} {names : List (List Char)} :
      isName name = true → Data value → Attributes names rest →
        Attributes (name :: names) (' ' :: (name ++ '=' :: '"' :: (value ++ '"' :: rest)))

/-- What stands between the angles of a start tag: a name, and attributes of different names. -/
inductive Tag : List Char → List Char → Prop
  | intro {name attributes : List Char} {names : List (List Char)} :
      isName name = true → Attributes names attributes → names.Nodup →
        Tag name (name ++ attributes)

/-! ## Elements and documents -/

mutual

/-- An element of a given name. -/
inductive Element : List Char → List Char → Prop
  | empty {name tag : List Char} :
      Tag name tag → Element name ('<' :: (tag ++ ['/', '>']))
  | filled {name tag content : List Char} :
      Tag name tag → Content content →
        Element name ('<' :: (tag ++ '>' :: (content ++ '<' :: '/' :: (name ++ ['>']))))

/-- Text and elements, in any order. -/
inductive Content : List Char → Prop
  | nil : Content []
  | data {text rest : List Char} : Data text → Content rest → Content (text ++ rest)
  | element {name text rest : List Char} :
      Element name text → Content rest → Content (text ++ rest)

end

/-- The declaration of a document (`XMLDecl`). -/
def declaration : List Char := "<?xml version=\"1.0\" encoding=\"UTF-8\"?>".toList

/-- A document whose root element has the name `root`: the declaration, then that element, then
nothing. -/
structure WellFormed (root text : String) : Prop where
  document : ∃ element, Element root.toList element ∧ text.toList = declaration ++ element
  characters : ∀ c ∈ text.toList, IsCharacter c

/-! ## Only characters of a document are derived -/

theorem isCharacter_of_isNameCharacter {c : Char} (valid : isNameCharacter c = true) :
    IsCharacter c := by
  simp only [isNameCharacter, isNameStart, inRanges, nameStartRanges, nameRanges, List.any_cons,
    List.any_nil, Bool.or_false, Bool.or_eq_true, Bool.and_eq_true, decide_eq_true_eq] at valid
  unfold IsCharacter
  omega

theorem isNameCharacter_of_isName {name : List Char} (valid : isName name = true) :
    ∀ c ∈ name, isNameCharacter c = true := by
  intro c member
  cases name with
  | nil => cases member
  | cons first rest =>
      rw [isName, Bool.and_eq_true, List.all_eq_true] at valid
      rcases List.mem_cons.mp member with same | later
      · rw [isNameCharacter, same, valid.1, Bool.true_or]
      · exact valid.2 c later

theorem isCharacter_of_isName {name : List Char} (valid : isName name = true) :
    ∀ c ∈ name, IsCharacter c :=
  fun c member => isCharacter_of_isNameCharacter (isNameCharacter_of_isName valid c member)

/-- The characters of ASCII that are printed. -/
def isPrinted (c : Char) : Bool := 0x20 ≤ c.toNat && c.toNat < 0x80

theorem isCharacter_of_isPrinted {c : Char} (printed : isPrinted c = true) : IsCharacter c := by
  rw [isPrinted, Bool.and_eq_true, decide_eq_true_eq, decide_eq_true_eq] at printed
  unfold IsCharacter
  omega

theorem isCharacter_of_all_isPrinted {text : List Char} (printed : text.all isPrinted = true) :
    ∀ c ∈ text, IsCharacter c :=
  fun c member => isCharacter_of_isPrinted (List.all_eq_true.mp printed c member)

theorem Data.isCharacter {text : List Char} (derived : Data text) : ∀ c ∈ text, IsCharacter c := by
  induction derived with
  | nil =>
      intro c member
      cases member
  | character allowed unreserved _ inRest =>
      intro c member
      rcases List.mem_cons.mp member with same | later
      · exact same ▸ allowed
      · exact inRest c later
  | @reference entity rest predefined _ inRest =>
      intro c member
      have printed : predefinedEntities.all (fun name => name.all isPrinted) = true := by decide
      have inEntity := isCharacter_of_all_isPrinted (List.all_eq_true.mp printed entity predefined)
      simp only [List.mem_cons, List.mem_append] at member
      rcases member with rfl | inName | rfl | later
      · exact isCharacter_of_isPrinted (by decide)
      · exact inEntity c inName
      · exact isCharacter_of_isPrinted (by decide)
      · exact inRest c later

theorem Attributes.isCharacter {names : List (List Char)} {text : List Char}
    (derived : Attributes names text) : ∀ c ∈ text, IsCharacter c := by
  induction derived with
  | nil =>
      intro c member
      cases member
  | cons named valued _ inRest =>
      intro c member
      simp only [List.mem_cons, List.mem_append] at member
      rcases member with rfl | inName | rfl | rfl | inValue | rfl | later
      · exact isCharacter_of_isPrinted (by decide)
      · exact isCharacter_of_isName named c inName
      · exact isCharacter_of_isPrinted (by decide)
      · exact isCharacter_of_isPrinted (by decide)
      · exact valued.isCharacter c inValue
      · exact isCharacter_of_isPrinted (by decide)
      · exact inRest c later

theorem Tag.isCharacter {name text : List Char} (derived : Tag name text) :
    ∀ c ∈ text, IsCharacter c := by
  cases derived with
  | intro named attributes distinct =>
      intro c member
      rcases List.mem_append.mp member with inName | inAttributes
      · exact isCharacter_of_isName named c inName
      · exact attributes.isCharacter c inAttributes

theorem Tag.isName {name text : List Char} (derived : Tag name text) : isName name = true := by
  cases derived with
  | intro named attributes distinct => exact named

mutual

theorem Element.isCharacter : ∀ {name text : List Char}, Element name text →
    ∀ c ∈ text, IsCharacter c
  | _, _, .empty tag => by
      intro c member
      simp only [List.mem_cons, List.mem_append, List.not_mem_nil, or_false] at member
      rcases member with rfl | inTag | rfl | rfl
      · exact isCharacter_of_isPrinted (by decide)
      · exact tag.isCharacter c inTag
      · exact isCharacter_of_isPrinted (by decide)
      · exact isCharacter_of_isPrinted (by decide)
  | _, _, .filled tag content => by
      intro c member
      have inside := Content.isCharacter content
      simp only [List.mem_cons, List.mem_append, List.not_mem_nil, or_false] at member
      rcases member with rfl | inTag | rfl | inContent | rfl | rfl | inName | rfl
      · exact isCharacter_of_isPrinted (by decide)
      · exact tag.isCharacter c inTag
      · exact isCharacter_of_isPrinted (by decide)
      · exact inside c inContent
      · exact isCharacter_of_isPrinted (by decide)
      · exact isCharacter_of_isPrinted (by decide)
      · exact isCharacter_of_isName tag.isName c inName
      · exact isCharacter_of_isPrinted (by decide)

theorem Content.isCharacter : ∀ {text : List Char}, Content text → ∀ c ∈ text, IsCharacter c
  | _, .nil => by
      intro c member
      cases member
  | _, .data text rest => by
      intro c member
      have later := Content.isCharacter rest
      rcases List.mem_append.mp member with inText | inRest
      · exact text.isCharacter c inText
      · exact later c inRest
  | _, .element element rest => by
      intro c member
      have inside := Element.isCharacter element
      have later := Content.isCharacter rest
      rcases List.mem_append.mp member with inText | inRest
      · exact inside c inText
      · exact later c inRest

end

/-- The declaration and an element make a document. -/
theorem WellFormed.of_element {root text : String} {element : List Char}
    (derived : Element root.toList element) (whole : text.toList = declaration ++ element) :
    WellFormed root text where
  document := ⟨element, derived, whole⟩
  characters := by
    intro c member
    rw [whole] at member
    have printed : declaration.all isPrinted = true := by decide
    rcases List.mem_append.mp member with early | late
    · exact isCharacter_of_all_isPrinted printed c early
    · exact derived.isCharacter c late

end TopicPress.Xml.Grammar
