import TopicPress.Proofs.EventText
import TopicPress.Proofs.XmlGrammar

/-!
# A reader of XML

A reader that knows no more of XML than the writer makes use of.  It skips the declaration, cuts the
rest into tags and texts, takes a tag apart at its first blank and at its quotes, and puts characters
in place of the references to them.  White space is read as it stands.  It does not ask whether tags
match or names are names, and what it makes of other documents is of no concern here; it is shown to
find its way through text and tags that are put together as the writer does it, one piece at a time.
-/

namespace TopicPress.Xml.Reader

/-! ## The reader -/

/-- Put characters in place of the references to them.  Only the predefined entities are known. -/
def resolve? : List Char → Option (List Char)
  | [] => some []
  | '&' :: 'l' :: 't' :: ';' :: rest => (resolve? rest).map ('<' :: ·)
  | '&' :: 'g' :: 't' :: ';' :: rest => (resolve? rest).map ('>' :: ·)
  | '&' :: 'a' :: 'm' :: 'p' :: ';' :: rest => (resolve? rest).map ('&' :: ·)
  | '&' :: 'a' :: 'p' :: 'o' :: 's' :: ';' :: rest => (resolve? rest).map ('\'' :: ·)
  | '&' :: 'q' :: 'u' :: 'o' :: 't' :: ';' :: rest => (resolve? rest).map ('"' :: ·)
  | c :: rest => if c = '&' then none else (resolve? rest).map (c :: ·)

/-- The name of an attribute, from what stands before the quotes: a blank, the name and the equals
sign. -/
def attributeName? : List Char → Option String
  | ' ' :: rest =>
    if rest.getLast? = some '=' then some (String.ofList rest.dropLast) else none
  | _ => none

/-- Attributes, from what stands between quotes: names and values in turn, and at the end nothing or
the slash of an element without content.  The truth value tells of the slash. -/
def attributes? : List (List Char) → Option (List Attribute × Bool)
  | [[]] => some ([], false)
  | [['/']] => some ([], true)
  | key :: value :: rest => do
    let name ← attributeName? key
    let text ← resolve? value
    let (later, alone) ← attributes? rest
    return (⟨name, String.ofList text⟩ :: later, alone)
  | _ => none

/-- The events of a tag, from what stands between its angles.  The first attribute has to be the
class. -/
def tag? (inner : List Char) : Option (List Event) :=
  if inner.head? = some '/' then some [.endElement]
  else
    match attributes? ((inner.dropWhile (· != ' ')).splitOn '"') with
    | some (first :: others, alone) =>
      if first.name = "class" then
        some (.startElement (String.ofList (inner.takeWhile (· != ' '))) first.value others ::
          if alone then [.endElement] else [])
      else none
    | _ => none

/-- The events of a text between tags. -/
def text? (text : List Char) : Option (List Event) :=
  if text.isEmpty then some []
  else (resolve? text).map (fun resolved => [.characters (String.ofList resolved)])

/-- The events of a tag and of the text after it. -/
def piece? (piece : List Char) : Option (List Event) := do
  let tag ← tag? (piece.takeWhile (· != '>'))
  let text ← text? ((piece.dropWhile (· != '>')).drop 1)
  return tag ++ text

/-- The events of a text with tags in it. -/
def content? (content : List Char) : Option (List Event) :=
  match content.splitOn '<' with
  | first :: pieces => do
    let text ← text? first
    let later ← pieces.mapM piece?
    return text ++ later.flatten
  | [] => none

/-- What comes after the declaration. -/
def skipDeclaration : List Char → List Char
  | '<' :: '?' :: rest => (rest.dropWhile (· != '>')).drop 1
  | text => text

/-- The events of a document. -/
def events? (document : String) : Option (List Event) :=
  content? (skipDeclaration document.toList)

/-! ## References -/

theorem resolve?_of_ne {c : Char} (notReference : c ≠ '&') (rest : List Char) :
    resolve? (c :: rest) = (resolve? rest).map (c :: ·) := by
  rw [resolve?, if_neg notReference]
  all_goals exact fun _ same _ => notReference same

theorem resolve?_escapeCharacter (c : Char) (rest : List Char) :
    resolve? (escapeCharacter c ++ rest) = (resolve? rest).map (c :: ·) := by
  unfold escapeCharacter
  split
  · rfl
  · rfl
  · rfl
  · rfl
  · rfl
  · rename_i notAmpersand _ _
    exact resolve?_of_ne notAmpersand rest

/-- A text that is written is read back as it was. -/
theorem resolve?_escape (text : String) : resolve? (escape text).toList = some text.toList := by
  rw [escape, String.toList_ofList]
  induction text.toList with
  | nil => rfl
  | cons c rest inductionHypothesis =>
      rw [List.flatMap_cons, resolve?_escapeCharacter, inductionHypothesis]
      rfl

/-! ## Characters that are not there -/

/-- A character that no name has is not in a name. -/
theorem not_mem_name {name : List Char} (named : Grammar.isName name = true) {c : Char}
    (special : Grammar.isNameCharacter c = false) : c ∉ name := by
  intro member
  rw [Grammar.isNameCharacter_of_isName named c member] at special
  cases special

def isAngle (c : Char) : Bool := c == '<' || c == '>'

theorem isNameCharacter_of_isAngle {c : Char} (angle : isAngle c = true) :
    Grammar.isNameCharacter c = false := by
  rw [isAngle, Bool.or_eq_true, beq_iff_eq, beq_iff_eq] at angle
  rcases angle with rfl | rfl
  · decide
  · decide

/-- An escaped character has no angle and no quote in it. -/
theorem all_escapeCharacter (c : Char) :
    (escapeCharacter c).all (fun other => !isAngle other && other != '"') = true := by
  unfold escapeCharacter
  split
  · rfl
  · rfl
  · rfl
  · rfl
  · rfl
  · rename_i notLess notGreater _ _ notQuote
    have apart : (¬ c = '<' ∧ ¬ c = '>') ∧ ¬ c = '"' := ⟨⟨notLess, notGreater⟩, notQuote⟩
    simpa [isAngle] using apart

/-- Escaping leaves no angle and no quote. -/
theorem not_mem_escape {c : Char} (markup : (!isAngle c && c != '"') = false) (text : String) :
    c ∉ (escape text).toList := by
  rw [escape, String.toList_ofList, List.mem_flatMap]
  rintro ⟨original, _, member⟩
  rw [List.all_eq_true.mp (all_escapeCharacter original) c member] at markup
  cases markup

theorem takeWhile_of_not_mem {c : Char} {before : List Char} (absent : c ∉ before)
    (rest : List Char) : (before ++ c :: rest).takeWhile (· != c) = before := by
  have others : ∀ other ∈ before, (other != c) = true :=
    fun other member => bne_iff_ne.mpr (fun same => absent (same ▸ member))
  rw [List.takeWhile_append_of_pos others, List.takeWhile_cons_of_neg (by simp), List.append_nil]

theorem dropWhile_of_not_mem {c : Char} {before : List Char} (absent : c ∉ before)
    (rest : List Char) : (before ++ c :: rest).dropWhile (· != c) = c :: rest := by
  have others : ∀ other ∈ before, (other != c) = true :=
    fun other member => bne_iff_ne.mpr (fun same => absent (same ▸ member))
  rw [List.dropWhile_append_of_pos others, List.dropWhile_cons_of_neg (by simp)]

theorem splitOn_append_of_not_mem {c : Char} {before : List Char} (absent : c ∉ before)
    (rest : List Char) :
    (before ++ rest).splitOn c = (rest.splitOn c).modifyHead (before ++ ·) := by
  induction before with
  | nil =>
      rw [List.nil_append]
      cases rest.splitOn c <;> rfl
  | cons first later inductionHypothesis =>
      rw [List.mem_cons, not_or] at absent
      have different : (first == c) = false := beq_eq_false_iff_ne.mpr (Ne.symm absent.1)
      rw [List.cons_append, List.splitOn_cons_eq_if_modifyHead, different,
        inductionHypothesis absent.2, List.modifyHead_modifyHead]
      rfl

/-! ## Tags -/

theorem attributeName?_eq (name : String) :
    attributeName? (' ' :: (name.toList ++ ['='])) = some name := by
  simp [attributeName?]

/-- What stands between the angles of the only tag of an element, after the attributes. -/
def slash (alone : Bool) : List Char := if alone then ['/'] else []

theorem attributes?_splitOn (alone : Bool) {attributes : List Attribute}
    (named : ∀ item ∈ attributes, Grammar.isName item.name.toList = true) :
    attributes? (((String.join (attributes.map StartTag.attributeText)).toList
      ++ slash alone).splitOn '"') = some (attributes, alone) := by
  induction attributes with
  | nil => cases alone <;> rfl
  | cons item rest inductionHypothesis =>
      have later := inductionHypothesis
        (fun other member => named other (List.mem_cons_of_mem item member))
      have parts : (String.join ((item :: rest).map StartTag.attributeText)).toList ++ slash alone =
          (' ' :: (item.name.toList ++ ['='])) ++ '"' :: ((escape item.value).toList ++
            '"' :: ((String.join (rest.map StartTag.attributeText)).toList ++ slash alone)) := by
        simp [StartTag.attributeText]
      -- One quote is split off before the value and one after it.
      have unquotedName : '"' ∉ ' ' :: (item.name.toList ++ ['=']) := by
        have inName := not_mem_name (named item List.mem_cons_self)
          (by decide : Grammar.isNameCharacter '"' = false)
        simp [inName]
      rw [parts, List.splitOn_append_cons_self_of_not_mem unquotedName,
        List.splitOn_append_cons_self_of_not_mem (not_mem_escape rfl item.value),
        attributes?, attributeName?_eq, resolve?_escape, later]
      simp

/-- The tag of an element is read back: its start, and its end if the tag is the only one. -/
theorem tag?_inner (alone : Bool) {tag : StartTag}
    (named : Grammar.isName tag.name.toList = true)
    (attributesNamed : ∀ item ∈ tag.attributes, Grammar.isName item.name.toList = true) :
    tag? (tag.inner.toList ++ slash alone) =
      some (.startElement tag.name tag.classValue tag.attributes ::
        if alone then [.endElement] else []) := by
  have allNamed : ∀ item ∈ (⟨"class", tag.classValue⟩ :: tag.attributes : List Attribute),
      Grammar.isName item.name.toList = true :=
    List.forall_mem_cons.mpr
      ⟨(by decide : Grammar.isName "class".toList = true), attributesNamed⟩
  have read := attributes?_splitOn alone allNamed
  have noBlank : ' ' ∉ tag.name.toList := not_mem_name named (by decide)
  have noSlash : '/' ∉ tag.name.toList := not_mem_name named (by decide)
  have start : tag.inner.toList ++ slash alone = tag.name.toList ++
      ((String.join ((⟨"class", tag.classValue⟩ :: tag.attributes).map
        StartTag.attributeText)).toList ++ slash alone) := by
    simp [StartTag.inner]
  have blank : ∃ more, (String.join ((⟨"class", tag.classValue⟩ :: tag.attributes).map
      StartTag.attributeText)).toList ++ slash alone = ' ' :: more := by
    simp [StartTag.attributeText]
  rcases blank with ⟨more, same⟩
  have notEnd : (tag.name.toList ++ ' ' :: more).head? ≠ some '/' := by
    cases letters : tag.name.toList with
    | nil =>
        rw [letters] at named
        cases named
    | cons first others =>
        rw [letters] at noSlash
        intro slashFirst
        rw [List.cons_append, List.head?_cons, Option.some.injEq] at slashFirst
        exact noSlash (slashFirst ▸ List.mem_cons_self)
  rw [same] at read start
  rw [start, tag?, if_neg notEnd, takeWhile_of_not_mem noBlank, dropWhile_of_not_mem noBlank, read]
  simp

/-- What a tag is put together of has no angle in it. -/
theorem not_mem_inner {c : Char} (angle : isAngle c = true) {tag : StartTag}
    (named : Grammar.isName tag.name.toList = true)
    (attributesNamed : ∀ item ∈ tag.attributes, Grammar.isName item.name.toList = true) :
    c ∉ tag.inner.toList := by
  have special := isNameCharacter_of_isAngle angle
  have notBetween : c ≠ ' ' ∧ c ≠ '=' ∧ c ≠ '"' := by
    refine ⟨?_, ?_, ?_⟩ <;> (rintro rfl; cases angle)
  have inAttribute : ∀ item : Attribute, Grammar.isName item.name.toList = true →
      c ∉ (StartTag.attributeText item).toList := by
    intro item itemNamed
    have notInName := not_mem_name itemNamed special
    have notInValue : c ∉ (escape item.value).toList := not_mem_escape (by simp [angle]) item.value
    simp [StartTag.attributeText, notInName, notInValue, notBetween]
  rw [StartTag.inner, String.toList_append, List.mem_append, not_or]
  refine ⟨not_mem_name named special, ?_⟩
  rw [String.toList_join, List.flatMap_map, List.mem_flatMap]
  rintro ⟨item, listed, member⟩
  rcases List.mem_cons.mp listed with rfl | later
  · exact inAttribute _ (by decide : Grammar.isName "class".toList = true) member
  · exact inAttribute item (attributesNamed item later) member

theorem not_mem_inner_slash {c : Char} (angle : isAngle c = true) (alone : Bool) {tag : StartTag}
    (named : Grammar.isName tag.name.toList = true)
    (attributesNamed : ∀ item ∈ tag.attributes, Grammar.isName item.name.toList = true) :
    c ∉ tag.inner.toList ++ slash alone := by
  rw [List.mem_append, not_or]
  refine ⟨not_mem_inner angle named attributesNamed, ?_⟩
  intro member
  cases alone with
  | true =>
      rw [List.mem_singleton.mp member] at angle
      cases angle
  | false => cases member

theorem not_mem_end {c : Char} (angle : isAngle c = true) {name : List Char}
    (named : Grammar.isName name = true) : c ∉ '/' :: name := by
  rw [List.mem_cons, not_or]
  refine ⟨?_, not_mem_name named (isNameCharacter_of_isAngle angle)⟩
  rintro rfl
  cases angle

theorem opening_append (tag : StartTag) (rest : List Char) :
    tag.opening.toList ++ rest = '<' :: ((tag.inner.toList ++ slash false) ++ '>' :: rest) := by
  simp [StartTag.opening, slash]

theorem selfClosing_append (tag : StartTag) (rest : List Char) :
    tag.selfClosing.toList ++ rest = '<' :: ((tag.inner.toList ++ slash true) ++ '>' :: rest) := by
  simp [StartTag.selfClosing, slash]

theorem closingTag_append (name : String) (rest : List Char) :
    (Writer.closingTag name).toList ++ rest = '<' :: (('/' :: name.toList) ++ '>' :: rest) := by
  simp [Writer.closingTag]

/-! ## Texts and tags in turn -/

theorem text?_escape (text : String) : text? (escape text).toList = some (Event.ofText text) := by
  by_cases empty : text = ""
  · rw [empty]
    rfl
  · have notEmpty : ¬ (escape text).toList.isEmpty = true := by
      simpa using mt (escape_eq_empty_iff text).mp empty
    rw [text?, if_neg notEmpty, resolve?_escape, Event.ofText, if_neg empty, Option.map_some,
      String.ofList_toList]

theorem piece?_append {inner text : List Char} {tag texts : List Event} (closed : '>' ∉ inner)
    (tagRead : tag? inner = some tag) (textRead : text? text = some texts) :
    piece? (inner ++ '>' :: text) = some (tag ++ texts) := by
  rw [piece?, takeWhile_of_not_mem closed, dropWhile_of_not_mem closed, tagRead,
    List.drop_one, List.tail_cons, textRead]
  rfl

/-- A text, a tag and what comes after it are read one after the other. -/
theorem content?_append {text inner rest : List Char} {texts tag later : List Event}
    (noTag : '<' ∉ text) (unopened : '<' ∉ inner) (closed : '>' ∉ inner)
    (textRead : text? text = some texts) (tagRead : tag? inner = some tag)
    (restRead : content? rest = some later) :
    content? (text ++ '<' :: (inner ++ '>' :: rest)) = some (texts ++ tag ++ later) := by
  -- The text after the tag is in one piece with the tag, so the first piece of `rest` is taken apart.
  have apart : (inner ++ '>' :: rest).splitOn '<' =
      (rest.splitOn '<').modifyHead (inner ++ '>' :: ·) := by
    have noOther : '<' ∉ inner ++ ['>'] := by simp [unopened]
    have split := splitOn_append_of_not_mem noOther rest
    simpa using split
  rw [content?] at restRead
  rw [content?, List.splitOn_append_cons_self_of_not_mem noTag, apart]
  cases pieces : rest.splitOn '<' with
  | nil => exact absurd pieces (List.splitOn_ne_nil '<' rest)
  | cons first others =>
      rw [pieces] at restRead
      cases firstRead : text? first with
      | none => simp [firstRead] at restRead
      | some lead =>
          cases othersRead : others.mapM piece? with
          | none => simp [firstRead, othersRead] at restRead
          | some remaining =>
              have joined : lead ++ remaining.flatten = later := by
                simpa [firstRead, othersRead] using restRead
              simp [textRead, piece?_append closed tagRead firstRead, othersRead, ← joined]

end TopicPress.Xml.Reader
