import TopicPress.Proofs.XmlReading
import TopicPress.Text.Ascii

/-!
# White space in a processor of XML

A processor of XML 1.0 does not hand on the characters of a document as they stand.  First every
line end becomes a line feed (2.11), then every tab and line feed that stands in an attribute value
becomes a space (3.3.3), and only after that are references resolved.  A character that is given by
its number is spared both steps.  What the writer makes has neither comments nor CDATA sections nor a
document type, so it is enough to tell text, tags and quoted values from each other.

Here the steps are put before the reader, and followed through the pieces of a document.  Each piece
comes out as the writer would have written it with other text or other values in it.
-/

namespace TopicPress.Xml.Processor

open Reader (slash not_mem_name not_mem_escape)

/-! ## The processor -/

/-- Every line end as one line feed. -/
def lineEnds : List Char → List Char
  | [] => []
  | c :: rest =>
    if c = '\r' then
      if rest.head? = some '\n' then lineEnds rest else '\n' :: lineEnds rest
    else c :: lineEnds rest

/-- Where in a document a character stands. -/
inductive Place where
  | text
  | tag
  /-- Within an attribute value, up to the quote that it began with. -/
  | value (quote : Char)
  deriving DecidableEq

def Place.next : Place → Char → Place
  | text, c => if c = '<' then tag else text
  | tag, c => if c = '>' then text else if c = '"' ∨ c = '\'' then value c else tag
  | value quote, c => if c = quote then tag else value quote

/-- A space in place of a tab or a line end. -/
def spaced (c : Char) : Char := if c = '\t' ∨ Text.isLineEnd c = true then ' ' else c

/-- The character that is taken for one at a place. -/
def Place.taken : Place → Char → Char
  | value _, c => spaced c
  | _, c => c

/-- Attribute values with spaces for their white space. -/
def spaceValues (place : Place) : List Char → List Char
  | [] => []
  | c :: rest => place.taken c :: spaceValues (place.next c) rest

def number? (base : Nat) (digits : List Char) : Option Nat :=
  if digits.isEmpty then none
  else digits.foldlM (fun number c =>
    ((Text.hexDigit? c).filter (· < base)).map (number * base + ·)) 0

/-- The character of a reference by number, from what stands between the ampersand and the
semicolon. -/
def numbered? (reference : List Char) : Option Char :=
  let number := match reference with
    | '#' :: 'x' :: digits => number? 16 digits
    | '#' :: digits => number? 10 digits
    | _ => none
  (number.map Char.ofNat).filter isAllowed

/-- References by number resolved, where `held` is what stands after an ampersand so far.  The
characters they stand for are data and no markup, so they are escaped; the references by name are
left to the reader. -/
def resolveNumbers (held : Option (List Char)) : List Char → List Char
  | [] =>
    match held with
    | some reference => '&' :: reference
    | none => []
  | c :: rest =>
    match held with
    | none => if c = '&' then resolveNumbers (some []) rest else c :: resolveNumbers none rest
    | some reference =>
      if c = ';' then
        match numbered? reference with
        | some character => escapeCharacter character ++ resolveNumbers none rest
        | none => '&' :: reference ++ ';' :: resolveNumbers none rest
      else resolveNumbers (some (reference ++ [c])) rest

/-- What the reader is given of a text that begins at a place. -/
def prepare (place : Place) (text : List Char) : List Char :=
  resolveNumbers none (spaceValues place (lineEnds text))

def events? (document : String) : Option (List Event) :=
  Reader.content? (Reader.skipDeclaration (prepare .text document.toList))

/-- White space that is given by number stays as it is. -/
example : events? "<?xml version='1.0'?><a class=\"&#9;\" b=\"x&#xA;y\tz\">&#13;\r\n&lt;</a>" =
    some [.startElement "a" "\t" [⟨"b", "x\ny z"⟩], .characters "\r\n<", .endElement] := by
  decide +kernel

/-! ## The steps one by one -/

theorem lineEnds_of_not_mem {before : List Char} (absent : '\r' ∉ before) (rest : List Char) :
    lineEnds (before ++ rest) = before ++ lineEnds rest := by
  induction before with
  | nil => rfl
  | cons c others inductionHypothesis =>
      rw [List.mem_cons, not_or] at absent
      rw [List.cons_append, lineEnds, if_neg (Ne.symm absent.1), inductionHypothesis absent.2]
      rfl

theorem head?_escapeCharacter (c : Char) (rest : List Char) :
    (escapeCharacter c ++ rest).head? = some '\n' ↔ c = '\n' := by
  unfold escapeCharacter
  split <;> simp

theorem lineEnds_escape (text : List Char) {rest : List Char} (apart : rest.head? ≠ some '\n') :
    lineEnds (text.flatMap escapeCharacter ++ rest) =
      (lineEnds text).flatMap escapeCharacter ++ lineEnds rest := by
  induction text with
  | nil => rfl
  | cons c others inductionHypothesis =>
      rw [List.flatMap_cons, List.append_assoc]
      by_cases carriageReturn : c = '\r'
      · have follows : (others.flatMap escapeCharacter ++ rest).head? = some '\n' ↔
            others.head? = some '\n' := by
          cases others with
          | nil => simp [apart]
          | cons next later =>
              rw [List.flatMap_cons, List.append_assoc, head?_escapeCharacter]
              simp
        have written : escapeCharacter '\r' = ['\r'] := rfl
        rw [carriageReturn, written, List.singleton_append, lineEnds, lineEnds, if_pos rfl,
          if_pos rfl, inductionHypothesis]
        by_cases both : others.head? = some '\n'
        · rw [if_pos (follows.mpr both), if_pos both]
        · rw [if_neg (mt follows.mp both), if_neg both]
          rfl
      · have absent : '\r' ∉ escapeCharacter c := by
          unfold escapeCharacter
          split <;> simp_all [eq_comm]
        rw [lineEnds_of_not_mem absent, inductionHypothesis, lineEnds, if_neg carriageReturn,
          List.flatMap_cons, List.append_assoc]

theorem spaceValues_of_stays {place : Place} {before : List Char}
    (stays : ∀ c ∈ before, place.next c = place) (rest : List Char) :
    spaceValues place (before ++ rest) = before.map place.taken ++ spaceValues place rest := by
  induction before with
  | nil => rfl
  | cons c others inductionHypothesis =>
      rw [List.forall_mem_cons] at stays
      rw [List.cons_append, spaceValues, stays.1, inductionHypothesis stays.2]
      rfl

/-- White space is not among the characters that are escaped. -/
theorem map_taken_escapeCharacter (place : Place) (c : Char) :
    (escapeCharacter c).map place.taken = escapeCharacter (place.taken c) := by
  cases place with
  | text => exact List.map_id _
  | tag => exact List.map_id _
  | value quote =>
      change (escapeCharacter c).map spaced = escapeCharacter (spaced c)
      by_cases white : c = '\t' ∨ Text.isLineEnd c = true
      · have named : c = '\t' ∨ c = '\n' ∨ c = '\r' := by
          simpa [Text.isLineEnd] using white
        rcases named with rfl | rfl | rfl <;> rfl
      · have same : spaced c = c := if_neg white
        rw [same]
        unfold escapeCharacter
        split
        · rfl
        · rfl
        · rfl
        · rfl
        · rfl
        · rw [List.map_singleton, same]

theorem resolveNumbers_of_not_mem {before : List Char} (absent : '&' ∉ before)
    (rest : List Char) :
    resolveNumbers none (before ++ rest) = before ++ resolveNumbers none rest := by
  induction before with
  | nil => rfl
  | cons c others inductionHypothesis =>
      rw [List.mem_cons, not_or] at absent
      rw [List.cons_append, resolveNumbers]
      simp only [if_neg (Ne.symm absent.1)]
      rw [inductionHypothesis absent.2]
      rfl

/-- What is escaped has no reference by number in it. -/
theorem resolveNumbers_escape (text rest : List Char) :
    resolveNumbers none (text.flatMap escapeCharacter ++ rest) =
      text.flatMap escapeCharacter ++ resolveNumbers none rest := by
  induction text with
  | nil => rfl
  | cons c others inductionHypothesis =>
      have first : resolveNumbers none (escapeCharacter c ++
          (others.flatMap escapeCharacter ++ rest)) =
            escapeCharacter c ++ resolveNumbers none (others.flatMap escapeCharacter ++ rest) := by
        unfold escapeCharacter
        split
        · rfl
        · rfl
        · rfl
        · rfl
        · rfl
        · rename_i notAmpersand _ _
          have absent : '&' ∉ [c] := fun member => notAmpersand (List.mem_singleton.mp member).symm
          exact resolveNumbers_of_not_mem absent _
      rw [List.flatMap_cons, List.append_assoc, first, inductionHypothesis, List.append_assoc]

/-! ## The pieces of a document -/

def Place.takenText (place : Place) (text : String) : String :=
  String.ofList ((lineEnds text.toList).map place.taken)

/-- Characters that no step takes notice of. -/
theorem prepare_plain {place : Place} {before : List Char}
    (plain : ∀ c ∈ before, c ≠ '\r' ∧ c ≠ '&' ∧ place.next c = place ∧ place.taken c = c)
    (rest : List Char) : prepare place (before ++ rest) = before ++ prepare place rest := by
  have noLineEnd : '\r' ∉ before := fun member => (plain _ member).1 rfl
  have noReference : '&' ∉ before := fun member => (plain _ member).2.1 rfl
  have same : before.map place.taken = before.map id :=
    List.map_congr_left (fun c member => (plain c member).2.2.2)
  rw [prepare, lineEnds_of_not_mem noLineEnd,
    spaceValues_of_stays (fun c member => (plain c member).2.2.1), same, List.map_id,
    resolveNumbers_of_not_mem noReference]
  rfl

theorem prepare_mark {place : Place} {c : Char} (noLineEnd : c ≠ '\r') (noReference : c ≠ '&')
    (taken : place.taken c = c) (rest : List Char) :
    prepare place (c :: rest) = c :: prepare (place.next c) rest := by
  rw [prepare, lineEnds, if_neg noLineEnd, spaceValues, taken, resolveNumbers]
  exact if_neg noReference

/-- An escaped text, up to what cannot belong to a line end of it. -/
theorem prepare_escape {place : Place} (stays : ∀ c, c ≠ '<' → c ≠ '"' → place.next c = place)
    (text : String) {rest : List Char} (apart : rest.head? ≠ some '\n') :
    prepare place ((escape text).toList ++ rest) =
      (escape (place.takenText text)).toList ++ prepare place rest := by
  have escaped : ∀ c ∈ (lineEnds text.toList).flatMap escapeCharacter, place.next c = place := by
    intro c member
    have inEscape : c ∈ (escape (String.ofList (lineEnds text.toList))).toList := by
      rwa [escape, String.toList_ofList, String.toList_ofList]
    apply stays
    · rintro rfl
      exact not_mem_escape rfl _ inEscape
    · rintro rfl
      exact not_mem_escape rfl _ inEscape
  have taken : ((lineEnds text.toList).flatMap escapeCharacter).map place.taken =
      ((lineEnds text.toList).map place.taken).flatMap escapeCharacter := by
    rw [List.map_flatMap, List.flatMap_map]
    simp only [map_taken_escapeCharacter]
  rw [prepare, escape, String.toList_ofList, lineEnds_escape _ apart,
    spaceValues_of_stays escaped, taken, resolveNumbers_escape, escape, Place.takenText,
    String.toList_ofList, String.toList_ofList]
  rfl

theorem prepare_name {name : List Char} (named : Grammar.isName name = true) (rest : List Char) :
    prepare .tag (name ++ rest) = name ++ prepare .tag rest := by
  have others : ∀ c ∈ name, ∀ special, Grammar.isNameCharacter special = false → c ≠ special :=
    fun c member special isSpecial same => not_mem_name named isSpecial (same ▸ member)
  apply prepare_plain
  intro c member
  have notClosing := others c member '>' (by decide)
  have notQuote := others c member '"' (by decide)
  have notApostrophe := others c member '\'' (by decide)
  refine ⟨others c member '\r' (by decide), others c member '&' (by decide), ?_, rfl⟩
  rw [Place.next, if_neg notClosing, if_neg (not_or.mpr ⟨notQuote, notApostrophe⟩)]

/-! ## Tags -/

def takenValue (value : String) : String := (Place.value '"').takenText value

def takenAttribute (item : Attribute) : Attribute := { item with value := takenValue item.value }

def takenTag (tag : StartTag) : StartTag :=
  { tag with
    classValue := takenValue tag.classValue
    attributes := tag.attributes.map takenAttribute }

theorem prepare_attribute {item : Attribute} (named : Grammar.isName item.name.toList = true)
    (rest : List Char) :
    prepare .tag ((StartTag.attributeText item).toList ++ rest) =
      (StartTag.attributeText (takenAttribute item)).toList ++ prepare .tag rest := by
  have parts : ∀ (value : String) (after : List Char),
      (StartTag.attributeText ⟨item.name, value⟩).toList ++ after =
        ' ' :: (item.name.toList ++ '=' :: '"' :: ((escape value).toList ++ '"' :: after)) := by
    intro value after
    simp [StartTag.attributeText]
  have blank : Place.tag.next ' ' = .tag := rfl
  have equals : Place.tag.next '=' = .tag := rfl
  have opened : Place.tag.next '"' = .value '"' := rfl
  have closed : (Place.value '"').next '"' = .tag := rfl
  have stays : ∀ c, c ≠ '<' → c ≠ '"' → (Place.value '"').next c = .value '"' :=
    fun c _ notQuote => if_neg notQuote
  have apart : ('"' :: rest).head? ≠ some '\n' := by simp
  have whole := parts item.value rest
  rw [whole, prepare_mark (by decide) (by decide) rfl, blank, prepare_name named,
    prepare_mark (by decide) (by decide) rfl, equals, prepare_mark (by decide) (by decide) rfl,
    opened, prepare_escape stays item.value apart,
    prepare_mark (by decide) (by decide) (by decide), closed]
  exact (parts (takenValue item.value) _).symm

theorem prepare_attributes {attributes : List Attribute}
    (named : ∀ item ∈ attributes, Grammar.isName item.name.toList = true) (rest : List Char) :
    prepare .tag ((String.join (attributes.map StartTag.attributeText)).toList ++ rest) =
      (String.join ((attributes.map takenAttribute).map StartTag.attributeText)).toList
        ++ prepare .tag rest := by
  induction attributes with
  | nil => rfl
  | cons item others inductionHypothesis =>
      rw [List.forall_mem_cons] at named
      rw [List.map_cons, List.map_cons, List.map_cons, String.join_cons, String.join_cons,
        String.toList_append, String.toList_append, List.append_assoc, prepare_attribute named.1,
        inductionHypothesis named.2, List.append_assoc]

theorem prepare_inner {tag : StartTag} (named : Grammar.isName tag.name.toList = true)
    (attributesNamed : ∀ item ∈ tag.attributes, Grammar.isName item.name.toList = true)
    (rest : List Char) :
    prepare .tag (tag.inner.toList ++ rest) =
      (takenTag tag).inner.toList ++ prepare .tag rest := by
  have allNamed : ∀ item ∈ (⟨"class", tag.classValue⟩ :: tag.attributes : List Attribute),
      Grammar.isName item.name.toList = true :=
    List.forall_mem_cons.mpr
      ⟨(by decide : Grammar.isName "class".toList = true), attributesNamed⟩
  rw [StartTag.inner, StartTag.inner, String.toList_append, String.toList_append,
    List.append_assoc, prepare_name named, prepare_attributes allNamed, List.append_assoc]
  rfl

/-- A text and the tag after it. -/
theorem prepare_text (text : String) {inside prepared : List Char} {rest : List Char}
    (tagPrepared : prepare .tag (inside ++ '>' :: rest) = prepared ++ prepare .tag ('>' :: rest)) :
    prepare .text ((escape text).toList ++ '<' :: (inside ++ '>' :: rest)) =
      (escape (Place.text.takenText text)).toList ++
        '<' :: (prepared ++ '>' :: prepare .text rest) := by
  have stays : ∀ c, c ≠ '<' → c ≠ '"' → Place.text.next c = .text := fun c notOpening _ =>
    if_neg notOpening
  have opened : Place.text.next '<' = .tag := rfl
  have closed : Place.tag.next '>' = .text := rfl
  have apart : ('<' :: (inside ++ '>' :: rest)).head? ≠ some '\n' := by simp
  rw [prepare_escape stays text apart, prepare_mark (by decide) (by decide) rfl, opened,
    tagPrepared, prepare_mark (by decide) (by decide) rfl, closed]

end TopicPress.Xml.Processor
