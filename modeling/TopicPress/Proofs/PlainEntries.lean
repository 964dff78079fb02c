import TopicPress.Document.FrontMatterBlock

/-!
# Plain entries

The front matter that most documents have: a key with a word after its colon, or a key with words
below it, one to a line, each after a hyphen.  Keys and words are letters and digits, none of them
spelled like something that YAML reads as anything but text.  These entries are what a reader of
YAML and a reader of lines both understand.
-/

namespace TopicPress.FrontMatterBlock

theorem isAlphanum_of_isAlpha {c : Char} (letter : c.isAlpha = true) : c.isAlphanum = true := by
  rw [Char.isAlphanum, letter, Bool.true_or]

/-- The spellings that stand for null and for the truth values. -/
def specialSpellings : List String :=
  ["null", "Null", "NULL", "true", "True", "TRUE", "false", "False", "FALSE"]

/-- A letter with letters and digits after it, which spells nothing special. -/
structure Word where
  initial : Char
  others : List Char
  letter : initial.isAlpha = true
  alphanumeric : ∀ c ∈ others, c.isAlphanum = true
  plain : String.ofList (initial :: others) ∉ specialSpellings

namespace Word

def chars (word : Word) : List Char := word.initial :: word.others

def text (word : Word) : String := String.ofList word.chars

theorem isAlphanum_initial (word : Word) : word.initial.isAlphanum = true :=
  isAlphanum_of_isAlpha word.letter

theorem isAlphanum_of_mem {word : Word} {c : Char} (member : c ∈ word.chars) :
    c.isAlphanum = true := by
  rcases List.mem_cons.1 member with rfl | later
  · exact word.isAlphanum_initial
  · exact word.alphanumeric c later

end Word

/-- What is given to a key. -/
inductive Content where
  /-- A word on the line of the key. -/
  | word (word : Word)
  /-- Words on lines of their own. -/
  | items (words : List Word)

/-- A key with what is given to it. -/
structure PlainEntry where
  key : Word
  content : Content

namespace PlainEntry

/-- The lines of an entry. -/
def lines (entry : PlainEntry) : List (List Char) :=
  match entry.content with
  | .word word => [entry.key.chars ++ ':' :: ' ' :: word.chars]
  | .items words => (entry.key.chars ++ [':']) :: words.map (fun word => '-' :: ' ' :: word.chars)

/-- The values of the key. -/
def values (entry : PlainEntry) : List MetaValue :=
  match entry.content with
  | .word word => [.scalar word.text]
  | .items [] => [.null]
  | .items words => words.map (fun word => .scalar word.text)

/-- The front matter with the entry. -/
def addTo (header : FrontMatter) (entry : PlainEntry) : FrontMatter :=
  header.insert entry.key.text entry.values

end PlainEntry

/-- The text of lines. -/
def textOfLines (lines : List (List Char)) : List Char := lines.flatMap (fun line => line ++ ['\n'])

/-- The text of entries. -/
def textOf (entries : List PlainEntry) : List Char :=
  textOfLines (entries.flatMap PlainEntry.lines)

/-- A block of entries: a fence, the entries, and a text that begins with a fence. -/
def block (entries : List PlainEntry) (closing : List Char) : String :=
  String.ofList (fence ++ '\n' :: textOf entries ++ closing)

/-! ## Entries in general -/

/-- What a key is given: a value on the line of the key, or values on lines of their own. -/
inductive Given (Value : Type) where
  | beside (value : Value)
  | below (values : List Value)

namespace Given

variable {First Second Third : Type}

def map (change : First → Second) : Given First → Given Second
  | beside value => beside (change value)
  | below values => below (values.map change)

@[simp] theorem map_map (change : First → Second) (next : Second → Third) (given : Given First) :
    (given.map change).map next = given.map (next ∘ change) := by
  cases given <;> simp [map]

/-- Texts as values; null if there are none. -/
def values : Given String → List MetaValue
  | beside value => [.scalar value]
  | below [] => [.null]
  | below values => values.map .scalar

end Given

/-- The lines in which a key is given values, each of them spelled out. -/
def entryLines (key : List Char) : Given (List Char) → List (List Char)
  | .beside value => [key ++ ':' :: ' ' :: value]
  | .below values => (key ++ [':']) :: values.map (fun value => '-' :: ' ' :: value)

namespace PlainEntry

def given (entry : PlainEntry) : Given Word :=
  match entry.content with
  | .word word => .beside word
  | .items words => .below words

theorem lines_eq (entry : PlainEntry) :
    entry.lines = entryLines entry.key.chars (entry.given.map Word.chars) := by
  rcases entry with ⟨key, content⟩
  cases content with
  | word word => rfl
  | items words => simp [lines, entryLines, given, Given.map]

theorem values_eq (entry : PlainEntry) : entry.values = (entry.given.map Word.text).values := by
  rcases entry with ⟨key, content⟩
  cases content with
  | word word => rfl
  | items words => cases words <;> simp [values, Given.values, given, Given.map]

end PlainEntry

/-! ## Characters of words -/

/-- The code points of letters and digits. -/
theorem isAlphanum_iff_toNat {c : Char} : c.isAlphanum = true ↔
    48 ≤ c.toNat ∧ c.toNat ≤ 57 ∨ 65 ≤ c.toNat ∧ c.toNat ≤ 90 ∨ 97 ≤ c.toNat ∧ c.toNat ≤ 122 := by
  delta Char.isAlphanum Char.isAlpha Char.isUpper Char.isLower Char.isDigit
  simp only [Bool.or_eq_true, Bool.and_eq_true, decide_eq_true_eq, UInt32.le_iff_toNat_le,
    ge_iff_le]
  change ((65 ≤ c.toNat ∧ c.toNat ≤ 90) ∨ (97 ≤ c.toNat ∧ c.toNat ≤ 122)) ∨
    (48 ≤ c.toNat ∧ c.toNat ≤ 57) ↔ _
  omega

/-- A letter or a digit is none of the other characters. -/
theorem ne_of_isAlphanum {c other : Char} (alphanumeric : c.isAlphanum = true)
    (no : other.isAlphanum = false) : c ≠ other := by
  rintro rfl
  rw [alphanumeric] at no
  cases no

theorem isWhiteSpace_of_isAlphanum {c : Char} (alphanumeric : c.isAlphanum = true) :
    Text.isWhiteSpace c = false := by
  have range := isAlphanum_iff_toNat.1 alphanumeric
  simp only [Text.isWhiteSpace, Bool.or_eq_false_iff, Bool.and_eq_false_iff,
    decide_eq_false_iff_not, beq_eq_false_iff_ne]
  omega

theorem isGap_of_isAlphanum {c : Char} (alphanumeric : c.isAlphanum = true) :
    Yaml.isGap c = false := by
  simp only [Yaml.isGap, Yaml.isBlank, Yaml.isBreakOrEnd, Yaml.isBreak, Yaml.isEnd,
    Bool.or_eq_false_iff, beq_eq_false_iff_ne]
  refine ⟨⟨?_, ?_⟩, ⟨?_, ?_⟩, ?_⟩ <;> exact ne_of_isAlphanum alphanumeric (by decide)

end TopicPress.FrontMatterBlock
