import TopicPress.Proofs.LineScanning
import TopicPress.Yaml.Value

/-!
# Bare entries

What can be given to a key in YAML without quotes and within one line: texts without blanks that neither
begin nor end with anything that has a meaning of its own.  Words are among them, and so are dates,
addresses and, above all, the spellings of numbers.  What a bare text stands for is a matter of its
spelling.
-/

namespace TopicPress.Yaml

open FrontMatterBlock Text

/-! ## Characters -/

/-- A character that always belongs to a token, but a colon that ends a key. -/
structure Solid (c : Char) : Prop where
  notGap : isGap c = false
  notComment : (c == '#') = false

namespace Solid

variable {c : Char}

theorem notBlank (solid : Solid c) : isBlank c = false := by
  have notGap := solid.notGap
  rw [isGap, Bool.or_eq_false_iff] at notGap
  exact notGap.1

theorem notBreakOrEnd (solid : Solid c) : isBreak c = false ∧ isEnd c = false := by
  have notGap := solid.notGap
  rw [isGap, Bool.or_eq_false_iff, isBreakOrEnd, Bool.or_eq_false_iff] at notGap
  exact notGap.2

theorem notBreak (solid : Solid c) : isBreak c = false := solid.notBreakOrEnd.1

theorem notEnd (solid : Solid c) : isEnd c = false := solid.notBreakOrEnd.2

theorem notReturn (solid : Solid c) : (c == '\r') = false := by
  have notBreak := solid.notBreak
  rw [isBreak, Bool.or_eq_false_iff] at notBreak
  exact notBreak.2

theorem of_isAlphanum (alphanumeric : c.isAlphanum = true) : Solid c where
  notGap := isGap_of_isAlphanum alphanumeric
  notComment := beq_false_of_ne (ne_of_isAlphanum alphanumeric (by decide))

end Solid

theorem solid_colon : Solid ':' := ⟨by decide, by decide⟩

theorem solid_hyphen : Solid '-' := ⟨by decide, by decide⟩

/-- A character that no plain scalar begins with. -/
def isIndicator (c : Char) : Bool :=
  isFlow c || ['&', '*', '!', '|', '>', '\'', '"', '%', '@', '\x60'].contains c

/-- A character that a plain scalar begins with only if more of it follows. -/
def isSeparator (c : Char) : Bool := c == '-' || c == '?' || c == ':'

theorem isIndicator_of_isAlphanum {c : Char} (alphanumeric : c.isAlphanum = true) :
    isIndicator c = false := by
  simp only [isIndicator, isFlow, List.contains_cons, List.contains_nil, Bool.or_eq_false_iff,
    beq_eq_false_iff_ne]
  repeat' apply And.intro
  all_goals first
    | exact ne_of_isAlphanum alphanumeric (by decide)
    | trivial

theorem isSeparator_of_isAlphanum {c : Char} (alphanumeric : c.isAlphanum = true) :
    isSeparator c = false := by
  simp only [isSeparator, Bool.or_eq_false_iff, beq_eq_false_iff_ne]
  refine ⟨⟨?_, ?_⟩, ?_⟩ <;> exact ne_of_isAlphanum alphanumeric (by decide)

/-! ## Bare texts -/

/-- A text that is a plain scalar as it stands. -/
structure Bare where
  initial : Char
  others : List Char
  solid : ∀ c ∈ initial :: others, Solid c
  notIndicator : isIndicator initial = false
  followed : isSeparator initial = true → others ≠ []
  noColonLast : (initial :: others).getLast? ≠ some ':'

namespace Bare

def chars (bare : Bare) : List Char := bare.initial :: bare.others

def text (bare : Bare) : String := String.ofList bare.chars

theorem solid_of_mem {bare : Bare} {c : Char} (member : c ∈ bare.chars) : Solid c :=
  bare.solid c member

theorem solid_initial (bare : Bare) : Solid bare.initial := bare.solid_of_mem List.mem_cons_self

/-- A bare text begins with a character of a token. -/
theorem solid_head (bare : Bare) (rest : List Char) : ∀ c ∈ (bare.chars ++ rest).head?, Solid c := by
  intro c first
  cases first
  exact bare.solid_initial

theorem notFlow (bare : Bare) : isFlow bare.initial = false := by
  have notIndicator := bare.notIndicator
  rw [isIndicator, Bool.or_eq_false_iff] at notIndicator
  exact notIndicator.1

/-- There is no gap behind a separator that a bare text begins with. -/
theorem isGap_second (bare : Bare) (separator : isSeparator bare.initial = true)
    (rest : List Char) : isGap (second (bare.chars ++ rest)) = false := by
  rcases bare with ⟨initial, others, solid, notIndicator, followed, noColonLast⟩
  cases others with
  | nil => exact absurd rfl (followed separator)
  | cons next later => exact (solid next (by simp)).notGap

/-- A letter or digit with letters and digits after it. -/
def ofAlphanumeric (initial : Char) (others : List Char)
    (alphanumeric : ∀ c ∈ initial :: others, c.isAlphanum = true) : Bare where
  initial := initial
  others := others
  solid c member := Solid.of_isAlphanum (alphanumeric c member)
  notIndicator := isIndicator_of_isAlphanum (alphanumeric initial List.mem_cons_self)
  followed separator := by
    rw [isSeparator_of_isAlphanum (alphanumeric initial List.mem_cons_self)] at separator
    cases separator
  noColonLast last :=
    absurd (alphanumeric ':' (List.mem_of_getLast? last)) (by decide)

end Bare

/-! ## Entries -/

/-- A key with what it is given, all of them bare texts. -/
structure BareEntry where
  key : Bare
  given : Given Bare

namespace BareEntry

/-- The lines of an entry. -/
def lines (entry : BareEntry) : List (List Char) :=
  entryLines entry.key.chars (entry.given.map Bare.chars)

/-- What the key is given, as texts. -/
def texts (entry : BareEntry) : Given String := entry.given.map Bare.text

/-- The lines hold nothing but characters of tokens and spaces. -/
theorem solid_or_space {entry : BareEntry} {line : List Char} (member : line ∈ entry.lines) :
    ∀ c ∈ line, Solid c ∨ c = ' ' := by
  intro c inLine
  rcases entry with ⟨key, bare | items⟩
  · rw [lines, Given.map, entryLines, List.mem_singleton] at member
    rw [member, List.mem_append, List.mem_cons, List.mem_cons] at inLine
    rcases inLine with inKey | rfl | rfl | inText
    · exact .inl (key.solid_of_mem inKey)
    · exact .inl solid_colon
    · exact .inr rfl
    · exact .inl (bare.solid_of_mem inText)
  · rcases List.mem_cons.1 member with keyLine | itemLine
    · rw [keyLine, List.mem_append, List.mem_singleton] at inLine
      rcases inLine with inKey | rfl
      · exact .inl (key.solid_of_mem inKey)
      · exact .inl solid_colon
    · rw [List.map_map] at itemLine
      rcases List.mem_map.1 itemLine with ⟨item, -, rfl⟩
      rcases List.mem_cons.1 inLine with rfl | inLine
      · exact .inl solid_hyphen
      · rcases List.mem_cons.1 inLine with rfl | inText
        · exact .inr rfl
        · exact .inl (item.solid_of_mem inText)

theorem isLine_of_mem {entry : BareEntry} {line : List Char} (member : line ∈ entry.lines) :
    IsLine line := by
  have apart : ∀ c, isBreak c = true → c ∉ line := by
    intro c isBreak inLine
    rcases solid_or_space member c inLine with solid | rfl
    · rw [solid.notBreak] at isBreak
      cases isBreak
    · cases isBreak
  exact ⟨apart '\n' (by decide), fun last => apart '\r' (by decide) (List.mem_of_getLast? last)⟩

theorem isClosing_of_mem {entry : BareEntry} {line : List Char} (member : line ∈ entry.lines) :
    isClosing line = false := by
  rcases entry with ⟨key, bare | items⟩
  · rw [lines, Given.map, entryLines, List.mem_singleton] at member
    exact isClosing_of_colon (by simp [member])
  · rcases List.mem_cons.1 member with keyLine | itemLine
    · exact isClosing_of_colon (by simp [keyLine])
    · rcases List.mem_map.1 itemLine with ⟨item, -, rfl⟩
      exact isClosing_item item

end BareEntry

/-- The text of bare entries. -/
def bareText (entries : List BareEntry) : List Char :=
  textOfLines (entries.flatMap BareEntry.lines)

theorem bareText_cons (entry : BareEntry) (later : List BareEntry) :
    bareText (entry :: later) = textOfLines entry.lines ++ bareText later := by
  simp only [bareText, textOfLines, List.flatMap_cons, List.flatMap_append]

/-- A block of bare entries: a fence, the entries, and a text that begins with a fence. -/
def bareBlock (entries : List BareEntry) (closing : List Char) : String :=
  String.ofList (fence ++ '\n' :: bareText entries ++ closing)

/-- What stands between the fences of a block of bare entries is their text. -/
theorem body_bareBlock (entries : List BareEntry) {closing : List Char}
    (closes : (lines closing).head? = some fence) :
    body (bareBlock entries closing).toList = bareText entries := by
  rw [bareBlock, String.toList_ofList]
  refine body_textOfLines (fun line member => ?_) (fun line member => ?_) closes
  all_goals rcases List.mem_flatMap.1 member with ⟨entry, -, inEntry⟩
  · exact BareEntry.isLine_of_mem inEntry
  · exact BareEntry.isClosing_of_mem inEntry

end TopicPress.Yaml

/-! ## Plain entries -/

namespace TopicPress.FrontMatterBlock

open Yaml

/-- A word is a bare text. -/
def Word.bare (word : Word) : Bare :=
  .ofAlphanumeric word.initial word.others (fun _ member => isAlphanum_of_mem member)

namespace PlainEntry

def bare (entry : PlainEntry) : BareEntry where
  key := entry.key.bare
  given := entry.given.map Word.bare

theorem lines_bare (entry : PlainEntry) : entry.bare.lines = entry.lines := by
  rw [lines_eq, BareEntry.lines, bare, Given.map_map]
  rfl

theorem texts_bare (entry : PlainEntry) : entry.bare.texts = entry.given.map Word.text := by
  rw [BareEntry.texts, bare, Given.map_map]
  rfl

end PlainEntry

theorem bareText_plain (entries : List PlainEntry) :
    bareText (entries.map PlainEntry.bare) = textOf entries := by
  simp only [bareText, textOf, List.flatMap_map, PlainEntry.lines_bare]

theorem bareBlock_plain (entries : List PlainEntry) (closing : List Char) :
    bareBlock (entries.map PlainEntry.bare) closing = block entries closing := by
  rw [bareBlock, bareText_plain, block]

end TopicPress.FrontMatterBlock
