import TopicPress.Proofs.LineScanning

/-!
# Entries as they stand in lines

A key stands before a colon, and a value behind it, or on a line of its own behind a hyphen.  How they
are spelled is of no concern to the lines, as long as no blank stands at either end, no line feed in
between, and nothing in front that makes the line of a key a comment or an item.  Words are their own
spelling.
-/

namespace TopicPress.FrontMatterBlock

open Text

theorem trim_space (text : List Char) : trim (' ' :: text) = trim text := rfl

/-! ## Spelled entries -/

/-- A text as it stands in a line, any quotes around it included. -/
structure Spelling where
  chars : List Char
  tidy : Tidy chars
  filled : chars ≠ []

/-- The text that is spelled, without quotes. -/
def Spelling.text (spelling : Spelling) : String := String.ofList (unquote spelling.chars)

/-- A spelling that can be a key, at the beginning of a line and up to a colon. -/
structure KeySpelling extends Spelling where
  noColon : ':' ∉ chars
  noComment : chars.head? ≠ some '#'
  noItem : chars.head? ≠ some '-'

/-- A key with what it is given, as they stand in the lines. -/
structure SpelledEntry where
  key : KeySpelling
  given : Given Spelling

namespace SpelledEntry

def lines (entry : SpelledEntry) : List (List Char) :=
  entryLines entry.key.chars (entry.given.map Spelling.chars)

/-- The front matter with the entry. -/
def addTo (header : FrontMatter) (entry : SpelledEntry) : FrontMatter :=
  header.insert entry.key.text (entry.given.map Spelling.text).values

end SpelledEntry

theorem tidy_besideLine (key : KeySpelling) (value : Spelling) :
    Tidy (key.chars ++ ':' :: ' ' :: value.chars) :=
  key.tidy.append key.filled value.tidy value.filled [':', ' '] (by decide)

theorem tidy_keyLine (key : KeySpelling) : Tidy (key.chars ++ [':']) :=
  key.tidy.append key.filled (.singleton (by decide)) (List.cons_ne_nil _ _) [] List.not_mem_nil

theorem tidy_itemLine (value : Spelling) : Tidy ('-' :: ' ' :: value.chars) :=
  (Tidy.singleton (by decide)).append (List.cons_ne_nil _ _) value.tidy value.filled [' '] (by decide)

theorem SpelledEntry.tidy_of_mem {entry : SpelledEntry} {line : List Char}
    (member : line ∈ entry.lines) : Tidy line := by
  rcases entry with ⟨key, given⟩
  cases given with
  | beside value =>
      rw [lines, Given.map, entryLines, List.mem_singleton] at member
      rw [member]
      exact tidy_besideLine key value
  | below values =>
      rcases List.mem_cons.1 member with keyLine | itemLine
      · rw [keyLine]
        exact tidy_keyLine key
      · rw [List.map_map] at itemLine
        rcases List.mem_map.1 itemLine with ⟨value, -, rfl⟩
        exact tidy_itemLine value

namespace KeySpelling

variable (key : KeySpelling)

theorem takeWhile_colon (rest : List Char) :
    (key.chars ++ ':' :: rest).takeWhile (· ≠ ':') = key.chars := by
  rw [List.takeWhile_append_of_pos]
  · exact List.append_nil _
  · intro c member
    exact decide_eq_true (fun same => key.noColon (same ▸ member))

theorem dropWhile_colon (rest : List Char) :
    (key.chars ++ ':' :: rest).dropWhile (· ≠ ':') = ':' :: rest := by
  rw [List.dropWhile_append_of_pos]
  · rfl
  · intro c member
    exact decide_eq_true (fun same => key.noColon (same ▸ member))

/-- A line that begins with a key opens an entry. -/
theorem opens_line {rest : List Char} (tidy : Tidy (key.chars ++ rest)) :
    opens (key.chars ++ rest) = true := by
  have begins : (key.chars ++ rest).head? = key.chars.head? :=
    List.head?_append_of_ne_nil _ key.filled
  rw [opens, tidy.trim]
  split
  · rename_i empty
    exact absurd (List.append_eq_nil_iff.1 empty).1 key.filled
  · rename_i comment
    rw [comment] at begins
    exact absurd begins.symm key.noComment
  · rename_i item
    rw [item] at begins
    exact absurd begins.symm key.noItem
  · rfl

theorem keyOf?_line {rest : List Char} (tidy : Tidy (key.chars ++ ':' :: rest)) :
    keyOf? (key.chars ++ ':' :: rest) = some key.text := by
  rw [keyOf?, tidy.trim, key.dropWhile_colon, key.takeWhile_colon, key.tidy.trim]
  rfl

theorem besideKey_line {rest : List Char} (tidy : Tidy (key.chars ++ ':' :: rest)) :
    besideKey (key.chars ++ ':' :: rest) = trim rest := by
  rw [besideKey, tidy.trim, key.dropWhile_colon, List.tail_cons]

end KeySpelling

theorem opens_itemLine (value : Spelling) : opens ('-' :: ' ' :: value.chars) = false := by
  rw [opens, (tidy_itemLine value).trim]
  rfl

theorem item?_itemLine (value : Spelling) :
    item? ('-' :: ' ' :: value.chars) = some (.scalar value.text) := by
  rw [item?, (tidy_itemLine value).trim]
  simp only [trim_space, value.tidy.trim]
  rfl

theorem KeySpelling.blockValues_beside (key : KeySpelling) (value : Spelling) :
    blockValues (key.chars ++ ':' :: ' ' :: value.chars) [] = [.scalar value.text] := by
  have behind : besideKey (key.chars ++ ':' :: ' ' :: value.chars) = value.chars := by
    rw [key.besideKey_line (tidy_besideLine key value), trim_space, value.tidy.trim]
  rw [blockValues, behind, if_neg]
  · rfl
  · rw [List.isEmpty_iff]
    exact value.filled

theorem KeySpelling.blockValues_below (key : KeySpelling) (values : List Spelling) :
    blockValues (key.chars ++ [':']) (values.map (fun value => '-' :: ' ' :: value.chars)) =
      ((Given.below values).map Spelling.text).values := by
  have items : (values.map (fun value => '-' :: ' ' :: value.chars)).filterMap item? =
      values.map (fun value => .scalar value.text) := by
    rw [List.filterMap_map]
    simp only [Function.comp_def, item?_itemLine, List.filterMap_eq_map']
  rw [blockValues, key.besideKey_line (tidy_keyLine key), items]
  cases values with
  | nil => rfl
  | cons value later => simp [Given.map, Given.values, show trim [] = [] from rfl, Function.comp_def]

namespace Progress

variable {progress : Progress}

/-- Reading an entry and finishing its key adds the entry. -/
theorem finishKey_foldl_entry (entry : SpelledEntry) :
    (entry.lines.foldl step progress).finishKey = entry.addTo progress.finishKey := by
  rcases entry with ⟨key, given⟩
  cases given with
  | beside value =>
      have tidy := tidy_besideLine key value
      rw [SpelledEntry.lines, Given.map, entryLines,
        finishKey_foldl_block (key.opens_line tidy) (key.keyOf?_line tidy)
          (List.forall_mem_nil _),
        key.blockValues_beside]
      rfl
  | below values =>
      have tidy := tidy_keyLine key
      have items : ∀ line ∈ values.map (fun value => '-' :: ' ' :: value.chars),
          opens line = false := by
        intro line member
        rcases List.mem_map.1 member with ⟨value, -, rfl⟩
        exact opens_itemLine value
      rw [SpelledEntry.lines, Given.map, entryLines, List.map_map]
      exact (finishKey_foldl_block (key.opens_line tidy) (key.keyOf?_line tidy) items).trans
        (congrArg _ (key.blockValues_below values))

theorem finishKey_foldl_entries (entries : List SpelledEntry) :
    ((entries.flatMap SpelledEntry.lines).foldl step progress).finishKey =
      entries.foldl SpelledEntry.addTo progress.finishKey := by
  induction entries generalizing progress with
  | nil => rfl
  | cons entry later inductionHypothesis =>
      rw [List.flatMap_cons, List.foldl_append, inductionHypothesis, finishKey_foldl_entry,
        List.foldl_cons]

end Progress

/-! ## Plain entries -/

namespace Word

theorem isAlphanum_of_head? {word : Word} {c : Char} {rest : List Char}
    (first : c ∈ (word.chars ++ rest).head?) : c.isAlphanum = true := by
  cases first
  exact isAlphanum_of_mem List.mem_cons_self

theorem isAlphanum_of_getLast? {word : Word} {c : Char} {front : List Char}
    (last : c ∈ (front ++ word.chars).getLast?) : c.isAlphanum = true := by
  rw [List.getLast?_append] at last
  cases ended : word.chars.getLast? with
  | none => exact absurd (List.getLast?_eq_none_iff.1 ended) (List.cons_ne_nil _ _)
  | some final =>
      rw [ended] at last
      cases last
      exact isAlphanum_of_mem (List.mem_of_getLast? ended)

theorem not_mem_chars {word : Word} {c : Char} (no : c.isAlphanum = false) : c ∉ word.chars :=
  fun member => ne_of_isAlphanum (isAlphanum_of_mem member) no rfl

theorem tidy (word : Word) : Tidy word.chars where
  noLineFeed := not_mem_chars (by decide)
  first c head := isWhiteSpace_of_isAlphanum
    (@isAlphanum_of_head? word c [] (by rwa [List.append_nil]))
  last c end_ := isWhiteSpace_of_isAlphanum (@isAlphanum_of_getLast? word c [] end_)

theorem unquote_chars (word : Word) : unquote word.chars = word.chars := by
  have alphanumeric := word.isAlphanum_initial
  have noQuote : ¬ (word.initial = '"' ∨ word.initial = '\'') := by
    rintro (same | same)
    · exact ne_of_isAlphanum alphanumeric (by decide) same
    · exact ne_of_isAlphanum alphanumeric (by decide) same
  simp only [chars, unquote, Bool.or_eq_true, decide_eq_true_eq, if_neg noQuote]

end Word

/-- A word is spelled as it is. -/
def Word.spelling (word : Word) : KeySpelling where
  chars := word.chars
  tidy := word.tidy
  filled := List.cons_ne_nil _ _
  noColon := Word.not_mem_chars (by decide)
  noComment first := ne_of_isAlphanum word.isAlphanum_initial (by decide) (Option.some.inj first)
  noItem first := ne_of_isAlphanum word.isAlphanum_initial (by decide) (Option.some.inj first)

@[simp] theorem Word.text_spelling (word : Word) : word.spelling.text = word.text := by
  rw [Spelling.text, spelling, unquote_chars, text]

namespace PlainEntry

def spelled (entry : PlainEntry) : SpelledEntry where
  key := entry.key.spelling
  given := entry.given.map (fun word => word.spelling.toSpelling)

theorem lines_spelled (entry : PlainEntry) : entry.spelled.lines = entry.lines := by
  rw [lines_eq, SpelledEntry.lines, spelled, Given.map_map]
  rfl

theorem addTo_spelled (header : FrontMatter) (entry : PlainEntry) :
    entry.spelled.addTo header = entry.addTo header := by
  have texts : Spelling.text ∘ (fun word : Word => word.spelling.toSpelling) = Word.text :=
    funext Word.text_spelling
  rw [SpelledEntry.addTo, spelled, Given.map_map, texts, addTo, values_eq, Word.text_spelling]

end PlainEntry

/-- The lines of plain entries are read one entry after the other, whatever has been read before. -/
theorem Progress.finishKey_foldl_plain (progress : Progress) (entries : List PlainEntry) :
    ((entries.flatMap PlainEntry.lines).foldl step progress).finishKey =
      entries.foldl PlainEntry.addTo progress.finishKey := by
  have read := progress.finishKey_foldl_entries (entries.map PlainEntry.spelled)
  rw [List.flatMap_map, List.foldl_map] at read
  simpa only [PlainEntry.lines_spelled, PlainEntry.addTo_spelled] using read

/-! ## Texts of plain entries -/

theorem tidy_of_mem {entry : PlainEntry} {line : List Char} (member : line ∈ entry.lines) :
    Tidy line := by
  rw [← entry.lines_spelled] at member
  exact SpelledEntry.tidy_of_mem member

theorem lines_textOf_append (entries : List PlainEntry) (rest : List Char) :
    lines (textOf entries ++ rest) = entries.flatMap PlainEntry.lines ++ lines rest := by
  refine lines_textOfLines_append (fun line member => ?_) rest
  rcases List.mem_flatMap.1 member with ⟨entry, -, inEntry⟩
  exact (tidy_of_mem inEntry).isLine

/-- The lines of plain entries are read as the entries. -/
theorem scanLines_textOf (entries : List PlainEntry) :
    scanLines (textOf entries) = entries.foldl PlainEntry.addTo .empty := by
  have whole := lines_textOf_append entries []
  rw [List.append_nil] at whole
  rw [scanLines, whole, show lines [] = [] from rfl, List.append_nil,
    Progress.finishKey_foldl_plain]
  rfl

/-! ## Plain entries among other lines -/

/-- Of entries with keys of their own each gives its key its values. -/
theorem get?_foldl_addTo {entries : List PlainEntry} {entry : PlainEntry} (member : entry ∈ entries)
    (distinct : (entries.map (fun entry => entry.key.text)).Nodup) (header : FrontMatter) :
    (entries.foldl PlainEntry.addTo header).get? entry.key.text = some entry.values :=
  FrontMatter.get?_foldl_of_distinct distinct member
    (fun header => header.get?_insert_self _ _)
    (fun _ different header => header.get?_insert_of_ne _ different _) header

/-- Entries are given the same values whatever lines stand before them, and whatever lines stand
after them, unless these give something to the same keys. -/
theorem get?_scanLines_among {entries : List PlainEntry} {entry : PlainEntry}
    (member : entry ∈ entries) (distinct : (entries.map (fun entry => entry.key.text)).Nodup)
    {before after : List Char} (complete : ∀ c ∈ before.getLast?, c = '\n')
    (first : ∀ line ∈ (lines after).head?, opens line = true)
    (others : ∀ line ∈ lines after, opens line = true → keyOf? line ≠ some entry.key.text) :
    (scanLines (before ++ textOf entries ++ after)).get? entry.key.text = some entry.values := by
  rw [scanLines, List.append_assoc, lines_append_of_complete complete, lines_textOf_append,
    List.foldl_append, List.foldl_append, Progress.get?_foldl_step_of_opens others first,
    Progress.finishKey_foldl_plain, get?_foldl_addTo member distinct]

end TopicPress.FrontMatterBlock
