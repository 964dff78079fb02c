import TopicPress.Proofs.SpelledEntries

/-!
# Quoted entries

What is printed with all keys and values in double quotes can be read back line by line.  The quotes
keep whatever they enclose from being taken for something else: white space is not trimmed, a number
sign or a hyphen opens no comment and no item, and quotes within quotes stay, since only the outermost
ones are taken away.  All that is asked is that a text is in one line and that a key has no colon.
Blank lines and comments may stand anywhere in between.
-/

namespace TopicPress.FrontMatterBlock

open Text

/-! ## Printing -/

/-- A text without line feeds. -/
structure LineText where
  text : String
  inLine : '\n' ∉ text.toList

/-- The text in double quotes. -/
def LineText.quoted (line : LineText) : List Char := '"' :: (line.text.toList ++ ['"'])

/-- A key without a colon, with the values that it is given; it is given null if they stand below it
and there are none. -/
structure QuotedEntry where
  key : LineText
  noColon : ':' ∉ key.text.toList
  given : Given LineText

namespace QuotedEntry

/-- The lines that are printed. -/
def lines (entry : QuotedEntry) : List (List Char) :=
  entryLines entry.key.quoted (entry.given.map LineText.quoted)

/-- The entry of the front matter. -/
def entry (printed : QuotedEntry) : FrontMatter.Entry :=
  (printed.key.text, (printed.given.map LineText.text).values)

end QuotedEntry

/-- A line with nothing but white space, or a comment, which begins with a number sign. -/
def isFiller (line : List Char) : Bool :=
  match line.dropWhile isWhiteSpace with
  | [] => true
  | c :: _ => c == '#'

/-! ## Quotes -/

namespace LineText

variable (line : LineText)

theorem tidy_quoted : Tidy line.quoted :=
  (Tidy.singleton (by decide)).append (List.cons_ne_nil _ _) (.singleton (by decide))
    (List.cons_ne_nil _ _) line.text.toList line.inLine

theorem unquote_quoted : unquote line.quoted = line.text.toList := by
  simp only [quoted, unquote, List.reverse_concat, List.reverse_reverse, decide_true, Bool.true_or,
    if_true]

/-- A quoted text is spelled with its quotes. -/
def spelling : Spelling where
  chars := line.quoted
  tidy := line.tidy_quoted
  filled := List.cons_ne_nil _ _

@[simp] theorem text_spelling : line.spelling.text = line.text := by
  rw [Spelling.text, spelling, unquote_quoted, String.ofList_toList]

end LineText

namespace QuotedEntry

def spelled (entry : QuotedEntry) : SpelledEntry where
  key :=
    { entry.key.spelling with
      noColon := by simpa [LineText.spelling, LineText.quoted] using entry.noColon
      noComment := Option.some_inj.not.2 (by decide)
      noItem := Option.some_inj.not.2 (by decide) }
  given := entry.given.map LineText.spelling

theorem lines_spelled (entry : QuotedEntry) : entry.spelled.lines = entry.lines := by
  rw [SpelledEntry.lines, spelled, Given.map_map]
  rfl

theorem addTo_spelled (header : FrontMatter) (entry : QuotedEntry) :
    entry.spelled.addTo header = header.insert entry.entry.1 entry.entry.2 := by
  have texts : Spelling.text ∘ LineText.spelling = LineText.text :=
    funext LineText.text_spelling
  have key : Spelling.text entry.spelled.key.toSpelling = entry.key.text :=
    entry.key.text_spelling
  rw [SpelledEntry.addTo, key, spelled, Given.map_map, texts]
  rfl

end QuotedEntry

/-! ## Fillers -/

/-- What is no white space in front is not trimmed at the end either. -/
theorem dropEndWhile_cons {c : Char} (solid : isWhiteSpace c = false) (rest : List Char) :
    dropEndWhile isWhiteSpace (c :: rest) = c :: dropEndWhile isWhiteSpace rest := by
  rw [dropEndWhile, List.reverse_cons, List.dropWhile_append, dropEndWhile]
  split
  · rename_i empty
    rw [List.isEmpty_iff.1 empty, List.dropWhile_cons, solid]
    rfl
  · rw [List.reverse_concat]

/-- Fillers are passed over. -/
theorem Progress.step_of_isFiller {line : List Char} (filler : isFiller line = true)
    (progress : Progress) : progress.step line = progress := by
  rw [isFiller] at filler
  rw [step, trim, trimBy]
  cases text : line.dropWhile isWhiteSpace with
  | nil => rfl
  | cons c rest =>
      rw [text] at filler
      cases beq_iff_eq.1 filler
      rw [dropEndWhile_cons (by decide)]
      rfl

theorem Progress.foldl_step_fillers (given : List (List Char)) (progress : Progress) :
    (given.filter (fun line => !isFiller line)).foldl step progress = given.foldl step progress := by
  rw [List.foldl_filter]
  congr 1
  funext progress line
  cases filler : isFiller line with
  | true => exact (progress.step_of_isFiller filler).symm
  | false => rfl

/-! ## Reading back -/

/-- Lines are read up to their ends, whatever the ends are. -/
theorem scanLines_textOfLines {given : List (List Char)} (whole : ∀ line ∈ given, '\n' ∉ line) :
    scanLines (textOfLines given) = (given.foldl Progress.step {}).finishKey := by
  have read := lines_textOfLines_append_eq_map whole []
  rw [List.append_nil, show lines [] = [] from rfl, List.append_nil] at read
  have same : ∀ progress line, Progress.step progress (dropReturn line) = progress.step line :=
    fun progress line => Progress.step_congr (trim_dropReturn line)
  rw [scanLines, read, List.foldl_map]
  simp only [same]

/-- The lines of quoted entries, with fillers anywhere between them, are read as the entries. -/
theorem scanLines_quoted {entries : List QuotedEntry} {given : List (List Char)}
    (whole : ∀ line ∈ given, '\n' ∉ line)
    (printed : given.filter (fun line => !isFiller line) = entries.flatMap QuotedEntry.lines) :
    scanLines (textOfLines given) = FrontMatter.ofList (entries.map QuotedEntry.entry) := by
  have read := @Progress.finishKey_foldl_entries {} (entries.map QuotedEntry.spelled)
  rw [List.flatMap_map, List.foldl_map] at read
  simp only [QuotedEntry.lines_spelled, QuotedEntry.addTo_spelled] at read
  rw [scanLines_textOfLines whole, ← Progress.foldl_step_fillers, printed, read,
    FrontMatter.ofList, List.foldl_map]
  rfl

/-- A key that looks like a comment, with values that look like an item, an entry and an open quote; a
key with a quote in it; an empty key with null; and fillers before, between and behind them. -/
theorem scanLines_quoted_of_signs :
    let entries : List QuotedEntry :=
      [{ key := ⟨"# a ", by decide⟩, noColon := by decide
         given := .below [⟨"- b", by decide⟩, ⟨"c: d", by decide⟩, ⟨"\"", by decide⟩] },
        { key := ⟨"e'\"f", by decide⟩, noColon := by decide
          given := .beside ⟨" \r", by decide⟩ },
        { key := ⟨"", by decide⟩, noColon := by decide, given := .below [] }]
    let given : List (List Char) :=
      ["# \"x\": y", "\"# a \":", "", "- \"- b\"", " # z", "- \"c: d\"", "- \"\"\"", "\t\r",
        "\"e'\"f\": \" \r\"", "\"\":", "#"].map String.toList
    (∀ line ∈ given, '\n' ∉ line) ∧
      given.filter (fun line => !isFiller line) = entries.flatMap QuotedEntry.lines ∧
      scanLines (textOfLines given) =
        FrontMatter.ofList [("# a ", [.scalar "- b", .scalar "c: d", .scalar "\""]),
          ("e'\"f", [.scalar " \r"]), ("", [.null])] := by
  intro entries given
  have whole : ∀ line ∈ given, '\n' ∉ line := by decide
  have printed : given.filter (fun line => !isFiller line) = entries.flatMap QuotedEntry.lines := by
    decide
  exact ⟨whole, printed, scanLines_quoted whole printed⟩

end TopicPress.FrontMatterBlock
