import TopicPress.Proofs.LineScanning

/-!
# Blocks between fences

What a front-matter block says stands in the lines between its fences.  A block is written down here
line by line: each line has an end of its own, white space may stand behind a fence, and either fence
may be missing.  Of all this only the lines between the fences are left when the fences are removed,
every one of them ended alike.  So the ends of the lines do not matter to what is read.
-/

namespace TopicPress.FrontMatterBlock

open Text

/-! ## Ends of lines -/

/-- How a line is ended. -/
inductive LineEnd where
  | lineFeed
  | returnAndLineFeed
  deriving DecidableEq

namespace LineEnd

/-- What stands in front of the line feed. -/
def returns : LineEnd → List Char
  | lineFeed => []
  | returnAndLineFeed => ['\r']

def chars (lineEnd : LineEnd) : List Char := lineEnd.returns ++ ['\n']

theorem not_mem_returns (lineEnd : LineEnd) : '\n' ∉ lineEnd.returns := by
  cases lineEnd <;> decide

theorem isWhiteSpace_of_mem_returns {lineEnd : LineEnd} {c : Char} (member : c ∈ lineEnd.returns) :
    isWhiteSpace c = true := by
  cases lineEnd with
  | lineFeed => cases member
  | returnAndLineFeed =>
      rw [List.mem_singleton.1 member]
      decide

end LineEnd

/-- A text in which a carriage return stands in front of every line feed. -/
def withReturns (text : List Char) : List Char :=
  text.flatMap (fun c => if c = '\n' then LineEnd.returnAndLineFeed.chars else [c])

/-! ## Blocks -/

/-- White space that may stand at the end of a line. -/
structure Padding where
  chars : List Char
  white : ∀ c ∈ chars, isWhiteSpace c = true
  noLineFeed : '\n' ∉ chars

/-- The lines that close a block. -/
def closingMarks : List (List Char) := [fence, ['.', '.', '.']]

/-- A line between the fences: it does not close the block, whatever white space is at its end. -/
structure InnerLine where
  chars : List Char
  lineEnd : LineEnd
  noLineFeed : '\n' ∉ chars
  noReturn : '\r' ∉ chars
  goesOn : trimEnd chars ∉ closingMarks

/-- The line that closes a block, with what comes after it: nothing at all, or the end of the line
and any text. -/
structure ClosingLine where
  mark : List Char
  isMark : mark ∈ closingMarks
  padding : Padding
  after : Option (LineEnd × List Char)

/-- A block as it is written.  Without its opening line it has a line before the closing one, which
would be taken for the opening line otherwise. -/
structure FencedBlock where
  opening : Option (Padding × LineEnd)
  inner : List InnerLine
  closing : Option ClosingLine
  begins : opening.isSome ∨ inner ≠ []

def InnerLine.text (line : InnerLine) : List Char := line.chars ++ line.lineEnd.chars

def ClosingLine.text (line : ClosingLine) : List Char :=
  line.mark ++ line.padding.chars ++
    match line.after with
    | some (lineEnd, rest) => lineEnd.chars ++ rest
    | none => []

namespace FencedBlock

def openingText (block : FencedBlock) : List Char :=
  match block.opening with
  | some (padding, lineEnd) => fence ++ padding.chars ++ lineEnd.chars
  | none => []

def closingText (block : FencedBlock) : List Char :=
  (block.closing.map ClosingLine.text).getD []

def text (block : FencedBlock) : List Char :=
  block.openingText ++ (block.inner.flatMap InnerLine.text ++ block.closingText)

/-- The lines between the fences, without their ends. -/
def innerLines (block : FencedBlock) : List (List Char) := block.inner.map InnerLine.chars

end FencedBlock

/-! ## Trimming the end -/

theorem trimEnd_append_of_white {white : List Char}
    (all : ∀ c ∈ white, isWhiteSpace c = true) (line : List Char) :
    trimEnd (line ++ white) = trimEnd line := by
  have passed : ∀ c ∈ white.reverse, isWhiteSpace c = true :=
    fun c member => all c (List.mem_reverse.1 member)
  rw [trimEnd, dropEndWhile, List.reverse_append, List.dropWhile_append_of_pos passed, trimEnd,
    dropEndWhile]

theorem trimEnd_dropReturn (line : List Char) : trimEnd (dropReturn line) = trimEnd line := by
  have white : ∀ c ∈ ['\r'], isWhiteSpace c = true := List.forall_mem_singleton.2 (by decide)
  rcases dropReturn_cases line with kept | dropped
  · rw [kept]
  · exact ((congrArg trimEnd dropped).trans (trimEnd_append_of_white white _)).symm

theorem isClosing_eq_false_iff (line : List Char) :
    isClosing line = false ↔ trimEnd line ∉ closingMarks := by
  rw [isClosing, Bool.or_eq_false_iff, beq_eq_false_iff_ne, beq_eq_false_iff_ne, closingMarks,
    List.mem_cons, List.mem_singleton, not_or]

/-- The line that opens a block could close it as well. -/
theorem isOpening_of_goesOn {line : List Char} (goesOn : trimEnd line ∉ closingMarks) :
    isOpening line = false := by
  rw [isOpening, beq_eq_false_iff_ne]
  intro same
  exact goesOn (same ▸ List.mem_cons_self)

theorem solid_of_mem_mark {mark : List Char} (isMark : mark ∈ closingMarks) :
    '\n' ∉ mark ∧ mark ≠ [] ∧ trimEnd mark = mark := by
  revert isMark
  revert mark
  decide

/-! ## Lines with their ends -/

theorem lines_cons {line : List Char} (noLineFeed : '\n' ∉ line) (lineEnd : LineEnd)
    (rest : List Char) :
    lines (line ++ lineEnd.chars ++ rest) =
      dropReturn (line ++ lineEnd.returns) :: lines rest := by
  have present : '\n' ∉ line ++ lineEnd.returns := by
    rw [List.mem_append, not_or]
    exact ⟨noLineFeed, lineEnd.not_mem_returns⟩
  have whole : line ++ lineEnd.chars ++ rest = line ++ lineEnd.returns ++ '\n' :: rest := by
    simp [LineEnd.chars]
  rw [whole, lines, linesFrom_append rest present []]
  rfl

/-- A line without an end is a line by itself. -/
theorem lines_of_noLineFeed {line : List Char} (noLineFeed : '\n' ∉ line) (filled : line ≠ []) :
    lines line = [line] := by
  suffices all : ∀ read, read.reverse ++ line ≠ [] →
      linesFrom read line = [read.reverse ++ line] from all [] filled
  clear filled
  induction line with
  | nil =>
      intro read filled
      rw [List.append_nil] at filled ⊢
      rw [linesFrom, if_neg]
      rw [List.isEmpty_iff]
      exact fun empty => filled (by rw [empty, List.reverse_nil])
  | cons c later inductionHypothesis =>
      intro read filled
      rw [List.mem_cons, not_or] at noLineFeed
      have moved : read.reverse ++ c :: later = (c :: read).reverse ++ later := by
        rw [List.reverse_cons, List.append_assoc, List.singleton_append]
      rw [linesFrom, if_neg (Ne.symm noLineFeed.1), moved]
      exact inductionHypothesis noLineFeed.2 _ (moved ▸ filled)

/-- What is kept of a line has the same end as the line, white space apart. -/
theorem trimEnd_kept (line : List Char) {white : List Char}
    (all : ∀ c ∈ white, isWhiteSpace c = true) (lineEnd : LineEnd) :
    trimEnd (dropReturn (line ++ white ++ lineEnd.returns)) = trimEnd line := by
  rw [trimEnd_dropReturn, trimEnd_append_of_white (fun _ => LineEnd.isWhiteSpace_of_mem_returns),
    trimEnd_append_of_white all]

theorem dropReturn_concat (line : List Char) : dropReturn (line ++ ['\r']) = line := by
  rw [dropReturn, List.reverse_concat]
  exact List.reverse_reverse line

/-- A line without carriage returns is kept as it is. -/
theorem dropReturn_returns {line : List Char} (noReturn : '\r' ∉ line) (lineEnd : LineEnd) :
    dropReturn (line ++ lineEnd.returns) = line := by
  cases lineEnd with
  | lineFeed =>
      rw [LineEnd.returns, List.append_nil]
      exact dropReturn_of_getLast?_ne (fun last => noReturn (List.mem_of_getLast? last))
  | returnAndLineFeed => exact dropReturn_concat line

theorem lines_inner (inner : List InnerLine) (rest : List Char) :
    lines (inner.flatMap InnerLine.text ++ rest) = inner.map InnerLine.chars ++ lines rest := by
  induction inner with
  | nil => rfl
  | cons line later inductionHypothesis =>
      rw [List.flatMap_cons, List.append_assoc, InnerLine.text,
        lines_cons line.noLineFeed, dropReturn_returns line.noReturn, inductionHypothesis,
        List.map_cons, List.cons_append]

/-! ## Removing the fences -/

/-- If a block is closed, the first line from there on closes it. -/
theorem FencedBlock.takeWhile_closingText (block : FencedBlock) :
    (lines block.closingText).takeWhile (fun line => !isClosing line) = [] := by
  have closes : ∀ {line : List Char}, trimEnd line ∈ closingMarks → (!isClosing line) = false := by
    intro line member
    rw [Bool.not_eq_false', ← Bool.not_eq_false, isClosing_eq_false_iff]
    exact not_not_intro member
  rw [closingText]
  cases block.closing with
  | none => rfl
  | some line =>
      rcases solid_of_mem_mark line.isMark with ⟨noLineFeed, filled, trimmed⟩
      have padded : '\n' ∉ line.mark ++ line.padding.chars := by
        rw [List.mem_append, not_or]
        exact ⟨noLineFeed, line.padding.noLineFeed⟩
      rw [Option.map_some, Option.getD_some, ClosingLine.text]
      cases line.after with
      | none =>
          have closing : trimEnd (line.mark ++ line.padding.chars) ∈ closingMarks := by
            rw [trimEnd_append_of_white line.padding.white, trimmed]
            exact line.isMark
          rw [List.append_nil,
            lines_of_noLineFeed padded (List.append_ne_nil_of_left_ne_nil filled _),
            List.takeWhile_cons, closes closing]
          rfl
      | some ended =>
          rcases ended with ⟨lineEnd, rest⟩
          have closing : trimEnd (dropReturn (line.mark ++ line.padding.chars
              ++ lineEnd.returns)) ∈ closingMarks := by
            rw [trimEnd_kept line.mark line.padding.white, trimmed]
            exact line.isMark
          rw [← List.append_assoc, lines_cons padded lineEnd rest, List.takeWhile_cons,
            closes closing]
          rfl

/-- Whatever the fences look like, the lines between them are left. -/
theorem bodyLines_text (block : FencedBlock) : bodyLines block.text = block.innerLines := by
  have goesOn : ∀ line ∈ block.innerLines, (!isClosing line) = true := by
    intro line member
    rcases List.mem_map.1 member with ⟨inner, -, rfl⟩
    rw [Bool.not_eq_true', isClosing_eq_false_iff]
    exact inner.goesOn
  have taken : (block.innerLines ++ lines block.closingText).takeWhile (fun line => !isClosing line) =
      block.innerLines := by
    rw [List.takeWhile_append_of_pos goesOn, block.takeWhile_closingText, List.append_nil]
  rw [bodyLines, FencedBlock.text, FencedBlock.openingText]
  cases opening : block.opening with
  | some given =>
      rcases given with ⟨padding, lineEnd⟩
      have noLineFeed : '\n' ∉ fence ++ padding.chars := by
        rw [List.mem_append, not_or]
        exact ⟨by decide, padding.noLineFeed⟩
      have opens : isOpening (dropReturn (fence ++ padding.chars ++ lineEnd.returns)) = true := by
        rw [isOpening, trimEnd_kept fence padding.white lineEnd]
        decide
      simp only [lines_cons noLineFeed, opens, if_true, lines_inner]
      exact taken
  | none =>
      rcases given : block.inner with _ | ⟨first, later⟩
      · have begins := block.begins
        rw [opening, given] at begins
        simp at begins
      · have same : lines (([] : List Char) ++
            ((first :: later).flatMap InnerLine.text ++ block.closingText)) =
              first.chars :: (later.map InnerLine.chars ++ lines block.closingText) := by
          rw [List.nil_append, lines_inner, List.map_cons, List.cons_append]
        rw [FencedBlock.innerLines, given] at taken
        simp only [same, isOpening_of_goesOn first.goesOn, Bool.false_eq_true, if_false]
        rw [FencedBlock.innerLines, given]
        exact taken

/-! ## Carriage returns in front of all line feeds -/

theorem linesFrom_withReturns {text : List Char} (plain : '\r' ∉ text) :
    ∀ read, '\r' ∉ read → linesFrom read (withReturns text) = linesFrom read text := by
  induction text with
  | nil =>
      intro read _
      rfl
  | cons c later inductionHypothesis =>
      intro read noReturn
      rw [List.mem_cons, not_or] at plain
      have further := inductionHypothesis plain.2
      rw [withReturns, List.flatMap_cons]
      by_cases feed : c = '\n'
      · have kept : dropReturn read.reverse = read.reverse :=
          dropReturn_of_getLast?_ne
            (fun last => noReturn (List.mem_reverse.1 (List.mem_of_getLast? last)))
        have dropped : dropReturn ('\r' :: read).reverse = read.reverse := by
          rw [List.reverse_cons, dropReturn_concat]
        rw [if_pos feed, LineEnd.chars, LineEnd.returns, List.append_assoc, List.singleton_append,
          List.singleton_append, linesFrom, if_neg (by decide), linesFrom, if_pos rfl, dropped,
          linesFrom, if_pos feed, kept]
        exact congrArg _ (further [] (List.not_mem_nil))
      · rw [if_neg feed, List.singleton_append, linesFrom, if_neg feed, linesFrom, if_neg feed]
        exact further (c :: read) (fun member =>
          (List.mem_cons.1 member).elim plain.1 noReturn)

theorem lines_withReturns {text : List Char} (plain : '\r' ∉ text) :
    lines (withReturns text) = lines text :=
  linesFrom_withReturns plain [] List.not_mem_nil

/-- When the fences are removed, the lines between them are left, each with a line feed; how the lines
are ended, what white space stands behind the fences, whether they are there, and what comes after the
closing one makes no difference.  And a block in which no carriage return stands is read the same with
one in front of every line feed. -/
theorem lineEnds_immaterial (block : FencedBlock) {raw : String} (plain : '\r' ∉ raw.toList) :
    body block.text = textOfLines block.innerLines ∧
      read (String.ofList (withReturns raw.toList)) = read raw := by
  have sameBody : body (String.ofList (withReturns raw.toList)).toList = body raw.toList := by
    rw [String.toList_ofList, body, bodyLines, lines_withReturns plain, body, bodyLines]
  refine ⟨?_, ?_⟩
  · rw [body, bodyLines_text, textOfLines]
  · simp only [read, sameBody]

/-- Fences with white space behind them, one of it a carriage return, lines with either end, one of
them empty and one that only begins like a fence; and a block that ends without a closing line. -/
theorem lineEnds_immaterial_behind_padded_fences :
    let block : FencedBlock :=
      { opening := some (⟨[' ', '\r'], List.all_eq_true.1 (by decide), by decide⟩, .lineFeed)
        inner :=
          [⟨"a: 1".toList, .returnAndLineFeed, by decide, by decide, by decide⟩,
            ⟨[], .lineFeed, by decide, by decide, by decide⟩,
            ⟨"---- ".toList, .returnAndLineFeed, by decide, by decide, by decide⟩]
        closing := some ⟨"...".toList, by decide, ⟨['\u2003'], List.all_eq_true.1 (by decide), by decide⟩,
          some (.returnAndLineFeed, "b: 2\n---\n".toList)⟩
        begins := Or.inl rfl }
    block.text = "--- \r\na: 1\r\n\n---- \r\n...\u2003\r\nb: 2\n---\n".toList ∧
      body block.text = "a: 1\n\n---- \n".toList ∧
      '\r' ∉ "---\na: [x\n- y".toList ∧
      read "---\r\na: [x\r\n- y" = read "---\na: [x\n- y" := by
  intro block
  have written : block.text =
      "--- \r\na: 1\r\n\n---- \r\n...\u2003\r\nb: 2\n---\n".toList := by decide +kernel
  have plain : '\r' ∉ "---\na: [x\n- y".toList := by decide
  have immaterial := lineEnds_immaterial block plain
  have inner : textOfLines block.innerLines = "a: 1\n\n---- \n".toList := by decide +kernel
  have returns : String.ofList (withReturns "---\na: [x\n- y".toList) =
      "---\r\na: [x\r\n- y" := by decide +kernel
  rw [inner, returns] at immaterial
  exact ⟨written, immaterial.1, plain, immaterial.2⟩

end TopicPress.FrontMatterBlock
