import Mathlib.Data.List.Basic
import TopicPress.Proofs.FrontMatterUpdates
import TopicPress.Proofs.PlainEntries

/-!
# Reading front matter line by line

Only what is left of a line when white space is trimmed is read.  A line that names a key is read as
one entry with the lines below it that open nothing.  What has been read of the lines before matters to
it only through the front matter that finishing the present key gives, and the lines after it change
what a key is given only if they name it.
-/

namespace TopicPress.FrontMatterBlock

open Text

/-! ## Lines of a text -/

theorem linesFrom_append (rest : List Char) {line : List Char} (present : '\n' ∉ line)
    (read : List Char) :
    linesFrom read (line ++ '\n' :: rest) =
      dropReturn (read.reverse ++ line) :: linesFrom [] rest := by
  induction line generalizing read with
  | nil => rw [List.nil_append, List.append_nil, linesFrom, if_pos rfl]
  | cons c later inductionHypothesis =>
      rw [List.mem_cons, not_or] at present
      rw [List.cons_append, linesFrom, if_neg (Ne.symm present.1), inductionHypothesis present.2,
        List.reverse_cons, List.append_assoc, List.singleton_append]

/-- A carriage return is dropped, or there is none to drop. -/
theorem dropReturn_cases (line : List Char) :
    dropReturn line = line ∨ line = dropReturn line ++ ['\r'] := by
  rw [dropReturn]
  split
  · rename_i front last
    exact Or.inr (by rw [← List.reverse_reverse line, last, List.reverse_cons])
  · exact Or.inl rfl

theorem dropReturn_of_getLast?_ne {line : List Char} (ends : line.getLast? ≠ some '\r') :
    dropReturn line = line :=
  (dropReturn_cases line).resolve_right fun dropped =>
    ends ((congrArg List.getLast? dropped).trans List.getLast?_concat)

/-- A line that is given back as it is: it holds no line feed, and it does not end in a carriage
return. -/
def IsLine (line : List Char) : Prop := '\n' ∉ line ∧ line.getLast? ≠ some '\r'

/-- The lines of a text of lines; a carriage return at the end of one counts as part of the line end. -/
theorem lines_textOfLines_append_eq_map {given : List (List Char)}
    (whole : ∀ line ∈ given, '\n' ∉ line) (rest : List Char) :
    lines (textOfLines given ++ rest) = given.map dropReturn ++ lines rest := by
  induction given with
  | nil => rfl
  | cons line later inductionHypothesis =>
      have others := inductionHypothesis
        (fun other member => whole other (List.mem_cons_of_mem _ member))
      rw [lines] at others ⊢
      rw [textOfLines, List.flatMap_cons, List.append_assoc, List.append_assoc,
        List.singleton_append, linesFrom_append _ (whole line List.mem_cons_self), List.reverse_nil,
        List.nil_append, List.map_cons, List.cons_append]
      exact congrArg (dropReturn line :: ·) others

theorem lines_textOfLines_append {given : List (List Char)} (whole : ∀ line ∈ given, IsLine line)
    (rest : List Char) : lines (textOfLines given ++ rest) = given ++ lines rest := by
  have kept : given.map dropReturn = given :=
    (List.map_congr_left fun line member => dropReturn_of_getLast?_ne (whole line member).2).trans
      (List.map_id given)
  rw [lines_textOfLines_append_eq_map (fun line member => (whole line member).1), kept]

/-- The lines of two texts, if the first one has no line without an end. -/
theorem lines_append_of_complete {before : List Char} (complete : ∀ c ∈ before.getLast?, c = '\n')
    (rest : List Char) : lines (before ++ rest) = lines before ++ lines rest := by
  suffices all : ∀ read, (before = [] → read = []) →
      linesFrom read (before ++ rest) = linesFrom read before ++ linesFrom [] rest from
    all [] (fun _ => rfl)
  induction before with
  | nil =>
      intro read none
      rw [none rfl]
      rfl
  | cons c later inductionHypothesis =>
      intro read _
      rw [List.cons_append, linesFrom, linesFrom]
      cases later with
      | nil =>
          have lineEnd : c = '\n' := complete c rfl
          rw [if_pos lineEnd, if_pos lineEnd]
          rfl
      | cons next others =>
          have further := inductionHypothesis complete
          split
          · rw [further [] (fun _ => rfl), List.cons_append]
          · exact further _ (fun empty => absurd empty (List.cons_ne_nil _ _))

/-! ## Trimming -/

theorem dropWhile_of_head? {p : Char → Bool} {text : List Char}
    (stays : ∀ c ∈ text.head?, p c = false) : text.dropWhile p = text := by
  cases text with
  | nil => rfl
  | cons c rest => rw [List.dropWhile_cons, stays c rfl, if_neg Bool.false_ne_true]

/-- White space at the end makes no difference to a trimmed text. -/
theorem trim_append_of_white {c : Char} (white : isWhiteSpace c = true) (text : List Char) :
    trim (text ++ [c]) = trim text := by
  rw [trim, trimBy, List.dropWhile_append, trim, trimBy]
  split
  · rename_i empty
    rw [List.isEmpty_iff.1 empty, List.dropWhile_cons, white]
    rfl
  · rw [dropEndWhile, List.reverse_concat, List.dropWhile_cons, white]
    rfl

/-- Nor does the carriage return before a line feed. -/
theorem trim_dropReturn (line : List Char) : trim (dropReturn line) = trim line := by
  have white : isWhiteSpace '\r' = true := by decide
  rcases dropReturn_cases line with kept | dropped
  · rw [kept]
  · exact ((congrArg trim dropped).trans (trim_append_of_white white _)).symm

theorem trimEnd_prefix (line : List Char) : trimEnd line <+: line := by
  have suffix : line.reverse.dropWhile isWhiteSpace <:+ line.reverse := List.dropWhile_suffix _
  rw [trimEnd, dropEndWhile, ← List.reverse_suffix, List.reverse_reverse]
  exact suffix

theorem mem_trimEnd {c : Char} (solid : isWhiteSpace c = false) {line : List Char}
    (member : c ∈ line) : c ∈ trimEnd line := by
  have whole : line.reverse.takeWhile isWhiteSpace ++ line.reverse.dropWhile isWhiteSpace =
      line.reverse := List.takeWhile_append_dropWhile
  have present := List.mem_reverse.2 member
  rw [← whole, List.mem_append] at present
  rw [trimEnd, dropEndWhile, List.mem_reverse]
  refine present.resolve_left (fun inWhite => ?_)
  have white : isWhiteSpace c = true := List.all_eq_true.1 List.all_takeWhile c inWhite
  rw [solid] at white
  cases white

/-- A line without a line feed, and without white space at either end. -/
structure Tidy (line : List Char) : Prop where
  noLineFeed : '\n' ∉ line
  first : ∀ c ∈ line.head?, isWhiteSpace c = false
  last : ∀ c ∈ line.getLast?, isWhiteSpace c = false

namespace Tidy

variable {line : List Char}

theorem trimEnd (tidy : Tidy line) : Text.trimEnd line = line := by
  rw [Text.trimEnd, dropEndWhile, dropWhile_of_head?, List.reverse_reverse]
  rw [List.head?_reverse]
  exact tidy.last

theorem trim (tidy : Tidy line) : Text.trim line = line := by
  rw [Text.trim, trimBy, dropWhile_of_head? tidy.first]
  exact tidy.trimEnd

theorem singleton {c : Char} (solid : isWhiteSpace c = false) : Tidy [c] where
  noLineFeed member := by
    rw [← List.mem_singleton.1 member] at solid
    cases solid
  first := by
    rintro _ ⟨⟩
    exact solid
  last := by
    rintro _ ⟨⟩
    exact solid

/-- A line is tidy if it begins and ends as tidy ones do. -/
theorem append {front back : List Char} (begins : Tidy front) (frontFilled : front ≠ [])
    (ends : Tidy back) (backFilled : back ≠ []) (middle : List Char) (inner : '\n' ∉ middle) :
    Tidy (front ++ (middle ++ back)) where
  noLineFeed := by
    rw [List.mem_append, List.mem_append, not_or, not_or]
    exact ⟨begins.noLineFeed, inner, ends.noLineFeed⟩
  first := by
    rw [List.head?_append_of_ne_nil _ frontFilled]
    exact begins.first
  last := by
    rw [← List.append_assoc, List.getLast?_append_of_ne_nil _ backFilled]
    exact ends.last

theorem isLine (tidy : Tidy line) : IsLine line := by
  refine ⟨tidy.noLineFeed, fun last => ?_⟩
  have white : isWhiteSpace '\r' = false := tidy.last _ last
  revert white
  decide

end Tidy

/-! ## Fences -/

/-- No line with a colon in it closes a block. -/
theorem isClosing_of_colon {line : List Char} (member : ':' ∈ line) : isClosing line = false := by
  have kept : ':' ∈ Text.trimEnd line := mem_trimEnd (by decide) member
  rw [isClosing, Bool.or_eq_false_iff, beq_eq_false_iff_ne, beq_eq_false_iff_ne]
  constructor
  all_goals
    intro same
    rw [same] at kept
    revert kept
    decide

/-- Nor does the line of an item. -/
theorem isClosing_item (item : List Char) : isClosing ('-' :: ' ' :: item) = false := by
  have begins := trimEnd_prefix ('-' :: ' ' :: item)
  rw [isClosing, Bool.or_eq_false_iff, beq_eq_false_iff_ne, beq_eq_false_iff_ne]
  constructor
  all_goals
    intro same
    rw [same] at begins
    simp [fence, List.cons_prefix_cons] at begins

/-- What stands between the fences of a block is given back as it stands there. -/
theorem body_textOfLines {given : List (List Char)} (whole : ∀ line ∈ given, IsLine line)
    (inner : ∀ line ∈ given, isClosing line = false) {closing : List Char}
    (closes : (lines closing).head? = some fence) :
    body (fence ++ '\n' :: textOfLines given ++ closing) = textOfLines given := by
  have fenceLine : ∀ line ∈ [fence], IsLine line := by
    intro line member
    rw [List.mem_singleton.1 member]
    exact ⟨by decide, by decide⟩
  have all : lines (fence ++ '\n' :: textOfLines given ++ closing) =
      fence :: (given ++ lines closing) := by
    have split := lines_textOfLines_append fenceLine (textOfLines given ++ closing)
    rw [lines_textOfLines_append whole] at split
    exact split
  have goesOn : ∀ line ∈ given, (!isClosing line) = true := by
    intro line member
    rw [inner line member]
    rfl
  have opening : isOpening fence = true := by decide
  rw [body, bodyLines, all]
  simp only [opening, if_true]
  rw [List.takeWhile_append_of_pos goesOn]
  cases rest : lines closing with
  | nil =>
      rw [rest] at closes
      cases closes
  | cons line others =>
      rw [rest] at closes
      cases closes
      have stop : isClosing fence = true := by decide
      rw [List.takeWhile_cons, stop]
      exact congrArg _ (List.append_nil _)

/-! ## One line -/

/-- A line opens an entry unless it is empty, a comment or an item. -/
def opens (line : List Char) : Bool :=
  match trim line with
  | [] => false
  | '#' :: _ => false
  | '-' :: _ => false
  | _ => true

theorem ne_of_opens {line : List Char} (opening : opens line = true) :
    trim line ≠ [] ∧ (∀ rest, trim line ≠ '#' :: rest) ∧ ∀ rest, trim line ≠ '-' :: rest := by
  rw [opens] at opening
  split at opening
  · cases opening
  · cases opening
  · cases opening
  · exact ⟨‹_›, ‹_›, ‹_›⟩

theorem eq_of_not_opens {line : List Char} (other : opens line = false) :
    trim line = [] ∨ (∃ rest, trim line = '#' :: rest) ∨ ∃ rest, trim line = '-' :: rest := by
  rw [opens] at other
  split at other
  · exact .inl ‹_›
  · exact .inr (.inl ⟨_, ‹_›⟩)
  · exact .inr (.inr ⟨_, ‹_›⟩)
  · cases other

/-- The key of a line that opens an entry, if there is a colon to end it. -/
def keyOf? (line : List Char) : Option String :=
  match (trim line).dropWhile (· ≠ ':') with
  | [] => none
  | _ => some (String.ofList (unquote (trim ((trim line).takeWhile (· ≠ ':')))))

/-- The text behind the colon of a line that opens an entry. -/
def besideKey (line : List Char) : List Char := trim ((trim line).dropWhile (· ≠ ':')).tail

/-- A line that opens an entry is read for its key, if it has one, and for the text beside it. -/
theorem readEntry_trim (header : FrontMatter) (line : List Char) :
    readEntry header (trim line) =
      match keyOf? line with
      | none => { header }
      | some key =>
        if (besideKey line).isEmpty then { header := header.insert key [], current := some key }
        else { header := header.insert key [scalarOf (besideKey line)] } := by
  rw [readEntry, keyOf?, besideKey]
  cases (trim line).dropWhile (· ≠ ':') <;> rfl

/-- The value on a line that is an item. -/
def item? (line : List Char) : Option MetaValue :=
  match trim line with
  | '-' :: item => some (scalarOf (trim item))
  | _ => none

/-- The values that a block gives to the key that its first line names: the text beside the key, or
else the items below, or else null. -/
def blockValues (line : List Char) (below : List (List Char)) : List MetaValue :=
  if (besideKey line).isEmpty then
    match below.filterMap item? with
    | [] => [.null]
    | values => values
  else [scalarOf (besideKey line)]

namespace Progress

variable {progress : Progress} {line : List Char}

theorem step_congr {other : List Char} (same : trim other = trim line) :
    progress.step other = progress.step line := by
  rw [step, step, same]

theorem step_of_opens (opening : opens line = true) :
    progress.step line = readEntry progress.finishKey (trim line) := by
  rcases ne_of_opens opening with ⟨noText, noComment, noItem⟩
  rw [step]
  split
  · exact absurd ‹_› noText
  · exact absurd ‹_› (noComment _)
  · exact absurd ‹_› (noItem _)
  · rfl

/-- Any other line gives the present key one more value, or it is passed over. -/
theorem step_of_not_opens (other : opens line = false) :
    progress.step line =
      match progress.current, item? line with
      | some key, some value => { progress with header := progress.header.push key value }
      | _, _ => progress := by
  rw [step, item?]
  rcases eq_of_not_opens other with empty | ⟨rest, comment⟩ | ⟨rest, item⟩
  · rw [empty]
    cases progress.current <;> rfl
  · rw [comment]
    cases progress.current <;> rfl
  · rw [item]
    cases progress.current <;> rfl

/-- Lines that open nothing put their items after the values of the present key. -/
theorem foldl_step_below {below : List (List Char)} (inner : ∀ line ∈ below, opens line = false)
    (header : FrontMatter) (key : String) (values : List MetaValue) :
    below.foldl step { header := header.insert key values, current := some key } =
      { header := header.insert key (values ++ below.filterMap item?), current := some key } := by
  induction below generalizing values with
  | nil => rw [List.foldl_nil, List.filterMap_nil, List.append_nil]
  | cons line rest inductionHypothesis =>
      rcases List.forall_mem_cons.1 inner with ⟨here, further⟩
      rw [List.foldl_cons, step_of_not_opens here]
      cases item : item? line with
      | none =>
          rw [List.filterMap_cons_none item]
          exact inductionHypothesis further values
      | some value =>
          simp only [FrontMatter.push_insert]
          rw [inductionHypothesis further, List.filterMap_cons_some item, List.append_assoc,
            List.singleton_append]

/-- Without a present key they are passed over. -/
theorem foldl_step_below_of_none {below : List (List Char)}
    (inner : ∀ line ∈ below, opens line = false) (header : FrontMatter) :
    below.foldl step { header } = { header } := by
  induction below with
  | nil => rfl
  | cons line rest inductionHypothesis =>
      rcases List.forall_mem_cons.1 inner with ⟨here, further⟩
      rw [List.foldl_cons, step_of_not_opens here]
      exact inductionHypothesis further

/-- A block is read as an entry with its values. -/
theorem finishKey_foldl_block {key : String} {below : List (List Char)}
    (opening : opens line = true) (named : keyOf? line = some key)
    (inner : ∀ line ∈ below, opens line = false) :
    ((line :: below).foldl step progress).finishKey =
      progress.finishKey.insert key (blockValues line below) := by
  rw [List.foldl_cons, step_of_opens opening, readEntry_trim, named, blockValues]
  simp only []
  split
  · rw [foldl_step_below inner, List.nil_append, finishKey]
    simp only [FrontMatter.get?_insert_self]
    cases below.filterMap item? with
    | nil => exact FrontMatter.insert_insert _ _ _ _
    | cons value later => simp
  · rw [foldl_step_below_of_none inner]
    rfl

/-! ## Lines that give nothing to a key -/

variable {key : String}

theorem get?_finishKey (elsewhere : progress.current ≠ some key) :
    progress.finishKey.get? key = progress.header.get? key := by
  rw [finishKey]
  split
  · rename_i present same
    have different : key ≠ present := by
      rintro rfl
      exact elsewhere same
    split
    · exact FrontMatter.get?_insert_of_ne _ _ different _
    · rfl
  · rfl

theorem get?_readEntry (header : FrontMatter) (other : keyOf? line ≠ some key) :
    (readEntry header (trim line)).header.get? key = header.get? key ∧
      (readEntry header (trim line)).current ≠ some key := by
  rw [readEntry_trim]
  cases named : keyOf? line with
  | none => exact ⟨rfl, Option.some_ne_none key |>.symm⟩
  | some name =>
      have different : key ≠ name := by
        rintro rfl
        exact other named
      simp only []
      split
      · exact ⟨FrontMatter.get?_insert_of_ne _ _ different _,
          fun same => different (Option.some.inj same).symm⟩
      · exact ⟨FrontMatter.get?_insert_of_ne _ _ different _, Option.some_ne_none key |>.symm⟩

theorem get?_step (elsewhere : progress.current ≠ some key)
    (other : opens line = true → keyOf? line ≠ some key) :
    (progress.step line).header.get? key = progress.header.get? key ∧
      (progress.step line).current ≠ some key := by
  cases opening : opens line with
  | true =>
      rw [step_of_opens opening]
      have read := get?_readEntry progress.finishKey (other opening)
      rwa [get?_finishKey elsewhere] at read
  | false =>
      rw [step_of_not_opens opening]
      split
      · rename_i present value current _
        have different : key ≠ present := by
          rintro rfl
          exact elsewhere current
        exact ⟨FrontMatter.get?_push_of_ne _ _ different _, elsewhere⟩
      · exact ⟨rfl, elsewhere⟩

/-- Lines that do not name a key leave its values alone. -/
theorem get?_header_foldl_step {later : List (List Char)}
    (others : ∀ line ∈ later, opens line = true → keyOf? line ≠ some key)
    (elsewhere : progress.current ≠ some key) :
    (later.foldl step progress).header.get? key = progress.header.get? key ∧
      (later.foldl step progress).current ≠ some key := by
  induction later generalizing progress with
  | nil => exact ⟨rfl, elsewhere⟩
  | cons line rest inductionHypothesis =>
      have stepped := get?_step elsewhere (others line List.mem_cons_self)
      rw [List.foldl_cons, ← stepped.1]
      exact inductionHypothesis (fun other member => others other (List.mem_cons_of_mem _ member))
        stepped.2

/-- Nor does finishing another key. -/
theorem get?_foldl_step {later : List (List Char)}
    (others : ∀ line ∈ later, opens line = true → keyOf? line ≠ some key)
    (elsewhere : progress.current ≠ some key) :
    (later.foldl step progress).finishKey.get? key = progress.header.get? key := by
  have kept := get?_header_foldl_step others elsewhere
  rw [get?_finishKey kept.2, kept.1]

/-- The same if the first line opens an entry, whatever the present key is. -/
theorem get?_foldl_step_of_opens {later : List (List Char)}
    (others : ∀ line ∈ later, opens line = true → keyOf? line ≠ some key)
    (first : ∀ line ∈ later.head?, opens line = true) :
    (later.foldl step progress).finishKey.get? key = progress.finishKey.get? key := by
  cases later with
  | nil => rfl
  | cons line rest =>
      have opening := first line rfl
      have read := get?_readEntry progress.finishKey (others line List.mem_cons_self opening)
      rw [← step_of_opens opening] at read
      rw [List.foldl_cons,
        get?_foldl_step (fun other member => others other (List.mem_cons_of_mem _ member)) read.2,
        read.1]

end Progress

end TopicPress.FrontMatterBlock
