import TopicPress.Proofs.LineScanning

/-!
# Blocks of lines

Read line by line, a text is taken in blocks: a line that names a key, and the lines below it up to the
next one that opens an entry.  The last block of a key gives it its values, and nothing else in the text
does.  So whatever the lines are, no key is left without values, null stands alone, nothing is
structured, and nothing reaches beyond a line.  On the way, the key of the present block may be
without values; any other key has some, and those of a block that has ended stay as they are until
its key is named again.
-/

namespace TopicPress.FrontMatterBlock

open Text

/-! ## Within a line -/

theorem dropReturn_sublist (line : List Char) : (dropReturn line).Sublist line := by
  rcases dropReturn_cases line with kept | dropped
  · rw [kept]
  · have front : (dropReturn line).Sublist (dropReturn line ++ ['\r']) :=
      List.sublist_append_left _ _
    rwa [← dropped] at front

theorem noLineFeed_of_mem_linesFrom {text line : List Char} :
    ∀ read, '\n' ∉ read → line ∈ linesFrom read text → '\n' ∉ line := by
  induction text with
  | nil =>
      intro read noLineFeed member
      rw [linesFrom] at member
      split at member
      · cases member
      · rw [List.mem_singleton.1 member, List.mem_reverse]
        exact noLineFeed
  | cons c rest inductionHypothesis =>
      intro read noLineFeed member
      rw [linesFrom] at member
      split at member
      · rcases List.mem_cons.1 member with rfl | later
        · intro inside
          exact noLineFeed (List.mem_reverse.1 ((dropReturn_sublist _).subset inside))
        · exact inductionHypothesis [] List.not_mem_nil later
      · rename_i other
        refine inductionHypothesis (c :: read) ?_ member
        rw [List.mem_cons, not_or]
        exact ⟨Ne.symm other, noLineFeed⟩

/-- A line feed ends a line, so it is in none of them. -/
theorem noLineFeed_of_mem_lines {text line : List Char} (member : line ∈ lines text) :
    '\n' ∉ line :=
  noLineFeed_of_mem_linesFrom [] List.not_mem_nil member

theorem trim_sublist (text : List Char) : (trim text).Sublist text := by
  have kept := trimEnd_prefix (text.dropWhile isWhiteSpace)
  exact kept.sublist.trans (List.dropWhile_sublist _)

theorem unquote_sublist (text : List Char) : (unquote text).Sublist text := by
  unfold unquote
  split
  · rename_i quote rest
    split
    · split
      · rename_i last inner reversed
        split
        · have whole : rest = inner.reverse ++ [last] := by
            rw [← List.reverse_reverse rest, reversed, List.reverse_cons]
          rw [whole]
          exact (List.sublist_append_left _ _).cons _
        · exact List.Sublist.refl _
      · exact List.Sublist.refl _
    · exact List.Sublist.refl _
  · exact List.Sublist.refl _

theorem keyOf?_sublist {line : List Char} {key : String} (named : keyOf? line = some key) :
    key.toList.Sublist line := by
  rw [keyOf?] at named
  split at named
  · cases named
  · rw [← Option.some.inj named, String.toList_ofList]
    exact (unquote_sublist _).trans ((trim_sublist _).trans
      ((List.takeWhile_sublist _).trans (trim_sublist line)))

theorem besideKey_sublist (line : List Char) : (besideKey line).Sublist line :=
  (trim_sublist _).trans ((List.tail_sublist _).trans
    ((List.dropWhile_sublist _).trans (trim_sublist line)))

/-! ## The values of a block -/

/-- A text that stands in one of the lines. -/
def StandsIn (given : List (List Char)) (value : MetaValue) : Prop :=
  ∃ line ∈ given, ∃ text, value = .scalar text ∧ text.toList.Sublist line

theorem StandsIn.mono {part whole : List (List Char)} (inside : part ⊆ whole) {value : MetaValue}
    (stands : StandsIn part value) : StandsIn whole value := by
  rcases stands with ⟨line, member, text⟩
  exact ⟨line, inside member, text⟩

theorem text_of_item? {line : List Char} {value : MetaValue} (item : item? line = some value) :
    ∃ text, value = .scalar text ∧ text.toList.Sublist line := by
  rw [item?] at item
  split at item
  · rename_i rest trimmed
    refine ⟨_, (Option.some.inj item).symm, ?_⟩
    have behind : rest.Sublist line :=
      (List.sublist_cons_self '-' rest).trans (trimmed ▸ trim_sublist line)
    rw [String.toList_ofList]
    exact (unquote_sublist _).trans ((trim_sublist _).trans behind)
  · cases item

/-- The values of a block are texts that stand in its lines, or they are a single null. -/
theorem blockValues_cases (line : List Char) (below : List (List Char)) :
    blockValues line below = [.null] ∨
      blockValues line below ≠ [] ∧ ∀ value ∈ blockValues line below, StandsIn (line :: below) value := by
  rw [blockValues]
  split
  · split
    · exact Or.inl rfl
    · rename_i filled
      refine Or.inr ⟨filled, fun value member => ?_⟩
      rcases List.mem_filterMap.1 member with ⟨itemLine, among, item⟩
      exact ⟨itemLine, List.mem_cons_of_mem _ among, text_of_item? item⟩
  · refine Or.inr ⟨List.cons_ne_nil _ _, fun value member => ?_⟩
    refine ⟨line, List.mem_cons_self, _, List.mem_singleton.1 member, ?_⟩
    rw [String.toList_ofList]
    exact (unquote_sublist _).trans (besideKey_sublist line)

/-! ## The last block of a key -/

/-- One of the lines opens an entry of this key. -/
def Names (given : List (List Char)) (key : String) : Prop :=
  ∃ line ∈ given, opens line = true ∧ keyOf? line = some key

theorem Names.of_not {given : List (List Char)} {key : String} (unnamed : ¬ Names given key) :
    ∀ line ∈ given, opens line = true → keyOf? line ≠ some key :=
  fun line member opening named => unnamed ⟨line, member, opening, named⟩

/-- The last block of a key among lines: the line that names the key, and the lines below it up to the
next that opens an entry.  No line behind it names the key. -/
structure IsLastBlock (given : List (List Char)) (key : String) (line : List Char)
    (below : List (List Char)) : Prop where
  opening : opens line = true
  named : keyOf? line = some key
  inner : ∀ other ∈ below, opens other = false
  place : ∃ before after, given = before ++ line :: (below ++ after) ∧
    (∀ next ∈ after.head?, opens next = true) ∧ ¬ Names after key

theorem IsLastBlock.subset {given : List (List Char)} {key : String} {line : List Char}
    {below : List (List Char)} (block : IsLastBlock given key line below) :
    line :: below ⊆ given := by
  rcases block.place with ⟨before, after, rfl, -⟩
  rw [← List.cons_append]
  exact List.subset_append_of_subset_right _ (List.subset_append_left _ _)

/-- A key that is named has a last block. -/
theorem exists_isLastBlock {given : List (List Char)} {key : String} (named : Names given key) :
    ∃ line below, IsLastBlock given key line below := by
  induction given with
  | nil =>
      rcases named with ⟨line, member, -⟩
      cases member
  | cons line rest inductionHypothesis =>
      by_cases later : Names rest key
      · rcases inductionHypothesis later with ⟨last, below, block⟩
        rcases block.place with ⟨before, after, whole, next, others⟩
        exact ⟨last, below, { block with
          place := ⟨line :: before, after, congrArg (line :: ·) whole, next, others⟩ }⟩
      · have here : opens line = true ∧ keyOf? line = some key := by
          rcases named with ⟨other, member, names⟩
          rcases List.mem_cons.1 member with rfl | inRest
          · exact names
          · exact absurd ⟨other, inRest, names⟩ later
        refine ⟨line, rest.takeWhile (fun other => !opens other), here.1, here.2, ?_, [],
          rest.dropWhile (fun other => !opens other), ?_, ?_, ?_⟩
        · intro other member
          simpa using List.all_eq_true.1 List.all_takeWhile other member
        · rw [List.takeWhile_append_dropWhile, List.nil_append]
        · intro next first
          have stops := List.head?_dropWhile_not (fun other => !opens other) rest
          rw [first] at stops
          simpa using stops
        · rintro ⟨other, member, names⟩
          exact later ⟨other, (List.dropWhile_sublist _).subset member, names⟩

/-- What has been read when lines have been read from the beginning. -/
def Progress.after (given : List (List Char)) : Progress := given.foldl step {}

theorem IsLastBlock.get?_finishKey {given : List (List Char)} {key : String} {line : List Char}
    {below : List (List Char)} (block : IsLastBlock given key line below) :
    (Progress.after given).finishKey.get? key = some (blockValues line below) := by
  rcases block.place with ⟨before, after, rfl, next, others⟩
  have whole : before ++ line :: (below ++ after) = before ++ (line :: below ++ after) := rfl
  rw [Progress.after, whole, List.foldl_append, List.foldl_append,
    Progress.get?_foldl_step_of_opens (Names.of_not others) next,
    Progress.finishKey_foldl_block block.opening block.named block.inner]
  exact FrontMatter.get?_insert_self _ _ _

/-- A key has the values of its last block, and if it has none, it is not there. -/
theorem get?_scanLines_iff {text : List Char} {key : String} {values : List MetaValue} :
    (scanLines text).get? key = some values ↔
      ∃ line below, IsLastBlock (lines text) key line below ∧ values = blockValues line below := by
  have read : scanLines text = (Progress.after (lines text)).finishKey := rfl
  rw [read]
  constructor
  · intro found
    by_cases named : Names (lines text) key
    · rcases exists_isLastBlock named with ⟨line, below, block⟩
      rw [block.get?_finishKey] at found
      exact ⟨line, below, block, (Option.some.inj found).symm⟩
    · have nothing : (Progress.after (lines text)).finishKey.get? key = none :=
        Progress.get?_foldl_step (Names.of_not named) (Option.some_ne_none key).symm
      rw [nothing] at found
      cases found
  · rintro ⟨line, below, block, rfl⟩
    exact block.get?_finishKey

/-- Every key in the end is named by a line, and its values are texts from the lines, or they are a
single null. -/
theorem cases_of_mem_entries {text : List Char} {entry : FrontMatter.Entry}
    (member : entry ∈ (scanLines text).entries) :
    Names (lines text) entry.1 ∧
      (entry.2 = [.null] ∨ entry.2 ≠ [] ∧ ∀ value ∈ entry.2, StandsIn (lines text) value) := by
  rcases get?_scanLines_iff.1 (FrontMatter.get?_of_mem member) with ⟨line, below, block, values⟩
  refine ⟨⟨line, block.subset List.mem_cons_self, block.opening, block.named⟩, ?_⟩
  rw [values]
  exact (blockValues_cases line below).imp_right fun texts =>
    ⟨texts.1, fun value inside => (texts.2 value inside).mono block.subset⟩

/-! ## On the way -/

namespace Progress

/-- Only the present key may be without values. -/
def OnlyPresentEmpty (progress : Progress) : Prop :=
  ∀ key, progress.header.get? key = some [] → progress.current = some key

variable {progress : Progress}

/-- When its block ends, the present key has a value too. -/
theorem OnlyPresentEmpty.finishKey (invariant : progress.OnlyPresentEmpty) (key : String) :
    progress.finishKey.get? key ≠ some [] := by
  intro found
  rw [Progress.finishKey] at found
  split at found
  · rename_i present current
    split at found
    · rcases FrontMatter.get?_insert_cases found with ⟨-, given⟩ | ⟨different, kept⟩
      · cases given
      · exact different (Option.some.inj (current.symm.trans (invariant key kept))).symm
    · rename_i filled
      have same : present = key := Option.some.inj (current.symm.trans (invariant key found))
      exact filled (same ▸ found)
  · rename_i current
    cases current.symm.trans (invariant key found)

theorem onlyPresentEmpty_readEntry {header : FrontMatter}
    (filled : ∀ key, header.get? key ≠ some []) (line : List Char) :
    (readEntry header (trim line)).OnlyPresentEmpty := by
  intro key found
  rw [readEntry_trim] at found ⊢
  split at found
  · exact absurd found (filled key)
  · split at found
    · rename_i empty
      rw [if_pos empty]
      rcases FrontMatter.get?_insert_cases found with ⟨same, -⟩ | ⟨-, kept⟩
      · rw [same]
      · exact absurd kept (filled key)
    · rcases FrontMatter.get?_insert_cases found with ⟨-, given⟩ | ⟨-, kept⟩
      · cases given
      · exact absurd kept (filled key)

theorem OnlyPresentEmpty.step (invariant : progress.OnlyPresentEmpty) (line : List Char) :
    (progress.step line).OnlyPresentEmpty := by
  cases opening : opens line with
  | true =>
      rw [step_of_opens opening]
      exact onlyPresentEmpty_readEntry invariant.finishKey line
  | false =>
      rw [step_of_not_opens opening]
      split
      · rename_i present value current item
        intro key found
        by_cases same : key = present
        · rw [same]
          exact current
        · rw [FrontMatter.get?_push_of_ne _ _ same] at found
          exact invariant key found
      · exact invariant

theorem onlyPresentEmpty_after (given : List (List Char)) : (after given).OnlyPresentEmpty :=
  List.foldlRecOn given step (fun _ found => nomatch found)
    (fun _ invariant line _ => invariant.step line)

/-- After a line that opens an entry, the values of any key that it does not name stay as they are
until the key is named. -/
theorem get?_after_of_ended {before later : List (List Char)} {line : List Char} {key : String}
    (opening : opens line = true) (other : keyOf? line ≠ some key) (unnamed : ¬ Names later key) :
    (after (before ++ line :: later)).header.get? key =
        (after (before ++ [line])).header.get? key ∧
      (after (before ++ line :: later)).finishKey.get? key =
        (after (before ++ [line])).header.get? key := by
  have elsewhere : (after (before ++ [line])).current ≠ some key := by
    rw [after, List.foldl_append, List.foldl_cons, List.foldl_nil, step_of_opens opening]
    exact (get?_readEntry _ other).2
  have whole : after (before ++ line :: later) = later.foldl step (after (before ++ [line])) := by
    rw [after, after, ← List.foldl_append, List.append_assoc, List.singleton_append]
  rw [whole]
  exact ⟨(get?_header_foldl_step (Names.of_not unnamed) elsewhere).1,
    get?_foldl_step (Names.of_not unnamed) elsewhere⟩

end Progress

/-- What reading a text line by line comes to, in the end and on the way. -/
structure ScansInBlocks (text : List Char) : Prop where
  /-- A key has the values of its last block, and it is there only if it has one. -/
  lastBlock : ∀ key values, (scanLines text).get? key = some values ↔
    ∃ line below, IsLastBlock (lines text) key line below ∧ values = blockValues line below
  filled : ∀ entry ∈ (scanLines text).entries, entry.2 ≠ []
  unstructured : ∀ entry ∈ (scanLines text).entries, ∀ value ∈ entry.2, value.isStructured = false
  nullAlone : ∀ entry ∈ (scanLines text).entries, MetaValue.null ∈ entry.2 → entry.2 = [.null]
  noLineFeed : ∀ entry ∈ (scanLines text).entries,
    '\n' ∉ entry.1.toList ∧ ∀ value ∈ entry.2, '\n' ∉ value.asText.toList
  /-- On the way, no key but the present one is without values. -/
  onlyPresentEmpty : ∀ given, given <+: lines text →
    ∀ entry ∈ (Progress.after given).header.entries, entry.2 = [] →
      (Progress.after given).current = some entry.1
  /-- When a line opens another entry, the block of a key has ended, and its values change from then on
  only if a later line names the key. -/
  ended : ∀ before line later, before ++ line :: later <+: lines text → opens line = true →
    ∀ key, keyOf? line ≠ some key →
      (Progress.after (before ++ line :: later)).header.get? key ≠
          (Progress.after (before ++ [line])).header.get? key →
        Names later key
  /-- The same for the values that it has in the end. -/
  endedForGood : ∀ before line later, before ++ line :: later = lines text → opens line = true →
    ∀ key, keyOf? line ≠ some key →
      (scanLines text).get? key ≠ (Progress.after (before ++ [line])).header.get? key →
        Names later key

/-- Whatever the lines of a text are, they are read in blocks. -/
theorem scanLines_inBlocks (text : List Char) : ScansInBlocks text where
  lastBlock key values := get?_scanLines_iff
  filled entry member := by
    rcases (cases_of_mem_entries member).2 with null | texts
    · rw [null]
      exact List.cons_ne_nil _ _
    · exact texts.1
  unstructured entry member value among := by
    rcases (cases_of_mem_entries member).2 with null | texts
    · rw [null, List.mem_singleton] at among
      rw [among]
      rfl
    · rcases texts.2 value among with ⟨-, -, -, rfl, -⟩
      rfl
  nullAlone entry member among := by
    refine (cases_of_mem_entries member).2.resolve_right fun texts => ?_
    rcases texts.2 _ among with ⟨-, -, text, scalar, -⟩
    cases scalar
  noLineFeed entry member := by
    rcases cases_of_mem_entries member with ⟨⟨line, inLines, -, named⟩, values⟩
    refine ⟨fun inKey => ?_, fun value among inValue => ?_⟩
    · exact noLineFeed_of_mem_lines inLines ((keyOf?_sublist named).subset inKey)
    · rcases values with null | texts
      · rw [null, List.mem_singleton] at among
        rw [among] at inValue
        cases inValue
      · rcases texts.2 value among with ⟨other, inText, text, rfl, sublist⟩
        exact noLineFeed_of_mem_lines inText (sublist.subset inValue)
  onlyPresentEmpty given _ entry member empty :=
    Progress.onlyPresentEmpty_after given entry.1 (empty ▸ FrontMatter.get?_of_mem member)
  ended before line later _ opening key other changed :=
    not_imp_comm.1 (fun unnamed => (Progress.get?_after_of_ended opening other unnamed).1) changed
  endedForGood before line later whole opening key other changed := by
    rw [scanLines, ← whole] at changed
    exact not_imp_comm.1
      (fun unnamed => (Progress.get?_after_of_ended opening other unnamed).2) changed

/-- Items before any key and behind a text are nobody's; a key that is named again begins anew. -/
example : scanLines "- a\nk:\n- b\n# c\n-d\nm: e\n- f\nno key\n- g\nk:\n\n".toList =
    FrontMatter.ofList [("k", [.null]), ("m", [.scalar "e"])] := by
  decide +kernel

end TopicPress.FrontMatterBlock
