import TopicPress.Proofs.YamlTokens

/-!
# Taking bare entries apart

The scanner comes from the beginning of one line to the beginning of the next, and whatever was a
candidate for a key on the way is none any more.  So the tokens of an entry are those of its lines,
and the tokens of a text those of its entries, between the beginning and the end of one mapping.
-/

namespace TopicPress.Yaml

open FrontMatterBlock

namespace Scanner

/-! ## Runs -/

/-- From one state to another `count` tokens are read. -/
def RunsTo (s next : Scanner) (count : Nat) : Prop := ∀ fuel, s.run (fuel + count) = next.run fuel

namespace RunsTo

theorem refl (s : Scanner) : RunsTo s s 0 := fun _ => rfl

theorem trans {s middle next : Scanner} {first second : Nat} (runs : RunsTo s middle first)
    (further : RunsTo middle next second) : RunsTo s next (first + second) := by
  intro fuel
  rw [Nat.add_comm first, ← Nat.add_assoc, runs, further]

/-- One token. -/
theorem token {s advanced next : Scanner} (advances : s.advance = some advanced)
    (here : Solid advanced.place.first) (scans : advanced.scanToken = some next) :
    RunsTo s next 1 := by
  intro fuel
  have more : isEnd advanced.place.first = false := here.notEnd
  rw [run, advances]
  simp only [more, Bool.false_eq_true, if_false, scans, Option.bind_some]

end RunsTo

/-- The scanner comes to the beginning of a line, and no word waits for a colon. -/
def ComesTo (s : Scanner) (opened : Bool) (tokens : List Token) (text : List Char) : Prop :=
  ∃ candidate mark, candidate.possible = false ∧ mark.column = 0 ∧
    s.advance = some (amid (.ofOpened opened) true candidate tokens ⟨mark, text⟩)

/-- The tokens are not left with a name or a tag for the value to come. -/
def NoProperty (tokens : List Token) : Prop :=
  tokens.head? = some .value ∨ ∃ text, tokens.head? = some (.scalar .plain text)

theorem afterProperty_amid {depth : Depth} {keyAllowed : Bool} {candidate : KeyCandidate}
    {tokens : List Token} (none : NoProperty tokens) (place : Place) :
    (amid depth keyAllowed candidate tokens place).afterProperty = false := by
  cases tokens with
  | nil => rfl
  | cons last earlier =>
      rcases none with value | ⟨text, scalar⟩
      · cases value
        rfl
      · cases scalar
        rfl

section

variable {s : Scanner} {tokens : List Token} {rest : List Char}

theorem solid_first (bare : Bare) (rest : List Char) : Solid (Yaml.first (bare.chars ++ rest)) :=
  bare.solid_head rest _ rfl

/-- A key and its colon. -/
theorem runsTo_colon {opened : Bool} {key : Bare} (short : key.chars.length ≤ 1024) {gap : Char}
    (ends : isGap gap = true) (noTab : gap ≠ '\t')
    (comes : ComesTo s opened tokens (key.chars ++ ':' :: gap :: rest)) :
    ∃ candidate mark, candidate.possible = false ∧
      RunsTo s (amid .value false candidate
        (.value :: .scalar .plain key.text :: .key ::
          if opened then tokens else .blockMappingStart :: tokens) ⟨mark, gap :: rest⟩) 2 := by
  rcases comes with ⟨candidate, mark, -, first, advances⟩
  have keyRead := RunsTo.token advances (solid_first key _) (scanToken_key opened key first ends)
  have colon : ∀ c ∈ (':' :: gap :: rest).head?, Solid c := by
    intro c same
    cases same
    exact solid_colon
  have fresh : (mark.solid key.chars.length).line ≤ mark.line ∧
      (mark.solid key.chars.length).index ≤ mark.index + 1024 :=
    ⟨Nat.le_refl _, Nat.add_le_add_left short _⟩
  have within : (Depth.ofOpened opened).indent ≤ ((mark.solid key.chars.length).column : Int) :=
    Int.le_trans (Depth.indent_ofOpened opened) (Int.natCast_nonneg _)
  have advancesOn := @advance_amid (.ofOpened opened) false
    { possible := true, required := opened, position := tokens.length, mark }
    (.scalar .plain key.text :: tokens) _ _ colon (fun _ => fresh) within
  have colonRead := RunsTo.token advancesOn solid_colon
    (scanToken_colon opened (.scalar .plain key.text) ends noTab first)
  exact ⟨_, _, rfl, keyRead.trans colonRead⟩

/-- A bare text beside its key. -/
theorem runsTo_beside {bare : Bare} {candidate : KeyCandidate} (idle : candidate.possible = false)
    (next : ∀ c ∈ rest.head?, Solid c) (mark : Mark) :
    ∃ after, ComesTo after true (.scalar .plain bare.text :: tokens) rest ∧
      RunsTo (amid .value false candidate tokens ⟨mark, ' ' :: (bare.chars ++ '\n' :: rest)⟩)
        after 1 := by
  have advances := @advance_space candidate tokens mark _ (bare.solid_head ('\n' :: rest)) idle
  have scans := @scanToken_beside candidate tokens mark.blank rest bare (Nat.succ_pos _) next
  have line := @advance_amid .mapping true candidate (.scalar .plain bare.text :: tokens)
    ((mark.blank.solid bare.chars.length).newline 1) rest next
    (Bool.eq_false_iff.1 idle).elim (Int.le_refl 0)
  exact ⟨_, ⟨candidate, _, idle, rfl, line⟩, RunsTo.token advances (solid_first bare _) scans⟩

/-- Nothing follows on the line of a key. -/
theorem comesTo_lineFeed {candidate : KeyCandidate} (idle : candidate.possible = false)
    (next : ∀ c ∈ rest.head?, Solid c) (mark : Mark) :
    ComesTo (amid .value false candidate tokens ⟨mark, '\n' :: rest⟩) true tokens rest :=
  ⟨candidate, mark.newline 1, idle, rfl, advance_lineFeed next idle⟩

/-- The text of items. -/
def itemText (items : List Bare) : List Char :=
  textOfLines (items.map (fun item => '-' :: ' ' :: item.chars))

theorem itemText_cons (item : Bare) (later : List Bare) (rest : List Char) :
    itemText (item :: later) ++ rest =
      '-' :: ' ' :: (item.chars ++ '\n' :: (itemText later ++ rest)) := by
  simp [itemText, textOfLines]

theorem solid_itemText (items : List Bare) (next : ∀ c ∈ rest.head?, Solid c) :
    ∀ c ∈ (itemText items ++ rest).head?, Solid c := by
  cases items with
  | nil => exact next
  | cons item later =>
      rw [itemText_cons]
      intro c first
      cases first
      exact solid_hyphen

theorem length_itemText (items : List Bare) : 2 * items.length ≤ (itemText items).length := by
  induction items with
  | nil => exact Nat.zero_le _
  | cons item later inductionHypothesis =>
      have text := itemText_cons item later []
      rw [List.append_nil, List.append_nil] at text
      rw [text]
      simp only [List.length_cons, List.length_append]
      omega

/-- The tokens of items. -/
def itemTokens (texts : List String) : List Token :=
  texts.flatMap (fun text => [.blockEntry, .scalar .plain text])

/-- An item at the beginning of a line. -/
theorem runsTo_item {item : Bare} (next : ∀ c ∈ rest.head?, Solid c) (none : NoProperty tokens)
    (comes : ComesTo s true tokens ('-' :: ' ' :: (item.chars ++ '\n' :: rest))) :
    ∃ after, ComesTo after true (.scalar .plain item.text :: .blockEntry :: tokens) rest ∧
      RunsTo s after 2 := by
  rcases comes with ⟨candidate, mark, idle, first, advances⟩
  have hyphenRead := RunsTo.token advances solid_hyphen
    (scanToken_hyphen idle first item (afterProperty_amid none _))
  have within : Depth.mapping.indent ≤ ((mark.solid 1).blank.column : Int) := Int.natCast_nonneg _
  have advancesOn := @advance_amid .mapping true { candidate with possible := false }
    (.blockEntry :: tokens) _ _ (item.solid_head ('\n' :: rest))
    Bool.false_ne_true.elim within
  have wordRead := RunsTo.token advancesOn (solid_first item _)
    (scanToken_item item (Nat.succ_pos _) next)
  have line := @advance_of_stale
    { possible := true
      position := (Token.blockEntry :: tokens).length
      mark := (mark.solid 1).blank }
    (.scalar .plain item.text :: .blockEntry :: tokens)
    (((mark.solid 1).blank.solid item.chars.length).newline 1) rest next rfl rfl
    (Nat.lt_succ_self _)
  exact ⟨_, ⟨_, _, rfl, rfl, line⟩, hyphenRead.trans wordRead⟩

/-- Items on lines of their own. -/
theorem runsTo_items {items : List Bare} (next : ∀ c ∈ rest.head?, Solid c)
    (none : NoProperty tokens) (comes : ComesTo s true tokens (itemText items ++ rest)) :
    ∃ after, ComesTo after true ((itemTokens (items.map Bare.text)).reverse ++ tokens) rest ∧
      RunsTo s after (2 * items.length) := by
  induction items generalizing s tokens with
  | nil => exact ⟨s, comes, RunsTo.refl s⟩
  | cons item later inductionHypothesis =>
      rw [itemText_cons] at comes
      rcases runsTo_item (solid_itemText later next) none comes with ⟨between, comesOn, itemRead⟩
      rcases inductionHypothesis (.inr ⟨item.text, rfl⟩) comesOn with ⟨after, comesAfter, laterRead⟩
      have count : 2 * (item :: later).length = 2 + 2 * later.length := by
        rw [List.length_cons]
        omega
      have all : (itemTokens ((item :: later).map Bare.text)).reverse ++ tokens =
          (itemTokens (later.map Bare.text)).reverse ++ .scalar .plain item.text :: .blockEntry :: tokens := by
        simp [itemTokens]
      rw [all, count]
      exact ⟨after, comesAfter, itemRead.trans laterRead⟩

/-- The tokens of what is given to a key. -/
def givenTokens : Given String → List Token
  | .beside text => [.scalar .plain text]
  | .below texts => itemTokens texts

/-- The tokens of an entry. -/
def entryTokens (entry : BareEntry) : List Token :=
  .key :: .scalar .plain entry.key.text :: .value :: givenTokens entry.texts

theorem textOfLines_beside (key bare : Bare) :
    textOfLines (BareEntry.lines ⟨key, .beside bare⟩) =
      key.chars ++ ':' :: ' ' :: (bare.chars ++ ['\n']) := by
  simp [BareEntry.lines, entryLines, Given.map, textOfLines]

theorem textOfLines_below (key : Bare) (items : List Bare) :
    textOfLines (BareEntry.lines ⟨key, .below items⟩) =
      key.chars ++ ':' :: '\n' :: itemText items := by
  simp [BareEntry.lines, entryLines, Given.map, textOfLines, itemText, List.flatMap_map]

/-- An entry that begins a mapping or goes on with it. -/
theorem runsTo_entry {opened : Bool} {entry : BareEntry} (short : entry.key.chars.length ≤ 1024)
    (next : ∀ c ∈ rest.head?, Solid c)
    (comes : ComesTo s opened tokens (textOfLines entry.lines ++ rest)) :
    ∃ after count, ComesTo after true
        ((entryTokens entry).reverse ++ if opened then tokens else .blockMappingStart :: tokens)
        rest ∧
      RunsTo s after count ∧ count ≤ (textOfLines entry.lines).length := by
  rcases entry with ⟨key, bare | items⟩
  · have text : textOfLines (BareEntry.lines ⟨key, .beside bare⟩) ++ rest =
        key.chars ++ ':' :: ' ' :: (bare.chars ++ '\n' :: rest) := by
      simp [textOfLines_beside]
    rw [text] at comes
    rcases runsTo_colon short (by decide) (by decide) comes with ⟨candidate, mark, idle, keyRead⟩
    rcases runsTo_beside idle next mark with ⟨after, comesAfter, textRead⟩
    refine ⟨after, 2 + 1, comesAfter, keyRead.trans textRead, ?_⟩
    simp only [textOfLines_beside, List.length_append, List.length_cons, List.length_nil]
    omega
  · have text : textOfLines (BareEntry.lines ⟨key, .below items⟩) ++ rest =
        key.chars ++ ':' :: '\n' :: (itemText items ++ rest) := by
      simp [textOfLines_below]
    rw [text] at comes
    rcases runsTo_colon short (by decide) (by decide) comes with ⟨candidate, mark, idle, keyRead⟩
    have line := @comesTo_lineFeed (.value :: .scalar .plain key.text :: .key ::
      if opened then tokens else .blockMappingStart :: tokens) _ _ idle
      (solid_itemText items next) mark
    rcases runsTo_items next (.inl rfl) line with ⟨after, comesAfter, itemsRead⟩
    refine ⟨after, 2 + 2 * items.length, ?_, keyRead.trans itemsRead, ?_⟩
    · rw [entryTokens, BareEntry.texts, Given.map, givenTokens]
      simp only [List.reverse_cons, List.append_assoc, List.cons_append, List.nil_append]
      exact comesAfter
    · have bound := length_itemText items
      rw [textOfLines_below, List.length_append, List.length_cons, List.length_cons]
      omega

/-- Entries begin with a key. -/
theorem solid_bareText (entries : List BareEntry) : ∀ c ∈ (bareText entries).head?, Solid c := by
  cases entries with
  | nil =>
      intro c none
      cases none
  | cons entry later =>
      rw [bareText_cons]
      rcases entry with ⟨key, bare | items⟩
      · rw [textOfLines_beside, List.append_assoc]
        exact key.solid_head _
      · rw [textOfLines_below, List.append_assoc]
        exact key.solid_head _

/-- Entries below the first one. -/
theorem runsTo_entries {entries : List BareEntry}
    (short : ∀ entry ∈ entries, entry.key.chars.length ≤ 1024)
    (comes : ComesTo s true tokens (bareText entries)) :
    ∃ after count, ComesTo after true ((entries.flatMap entryTokens).reverse ++ tokens) [] ∧
      RunsTo s after count ∧ count ≤ (bareText entries).length := by
  induction entries generalizing s tokens with
  | nil => exact ⟨s, 0, comes, RunsTo.refl s, Nat.le_refl 0⟩
  | cons entry later inductionHypothesis =>
      rw [bareText_cons] at comes
      rcases runsTo_entry (short entry List.mem_cons_self) (solid_bareText later) comes with
        ⟨between, count, comesOn, entryRead, bound⟩
      rcases inductionHypothesis (fun other member => short other (List.mem_cons_of_mem _ member))
          comesOn with ⟨after, more, comesAfter, laterRead, laterBound⟩
      refine ⟨after, count + more, ?_, entryRead.trans laterRead, ?_⟩
      · rw [List.flatMap_cons, List.reverse_append, List.append_assoc]
        exact comesAfter
      · rw [bareText_cons, List.length_append]
        omega

/-- At the end of the text the mapping ends, if there is one. -/
theorem run_of_end {opened : Bool} (comes : ComesTo s opened tokens []) (fuel : Nat) :
    s.run (fuel + 1) =
      some (tokens.reverse ++ if opened then [.blockEnd, .streamEnd] else [.streamEnd]) := by
  rcases comes with ⟨candidate, mark, idle, -, advances⟩
  have ends : (amid (.ofOpened opened) true candidate tokens ⟨mark, []⟩).scanStreamEnd =
      some (amid .outside true { candidate with possible := false }
        (.streamEnd :: if opened then .blockEnd :: tokens else tokens) ⟨mark, []⟩) := by
    rw [scanStreamEnd, if_neg]
    · cases opened <;> rfl
    · change ¬ ((candidate.required && candidate.possible) || false) = true
      rw [idle, Bool.and_false]
      exact Bool.false_ne_true
  have none :
      isEnd (amid (.ofOpened opened) true candidate tokens ⟨mark, []⟩).place.first = true := rfl
  rw [run, advances]
  simp only [none, if_true, ends, Option.map_some]
  cases opened <;> simp [amid]

end

end Scanner

/-- The tokens of a text of entries. -/
def documentTokens (entries : List BareEntry) : List Token :=
  match entries with
  | [] => [.streamEnd]
  | _ => .blockMappingStart :: entries.flatMap Scanner.entryTokens ++ [.blockEnd, .streamEnd]

/-- Bare entries are taken apart into the tokens of one mapping. -/
theorem scan_bareText {entries : List BareEntry}
    (short : ∀ entry ∈ entries, entry.key.chars.length ≤ 1024) :
    scan (bareText entries) = some (documentTokens entries) := by
  have begins : Scanner.ComesTo { place := ⟨{}, bareText entries⟩ } false [] (bareText entries) :=
    ⟨{}, {}, rfl, rfl, @Scanner.advance_amid .outside true {} [] {} _ (Scanner.solid_bareText entries)
      Bool.false_ne_true.elim (by decide)⟩
  cases entries with
  | nil => exact Scanner.run_of_end begins _
  | cons entry later =>
      rw [bareText_cons] at begins
      rcases Scanner.runsTo_entry (short entry List.mem_cons_self) (Scanner.solid_bareText later)
        begins with
        ⟨between, count, comesOn, entryRead, bound⟩
      rcases Scanner.runsTo_entries
          (fun other member => short other (List.mem_cons_of_mem _ member)) comesOn with
        ⟨after, more, comesAfter, laterRead, laterBound⟩
      have length : ∃ spare, (bareText (entry :: later)).length + 1 = spare + 1 + (count + more) := by
        refine ⟨(bareText (entry :: later)).length - (count + more), ?_⟩
        rw [bareText_cons, List.length_append]
        omega
      rcases length with ⟨spare, length⟩
      rw [scan, length, bareText_cons, (entryRead.trans laterRead) (spare + 1),
        Scanner.run_of_end comesAfter]
      simp [documentTokens]

end TopicPress.Yaml
