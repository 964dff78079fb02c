import TopicPress.Proofs.YamlBareTexts

/-!
# The tokens of bare entries, one by one

Among bare entries the scanner is in one of three depths: before the first key, at the beginning of
a line of the mapping, or behind a colon, where one more column of indentation is asked for.  What
each kind of token does to the scanner is settled here: a key becomes a candidate, the colon puts the
key's token and perhaps the beginning of the mapping before it, and a value ends its line.  A hyphen
stands in the column of the key above and opens nothing.
-/

namespace TopicPress.Yaml

open FrontMatterBlock

/-! ## The states of the scanner -/

/-- Where the scanner is among bare entries: before the first key, at the beginning of a line below
it, or behind a colon. -/
inductive Depth where
  | outside
  | mapping
  | value

def Depth.indent : Depth → Int
  | outside => -1
  | mapping => 0
  | value => 1

def Depth.indents : Depth → List Indent
  | outside => []
  | mapping => [⟨-1, true⟩]
  | value => [⟨0, false⟩, ⟨-1, true⟩]

/-- Where a plain scalar is read: it takes back that a value needs one more column. -/
def Depth.plain : Depth → Depth
  | outside => outside
  | mapping => mapping
  | value => mapping

/-- Before the first key, or at the beginning of a line below it. -/
def Depth.ofOpened (opened : Bool) : Depth := if opened then .mapping else .outside

theorem Depth.indent_ofOpened (opened : Bool) : (Depth.ofOpened opened).indent ≤ 0 := by
  cases opened <;> decide

namespace Scanner

/-- The scanner among bare entries. -/
def amid (depth : Depth) (keyAllowed : Bool) (candidate : KeyCandidate) (tokens : List Token)
    (place : Place) : Scanner :=
  { place, tokens, count := tokens.length, keyAllowed, candidates := [candidate]
    indent := depth.indent, indents := depth.indents }

section

variable {depth : Depth} {keyAllowed : Bool} {candidate : KeyCandidate} {tokens : List Token}
  {mark : Mark} {text : List Char}

theorem advance_of_steps {s skipped kept unrolled : Scanner} (skips : s.skipToToken = some skipped)
    (keeps : skipped.dropStale = some kept) (unrolls : kept.unroll kept.column = unrolled) :
    s.advance = some unrolled := by
  rw [advance, skips, Option.bind_some, keeps, Option.map_some, unrolls]

theorem skipToToken_of_toToken {s : Scanner} {place : Place} {passedBreak : Bool}
    (passes : toToken (if s.indents.isEmpty then none else some s.indent) .clear false s.place.mark
      s.place.rest = some (place, passedBreak)) :
    s.skipToToken =
      some { s with place, keyAllowed := s.keyAllowed || (passedBreak && !s.inFlow) } := by
  simp only [skipToToken, passes]

theorem skipToToken_amid {place after : Place} {passedBreak : Bool}
    (passes : ∀ indent, toToken indent .clear false place.mark place.rest =
      some (after, passedBreak)) :
    (amid depth keyAllowed candidate tokens place).skipToToken =
      some (amid depth (keyAllowed || passedBreak) candidate tokens after) := by
  refine (skipToToken_of_toToken (passes _)).trans ?_
  change some (amid depth (keyAllowed || (passedBreak && true)) candidate tokens after) = _
  rw [Bool.and_true]

/-- A candidate stays one on its line, as long as it is not too long. -/
theorem dropStale_amid (fresh : candidate.possible = true →
      mark.line ≤ candidate.mark.line ∧ mark.index ≤ candidate.mark.index + 1024) :
    (amid depth keyAllowed candidate tokens ⟨mark, text⟩).dropStale =
      some (amid depth keyAllowed candidate tokens ⟨mark, text⟩) := by
  simp only [dropStale]
  rw [if_neg]
  intro stale
  simp only [Bool.and_eq_true, Bool.or_eq_true, decide_eq_true_eq] at stale
  rcases stale with ⟨⟨possible, -⟩, late⟩
  have bounds := fresh possible
  change candidate.mark.line < mark.line ∨ candidate.mark.index + 1024 < mark.index at late
  omega

theorem unroll_amid (within : depth.indent ≤ mark.column) :
    (amid depth keyAllowed candidate tokens ⟨mark, text⟩).unroll mark.column =
      amid depth keyAllowed candidate tokens ⟨mark, text⟩ := by
  have stays : ¬ (mark.column : Int) < depth.indent := by omega
  have block : (amid depth keyAllowed candidate tokens ⟨mark, text⟩).inFlow = false := rfl
  rw [unroll, block, if_neg Bool.false_ne_true]
  cases depth with
  | outside => rfl
  | mapping => exact (unrollTo.eq_2 _ _ _ _).trans (if_neg stays)
  | value => exact (unrollTo.eq_2 _ _ _ _).trans (if_neg stays)

/-- The scanner stands before a token that ends no collection. -/
theorem advance_amid (next : ∀ c ∈ text.head?, Solid c)
    (fresh : candidate.possible = true →
      mark.line ≤ candidate.mark.line ∧ mark.index ≤ candidate.mark.index + 1024)
    (within : depth.indent ≤ mark.column) :
    (amid depth keyAllowed candidate tokens ⟨mark, text⟩).advance =
      some (amid depth keyAllowed candidate tokens ⟨mark, text⟩) := by
  have skips := @skipToToken_amid depth keyAllowed candidate tokens ⟨mark, text⟩ _ _
    (fun indent => toToken_of_head next indent false mark)
  rw [Bool.or_false] at skips
  exact advance_of_steps skips (dropStale_amid fresh) (unroll_amid within)

/-- Behind a colon a blank is passed over. -/
theorem advance_space (next : ∀ c ∈ text.head?, Solid c) (idle : candidate.possible = false) :
    (amid .value false candidate tokens ⟨mark, ' ' :: text⟩).advance =
      some (amid .value false candidate tokens ⟨mark.blank, text⟩) := by
  have skips := @skipToToken_amid .value false candidate tokens ⟨mark, ' ' :: text⟩ _ _
    (fun indent => (toToken_space indent false mark text).trans (toToken_of_head next _ _ _))
  have within : Depth.value.indent ≤ (mark.blank.column : Int) := by
    simp only [Depth.indent, Mark.blank]
    omega
  exact advance_of_steps skips (dropStale_amid (Bool.eq_false_iff.1 idle).elim)
    (unroll_amid within)

/-- Behind a colon that ends its line the scanner goes on to the next line, where nothing is
indented. -/
theorem advance_lineFeed (next : ∀ c ∈ text.head?, Solid c) (idle : candidate.possible = false) :
    (amid .value false candidate tokens ⟨mark, '\n' :: text⟩).advance =
      some (amid .mapping true candidate tokens ⟨mark.newline 1, text⟩) := by
  have skips := @skipToToken_amid .value false candidate tokens ⟨mark, '\n' :: text⟩ _ _
    (fun indent => (toToken_lineFeed indent false mark text).trans (toToken_of_head next _ _ _))
  exact advance_of_steps skips (dropStale_amid (Bool.eq_false_iff.1 idle).elim) rfl

/-- A text that no colon follows on its line is no key. -/
theorem advance_of_stale (next : ∀ c ∈ text.head?, Solid c) (possible : candidate.possible = true)
    (optional : candidate.required = false) (later : candidate.mark.line < mark.line) :
    (amid .mapping true candidate tokens ⟨mark, text⟩).advance =
      some (amid .mapping true { candidate with possible := false } tokens ⟨mark, text⟩) := by
  have skips := @skipToToken_amid .mapping true candidate tokens ⟨mark, text⟩ _ _
    (fun indent => toToken_of_head next indent false mark)
  have drops : (amid .mapping true candidate tokens ⟨mark, text⟩).dropStale =
      some (amid .mapping true { candidate with possible := false } tokens ⟨mark, text⟩) := by
    have stale : (candidate.possible && true && (decide (candidate.mark.line < mark.line) ||
        decide (candidate.mark.index + 1024 < mark.index))) = true := by
      rw [possible, decide_eq_true later]
      rfl
    have kept : ¬ candidate.required = true := Bool.eq_false_iff.1 optional
    exact (if_pos stale).trans (if_neg kept)
  have within : Depth.mapping.indent ≤ (mark.column : Int) := Int.natCast_nonneg _
  exact advance_of_steps skips drops (unroll_amid within)

end

/-! ## Tokens -/

/-- A bare text begins a plain scalar. -/
theorem scanToken_of_bare {s : Scanner} (bare : Bare) {rest : List Char}
    (begins : s.place.rest = bare.chars ++ rest) (block : s.inFlow = false)
    (within : s.indent ≤ s.column)
    (noMark : s.place.mark.column = 0 → startsIndicator (bare.chars ++ rest) = false) :
    s.scanToken = s.scanPlainScalar := by
  have initial : s.place.first = bare.initial := by rw [Place.first, begins]; rfl
  have stays : ¬ s.column < s.indent := by omega
  have noGap : isSeparator bare.initial = true → isGap s.place.second = false := by
    intro separator
    rw [Place.second, begins]
    exact bare.isGap_second separator rest
  have noMark : (s.column == 0 && startsDocument '-' (bare.chars ++ rest)) = false ∧
      (s.column == 0 && startsDocument '.' (bare.chars ++ rest)) = false := by
    rw [← Bool.or_eq_false_iff, ← Bool.and_or_distrib_left, Bool.and_eq_false_imp, beq_iff_eq]
    exact fun first => noMark (Int.natCast_eq_zero.1 first)
  have noIndicator := bare.notIndicator
  unfold scanToken
  rw [initial, begins]
  generalize bare.initial = c at noGap noIndicator
  have noPercent : c ≠ '%' := by
    rintro rfl
    exact absurd noIndicator (by decide)
  simp only [noMark, beq_false_of_ne noPercent, block, Bool.and_false, Bool.or_false,
    Bool.false_and, Bool.false_eq_true, if_false, if_neg stays]
  split
  -- A separator with more behind it, or a character that nothing else begins with.
  all_goals first
    | rfl
    | exact if_neg (Bool.eq_false_iff.1 (noGap (by decide)))
    | exact absurd noIndicator (by decide)

/-- The candidate while a plain scalar is read. -/
def saved (depth : Depth) (keyAllowed : Bool) (candidate : KeyCandidate) (tokens : List Token)
    (mark : Mark) : KeyCandidate :=
  if keyAllowed then
    { possible := true
      required := depth.indent == mark.column && depth.indents.head?.any Indent.opened
      position := tokens.length
      mark }
  else candidate

theorem scanPlainScalar_of_begun {s begun : Scanner} {text : String} {after : Place}
    (begins : ({ s.saveCandidate with keyAllowed := false } : Scanner).unrollPlain = begun)
    (scanned : PlainScalar.scan ⟨begun.indent + 1, begun.inFlow⟩ begun.place = some (text, after)) :
    s.scanPlainScalar =
      some (({ begun with place := after, keyAllowed := after.mark.leading } : Scanner).push
        (.scalar .plain text)) := by
  simp only [scanPlainScalar]
  rw [begins, scanned]

theorem scanPlainScalar_amid (depth : Depth) (keyAllowed : Bool) (candidate : KeyCandidate)
    (tokens : List Token) {place after : Place} {text : String}
    (scanned : PlainScalar.scan ⟨depth.plain.indent + 1, false⟩ place = some (text, after)) :
    (amid depth keyAllowed candidate tokens place).scanPlainScalar =
      some (amid depth.plain after.mark.leading (saved depth keyAllowed candidate tokens place.mark)
        (.scalar .plain text :: tokens) after) := by
  have begins : ({ (amid depth keyAllowed candidate tokens place).saveCandidate with
        keyAllowed := false } : Scanner).unrollPlain =
      amid depth.plain false (saved depth keyAllowed candidate tokens place.mark) tokens place := by
    cases keyAllowed <;> cases depth <;> rfl
  exact scanPlainScalar_of_begun begins scanned

section

variable {candidate : KeyCandidate} {tokens : List Token} {mark : Mark} {rest : List Char}

/-- A key at the beginning of a line. -/
theorem scanToken_key (opened : Bool) (key : Bare) (first : mark.column = 0) {gap : Char}
    (ends : isGap gap = true) :
    (amid (Depth.ofOpened opened) true candidate tokens
        ⟨mark, key.chars ++ ':' :: gap :: rest⟩).scanToken =
      some (amid (Depth.ofOpened opened) false
        { possible := true, required := opened, position := tokens.length, mark }
        (.scalar .plain key.text :: tokens)
        ⟨mark.solid key.chars.length, ':' :: gap :: rest⟩) := by
  have within : (Depth.ofOpened opened).indent ≤ (mark.column : Int) := by
    rw [first]
    exact Depth.indent_ofOpened opened
  have scanned := @PlainScalar.scan_key ⟨(Depth.ofOpened opened).plain.indent + 1, false⟩ rfl key
    mark gap ends rest
  rw [scanToken_of_bare key rfl rfl within (fun _ => startsIndicator_colon key.solid _),
    scanPlainScalar_amid _ _ _ _ scanned]
  cases opened <;> simp only [saved, first] <;> rfl

theorem scanToken_of_colon {s : Scanner} {gap : Char} {rest : List Char}
    (begins : s.place.rest = ':' :: gap :: rest) (ends : isGap gap = true)
    (within : s.indent ≤ s.column) : s.scanToken = s.scanValue := by
  have initial : s.place.first = ':' := by rw [Place.first, begins]; rfl
  have next : s.place.second = gap := by rw [Place.second, begins]; rfl
  have stays : ¬ s.column < s.indent := by omega
  have noPercent : (':' == '%') = false := by decide
  unfold scanToken
  rw [begins, startsDocument_of_ne (by decide), startsDocument_of_ne (by decide)]
  simp only [initial, next, ends, noPercent, Bool.and_false, Bool.false_eq_true, if_false,
    if_neg stays, Bool.true_or, if_true]

theorem insert_amid (depth : Depth) (keyAllowed : Bool) (candidate : KeyCandidate)
    (later earlier : List Token) (place : Place) (token : Token) :
    (amid depth keyAllowed candidate (later ++ earlier) place).insert earlier.length token =
      amid depth keyAllowed candidate (later ++ token :: earlier) place := by
  have position : (later ++ earlier).length - earlier.length = later.length := by
    rw [List.length_append, Nat.add_sub_cancel]
  have count : (later ++ earlier).length + 1 = (later ++ token :: earlier).length := by
    rw [List.length_append, List.length_append, List.length_cons, Nat.add_assoc]
  simp only [insert, amid, position, List.take_left, List.drop_left, count]

/-- The first key opens the mapping that the others are keys of. -/
theorem roll_amid (opened keyAllowed : Bool) (candidate : KeyCandidate) (later earlier : List Token)
    (place : Place) :
    (amid (Depth.ofOpened opened) keyAllowed candidate (later ++ earlier) place).roll 0
        (some earlier.length) .blockMappingStart =
      amid .mapping keyAllowed candidate
        (later ++ if opened then earlier else .blockMappingStart :: earlier) place := by
  cases opened with
  | true => rfl
  | false => exact insert_amid .mapping keyAllowed candidate later earlier place .blockMappingStart

theorem scanValue_of_key {s behind rolled : Scanner} (block : s.flowSequences = [])
    (possible : s.candidate.possible = true) (passes : (s.skip 1).skipAfterColon = some behind)
    (rolls : (behind.insert s.candidate.position .key).roll s.candidate.mark.column
      (some s.candidate.position) .blockMappingStart = rolled) :
    s.scanValue =
      some (({ rolled.rollOneColumn.setCandidate
          { rolled.rollOneColumn.candidate with possible := false } with
        keyAllowed := false } : Scanner).push .value) := by
  unfold scanValue
  simp only [block, List.isEmpty_nil, Bool.not_true, Bool.false_and, Bool.false_eq_true, if_false,
    passes, possible, if_true, rolls]

/-- A colon behind a key. -/
theorem scanToken_colon (opened : Bool) (token : Token) {gap : Char} (ends : isGap gap = true)
    (noTab : gap ≠ '\t') {start : Mark} (first : start.column = 0) :
    (amid (Depth.ofOpened opened) false
        { possible := true, required := opened, position := tokens.length, mark := start }
        (token :: tokens) ⟨mark, ':' :: gap :: rest⟩).scanToken =
      some (amid .value false
        { possible := false, required := opened, position := tokens.length, mark := start }
        (.value :: token :: .key :: if opened then tokens else .blockMappingStart :: tokens)
        ⟨mark.solid 1, gap :: rest⟩) := by
  have within : (Depth.ofOpened opened).indent ≤ (mark.column : Int) :=
    Int.le_trans (Depth.indent_ofOpened opened) (Int.natCast_nonneg _)
  have passes : ((amid (Depth.ofOpened opened) false
        { possible := true, required := opened, position := tokens.length, mark := start }
        (token :: tokens) ⟨mark, ':' :: gap :: rest⟩).skip 1).skipAfterColon =
      some (amid (Depth.ofOpened opened) false
        { possible := true, required := opened, position := tokens.length, mark := start }
        (token :: tokens) ⟨mark.solid 1, gap :: rest⟩) := by
    rw [skipAfterColon, if_neg]
    · rfl
    · exact fun tab => noTab (beq_iff_eq.1 tab)
  have rolls : ((amid (Depth.ofOpened opened) false
        { possible := true, required := opened, position := tokens.length, mark := start }
        ([token] ++ tokens) ⟨mark.solid 1, gap :: rest⟩).insert tokens.length .key).roll
          (start.column : Int) (some tokens.length) .blockMappingStart =
      amid .mapping false
        { possible := true, required := opened, position := tokens.length, mark := start }
        ([token, .key] ++ if opened then tokens else .blockMappingStart :: tokens)
        ⟨mark.solid 1, gap :: rest⟩ := by
    rw [first, insert_amid]
    exact roll_amid opened false _ [token, .key] tokens _
  rw [scanToken_of_colon rfl ends within]
  exact scanValue_of_key rfl rfl passes rolls

/-- A bare text on the line of its key. -/
theorem scanToken_beside (bare : Bare) (behind : 0 < mark.column)
    (next : ∀ c ∈ rest.head?, Solid c) :
    (amid .value false candidate tokens ⟨mark, bare.chars ++ '\n' :: rest⟩).scanToken =
      some (amid .mapping true candidate (.scalar .plain bare.text :: tokens)
        ⟨(mark.solid bare.chars.length).newline 1, rest⟩) := by
  have within : Depth.value.indent ≤ (mark.column : Int) := by
    rw [Depth.indent]
    omega
  have scanned := @PlainScalar.scan_bare ⟨Depth.value.plain.indent + 1, false⟩ rfl (by decide) bare
    mark behind rest next
  rw [scanToken_of_bare bare rfl rfl within (fun first => absurd first (Nat.ne_of_gt behind)),
    scanPlainScalar_amid _ _ _ _ scanned]
  rfl

/-- A bare text after a hyphen.  It might still be a key, but the line ends. -/
theorem scanToken_item (bare : Bare) (behind : 0 < mark.column)
    (next : ∀ c ∈ rest.head?, Solid c) :
    (amid .mapping true candidate tokens ⟨mark, bare.chars ++ '\n' :: rest⟩).scanToken =
      some (amid .mapping true { possible := true, position := tokens.length, mark }
        (.scalar .plain bare.text :: tokens)
        ⟨(mark.solid bare.chars.length).newline 1, rest⟩) := by
  have within : Depth.mapping.indent ≤ (mark.column : Int) := by
    rw [Depth.indent]
    omega
  have optional : (Depth.mapping.indent == (mark.column : Int)) = false := by
    rw [beq_eq_false_iff_ne, Depth.indent]
    omega
  have scanned := @PlainScalar.scan_bare ⟨Depth.mapping.plain.indent + 1, false⟩ rfl (by decide)
    bare mark behind rest next
  rw [scanToken_of_bare bare rfl rfl within (fun first => absurd first (Nat.ne_of_gt behind)),
    scanPlainScalar_amid _ _ _ _ scanned]
  simp only [saved, optional, Bool.false_and, if_true]
  rfl

theorem scanToken_of_hyphen {s : Scanner} {rest : List Char}
    (begins : s.place.rest = '-' :: ' ' :: rest) (within : s.indent ≤ s.column) :
    s.scanToken = s.scanBlockEntry := by
  have initial : s.place.first = '-' := by rw [Place.first, begins]; rfl
  have next : s.place.second = ' ' := by rw [Place.second, begins]; rfl
  have stays : ¬ s.column < s.indent := by omega
  have noPercent : ('-' == '%') = false := by decide
  have noDocument : startsDocument '-' ('-' :: ' ' :: rest) = false := by cases rest <;> rfl
  have gap : isGap ' ' = true := by decide
  unfold scanToken
  rw [begins, noDocument, startsDocument_of_ne (by decide)]
  simp only [initial, next, gap, noPercent, Bool.and_false, Bool.false_eq_true, if_false,
    if_neg stays, if_true]

theorem scanBlockEntry_of_solid {s rolled : Scanner} {place : Place} {dropped : Scanner}
    (block : s.inFlow = false) (allowed : s.keyAllowed = true)
    (noProperty : s.afterProperty = false)
    (rolls : (s.skip 1).roll s.column none .blockSequenceStart = rolled)
    (passes : rolled.place.lineEnd = some ⟨place, false, true⟩)
    (stays : toLineEnd false false false place.mark place.rest = some ⟨place, false, false⟩)
    (solid : (isBreak place.first || isFlow place.first) = false)
    (drops : ({ rolled with place } : Scanner).dropCandidate = some dropped) :
    s.scanBlockEntry = some (({ dropped with keyAllowed := true } : Scanner).push .blockEntry) := by
  unfold scanBlockEntry
  simp only [block, allowed, noProperty, rolls, passes, stays, solid, drops, Bool.not_true,
    Bool.or_false, Bool.false_and, Bool.false_eq_true, if_false, Option.map_some]

/-- A hyphen at the beginning of a line, in the column of the key above. -/
theorem scanToken_hyphen (idle : candidate.possible = false) (first : mark.column = 0) (bare : Bare)
    (noProperty : (amid .mapping true candidate tokens
      ⟨mark, '-' :: ' ' :: (bare.chars ++ rest)⟩).afterProperty = false) :
    (amid .mapping true candidate tokens
        ⟨mark, '-' :: ' ' :: (bare.chars ++ rest)⟩).scanToken =
      some (amid .mapping true { candidate with possible := false } (.blockEntry :: tokens)
        ⟨(mark.solid 1).blank, bare.chars ++ rest⟩) := by
  have within : Depth.mapping.indent ≤ (mark.column : Int) := by
    rw [first]
    decide
  have solid := bare.solid_initial
  have rolls : ((amid .mapping true candidate tokens
        ⟨mark, '-' :: ' ' :: (bare.chars ++ rest)⟩).skip 1).roll mark.column none
          .blockSequenceStart =
      amid .mapping true candidate tokens ⟨mark.solid 1, ' ' :: (bare.chars ++ rest)⟩ := by
    rw [first]
    rfl
  have passes : Place.lineEnd ⟨mark.solid 1, ' ' :: (bare.chars ++ rest)⟩ =
      some ⟨⟨(mark.solid 1).blank, bare.chars ++ rest⟩, false, true⟩ :=
    toLineEnd_of_solid solid true false true _ _
  have stays : toLineEnd false false false (mark.solid 1).blank (bare.chars ++ rest) =
      some ⟨⟨(mark.solid 1).blank, bare.chars ++ rest⟩, false, false⟩ :=
    toLineEnd_of_solid solid false false false _ _
  have noSign : (isBreak bare.initial || isFlow bare.initial) = false := by
    rw [solid.notBreak, bare.notFlow]
    rfl
  have drops : (amid .mapping true candidate tokens
        ⟨(mark.solid 1).blank, bare.chars ++ rest⟩).dropCandidate =
      some (amid .mapping true { candidate with possible := false } tokens
        ⟨(mark.solid 1).blank, bare.chars ++ rest⟩) := by
    rw [dropCandidate, if_neg]
    · rfl
    · change ¬ (candidate.possible && candidate.required) = true
      rw [idle]
      exact Bool.false_ne_true
  rw [scanToken_of_hyphen rfl within]
  exact scanBlockEntry_of_solid rfl rfl noProperty rolls passes stays noSign drops

end

end Scanner

end TopicPress.Yaml
