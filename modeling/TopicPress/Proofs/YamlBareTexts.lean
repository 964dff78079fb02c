import TopicPress.Proofs.BareEntries
import TopicPress.Yaml.Scanner

/-!
# Bare texts in a YAML text

A bare text means nothing in YAML but itself.  On the way to a token it stops the scanner, and a plain
scalar goes on with all of it, until a colon with a gap behind it, or until the end of the line if the
next line is not indented.
-/

namespace TopicPress.Yaml

open FrontMatterBlock

theorem startsDocument_of_ne {mark c : Char} (different : c ≠ mark) (rest : List Char) :
    startsDocument mark (c :: rest) = false := by
  unfold startsDocument
  split
  · rename_i same
    cases same
    rw [beq_false_of_ne different, Bool.false_and, Bool.false_and, Bool.false_and]
  · rfl

/-- No line of a key is a line of three hyphens or three dots. -/
theorem startsDocument_colon {mark : Char} (different : ':' ≠ mark) {chars : List Char}
    (solid : ∀ c ∈ chars, Solid c) (rest : List Char) :
    startsDocument mark (chars ++ ':' :: rest) = false := by
  have apart : (':' == mark) = false := beq_false_of_ne different
  rcases chars with _ | ⟨first, _ | ⟨second, _ | ⟨third, _ | ⟨fourth, later⟩⟩⟩⟩
  · exact startsDocument_of_ne different rest
  · cases rest <;> simp [startsDocument, apart]
  · simp [startsDocument, apart]
  · have noGap : isGap ':' = false := by decide
    simp [startsDocument, Yaml.first, noGap]
  · have noGap : isGap fourth = false := (solid fourth (by simp)).notGap
    simp [startsDocument, Yaml.first, noGap]

theorem startsIndicator_colon {chars : List Char} (solid : ∀ c ∈ chars, Solid c) (rest : List Char) :
    startsIndicator (chars ++ ':' :: rest) = false := by
  rw [startsIndicator, startsDocument_colon (by decide) solid, startsDocument_colon (by decide) solid]
  rfl

/-! ## Places -/

theorem Mark.solid_solid (mark : Mark) (first second : Nat) :
    (mark.solid first).solid second = mark.solid (first + second) := by
  simp only [Mark.solid, Nat.add_assoc]

/-- A token begins here. -/
theorem toToken_of_solid {c : Char} (solid : Solid c) (indent : Option Int) (passedBreak : Bool)
    (mark : Mark) (rest : List Char) :
    toToken indent .clear passedBreak mark (c :: rest) = some (⟨mark, c :: rest⟩, passedBreak) := by
  have notReturn : c ≠ '\r' := ne_of_beq_false solid.notReturn
  unfold toToken
  split
  · cases ‹_ = []›
  · exact absurd (List.cons.inj ‹_›).1 notReturn
  · rename_i same
    cases same
    simp only [solid.notBreak, solid.notEnd, solid.notComment, solid.notBlank, Bool.false_eq_true,
      if_false]
    rfl

/-- Nothing is passed over before a token, or at the end of the text. -/
theorem toToken_of_head {text : List Char} (next : ∀ c ∈ text.head?, Solid c) (indent : Option Int)
    (passedBreak : Bool) (mark : Mark) :
    toToken indent .clear passedBreak mark text = some (⟨mark, text⟩, passedBreak) := by
  cases text with
  | nil => rfl
  | cons c rest => exact toToken_of_solid (next c rfl) indent passedBreak mark rest

theorem toToken_space (indent : Option Int) (passedBreak : Bool) (mark : Mark) (text : List Char) :
    toToken indent .clear passedBreak mark (' ' :: text) =
      toToken indent .clear passedBreak mark.blank text := rfl

theorem toToken_lineFeed (indent : Option Int) (passedBreak : Bool) (mark : Mark)
    (text : List Char) :
    toToken indent .clear passedBreak mark ('\n' :: text) =
      toToken indent .clear true (mark.newline 1) text := rfl

/-- The rest of a line begins with a token. -/
theorem toLineEnd_of_solid {c : Char} (solid : Solid c) (tabs sawTab sawSpace : Bool) (mark : Mark)
    (rest : List Char) :
    toLineEnd tabs sawTab sawSpace mark (c :: rest) =
      some ⟨⟨mark, c :: rest⟩, sawTab, sawSpace⟩ := by
  have notBlank := solid.notBlank
  rw [isBlank, Bool.or_eq_false_iff] at notBlank
  unfold toLineEnd
  split
  · exact absurd (List.cons.inj ‹_›).1 (ne_of_beq_false notBlank.1)
  · exact absurd (List.cons.inj ‹_›).1 (ne_of_beq_false notBlank.2)
  · exact absurd (List.cons.inj ‹_›).1 (ne_of_beq_false solid.notComment)
  · rfl

namespace PlainScalar

variable {context : Context}

/-- A plain scalar goes on with a character of a token, unless that is the last one and a colon. -/
theorem canContinue_of_solid {c : Char} {later : List Char} (solid : ∀ other ∈ c :: later, Solid other)
    (noColonLast : (c :: later).getLast? ≠ some ':') (rest : List Char) :
    canContinue false c (Yaml.first (later ++ rest)) = true := by
  cases later with
  | nil =>
      have noColon : c ≠ ':' := fun same => noColonLast (congrArg some same)
      rw [canContinue, beq_false_of_ne noColon]
      rfl
  | cons next others =>
      have noGap : isGap next = false := (solid next (by simp)).notGap
      rw [canContinue, List.cons_append, Yaml.first, List.headD_cons, noGap]
      simp

/-- Characters of tokens are read on from within a word. -/
theorem read_solid (outside : context.inFlow = false) {chars : List Char}
    (solid : ∀ c ∈ chars, Solid c) (noColonLast : chars.getLast? ≠ some ':') (words : Words)
    (mark : Mark) (passed : Nat) (rest : List Char) :
    read context .word words (mark.solid passed) (chars ++ rest) =
      read context .word { words with text := chars.reverse ++ words.text }
        (mark.solid (passed + chars.length)) rest := by
  induction chars generalizing words passed with
  | nil => rfl
  | cons c later inductionHypothesis =>
      have first := solid c List.mem_cons_self
      have goesOn := canContinue_of_solid solid noColonLast rest
      have word : (Mode.word == .comment) = false ∧ (Mode.word == .tabbed) = false ∧
          (Mode.word == .word) = true := by decide
      have others : ∀ other ∈ later, Solid other :=
        fun other member => solid other (List.mem_cons_of_mem _ member)
      have laterLast : later.getLast? ≠ some ':' := by
        cases later with
        | nil => exact Option.some_ne_none ':' |>.symm
        | cons next more => rwa [List.getLast?_cons_cons] at noColonLast
      have further :=
        inductionHypothesis others laterLast { words with text := c :: words.text } (passed + 1)
      rw [List.cons_append, read]
      simp only [first.notReturn, first.notBreak, first.notEnd, first.notBlank, outside, goesOn,
        word, Bool.not_true, Bool.false_and, Bool.false_eq_true, if_false, if_true]
      rw [Mark.solid_solid, further, List.reverse_cons, List.append_assoc, List.singleton_append,
        List.length_cons, Nat.add_assoc, Nat.add_comm 1]

/-- A scalar begins with a character of a token. -/
theorem read_initial (outside : context.inFlow = false) {c : Char} (solid : Solid c) {mark : Mark}
    {rest : List Char} (goesOn : canContinue false c (Yaml.first rest) = true)
    (noMark : mark.column = 0 → startsIndicator (c :: rest) = false) :
    read context .beginning {} mark (c :: rest) =
      read context .word { text := [c] } (mark.solid 1) rest := by
  have beginning : (Mode.beginning == .comment) = false ∧ (Mode.beginning == .tabbed) = false ∧
      (Mode.beginning == .word) = false ∧ (Mode.beginning == .gap) = false := by decide
  have noDocument : (mark.column == 0 && startsIndicator (c :: rest)) = false := by
    rw [Bool.and_eq_false_imp, beq_iff_eq]
    exact noMark
  have closed : Words.closeGap {} mark.leading = {} := by
    cases mark.leading <;> rfl
  rw [read]
  simp only [solid.notReturn, solid.notBreak, solid.notEnd, solid.notBlank, solid.notComment,
    goesOn, beginning, noDocument, outside, closed, Bool.not_true, Bool.false_and, Bool.or_false,
    Bool.false_eq_true, if_false]

/-- A scalar ends before a colon with a gap after it. -/
theorem read_colon (words : Words) (mark : Mark) {gap : Char} (ends : isGap gap = true)
    (rest : List Char) :
    read context .word words mark (':' :: gap :: rest) =
      some (words.text.reverse, ⟨mark, ':' :: gap :: rest⟩) := by
  have stops : canContinue context.inFlow ':' gap = false := by
    rw [canContinue, ends]
    rfl
  have word : (Mode.word == .comment) = false ∧ (Mode.word == .tabbed) = false ∧
      (Mode.word == .word) = true := by decide
  have next : Yaml.first (gap :: rest) = gap := rfl
  rw [read]
  simp only [solid_colon.notReturn, solid_colon.notBreak, solid_colon.notEnd, solid_colon.notBlank,
    next, stops, word, Bool.not_false, Bool.false_and, Bool.false_eq_true, if_false, if_true]

/-- A scalar ends before a line that is not indented. -/
theorem read_lineEnd (outside : context.inFlow = false) (indented : 0 < context.indent)
    (words : Words) {mark : Mark} (within : mark.leading = false) {rest : List Char}
    (next : ∀ c ∈ rest.head?, Solid c) :
    read context .word words mark ('\n' :: rest) =
      some (words.text.reverse, ⟨mark.newline 1, rest⟩) := by
  have lineFeed : ('\n' == '\r') = false ∧ isBreak '\n' = true := by decide
  rw [read]
  simp only [lineFeed, within, Bool.false_and, Bool.false_eq_true, if_false, if_true]
  cases rest with
  | nil => rw [read]
  | cons c later =>
      have solid := next c rfl
      have gap : (Mode.gap == .comment) = false ∧ (Mode.gap == .tabbed) = false ∧
          (Mode.gap == .word) = false ∧ (Mode.gap == .gap) = true := by decide
      have outdented : decide (((mark.newline 1).column : Int) < context.indent) = true :=
        decide_eq_true indented
      rw [read]
      simp only [solid.notReturn, solid.notBreak, solid.notEnd, solid.notBlank, gap, outside,
        outdented, Bool.not_false, Bool.true_and, Bool.false_and, Bool.false_eq_true, if_false,
        if_true]

theorem read_bare (outside : context.inFlow = false) (bare : Bare) {mark : Mark} {rest : List Char}
    (noMark : mark.column = 0 → startsIndicator (bare.chars ++ rest) = false) :
    read context .beginning {} mark (bare.chars ++ rest) =
      read context .word { text := bare.chars.reverse } (mark.solid bare.chars.length) rest := by
  have others : ∀ c ∈ bare.others, Solid c :=
    fun c member => bare.solid_of_mem (List.mem_cons_of_mem _ member)
  have goesOn := canContinue_of_solid bare.solid bare.noColonLast rest
  have othersLast : bare.others.getLast? ≠ some ':' := by
    intro last
    refine bare.noColonLast ?_
    rw [← List.singleton_append, List.getLast?_append, last]
    rfl
  rw [Bare.chars, List.cons_append, read_initial outside bare.solid_initial goesOn noMark,
    read_solid outside others othersLast, List.reverse_cons, List.length_cons, Nat.add_comm 1]

theorem scan_of_read (outside : context.inFlow = false) {bare : Bare} {place after : Place}
    (reads : read context .beginning {} place.mark place.rest =
      some (bare.chars.reverse.reverse, after)) :
    scan context place = some (bare.text, after) := by
  rw [List.reverse_reverse] at reads
  rw [scan, outside, Bool.false_and, if_neg Bool.false_ne_true, reads]
  rfl

/-- A key is read up to its colon. -/
theorem scan_key (outside : context.inFlow = false) (key : Bare) (mark : Mark) {gap : Char}
    (ends : isGap gap = true) (rest : List Char) :
    scan context ⟨mark, key.chars ++ ':' :: gap :: rest⟩ =
      some (key.text, ⟨mark.solid key.chars.length, ':' :: gap :: rest⟩) :=
  scan_of_read outside
    ((read_bare outside key (fun _ => startsIndicator_colon key.solid _)).trans (read_colon _ _ ends rest))

/-- A bare text at the end of a line is read up to the next line. -/
theorem scan_bare (outside : context.inFlow = false) (indented : 0 < context.indent) (bare : Bare)
    {mark : Mark} (behind : 0 < mark.column) {rest : List Char} (next : ∀ c ∈ rest.head?, Solid c) :
    scan context ⟨mark, bare.chars ++ '\n' :: rest⟩ =
      some (bare.text, ⟨(mark.solid bare.chars.length).newline 1, rest⟩) :=
  scan_of_read outside
    ((read_bare outside bare (fun first => absurd first (Nat.ne_of_gt behind))).trans
      (read_lineEnd outside indented _ rfl next))

end PlainScalar

end TopicPress.Yaml
