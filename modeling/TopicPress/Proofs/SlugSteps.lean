import Mathlib
import TopicPress.Proofs.Runs
import TopicPress.Topic.Slug

/-!
# How an identifier is made

The identifier of a title is made in one pass: a flag remembers that characters were passed over that
cannot stay, and nothing is put out for them before the first character that stays.  It is described
here in steps instead, each of them on the whole text: letters in lower case, runs of other characters
replaced, underscores dropped at both ends, an underscore in front of what is no name.  The pass leaves
out some underscores that the replacement has, but only at the ends, where they are dropped anyhow.
-/

namespace TopicPress

namespace Slug

/-! ## Characters -/

/-- The characters of identifiers, `[a-z0-9_-]`. -/
def isPlain (c : Char) : Bool := c.isLower || c.isDigit || c == '_' || c == '-'

theorem isAlpha_of_isDigit {c : Char} (digit : c.isDigit = true) : c.isAlpha = false := by
  have nine : '9'.val.toNat = 57 := rfl
  have capital : 'A'.val.toNat = 65 := rfl
  have small : 'a'.val.toNat = 97 := rfl
  simp only [Char.isDigit, Char.isAlpha, Char.isUpper, Char.isLower, Bool.and_eq_true,
    Bool.or_eq_false_iff, Bool.and_eq_false_iff, decide_eq_true_eq, decide_eq_false_iff_not,
    ge_iff_le, UInt32.le_iff_toNat_le] at digit ⊢
  omega

theorem isUpper_of_isPlain {c : Char} (plain : isPlain c = true) : c.isUpper = false := by
  simp only [isPlain, Bool.or_eq_true, beq_iff_eq] at plain
  rcases plain with ((lower | digit) | rfl) | rfl
  · exact Bool.eq_false_iff.mpr (Char.not_isUpper_of_isLower lower)
  · have noLetter := isAlpha_of_isDigit digit
    rw [Char.isAlpha, Bool.or_eq_false_iff] at noLetter
    exact noLetter.1
  · rfl
  · rfl

theorem toLower_of_not_isUpper {c : Char} (small : c.isUpper = false) : c.toLower = c :=
  Char.toLower_eq_of_not_isUpper (Bool.eq_false_iff.mp small)

/-- A character stays in an identifier if its lower-case form is one of those of identifiers. -/
theorem isIdCharacter_eq (c : Char) : isIdCharacter c = isPlain c.toLower := by
  cases upper : c.isUpper with
  | true =>
      have letter : c.toLower.isLower = true := by
        rw [Char.isLower_toLower_eq_isAlpha, Char.isAlpha, upper, Bool.true_or]
      rw [isIdCharacter, isPlain, upper, letter, Bool.or_true]
      rfl
  | false =>
      rw [toLower_of_not_isUpper upper, isIdCharacter, isPlain, upper, Bool.or_false]
      cases c == '_' <;> cases c == '-' <;> simp

theorem isIdCharacter_of_not_isUpper {c : Char} (small : c.isUpper = false) :
    isIdCharacter c = isPlain c := by
  rw [isIdCharacter_eq, toLower_of_not_isUpper small]

/-- Whether the title is in lower case makes no difference. -/
theorem join_map_toLower (title : List Char) :
    ∀ kept waiting, join kept waiting (title.map Char.toLower) = join kept waiting title := by
  induction title with
  | nil =>
      intro kept waiting
      rfl
  | cons c rest inductionHypothesis =>
      intro kept waiting
      have same : isIdCharacter c.toLower = isIdCharacter c := by
        rw [isIdCharacter_eq, isIdCharacter_eq, Char.toLower_toLower_eq_toLower]
      rw [List.map_cons, join, join, same, Char.toLower_toLower_eq_toLower]
      simp only [inductionHypothesis]

/-! ## The steps -/

/-- Every maximal run of characters that identifiers do not have, replaced by one underscore. -/
def replaceOthers (text : List Char) : List Char :=
  (runs isPlain text).flatMap (fun run => if run.all isPlain then run else ['_'])

/-- An underscore in front of what has characters and does not start with a letter. -/
def prefixed (id : List Char) : List Char :=
  if id.head?.all Char.isAlpha then id else '_' :: id

/-- The identifier of a title, step by step. -/
def inSteps (title : List Char) : List Char :=
  let replaced := replaceOthers (title.map Char.toLower)
  prefixed ((replaced.dropWhile (· == '_')).rdropWhile (· == '_'))

theorem replaceOthers_append {answer : Bool} {run rest : List Char}
    (first : IsFirstRun isPlain answer run rest) :
    replaceOthers (run ++ rest) = (if answer then run else ['_']) ++ replaceOthers rest := by
  rw [replaceOthers, runs_append first, List.flatMap_cons, first.all_eq]
  rfl

/-! ## The pass, run by run -/

/-- Characters that stay are put out as they are, after an underscore for the run before them. -/
theorem join_append_of_isPlain {run : List Char} (notEmpty : run ≠ [])
    (plain : ∀ c ∈ run, isPlain c = true) (rest : List Char) :
    ∀ kept waiting, join kept waiting (run ++ rest) =
      (if waiting && kept then ['_'] else []) ++ run ++ join true false rest := by
  induction run with
  | nil => exact absurd rfl notEmpty
  | cons c later inductionHypothesis =>
      intro kept waiting
      rw [List.forall_mem_cons] at plain
      have small := isUpper_of_isPlain plain.1
      have others : join true false (later ++ rest) = later ++ join true false rest := by
        cases later with
        | nil => rfl
        | cons next more => exact inductionHypothesis (List.cons_ne_nil _ _) plain.2 true false
      rw [List.cons_append, join, isIdCharacter_of_not_isUpper small, plain.1,
        toLower_of_not_isUpper small, others, if_pos rfl]
      cases waiting && kept <;> rfl

/-- Other characters are passed over. -/
theorem join_append_of_not_isPlain {run : List Char} (notEmpty : run ≠ [])
    (lowered : ∀ c ∈ run, c.isUpper = false) (others : ∀ c ∈ run, isPlain c = false)
    (rest : List Char) :
    ∀ kept waiting, join kept waiting (run ++ rest) = join kept true rest := by
  induction run with
  | nil => exact absurd rfl notEmpty
  | cons c later inductionHypothesis =>
      intro kept waiting
      rw [List.forall_mem_cons] at lowered others
      rw [List.cons_append, join, isIdCharacter_of_not_isUpper lowered.1, others.1,
        if_neg Bool.false_ne_true]
      cases later with
      | nil => rfl
      | cons next more =>
          exact inductionHypothesis (List.cons_ne_nil _ _) lowered.2 others.2 kept true

/-- Before the first character that stays it makes no difference what was passed over. -/
theorem join_unkept (waiting : Bool) (text : List Char) :
    join false waiting text = join false false text := by
  cases text with
  | nil => rfl
  | cons c rest => rw [join, join, Bool.and_false, Bool.and_false]

/-- Underscores and nothing else. -/
def Blank (text : List Char) : Prop := ∀ c ∈ text, (c == '_') = true

/-- Once a character was kept, what is put out is the replacement of what follows, after an underscore
if a run is waiting for the next character, but without the underscore for a run at the end. -/
theorem replaceOthers_eq_join_kept (text : List Char) :
    (∀ c ∈ text, c.isUpper = false) → ∀ waiting : Bool,
      (waiting = true → ∀ c ∈ text.head?, isPlain c = true) →
        ∃ trailing, Blank trailing ∧
          (if waiting then ['_'] else []) ++ replaceOthers text =
            join true waiting text ++ trailing := by
  induction text using runInduction isPlain with
  | nil =>
      intro _ waiting _
      refine ⟨if waiting then ['_'] else [], ?_, ?_⟩
      · cases waiting <;> simp [Blank]
      · simp [join, replaceOthers, runs_nil]
  | run answer run rest first inductionHypothesis =>
      intro lowered waiting ready
      rw [List.forall_mem_append] at lowered
      rw [replaceOthers_append first]
      cases answer with
      | true =>
          rcases inductionHypothesis lowered.2 false (fun waits => absurd waits Bool.false_ne_true)
            with ⟨trailing, blank, same⟩
          refine ⟨trailing, blank, ?_⟩
          rw [join_append_of_isPlain first.notEmpty first.alike, Bool.and_true, if_pos rfl,
            List.append_assoc, List.append_assoc, ← same]
          rfl
      | false =>
          rcases inductionHypothesis lowered.2 true (fun _ => first.ends) with
            ⟨trailing, blank, same⟩
          refine ⟨trailing, blank, ?_⟩
          cases waiting with
          | true =>
              rcases List.exists_cons_of_ne_nil first.notEmpty with ⟨c, later, rfl⟩
              have plain := ready rfl c rfl
              rw [first.alike c List.mem_cons_self] at plain
              cases plain
          | false =>
              rw [join_append_of_not_isPlain first.notEmpty lowered.1 first.alike, ← same]
              rfl

/-- What the pass puts out is the replacement but for underscores at the ends. -/
theorem replaceOthers_eq_join (text : List Char) :
    (∀ c ∈ text, c.isUpper = false) →
      ∃ leading trailing, Blank leading ∧ Blank trailing ∧
        replaceOthers text = leading ++ join false false text ++ trailing := by
  induction text using runInduction isPlain with
  | nil =>
      intro _
      exact ⟨[], [], by simp [Blank], by simp [Blank], rfl⟩
  | run answer run rest first inductionHypothesis =>
      intro lowered
      rw [List.forall_mem_append] at lowered
      rw [replaceOthers_append first]
      cases answer with
      | true =>
          rcases replaceOthers_eq_join_kept rest lowered.2 false
            (fun waits => absurd waits Bool.false_ne_true) with ⟨trailing, blank, same⟩
          refine ⟨[], trailing, by simp [Blank], blank, ?_⟩
          rw [join_append_of_isPlain first.notEmpty first.alike, List.append_assoc,
            List.append_assoc, ← same]
          rfl
      | false =>
          rcases inductionHypothesis lowered.2 with ⟨leading, trailing, before, after, same⟩
          refine ⟨'_' :: leading, trailing, by simpa [Blank] using before, after, ?_⟩
          rw [join_append_of_not_isPlain first.notEmpty lowered.1 first.alike, join_unkept, same]
          rfl

/-! ## Ends -/

theorem trimUnderscores_eq (id : List Char) :
    trimUnderscores id = (id.dropWhile (· == '_')).rdropWhile (· == '_') := rfl

theorem trimUnderscores_padded {leading trailing : List Char} (before : Blank leading)
    (after : Blank trailing) (id : List Char) :
    trimUnderscores (leading ++ id ++ trailing) = trimUnderscores id := by
  have nothing : trailing.dropWhile (· == '_') = [] := List.dropWhile_eq_nil_iff.mpr after
  have fromEnd : ∀ c ∈ trailing.reverse, (c == '_') = true :=
    fun c member => after c (List.mem_reverse.mp member)
  rw [trimUnderscores, trimUnderscores, List.append_assoc, List.dropWhile_append_of_pos before,
    List.dropWhile_append, nothing]
  split
  · rename_i empty
    rw [List.isEmpty_iff.mp empty]
  · rw [List.reverse_append, List.dropWhile_append_of_pos fromEnd]

theorem trimUnderscores_eq_nil_iff (id : List Char) : trimUnderscores id = [] ↔ Blank id := by
  rw [trimUnderscores_eq, List.rdropWhile_eq_nil_iff]
  constructor
  · intro blank c member
    rw [← List.takeWhile_append_dropWhile (p := (· == '_')) (l := id), List.mem_append] at member
    rcases member with early | late
    · exact List.all_eq_true.mp List.all_takeWhile c early
    · exact blank c late
  · intro blank c member
    exact blank c ((List.dropWhile_sublist _).subset member)

/-- No underscore is left in front. -/
theorem head?_trimUnderscores (id : List Char) : ∀ c ∈ (trimUnderscores id).head?, c ≠ '_' := by
  rw [trimUnderscores_eq]
  intro c first
  rcases List.rdropWhile_prefix (· == '_') (id.dropWhile (· == '_')) with ⟨more, same⟩
  have different := List.head?_dropWhile_not (· == '_') id
  rw [← same, List.head?_append, Option.mem_def.mp first] at different
  exact beq_eq_false_iff_ne.mp different

/-- No underscore is left at the end. -/
theorem getLast?_trimUnderscores (id : List Char) :
    ∀ c ∈ (trimUnderscores id).getLast?, c ≠ '_' := by
  intro c last
  rw [trimUnderscores, List.getLast?_reverse] at last
  have different := List.head?_dropWhile_not (· == '_') (id.dropWhile (· == '_')).reverse
  rw [Option.mem_def.mp last] at different
  exact beq_eq_false_iff_ne.mp different

theorem mem_of_mem_trimUnderscores {id : List Char} {c : Char} (member : c ∈ trimUnderscores id) :
    c ∈ id := by
  rw [trimUnderscores_eq] at member
  exact (List.dropWhile_sublist _).subset ((List.rdropWhile_prefix _ _).subset member)

theorem trimUnderscores_of_ends {id : List Char} (first : ∀ c ∈ id.head?, c ≠ '_')
    (last : ∀ c ∈ id.getLast?, c ≠ '_') : trimUnderscores id = id := by
  have unchanged : id.dropWhile (· == '_') = id := by
    cases id with
    | nil => rfl
    | cons c rest => exact List.dropWhile_cons_of_neg (by simpa using first c rfl)
  rw [trimUnderscores_eq, unchanged, List.rdropWhile_eq_self_iff]
  intro notEmpty same
  exact last _ (List.getLast?_eq_some_getLast notEmpty) (beq_iff_eq.mp same)

theorem makeName_eq (id : List Char) : makeName id = prefixed id := by
  cases id with
  | nil => rfl
  | cons c rest => cases letter : c.isAlpha <;> simp [makeName, prefixed, letter]

theorem makeName_eq_nil_iff (id : List Char) : makeName id = [] ↔ id = [] := by
  cases id with
  | nil => simp [makeName]
  | cons c rest => cases letter : c.isAlpha <;> simp [makeName, letter]

/-! ## The pass and the steps -/

theorem ofChars_eq_inSteps (title : List Char) : ofChars title = inSteps title := by
  have lowered : ∀ c ∈ title.map Char.toLower, c.isUpper = false := by
    simp
  rcases replaceOthers_eq_join _ lowered with ⟨leading, trailing, before, after, same⟩
  rw [inSteps, ← trimUnderscores_eq, same, trimUnderscores_padded before after, join_map_toLower,
    ← makeName_eq]
  rfl

/-- The characters that are put out, underscores apart, are those of the title that stay. -/
theorem blank_join_iff (title : List Char) :
    ∀ kept waiting, Blank (join kept waiting title) ↔
      ∀ c ∈ title, isIdCharacter c = true → c.toLower = '_' := by
  simp only [Blank, beq_iff_eq]
  induction title with
  | nil =>
      intro kept waiting
      simp [join]
  | cons c rest inductionHypothesis =>
      intro kept waiting
      rw [join, List.forall_mem_cons]
      cases stays : isIdCharacter c with
      | true =>
          cases waiting && kept with
          | true => simp [inductionHypothesis]
          | false => simp [inductionHypothesis]
      | false => simp [inductionHypothesis]

/-- An underscore is the one character of identifiers that is no letter, digit or hyphen. -/
theorem toLower_eq_underscore_iff (c : Char) :
    (isIdCharacter c = true → c.toLower = '_') ↔
      c.isAlpha = false ∧ c.isDigit = false ∧ c ≠ '-' := by
  constructor
  · intro underscore
    refine ⟨?_, ?_, ?_⟩
    · rw [← Bool.not_eq_true]
      intro letter
      have lower := (Char.isLower_toLower_eq_isAlpha c).trans letter
      have stays : isIdCharacter c = true := by
        rw [isIdCharacter_eq, isPlain, lower]
        rfl
      rw [underscore stays] at lower
      cases lower
    · rw [← Bool.not_eq_true]
      intro digit
      have plain : isPlain c = true := by simp [isPlain, digit]
      have small := isUpper_of_isPlain plain
      have same := underscore ((isIdCharacter_of_not_isUpper small).trans plain)
      rw [toLower_of_not_isUpper small] at same
      rw [same] at digit
      cases digit
    · rintro rfl
      exact absurd (underscore rfl) (by decide)
  · rintro ⟨noLetter, noDigit, noHyphen⟩ stays
    rw [Char.isAlpha, Bool.or_eq_false_iff] at noLetter
    have same : c = '_' := by
      simpa [isIdCharacter, noLetter, noDigit, noHyphen] using stays
    rw [same]
    rfl

theorem ofChars_eq_nil_iff (title : List Char) :
    ofChars title = [] ↔ ∀ c ∈ title, c.isAlpha = false ∧ c.isDigit = false ∧ c ≠ '-' := by
  rw [ofChars, makeName_eq_nil_iff, trimUnderscores_eq_nil_iff, blank_join_iff]
  simp only [toLower_eq_underscore_iff]

end Slug

/-- The identifier of a title is what the steps make of it, and it is empty if and only if the title
has neither a letter nor a digit nor a hyphen. -/
theorem slugify_inSteps (title : String) :
    slugify title = String.ofList (Slug.inSteps title.toList) ∧
      (slugify title = "" ↔
        ∀ c ∈ title.toList, c.isAlpha = false ∧ c.isDigit = false ∧ c ≠ '-') := by
  constructor
  · rw [slugify, Slug.ofChars_eq_inSteps]
  · rw [← Slug.ofChars_eq_nil_iff, slugify, ← String.toList_inj, String.toList_ofList]
    rfl

-- An underscore of the title stays beside the one for a run, but not at the ends.
example : slugify "_2024: Ä_ Release _" = "_2024___release" := by decide

end TopicPress
