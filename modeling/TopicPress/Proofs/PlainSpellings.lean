import TopicPress.Proofs.BareEntries

/-!
# What plain scalars stand for

A word stands for itself.  Truth values and numbers have spellings of their own, in which nothing but
letters, digits, signs and points occurs; so each of them can stand in a line as it is.
-/

namespace TopicPress.Yaml

open FrontMatterBlock

/-! ## Words -/

namespace Value

theorem isDigit_of_isAlpha {c : Char} (letter : c.isAlpha = true) : c.isDigit = false := by
  rw [Bool.eq_false_iff]
  intro digit
  delta Char.isAlpha Char.isUpper Char.isLower at letter
  delta Char.isDigit at digit
  simp only [Bool.or_eq_true, Bool.and_eq_true, decide_eq_true_eq, UInt32.le_iff_toNat_le,
    ge_iff_le] at letter digit
  change 48 ≤ c.toNat ∧ c.toNat ≤ 57 at digit
  change (65 ≤ c.toNat ∧ c.toNat ≤ 90) ∨ (97 ≤ c.toNat ∧ c.toNat ≤ 122) at letter
  omega

/-- A letter is no decimal digit. -/
theorem not_digit?_of_isAlpha {c : Char} (letter : c.isAlpha = true) {digit : Nat}
    (found : digit? c = some digit) : ¬ digit < 10 := by
  rw [digit?, isDigit_of_isAlpha letter] at found
  simp only [Bool.false_eq_true, if_false] at found
  split at found
  · cases found
    omega
  · split at found
    · cases found
      omega
    · cases found

theorem foldl_none {read : Option Nat → Char → Option Nat} (fails : ∀ c, read none c = none)
    (digits : List Char) : digits.foldl read none = none := by
  induction digits with
  | nil => rfl
  | cons digit later inductionHypothesis => rw [List.foldl_cons, fails, inductionHypothesis]

theorem natural?_letter {c : Char} (letter : c.isAlpha = true) (others : List Char) :
    natural? 10 (c :: others) = none := by
  simp only [natural?, List.isEmpty_cons, Bool.false_eq_true, if_false, List.foldl_cons]
  cases found : digit? c with
  | none => exact foldl_none (fun _ => rfl) others
  | some digit =>
      simp only [if_neg (not_digit?_of_isAlpha letter found)]
      exact foldl_none (fun _ => rfl) others

section

variable (word : Word)

theorem initial_ne {c : Char} (no : c.isAlpha = false) : word.initial ≠ c := by
  rintro same
  have letter := word.letter
  rw [same, no] at letter
  cases letter

theorem toList_text : word.text.toList = word.initial :: word.others := String.toList_ofList

/-- A word begins with a letter. -/
theorem text_ne {spelling : String} (no : spelling.toList.head?.any Char.isAlpha = false) :
    word.text ≠ spelling := by
  rintro same
  rw [← same, toList_text] at no
  have letter : word.initial.isAlpha = false := no
  exact initial_ne word letter rfl

theorem integer?_word : integer? 10 word.text.toList = none := by
  rw [toList_text, integer?]
  · simp only [natural?_letter word.letter]
  · exact fun _ same => initial_ne word (by decide) (List.cons.inj same).1
  · exact fun _ same => initial_ne word (by decide) (List.cons.inj same).1

theorem markedInteger?_word : markedInteger? word.text.toList = none := by
  rw [toList_text]
  unfold markedInteger?
  split
  · exact absurd (List.cons.inj ‹_›).1 (initial_ne word (by decide))
  · exact absurd (List.cons.inj ‹_›).1 (initial_ne word (by decide))
  · exact absurd (List.cons.inj ‹_›).1 (initial_ne word (by decide))
  · rfl

theorem isDecimal_word : isDecimal word.text.toList = false := by
  have noSign : isSign word.initial = false := by
    rw [isSign, beq_false_of_ne (initial_ne word (by decide)),
      beq_false_of_ne (initial_ne word (by decide))]
    rfl
  have noDigits : (word.initial :: word.others).takeWhile Char.isDigit = [] := by
    rw [List.takeWhile_cons, isDigit_of_isAlpha word.letter]
    rfl
  rw [toList_text, isDecimal]
  simp only [noSign, Bool.false_eq_true, if_false, noDigits, List.length_nil, List.drop_zero]
  split
  · exact absurd (List.cons.inj ‹_›).1 (initial_ne word (by decide))
  · rfl

theorem isReal_word : isReal word.text = false := by
  have signs : ∀ spelling ∈ [".inf", ".Inf", ".INF", "+.inf", "+.Inf", "+.INF", "-.inf", "-.Inf",
      "-.INF", ".nan", ".NaN", ".NAN"], spelling.toList.head?.any Char.isAlpha = false := by
    decide
  rw [isReal, isDecimal_word, Bool.or_false, Bool.eq_false_iff]
  intro found
  exact text_ne word (signs word.text (List.contains_iff_mem.1 found)) rfl

/-- A word is text. -/
theorem ofPlain_word : ofPlain word.text = .text word.text := by
  have plain : ∀ spelling ∈ specialSpellings, (word.text == spelling) = false := by
    intro spelling special
    rw [beq_eq_false_iff_ne]
    rintro rfl
    exact word.plain special
  have truth : truth? word.text = none := by
    rw [truth?, plain "true" (by decide), plain "True" (by decide), plain "TRUE" (by decide),
      plain "false" (by decide), plain "False" (by decide), plain "FALSE" (by decide)]
    rfl
  have notNull : (word.text == "" || word.text == "~" || word.text == "null") = false := by
    rw [plain "null" (by decide), beq_false_of_ne (text_ne word (by decide)),
      beq_false_of_ne (text_ne word (by decide))]
    rfl
  simp only [ofPlain, markedInteger?_word, notNull, Bool.false_eq_true, if_false, truth,
    integer?_word, isReal_word]

end

/-! ## Truth values and numbers -/

/-- A truth value or a number. -/
inductive TruthOrNumber : Value → Prop
  | boolean (value : Bool) : TruthOrNumber (boolean value)
  | integer (value : Int) : TruthOrNumber (integer value)
  | real (spelling : String) : TruthOrNumber (real spelling)

/-- What a spelling stands for, and the reading that says so. -/
inductive Resolves (spelling : String) : Value → Prop
  | marked {value : Int} (reads : markedInteger? spelling.toList = some value) :
      Resolves spelling (integer value)
  | null : Resolves spelling null
  | boolean {value : Bool} (reads : truth? spelling = some value) :
      Resolves spelling (boolean value)
  | integer {value : Int} (reads : integer? 10 spelling.toList = some value) :
      Resolves spelling (integer value)
  | real (reads : isReal spelling = true) : Resolves spelling (real spelling)
  | text : Resolves spelling (text spelling)

theorem resolves_ofPlain (spelling : String) : Resolves spelling (ofPlain spelling) := by
  rw [ofPlain]
  split
  · exact .marked ‹_›
  · split
    · exact .null
    · split
      · exact .boolean ‹_›
      · exact .integer ‹_›
      · split
        · exact .real ‹_›
        · exact .text

theorem mem_of_truth? {spelling : String} {value : Bool} (stands : truth? spelling = some value) :
    spelling ∈ ["true", "True", "TRUE", "false", "False", "FALSE"] := by
  rw [truth?] at stands
  simp only [List.mem_cons, List.not_mem_nil, or_false]
  split at stands
  · rename_i spelled
    simp only [Bool.or_eq_true, beq_iff_eq] at spelled
    rcases spelled with (spelled | spelled) | spelled <;> simp [spelled]
  · split at stands
    · rename_i spelled
      simp only [Bool.or_eq_true, beq_iff_eq] at spelled
      rcases spelled with (spelled | spelled) | spelled <;> simp [spelled]
    · cases stands

/-- A character that numbers are spelled with. -/
def isNumeral (c : Char) : Bool := c.isAlphanum || isSign c || c == '.'

/-- What the spelling of every number is like: characters of numbers, and not only signs and points. -/
structure Numeral (spelling : List Char) : Prop where
  chars : ∀ c ∈ spelling, isNumeral c = true
  filled : ∃ c ∈ spelling, c.isAlphanum = true

instance (spelling : List Char) : Decidable (Numeral spelling) :=
  decidable_of_iff (spelling.all isNumeral = true ∧ spelling.any Char.isAlphanum = true)
    ⟨fun both => ⟨List.all_eq_true.1 both.1, List.any_eq_true.1 both.2⟩,
      fun numeral => ⟨List.all_eq_true.2 numeral.chars, List.any_eq_true.2 numeral.filled⟩⟩

theorem isNumeral_of_isAlphanum {c : Char} (alphanumeric : c.isAlphanum = true) :
    isNumeral c = true := by
  rw [isNumeral, alphanumeric, Bool.true_or, Bool.true_or]

theorem isNumeral_of_isSign {c : Char} (sign : isSign c = true) : isNumeral c = true := by
  rw [isNumeral, sign, Bool.or_true, Bool.true_or]

theorem isNumeral_cases {c : Char} (numeral : isNumeral c = true) :
    c.isAlphanum = true ∨ c = '+' ∨ c = '-' ∨ c = '.' := by
  simpa only [isNumeral, isSign, Bool.or_eq_true, beq_iff_eq, or_assoc] using numeral

theorem solid_of_isNumeral {c : Char} (numeral : isNumeral c = true) : Solid c := by
  rcases isNumeral_cases numeral with alphanumeric | rfl | rfl | rfl
  · exact Solid.of_isAlphanum alphanumeric
  all_goals exact ⟨by decide, by decide⟩

theorem isIndicator_of_isNumeral {c : Char} (numeral : isNumeral c = true) : isIndicator c = false := by
  rcases isNumeral_cases numeral with alphanumeric | rfl | rfl | rfl
  · exact isIndicator_of_isAlphanum alphanumeric
  all_goals decide

theorem isAlphanum_of_isDigit {c : Char} (digit : c.isDigit = true) : c.isAlphanum = true := by
  rw [Char.isAlphanum, digit, Bool.or_true]

theorem isAlphanum_of_digit? {c : Char} {digit : Nat} (found : digit? c = some digit) :
    c.isAlphanum = true := by
  have within : ∀ {low high : Char}, (decide (low ≤ c) && decide (c ≤ high)) = true →
      low.toNat ≤ c.toNat ∧ c.toNat ≤ high.toNat := by
    intro low high between
    rwa [Bool.and_eq_true, decide_eq_true_eq, decide_eq_true_eq] at between
  have small : 'a'.toNat = 97 ∧ 'f'.toNat = 102 := by decide
  have large : 'A'.toNat = 65 ∧ 'F'.toNat = 70 := by decide
  rw [digit?] at found
  split at found
  · exact isAlphanum_of_isDigit ‹_›
  · rw [isAlphanum_iff_toNat]
    split at found
    · have range := within ‹_›
      omega
    · split at found
      · have range := within ‹_›
        omega
      · cases found

/-- What reads digits one after the other reads only digits. -/
theorem isAlphanum_of_foldl {read : Option Nat → Char → Option Nat} (fails : ∀ c, read none c = none)
    (reads : ∀ next start c, read start c = some next → c.isAlphanum = true) {digits : List Char}
    {start : Option Nat} {value : Nat} (stands : digits.foldl read start = some value) :
    ∀ c ∈ digits, c.isAlphanum = true := by
  induction digits generalizing start with
  | nil => exact fun c none => nomatch none
  | cons first later inductionHypothesis =>
      rw [List.foldl_cons] at stands
      cases next : read start first with
      | none =>
          rw [next, foldl_none fails] at stands
          cases stands
      | some value =>
          exact List.forall_mem_cons.2 ⟨reads value start first next, inductionHypothesis stands⟩

namespace Numeral

/-- Something in front leaves a numeral a numeral. -/
theorem cons {c : Char} (numeral : isNumeral c = true) {spelling : List Char}
    (others : Numeral spelling) : Numeral (c :: spelling) where
  chars := List.forall_mem_cons.2 ⟨numeral, others.chars⟩
  filled :=
    have ⟨solid, member, alphanumeric⟩ := others.filled
    ⟨solid, List.mem_cons_of_mem _ member, alphanumeric⟩

theorem of_natural? {base value : Nat} {digits : List Char}
    (stands : natural? base digits = some value) : Numeral digits := by
  rw [natural?] at stands
  split at stands
  · cases stands
  · rename_i filled
    have alphanumeric := isAlphanum_of_foldl (fun _ => rfl) (fun next => ?_) stands
    · rcases digits with _ | ⟨c, later⟩
      · exact absurd rfl filled
      · exact ⟨fun c member => isNumeral_of_isAlphanum (alphanumeric c member), c,
          List.mem_cons_self, alphanumeric c List.mem_cons_self⟩
    · intro start c reads
      cases start with
      | none => cases reads
      | some start =>
          cases found : digit? c with
          | none =>
              rw [found] at reads
              cases reads
          | some digit => exact isAlphanum_of_digit? found

theorem of_integer? {base : Nat} {value : Int} {spelling : List Char}
    (stands : integer? base spelling = some value) : Numeral spelling := by
  by_cases negative : ∃ digits, spelling = '-' :: digits
  · rcases negative with ⟨digits, rfl⟩
    rw [integer?] at stands
    split at stands
    · cases stands
    · exact cons (by decide) (of_natural? ‹_›)
  · by_cases positive : ∃ digits, spelling = '+' :: digits
    · rcases positive with ⟨digits, rfl⟩
      rw [integer?] at stands
      split at stands
      · cases stands
      · exact cons (by decide) (of_natural? ‹_›)
    · rw [integer?] at stands
      · split at stands
        · cases stands
        · exact of_natural? ‹_›
      · exact fun digits same => negative ⟨digits, same⟩
      · exact fun digits same => positive ⟨digits, same⟩

theorem of_markedInteger? {value : Int} {spelling : List Char}
    (stands : markedInteger? spelling = some value) : Numeral spelling := by
  rw [markedInteger?.eq_def] at stands
  split at stands
  · exact cons (by decide) (cons (by decide) (of_integer? stands))
  · exact cons (by decide) (cons (by decide) (of_integer? stands))
  · exact cons (by decide) (of_integer? stands)
  · cases stands

/-- A spelling without the sign that it may begin with. -/
def unsigned (spelling : List Char) : List Char :=
  match spelling with
  | c :: rest => if isSign c then rest else spelling
  | [] => []

theorem eq_unsigned (spelling : List Char) :
    spelling = unsigned spelling ∨
      ∃ sign, isSign sign = true ∧ spelling = sign :: unsigned spelling := by
  rcases spelling with _ | ⟨c, rest⟩
  · exact .inl rfl
  · by_cases sign : isSign c = true
    · exact .inr ⟨c, sign, congrArg (c :: ·) (if_pos sign).symm⟩
    · exact .inl (if_neg sign).symm

theorem isNumeral_of_isDigit {c : Char} (digit : c.isDigit = true) : isNumeral c = true :=
  isNumeral_of_isAlphanum (isAlphanum_of_isDigit digit)

/-- The sign of a power, if there is one, and its digits. -/
theorem isNumeral_of_unsigned {power : List Char}
    (digits : ∀ c ∈ unsigned power, c.isDigit = true) : ∀ c ∈ power, isNumeral c = true := by
  have numerals : ∀ c ∈ unsigned power, isNumeral c = true :=
    fun c member => isNumeral_of_isDigit (digits c member)
  rcases eq_unsigned power with same | ⟨sign, isSign, same⟩
  · rw [same]
    exact numerals
  · rw [same]
    exact List.forall_mem_cons.2 ⟨isNumeral_of_isSign isSign, numerals⟩

/-- Digits, perhaps a point with digits behind it, and perhaps an exponent. -/
structure DecimalParts (spelling whole fraction exponent : List Char) : Prop where
  inWhole : ∀ c ∈ whole, c.isDigit = true
  inFraction : ∀ c ∈ fraction, c.isDigit = true
  inExponent : ∀ c ∈ exponent, isNumeral c = true
  filled : whole ≠ [] ∨ fraction ≠ []
  spelled : spelling = whole ++ (fraction ++ exponent) ∨
    spelling = whole ++ '.' :: (fraction ++ exponent)

theorem exists_decimalParts {spelling : List Char} (stands : isDecimal spelling = true) :
    ∃ whole fraction exponent, DecimalParts (unsigned spelling) whole fraction exponent := by
  have digits : ∀ text : List Char, ∀ c ∈ text.takeWhile Char.isDigit, c.isDigit = true :=
    fun _ => List.all_eq_true.1 List.all_takeWhile
  rw [isDecimal.eq_def] at stands
  extract_lets rest whole afterWhole at stands
  split at stands
  rename_i fraction exponent parts
  extract_lets ends at stands
  rw [Bool.and_eq_true, Bool.not_eq_true', Bool.and_eq_false_iff, List.isEmpty_eq_false_iff,
    List.isEmpty_eq_false_iff] at stands
  have spelled : unsigned spelling = whole ++ afterWhole := by
    obtain ⟨behind, split⟩ : whole <+: rest := List.takeWhile_prefix _
    have after : afterWhole = behind := by
      simp only [afterWhole]
      rw [← split, List.drop_left]
    rw [after, split]
    rfl
  have inExponent : ∀ c ∈ exponent, isNumeral c = true := by
    have ended : ends = true := stands.2
    clear stands parts
    rcases exponent with _ | ⟨mark, power⟩
    · exact List.forall_mem_nil _
    · have ended : ((mark == 'e' || mark == 'E') && !(unsigned power).isEmpty &&
          (unsigned power).all Char.isDigit) = true := ended
      simp only [Bool.and_eq_true, Bool.or_eq_true, beq_iff_eq, List.all_eq_true] at ended
      have isMark : isNumeral mark = true := by rcases ended.1.1 with rfl | rfl <;> decide
      exact List.forall_mem_cons.2 ⟨isMark, isNumeral_of_unsigned ended.2⟩
  have inWhole : ∀ c ∈ whole, c.isDigit = true := digits rest
  clear_value ends afterWhole whole rest
  refine ⟨whole, fraction, exponent, inWhole, ?_, inExponent, stands.1, ?_⟩
  all_goals split at parts <;> cases parts
  · exact digits _
  · exact List.forall_mem_nil _
  · exact .inr (by rw [spelled, List.takeWhile_append_dropWhile])
  · exact .inl spelled

theorem DecimalParts.numeral {spelling whole fraction exponent : List Char}
    (parts : DecimalParts spelling whole fraction exponent) : Numeral spelling := by
  have inWhole : ∀ c ∈ whole, isNumeral c = true :=
    fun c member => isNumeral_of_isDigit (parts.inWhole c member)
  have behind : ∀ c ∈ fraction ++ exponent, isNumeral c = true :=
    List.forall_mem_append.2
      ⟨fun c member => isNumeral_of_isDigit (parts.inFraction c member), parts.inExponent⟩
  have filled : ∃ c ∈ whole ++ fraction, c.isAlphanum = true := by
    rcases parts.filled with some | some
    all_goals rcases List.exists_mem_of_ne_nil _ some with ⟨c, member⟩
    · exact ⟨c, List.mem_append_left _ member, isAlphanum_of_isDigit (parts.inWhole c member)⟩
    · exact ⟨c, List.mem_append_right _ member, isAlphanum_of_isDigit (parts.inFraction c member)⟩
  rcases filled with ⟨c, member, alphanumeric⟩
  rw [List.mem_append] at member
  rcases parts.spelled with same | same
  · rw [same]
    exact ⟨List.forall_mem_append.2 ⟨inWhole, behind⟩, c, by grind, alphanumeric⟩
  · rw [same]
    exact ⟨List.forall_mem_append.2 ⟨inWhole, List.forall_mem_cons.2 ⟨by decide, behind⟩⟩, c,
      by grind, alphanumeric⟩

theorem of_isDecimal {spelling : List Char} (stands : isDecimal spelling = true) :
    Numeral spelling := by
  rcases exists_decimalParts stands with ⟨whole, fraction, exponent, parts⟩
  rcases eq_unsigned spelling with same | ⟨sign, isSign, same⟩
  · rw [same]
    exact parts.numeral
  · rw [same]
    exact cons (isNumeral_of_isSign isSign) parts.numeral

theorem of_isReal {spelling : String} (stands : isReal spelling = true) :
    Numeral spelling.toList := by
  rw [isReal, Bool.or_eq_true] at stands
  rcases stands with special | decimal
  · have all : ∀ special ∈ [".inf", ".Inf", ".INF", "+.inf", "+.Inf", "+.INF", "-.inf", "-.Inf",
        "-.INF", ".nan", ".NaN", ".NAN"], Numeral special.toList := by decide
    exact all spelling (List.contains_iff_mem.1 special)
  · exact of_isDecimal decimal

theorem of_truth? {spelling : String} {value : Bool} (stands : truth? spelling = some value) :
    Numeral spelling.toList := by
  have all : ∀ truth ∈ ["true", "True", "TRUE", "false", "False", "FALSE"],
      Numeral truth.toList := by decide
  exact all spelling (mem_of_truth? stands)

/-- Truth values and numbers are spelled with characters of numbers. -/
theorem of_resolves {spelling : String} {value : Value} (resolves : Resolves spelling value)
    (number : TruthOrNumber value) : Numeral spelling.toList := by
  cases resolves with
  | marked reads => exact of_markedInteger? reads
  | boolean reads => exact of_truth? reads
  | integer reads => exact of_integer? reads
  | real reads => exact of_isReal reads
  | null => cases number
  | text => cases number

/-- A number is a bare text. -/
def bare {initial : Char} {others : List Char} (numeral : Numeral (initial :: others)) : Bare where
  initial := initial
  others := others
  solid c member := solid_of_isNumeral (numeral.chars c member)
  notIndicator := isIndicator_of_isNumeral (numeral.chars initial List.mem_cons_self)
  followed separator := by
    rintro rfl
    rcases numeral.filled with ⟨c, member, alphanumeric⟩
    rw [← List.mem_singleton.1 member, isSeparator_of_isAlphanum alphanumeric] at separator
    cases separator
  noColonLast last := absurd (numeral.chars ':' (List.mem_of_getLast? last)) (by decide)

end Numeral

/-- Truth values and numbers are bare texts. -/
theorem exists_bare {spelling : String} (stands : TruthOrNumber (ofPlain spelling)) :
    ∃ bare : Bare, bare.text = spelling := by
  have numeral := Numeral.of_resolves (resolves_ofPlain spelling) stands
  cases chars : spelling.toList with
  | nil =>
      rw [chars] at numeral
      rcases numeral.filled with ⟨c, none, -⟩
      cases none
  | cons initial others =>
      rw [chars] at numeral
      exact ⟨numeral.bare, (congrArg String.ofList chars.symm).trans String.ofList_toList⟩

end Value

end TopicPress.Yaml
