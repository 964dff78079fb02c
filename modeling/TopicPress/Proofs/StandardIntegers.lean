import Mathlib.Data.List.Basic
import Mathlib.Data.List.Induction
import TopicPress.Yaml.Value

/-!
# Integers in decimal

An integer is written in decimal in one way: with a minus sign if it is negative, and without zeros
in front.  Among the spellings that stand for the integer this is the one that is given back.
-/

namespace TopicPress.Yaml

/-- The digits of a natural number: at least one, and no zero in front of others. -/
structure StandardDigits (digits : List Char) : Prop where
  filled : digits ≠ []
  isDigit : ∀ c ∈ digits, c.isDigit = true
  noZero : digits.head? = some '0' → digits = ['0']

/-- An integer as it is written in decimal; there is no negative zero. -/
inductive StandardInteger : List Char → Prop
  | natural {digits : List Char} (standard : StandardDigits digits) : StandardInteger digits
  | negative {digits : List Char} (standard : StandardDigits digits) (nonzero : digits ≠ ['0']) :
      StandardInteger ('-' :: digits)

/-! ## Digits -/

theorem eq_zero_of_toDigits {number : Nat} (zero : Nat.toDigits 10 number = ['0']) : number = 0 := by
  rw [← @Nat.ofDigitChars_ten_toDigits number, zero]
  rfl

theorem standardDigits_toDigits (number : Nat) : StandardDigits (Nat.toDigits 10 number) where
  filled := Nat.toDigits_ne_nil
  isDigit _ member := Nat.isDigit_of_mem_toDigits (by decide) (by decide) member
  noZero := by
    induction number using Nat.base_induction 10 (by decide) with
    | single digit small =>
        rw [Nat.toDigits_of_lt_base small]
        exact fun zero => congrArg (fun c => [c]) (Option.some.inj zero)
    | digit front last small positive inductionHypothesis =>
        rw [← Nat.toDigits_append_toDigits (by decide) positive small,
          List.head?_append_of_ne_nil _ Nat.toDigits_ne_nil]
        exact fun zero =>
          absurd (eq_zero_of_toDigits (inductionHypothesis zero)) (Nat.ne_of_gt positive)

theorem digitChar_of_isDigit {c : Char} (digit : c.isDigit = true) :
    Nat.digitChar (c.toNat - '0'.toNat) = c ∧ c.toNat - '0'.toNat < 10 := by
  delta Char.isDigit at digit
  simp only [Bool.and_eq_true, decide_eq_true_eq, UInt32.le_iff_toNat_le, ge_iff_le] at digit
  change 48 ≤ c.toNat ∧ c.toNat ≤ 57 at digit
  have zero : '0'.toNat = 48 := rfl
  have small : c.toNat - '0'.toNat < 10 := by omega
  refine ⟨Char.toNat_inj.1 ?_, small⟩
  rw [Nat.toNat_digitChar_of_lt_ten small]
  omega

namespace StandardDigits

variable {digits : List Char}

theorem ne_cons (standard : StandardDigits digits) {c : Char} (noDigit : c.isDigit = false)
    (rest : List Char) : digits ≠ c :: rest := by
  rintro rfl
  have digit := standard.isDigit c List.mem_cons_self
  rw [noDigit] at digit
  cases digit

/-- Digits without zeros in front are those of their value. -/
theorem toDigits_ofDigitChars (standard : StandardDigits digits) :
    Nat.toDigits 10 (Nat.ofDigitChars 10 digits 0) = digits := by
  induction digits using List.reverseRecOn with
  | nil => exact absurd rfl standard.filled
  | append_singleton front last inductionHypothesis =>
      have ⟨last_eq, small⟩ := digitChar_of_isDigit (standard.isDigit last (by simp))
      rw [Nat.ofDigitChars_append, Nat.ofDigitChars_cons, Nat.ofDigitChars_nil]
      cases front with
      | nil =>
          rw [Nat.ofDigitChars_nil, Nat.mul_zero, Nat.zero_add, Nat.toDigits_of_lt_base small,
            last_eq, List.nil_append]
      | cons first others =>
          have noZero : first ≠ '0' := by
            rintro rfl
            have alone := standard.noZero rfl
            simp at alone
          have frontStandard : StandardDigits (first :: others) :=
            ⟨List.cons_ne_nil _ _, fun c member => standard.isDigit c (List.mem_append_left _ member),
              fun zero => absurd (Option.some.inj zero) noZero⟩
          have frontDigits := inductionHypothesis frontStandard
          have positive : 0 < Nat.ofDigitChars 10 (first :: others) 0 := by
            rw [Nat.pos_iff_ne_zero]
            intro zero
            rw [zero, Nat.toDigits_zero] at frontDigits
            exact noZero (List.cons.inj frontDigits).1.symm
          rw [← Nat.toDigits_append_toDigits (by decide) positive small, frontDigits,
            Nat.toDigits_of_lt_base small, last_eq]

theorem positive (standard : StandardDigits digits) (nonzero : digits ≠ ['0']) :
    0 < Nat.ofDigitChars 10 digits 0 := by
  rw [Nat.pos_iff_ne_zero]
  intro zero
  have same := standard.toDigits_ofDigitChars
  rw [zero, Nat.toDigits_zero] at same
  exact nonzero same.symm

end StandardDigits

theorem StandardInteger.exists_isDigit {spelling : List Char} (standard : StandardInteger spelling) :
    ∃ c ∈ spelling, c.isDigit = true := by
  cases standard with
  | natural standard =>
      rcases List.exists_mem_of_ne_nil _ standard.filled with ⟨c, member⟩
      exact ⟨c, member, standard.isDigit c member⟩
  | negative standard nonzero =>
      rcases List.exists_mem_of_ne_nil _ standard.filled with ⟨c, member⟩
      exact ⟨c, List.mem_cons_of_mem _ member, standard.isDigit c member⟩

namespace Value

theorem natural?_of_isDigit {digits : List Char} (filled : digits ≠ [])
    (isDigit : ∀ c ∈ digits, c.isDigit = true) :
    natural? 10 digits = some (Nat.ofDigitChars 10 digits 0) := by
  rw [natural?, if_neg (by rwa [List.isEmpty_iff])]
  generalize 0 = start
  clear filled
  induction digits generalizing start with
  | nil => rfl
  | cons c later inductionHypothesis =>
      have digit := isDigit c List.mem_cons_self
      have found : digit? c = some (c.toNat - '0'.toNat) := if_pos digit
      rw [List.foldl_cons, Nat.ofDigitChars_cons, Nat.mul_comm 10]
      simp only [found, if_pos (digitChar_of_isDigit digit).2]
      exact inductionHypothesis (fun other member => isDigit other (List.mem_cons_of_mem _ member)) _

/-! ## Integers -/

theorem toList_toString_natural (number : Nat) :
    (toString (number : Int)).toList = Nat.toDigits 10 number := by
  rw [Int.toString_eq_repr, Int.repr_eq_if, if_pos (Int.natCast_nonneg _), Int.toNat_natCast,
    Nat.toList_repr]

theorem toList_toString_negative {number : Nat} (positive : 0 < number) :
    (toString (-(number : Int))).toList = '-' :: Nat.toDigits 10 number := by
  rw [Int.toString_eq_repr, Int.repr_eq_if, if_neg (by omega), Int.neg_neg, Int.toNat_natCast,
    String.toList_append, Nat.toList_repr]
  rfl

/-- An integer is written in its standard spelling. -/
theorem standardInteger_toString (value : Int) : StandardInteger (toString value).toList := by
  rcases value.eq_nat_or_neg with ⟨number, rfl | rfl⟩
  · rw [toList_toString_natural]
    exact .natural (standardDigits_toDigits number)
  · rcases Nat.eq_zero_or_pos number with rfl | positive
    · exact .natural (standardDigits_toDigits 0)
    · rw [toList_toString_negative positive]
      exact .negative (standardDigits_toDigits number)
        (fun zero => absurd (eq_zero_of_toDigits zero) (Nat.ne_of_gt positive))

/-- An integer that is spelled in the standard way is written as it is spelled. -/
theorem toString_of_standardInteger {spelling : List Char} {value : Int}
    (standard : StandardInteger spelling) (stands : integer? 10 spelling = some value) :
    (toString value).toList = spelling := by
  cases standard with
  | natural standard =>
      rw [integer?, natural?_of_isDigit standard.filled standard.isDigit] at stands
      · simp only [Bool.false_eq_true, if_false] at stands
        split at stands
        · cases stands
          rw [toList_toString_natural, standard.toDigits_ofDigitChars]
        · cases stands
      · exact fun rest => standard.ne_cons (by decide) rest
      · exact fun rest => standard.ne_cons (by decide) rest
  | negative standard nonzero =>
      rw [integer?, natural?_of_isDigit standard.filled standard.isDigit] at stands
      simp only [if_true] at stands
      split at stands
      · cases stands
        rw [toList_toString_negative (standard.positive nonzero), standard.toDigits_ofDigitChars]
      · cases stands

theorem markedInteger?_of_standard {spelling : List Char} (standard : StandardInteger spelling) :
    markedInteger? spelling = none := by
  cases standard with
  | natural standard =>
      unfold markedInteger?
      split
      · exact absurd (standard.isDigit 'x' (by simp)) (by decide)
      · exact absurd (standard.isDigit 'o' (by simp)) (by decide)
      · exact absurd (standard.isDigit '+' (by simp)) (by decide)
      · rfl
  | negative standard nonzero => rfl

end Value

end TopicPress.Yaml
