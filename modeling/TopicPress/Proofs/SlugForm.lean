import TopicPress.Proofs.SlugSteps
import TopicPress.Proofs.XmlGrammar

/-!
# The form of an identifier

What can become of a title can be told by its form: words that start with a letter, and words that
would not and therefore have an underscore in front.  Making an identifier of such a text changes
nothing.  That is not plain for the second kind: the underscore in front is dropped like any other and
then put there again, because what is left is still no name.
-/

namespace TopicPress

/-! ## The form of identifiers -/

namespace Slug

/-- The form of identifiers: nothing, or characters of identifiers that start with a letter and do not
end in an underscore, or an underscore before such as start with a digit or a hyphen. -/
inductive IsSlug : List Char → Prop
  | nothing : IsSlug []
  | word {first : Char} {rest : List Char} : (∀ c ∈ first :: rest, isPlain c = true) →
      first.isAlpha = true → (first :: rest).getLast? ≠ some '_' → IsSlug (first :: rest)
  | marked {first : Char} {rest : List Char} : (∀ c ∈ first :: rest, isPlain c = true) →
      first.isDigit = true ∨ first = '-' → (first :: rest).getLast? ≠ some '_' →
      IsSlug ('_' :: first :: rest)

/-- All that is put out are characters of identifiers. -/
theorem isPlain_of_mem_join (title : List Char) :
    ∀ kept waiting, ∀ c ∈ join kept waiting title, isPlain c = true := by
  induction title with
  | nil => simp [join]
  | cons c rest inductionHypothesis =>
      intro kept waiting
      have underscore : isPlain '_' = true := rfl
      rw [join]
      cases stays : isIdCharacter c with
      | true =>
          rw [isIdCharacter_eq] at stays
          cases waiting && kept with
          | true => simpa [underscore, stays] using inductionHypothesis true false
          | false => simpa [stays] using inductionHypothesis true false
      | false => simpa using inductionHypothesis kept true

theorem isSlug_makeName {id : List Char} (plain : ∀ c ∈ id, isPlain c = true)
    (first : ∀ c ∈ id.head?, c ≠ '_') (last : ∀ c ∈ id.getLast?, c ≠ '_') :
    IsSlug (makeName id) := by
  have lastNot : id.getLast? ≠ some '_' := fun same => last '_' same rfl
  cases id with
  | nil => exact .nothing
  | cons c rest =>
      rw [makeName]
      cases letter : c.isAlpha with
      | true => exact .word plain letter lastNot
      | false =>
          refine .marked plain ?_ lastNot
          have here := plain c List.mem_cons_self
          have notFirst := first c rfl
          have small : c.isLower = false := by
            rw [Char.isAlpha, Bool.or_eq_false_iff] at letter
            exact letter.2
          simpa [isPlain, small, notFirst] using here

theorem isSlug_ofChars (title : List Char) : IsSlug (ofChars title) := by
  refine isSlug_makeName ?_ (head?_trimUnderscores _) (getLast?_trimUnderscores _)
  intro c member
  exact isPlain_of_mem_join title false false c (mem_of_mem_trimUnderscores member)

theorem join_of_isPlain {id : List Char} (plain : ∀ c ∈ id, isPlain c = true) :
    join false false id = id := by
  cases id with
  | nil => rfl
  | cons c rest =>
      have whole := join_append_of_isPlain (List.cons_ne_nil c rest) plain [] false false
      rw [List.append_nil] at whole
      rw [whole]
      simp [join]

/-- What has the form of an identifier is its own identifier. -/
theorem ofChars_of_isSlug {id : List Char} (slug : IsSlug id) : ofChars id = id := by
  cases slug with
  | nothing => rfl
  | @word first rest plain letter last =>
      have start : first ≠ '_' := by
        rintro rfl
        cases letter
      have trimmed : trimUnderscores (first :: rest) = first :: rest := by
        refine trimUnderscores_of_ends ?_ ?_
        · simpa using start
        · intro c atEnd same
          exact last (same ▸ atEnd)
      rw [ofChars, join_of_isPlain plain, trimmed, makeName, if_pos letter]
  | @marked first rest plain mark last =>
      have start : first ≠ '_' := by
        rintro rfl
        revert mark
        decide
      have noLetter : first.isAlpha = false := by
        rcases mark with digit | rfl
        · exact isAlpha_of_isDigit digit
        · rfl
      have marked : ∀ c ∈ '_' :: first :: rest, isPlain c = true :=
        List.forall_mem_cons.mpr ⟨rfl, plain⟩
      have trimmed : trimUnderscores ('_' :: first :: rest) = first :: rest := by
        have before : Blank ['_'] := by simp [Blank]
        have after : Blank [] := by simp [Blank]
        have padded := trimUnderscores_padded before after (first :: rest)
        rw [List.append_nil, List.singleton_append] at padded
        rw [padded]
        refine trimUnderscores_of_ends ?_ ?_
        · simpa using start
        · intro c atEnd same
          exact last (same ▸ atEnd)
      rw [ofChars, join_of_isPlain marked, trimmed, makeName, noLetter, if_neg Bool.false_ne_true]

/-- The characters of identifiers by their numbers. -/
theorem isPlain_iff_toNat (c : Char) : isPlain c = true ↔
    (97 ≤ c.toNat ∧ c.toNat ≤ 122) ∨ (48 ≤ c.toNat ∧ c.toNat ≤ 57) ∨ c.toNat = 95 ∨
      c.toNat = 45 := by
  have underscore : c = '_' ↔ c.toNat = 95 := Char.toNat_inj.symm
  have hyphen : c = '-' ↔ c.toNat = 45 := Char.toNat_inj.symm
  simp only [isPlain, Char.isLower, Char.isDigit, Bool.or_eq_true, Bool.and_eq_true,
    decide_eq_true_eq, beq_iff_eq, underscore, hyphen, ge_iff_le, UInt32.le_iff_toNat_le]
  exact or_assoc.trans or_assoc

/-- All characters of identifiers may stand in a name. -/
theorem isNameCharacter_of_isPlain {c : Char} (plain : isPlain c = true) :
    Xml.Grammar.isNameCharacter c = true := by
  rw [isPlain_iff_toNat] at plain
  simp only [Xml.Grammar.isNameCharacter, Xml.Grammar.isNameStart, Xml.Grammar.inRanges,
    Xml.Grammar.nameStartRanges, Xml.Grammar.nameRanges, List.any_cons, List.any_nil,
    Bool.or_false, Bool.or_eq_true, Bool.and_eq_true, decide_eq_true_eq]
  omega

theorem isNameStart_of_isLower {c : Char} (lower : c.isLower = true) :
    Xml.Grammar.isNameStart c = true := by
  simp only [Char.isLower, Bool.and_eq_true, decide_eq_true_eq, ge_iff_le,
    UInt32.le_iff_toNat_le] at lower
  have small : 97 ≤ c.toNat ∧ c.toNat ≤ 122 := lower
  simp only [Xml.Grammar.isNameStart, Xml.Grammar.inRanges, Xml.Grammar.nameStartRanges,
    List.any_cons, List.any_nil, Bool.or_false, Bool.or_eq_true, Bool.and_eq_true,
    decide_eq_true_eq]
  omega

/-- An identifier that is not empty is a name. -/
theorem isName_of_isSlug {id : List Char} (slug : IsSlug id) (notEmpty : id ≠ []) :
    Xml.Grammar.isName id = true := by
  cases slug with
  | nothing => exact absurd rfl notEmpty
  | @word first rest plain letter last =>
      rw [List.forall_mem_cons] at plain
      rw [Xml.Grammar.isName, Bool.and_eq_true, List.all_eq_true]
      have lower : first.isLower = true := by
        rw [Char.isAlpha, isUpper_of_isPlain plain.1, Bool.false_or] at letter
        exact letter
      exact ⟨isNameStart_of_isLower lower,
        fun c member => isNameCharacter_of_isPlain (plain.2 c member)⟩
  | @marked first rest plain mark last =>
      rw [Xml.Grammar.isName, Bool.and_eq_true, List.all_eq_true]
      exact ⟨rfl, fun c member => isNameCharacter_of_isPlain (plain c member)⟩

theorem isPlain_of_isSlug {id : List Char} (slug : IsSlug id) : ∀ c ∈ id, isPlain c = true := by
  cases slug with
  | nothing => simp
  | word plain letter last => exact plain
  | marked plain mark last => exact List.forall_mem_cons.mpr ⟨rfl, plain⟩

/-- An identifier that is not empty starts with a letter or with an underscore. -/
theorem head?_of_isSlug {id : List Char} (slug : IsSlug id) :
    ∀ c ∈ id.head?, c.isAlpha = true ∨ c = '_' := by
  cases slug with
  | nothing => simp
  | word plain letter last => simpa using Or.inl letter
  | marked plain mark last => simp

end Slug

theorem isSlug_slugify (title : String) : Slug.IsSlug (slugify title).toList := by
  rw [slugify, String.toList_ofList]
  exact Slug.isSlug_ofChars title.toList

theorem slugify_of_isSlug {id : String} (slug : Slug.IsSlug id.toList) : slugify id = id := by
  rw [slugify, Slug.ofChars_of_isSlug slug, String.ofList_toList]

/-- Making identifiers is a projection: what is made is empty or a name in XML of the characters of
identifiers, it is its own identifier, and the texts that are their own identifiers are those of one
form and those that are the identifier of some title. -/
theorem slugify_projects :
    (∀ title, slugify title = "" ∨
      (Xml.Grammar.isName (slugify title).toList = true ∧
        (∀ c ∈ (slugify title).toList, Slug.isPlain c = true) ∧
        ∀ c ∈ (slugify title).toList.head?, c.isAlpha = true ∨ c = '_')) ∧
      (∀ title, slugify (slugify title) = slugify title) ∧
      (∀ id, slugify id = id ↔ Slug.IsSlug id.toList) ∧
      ∀ id, (∃ title, slugify title = id) ↔ Slug.IsSlug id.toList := by
  refine ⟨?_, ?_, ?_, ?_⟩
  · intro title
    have slug := isSlug_slugify title
    by_cases empty : slugify title = ""
    · exact Or.inl empty
    · have notEmpty : (slugify title).toList ≠ [] := by
        rwa [Ne, String.toList_eq_nil_iff]
      exact Or.inr ⟨Slug.isName_of_isSlug slug notEmpty, Slug.isPlain_of_isSlug slug,
        Slug.head?_of_isSlug slug⟩
  · intro title
    exact slugify_of_isSlug (isSlug_slugify title)
  · intro id
    constructor
    · intro same
      rw [← same]
      exact isSlug_slugify id
    · exact slugify_of_isSlug
  · intro id
    constructor
    · rintro ⟨title, rfl⟩
      exact isSlug_slugify title
    · intro slug
      exact ⟨id, slugify_of_isSlug slug⟩

end TopicPress
