import TopicPress.Proofs.JsonGrammar

/-!
# Written JSON is read as what was written

What is written for a value is JSON, and it stands for that value and for nothing else.  The second
part is shown of a text with anything after it: no other beginning of it is a value.  A written value
begins with a quote, a bracket or a brace, which says which production it is; in a string each
character is told from the next by the backslash or its absence, and so is the closing quote.
-/

namespace TopicPress.Json

mutual

/-- What a value is. -/
def Value.term : Value → Term
  | .string text => .string text
  | .array elements => .array (elementsTerms elements)
  | .object members => .object (membersTerms members)

def elementsTerms : List Value → List Term
  | [] => []
  | element :: rest => element.term :: elementsTerms rest

def membersTerms : List (String × Value) → List (String × Term)
  | [] => []
  | (name, value) :: rest => (name, value.term) :: membersTerms rest

end

namespace Grammar

/-! ## Characters -/

theorem plain_of_escape {c : Char} (noQuote : c ≠ '"') (noBackslash : c ≠ '\\')
    (large : ¬ c.toNat < 0x20) : Plain c :=
  ⟨Nat.le_of_not_lt large, noQuote, noBackslash⟩

/-- A character is written as it is, with a letter, or with its number. -/
theorem escape_cases (c : Char) :
    (escape c = [c] ∧ Plain c) ∨
      (∃ letter, escape c = ['\\', letter] ∧ (letter, c) ∈ letters) ∨
      (escape c = numericEscape c ∧ c.toNat < 0x20) := by
  unfold escape
  split
  · exact Or.inr (Or.inl ⟨_, rfl, by decide⟩)
  · exact Or.inr (Or.inl ⟨_, rfl, by decide⟩)
  · exact Or.inr (Or.inl ⟨_, rfl, by decide⟩)
  · exact Or.inr (Or.inl ⟨_, rfl, by decide⟩)
  · exact Or.inr (Or.inl ⟨_, rfl, by decide⟩)
  · exact Or.inr (Or.inl ⟨_, rfl, by decide⟩)
  · exact Or.inr (Or.inl ⟨_, rfl, by decide⟩)
  · rename_i noQuote noBackslash _ _ _ _ _
    split
    · rename_i small
      exact Or.inr (Or.inr ⟨rfl, small⟩)
    · rename_i large
      exact Or.inl ⟨rfl, plain_of_escape noQuote noBackslash large⟩

theorem hexValue?_digitChar : ∀ n < 16, hexValue? (Nat.digitChar n) = some n := by
  decide

/-- The number of a control character is its unit. -/
theorem codeUnit_digits {n : Nat} (small : n < 0x20) :
    CodeUnit ['0', '0', Nat.digitChar (n / 16), Nat.digitChar (n % 16)] n := by
  have zero : hexValue? '0' = some 0 := by decide
  have whole : ((0 * 16 + 0) * 16 + n / 16) * 16 + n % 16 = n := by omega
  have unit := CodeUnit.intro zero zero (hexValue?_digitChar (n / 16) (by omega))
    (hexValue?_digitChar (n % 16) (by omega))
  rwa [whole] at unit

theorem CodeUnit.unique {digits : List Char} {first second : Nat} (one : CodeUnit digits first)
    (other : CodeUnit digits second) : first = second := by
  cases one with
  | intro a b c d =>
      cases other with
      | intro a' b' c' d' => simp_all

theorem CodeUnit.length {digits : List Char} {unit : Nat} (given : CodeUnit digits unit) :
    digits.length = 4 := by
  cases given
  rfl

/-- What a letter after a backslash stands for is determined, and no letter begins a number. -/
theorem letters_unique : ∀ entry ∈ letters, ∀ other ∈ letters, entry.1 = other.1 → entry = other := by
  decide

theorem letters_ne_u : ∀ entry ∈ letters, entry.1 ≠ 'u' := by
  decide

private theorem not_surrogate {n : Nat} (small : n < 0x20) :
    Encoding.isHighSurrogate n = false ∧ Encoding.isLowSurrogate n = false := by
  simp only [Encoding.isHighSurrogate, Encoding.isLowSurrogate, Bool.and_eq_false_iff,
    decide_eq_false_iff_not]
  omega

/-- What is written for a character stands for it. -/
theorem character_escape (c : Char) : Character (escape c) c := by
  rcases escape_cases c with ⟨written, plain⟩ | ⟨letter, written, member⟩ | ⟨written, small⟩
  · rw [written]
    exact .plain plain
  · rw [written]
    exact .letter member
  · have single := not_surrogate small
    have derived := Character.unit (codeUnit_digits small) single.1 single.2
    rw [Char.ofNat_toNat] at derived
    rw [written]
    exact derived

theorem characters_flatMap (text : List Char) : Characters (text.flatMap escape) text := by
  induction text with
  | nil => exact .nil
  | cons c rest inductionHypothesis =>
      rw [List.flatMap_cons]
      exact .cons (character_escape c) inductionHypothesis

section

variable {c d : Char} {spelling rest after : List Char}

/-- No character begins with the quote that ends a string. -/
theorem Character.ne_quote (derived : Character spelling d) : spelling ++ rest ≠ '"' :: after := by
  intro same
  cases derived with
  | plain plain =>
      injection same with first
      exact plain.noQuote first
  | letter _ => injection same with first; cases first
  | unit _ _ _ => injection same with first; cases first
  | pair _ _ _ _ => injection same with first; cases first

/-- A character that stands for itself is no beginning of another one. -/
theorem Character.of_plain (derived : Character spelling d) (plain : Plain c)
    (same : spelling ++ rest = c :: after) : spelling = [c] ∧ d = c := by
  cases derived with
  | plain _ =>
      injection same with first
      exact ⟨congrArg (fun other => [other]) first, first⟩
  | letter _ =>
      injection same with first
      exact absurd first.symm plain.noBackslash
  | unit _ _ _ =>
      injection same with first
      exact absurd first.symm plain.noBackslash
  | pair _ _ _ _ =>
      injection same with first
      exact absurd first.symm plain.noBackslash

/-- Behind a backslash one of the letters is the whole spelling. -/
theorem Character.of_letter (derived : Character spelling d) {letter : Char}
    (member : (letter, c) ∈ letters) (same : spelling ++ rest = '\\' :: letter :: after) :
    spelling = ['\\', letter] ∧ d = c := by
  cases derived with
  | plain other =>
      injection same with first
      exact absurd first other.noBackslash
  | letter other =>
      injection same with _ others
      injection others with first
      cases letters_unique _ other _ member first
      exact ⟨rfl, rfl⟩
  | unit _ _ _ =>
      injection same with _ others
      injection others with first
      exact absurd first.symm (letters_ne_u _ member)
  | pair _ _ _ _ =>
      injection same with _ others
      injection others with first
      exact absurd first.symm (letters_ne_u _ member)

/-- The digits of a number that is no surrogate are the whole spelling. -/
theorem Character.of_digits (derived : Character spelling d) {digits : List Char} {n : Nat}
    (given : CodeUnit digits n) (noHigh : Encoding.isHighSurrogate n = false)
    (same : spelling ++ rest = '\\' :: 'u' :: (digits ++ after)) :
    spelling = '\\' :: 'u' :: digits ∧ d = Char.ofNat n := by
  cases derived with
  | plain other =>
      injection same with first
      exact absurd first other.noBackslash
  | letter member =>
      injection same with _ others
      injection others with first
      exact absurd first (letters_ne_u _ member)
  | @unit otherDigits unit other _ _ =>
      have digitsSame : otherDigits ++ rest = digits ++ after :=
        (List.cons.inj (List.cons.inj same).2).2
      have parts := List.append_inj digitsSame (other.length.trans given.length.symm)
      exact ⟨by rw [parts.1], congrArg Char.ofNat (other.unique (parts.1 ▸ given))⟩
  | @pair highDigits lowDigits high low other isHigh _ _ =>
      have digitsSame : highDigits ++ ('\\' :: 'u' :: lowDigits ++ rest) = digits ++ after := by
        rw [← List.append_assoc]
        exact (List.cons.inj (List.cons.inj same).2).2
      have parts := List.append_inj digitsSame (other.length.trans given.length.symm)
      rw [other.unique (parts.1 ▸ given), noHigh] at isHigh
      cases isHigh

/-- The first character that is read is the one that was written. -/
theorem Character.of_escape (derived : Character spelling d)
    (same : spelling ++ rest = escape c ++ after) : spelling = escape c ∧ d = c := by
  rcases escape_cases c with ⟨written, plain⟩ | ⟨letter, written, member⟩ | ⟨written, small⟩
  · rw [written] at same ⊢
    exact derived.of_plain plain same
  · rw [written] at same ⊢
    exact derived.of_letter member same
  · rw [written] at same ⊢
    have read := derived.of_digits (codeUnit_digits small) (not_surrogate small).1 same
    rwa [Char.ofNat_toNat] at read

end

/-- Up to the closing quote, what is written stands for its text and for nothing else. -/
theorem Characters.of_flatMap {written : List Char} :
    ∀ {body text rest after : List Char}, Characters body text →
      body ++ '"' :: rest = written.flatMap escape ++ '"' :: after →
      body = written.flatMap escape ∧ text = written ∧ rest = after := by
  induction written with
  | nil =>
      intro body text rest after derived same
      cases derived with
      | nil => exact ⟨rfl, rfl, (List.cons.inj same).2⟩
      | cons first _ =>
          rw [List.append_assoc] at same
          exact absurd same first.ne_quote
  | cons c later inductionHypothesis =>
      intro body text rest after derived same
      rw [List.flatMap_cons, List.append_assoc] at same
      cases derived with
      | nil => exact absurd same.symm (character_escape c).ne_quote
      | cons first inner =>
          rw [List.append_assoc] at same
          rcases first.of_escape same with ⟨rfl, rfl⟩
          rcases inductionHypothesis inner (List.append_cancel_left same) with ⟨rfl, rfl, others⟩
          exact ⟨by rw [List.flatMap_cons], rfl, others⟩

/-! ## White space and first characters -/

/-- White space in front of the same text is the same. -/
theorem blank_append_inj {space : List Char} (blank : Blank space) {a b : Char}
    (solid : a ∉ blanks) (otherSolid : b ∉ blanks) {rest after : List Char} :
    ∀ {other : List Char}, Blank other → space ++ a :: rest = other ++ b :: after →
      space = other ∧ a = b ∧ rest = after := by
  induction space with
  | nil =>
      intro other otherBlank same
      cases other with
      | nil => exact ⟨rfl, List.cons.inj same⟩
      | cons c later =>
          have first : a = c := (List.cons.inj same).1
          exact absurd (first ▸ otherBlank c List.mem_cons_self) solid
  | cons c later inductionHypothesis =>
      intro other otherBlank same
      cases other with
      | nil =>
          have first : c = b := (List.cons.inj same).1
          exact absurd (first ▸ blank c List.mem_cons_self) otherSolid
      | cons d otherLater =>
          rcases List.cons.inj same with ⟨rfl, others⟩
          rcases inductionHypothesis (fun x member => blank x (List.mem_cons_of_mem _ member))
            (fun x member => otherBlank x (List.mem_cons_of_mem _ member)) others with
            ⟨rfl, equal⟩
          exact ⟨rfl, equal⟩

theorem blank_nil : Blank [] := fun _ member => absurd member List.not_mem_nil

/-- The characters that a value begins with, digits apart. -/
def initials : List Char := ['n', 't', 'f', '-', '"', '[', '\x7b']

theorem Number.first {spelling : List Char} (number : Number spelling) :
    ∃ first more, spelling = first :: more ∧ (first = '-' ∨ first.isDigit = true) := by
  cases number with
  | @intro sign integer fraction exponent signed whole _ _ =>
      rcases List.mem_cons.1 signed with rfl | minus
      · cases whole with
        | zero => exact ⟨_, _, rfl, Or.inr (by decide)⟩
        | positive digit _ _ => exact ⟨_, _, rfl, Or.inr digit⟩
      · cases List.mem_singleton.1 minus
        exact ⟨_, _, rfl, Or.inl rfl⟩

theorem Spells.first {spelling : List Char} {term : Term} (derived : Spells spelling term) :
    ∃ first more, spelling = first :: more ∧ (first ∈ initials ∨ first.isDigit = true) := by
  cases derived with
  | number number =>
      rcases number.first with ⟨first, more, same, minus | digit⟩
      · exact ⟨first, more, same, Or.inl (minus ▸ by decide)⟩
      · exact ⟨first, more, same, Or.inr digit⟩
  | _ => exact ⟨_, _, rfl, Or.inl (by decide)⟩

theorem not_mem_blanks_of_begins {c : Char} (begins : c ∈ initials ∨ c.isDigit = true) :
    c ∉ blanks := by
  intro blank
  have noInitial : initials.all (fun other => !blanks.contains other) = true := by decide
  have noDigit : blanks.all (fun other => !other.isDigit) = true := by decide
  rcases begins with initial | digit
  · have notBlank := List.all_eq_true.1 noInitial c initial
    rw [List.contains_iff_mem.2 blank] at notBlank
    cases notBlank
  · have notDigit := List.all_eq_true.1 noDigit c blank
    rw [digit] at notDigit
    cases notDigit

/-- A character in an array or an object that neither white space nor a value begins with. -/
structure Separates (c : Char) : Prop where
  noInitial : c ∉ initials
  noDigit : c.isDigit = false
  solid : c ∉ blanks

theorem separates_bracket : Separates ']' := ⟨by decide, by decide, by decide⟩

theorem separates_brace : Separates '\x7d' := ⟨by decide, by decide, by decide⟩

/-- Where a value comes next there is nothing else. -/
theorem Spells.ne_separates {spelling : List Char} {term : Term} (derived : Spells spelling term)
    {space other rest after : List Char} (blank : Blank space) (otherBlank : Blank other) {c : Char}
    (separates : Separates c) : space ++ (spelling ++ rest) ≠ other ++ c :: after := by
  intro same
  rcases derived.first with ⟨first, more, rfl, begins⟩
  rcases blank_append_inj blank (not_mem_blanks_of_begins begins) separates.solid otherBlank same
    with ⟨-, rfl, -⟩
  rcases begins with initial | digit
  · exact separates.noInitial initial
  · rw [separates.noDigit] at digit
    cases digit

theorem SpellsElements.ne_separates {body : List Char} {elements : List Term}
    (derived : SpellsElements body elements) {other rest after : List Char}
    (otherBlank : Blank other) {c : Char} (separates : Separates c) :
    body ++ rest ≠ other ++ c :: after := by
  cases derived with
  | last blank spelled _ =>
      rw [List.append_assoc, List.append_assoc]
      exact spelled.ne_separates blank otherBlank separates
  | more blank spelled _ _ =>
      rw [List.append_assoc, List.append_assoc]
      exact spelled.ne_separates blank otherBlank separates

theorem SpellsMembers.ne_separates {body : List Char} {members : List (String × Term)}
    (derived : SpellsMembers body members) {other rest after : List Char}
    (otherBlank : Blank other) {c : Char} (separates : Separates c) :
    body ++ rest ≠ other ++ c :: after := by
  have noQuote : '"' ≠ c := by
    rintro rfl
    exact separates.noInitial (by decide)
  intro same
  cases derived with
  | last blank _ _ _ _ _ =>
      rw [List.append_assoc, List.cons_append] at same
      exact noQuote (blank_append_inj blank (by decide) separates.solid otherBlank same).2.1
  | more blank _ _ _ _ _ _ =>
      rw [List.append_assoc, List.cons_append] at same
      exact noQuote (blank_append_inj blank (by decide) separates.solid otherBlank same).2.1

/-- A number does not begin as a string, an array or an object does. -/
theorem Number.ne_cons {spelling : List Char} (number : Number spelling) {c : Char}
    (noMinus : c ≠ '-') (noDigit : c.isDigit = false) {rest after : List Char} :
    spelling ++ rest ≠ c :: after := by
  intro same
  rcases number.first with ⟨first, more, rfl, minus | digit⟩
  · exact noMinus ((List.cons.inj same).1 ▸ minus)
  · rw [(List.cons.inj same).1, noDigit] at digit
    cases digit

section

variable {spelling rest after : List Char} {term : Term}

theorem Spells.of_quote (derived : Spells spelling term) (same : spelling ++ rest = '"' :: after) :
    ∃ body text, Characters body text ∧ spelling = '"' :: (body ++ ['"']) ∧
      term = .string (String.ofList text) := by
  cases derived with
  | string characters => exact ⟨_, _, characters, rfl, rfl⟩
  | number number => exact absurd same (number.ne_cons (by decide) (by decide))
  | _ => cases (List.cons.inj same).1

theorem Spells.of_bracket (derived : Spells spelling term) (same : spelling ++ rest = '[' :: after) :
    ∃ body, spelling = '[' :: (body ++ [']']) ∧
      ((Blank body ∧ term = .array []) ∨
        ∃ elements, SpellsElements body elements ∧ term = .array elements) := by
  cases derived with
  | emptyArray blank => exact ⟨_, rfl, Or.inl ⟨blank, rfl⟩⟩
  | array elements => exact ⟨_, rfl, Or.inr ⟨_, elements, rfl⟩⟩
  | number number => exact absurd same (number.ne_cons (by decide) (by decide))
  | _ => cases (List.cons.inj same).1

theorem Spells.of_brace (derived : Spells spelling term)
    (same : spelling ++ rest = '\x7b' :: after) :
    ∃ body, spelling = '\x7b' :: (body ++ ['\x7d']) ∧
      ((Blank body ∧ term = .object []) ∨
        ∃ members, SpellsMembers body members ∧ term = .object members) := by
  cases derived with
  | emptyObject blank => exact ⟨_, rfl, Or.inl ⟨blank, rfl⟩⟩
  | object members => exact ⟨_, rfl, Or.inr ⟨_, members, rfl⟩⟩
  | number number => exact absurd same (number.ne_cons (by decide) (by decide))
  | _ => cases (List.cons.inj same).1

end

end Grammar

/-! ## What is written is JSON -/

open Grammar

theorem quoted_eq (text : String) : quoted text = '"' :: (text.toList.flatMap escape ++ ['"']) := by
  rw [quoted, List.cons_append]

theorem Value.text_string (text : String) :
    (Value.string text).text = '"' :: (text.toList.flatMap escape ++ ['"']) := by
  rw [Value.text, quoted_eq]

theorem Value.text_array (elements : List Value) :
    (Value.array elements).text = '[' :: (elementsText elements ++ [']']) := by
  rw [Value.text, List.cons_append]

theorem Value.text_object (members : List (String × Value)) :
    (Value.object members).text = '\x7b' :: (membersText members ++ ['\x7d']) := by
  rw [Value.text, List.cons_append]

theorem elementsText_cons_cons (element next : Value) (later : List Value) :
    elementsText (element :: next :: later) =
      element.text ++ ',' :: elementsText (next :: later) := by
  rw [elementsText]
  exact List.cons_ne_nil _ _

theorem membersText_cons_cons (name : String) (value : Value) (next : String × Value)
    (later : List (String × Value)) :
    membersText ((name, value) :: next :: later) =
      quoted name ++ ':' :: (value.text ++ ',' :: membersText (next :: later)) := by
  rw [membersText, List.append_assoc, List.cons_append]
  exact List.cons_ne_nil _ _

mutual

theorem Value.spells : ∀ value : Value, Spells value.text value.term
  | .string text => by
      have derived := Spells.string (characters_flatMap text.toList)
      rw [String.ofList_toList] at derived
      rw [Value.text_string, Value.term]
      exact derived
  | .array [] => .emptyArray blank_nil
  | .array (element :: rest) => by
      rw [Value.text_array, Value.term]
      exact .array (spellsElements (element :: rest) (List.cons_ne_nil _ _))
  | .object [] => .emptyObject blank_nil
  | .object (member :: rest) => by
      rw [Value.text_object, Value.term]
      exact .object (spellsMembers (member :: rest) (List.cons_ne_nil _ _))

theorem spellsElements : ∀ elements : List Value, elements ≠ [] →
    SpellsElements (elementsText elements) (elementsTerms elements)
  | [], filled => absurd rfl filled
  | [element], _ => by
      have derived := SpellsElements.last blank_nil element.spells blank_nil
      rw [List.append_nil] at derived
      exact derived
  | element :: next :: later, _ => by
      rw [elementsText_cons_cons]
      exact SpellsElements.more blank_nil element.spells blank_nil
        (spellsElements (next :: later) (List.cons_ne_nil _ _))

theorem spellsMembers : ∀ members : List (String × Value), members ≠ [] →
    SpellsMembers (membersText members) (membersTerms members)
  | [], filled => absurd rfl filled
  | [(name, value)], _ => by
      have derived := SpellsMembers.last blank_nil (characters_flatMap name.toList) blank_nil
        blank_nil value.spells blank_nil
      rw [String.ofList_toList, List.append_nil] at derived
      rw [membersText, quoted_eq, List.cons_append, List.append_assoc]
      exact derived
  | (name, value) :: next :: later, _ => by
      have derived := SpellsMembers.more blank_nil (characters_flatMap name.toList) blank_nil
        blank_nil value.spells blank_nil (spellsMembers (next :: later) (List.cons_ne_nil _ _))
      rw [String.ofList_toList] at derived
      rw [membersText_cons_cons, quoted_eq, List.cons_append, List.append_assoc]
      exact derived

end

/-! ## What is written is nothing else -/

/-- At the beginning of a text that begins with a written value, there is no other value. -/
def Value.ReadBack (value : Value) : Prop :=
  ∀ (spelling rest after : List Char) (term : Term), Spells spelling term →
    spelling ++ rest = value.text ++ after → spelling = value.text ∧ term = value.term

theorem comma_not_mem_blanks : ',' ∉ blanks := by decide

/-- Nor is there white space in front of it. -/
theorem Value.ReadBack.first {value : Value} (readBack : value.ReadBack)
    {space spelling rest after : List Char} {term : Term} (blank : Blank space)
    (derived : Spells spelling term) (same : space ++ (spelling ++ rest) = value.text ++ after) :
    space = [] ∧ spelling = value.text ∧ term = value.term ∧ rest = after := by
  have noSpace : space = [] := by
    rcases derived.first with ⟨first, more, written, begins⟩
    rcases value.spells.first with ⟨other, others, text, otherBegins⟩
    rw [written, text] at same
    exact (blank_append_inj blank (not_mem_blanks_of_begins begins)
      (not_mem_blanks_of_begins otherBegins) blank_nil same).1
  rw [noSpace, List.nil_append] at same
  rcases readBack _ _ _ _ derived same with ⟨rfl, rfl⟩
  exact ⟨noSpace, rfl, rfl, List.append_cancel_left same⟩

/-- A name with its value is read back if the value is. -/
theorem Value.ReadBack.member {value : Value} (readBack : value.ReadBack) {name : String}
    {before body text between behind spelling rest after : List Char} {term : Term}
    (blank : Blank before) (characters : Characters body text) (blankBetween : Blank between)
    (blankBehind : Blank behind) (derived : Spells spelling term)
    (same : before ++ '"' :: (body ++ '"' :: (between ++ ':' :: (behind ++ (spelling ++ rest)))) =
      quoted name ++ ':' :: (value.text ++ after)) :
    (∀ more, before ++ '"' :: (body ++ '"' :: (between ++ ':' :: (behind ++ (spelling ++ more)))) =
        quoted name ++ ':' :: (value.text ++ more)) ∧
      String.ofList text = name ∧ term = value.term ∧ rest = after := by
  rw [quoted_eq, List.cons_append, List.append_assoc] at same
  rcases blank_append_inj blank (by decide) (by decide) blank_nil same with ⟨rfl, -, inQuotes⟩
  rcases characters.of_flatMap inQuotes with ⟨rfl, rfl, afterName⟩
  rcases blank_append_inj blankBetween (by decide) (by decide) blank_nil afterName with
    ⟨rfl, -, afterColon⟩
  rcases readBack.first blankBehind derived afterColon with ⟨rfl, rfl, rfl, others⟩
  refine ⟨fun more => ?_, String.ofList_toList, rfl, others⟩
  rw [quoted_eq, List.cons_append, List.append_assoc]
  rfl

mutual

theorem Value.readBack : ∀ value : Value, value.ReadBack
  | .string text => by
      intro spelling rest after term derived same
      rw [Value.text_string] at same
      rcases derived.of_quote same with ⟨body, read, characters, rfl, rfl⟩
      have inQuotes : body ++ '"' :: rest = text.toList.flatMap escape ++ '"' :: after := by
        simpa using same
      rcases characters.of_flatMap inQuotes with ⟨rfl, rfl, -⟩
      rw [Value.text_string, Value.term, String.ofList_toList]
      exact ⟨rfl, rfl⟩
  | .array elements => by
      intro spelling rest after term derived same
      rw [Value.text_array] at same
      rcases derived.of_bracket same with ⟨body, rfl, inside⟩
      have inBrackets : body ++ ']' :: rest = elementsText elements ++ ']' :: after := by
        simpa using same
      rw [Value.text_array, Value.term]
      cases elements with
      | nil =>
          rcases inside with ⟨blank, rfl⟩ | ⟨terms, derived, -⟩
          · rcases blank_append_inj blank separates_bracket.solid separates_bracket.solid blank_nil
              inBrackets with ⟨rfl, -, -⟩
            exact ⟨rfl, rfl⟩
          · exact absurd inBrackets (derived.ne_separates blank_nil separates_bracket)
      | cons element more =>
          have filled := List.cons_ne_nil element more
          rcases inside with ⟨blank, -⟩ | ⟨terms, elements, rfl⟩
          · exact absurd inBrackets.symm
              ((spellsElements _ filled).ne_separates blank separates_bracket)
          · rcases elementsReadBack _ filled _ _ _ _ elements inBrackets with ⟨rfl, rfl⟩
            exact ⟨rfl, rfl⟩
  | .object members => by
      intro spelling rest after term derived same
      rw [Value.text_object] at same
      rcases derived.of_brace same with ⟨body, rfl, inside⟩
      have inBraces : body ++ '\x7d' :: rest = membersText members ++ '\x7d' :: after := by
        simpa using same
      rw [Value.text_object, Value.term]
      cases members with
      | nil =>
          rcases inside with ⟨blank, rfl⟩ | ⟨terms, derived, -⟩
          · rcases blank_append_inj blank separates_brace.solid separates_brace.solid blank_nil
              inBraces with ⟨rfl, -, -⟩
            exact ⟨rfl, rfl⟩
          · exact absurd inBraces (derived.ne_separates blank_nil separates_brace)
      | cons member more =>
          have filled := List.cons_ne_nil member more
          rcases inside with ⟨blank, -⟩ | ⟨terms, members, rfl⟩
          · exact absurd inBraces.symm
              ((spellsMembers _ filled).ne_separates blank separates_brace)
          · rcases membersReadBack _ filled _ _ _ _ members inBraces with ⟨rfl, rfl⟩
            exact ⟨rfl, rfl⟩

theorem elementsReadBack : ∀ elements : List Value, elements ≠ [] →
    ∀ (body rest after : List Char) (terms : List Term), SpellsElements body terms →
      body ++ ']' :: rest = elementsText elements ++ ']' :: after →
      body = elementsText elements ∧ terms = elementsTerms elements
  | [], filled => absurd rfl filled
  | [element], _ => by
      intro body rest after terms derived same
      rw [elementsText] at same ⊢
      cases derived with
      | last blank derived behind =>
          rw [List.append_assoc, List.append_assoc] at same
          rcases element.readBack.first blank derived same with ⟨rfl, rfl, rfl, others⟩
          rcases blank_append_inj behind separates_bracket.solid separates_bracket.solid blank_nil
            others with ⟨rfl, -, -⟩
          exact ⟨List.append_nil _, rfl⟩
      | more blank derived behind _ =>
          simp only [List.append_assoc, List.cons_append] at same
          rcases element.readBack.first blank derived same with ⟨rfl, rfl, rfl, others⟩
          cases (blank_append_inj behind comma_not_mem_blanks separates_bracket.solid blank_nil
            others).2.1
  | element :: next :: later, _ => by
      intro body rest after terms derived same
      rw [elementsText_cons_cons] at same ⊢
      cases derived with
      | last blank derived behind =>
          simp only [List.append_assoc, List.cons_append] at same
          rcases element.readBack.first blank derived same with ⟨rfl, rfl, rfl, others⟩
          cases (blank_append_inj behind separates_bracket.solid comma_not_mem_blanks blank_nil
            others).2.1
      | more blank derived behind further =>
          simp only [List.append_assoc, List.cons_append] at same
          rcases element.readBack.first blank derived same with ⟨rfl, rfl, rfl, others⟩
          rcases blank_append_inj behind comma_not_mem_blanks comma_not_mem_blanks blank_nil others
            with ⟨rfl, -, inLater⟩
          rcases elementsReadBack (next :: later) (List.cons_ne_nil _ _) _ _ _ _ further inLater with
            ⟨rfl, rfl⟩
          exact ⟨rfl, rfl⟩

theorem membersReadBack : ∀ members : List (String × Value), members ≠ [] →
    ∀ (body rest after : List Char) (terms : List (String × Term)), SpellsMembers body terms →
      body ++ '\x7d' :: rest = membersText members ++ '\x7d' :: after →
      body = membersText members ∧ terms = membersTerms members
  | [], filled => absurd rfl filled
  | [(name, value)], _ => by
      intro body rest after terms derived same
      rw [membersText] at same ⊢
      cases derived with
      | last blank characters between behind derived last =>
          simp only [List.append_assoc, List.cons_append] at same
          rcases value.readBack.member blank characters between behind derived same with
            ⟨whole, rfl, rfl, others⟩
          rcases blank_append_inj last separates_brace.solid separates_brace.solid blank_nil others
            with ⟨rfl, -, -⟩
          have written := whole []
          rw [List.append_nil value.text] at written
          exact ⟨written, rfl⟩
      | more blank characters between behind derived last _ =>
          simp only [List.append_assoc, List.cons_append] at same
          rcases value.readBack.member blank characters between behind derived same with
            ⟨-, -, -, others⟩
          cases (blank_append_inj last comma_not_mem_blanks separates_brace.solid blank_nil
            others).2.1
  | (name, value) :: next :: later, _ => by
      intro body rest after terms derived same
      rw [membersText_cons_cons] at same ⊢
      cases derived with
      | last blank characters between behind derived last =>
          simp only [List.append_assoc, List.cons_append] at same
          rcases value.readBack.member blank characters between behind derived same with
            ⟨-, -, -, others⟩
          cases (blank_append_inj last separates_brace.solid comma_not_mem_blanks blank_nil
            others).2.1
      | more blank characters between behind derived last further =>
          simp only [List.append_assoc, List.cons_append] at same
          rcases value.readBack.member blank characters between behind derived same with
            ⟨whole, rfl, rfl, others⟩
          rcases blank_append_inj last comma_not_mem_blanks comma_not_mem_blanks blank_nil others
            with ⟨rfl, -, inLater⟩
          rcases membersReadBack (next :: later) (List.cons_ne_nil _ _) _ _ _ _ further inLater with
            ⟨rfl, rfl⟩
          exact ⟨whole _, rfl⟩

end

/-- A written value stands for what it is, and for nothing else. -/
theorem Value.represents_iff (value : Value) (term : Term) :
    Represents value.text term ↔ term = value.term := by
  constructor
  · generalize text : value.text = written
    intro derived
    cases derived with
    | intro before derived _ =>
        rw [← List.append_nil value.text] at text
        exact (value.readBack.first before derived text.symm).2.2.1
  · rintro rfl
    have derived := Represents.intro blank_nil value.spells blank_nil
    rwa [List.nil_append, List.append_nil] at derived

/-! ## No control characters -/

/-- No control character is written. -/
def NoControl (text : List Char) : Prop := ∀ c ∈ text, 0x20 ≤ c.toNat

theorem NoControl.append {first second : List Char} (early : NoControl first)
    (late : NoControl second) : NoControl (first ++ second) := fun c member =>
  (List.mem_append.1 member).elim (early c) (late c)

theorem NoControl.cons {c : Char} (large : 0x20 ≤ c.toNat) {rest : List Char}
    (later : NoControl rest) : NoControl (c :: rest) := by
  intro d member
  rcases List.mem_cons.1 member with rfl | inRest
  · exact large
  · exact later d inRest

theorem NoControl.singleton {c : Char} (large : 0x20 ≤ c.toNat) : NoControl [c] :=
  .cons large (fun _ member => absurd member List.not_mem_nil)

theorem noControl_escape (c : Char) : NoControl (escape c) := by
  have letter : ∀ entry ∈ letters, 0x20 ≤ entry.1.toNat := by decide
  have digit : ∀ n < 16, 0x20 ≤ (Nat.digitChar n).toNat := by decide
  rcases escape_cases c with ⟨written, plain⟩ | ⟨other, written, member⟩ | ⟨written, small⟩
  · rw [written]
    exact .singleton plain.noControl
  · rw [written]
    exact .cons (by decide) (.singleton (letter _ member))
  · rw [written, numericEscape]
    exact .cons (by decide) (.cons (by decide) (.cons (by decide) (.cons (by decide)
      (.cons (digit _ (by omega)) (.singleton (digit _ (by omega)))))))

theorem noControl_quoted (text : String) : NoControl (quoted text) := by
  rw [quoted_eq]
  refine .cons (by decide) (.append (fun c member => ?_) (.singleton (by decide)))
  rcases List.mem_flatMap.1 member with ⟨d, -, inEscape⟩
  exact noControl_escape d c inEscape

mutual

theorem Value.noControl_text : ∀ value : Value, NoControl value.text
  | .string text => by
      rw [Value.text]
      exact noControl_quoted text
  | .array elements => by
      rw [Value.text_array]
      exact .cons (by decide) (.append (noControl_elementsText elements) (.singleton (by decide)))
  | .object members => by
      rw [Value.text_object]
      exact .cons (by decide) (.append (noControl_membersText members) (.singleton (by decide)))

theorem noControl_elementsText : ∀ elements : List Value, NoControl (elementsText elements)
  | [] => fun _ member => absurd member List.not_mem_nil
  | [element] => element.noControl_text
  | element :: next :: later => by
      rw [elementsText_cons_cons]
      exact .append element.noControl_text
        (.cons (by decide) (noControl_elementsText (next :: later)))

theorem noControl_membersText : ∀ members : List (String × Value), NoControl (membersText members)
  | [] => fun _ member => absurd member List.not_mem_nil
  | [(name, value)] => by
      rw [membersText]
      exact .append (noControl_quoted name) (.cons (by decide) value.noControl_text)
  | (name, value) :: next :: later => by
      rw [membersText_cons_cons]
      exact .append (noControl_quoted name) (.cons (by decide)
        (.append value.noControl_text (.cons (by decide) (noControl_membersText (next :: later)))))

end

end TopicPress.Json
