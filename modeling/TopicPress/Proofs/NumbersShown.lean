import TopicPress.Proofs.BareReading
import TopicPress.Proofs.PlainSpellings
import TopicPress.Proofs.StandardIntegers

/-!
# Numbers and truth values in front matter

A key that is given a number has a text again, but that text is made from the value and not from what
stands in the block.  A real number has kept its spelling.  A truth value comes out in lower case, and
an integer in decimal, whatever the base, the sign and the zeros of its spelling.
-/

namespace TopicPress.Yaml.Value

/-! ## Spellings that are kept -/

/-- The spellings that come out as they are. -/
inductive KeptSpelling (spelling : String) : Prop
  | real (stands : ofPlain spelling = real spelling)
  | truth (lower : spelling = "true" ∨ spelling = "false")
  | integer (standard : StandardInteger spelling.toList)

theorem ofPlain_true : ofPlain "true" = boolean true := rfl

theorem ofPlain_false : ofPlain "false" = boolean false := rfl

theorem not_standardInteger_of_truth? {spelling : String} {value : Bool}
    (stands : truth? spelling = some value) : ¬ StandardInteger spelling.toList := by
  intro standard
  have noDigit : ∀ truth ∈ ["true", "True", "TRUE", "false", "False", "FALSE"],
      truth.toList.any Char.isDigit = false := by decide
  have some := List.any_eq_true.2 standard.exists_isDigit
  rw [noDigit spelling (mem_of_truth? stands)] at some
  cases some

/-- The text of a number is its spelling for these spellings and no others. -/
theorem flowText_ofPlain_eq_iff {spelling : String} (number : TruthOrNumber (ofPlain spelling)) :
    (ofPlain spelling).flowText = spelling ↔ KeptSpelling spelling := by
  have resolves := resolves_ofPlain spelling
  cases found : ofPlain spelling with
  | boolean value =>
      rw [found] at resolves
      cases resolves with
      | boolean reads =>
          refine ⟨fun same => .truth ?_, fun kept => ?_⟩
          · cases value with
            | true => exact .inl same.symm
            | false => exact .inr same.symm
          · rcases kept with real | (rfl | rfl) | standard
            · cases found.symm.trans real
            · cases ofPlain_true.symm.trans found
              rfl
            · cases ofPlain_false.symm.trans found
              rfl
            · exact absurd standard (not_standardInteger_of_truth? reads)
  | integer value =>
      rw [found] at resolves
      refine ⟨fun same => .integer ?_, fun kept => ?_⟩
      · rw [← same]
        exact standardInteger_toString value
      · rcases kept with real | (rfl | rfl) | standard
        · cases found.symm.trans real
        · cases ofPlain_true.symm.trans found
        · cases ofPlain_false.symm.trans found
        · cases resolves with
          | marked reads => cases (markedInteger?_of_standard standard).symm.trans reads
          | integer reads => exact String.toList_inj.1 (toString_of_standardInteger standard reads)
  | real shown =>
      rw [found] at resolves
      cases resolves
      exact ⟨fun _ => .real found, fun _ => rfl⟩
  | null | text _ | sequence _ | mapping _ | invalid =>
      rw [found] at number
      cases number

end TopicPress.Yaml.Value

namespace TopicPress.FrontMatterBlock

open Text Yaml Yaml.Value

/-! ## Values of keys -/

theorem itemOf_of_truthOrNumber {value : Value} (number : TruthOrNumber value) :
    itemOf value = .scalar value.flowText := by
  cases number <;> rfl

/-- A key that is given what the spelling of a number stands for, alone or among other values, has the
text of that number in its place. -/
structure ShowsNumber (header : FrontMatter) (key : String) (value : Value) (spelling : String) :
    Prop where
  alone : value = ofPlain spelling → header.get? key = some [.scalar (ofPlain spelling).flowText]
  among : ∀ (items : List Value) (index : Nat), value = sequence items →
    items[index]? = some (ofPlain spelling) →
    ∃ values : List MetaValue, header.get? key = some values ∧ values.length = items.length ∧
      values[index]? = some (MetaValue.scalar (ofPlain spelling).flowText)

theorem ShowsNumber.of_get? {header : FrontMatter} {key spelling : String} {value : Value}
    (number : TruthOrNumber (ofPlain spelling)) (given : header.get? key = some (valuesOf value)) :
    ShowsNumber header key value spelling where
  alone same := by
    rw [given, same, ← itemOf_of_truthOrNumber number]
    cases found : ofPlain spelling with
    | sequence items =>
        rw [found] at number
        cases number
    | _ => rfl
  among items index same present := by
    refine ⟨items.map itemOf, ?_, List.length_map _, ?_⟩
    · rw [given, same]
      rfl
    · rw [List.getElem?_map, present, ← itemOf_of_truthOrNumber number]
      rfl

/-- What becomes of a truth value or a number, for every spelling of one.  It can stand in a line as
it is.  A key that is given it, alone or among the items of a sequence, has its text, in every block
that is read as a mapping and so in every block of bare entries; and that text is what stands in the
line for real numbers, for truth values in lower case and for integers in decimal without a plus sign
and without zeros in front, and for no other spelling. -/
theorem read_showsNumber {spelling : String} (number : TruthOrNumber (ofPlain spelling)) :
    (∃ bare : Bare, bare.text = spelling) ∧
    ((ofPlain spelling).flowText = spelling ↔ KeptSpelling spelling) ∧
    (∀ (raw : String) (before after : List (Value × Value)) (name value : Value)
      (more : List Value) (key : String),
      documents? (body raw.toList) = some (mapping (before ++ (name, value) :: after) :: more) →
      name.scalarText? = some key → (∀ other ∈ after, other.1.scalarText? ≠ some key) →
      ShowsNumber (read raw).1 key value spelling) ∧
    ∀ (entries : List BareEntry) (closing : List Char),
      (∀ entry ∈ entries, entry.HasTextKey) →
      (entries.map (fun entry => entry.key.text)).Nodup →
      (∀ entry ∈ entries, entry.key.chars.length ≤ 1024) →
      (lines closing).head? = some fence →
      ∀ entry ∈ entries,
        ShowsNumber (read (bareBlock entries closing)).1 entry.key.text (givenValue entry.texts)
          spelling := by
  refine ⟨exists_bare number, flowText_ofPlain_eq_iff number, ?_, ?_⟩
  · intro raw before after name value more key holds named last
    refine .of_get? number ?_
    rw [read_of_mapping holds]
    exact get?_foldl_addEntry named last .empty
  · intro entries closing textual distinct short closes entry member
    exact .of_get? number (get?_read_bareBlock textual distinct short closes member)

/-- A number with zeros in front, a real number, and a truth value behind a word. -/
theorem read_showsNumber_of_lines :
    let code : Word := ⟨'i', "d".toList, by decide, List.all_eq_true.1 (by decide), by decide⟩
    let size : Word := ⟨'s', "ize".toList, by decide, List.all_eq_true.1 (by decide), by decide⟩
    let parts : Word := ⟨'p', "arts".toList, by decide, List.all_eq_true.1 (by decide), by decide⟩
    let agent : Numeral "007".toList := by decide
    let ratio : Numeral "1.50".toList := by decide
    let truth : Numeral "True".toList := by decide
    let entries : List BareEntry :=
      [⟨code.bare, .beside agent.bare⟩, ⟨size.bare, .beside ratio.bare⟩,
        ⟨parts.bare, .below [code.bare, truth.bare]⟩]
    (∀ entry ∈ entries, entry.HasTextKey) ∧
      (entries.map (fun entry => entry.key.text)).Nodup ∧
      (∀ entry ∈ entries, entry.key.chars.length ≤ 1024) ∧
      (lines "---\n".toList).head? = some fence ∧
      bareBlock entries "---\n".toList =
        "---\nid: 007\nsize: 1.50\nparts:\n- id\n- True\n---\n" ∧
      ∀ header, header = (read "---\nid: 007\nsize: 1.50\nparts:\n- id\n- True\n---\n").1 →
        header.get? "id" = some [.scalar "7"] ∧ header.get? "size" = some [.scalar "1.50"] ∧
        ∃ values : List MetaValue, header.get? "parts" = some values ∧ values.length = 2 ∧
          values[1]? = some (MetaValue.scalar "true") := by
  intro code size parts agent ratio truth entries
  have textual : ∀ entry ∈ entries, entry.HasTextKey := by
    intro entry member
    simp only [entries, List.mem_cons, List.not_mem_nil, or_false] at member
    rcases member with rfl | rfl | rfl
    · exact ofPlain_word code
    · exact ofPlain_word size
    · exact ofPlain_word parts
  have distinct : (entries.map (fun entry => entry.key.text)).Nodup := by decide +kernel
  have short : ∀ entry ∈ entries, entry.key.chars.length ≤ 1024 := by decide +kernel
  have closes : (lines "---\n".toList).head? = some fence := by decide +kernel
  have text : bareBlock entries "---\n".toList =
      "---\nid: 007\nsize: 1.50\nparts:\n- id\n- True\n---\n" := by decide +kernel
  refine ⟨textual, distinct, short, closes, text, fun header read => ?_⟩
  have shows : ∀ {spelling : String}, TruthOrNumber (ofPlain spelling) → ∀ entry ∈ entries,
      ShowsNumber header entry.key.text (givenValue entry.texts) spelling := by
    intro spelling number
    rw [read, ← text]
    exact (read_showsNumber number).2.2.2 entries "---\n".toList textual distinct short closes
  have integer : TruthOrNumber (ofPlain "007") := .integer 7
  have real : TruthOrNumber (ofPlain "1.50") := .real "1.50"
  have boolean : TruthOrNumber (ofPlain "True") := .boolean true
  exact ⟨(shows integer ⟨code.bare, .beside agent.bare⟩ (by simp [entries])).alone rfl,
    (shows real ⟨size.bare, .beside ratio.bare⟩ (by simp [entries])).alone rfl,
    (shows boolean ⟨parts.bare, .below [code.bare, truth.bare]⟩ (by simp [entries])).among _ 1 rfl
      rfl⟩

/-- Zeros in front of a number are lost. -/
theorem read_drops_zeros :
    TruthOrNumber (ofPlain "007") ∧
      (read "---\nid: 007\n---\n").1.get? "id" = some [.scalar "7"] ∧
      (read "---\nid: 007\n---\n").1.get? "id" ≠ some [.scalar "007"] := by
  refine ⟨.integer 7, ?_, ?_⟩ <;> decide +kernel

end TopicPress.FrontMatterBlock
