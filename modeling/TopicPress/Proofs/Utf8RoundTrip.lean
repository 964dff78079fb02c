import TopicPress.Text.Utf8

/-!
# Reading the UTF-8 of a text back

The bytes of a text are those of its characters, and the reader takes each character off them again.
What makes this work for one character is arithmetic: the lead byte tells how many bytes there are,
each of the others carries six bits, and the narrower ranges for some second bytes leave out nothing
that a character needs.
-/

namespace TopicPress.Utf8

/-- The bytes of a text are those of its characters. -/
theorem bytesOf_eq (text : String) : bytesOf text = text.toList.flatMap String.utf8EncodeChar := by
  conv => lhs; rw [← String.ofList_toList (s := text)]
  rw [bytesOf, String.toUTF8_eq_toByteArray, String.toByteArray_ofList, List.utf8Encode]
  simp

private theorem toNat_byte {n : Nat} (small : n < 256) : (UInt8.ofNat n).toNat = n := by
  rw [UInt8.toNat_ofNat', Nat.mod_eq_of_lt small]

/-! ## Bytes -/

theorem isContinuation_iff (byte : UInt8) :
    isContinuation byte = true ↔ 0x80 ≤ byte.toNat ∧ byte.toNat ≤ 0xBF := by
  simp [isContinuation, UInt8.le_iff_toNat_le]

/-- The second byte is a continuation, in a narrower range after four of the lead bytes. -/
theorem isSecond_iff (lead byte : UInt8) :
    isSecond lead byte = true ↔
      (0x80 ≤ byte.toNat ∧ byte.toNat ≤ 0xBF) ∧
      (lead.toNat = 0xE0 → 0xA0 ≤ byte.toNat) ∧ (lead.toNat = 0xED → byte.toNat ≤ 0x9F) ∧
      (lead.toNat = 0xF0 → 0x90 ≤ byte.toNat) ∧ (lead.toNat = 0xF4 → byte.toNat ≤ 0x8F) := by
  have same : ∀ other : UInt8, (lead == other) = true ↔ lead.toNat = other.toNat := by
    intro other
    rw [beq_iff_eq, UInt8.toNat_inj]
  simp only [isSecond, same, isContinuation]
  repeat' split
  all_goals
    simp_all [UInt8.le_iff_toNat_le]
    try omega

/-! ## One character -/

theorem head_one {lead : UInt8} (leads : lead.toNat < 0x80) (rest : List UInt8) :
    head lead rest = .character (Char.ofNat lead.toNat) rest := by
  unfold head
  simp only [UInt8.lt_iff_toNat_lt]
  exact if_pos leads

section

variable {lead second third fourth : UInt8}

theorem head_two (leads : 0xC2 ≤ lead.toNat ∧ lead.toNat < 0xE0)
    (follows : isContinuation second = true) (rest : List UInt8) :
    head lead (second :: rest) =
      .character (Char.ofNat (lead.toNat % 32 * 64 + payload second)) rest := by
  have large : ¬ lead.toNat < 128 := by omega
  have known : ¬ (lead.toNat < 194 ∨ 244 < lead.toNat) := by omega
  simp [head, UInt8.lt_iff_toNat_lt, large, known, leads.2, follows]

theorem head_three (leads : 0xE0 ≤ lead.toNat ∧ lead.toNat < 0xF0)
    (follows : isSecond lead second = true) (ends : isContinuation third = true)
    (rest : List UInt8) :
    head lead (second :: third :: rest) =
      .character (Char.ofNat (lead.toNat % 16 * 4096 + payload second * 64 + payload third))
        rest := by
  have large : ¬ lead.toNat < 128 := by omega
  have known : ¬ (lead.toNat < 194 ∨ 244 < lead.toNat) := by omega
  have more : ¬ lead.toNat < 224 := by omega
  simp [head, UInt8.lt_iff_toNat_lt, large, known, more, leads.2, follows, ends]

theorem head_four (leads : 0xF0 ≤ lead.toNat ∧ lead.toNat ≤ 0xF4)
    (follows : isSecond lead second = true) (goesOn : isContinuation third = true)
    (ends : isContinuation fourth = true) (rest : List UInt8) :
    head lead (second :: third :: fourth :: rest) =
      .character (Char.ofNat (lead.toNat % 8 * 262144 + payload second * 4096 + payload third * 64
        + payload fourth)) rest := by
  have large : ¬ lead.toNat < 128 := by omega
  have known : ¬ (lead.toNat < 194 ∨ 244 < lead.toNat) := by omega
  have more : ¬ lead.toNat < 224 := by omega
  have most : ¬ lead.toNat < 240 := by omega
  simp [head, UInt8.lt_iff_toNat_lt, large, known, more, most, follows, goesOn, ends]

end

theorem payload_tail (n : Nat) : payload (UInt8.ofNat (n % 64 + 128)) = n % 64 := by
  rw [payload, toNat_byte (by omega)]
  omega

theorem isContinuation_tail (n : Nat) : isContinuation (UInt8.ofNat (n % 64 + 128)) = true := by
  rw [isContinuation_iff, toNat_byte (by omega)]
  omega

/-- The reader takes off the character whose bytes come first. -/
theorem exists_head_utf8EncodeChar (c : Char) (rest : List UInt8) :
    ∃ lead more, String.utf8EncodeChar c ++ rest = lead :: more ∧
      head lead more = .character c rest := by
  have valid : c.toNat < 0xD800 ∨ 0xDFFF < c.toNat ∧ c.toNat < 0x110000 := c.valid
  have back : ∀ n, n = c.toNat → Head.character (Char.ofNat n) rest = .character c rest := by
    intro n same
    rw [same, Char.ofNat_toNat]
  have code : c.val.toNat = c.toNat := rfl
  rw [String.utf8EncodeChar, code]
  split
  · have lead := @toNat_byte c.toNat (by omega)
    refine ⟨_, _, rfl, (head_one (by omega) rest).trans ?_⟩
    exact back _ lead
  · split
    · have lead := @toNat_byte (c.toNat / 64 % 32 + 192) (by omega)
      refine ⟨_, _, rfl, (head_two (by omega) (isContinuation_tail _) rest).trans ?_⟩
      rw [lead, payload_tail]
      exact back _ (by omega)
    · split
      · have lead := @toNat_byte (c.toNat / 4096 % 16 + 224) (by omega)
        have second := @toNat_byte (c.toNat / 64 % 64 + 128) (by omega)
        refine ⟨_, _, rfl,
          (head_three (by omega) ?_ (isContinuation_tail _) rest).trans ?_⟩
        · rw [isSecond_iff]
          omega
        · rw [lead, payload_tail, payload_tail]
          exact back _ (by omega)
      · have lead := @toNat_byte (c.toNat / 262144 % 8 + 240) (by omega)
        have second := @toNat_byte (c.toNat / 4096 % 64 + 128) (by omega)
        refine ⟨_, _, rfl, (head_four (by omega) ?_ (isContinuation_tail _)
          (isContinuation_tail _) rest).trans ?_⟩
        · rw [isSecond_iff]
          omega
        · rw [lead, payload_tail, payload_tail, payload_tail]
          exact back _ (by omega)

/-! ## Texts -/

theorem decodeLossy_character (c : Char) (rest : List UInt8) :
    decodeLossy (String.utf8EncodeChar c ++ rest) =
      (c :: (decodeLossy rest).1, (decodeLossy rest).2) := by
  rcases exists_head_utf8EncodeChar c rest with ⟨lead, more, bytes, taken⟩
  rw [bytes, decodeLossy]
  split
  · rename_i same
    rw [taken] at same
    cases same
    rfl
  · rename_i same
    rw [taken] at same
    cases same

/-- The bytes of a text are read as the text, and none of them is ill-formed. -/
theorem decodeLossy_append (text : List Char) (rest : List UInt8) :
    decodeLossy (text.flatMap String.utf8EncodeChar ++ rest) =
      (text ++ (decodeLossy rest).1, (decodeLossy rest).2) := by
  induction text with
  | nil => rfl
  | cons c later inductionHypothesis =>
      rw [List.flatMap_cons, List.append_assoc, decodeLossy_character, inductionHypothesis,
        List.cons_append]

theorem decodeLossy_bytesOf (text : String) :
    decodeLossy (bytesOf text) = (text.toList, false) := by
  have read := decodeLossy_append text.toList []
  rw [List.append_nil, decodeLossy, List.append_nil] at read
  rw [bytesOf_eq, read]

theorem decode?_bytesOf (text : String) : decode? (bytesOf text) = some text.toList := by
  rw [decode?, decodeLossy_bytesOf]

end TopicPress.Utf8
