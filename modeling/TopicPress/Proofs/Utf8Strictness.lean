import TopicPress.Proofs.Utf8RoundTrip

/-!
# Nothing but the UTF-8 of a text is read

The bytes that are taken off as a character are the bytes of that character: the narrower ranges for
some lead bytes and some second bytes keep out every longer spelling, the surrogates and the numbers
that are too large.  So bytes are read without a fault if and only if they are the bytes of a text.
-/

namespace TopicPress.Utf8

/-- A byte that has the number of another one is that byte. -/
private theorem ofNat_eq {byte : UInt8} {n : Nat} (same : n = byte.toNat) : UInt8.ofNat n = byte := by
  rw [same, UInt8.ofNat_toNat]

private theorem toNat_character {n : Nat} (valid : n.isValidChar) : (Char.ofNat n).val.toNat = n := by
  rw [Char.ofNat, dif_pos valid]
  rfl

/-! ## One character -/

section

variable {lead second third fourth : UInt8}

theorem utf8EncodeChar_one (leads : lead.toNat < 0x80) :
    String.utf8EncodeChar (Char.ofNat lead.toNat) = [lead] := by
  have code := @toNat_character lead.toNat (Or.inl (by omega))
  rw [String.utf8EncodeChar, code, if_pos (by omega), UInt8.ofNat_toNat]

theorem utf8EncodeChar_two (leads : 0xC2 ≤ lead.toNat ∧ lead.toNat < 0xE0)
    (follows : isContinuation second = true) :
    String.utf8EncodeChar (Char.ofNat (lead.toNat % 32 * 64 + payload second)) =
      [lead, second] := by
  rw [isContinuation_iff] at follows
  rw [payload]
  have code := @toNat_character (lead.toNat % 32 * 64 + second.toNat % 64) (Or.inl (by omega))
  rw [String.utf8EncodeChar, code, if_neg (by omega), if_pos (by omega),
    @ofNat_eq lead _ (by omega), @ofNat_eq second _ (by omega)]

theorem utf8EncodeChar_three (leads : 0xE0 ≤ lead.toNat ∧ lead.toNat < 0xF0)
    (follows : isSecond lead second = true) (ends : isContinuation third = true) :
    String.utf8EncodeChar
        (Char.ofNat (lead.toNat % 16 * 4096 + payload second * 64 + payload third)) =
      [lead, second, third] := by
  rw [isSecond_iff] at follows
  rw [isContinuation_iff] at ends
  rw [payload, payload]
  have valid : (lead.toNat % 16 * 4096 + second.toNat % 64 * 64 + third.toNat % 64).isValidChar := by
    rw [Nat.isValidChar]
    omega
  rw [String.utf8EncodeChar, toNat_character valid, if_neg (by omega), if_neg (by omega),
    if_pos (by omega), @ofNat_eq lead _ (by omega), @ofNat_eq second _ (by omega),
    @ofNat_eq third _ (by omega)]

theorem utf8EncodeChar_four (leads : 0xF0 ≤ lead.toNat ∧ lead.toNat ≤ 0xF4)
    (follows : isSecond lead second = true) (goesOn : isContinuation third = true)
    (ends : isContinuation fourth = true) :
    String.utf8EncodeChar
        (Char.ofNat (lead.toNat % 8 * 262144 + payload second * 4096 + payload third * 64
          + payload fourth)) =
      [lead, second, third, fourth] := by
  rw [isSecond_iff] at follows
  rw [isContinuation_iff] at goesOn ends
  rw [payload, payload, payload]
  have valid : (lead.toNat % 8 * 262144 + second.toNat % 64 * 4096 + third.toNat % 64 * 64
      + fourth.toNat % 64).isValidChar := by
    rw [Nat.isValidChar]
    omega
  rw [String.utf8EncodeChar, toNat_character valid, if_neg (by omega), if_neg (by omega),
    if_neg (by omega), @ofNat_eq lead _ (by omega), @ofNat_eq second _ (by omega),
    @ofNat_eq third _ (by omega), @ofNat_eq fourth _ (by omega)]

end

/-- The bytes that are taken off as a character are its bytes. -/
theorem eq_utf8EncodeChar_of_head {lead : UInt8} {rest later : List UInt8} {c : Char}
    (taken : head lead rest = .character c later) :
    lead :: rest = String.utf8EncodeChar c ++ later := by
  unfold head at taken
  split at taken
  · rename_i small
    rw [UInt8.lt_iff_toNat_lt] at small
    cases taken
    rw [utf8EncodeChar_one small, List.singleton_append]
  · rename_i notOne
    split at taken
    · cases taken
    · rename_i known
      simp only [Bool.or_eq_true, decide_eq_true_eq, not_or, UInt8.lt_iff_toNat_lt] at notOne known
      have begins : 0xC2 ≤ lead.toNat ∧ lead.toNat ≤ 0xF4 := by
        have first : ¬ lead.toNat < 0xC2 := known.1
        have last : ¬ 0xF4 < lead.toNat := known.2
        omega
      cases rest with
      | nil => cases taken
      | cons second afterSecond =>
          simp only [UInt8.lt_iff_toNat_lt] at taken
          split at taken
          · rename_i two
            split at taken
            · rename_i follows
              cases taken
              rw [utf8EncodeChar_two ⟨begins.1, two⟩ follows]
              rfl
            · cases taken
          · rename_i notTwo
            have atLeastThree : 0xE0 ≤ lead.toNat := Nat.le_of_not_lt notTwo
            split at taken
            · cases taken
            · rename_i follows
              rw [Bool.not_eq_true', Bool.not_eq_false] at follows
              cases afterSecond with
              | nil => cases taken
              | cons third afterThird =>
                  simp only at taken
                  split at taken
                  · cases taken
                  · rename_i goesOn
                    rw [Bool.not_eq_true', Bool.not_eq_false] at goesOn
                    split at taken
                    · rename_i three
                      cases taken
                      rw [utf8EncodeChar_three ⟨atLeastThree, three⟩ follows goesOn]
                      rfl
                    · rename_i notThree
                      have atLeastFour : 0xF0 ≤ lead.toNat := Nat.le_of_not_lt notThree
                      cases afterThird with
                      | nil => cases taken
                      | cons fourth afterFourth =>
                          simp only at taken
                          split at taken
                          · cases taken
                          · rename_i ends
                            rw [Bool.not_eq_true', Bool.not_eq_false] at ends
                            cases taken
                            rw [utf8EncodeChar_four ⟨atLeastFour, begins.2⟩ follows goesOn ends]
                            rfl

/-! ## Texts -/

/-- Bytes without an ill-formed part are the bytes of what is read. -/
theorem eq_flatMap_of_decodeLossy {bytes : List UInt8} (sound : (decodeLossy bytes).2 = false) :
    bytes = (decodeLossy bytes).1.flatMap String.utf8EncodeChar := by
  fun_induction decodeLossy bytes with
  | case1 => rfl
  | case2 lead rest c later taken decoded inductionHypothesis =>
      rw [eq_utf8EncodeChar_of_head taken, List.flatMap_cons, ← inductionHypothesis sound]
  | case3 => cases sound

/-- Bytes are read as a text if and only if they are its bytes. -/
theorem decode?_eq_some_iff {bytes : List UInt8} {text : List Char} :
    decode? bytes = some text ↔ bytes = bytesOf (String.ofList text) := by
  constructor
  · intro read
    rw [decode?] at read
    split at read
    · rename_i chars decoded
      cases read
      have whole := @eq_flatMap_of_decodeLossy bytes (by rw [decoded])
      rw [decoded] at whole
      rw [bytesOf_eq, String.toList_ofList]
      exact whole
    · cases read
  · rintro rfl
    rw [decode?_bytesOf, String.toList_ofList]

theorem decode?_eq_none_iff {bytes : List UInt8} :
    decode? bytes = none ↔ ∀ text : String, bytes ≠ bytesOf text := by
  constructor
  · rintro unread text rfl
    rw [decode?_bytesOf] at unread
    cases unread
  · intro no
    cases read : decode? bytes with
    | none => rfl
    | some text => exact absurd (decode?_eq_some_iff.1 read) (no _)

end TopicPress.Utf8
