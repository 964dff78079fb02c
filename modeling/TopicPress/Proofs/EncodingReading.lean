import TopicPress.Encoding.Basic
import TopicPress.Proofs.Utf8RoundTrip

/-!
# What decoding does with each byte

In UTF-8 one byte order mark is left out at the beginning, and nothing else.  In the other encodings
nothing is left out anywhere: single bytes give one character each, and in UTF-16 a text that has
been written in units is read back in front of whatever follows it, a mark included, while what is
no text still gives as many units as it has.  How the encodings of several bytes are read is left
open; they are given all bytes.
-/

namespace TopicPress.Encoding

/-! ## Marks -/

theorem dropMark_mark (bytes : List UInt8) : dropMark (mark ++ bytes) = bytes := by
  have marked : mark.isPrefixOf (mark ++ bytes) = true :=
    List.isPrefixOf_iff_prefix.2 (List.prefix_append mark bytes)
  rw [dropMark, if_pos marked, List.drop_left]

theorem dropMark_of_unmarked {bytes : List UInt8} (unmarked : ¬ mark <+: bytes) :
    dropMark bytes = bytes := by
  rw [dropMark, if_neg (fun marked => unmarked (List.isPrefixOf_iff_prefix.1 marked))]

/-- The bytes of a mark are those of its character, so a text that begins with no mark has bytes
that begin with none. -/
theorem head?_of_mark_prefix {text : String} (marked : mark <+: Utf8.bytesOf text) :
    text.toList.head? = some '\uFEFF' := by
  rcases marked with ⟨rest, split⟩
  have character : mark = ['\uFEFF'].flatMap String.utf8EncodeChar := by decide
  have read := Utf8.decodeLossy_append ['\uFEFF'] rest
  rw [← character, split, Utf8.decodeLossy_bytesOf] at read
  rw [(Prod.mk.inj read).1]
  rfl

theorem decode_mark [MultiByte] (bytes : List UInt8) :
    decode .utf8 (mark ++ bytes) = Utf8.decodeLossy bytes := by
  rw [decode, dropMark_mark]

theorem decode_of_unmarked [MultiByte] {bytes : List UInt8} (unmarked : ¬ mark <+: bytes) :
    decode .utf8 bytes = Utf8.decodeLossy bytes := by
  rw [decode, dropMark_of_unmarked unmarked]

/-! ## Units -/

/-- The units in which UTF-16 writes a character. -/
def unitsOf (c : Char) : List Nat :=
  if c.toNat < 0x10000 then [c.toNat]
  else [0xD800 + (c.toNat - 0x10000) / 0x400, 0xDC00 + (c.toNat - 0x10000) % 0x400]

/-- The bytes of a unit. -/
def unitBytes (bigEndian : Bool) (unit : Nat) : List UInt8 :=
  let high := UInt8.ofNat (unit / 256)
  let low := UInt8.ofNat (unit % 256)
  if bigEndian then [high, low] else [low, high]

/-- The bytes of a text in UTF-16, without a mark of its own. -/
def utf16BytesOf (bigEndian : Bool) (text : List Char) : List UInt8 :=
  (text.flatMap unitsOf).flatMap (unitBytes bigEndian)

theorem units_unitBytes (bigEndian : Bool) {first : Nat} (small : first < 0x10000)
    (rest : List UInt8) :
    units bigEndian (unitBytes bigEndian first ++ rest) =
      (first :: (units bigEndian rest).1, (units bigEndian rest).2) := by
  have high : (UInt8.ofNat (first / 256)).toNat = first / 256 := by
    rw [UInt8.toNat_ofNat', Nat.mod_eq_of_lt (by omega)]
  have low : (UInt8.ofNat (first % 256)).toNat = first % 256 := by
    rw [UInt8.toNat_ofNat', Nat.mod_eq_of_lt (by omega)]
  cases bigEndian <;>
    simp only [unitBytes, units, unit, high, low, List.cons_append, List.nil_append, if_true,
      Bool.false_eq_true, if_false, Nat.div_add_mod']

theorem units_append (bigEndian : Bool) {written : List Nat} (small : ∀ u ∈ written, u < 0x10000)
    (rest : List UInt8) :
    units bigEndian (written.flatMap (unitBytes bigEndian) ++ rest) =
      (written ++ (units bigEndian rest).1, (units bigEndian rest).2) := by
  induction written with
  | nil => rfl
  | cons first later inductionHypothesis =>
      rw [List.flatMap_cons, List.append_assoc, units_unitBytes _ (small first (by simp)),
        inductionHypothesis (fun u member => small u (by simp [member])), List.cons_append]

theorem small_of_mem_unitsOf {c : Char} {u : Nat} (member : u ∈ unitsOf c) : u < 0x10000 := by
  have valid : c.toNat < 0xD800 ∨ 0xDFFF < c.toNat ∧ c.toNat < 0x110000 := c.valid
  rw [unitsOf] at member
  split at member <;> simp only [List.mem_cons, List.not_mem_nil, or_false] at member <;> omega

theorem fromUnits_plain (leftOver : Bool) {first : Nat} (plain : isHighSurrogate first = false)
    (single : isLowSurrogate first = false) (rest : List Nat) :
    fromUnits leftOver (first :: rest) =
      (Char.ofNat first :: (fromUnits leftOver rest).1, (fromUnits leftOver rest).2) := by
  conv => lhs; unfold fromUnits
  rw [plain, single]
  rfl

theorem fromUnits_pair (leftOver : Bool) {first second : Nat} (high : isHighSurrogate first = true)
    (low : isLowSurrogate second = true) (rest : List Nat) :
    fromUnits leftOver (first :: second :: rest) =
      (Char.ofNat (0x10000 + (first - 0xD800) * 0x400 + (second - 0xDC00))
        :: (fromUnits leftOver rest).1, (fromUnits leftOver rest).2) := by
  conv => lhs; unfold fromUnits
  rw [high]
  simp only [if_true, low]

/-- The units of a character are read as the character. -/
theorem fromUnits_unitsOf (leftOver : Bool) (c : Char) (rest : List Nat) :
    fromUnits leftOver (unitsOf c ++ rest) =
      (c :: (fromUnits leftOver rest).1, (fromUnits leftOver rest).2) := by
  have valid : c.toNat < 0xD800 ∨ 0xDFFF < c.toNat ∧ c.toNat < 0x110000 := c.valid
  rw [unitsOf]
  split
  · have plain : isHighSurrogate c.toNat = false := by
      simp only [isHighSurrogate, Bool.and_eq_false_iff, decide_eq_false_iff_not]
      omega
    have single : isLowSurrogate c.toNat = false := by
      simp only [isLowSurrogate, Bool.and_eq_false_iff, decide_eq_false_iff_not]
      omega
    exact (fromUnits_plain leftOver plain single rest).trans (by rw [Char.ofNat_toNat])
  · have high : isHighSurrogate (0xD800 + (c.toNat - 0x10000) / 0x400) = true := by
      simp only [isHighSurrogate, Bool.and_eq_true, decide_eq_true_eq]
      omega
    have low : isLowSurrogate (0xDC00 + (c.toNat - 0x10000) % 0x400) = true := by
      simp only [isLowSurrogate, Bool.and_eq_true, decide_eq_true_eq]
      omega
    have back : 0x10000 + (0xD800 + (c.toNat - 0x10000) / 0x400 - 0xD800) * 0x400
        + (0xDC00 + (c.toNat - 0x10000) % 0x400 - 0xDC00) = c.toNat := by omega
    exact (fromUnits_pair leftOver high low rest).trans (by rw [back, Char.ofNat_toNat])

theorem fromUnits_append (leftOver : Bool) (text : List Char) (rest : List Nat) :
    fromUnits leftOver (text.flatMap unitsOf ++ rest) =
      (text ++ (fromUnits leftOver rest).1, (fromUnits leftOver rest).2) := by
  induction text with
  | nil => rfl
  | cons c later inductionHypothesis =>
      rw [List.flatMap_cons, List.append_assoc, fromUnits_unitsOf, inductionHypothesis,
        List.cons_append]

/-- A text in UTF-16 is read back, whatever follows it and whatever it begins with. -/
theorem decodeUnits_append (bigEndian : Bool) (text : List Char) (rest : List UInt8) :
    decodeUnits bigEndian (utf16BytesOf bigEndian text ++ rest) =
      (text ++ (decodeUnits bigEndian rest).1, (decodeUnits bigEndian rest).2) := by
  have small : ∀ u ∈ text.flatMap unitsOf, u < 0x10000 := by
    intro u member
    rcases List.mem_flatMap.1 member with ⟨c, -, written⟩
    exact small_of_mem_unitsOf written
  rw [decodeUnits, utf16BytesOf, units_append bigEndian small, fromUnits_append, decodeUnits]

/-! ## Counting units -/

theorem length_units (bigEndian : Bool) (bytes : List UInt8) :
    2 * (units bigEndian bytes).1.length + (units bigEndian bytes).2.toNat = bytes.length := by
  fun_induction units bigEndian bytes with
  | case1 => rfl
  | case2 => rfl
  | case3 first second rest read inductionHypothesis =>
      simp only [read, List.length_cons]
      omega

theorem small_of_mem_units {bigEndian : Bool} {bytes : List UInt8} {u : Nat}
    (member : u ∈ (units bigEndian bytes).1) : u < 0x10000 := by
  fun_induction units bigEndian bytes with
  | case1 => cases member
  | case2 => cases member
  | case3 first second rest read inductionHypothesis =>
      rcases List.mem_cons.1 member with rfl | later
      · have := first.toNat_lt
        have := second.toNat_lt
        rw [unit]
        split <;> omega
      · exact inductionHypothesis later

/-- The number of units that a text takes. -/
def unitCount (text : List Char) : Nat := (text.flatMap unitsOf).length

theorem unitCount_cons (c : Char) (text : List Char) :
    unitCount (c :: text) = (if c.toNat < 0x10000 then 1 else 2) + unitCount text := by
  rw [unitCount, List.flatMap_cons, List.length_append, unitsOf, unitCount]
  split <;> rfl

theorem unitCount_replacement (text : List Char) :
    unitCount ('\uFFFD' :: text) = 1 + unitCount text :=
  unitCount_cons '\uFFFD' text

private theorem toNat_ofNat {n : Nat} (valid : n.isValidChar) : (Char.ofNat n).toNat = n := by
  rw [Char.ofNat, dif_pos valid]
  rfl

private theorem toNat_ofNat_of_pair {high low : Nat} (first : isHighSurrogate high = true)
    (second : isLowSurrogate low = true) :
    ¬ (Char.ofNat (0x10000 + (high - 0xD800) * 0x400 + (low - 0xDC00))).toNat < 0x10000 := by
  simp only [isHighSurrogate, isLowSurrogate, Bool.and_eq_true, decide_eq_true_eq] at first second
  rw [toNat_ofNat (Or.inr ⟨by omega, by omega⟩)]
  omega

private theorem toNat_ofNat_of_small {n : Nat} (small : n < 0x10000) :
    (Char.ofNat n).toNat < 0x10000 := by
  by_cases valid : n.isValidChar
  · rw [toNat_ofNat valid]
    exact small
  · rw [Char.ofNat, dif_neg valid]
    decide

/-- The text that units give takes as many units again, and one more at most for the byte that is
left over. -/
theorem unitCount_fromUnits (leftOver : Bool) {given : List Nat}
    (small : ∀ u ∈ given, u < 0x10000) :
    given.length ≤ unitCount (fromUnits leftOver given).1 ∧
      unitCount (fromUnits leftOver given).1 ≤ given.length + leftOver.toNat := by
  fun_induction fromUnits leftOver given with
  | case1 left =>
      rw [left]
      decide
  | case2 => exact ⟨Nat.le_refl 0, Nat.zero_le _⟩
  | case3 first high second after low read inductionHypothesis =>
      have bound := inductionHypothesis
        (fun u member => small u (List.mem_cons_of_mem _ (List.mem_cons_of_mem _ member)))
      rw [unitCount_cons, if_neg (toNat_ofNat_of_pair high low), List.length_cons, List.length_cons]
      simp only [read]
      omega
  | case4 first high second after notLow inductionHypothesis =>
      have bound := inductionHypothesis (fun u member => small u (List.mem_cons_of_mem _ member))
      rw [unitCount_replacement, List.length_cons]
      omega
  | case5 first high =>
      have one : unitCount ['\uFFFD'] = 1 := by decide
      rw [one, List.length_singleton]
      omega
  | case6 first rest notHigh low inductionHypothesis =>
      have bound := inductionHypothesis (fun u member => small u (List.mem_cons_of_mem _ member))
      rw [unitCount_replacement, List.length_cons]
      omega
  | case7 first rest notHigh notLow read inductionHypothesis =>
      have bound := inductionHypothesis (fun u member => small u (List.mem_cons_of_mem _ member))
      have plain := toNat_ofNat_of_small (small first List.mem_cons_self)
      rw [unitCount_cons, if_pos plain, List.length_cons]
      simp only [read]
      omega

/-- No unit is left out of a text in UTF-16, whether it is one or not. -/
theorem unitCount_decodeUnits (bigEndian : Bool) (bytes : List UInt8) :
    bytes.length / 2 ≤ unitCount (decodeUnits bigEndian bytes).1 ∧
      unitCount (decodeUnits bigEndian bytes).1 ≤ (bytes.length + 1) / 2 := by
  have count := unitCount_fromUnits (units bigEndian bytes).2 (@small_of_mem_units bigEndian bytes)
  have halves := length_units bigEndian bytes
  have one := Bool.toNat_le (units bigEndian bytes).2
  rw [decodeUnits]
  omega

/-! ## Every encoding but UTF-8 -/

/-- An encoding leaves no byte out.  In UTF-16 each unit counts, and a text at the beginning is read
as it is, whatever it begins with; of single bytes each gives a character. -/
def ReadsAll [MultiByte] : Encoding → Prop
  | .utf16 bigEndian =>
    (∀ bytes, bytes.length / 2 ≤ unitCount (decode (.utf16 bigEndian) bytes).1 ∧
      unitCount (decode (.utf16 bigEndian) bytes).1 ≤ (bytes.length + 1) / 2) ∧
    ∀ text rest, (decode (.utf16 bigEndian) (utf16BytesOf bigEndian text ++ rest)).1 =
      text ++ (decode (.utf16 bigEndian) rest).1
  | .multiByte name => ∀ bytes, decode (.multiByte name) bytes = MultiByte.decode name bytes
  | encoding => ∃ character : UInt8 → Char, ∀ bytes, (encoding.decode bytes).1 = bytes.map character

theorem readsAll_of_ne_utf8 [MultiByte] {encoding : Encoding} (other : encoding ≠ .utf8) :
    encoding.ReadsAll := by
  cases encoding with
  | utf8 => exact absurd rfl other
  | utf16 bigEndian =>
      refine ⟨unitCount_decodeUnits bigEndian, fun text rest => ?_⟩
      exact congrArg Prod.fst (decodeUnits_append bigEndian text rest)
  | codePage page => exact ⟨_, fun _ => rfl⟩
  | userDefined => exact ⟨_, fun _ => rfl⟩
  | multiByte name => exact fun _ => rfl

end TopicPress.Encoding
