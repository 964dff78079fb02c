import TopicPress.FileSystem
import TopicPress.Input.Acquisition
import TopicPress.Proofs.EncodingReading

/-!
# The ways of acquiring a text agree

Bytes may come from a stream, in whatever pieces, or from the file that a location names, and a text
may come from a stream of characters.  All of a document is read before it is decoded, so where the
pieces end cannot matter, and a stream that fails gives no text at all.  Only the byte order mark
tells the ways apart: bytes in UTF-8 lose one, and characters keep theirs.  All this is so however
the encodings of several bytes are read.
-/

namespace TopicPress.Acquisition

/-- The text, if one has been acquired. -/
def text? (acquisition : Acquisition) : Option (List Char) :=
  acquisition.result.toOption.map AcquiredText.text

/-- A label declares an encoding, and no label declares UTF-8. -/
def Declares (label : Option String) (encoding : Encoding) : Prop :=
  match label with
  | none => encoding = .utf8
  | some label => Encoding.ofLabel? label = some encoding

/-- A location names a file that has the bytes. -/
def Names (files : FileSystem) (location : String) (bytes : List UInt8) : Prop :=
  ∃ place, path location = .ok place ∧ files.read place = .ok bytes

theorem encoding_of_declares {label : Option String} {encoding : Encoding}
    (declared : Declares label encoding) (document : String) :
    Acquisition.encoding document label = .ok encoding := by
  cases label with
  | none =>
      cases declared
      rfl
  | some label =>
      simp only [Declares] at declared
      simp only [Acquisition.encoding, declared]

/-! ## Characters -/

theorem text?_fromCharacters {text : String} {pieces : List (List UInt8)}
    (whole : pieces.flatten = Utf8.bytesOf text) (name : Option String) :
    (fromCharacters { pieces } name).text? = some text.toList := by
  have read : Stream.readText { pieces } = .ok text.toList := by
    simp only [Stream.readText, Stream.readAll, whole, Utf8.decode?_bytesOf]
  simp only [fromCharacters, read]
  rfl

theorem exists_error_of_failure (pieces : List (List UInt8)) (error : IoError)
    (name : Option String) :
    ∃ refusal, (fromCharacters { pieces, failure := some error } name).result = .error refusal :=
  ⟨_, rfl⟩

/-! ## Bytes -/

section

variable [Encoding.MultiByte]

/-- Bytes under a label are acquired as a text, be they a stream in any pieces or the file that a
location names. -/
def GivesText (label : Option String) (bytes : List UInt8) (text : List Char) : Prop :=
  (∀ pieces name, pieces.flatten = bytes →
    (fromBytes { pieces } label name).text? = some text) ∧
  ∀ (files : FileSystem) location name, Names files location bytes →
    (Id.run (fromLocation (fun place => files.read place) location label name)).text? = some text

variable {label : Option String} {encoding : Encoding}

theorem fromBytes_eq (declared : Declares label encoding) (stream : Stream) (name : Option String) :
    fromBytes stream label name = ofRead (name.getD anonymous) encoding stream.readAll := by
  simp only [fromBytes, encoding_of_declares declared]

theorem fromLocation_eq (declared : Declares label encoding) {location : String}
    {place : List UInt8} (names : path location = .ok place) (files : FileSystem)
    (name : Option String) :
    Id.run (fromLocation (fun place => files.read place) location label name) =
      ofRead (name.getD location) encoding (files.read place) := by
  have planned : plan location label name = .ok (encoding, place) := by
    rw [plan, encoding_of_declares declared, names]
    rfl
  simp only [fromLocation, planned]
  rfl

theorem text?_ofBytes (document : String) (encoding : Encoding) (bytes : List UInt8) :
    (ofBytes document encoding bytes).text? = some (encoding.decode bytes).1 := by
  rw [ofBytes]
  split <;> rfl

/-- What is acquired depends on the bytes only, and not on the way they come. -/
theorem givesText_decode (declared : Declares label encoding) (bytes : List UInt8) :
    GivesText label bytes (encoding.decode bytes).1 := by
  constructor
  · intro pieces name whole
    have read : Stream.readAll { pieces } = .ok bytes := congrArg Except.ok whole
    rw [fromBytes_eq declared, read]
    exact text?_ofBytes _ encoding bytes
  · rintro files location name ⟨place, names, read⟩
    rw [fromLocation_eq declared names, read]
    exact text?_ofBytes _ encoding bytes

/-- The ways of acquiring a text agree.  Bytes give the same text as a stream and as a file, however
the stream is split; what fails gives an error.  In UTF-8 one mark at the beginning is left out, so
that the bytes of a text, with a mark or without one, give the text, as its characters do, which
keep a mark; in the other encodings nothing is left out. -/
theorem acquisitions_agree (declared : Declares label encoding) :
    (∀ bytes, GivesText label bytes (encoding.decode bytes).1) ∧
    (∀ pieces error name,
      (fromBytes { pieces, failure := some error } label name).result =
        .error (.read (name.getD anonymous) error) ∧
      ∃ refusal, (fromCharacters { pieces, failure := some error } name).result =
        .error refusal) ∧
    (∀ (files : FileSystem) location place error name, path location = .ok place →
      files.read place = .error error →
      (Id.run (fromLocation (fun place => files.read place) location label name)).result =
        .error (.read (name.getD location) error)) ∧
    (∀ (text : String) pieces name, pieces.flatten = Utf8.bytesOf text →
      (fromCharacters { pieces } name).text? = some text.toList) ∧
    (encoding = .utf8 →
      (∀ bytes, GivesText label (Encoding.mark ++ bytes) (Utf8.decodeLossy bytes).1) ∧
      (∀ bytes, ¬ Encoding.mark <+: bytes → GivesText label bytes (Utf8.decodeLossy bytes).1) ∧
      ∀ text : String,
        GivesText label (Encoding.mark ++ Utf8.bytesOf text) text.toList ∧
        (text.toList.head? ≠ some '\uFEFF' → GivesText label (Utf8.bytesOf text) text.toList)) ∧
    (encoding ≠ .utf8 → encoding.ReadsAll) := by
  refine ⟨givesText_decode declared, fun pieces error name => ⟨?_, ?_⟩, ?_, ?_, ?_,
    Encoding.readsAll_of_ne_utf8⟩
  · rw [fromBytes_eq declared]
    rfl
  · exact exists_error_of_failure pieces error name
  · intro files location place error name names fails
    rw [fromLocation_eq declared names, fails]
    rfl
  · intro text pieces name whole
    exact text?_fromCharacters whole name
  · rintro rfl
    have marked : ∀ bytes,
        GivesText label (Encoding.mark ++ bytes) (Utf8.decodeLossy bytes).1 := by
      intro bytes
      rw [← Encoding.decode_mark]
      exact givesText_decode declared _
    have unmarked : ∀ bytes, ¬ Encoding.mark <+: bytes →
        GivesText label bytes (Utf8.decodeLossy bytes).1 := by
      intro bytes no
      rw [← Encoding.decode_of_unmarked no]
      exact givesText_decode declared _
    refine ⟨marked, unmarked, fun text => ⟨?_, fun begins => ?_⟩⟩
    · have given := marked (Utf8.bytesOf text)
      rwa [Utf8.decodeLossy_bytesOf] at given
    · have given := unmarked (Utf8.bytesOf text)
        (fun no => begins (Encoding.head?_of_mark_prefix no))
      rwa [Utf8.decodeLossy_bytesOf] at given

end

/-- A mark that ends in another piece than it begins in, in front of a text that begins with a mark
of its own: the stream and the file give the text with its own mark. -/
theorem acquisitions_agree_on_split_mark :
    let _ : Encoding.MultiByte := { decode := fun _ bytes => (bytes.map fun _ => '\uFFFD', true) }
    let files : FileSystem :=
      { entries := [([[97]], .file [0xEF, 0xBB, 0xBF, 0xEF, 0xBB, 0xBF, 0x61])] }
    Declares none .utf8 ∧ Names files "a" (Encoding.mark ++ Utf8.bytesOf "\uFEFFa") ∧
      (fromBytes { pieces := [[0xEF], [0xBB], [0xBF, 0xEF, 0xBB], [0xBF, 0x61]] } none none).text?
        = some ['\uFEFF', 'a'] ∧
      (Id.run (fromLocation (fun place => files.read place) "a" none none)).text?
        = some ['\uFEFF', 'a'] := by
  intro _ files
  have declared : Declares none .utf8 := rfl
  have names : Names files "a" (Encoding.mark ++ Utf8.bytesOf "\uFEFFa") :=
    ⟨[97], rfl, rfl⟩
  have given := ((acquisitions_agree declared).2.2.2.2.1 rfl).2.2 "\uFEFFa"
  exact ⟨declared, names, given.1.1 _ none (by decide +kernel), given.1.2 files "a" none names⟩

end TopicPress.Acquisition
