import TopicPress.Input.Acquisition
import TopicPress.Proofs.Utf8Strictness

/-!
# What comes of a stream of characters

A stream of characters can fail, and it can end with bytes that are not UTF-8.  A failure of the
stream goes first, whatever the bytes before it are.  The two are told apart by the kind of the error
alone: a stream that fails because its own data mean nothing is reported as one that is not UTF-8,
although its bytes may be the bytes of a text.  A label has no part in this.
-/

namespace TopicPress.Acquisition

/-- What a stream of characters gives, named `document`. -/
structure GivesCharacters (stream : Stream) (document : String)
    (result : Except AcquisitionError AcquiredText) : Prop where
  /-- The stream ended and is not UTF-8, or it says itself that its data are invalid. -/
  invalid : result = .error (.invalidCharacters document) ↔
    (stream.failure = none ∧ ∀ text : String, stream.pieces.flatten ≠ Utf8.bytesOf text) ∨
      ∃ message, stream.failure = some (.invalidData message)
  /-- The stream failed for any other reason. -/
  unread : ∀ cause, result = .error (.read document cause) ↔
    stream.failure = some cause ∧ ∀ message, cause ≠ .invalidData message
  text : ∀ text : String, result = .ok ⟨document, text.toList⟩ ↔
    stream.failure = none ∧ stream.pieces.flatten = Utf8.bytesOf text

theorem isInvalidData_eq_true_iff (error : IoError) :
    error.isInvalidData = true ↔ ∃ message, error = .invalidData message := by
  cases error <;> simp [IoError.isInvalidData]

/-- A stream that fails gives its error, and no text. -/
theorem givesCharacters_of_failure {stream : Stream} {error : IoError}
    (failed : stream.failure = some error) (name : Option String) :
    GivesCharacters stream (name.getD anonymous) (fromCharacters stream name).result := by
  have read : stream.readText = .error error := by
    simp only [Stream.readText, Stream.readAll, failed]
  have given : (fromCharacters stream name).result =
      .error (if error.isInvalidData then .invalidCharacters (name.getD anonymous)
        else .read (name.getD anonymous) error) := by
    simp only [fromCharacters, read]
  have unended : stream.failure ≠ none := by
    rw [failed]
    exact Option.some_ne_none error
  have noText : ∀ text : String,
      ¬ (stream.failure = none ∧ stream.pieces.flatten = Utf8.bytesOf text) :=
    fun text whole => unended whole.1
  cases kind : error.isInvalidData with
  | true =>
      rcases (isInvalidData_eq_true_iff error).1 kind with ⟨message, rfl⟩
      rw [given, kind, if_pos rfl]
      refine ⟨iff_of_true rfl (Or.inr ⟨message, failed⟩), fun cause => iff_of_false nofun ?_,
        fun text => iff_of_false nofun (noText text)⟩
      rintro ⟨found, other⟩
      exact other message (Option.some.inj (found.symm.trans failed))
  | false =>
      have other : ∀ message, error ≠ .invalidData message := by
        rintro message rfl
        cases kind
      rw [given, kind, if_neg Bool.false_ne_true]
      refine ⟨iff_of_false nofun ?_, fun cause => ?_,
        fun text => iff_of_false nofun (noText text)⟩
      · rintro (⟨ended, -⟩ | ⟨message, found⟩)
        · exact unended ended
        · exact other message (Option.some.inj (failed.symm.trans found))
      · constructor
        · rintro ⟨⟩
          exact ⟨failed, other⟩
        · rintro ⟨found, -⟩
          rw [Option.some.inj (failed.symm.trans found)]

/-- A stream that ends gives the text of its bytes, if they are the bytes of one. -/
theorem givesCharacters_of_end {stream : Stream} (ended : stream.failure = none)
    (name : Option String) :
    GivesCharacters stream (name.getD anonymous) (fromCharacters stream name).result := by
  have unfailing : ∀ error, stream.failure ≠ some error := by
    intro error failed
    rw [ended] at failed
    cases failed
  cases decoded : Utf8.decode? stream.pieces.flatten with
  | some chars =>
      have written := Utf8.decode?_eq_some_iff.1 decoded
      have given : (fromCharacters stream name).result = .ok ⟨name.getD anonymous, chars⟩ := by
        simp only [fromCharacters, Stream.readText, Stream.readAll, ended, decoded, succeed]
      rw [given]
      refine ⟨iff_of_false nofun ?_, fun cause => ?_, fun text => ?_⟩
      · rintro (⟨-, no⟩ | ⟨message, failed⟩)
        · exact no _ written
        · exact unfailing _ failed
      · exact iff_of_false nofun (fun failed => unfailing _ failed.1)
      · constructor
        · rintro ⟨⟩
          rw [String.ofList_toList] at written
          exact ⟨ended, written⟩
        · rintro ⟨-, bytes⟩
          rw [bytes, Utf8.decode?_bytesOf] at decoded
          rw [Option.some.inj decoded]
  | none =>
      have no := Utf8.decode?_eq_none_iff.1 decoded
      have given : (fromCharacters stream name).result =
          .error (.invalidCharacters (name.getD anonymous)) := by
        simp only [fromCharacters, Stream.readText, Stream.readAll, ended, decoded,
          IoError.notUtf8, IoError.isInvalidData, if_true]
      rw [given]
      refine ⟨iff_of_true rfl (Or.inl ⟨ended, no⟩), fun cause => ?_, fun text => ?_⟩
      · exact iff_of_false nofun (fun failed => unfailing _ failed.1)
      · exact iff_of_false nofun (fun whole => no text whole.2)

/-- A stream of characters gives the same under every label: its text if it ends and is UTF-8, its own
error if it fails, and else the error of a text that is not UTF-8, which also stands for a failure of
the stream that says its data are invalid. -/
theorem exists_acquire_characters [Encoding.MultiByte] {m : Type → Type} [Monad m]
    (read : List UInt8 → m (Except IoError (List UInt8))) (stream : Stream) (name : Option String) :
    ∃ acquisition : Acquisition,
      (∀ label, acquire read { origin := .characters stream, label, name } = pure acquisition) ∧
        GivesCharacters stream (name.getD anonymous) acquisition.result := by
  refine ⟨fromCharacters stream name, fun label => rfl, ?_⟩
  cases failure : stream.failure with
  | some error => exact givesCharacters_of_failure failure name
  | none => exact givesCharacters_of_end failure name

/-- A stream with the bytes of a text that fails because of its data is said not to be UTF-8. -/
theorem acquire_failing_characters_invalid :
    let _ : Encoding.MultiByte := { decode := fun _ bytes => (bytes.map fun _ => '\uFFFD', true) }
    let stream : Stream := { pieces := [[0x61], [0x62]], failure := some (.invalidData "bad block") }
    let result := (Id.run (acquire (m := Id) (fun _ => .error .notFound)
      { origin := .characters stream, name := some "a.md" })).result
    stream.pieces.flatten = Utf8.bytesOf "ab" ∧
      result = .error (.invalidCharacters "a.md") ∧
      result ≠ .error (.read "a.md" (.invalidData "bad block")) := by
  intro _ stream result
  have given : result = .error (.invalidCharacters "a.md") := rfl
  refine ⟨by decide, given, fun same => ?_⟩
  rw [given] at same
  cases same

end TopicPress.Acquisition
