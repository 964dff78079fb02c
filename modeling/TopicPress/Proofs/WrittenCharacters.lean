import TopicPress.Proofs.WriteFailure
import TopicPress.Proofs.XmlPieces

/-!
# Which characters are written

Whatever a writer is given, what it has written can be cut into pieces whose data are those of the events
that it accepted.  Since only a class is spelled as it is, what is written consists of characters of XML
if and only if the classes do.  The events may be refused, and the device may fail at any time.  What is
lost then is lost in whole data, and the others stay in their order.
-/

namespace TopicPress.Xml

open Xml.Grammar (IsCharacter isCharacter_of_all_isPrinted)

/-! ## What a writer has written and holds back -/

/-- The data of a start tag that is held back, if there is one. -/
inductive Held : Option StartTag → List Datum → Prop
  | nothing : Held none []
  | tag {name classValue : String} {attributes : List Attribute} :
      (Event.startElement name classValue attributes).NamesAllowed →
        Held (some ⟨name, classValue, attributes.map Writer.mendAttribute⟩)
          (Event.startElement name classValue attributes).data

namespace Writer

/-- The writer has written `pieces`, and holds `held` back. -/
structure Accounts (writer : Writer) (pieces : List Piece) (held : List Datum) : Prop where
  written : writer.device.written.toList = pieces.flatMap Piece.spelled
  named : ∀ piece ∈ pieces, piece.NamesAllowed
  openNamed : ∀ name ∈ writer.openNames, ∀ c ∈ name.toList, IsCharacter c
  held : Held writer.pending held

/-- The data that the writer has written or holds back are `data`. -/
def Keeps (writer : Writer) (data : List Datum) : Prop :=
  ∃ pieces held, writer.Accounts pieces held ∧ Piece.dataOf pieces ++ held = data

theorem keeps_start : ({} : Writer).Keeps [] :=
  ⟨[], [], ⟨rfl, by simp, by simp, .nothing⟩, rfl⟩

namespace Keeps

variable {writer : Writer} {data : List Datum}

/-- Markup is written while a start tag may be held back. -/
theorem append_markup (keeps : writer.Keeps data) {piece : Piece} (isMarkup : piece.datum? = none)
    (named : piece.NamesAllowed) {text : String} (spelled : text.toList = piece.spelled) :
    (writer.append text).Keeps data := by
  rcases keeps with ⟨pieces, held, accounts, rfl⟩
  refine ⟨pieces ++ [piece], held, ⟨?_, ?_, accounts.openNamed, accounts.held⟩, ?_⟩
  · simp [append, accounts.written, spelled]
  · exact List.forall_mem_append.mpr ⟨accounts.named, List.forall_mem_singleton.mpr named⟩
  · rw [Piece.dataOf_append, Piece.dataOf, Piece.dataOf, List.filterMap_cons_none isMarkup,
      List.filterMap_nil, List.append_nil]

/-- The start tag that is held back is written, and ended as `ending` says. -/
theorem append_tag {tag : StartTag} (keeps : writer.Keeps data) (held : writer.pending = some tag)
    {ending : Piece} (isMarkup : ending.datum? = none) (named : ending.NamesAllowed) {text : String}
    (spelled : text.toList = '<' :: tag.inner.toList ++ ending.spelled) :
    (writer.unheld.append text).Keeps data := by
  rcases keeps with ⟨pieces, heldData, accounts, rfl⟩
  have holds := accounts.held
  rw [held] at holds
  cases holds with
  | @tag name classValue attributes tagNamed =>
      refine ⟨pieces ++ (Piece.ofTag name classValue attributes ++ [ending]), [],
        ⟨?_, ?_, accounts.openNamed, .nothing⟩, ?_⟩
      · simp [append, unheld, accounts.written, spelled, Piece.spelled_ofTag]
      · exact List.forall_mem_append.mpr ⟨accounts.named, List.forall_mem_append.mpr
          ⟨Piece.namesAllowed_ofTag tagNamed, List.forall_mem_singleton.mpr named⟩⟩
      · have noData : Piece.dataOf [ending] = [] := List.filterMap_cons_none isMarkup
        rw [Piece.dataOf_append, Piece.dataOf_append, Piece.dataOf_ofTag, noData, List.append_nil,
          List.append_nil]

theorem flushed (keeps : writer.Keeps data) : writer.flushed.Keeps data := by
  rw [Writer.flushed]
  cases held : writer.pending with
  | none => exact keeps
  | some tag =>
      have named : Piece.NamesAllowed .tagEnd := by simp [Piece.NamesAllowed, Piece.name?]
      exact keeps.append_tag held rfl named (by simp [StartTag.opening, Piece.spelled])

/-- A text is written where nothing is held back. -/
theorem append_content (keeps : writer.Keeps data) (nothingHeld : writer.pending = none)
    (text : String) :
    (writer.append (escape (mend text))).Keeps (data ++ [.content text]) := by
  rcases keeps with ⟨pieces, held, accounts, rfl⟩
  have holds := accounts.held
  rw [nothingHeld] at holds
  cases holds
  have named : Piece.NamesAllowed (.datum (.content text)) := by simp [Piece.NamesAllowed, Piece.name?]
  refine ⟨pieces ++ [.datum (.content text)], [],
    ⟨?_, ?_, accounts.openNamed, accounts.held⟩, ?_⟩
  · simp [append, accounts.written, toList_escape_mend, Piece.spelled, Datum.spelled]
  · exact List.forall_mem_append.mpr ⟨accounts.named, List.forall_mem_singleton.mpr named⟩
  · rw [Piece.dataOf_append, List.append_nil, List.append_nil]
    rfl

theorem put (keeps : writer.Keeps data) (text : String) :
    (writer.put (escape (mend text))).Keeps (data ++ (Event.characters text).data) := by
  by_cases empty : text = ""
  · rw [empty, Event.data, if_pos rfl, List.append_nil]
    exact keeps
  · rw [put_of_ne_empty writer (mt (escape_mend_eq_empty_iff text).mp empty), Event.data,
      if_neg empty]
    exact keeps.flushed.append_content (pending_flushed writer) text

theorem declared (keeps : writer.Keeps data) : writer.declared.Keeps data := by
  have named : Piece.NamesAllowed .declaration := by simp [Piece.NamesAllowed, Piece.name?]
  rw [Writer.declared]
  split
  · exact keeps.append_markup rfl named rfl
  · exact keeps

theorem opened (keeps : writer.Keeps data) {name classValue : String} {attributes : List Attribute}
    (named : (Event.startElement name classValue attributes).NamesAllowed) :
    (writer.opened name classValue attributes).Keeps
      (data ++ (Event.startElement name classValue attributes).data) := by
  rcases keeps.flushed with ⟨pieces, held, accounts, rfl⟩
  have holds := accounts.held
  rw [pending_flushed] at holds
  cases holds
  refine ⟨pieces, _, ⟨accounts.written, accounts.named, ?_, .tag named⟩, ?_⟩
  · exact List.forall_mem_cons.mpr ⟨named.1, accounts.openNamed⟩
  · rw [List.append_nil]

/-- What is open and what is closed does not matter, as long as no name is added. -/
theorem of_fields (keeps : writer.Keeps data) {other : Writer}
    (device : other.device.written = writer.device.written)
    (pending : other.pending = writer.pending)
    (openNames : ∀ name ∈ other.openNames, name ∈ writer.openNames) : other.Keeps data := by
  rcases keeps with ⟨pieces, held, accounts, same⟩
  refine ⟨pieces, held, ⟨?_, accounts.named, ?_, ?_⟩, same⟩
  · rw [device, accounts.written]
  · exact fun name member => accounts.openNamed name (openNames name member)
  · rw [pending]
    exact accounts.held

/-- A start tag that is given up takes its data with it. -/
theorem unheld (keeps : writer.Keeps data) :
    ∃ left, left.Sublist data ∧ writer.unheld.Keeps left := by
  rcases keeps with ⟨pieces, held, accounts, rfl⟩
  refine ⟨Piece.dataOf pieces, List.sublist_append_left _ _, pieces, [], ?_, List.append_nil _⟩
  exact ⟨accounts.written, accounts.named, accounts.openNamed, .nothing⟩

theorem forgotten (keeps : writer.Keeps data) :
    ∃ left, left.Sublist data ∧ writer.forgotten.Keeps left := by
  rcases keeps.unheld with ⟨left, fewer, unheld⟩
  exact ⟨left, fewer, unheld.of_fields rfl rfl fun name member => List.mem_of_mem_tail member⟩

theorem ended (keeps : writer.Keeps data) {name : String} {rest : List String}
    (names : writer.openNames = name :: rest) (rootClosed : Bool) :
    Keeps { ({ writer with openNames := rest, pending := none } : Writer).append
        (match writer.pending with
        | some tag => tag.selfClosing
        | none => closingTag name) with rootClosed } data := by
  have stillOpen : ∀ other ∈ rest, other ∈ writer.openNames :=
    fun other member => names ▸ List.mem_cons_of_mem name member
  cases held : writer.pending with
  | some tag =>
      have named : Piece.NamesAllowed .emptyTagEnd := by simp [Piece.NamesAllowed, Piece.name?]
      have spelled : tag.selfClosing.toList =
          '<' :: tag.inner.toList ++ Piece.spelled .emptyTagEnd := by
        simp [StartTag.selfClosing, Piece.spelled]
      exact (keeps.append_tag held rfl named spelled).of_fields rfl rfl stillOpen
  | none =>
      have named : Piece.NamesAllowed (.closingTag name) := by
        rcases keeps with ⟨pieces, _, accounts, _⟩
        simpa [Piece.NamesAllowed, Piece.name?] using accounts.openNamed name (by simp [names])
      have spelled : (Writer.closingTag name).toList = Piece.spelled (.closingTag name) := by
        simp [closingTag, Piece.spelled]
      exact (keeps.append_markup rfl named spelled).of_fields rfl held.symm stillOpen

end Keeps

/-! ## Runs -/

/-- The writer after an action. -/
def act (writer : Writer) : Action → Writer
  | .deliver event => (sink.receive writer event).state
  | .turn fault => writer.withFault fault

/-- The data of an event, if it is accepted. -/
def taken (writer : Writer) (event : Event) : List Datum :=
  if (sink.receive writer event).refusal.isNone then event.data else []

/-- The data of all events that are accepted. -/
def takenAll (writer : Writer) : List Action → List Datum
  | [] => []
  | .deliver event :: later =>
    writer.taken event ++ (sink.receive writer event).state.takenAll later
  | .turn fault :: later => (writer.withFault fault).takenAll later

theorem taken_of_accepted {writer : Writer} {event : Event}
    (accepted : (sink.receive writer event).refusal = none) : writer.taken event = event.data := by
  rw [taken, accepted]
  rfl

theorem taken_of_refused {writer : Writer} {event : Event} {reason : WriteError}
    (refused : (sink.receive writer event).refusal = some reason) : writer.taken event = [] := by
  rw [taken, refused]
  rfl

theorem fault_declared (writer : Writer) : writer.declared.device.fault = writer.device.fault := by
  rw [declared]
  split <;> rfl

theorem fault_put (writer : Writer) (content : String) :
    (writer.put content).device.fault = writer.device.fault := by
  rw [put]
  split
  · rfl
  · exact fault_flushed writer

namespace Keeps

variable {writer : Writer} {data : List Datum} {event : Event}

theorem of_accepted {next : Writer} (kept : next.Keeps (data ++ event.data))
    (accepted : (sink.receive writer event).refusal = none)
    (state : (sink.receive writer event).state = next) :
    (sink.receive writer event).state.Keeps (data ++ writer.taken event) := by
  rwa [taken_of_accepted accepted, state]

/-- An event without data may be accepted or not. -/
theorem of_no_data {next : Writer} (kept : next.Keeps data) (noData : event.data = [])
    (state : (sink.receive writer event).state = next) :
    (sink.receive writer event).state.Keeps (data ++ writer.taken event) := by
  rwa [taken, noData, ite_self, List.append_nil, state]

theorem of_refuses {reason : WriteError} (keeps : writer.Keeps data)
    (refuses : sink.receive writer event = writer.refuse reason) :
    (sink.receive writer event).state.Keeps (data ++ writer.taken event) := by
  have refused : (sink.receive writer event).refusal = some reason := by rw [refuses]; rfl
  rwa [taken_of_refused refused, List.append_nil, refuses]

/-- A device that works loses nothing, and still works afterwards. -/
theorem receive_of_works (keeps : writer.Keeps data) (works : writer.device.fault = none)
    (named : event.NamesAllowed) :
    (sink.receive writer event).state.Keeps (data ++ writer.taken event) ∧
      (sink.receive writer event).state.device.fault = none := by
  rcases writer.admits_or_refuses event with ⟨unfinished, fits⟩ | ⟨reason, refuses, _⟩
  · cases event with
    | startElement name classValue attributes =>
        have started := startElement_eq works unfinished fits name classValue attributes
        refine ⟨of_accepted (keeps.declared.opened named) started.1 started.2, ?_⟩
        calc (writer.startElement name classValue attributes).state.device.fault
            = (writer.declared.opened name classValue attributes).device.fault := by rw [started.2]
          _ = writer.declared.device.fault := fault_flushed _
          _ = none := (fault_declared writer).trans works
    | characters text =>
        have written := characters_eq works unfinished fits text
        refine ⟨of_accepted (keeps.put text) written.1 written.2, ?_⟩
        calc (writer.characters text).state.device.fault
            = (writer.put (escape (mend text))).device.fault := by rw [written.2]
          _ = none := (fault_put writer _).trans works
    | endElement =>
        rcases fits with ⟨name, rest, names⟩
        have ended := endElement_within works unfinished names
        refine ⟨of_no_data (keeps.ended names _) rfl ended.2, ?_⟩
        change writer.endElement.state.device.fault = none
        rw [ended.2]
        exact works
    | endDocument =>
        have ended := endDocument_eq works unfinished fits
        have finished : Keeps { writer.append "" with finished := true } data :=
          keeps.of_fields String.append_empty rfl fun _ member => member
        refine ⟨of_no_data finished rfl ended.2, ?_⟩
        change writer.endDocument.state.device.fault = none
        rw [ended.2]
        exact works
  · refine ⟨keeps.of_refuses refuses, ?_⟩
    rw [refuses]
    exact works

/-- A device that fails may lose a start tag that is held back, and nothing else. -/
theorem receive_of_fault (keeps : writer.Keeps data) {fault : String}
    (broken : writer.device.fault = some fault) (holds : writer.HoldsInElement)
    (named : event.NamesAllowed) :
    ∃ left, left.Sublist (data ++ writer.taken event) ∧
      (sink.receive writer event).state.Keeps left := by
  have of_fewer : ∀ {next : Writer}, (∃ left, left.Sublist data ∧ next.Keeps left) →
      (sink.receive writer event).state = next → ∃ left, left.Sublist (data ++ writer.taken event) ∧
        (sink.receive writer event).state.Keeps left := by
    rintro next ⟨left, fewer, kept⟩ rfl
    exact ⟨left, fewer.trans (List.sublist_append_left _ _), kept⟩
  rcases writer.admits_or_refuses event with ⟨unfinished, fits⟩ | ⟨reason, refuses, _⟩
  · cases event with
    | startElement name classValue attributes =>
        -- A start tag is accepted from a broken device if nothing has to be written before it.
        rcases startElement_of_fault broken holds unfinished fits name classValue attributes with
          ⟨_, _, state⟩ | ⟨_, accepted, state⟩
        · exact of_fewer keeps.unheld state
        · exact ⟨_, List.Sublist.refl _, of_accepted (keeps.opened named) accepted state⟩
    | characters text =>
        by_cases empty : text = ""
        · have same : (writer.characters text).state = writer := by
            rw [empty, characters_empty unfinished fits]
            rfl
          exact of_fewer ⟨data, List.Sublist.refl data, keeps⟩ same
        · exact of_fewer keeps.unheld (characters_of_fault broken unfinished fits empty).2
    | endElement =>
        rcases fits with ⟨name, rest, names⟩
        exact of_fewer keeps.forgotten (endElement_of_fault broken unfinished names).2
    | endDocument =>
        have same := (endDocument_of_fault broken unfinished fits).2
        exact of_fewer ⟨data, List.Sublist.refl data, keeps⟩ same
  · exact ⟨_, List.Sublist.refl _, keeps.of_refuses refuses⟩

/-- What one event does to the data that were kept. -/
theorem receive (keeps : writer.Keeps data) (holds : writer.HoldsInElement)
    (named : event.NamesAllowed) :
    ∃ left, left.Sublist (data ++ writer.taken event) ∧
      (sink.receive writer event).state.Keeps left ∧
      (writer.device.fault = none → left = data ++ writer.taken event ∧
        (sink.receive writer event).state.device.fault = none) := by
  cases broken : writer.device.fault with
  | none =>
      rcases keeps.receive_of_works broken named with ⟨kept, works⟩
      exact ⟨_, List.Sublist.refl _, kept, fun _ => ⟨rfl, works⟩⟩
  | some fault =>
      rcases keeps.receive_of_fault broken holds named with ⟨left, fewer, kept⟩
      exact ⟨left, fewer, kept, fun works => by cases works⟩

end Keeps

/-- A run keeps the data that it takes, in their order.  Some of them may be missing, but only if the
device has failed. -/
theorem keeps_run (actions : List Action) :
    ∀ {writer : Writer} {data : List Datum}, writer.Keeps data → writer.HoldsInElement →
      (∀ event, .deliver event ∈ actions → event.NamesAllowed) →
        ∃ left, left.Sublist (data ++ writer.takenAll actions) ∧
          (actions.foldl act writer).Keeps left ∧
          (writer.device.fault = none → (∀ fault, .turn (some fault) ∉ actions) →
            left = data ++ writer.takenAll actions) := by
  -- What is left after the first action may be less than what was kept and taken, so the data are not
  -- fixed in the induction.
  induction actions with
  | nil =>
      intro writer data keeps holds named
      rw [takenAll, List.append_nil]
      exact ⟨data, List.Sublist.refl data, keeps, fun _ _ => rfl⟩
  | cons action later inductionHypothesis =>
      intro writer data keeps holds named
      have namedLater : ∀ event, .deliver event ∈ later → event.NamesAllowed :=
        fun event member => named event (List.mem_cons_of_mem action member)
      cases action with
      | deliver event =>
          have namedNow := named event List.mem_cons_self
          rcases keeps.receive holds namedNow with ⟨between, fewer, kept, nothingLost⟩
          rcases inductionHypothesis kept (holds.receive event) namedLater with
            ⟨left, fewerLater, keptLater, nothingLostLater⟩
          refine ⟨left, ?_, keptLater, ?_⟩
          · rw [takenAll, ← List.append_assoc]
            exact fewerLater.trans (fewer.append_right _)
          · intro works unbroken
            rcases nothingLost works with ⟨same, worksLater⟩
            rw [nothingLostLater worksLater
              (fun fault member => unbroken fault (List.mem_cons_of_mem _ member)), same, takenAll,
              List.append_assoc]
      | turn fault =>
          have turned : (writer.withFault fault).Keeps data :=
            keeps.of_fields rfl rfl fun _ member => member
          rcases inductionHypothesis turned holds namedLater with
            ⟨left, fewerLater, keptLater, nothingLostLater⟩
          refine ⟨left, fewerLater, keptLater, ?_⟩
          intro works unbroken
          cases fault with
          | some fault => exact absurd List.mem_cons_self (unbroken fault)
          | none =>
              exact nothingLostLater rfl
                (fun fault member => unbroken fault (List.mem_cons_of_mem _ member))

/-- What a new writer has written after `actions`, cut into `pieces`, and the data that it still holds
back. -/
structure WritesPieces (actions : List Action) (pieces : List Piece) (held : List Datum) : Prop where
  written : (actions.foldl act {}).device.written.toList = pieces.flatMap Piece.spelled
  holding : Held (actions.foldl act {}).pending held
  /-- No data are written but those of accepted events, once each and in their order. -/
  inOrder : (Piece.dataOf pieces ++ held).Sublist (({} : Writer).takenAll actions)
  /-- None of them is missing unless the device has failed. -/
  complete : (∀ fault, .turn (some fault) ∉ actions) →
    Piece.dataOf pieces ++ held = ({} : Writer).takenAll actions
  /-- Only characters of XML are written, unless there are others in a class. -/
  characters : (∀ c ∈ (actions.foldl act {}).device.written.toList, IsCharacter c) ↔
    ∀ text, .classValue text ∈ Piece.dataOf pieces → ∀ c ∈ text.toList, IsCharacter c

/-- Texts and attribute values are written with a replacement character for each character that XML
does not allow, and classes as they are. -/
theorem exists_writesPieces {actions : List Action}
    (named : ∀ event, .deliver event ∈ actions → event.NamesAllowed) :
    ∃ pieces held, WritesPieces actions pieces held := by
  rcases keeps_run actions keeps_start (holdsInElement_of_no_tag rfl) named with
    ⟨left, fewer, ⟨pieces, held, accounts, rfl⟩, nothingLost⟩
  refine ⟨pieces, held, accounts.written, accounts.held, fewer, nothingLost rfl, ?_⟩
  rw [accounts.written]
  exact Piece.isCharacter_flatMap_spelled_iff accounts.named

/-- A value and a text with characters that are not allowed, an event that is refused, and a device that
fails. -/
theorem exists_writesPieces_of_refusals :
    let actions : List Action := [
      .deliver (.startElement "a" "" [⟨"b", "\u0001x"⟩]),
      .deliver .endDocument,
      .deliver (.characters "y\uFFFF<"),
      .turn (some "pipe broken"),
      .deliver (.characters "z")]
    (∀ event, .deliver event ∈ actions → event.NamesAllowed) ∧
      ∃ pieces held, WritesPieces actions pieces held := by
  intro actions
  have named : ∀ event, .deliver event ∈ actions → event.NamesAllowed := by
    intro event member
    simp only [actions, List.mem_cons, List.not_mem_nil, or_false, reduceCtorEq, false_or,
      Action.deliver.injEq] at member
    rcases member with rfl | rfl | rfl | rfl
    · refine ⟨isCharacter_of_all_isPrinted (by decide), ?_⟩
      exact List.forall_mem_singleton.mpr (isCharacter_of_all_isPrinted (by decide))
    · trivial
    · trivial
    · trivial
  exact ⟨named, exists_writesPieces named⟩

/-- A character that XML does not allow gets through a class. -/
theorem exists_written_not_isCharacter :
    let actions : List Action := [
      .deliver (.startElement "a" "\u0001x" []), .deliver .endElement, .deliver .endDocument]
    (∀ event, .deliver event ∈ actions → event.NamesAllowed) ∧
      (actions.foldl act {}).device.written = declaration ++ "<a class=\"\u0001x\"/>" ∧
      ¬ ∀ c ∈ (actions.foldl act {}).device.written.toList, IsCharacter c := by
  intro actions
  have written : (actions.foldl act {}).device.written = declaration ++ "<a class=\"\u0001x\"/>" := by
    decide +kernel
  refine ⟨?_, written, fun allowed => ?_⟩
  · intro event member
    simp only [actions, List.mem_cons, List.not_mem_nil, or_false, Action.deliver.injEq] at member
    rcases member with rfl | rfl | rfl
    · exact ⟨isCharacter_of_all_isPrinted (by decide), List.forall_mem_nil _⟩
    · trivial
    · trivial
  · have isWritten : '\u0001' ∈ (actions.foldl act {}).device.written.toList := by
      rw [written]
      decide
    exact absurd (allowed '\u0001' isWritten) (by decide)

end Writer

end TopicPress.Xml
