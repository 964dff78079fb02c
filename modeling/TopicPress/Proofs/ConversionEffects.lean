import TopicPress.Conversion
import TopicPress.Proofs.FileWriting
import TopicPress.Proofs.Receiving

/-!
# What a conversion changes

A conversion asks the world for a configuration and a document before it asks it to write anything,
and what it then writes is settled.  So a conversion that fails before it has the whole topic leaves
the world as it was, and one that succeeds changes its target only, even if the target is what it
has read from.  The files here are those of the model: a failure while a file is being written does
not occur in it.
-/

namespace TopicPress.Conversion

/-! ## Topics -/

/-- The topic of an acquired text: its XML, or the lines of its events. -/
def topic (form : Form) (options : RenderOptions) (acquired : AcquiredText) :
    Except (RenderError Xml.WriteError) String :=
  let document := (Markdown.read (String.ofList acquired.text)).toDocument (some acquired.document)
  match form with
  | .xml => Xml.ofDocument options document
  | .eventLines =>
    ((document.toEvents options).mapError RenderError.widen).map
      (fun events => Event.jsonLines events.toList)

theorem result_topicText_xml (options : RenderOptions) (document : Document) :
    (topicText .xml options document).result =
      (Xml.ofDocument options document).mapError Failure.rendering := by
  simp only [topicText, Xml.ofDocument]
  cases (Xml.render options document {}).result <;> rfl

theorem result_topicText_eventLines (options : RenderOptions) (document : Document) :
    (topicText .eventLines options document).result =
      (((document.toEvents options).mapError RenderError.widen).map
        (fun events => Event.jsonLines events.toList)).mapError Failure.rendering := by
  rw [Document.toEvents_eq]
  simp only [topicText]
  cases (document.render options).failure <;> rfl

theorem result_convert (form : Form) (options : RenderOptions) (acquired : AcquiredText) :
    (convert form options acquired).result =
      (topic form options acquired).mapError Failure.rendering := by
  cases form with
  | xml => exact result_topicText_xml options _
  | eventLines => exact result_topicText_eventLines options _

/-! ## Writing in a world -/

/-- All that differs is what has been written to the target: `bytes`. -/
def World.OnlyWrites (before after : World) (target : Target) (bytes : List UInt8) : Prop :=
  match target with
  | .standardOutput => after = { before with output := before.output ++ bytes }
  | .file path =>
    after = { before with files := after.files } ∧
      after.files.read (Utf8.bytesOf path) = .ok bytes ∧
      ∃ place, before.files.LeadsTo (Utf8.bytesOf path) place ∧
        before.files.OnlyChange after.files place bytes

theorem run_bind_of_run {α β : Type} {first : StateM World α} {world after : World} {answer : α}
    (ran : first.run world = (answer, after)) (next : α → StateM World β) :
    (first >>= next).run world = (next answer).run after := by
  rw [StateT.run_bind, ran]
  rfl

theorem run_writeFile (world : World) (path bytes : List UInt8) :
    (World.surroundings.writeFile path bytes).run world =
      match world.files.write path bytes with
      | .ok files => (.ok (), { world with files })
      | .error cause => (.error (.create cause), world) := by
  have read : (get : StateM World World).run world = (world, world) := rfl
  simp only [World.surroundings]
  rw [run_bind_of_run read]
  cases world.files.write path bytes <;> rfl

/-- What comes of writing a topic: the target cannot be written and nothing changes, or nothing but
the target changes. -/
def World.Delivered (world : World) (target : Target) (bytes : List UInt8)
    (result : Except Failure Unit) (after : World) : Prop :=
  (∃ path cause, target = .file path ∧
      world.files.write (Utf8.bytesOf path) bytes = .error cause ∧
      result = .error (.file path (.create cause)) ∧ after = world) ∨
    (result = .ok () ∧ world.OnlyWrites after target bytes)

theorem run_deliver (world : World) (target : Target) (text : String) :
    let run := (deliver World.surroundings target text).run world
    world.Delivered target (Utf8.bytesOf text) run.1 run.2 := by
  intro run
  cases target with
  | standardOutput => exact Or.inr ⟨rfl, rfl⟩
  | file path =>
      have wrote := run_writeFile world (Utf8.bytesOf path) (Utf8.bytesOf text)
      cases written : world.files.write (Utf8.bytesOf path) (Utf8.bytesOf text) with
      | error cause =>
          rw [written] at wrote
          have ran : run = (.error (.file path (.create cause)), world) := run_bind_of_run wrote _
          rw [ran]
          exact Or.inl ⟨path, cause, rfl, written, rfl, rfl⟩
      | ok files =>
          rw [written] at wrote
          have ran : run = (.ok (), { world with files }) := run_bind_of_run wrote _
          rw [ran]
          exact Or.inr ⟨rfl, rfl, FileSystem.onlyChange_of_write written⟩

/-! ## What a request comes to in a world -/

/-- The options of a request. -/
def World.options (world : World) (request : Request) : Except ConfigurationError RenderOptions :=
  Id.run (Configuration.load (fun path => world.files.read path) request.configuration
    request.identifierFromMetadata)

theorem run_load (world : World) (request : Request) :
    (Configuration.load World.surroundings.readFile request.configuration
      request.identifierFromMetadata).run world = (world.options request, world) := by
  rw [World.options]
  cases request.configuration <;> rfl

variable [Encoding.MultiByte]

/-- The document that a request names, acquired from what the world has. -/
def World.acquisition (world : World) (request : Request) : Acquisition :=
  match request.source with
  | .standardInput => .fromBytes world.input request.encoding (some inputName)
  | .location location =>
    Id.run (.fromLocation (fun path => world.files.read path) location request.encoding none)

theorem run_acquire (world : World) (request : Request) :
    (acquire World.surroundings request).run world = (world.acquisition request, world) := by
  rw [acquire, World.acquisition]
  cases request.source with
  | standardInput =>
      simp only [Acquisition.fromReader, Acquisition.fromBytes, Option.getD_some]
      cases Acquisition.encoding inputName request.encoding <;> rfl
  | location location =>
      simp only [Acquisition.fromLocation]
      cases Acquisition.plan location request.encoding none <;> rfl

/-- What a request comes to in a world: the text of its topic, or why there is none. -/
def World.prepared (world : World) (request : Request) : Except Failure String := do
  let options ← (world.options request).mapError .configuration
  let acquired ← (world.acquisition request).result.mapError .acquisition
  (topic request.form options acquired).mapError .rendering

/-- Preparing a topic changes nothing. -/
theorem run_prepare (world : World) (request : Request) :
    ((prepare World.surroundings request).run world).1.result = world.prepared request ∧
      ((prepare World.surroundings request).run world).2 = world := by
  rw [prepare, run_bind_of_run (run_load world request), World.prepared]
  cases world.options request with
  | error error => exact ⟨rfl, rfl⟩
  | ok options =>
      simp only []
      rw [run_bind_of_run (run_acquire world request)]
      cases acquired : (world.acquisition request).result with
      | error error => exact ⟨rfl, rfl⟩
      | ok document => exact ⟨result_convert request.form options document, rfl⟩

/-- A conversion fails at once if there is no topic, and otherwise writes it. -/
theorem run_execute (world : World) (request : Request) :
    let run := (execute World.surroundings request).run world
    match world.prepared request with
    | .error failure => run.1.result = .error failure ∧ run.2 = world
    | .ok text =>
      world.Delivered request.target (Utf8.bytesOf text) run.1.result run.2 := by
  intro run
  have prepared := run_prepare world request
  cases ran : (prepare World.surroundings request).run world with
  | mk outcome after =>
      rw [ran] at prepared
      rcases prepared with ⟨result, rfl⟩
      have executed : run = _ := run_bind_of_run ran _
      rw [← result, executed]
      cases outcome.result with
      | error failure => exact ⟨rfl, rfl⟩
      | ok text =>
          have delivered := run_deliver after request.target text
          cases delivery : (deliver World.surroundings request.target text).run after with
          | mk answer last =>
              rw [delivery] at delivered
              simp only []
              rw [run_bind_of_run delivery]
              exact delivered

/-! ## What is left of the world -/

/-- A conversion that fails for its configuration, its document or its topic leaves the world as it
was.  Any other writes the topic, made of what the world had before, and changes nothing else. -/
theorem execute_changes_target_only (request : Request) (world : World) :
    let run := (execute World.surroundings request).run world
    match world.options request, (world.acquisition request).result with
    | .error error, _ => run.1.result = .error (.configuration error) ∧ run.2 = world
    | .ok _, .error error => run.1.result = .error (.acquisition error) ∧ run.2 = world
    | .ok options, .ok acquired =>
      match topic request.form options acquired with
      | .error error => run.1.result = .error (.rendering error) ∧ run.2 = world
      | .ok text => world.Delivered request.target (Utf8.bytesOf text) run.1.result run.2 := by
  intro run
  have executed := run_execute world request
  cases options : world.options request with
  | error error =>
      rw [World.prepared, options] at executed
      exact executed
  | ok options' =>
      cases acquired : (world.acquisition request).result with
      | error error =>
          rw [World.prepared, options, acquired] at executed
          exact executed
      | ok document =>
          have prepared : world.prepared request =
              (topic request.form options' document).mapError .rendering := by
            rw [World.prepared, options, acquired]
            rfl
          rw [prepared] at executed
          simp only []
          cases made : topic request.form options' document with
          | error error =>
              rw [made] at executed
              exact executed
          | ok text =>
              rw [made] at executed
              exact executed

end TopicPress.Conversion
