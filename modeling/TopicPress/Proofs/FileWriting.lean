import TopicPress.FileSystem

/-!
# What writing a file changes

Writing a file changes what is at one place and nothing else.  Places and paths are not the same:
many paths lead to one place, and whether a path leads anywhere depends on the directories on its
way.  Writing makes a file where there was a file or nothing, so every path leads after it where it
led before.
-/

namespace TopicPress.FileSystem

variable {files after : FileSystem}

theorem find?_put {place : List Segment} (notRoot : place ≠ []) (entry : Entry)
    (other : List Segment) :
    (files.put place entry).find? other =
      if other = place then some entry else files.find? other := by
  rw [find?, put, List.lookup_cons]
  by_cases same : other = place
  · rw [same, if_pos rfl, beq_self_eq_true]
    simp [notRoot]
  · rw [if_neg same, beq_false_of_ne same, find?]

/-! ## Where paths lead -/

/-- A path leads to a place, whatever there is. -/
def LeadsTo (files : FileSystem) (path : List UInt8) (place : List Segment) : Prop :=
  pathError? path = none ∧ files.walk (files.start path) (segments path) = .ok place

theorem enter_of_no_directory {place : List Segment}
    (noDirectory : files.find? place ≠ some .directory) (segment : Segment) :
    ∃ error, files.enter place segment = .error error := by
  rw [enter]
  cases found : files.find? place with
  | none => exact ⟨_, rfl⟩
  | some entry =>
      cases entry with
      | file bytes => exact ⟨_, rfl⟩
      | directory => exact absurd found noDirectory

theorem walk_cons (files : FileSystem) (place : List Segment) (segment : Segment)
    (rest : List Segment) :
    files.walk place (segment :: rest) = (files.enter place segment).bind (files.walk · rest) := by
  rw [walk, List.foldlM_cons]
  rfl

/-- Only directories decide where a path leads. -/
theorem walk_eq_ok_iff
    (directories : ∀ place,
      after.find? place = some .directory ↔ files.find? place = some .directory)
    (path : List Segment) :
    ∀ {place last : List Segment},
      after.walk place path = .ok last ↔ files.walk place path = .ok last := by
  induction path with
  | nil =>
      intro place last
      exact Iff.rfl
  | cons segment rest inductionHypothesis =>
      intro place last
      rw [walk_cons, walk_cons]
      by_cases found : files.find? place = some .directory
      · have entered : after.enter place segment = files.enter place segment := by
          rw [enter, enter, found, (directories place).mpr found]
        rw [entered]
        cases files.enter place segment with
        | error error => exact Iff.rfl
        | ok next => exact inductionHypothesis
      · rcases enter_of_no_directory found segment with ⟨error, stopped⟩
        rcases enter_of_no_directory (fun also => found ((directories place).mp also)) segment with
          ⟨error', stopped'⟩
        rw [stopped, stopped']
        exact ⟨nofun, nofun⟩

theorem read_eq_ok_iff {path content : List UInt8} :
    files.read path = .ok content ↔
      ∃ place, files.LeadsTo path place ∧ files.find? place = some (.file content) ∧
        endsInSlash path = false := by
  rw [read]
  cases proper : pathError? path with
  | some error => simp [LeadsTo, proper]
  | none =>
      cases walked : files.walk (files.start path) (segments path) with
      | error error => simp [LeadsTo, walked, bind, Except.bind]
      | ok place =>
          simp only [LeadsTo, proper, walked, bind, Except.bind, Except.ok.injEq, true_and,
            exists_eq_left']
          cases files.find? place with
          | none => simp
          | some entry =>
              cases entry with
              | directory => simp
              | file bytes => cases endsInSlash path <;> simp

theorem target_of_eq_ok {path : List UInt8} {place : List Segment}
    (chosen : files.target path = .ok place) :
    files.LeadsTo path place ∧ files.find? place ≠ some .directory ∧ endsInSlash path = false := by
  rw [target] at chosen
  cases proper : pathError? path with
  | some error => simp [proper] at chosen
  | none =>
      cases walked : files.walk (files.start path) (segments path) with
      | error error => simp [proper, walked, bind, Except.bind] at chosen
      | ok last =>
          simp only [proper, walked, bind, Except.bind] at chosen
          split at chosen
          · cases chosen
          · cases chosen
          · cases chosen
          · rename_i above noDirectory
            split at chosen
            · cases chosen
            · rename_i ending
              cases chosen
              exact ⟨⟨proper, walked⟩, noDirectory, Bool.eq_false_iff.mpr ending⟩

/-! ## Writing -/

/-- All that differs is the file at `place`, which holds `content`. -/
structure OnlyChange (files after : FileSystem) (place : List Segment) (content : List UInt8) :
    Prop where
  current : after.current = files.current
  found : ∀ other, after.find? other =
    if other = place then some (.file content) else files.find? other
  /-- A path that leads elsewhere reads what it read before. -/
  reads : ∀ path, ¬ files.LeadsTo path place →
    ∀ read, after.read path = .ok read ↔ files.read path = .ok read

/-- Writing to a path changes the file that the path leads to, and the path reads it back. -/
theorem onlyChange_of_write {path content : List UInt8}
    (written : files.write path content = .ok after) :
    after.read path = .ok content ∧
      ∃ place, files.LeadsTo path place ∧ OnlyChange files after place content := by
  rw [write] at written
  cases chosen : files.target path with
  | error error => simp [chosen, bind, Except.bind] at written
  | ok place =>
      rw [chosen] at written
      cases written
      rcases target_of_eq_ok chosen with ⟨leads, noDirectory, ending⟩
      have notRoot : place ≠ [] := by
        rintro rfl
        exact noDirectory rfl
      have found := @find?_put files place notRoot (.file content)
      have directories : ∀ other, (files.put place (.file content)).find? other = some .directory ↔
          files.find? other = some .directory := by
        intro other
        rw [found]
        split
        · rename_i same
          rw [same]
          exact ⟨nofun, fun impossible => absurd impossible noDirectory⟩
        · exact Iff.rfl
      have leadsAfter : ∀ {path last}, (files.put place (.file content)).LeadsTo path last ↔
          files.LeadsTo path last :=
        and_congr_right' (walk_eq_ok_iff directories _)
      refine ⟨?_, place, leads, rfl, found, ?_⟩
      · exact read_eq_ok_iff.mpr ⟨place, leadsAfter.mpr leads, by rw [found, if_pos rfl], ending⟩
      · intro other elsewhere read
        have samePlaces : ∀ last, files.LeadsTo other last →
            (files.put place (.file content)).find? last = files.find? last := by
          intro last leadsOther
          have different : last ≠ place := by
            rintro rfl
            exact elsewhere leadsOther
          rw [found, if_neg different]
        rw [read_eq_ok_iff, read_eq_ok_iff]
        apply exists_congr
        intro last
        rw [leadsAfter]
        exact and_congr_right fun leadsOther => by rw [samePlaces last leadsOther]

end TopicPress.FileSystem
