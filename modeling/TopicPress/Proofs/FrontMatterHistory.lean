import Mathlib.Data.List.Dedup
import Mathlib.Data.List.Induction
import TopicPress.Proofs.FrontMatterUpdates
import TopicPress.Topic.Prolog

/-!
# The history of front matter

Front matter is built by inserting and pushing values.  What each key has in the end can be told from
the history of these updates alone, and only from the updates of that key: the values of its last
insertion, and then those pushed since.  So it makes no difference in which order different keys come,
neither to the front matter nor to the prolog that is written of it.
-/

namespace TopicPress.FrontMatter

/-! ## Histories -/

/-- What can be done to front matter. -/
inductive Update where
  | insert (key : String) (values : List MetaValue)
  | push (key : String) (value : MetaValue)

namespace Update

def key : Update → String
  | insert key _ => key
  | push key _ => key

def applyTo (header : FrontMatter) : Update → FrontMatter
  | insert key values => header.insert key values
  | push key value => header.push key value

/-- What the values of the updated key become. -/
def change : Update → Option (List MetaValue) → List MetaValue
  | insert _ values, _ => values
  | push _ value, before => before.getD [] ++ [value]

/-- The values that `key` is given by an insertion. -/
def inserted? (key : String) : Update → Option (List MetaValue)
  | insert other values => if other = key then some values else none
  | push _ _ => none

/-- The value that is pushed to `key`. -/
def pushed? (key : String) : Update → Option MetaValue
  | insert _ _ => none
  | push other value => if other = key then some value else none

end Update

/-- The front matter that updates make of nothing, one after the other. -/
def ofUpdates (history : List Update) : FrontMatter := history.foldl Update.applyTo .empty

/-- Some update is of this key. -/
def Touched (history : List Update) (key : String) : Prop := key ∈ history.map Update.key

instance (history : List Update) (key : String) : Decidable (Touched history key) :=
  inferInstanceAs (Decidable (key ∈ history.map Update.key))

/-- The values of the last insertion, if there is one. -/
def lastInserted (history : List Update) (key : String) : List MetaValue :=
  (history.reverse.findSome? (Update.inserted? key)).getD []

/-- The updates after the last insertion. -/
def sinceInsertion (history : List Update) (key : String) : List Update :=
  (history.reverse.takeWhile (fun update => (update.inserted? key).isNone)).reverse

/-- The values that a history leaves to a key: those of the last insertion and those pushed since. -/
def recorded (history : List Update) (key : String) : List MetaValue :=
  lastInserted history key ++ (sinceInsertion history key).filterMap (Update.pushed? key)

/-- The same, if there is an update of the key at all. -/
def recorded? (history : List Update) (key : String) : Option (List MetaValue) :=
  if Touched history key then some (recorded history key) else none

/-! ## One more update -/

section Step

variable (history : List Update) (update : Update) (key : String)

theorem ofUpdates_concat : ofUpdates (history ++ [update]) = update.applyTo (ofUpdates history) := by
  rw [ofUpdates, List.foldl_append]
  rfl

/-- An update changes the values of its own key and no others. -/
theorem get?_applyTo (header : FrontMatter) :
    (update.applyTo header).get? key =
      if update.key = key then some (update.change (header.get? key)) else header.get? key := by
  split
  · rename_i same
    rw [← same]
    cases update with
    | insert other values => exact get?_insert_self header other values
    | push other value => exact get?_push_self header other value
  · rename_i different
    cases update with
    | insert other values => exact get?_insert_of_ne header other (Ne.symm different) values
    | push other value => exact get?_push_of_ne header other (Ne.symm different) value

theorem touched_concat :
    Touched (history ++ [update]) key ↔ Touched history key ∨ update.key = key := by
  rw [Touched, List.map_append, List.mem_append, List.map_singleton, List.mem_singleton, Touched,
    @eq_comm _ key]

theorem lastInserted_concat :
    lastInserted (history ++ [update]) key =
      (update.inserted? key).getD (lastInserted history key) := by
  rw [lastInserted, List.reverse_concat, List.findSome?_cons]
  cases update.inserted? key <;> rfl

theorem sinceInsertion_concat :
    sinceInsertion (history ++ [update]) key =
      if (update.inserted? key).isNone then sinceInsertion history key ++ [update] else [] := by
  rw [sinceInsertion, List.reverse_concat, List.takeWhile_cons]
  split
  · rw [List.reverse_cons]
    rfl
  · rfl

variable {update key}

theorem recorded_concat_of_inserted {values : List MetaValue}
    (inserts : update.inserted? key = some values) :
    recorded (history ++ [update]) key = values := by
  rw [recorded, lastInserted_concat, sinceInsertion_concat, inserts]
  exact List.append_nil values

theorem recorded_concat_of_not_inserted (inserts : update.inserted? key = none) :
    recorded (history ++ [update]) key =
      recorded history key ++ (update.pushed? key).toList := by
  rw [recorded, lastInserted_concat, sinceInsertion_concat, inserts, Option.getD_none,
    Option.isNone_none, if_pos rfl, List.filterMap_append, ← List.append_assoc]
  cases pushes : update.pushed? key <;> simp [recorded, pushes]

variable (update key)

/-- The record changes as the values do. -/
theorem recorded_concat :
    recorded (history ++ [update]) key =
      if update.key = key then update.change (some (recorded history key))
      else recorded history key := by
  split
  · rename_i same
    rw [← same]
    cases update with
    | insert other values => exact recorded_concat_of_inserted history (if_pos rfl)
    | push other value =>
        have pushes : (Update.push other value).pushed? other = some value := if_pos rfl
        rw [recorded_concat_of_not_inserted history rfl, Update.key, pushes]
        rfl
  · rename_i different
    cases update with
    | insert other values =>
        have inserts : (Update.insert other values).inserted? key = none := if_neg different
        rw [recorded_concat_of_not_inserted history inserts]
        exact List.append_nil _
    | push other value =>
        have pushes : (Update.push other value).pushed? key = none := if_neg different
        rw [recorded_concat_of_not_inserted history rfl, pushes]
        exact List.append_nil _

/-- Nothing is recorded of a key without updates. -/
theorem recorded_of_not_touched {history : List Update} {key : String}
    (untouched : ¬ Touched history key) : recorded history key = [] := by
  induction history using List.reverseRecOn with
  | nil => rfl
  | append_singleton earlier update inductionHypothesis =>
      rw [touched_concat, not_or] at untouched
      rw [recorded_concat, if_neg untouched.2, inductionHypothesis untouched.1]

theorem getD_recorded? : (recorded? history key).getD [] = recorded history key := by
  rw [recorded?]
  split
  · rfl
  · rename_i untouched
    rw [recorded_of_not_touched untouched]
    rfl

theorem change_recorded? :
    update.change (recorded? history key) = update.change (some (recorded history key)) := by
  rw [recorded?]
  split
  · rfl
  · rename_i untouched
    rw [recorded_of_not_touched untouched]
    cases update <;> rfl

theorem recorded?_concat :
    recorded? (history ++ [update]) key =
      if update.key = key then some (update.change (recorded? history key))
      else recorded? history key := by
  by_cases same : update.key = key
  · rw [if_pos same, change_recorded?, recorded?, if_pos ((touched_concat ..).2 (.inr same)),
      recorded_concat, if_pos same]
  · rw [if_neg same, recorded?, recorded?, recorded_concat, if_neg same]
    simp only [touched_concat, same, or_false]

end Step

/-! ## All updates -/

variable (history : List Update)

/-- What is found under a key is what the history leaves to it. -/
theorem get?_ofUpdates (key : String) : (ofUpdates history).get? key = recorded? history key := by
  induction history using List.reverseRecOn with
  | nil => rfl
  | append_singleton earlier update inductionHypothesis =>
      rw [ofUpdates_concat, get?_applyTo, recorded?_concat, inductionHypothesis]

/-- Only the updates of a key matter to what is left to it. -/
theorem recorded?_filter (key : String) :
    recorded? (history.filter (·.key = key)) key = recorded? history key := by
  induction history using List.reverseRecOn with
  | nil => rfl
  | append_singleton earlier update inductionHypothesis =>
      rw [List.filter_append, recorded?_concat]
      split
      · rename_i same
        have kept : [update].filter (·.key = key) = [update] := by simp [same]
        rw [kept, recorded?_concat, if_pos same, inductionHypothesis]
      · rename_i different
        have dropped : [update].filter (·.key = key) = [] := by simp [different]
        rw [dropped, List.append_nil, inductionHypothesis]

/-- The keys that are found are those of the updates. -/
theorem mem_keys_ofUpdates (key : String) :
    key ∈ (ofUpdates history).entries.map Prod.fst ↔ Touched history key := by
  have found := get?_ofUpdates history key
  constructor
  · intro member
    rcases List.mem_map.1 member with ⟨entry, inEntries, rfl⟩
    rw [get?_of_mem inEntries, recorded?] at found
    by_contra untouched
    rw [if_neg untouched] at found
    cases found
  · intro touched
    rw [recorded?, if_pos touched] at found
    exact List.mem_map.2 ⟨(key, recorded history key), mem_entries_iff.2 found, rfl⟩

theorem isEmpty_ofUpdates : (ofUpdates history).isEmpty = true ↔ history = [] := by
  rw [FrontMatter.isEmpty, List.isEmpty_iff]
  constructor
  · intro empty
    have untouched : ∀ key, ¬ Touched history key := by
      intro key
      rw [← mem_keys_ofUpdates, empty]
      exact List.not_mem_nil
    cases history with
    | nil => rfl
    | cons update later => exact absurd List.mem_cons_self (untouched update.key)
  · rintro rfl
    rfl

theorem firstScalar?_eq_some_iff (header : FrontMatter) (key text : String) :
    header.firstScalar? key = some text ↔
      text ≠ "" ∧ ((header.get? key).getD []).head? = some (.scalar text) := by
  rw [FrontMatter.firstScalar?]
  split
  · rename_i first later found
    rw [found, Option.getD_some, List.head?_cons]
    split
    · rename_i empty
      simp only [reduceCtorEq, Option.some.injEq, MetaValue.scalar.injEq, false_iff, not_and]
      rintro nonempty rfl
      exact nonempty (String.isEmpty_iff.1 empty)
    · rename_i nonempty
      simp only [Option.some.injEq, MetaValue.scalar.injEq]
      constructor
      · rintro rfl
        exact ⟨fun empty => nonempty (String.isEmpty_iff.2 empty), rfl⟩
      · exact And.right
  · rename_i other
    simp only [reduceCtorEq, false_iff, not_and]
    intro _ first
    cases found : header.get? key with
    | none =>
        rw [found] at first
        cases first
    | some values =>
        rw [found] at first
        cases values with
        | nil => cases first
        | cons value later =>
            cases first
            exact other text later found

/-- What front matter and a history have to do with each other. -/
structure Reflects (history : List Update) (header : FrontMatter) : Prop where
  /-- The keys come in the order of their bytes, each before the next. -/
  inOrder : (header.entries.map Prod.fst).Pairwise KeyBefore
  once : (header.entries.map Prod.fst).Nodup
  touched : ∀ key, key ∈ header.entries.map Prod.fst ↔ Touched history key
  values : ∀ entry ∈ header.entries, recorded? history entry.1 = some entry.2
  get? : ∀ key, header.get? key = recorded? history key
  contains : ∀ key, header.contains key = true ↔ Touched history key
  firstScalar? : ∀ key text, header.firstScalar? key = some text ↔
    text ≠ "" ∧ (recorded history key).head? = some (.scalar text)
  size : header.size = (history.map Update.key).dedup.length
  isEmpty : header.isEmpty = true ↔ history = []

theorem reflects_ofUpdates : Reflects history (ofUpdates history) where
  inOrder := List.pairwise_map.2 (ofUpdates history).ordered
  once := nodup_keys _
  touched := mem_keys_ofUpdates history
  values entry member := by rw [← get?_ofUpdates, get?_of_mem member]
  get? := get?_ofUpdates history
  contains key := by
    rw [FrontMatter.contains, get?_ofUpdates, recorded?]
    split <;> simp [*]
  firstScalar? key text := by
    rw [firstScalar?_eq_some_iff, get?_ofUpdates, getD_recorded?]
  size := by
    have same : ((ofUpdates history).entries.map Prod.fst).Perm (history.map Update.key).dedup :=
      (List.perm_ext_iff_of_nodup (nodup_keys _) (List.nodup_dedup _)).2 fun key => by
        rw [mem_keys_ofUpdates, List.mem_dedup, Touched]
    rw [FrontMatter.size, ← same.length_eq, List.length_map]
  isEmpty := isEmpty_ofUpdates history

/-- Front matter tells of its history what each key was given, and nothing else: histories with the
same updates of each single key make the same front matter, and the same prolog is written of it. -/
theorem ofUpdates_reflects :
    Reflects history (ofUpdates history) ∧
      ∀ other, (∀ key, other.filter (·.key = key) = history.filter (·.key = key)) →
        ofUpdates other = ofUpdates history ∧
          ∀ options, Prolog.events options (ofUpdates other) =
            Prolog.events options (ofUpdates history) := by
  refine ⟨reflects_ofUpdates history, fun other same => ?_⟩
  have equal : ofUpdates other = ofUpdates history := eq_of_get?_eq fun key => by
    rw [get?_ofUpdates, get?_ofUpdates, ← recorded?_filter, same, recorded?_filter]
  exact ⟨equal, fun options => by rw [equal]⟩

/-- Two keys, one of them given up and begun again, whose updates take turns in another way. -/
theorem ofUpdates_reflects_in_turn :
    let first : List Update :=
      [.push "author" (.scalar "a"), .insert "author" [.scalar "b"], .push "title" .null,
        .push "author" .null]
    let second : List Update :=
      [.push "title" .null, .push "author" (.scalar "a"), .insert "author" [.scalar "b"],
        .push "author" .null]
    (∀ key, second.filter (·.key = key) = first.filter (·.key = key)) ∧
      ofUpdates second = ofUpdates first ∧
      (ofUpdates first).get? "author" = some [.scalar "b", .null] := by
  intro first second
  have same : ∀ key, second.filter (·.key = key) = first.filter (·.key = key) := by
    intro key
    by_cases author : key = "author"
    · rw [author]
      rfl
    · by_cases title : key = "title"
      · rw [title]
        rfl
      · simp [first, second, Update.key, Ne.symm author, Ne.symm title]
  have reflects := ofUpdates_reflects first
  exact ⟨same, (reflects.2 second same).1, (reflects.1.get? "author").trans (by decide)⟩

end TopicPress.FrontMatter
