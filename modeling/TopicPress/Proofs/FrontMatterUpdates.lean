import TopicPress.Document.FrontMatter

/-!
# Changing front matter

Each operation on front matter gives one key what some function makes of the values that it has.  So
what a change does to the values of a key, and what two changes of one key come to, is settled once
for all functions; that the keys are in order makes the place of a key the only one it can have.
-/

namespace TopicPress.FrontMatter

section Entries

variable {key : String} {change : Option (List MetaValue) → List MetaValue}

/-- A key that comes before the first one has no entry. -/
theorem lookup_eq_none_of_before {entry : Entry} {rest : List Entry}
    (ordered : Ordered (entry :: rest)) (before : KeyBefore key entry.1) :
    (entry :: rest).lookup key = none := by
  rw [List.lookup_eq_none_iff]
  intro other member
  rw [bne_iff_ne]
  rintro rfl
  rcases List.mem_cons.1 member with rfl | later
  · exact before.irrefl
  · exact (before.trans ((List.pairwise_cons.1 ordered).1 other later)).irrefl

theorem lookup_alterEntries_self {entries : List Entry} (ordered : Ordered entries) :
    (alterEntries key change entries).lookup key = some (change (entries.lookup key)) := by
  induction entries with
  | nil => simp [alterEntries]
  | cons entry rest inductionHypothesis =>
      unfold alterEntries
      split
      · rename_i same
        have found : (entry :: rest).lookup key = some entry.2 := by
          rw [← same, List.lookup_cons_self]
        rw [List.lookup_cons_self, found]
      · rename_i different
        split
        · rename_i before
          rw [lookup_eq_none_of_before ordered before]
          simp
        · rw [List.lookup_cons, List.lookup_cons, beq_false_of_ne (Ne.symm different)]
          exact inductionHypothesis (List.pairwise_cons.1 ordered).2

theorem lookup_alterEntries_of_ne {other : String} (different : other ≠ key)
    (entries : List Entry) :
    (alterEntries key change entries).lookup other = entries.lookup other := by
  have apart : (other == key) = false := beq_false_of_ne different
  induction entries with
  | nil => simp [alterEntries, List.lookup_cons, apart]
  | cons entry rest inductionHypothesis =>
      unfold alterEntries
      split
      · rename_i same
        rw [List.lookup_cons, List.lookup_cons, same, apart]
      · split
        · rw [List.lookup_cons, apart]
        · rw [List.lookup_cons, List.lookup_cons, inductionHypothesis]

/-- Two changes of one key are one. -/
theorem alterEntries_alterEntries (next : Option (List MetaValue) → List MetaValue)
    (entries : List Entry) :
    alterEntries key next (alterEntries key change entries) =
      alterEntries key (fun values => next (some (change values))) entries := by
  induction entries with
  | nil => simp [alterEntries]
  | cons entry rest inductionHypothesis =>
      conv => lhs; arg 3; unfold alterEntries
      conv => rhs; unfold alterEntries
      split
      · simp [alterEntries]
      · rename_i different
        split
        · simp [alterEntries]
        · rename_i notBefore
          rw [alterEntries, if_neg different, if_neg notBefore, inductionHypothesis]

end Entries

theorem lookup_of_mem {entries : List Entry} (ordered : Ordered entries) {entry : Entry}
    (member : entry ∈ entries) : entries.lookup entry.1 = some entry.2 := by
  induction entries with
  | nil => cases member
  | cons first rest inductionHypothesis =>
      have ⟨before, restOrdered⟩ := List.pairwise_cons.mp ordered
      rcases List.mem_cons.mp member with rfl | later
      · exact List.lookup_cons_self
      · have different : entry.1 ≠ first.1 := by
          intro same
          exact KeyBefore.irrefl _ (same ▸ before entry later)
        rw [List.lookup_cons, beq_eq_false_iff_ne.mpr different]
        exact inductionHypothesis restOrdered later

/-- An entry of a mapping holds the values of its key. -/
theorem get?_of_mem {header : FrontMatter} {entry : Entry} (member : entry ∈ header.entries) :
    header.get? entry.1 = some entry.2 :=
  lookup_of_mem header.ordered member

theorem mem_entries_iff {header : FrontMatter} {entry : Entry} :
    entry ∈ header.entries ↔ header.get? entry.1 = some entry.2 := by
  refine ⟨get?_of_mem, fun found => ?_⟩
  rcases List.lookup_eq_some_iff.1 found with ⟨before, after, whole, -⟩
  rw [whole]
  exact List.mem_append_right _ List.mem_cons_self

/-- Each key stands in one entry. -/
theorem nodup_keys (header : FrontMatter) : (header.entries.map Prod.fst).Nodup := by
  refine List.pairwise_map.2 (header.ordered.imp ?_)
  intro earlier later before same
  exact KeyBefore.irrefl _ (same ▸ before)

/-- Two mappings that give every key the same values are the same. -/
theorem eq_of_get?_eq {first second : FrontMatter} (same : ∀ key, first.get? key = second.get? key) :
    first = second := by
  have nodup : ∀ header : FrontMatter, header.entries.Nodup := by
    intro header
    exact (List.pairwise_map.1 header.nodup_keys).imp fun apart same => apart (congrArg Prod.fst same)
  have members : first.entries.Perm second.entries :=
    (List.perm_ext_iff_of_nodup (nodup first) (nodup second)).2 fun entry => by
      rw [mem_entries_iff, mem_entries_iff, same]
  have entries : first.entries = second.entries :=
    members.eq_of_pairwise
      (fun earlier later _ _ before after => (KeyBefore.irrefl _ (before.trans after)).elim)
      first.ordered second.ordered
  cases first
  cases second
  cases entries
  rfl

variable (header : FrontMatter) (key : String)

theorem get?_insert_self (values : List MetaValue) :
    (header.insert key values).get? key = some values :=
  lookup_alterEntries_self header.ordered

theorem get?_push_self (value : MetaValue) :
    (header.push key value).get? key = some ((header.get? key).getD [] ++ [value]) :=
  lookup_alterEntries_self header.ordered

theorem get?_insert_of_ne {other : String} (different : other ≠ key) (values : List MetaValue) :
    (header.insert key values).get? other = header.get? other :=
  lookup_alterEntries_of_ne different header.entries

theorem get?_push_of_ne {other : String} (different : other ≠ key) (value : MetaValue) :
    (header.push key value).get? other = header.get? other :=
  lookup_alterEntries_of_ne different header.entries

variable {header key} in
/-- What is found after an insertion has been inserted, or it has been there for another key. -/
theorem get?_insert_cases {values found : List MetaValue} {other : String}
    (isFound : (header.insert key values).get? other = some found) :
    (other = key ∧ found = values) ∨ (other ≠ key ∧ header.get? other = some found) := by
  by_cases same : other = key
  · rw [same, get?_insert_self] at isFound
    exact Or.inl ⟨same, (Option.some.inj isFound).symm⟩
  · rw [get?_insert_of_ne _ _ same] at isFound
    exact Or.inr ⟨same, isFound⟩

theorem insert_insert (earlier later : List MetaValue) :
    (header.insert key earlier).insert key later = header.insert key later := by
  simp only [insert, alterEntries_alterEntries]

theorem push_insert (values : List MetaValue) (value : MetaValue) :
    (header.insert key values).push key value = header.insert key (values ++ [value]) := by
  simp only [insert, push, alterEntries_alterEntries, Option.getD_some]

/-! ## Changes one after the other -/

section Runs

variable {Item : Type} {change : FrontMatter → Item → FrontMatter} {key : String}

/-- Changes of other keys leave the values of a key alone. -/
theorem get?_foldl_of_others {items : List Item}
    (others : ∀ item ∈ items, ∀ header : FrontMatter,
      (change header item).get? key = header.get? key) (header : FrontMatter) :
    (items.foldl change header).get? key = header.get? key := by
  induction items generalizing header with
  | nil => rfl
  | cons item later inductionHypothesis =>
      rw [List.foldl_cons,
        inductionHypothesis (fun other member => others other (List.mem_cons_of_mem _ member)),
        others item List.mem_cons_self]

/-- A key has the values that it is given last. -/
theorem get?_foldl_of_last {before after : List Item} {item : Item} {values : List MetaValue}
    (gives : ∀ header : FrontMatter, (change header item).get? key = some values)
    (others : ∀ other ∈ after, ∀ header : FrontMatter,
      (change header other).get? key = header.get? key) (header : FrontMatter) :
    ((before ++ item :: after).foldl change header).get? key = some values := by
  rw [List.foldl_append, List.foldl_cons, get?_foldl_of_others others, gives]

/-- If each change is of a key of its own, all of them last. -/
theorem get?_foldl_of_distinct {name : Item → String} {items : List Item}
    (distinct : (items.map name).Nodup) {item : Item} (member : item ∈ items)
    {values : List MetaValue}
    (gives : ∀ header : FrontMatter, (change header item).get? (name item) = some values)
    (others : ∀ other, name item ≠ name other → ∀ header : FrontMatter,
      (change header other).get? (name item) = header.get? (name item)) (header : FrontMatter) :
    (items.foldl change header).get? (name item) = some values := by
  rcases List.append_of_mem member with ⟨before, after, rfl⟩
  rw [List.map_append, List.map_cons, List.nodup_append, List.nodup_cons] at distinct
  refine get?_foldl_of_last gives (fun other inAfter => others other (fun same => ?_)) header
  exact distinct.2.1.1 (List.mem_map.2 ⟨other, inAfter, same.symm⟩)

end Runs

end TopicPress.FrontMatter
