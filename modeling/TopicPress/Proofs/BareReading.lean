import TopicPress.Proofs.YamlReading

/-!
# Front matter of bare entries

A key has what the last entry with its text gives it.  So what is read of a block of bare entries is
told entry by entry, and a block that is a mapping for any other reason is told in the same way.
-/

namespace TopicPress.FrontMatterBlock

open Text Yaml

/-! ## Entries of a mapping -/

section

variable {key : String}

theorem get?_addEntry_of_ne (header : FrontMatter) {entry : Value × Value}
    (other : entry.1.scalarText? ≠ some key) :
    (addEntry header entry).get? key = header.get? key := by
  rw [addEntry]
  split
  · rename_i name named
    have different : key ≠ name := by
      rintro rfl
      exact other named
    exact FrontMatter.get?_insert_of_ne _ _ different _
  · rfl

theorem get?_addEntry {entry : Value × Value} (named : entry.1.scalarText? = some key)
    (header : FrontMatter) : (addEntry header entry).get? key = some (valuesOf entry.2) := by
  rw [addEntry, named]
  exact header.get?_insert_self _ _

/-- The last entry with the text of a key gives the key its values. -/
theorem get?_foldl_addEntry {before after : List (Value × Value)} {entry : Value × Value}
    (named : entry.1.scalarText? = some key)
    (last : ∀ other ∈ after, other.1.scalarText? ≠ some key) (header : FrontMatter) :
    ((before ++ entry :: after).foldl addEntry header).get? key = some (valuesOf entry.2) :=
  FrontMatter.get?_foldl_of_last (get?_addEntry named)
    (fun other inAfter header => get?_addEntry_of_ne header (last other inAfter)) header

end

theorem entryNotices_of_named {entries : List (Value × Value)}
    (named : ∀ entry ∈ entries, entry.1.scalarText?.isNone = false) : entryNotices entries = [] := by
  have none : entries.filter (fun entry => entry.1.scalarText?.isNone) = [] := by
    rw [List.filter_eq_nil_iff]
    exact fun entry member => Bool.eq_false_iff.1 (named entry member)
  rw [entryNotices, none, List.map_nil]

/-- A block whose text is a mapping is read as the entries of the mapping. -/
theorem read_of_mapping {raw : String} {entries : List (Value × Value)} {more : List Value}
    (mapping : documents? (body raw.toList) = some (.mapping entries :: more)) :
    read raw = (entries.foldl addEntry .empty, entryNotices entries) := by
  simp only [read, mapping]

/-! ## Blocks of bare entries -/

/-- Bare entries with keys of their own are read as such, and no notice is left. -/
theorem read_bareBlock {entries : List BareEntry}
    (textual : ∀ entry ∈ entries, entry.HasTextKey)
    (distinct : (entries.map (fun entry => entry.key.text)).Nodup)
    (short : ∀ entry ∈ entries, entry.key.chars.length ≤ 1024) {closing : List Char}
    (closes : (lines closing).head? = some fence) :
    read (bareBlock entries closing) = ((entries.map BareEntry.pair).foldl addEntry .empty, []) := by
  have documents := documents?_bareText textual short distinct
  rw [← body_bareBlock entries closes] at documents
  cases entries with
  | nil =>
      rw [List.isEmpty_nil, if_pos rfl] at documents
      simp only [read, documents]
      rfl
  | cons entry later =>
      have named : ∀ pair ∈ (entry :: later).map BareEntry.pair,
          pair.1.scalarText?.isNone = false := by
        intro pair member
        rcases List.mem_map.1 member with ⟨bare, -, rfl⟩
        rfl
      rw [List.isEmpty_cons, if_neg Bool.false_ne_true] at documents
      rw [read_of_mapping documents, entryNotices_of_named named]

/-- Each of them gives its key its values. -/
theorem get?_read_bareBlock {entries : List BareEntry}
    (textual : ∀ entry ∈ entries, entry.HasTextKey)
    (distinct : (entries.map (fun entry => entry.key.text)).Nodup)
    (short : ∀ entry ∈ entries, entry.key.chars.length ≤ 1024) {closing : List Char}
    (closes : (lines closing).head? = some fence) {entry : BareEntry} (member : entry ∈ entries) :
    (read (bareBlock entries closing)).1.get? entry.key.text =
      some (valuesOf (givenValue entry.texts)) := by
  rw [read_bareBlock textual distinct short closes, List.foldl_map]
  refine FrontMatter.get?_foldl_of_distinct distinct member (get?_addEntry rfl)
    (fun other different header => get?_addEntry_of_ne header (fun same => ?_)) .empty
  exact different (Option.some.inj same).symm

end TopicPress.FrontMatterBlock
