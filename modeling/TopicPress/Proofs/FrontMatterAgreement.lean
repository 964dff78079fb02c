import TopicPress.Proofs.BareReading
import TopicPress.Proofs.PlainSpellings
import TopicPress.Proofs.SpelledEntries

/-!
# The two readers of front matter agree

A block of plain entries is YAML, and reading it line by line would give the same front matter.  So
it does not matter to such entries whether a mistake elsewhere in their block leaves it to be read
line by line.
-/

namespace TopicPress.FrontMatterBlock

open Text Yaml

theorem hasTextKey_bare (entry : PlainEntry) : entry.bare.HasTextKey :=
  Value.ofPlain_word entry.key

theorem valuesOf_words (given : Given Word) :
    valuesOf (givenValue (given.map Word.text)) = (given.map Word.text).values := by
  have item : ∀ word : Word, itemOf (.ofPlain word.text) = .scalar word.text := by
    intro word
    rw [Value.ofPlain_word]
    rfl
  rcases given with word | words
  · rw [Given.map, givenValue, Value.ofPlain_word]
    rfl
  · cases words with
    | nil => rfl
    | cons word later =>
        simp only [Given.map, List.map_cons, givenValue, valuesOf, Given.values, item, List.map_map]
        exact congrArg _ (List.map_congr_left fun word _ => item word)

theorem addEntry_pair_bare (header : FrontMatter) (entry : PlainEntry) :
    addEntry header entry.bare.pair = entry.addTo header := by
  have values := valuesOf_words entry.given
  rw [← entry.values_eq, ← entry.texts_bare] at values
  rw [PlainEntry.addTo, ← values]
  rfl

/-- Plain entries between fences are read as what their lines are read as, and no notice is left. -/
theorem read_block {entries : List PlainEntry}
    (distinct : (entries.map (fun entry => entry.key.text)).Nodup)
    (short : ∀ entry ∈ entries, entry.key.chars.length ≤ 1024) {closing : List Char}
    (closes : (lines closing).head? = some fence) :
    read (block entries closing) = (entries.foldl PlainEntry.addTo .empty, []) := by
  have textual : ∀ bare ∈ entries.map PlainEntry.bare, bare.HasTextKey := by
    intro bare member
    rcases List.mem_map.1 member with ⟨entry, -, rfl⟩
    exact hasTextKey_bare entry
  have shortBare : ∀ bare ∈ entries.map PlainEntry.bare, bare.key.chars.length ≤ 1024 := by
    intro bare member
    rcases List.mem_map.1 member with ⟨entry, inEntries, rfl⟩
    exact short entry inEntries
  have distinctBare : ((entries.map PlainEntry.bare).map (fun bare => bare.key.text)).Nodup := by
    rw [List.map_map]
    exact distinct
  rw [← bareBlock_plain, read_bareBlock textual distinctBare shortBare closes, List.map_map,
    List.foldl_map]
  simp only [Function.comp_apply, addEntry_pair_bare]

/-- Plain entries with keys of their own are read the same by both readers: as a block of YAML, and
line by line.  And if a block holds them that is no YAML, their keys are given the same values as
without what is wrong with it, as long as the lines that follow them begin with one that is no item,
and give nothing to the same key. -/
theorem read_block_agrees {entries : List PlainEntry}
    (distinct : (entries.map (fun entry => entry.key.text)).Nodup)
    (short : ∀ entry ∈ entries, entry.key.chars.length ≤ 1024) {closing : List Char}
    (closes : (lines closing).head? = some fence) :
    read (block entries closing) = (scanLines (textOf entries), []) ∧
    ∀ (raw : String) (before after : List Char),
      body raw.toList = before ++ textOf entries ++ after →
      documents? (body raw.toList) = none → (∀ c ∈ before.getLast?, c = '\n') →
      (∀ line ∈ (lines after).head?, opens line = true) →
      ∀ entry ∈ entries,
        (∀ line ∈ lines after, opens line = true → keyOf? line ≠ some entry.key.text) →
        (read raw).1.get? entry.key.text =
          (read (block entries closing)).1.get? entry.key.text := by
  refine ⟨?_, fun raw before after holds mistaken complete first entry member others => ?_⟩
  · rw [read_block distinct short closes, scanLines_textOf]
  · have fallback : read raw = (scanLines (body raw.toList), [.invalidFrontMatter]) := by
      simp only [read, mistaken]
    rw [fallback, holds, read_block distinct short closes, get?_foldl_addTo member distinct,
      get?_scanLines_among member distinct complete first others]

/-- A key with a word, a key with items and a key with nothing: in a block of their own, and in one
where a sequence is never closed. -/
theorem read_block_agrees_behind_unclosed_sequence :
    let title : Word :=
      ⟨'t', "itle".toList, by decide, List.all_eq_true.1 (by decide), by decide⟩
    let tags : Word :=
      ⟨'t', "ags".toList, by decide, List.all_eq_true.1 (by decide), by decide⟩
    let draft : Word :=
      ⟨'d', "raft".toList, by decide, List.all_eq_true.1 (by decide), by decide⟩
    let entries : List PlainEntry :=
      [⟨title, .word draft⟩, ⟨tags, .items [title, draft]⟩, ⟨draft, .items []⟩]
    (entries.map (fun entry => entry.key.text)).Nodup ∧
      (∀ entry ∈ entries, entry.key.chars.length ≤ 1024) ∧
      (lines "---\n".toList).head? = some fence ∧
      read "---\ntitle: draft\ntags:\n- title\n- draft\ndraft:\n---\n" =
        (scanLines "title: draft\ntags:\n- title\n- draft\ndraft:\n".toList, []) ∧
      (read "---\nlist: [a\ntitle: draft\ntags:\n- title\n- draft\ndraft:\nlast: b\n---\n").1.get?
          "tags" =
        (read "---\ntitle: draft\ntags:\n- title\n- draft\ndraft:\n---\n").1.get? "tags" := by
  intro title tags draft entries
  have distinct : (entries.map (fun entry => entry.key.text)).Nodup := by decide +kernel
  have short : ∀ entry ∈ entries, entry.key.chars.length ≤ 1024 := by decide +kernel
  have closes : (lines "---\n".toList).head? = some fence := by decide +kernel
  have text : block entries "---\n".toList =
      "---\ntitle: draft\ntags:\n- title\n- draft\ndraft:\n---\n" := by decide +kernel
  have inner : textOf entries = "title: draft\ntags:\n- title\n- draft\ndraft:\n".toList := by
    decide +kernel
  have complete : ∀ c ∈ "list: [a\n".toList.getLast?, c = '\n' := by
    intro c last
    have lineFeed : "list: [a\n".toList.getLast? = some '\n' := by decide
    exact (Option.some.inj (lineFeed.symm.trans last)).symm
  have agrees := read_block_agrees distinct short closes
  have unclosed := agrees.2
    "---\nlist: [a\ntitle: draft\ntags:\n- title\n- draft\ndraft:\nlast: b\n---\n"
    "list: [a\n".toList "last: b\n".toList (by decide +kernel)
    (Option.isNone_iff_eq_none.1 (by decide +kernel)) complete (by decide +kernel)
    ⟨tags, .items [title, draft]⟩ (by simp [entries]) (by decide +kernel)
  rw [text] at agrees unclosed
  rw [inner] at agrees
  exact ⟨distinct, short, closes, agrees.1, unclosed⟩

end TopicPress.FrontMatterBlock
