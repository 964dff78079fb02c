import TopicPress.Proofs.YamlRuns

/-!
# Reading bare entries as YAML

The tokens of bare entries are those of one mapping.  A key is given what its plain scalar stands
for, a sequence of such values whose hyphens stand in the column of the key, or null if nothing
follows it.
-/

namespace TopicPress.Yaml

open FrontMatterBlock Scanner

/-- What a key is given, as a value: null if nothing follows it. -/
def givenValue : Given String → Value
  | .beside text => .ofPlain text
  | .below [] => .null
  | .below texts => .sequence (texts.map .ofPlain)

namespace BareEntry

/-- The key is read as the text that it is. -/
def HasTextKey (entry : BareEntry) : Prop := Value.ofPlain entry.key.text = .text entry.key.text

/-- The entry of the mapping. -/
def pair (entry : BareEntry) : Value × Value := (.text entry.key.text, givenValue entry.texts)

end BareEntry

/-- The reading of other tokens. -/
def Reading.holding (reading : Reading) (tokens : List Token) : Reading := { reading with tokens }

namespace Reader

variable {reading : Reading}

/-- The tokens that follow an entry: a key, or the end of the mapping. -/
def EndsEntry (tokens : List Token) : Prop :=
  tokens.head? = some .key ∨ tokens.head? = some .blockEnd

theorem indentlessItems_cons (fuel : Nat) (text : String) (rest : List Token) :
    indentlessItems (fuel + 2) (reading.holding (.blockEntry :: .scalar .plain text :: rest)) =
      (indentlessItems (fuel + 1) (reading.holding rest)).bind
        (fun read => some (.ofPlain text :: read.1, read.2)) := rfl

theorem indentlessItems_end {rest : List Token} (ends : EndsEntry rest) (fuel : Nat) :
    indentlessItems (fuel + 1) (reading.holding rest) = some ([], reading.holding rest) := by
  cases rest with
  | nil => rcases ends with none | none <;> cases none
  | cons token later => rcases ends with same | same <;> cases same <;> rfl

theorem indentlessItems_items {rest : List Token} (ends : EndsEntry rest) {texts : List String}
    {fuel : Nat} (enough : texts.length < fuel) :
    indentlessItems fuel (reading.holding (itemTokens texts ++ rest)) =
      some (texts.map .ofPlain, reading.holding rest) := by
  induction texts generalizing fuel with
  | nil =>
      cases fuel with
      | zero => cases enough
      | succ fuel => exact indentlessItems_end ends fuel
  | cons text later inductionHypothesis =>
      rcases fuel with _ | _ | fuel
      · cases enough
      · exact absurd enough (by simp)
      · have read := inductionHypothesis (Nat.lt_of_succ_lt_succ enough)
        have tokens : itemTokens (text :: later) ++ rest =
            .blockEntry :: .scalar .plain text :: (itemTokens later ++ rest) := rfl
        rw [tokens, indentlessItems_cons, read, Option.bind_some]
        rfl

theorem blockValue_scalar (fuel : Nat) (text : String) (rest : List Token) :
    blockValue (fuel + 2) (reading.holding (.value :: .scalar .plain text :: rest)) =
      some (.ofPlain text, reading.holding rest) := rfl

theorem blockValue_end {rest : List Token} (ends : EndsEntry rest) (fuel : Nat) :
    blockValue (fuel + 1) (reading.holding (.value :: rest)) =
      some (.null, reading.holding rest) := by
  cases rest with
  | nil => rcases ends with none | none <;> cases none
  | cons token later => rcases ends with same | same <;> cases same <;> rfl

theorem blockValue_items (fuel : Nat) (rest : List Token) :
    blockValue (fuel + 2) (reading.holding (.value :: .blockEntry :: rest)) =
      (indentlessItems fuel (reading.holding (.blockEntry :: rest))).bind
        (fun read => some (.sequence read.1, read.2)) := rfl

theorem length_itemTokens (texts : List String) : (itemTokens texts).length = 2 * texts.length := by
  induction texts with
  | nil => rfl
  | cons text later inductionHypothesis =>
      have tokens : itemTokens (text :: later) =
          .blockEntry :: .scalar .plain text :: itemTokens later := rfl
      rw [tokens, List.length_cons, List.length_cons, inductionHypothesis, List.length_cons]
      omega

/-- The value of a key. -/
theorem blockValue_given {rest : List Token} (ends : EndsEntry rest) {given : Given String}
    {fuel : Nat} (enough : (givenTokens given).length + 2 ≤ fuel) :
    blockValue fuel (reading.holding (.value :: (givenTokens given ++ rest))) =
      some (givenValue given, reading.holding rest) := by
  rcases fuel with _ | _ | fuel
  · exact absurd enough (Nat.not_succ_le_zero _)
  · exact absurd (Nat.le_of_succ_le_succ enough) (Nat.not_succ_le_zero _)
  rcases given with text | texts
  · exact blockValue_scalar fuel text rest
  · cases texts with
    | nil => exact blockValue_end ends (fuel + 1)
    | cons text later =>
        have length : (text :: later).length < fuel := by
          rw [givenTokens, length_itemTokens, List.length_cons] at enough
          rw [List.length_cons]
          omega
        have items := @indentlessItems_items reading rest ends (text :: later) fuel length
        have tokens : itemTokens (text :: later) ++ rest =
            .blockEntry :: .scalar .plain text :: (itemTokens later ++ rest) := rfl
        rw [givenTokens, tokens, blockValue_items, ← tokens, items]
        rfl

theorem blockEntries_cons (fuel : Nat) (key : String) (rest : List Token) :
    blockEntries (fuel + 2) (reading.holding (.key :: .scalar .plain key :: rest)) =
      (blockValue (fuel + 1) (reading.holding rest)).bind fun content =>
        (blockEntries (fuel + 1) content.2).bind fun others =>
          some (.ofPlain key :: content.1 :: others.1, others.2) := rfl

theorem blockEntries_end (fuel : Nat) (rest : List Token) :
    blockEntries (fuel + 1) (reading.holding (.blockEnd :: rest)) =
      some ([], reading.holding rest) := rfl

/-- The keys and values of entries, in turn. -/
def valuesInTurn (entries : List BareEntry) : List Value :=
  entries.flatMap (fun entry => [entry.pair.1, entry.pair.2])

/-- A key follows an entry, or the end of the mapping. -/
theorem endsEntry_entries (entries : List BareEntry) (rest : List Token) :
    EndsEntry (entries.flatMap entryTokens ++ .blockEnd :: rest) := by
  cases entries with
  | nil => exact .inr rfl
  | cons entry later => exact .inl rfl

theorem blockEntries_entries {entries : List BareEntry} {fuel : Nat}
    (textual : ∀ entry ∈ entries, entry.HasTextKey)
    (enough : (entries.flatMap entryTokens).length < fuel) (rest : List Token) :
    blockEntries fuel (reading.holding (entries.flatMap entryTokens ++ .blockEnd :: rest)) =
      some (valuesInTurn entries, reading.holding rest) := by
  induction entries generalizing fuel with
  | nil =>
      cases fuel with
      | zero => cases enough
      | succ fuel => exact blockEntries_end fuel rest
  | cons entry later inductionHypothesis =>
      have tokens : (entry :: later).flatMap entryTokens ++ .blockEnd :: rest =
          .key :: .scalar .plain entry.key.text :: .value :: (givenTokens entry.texts ++
            (later.flatMap entryTokens ++ .blockEnd :: rest)) := by
        simp [entryTokens]
      have length : ((entry :: later).flatMap entryTokens).length =
          3 + (givenTokens entry.texts).length + (later.flatMap entryTokens).length := by
        simp only [List.flatMap_cons, List.length_append, entryTokens, List.length_cons]
        omega
      rw [length] at enough
      rcases fuel with _ | _ | fuel
      · cases enough
      · omega
      · have given := @blockValue_given reading _ (endsEntry_entries later rest) entry.texts
          (fuel + 1) (by omega)
        have key : Value.ofPlain entry.key.text = .text entry.key.text :=
          textual entry List.mem_cons_self
        have others := @inductionHypothesis (fuel + 1)
          (fun other member => textual other (List.mem_cons_of_mem _ member)) (by omega)
        rw [tokens, blockEntries_cons, given, Option.bind_some, others, Option.bind_some,
          key]
        rfl

/-! ## The mapping -/

/-- Keys of their own make a mapping. -/
theorem foldlM_add {entries : List BareEntry} {earlier : List (Value × Value)}
    (distinct : (entries.map (fun entry => entry.key.text)).Nodup)
    (new : ∀ entry ∈ entries, earlier.any (fun other => other.1.same entry.pair.1) = false) :
    (valuesInTurn entries).foldlM Entries.add { entries := earlier } =
      some { entries := earlier ++ entries.map BareEntry.pair } := by
  induction entries generalizing earlier with
  | nil =>
      rw [List.map_nil, List.append_nil]
      rfl
  | cons entry later inductionHypothesis =>
      rw [List.map_cons, List.nodup_cons] at distinct
      have added : Entries.add { entries := earlier, key := some (.text entry.key.text) }
          (givenValue entry.texts) = some { entries := earlier ++ [entry.pair] } :=
        if_neg (Bool.eq_false_iff.1 (new entry List.mem_cons_self))
      have stillNew : ∀ other ∈ later,
          (earlier ++ [entry.pair]).any (fun known => known.1.same other.pair.1) =
            false := by
        intro other member
        have apart : (entry.key.text == other.key.text) = false := by
          rw [beq_eq_false_iff_ne]
          intro same
          exact distinct.1 (List.mem_map.2 ⟨other, member, same.symm⟩)
        rw [List.any_append, new other (List.mem_cons_of_mem _ member), Bool.false_or]
        exact (Bool.or_false _).trans apart
      have further := inductionHypothesis distinct.2 stillNew
      rw [List.append_assoc] at further
      change (Entries.add { entries := earlier, key := some (.text entry.key.text) }
        (givenValue entry.texts)).bind ((valuesInTurn later).foldlM Entries.add) = _
      rw [added, Option.bind_some, further]
      rfl

theorem mappingOf_entries {entries : List BareEntry}
    (distinct : (entries.map (fun entry => entry.key.text)).Nodup) (reading : Reading) :
    mappingOf (valuesInTurn entries) reading = some (.mapping (entries.map BareEntry.pair), reading) := by
  have made := @foldlM_add entries [] distinct (fun _ _ => rfl)
  simp only [mappingOf, made]
  rfl

/-! ## Documents -/

theorem value_mapping {fuel : Nat} {tokens : List Token} {values : List Value} {mapping : Value}
    {later : Reading}
    (entries : blockEntries fuel (reading.holding tokens) = some (values, later))
    (made : mappingOf values later = some (mapping, later)) :
    value true false (fuel + 1) (reading.holding (.blockMappingStart :: tokens)) =
      some (mapping, later) := by
  change ((blockEntries fuel (reading.holding tokens)).bind fun read =>
    (mappingOf read.1 read.2).bind fun done => some (done.1, done.2)) = _
  rw [entries, Option.bind_some, made]
  rfl

/-- What follows the first document, if it begins without hyphens. -/
theorem documents_cons (size fuel : Nat) (tokens : List Token) :
    documents true (size + 1) (fuel + 1) { tokens := .blockMappingStart :: tokens } =
      (value true false (size + 1) { tokens := .blockMappingStart :: tokens }).bind fun read =>
        (do
          modify fun reading => { reading with handles := [] }
          match ← peek with
          | .documentEnd =>
            skip
            return read.1 :: (← documents true (size + 1) fuel)
          | .versionDirective | .tagDirective _ _ => fail
          | _ => return read.1 :: (← documents false (size + 1) fuel) :
          Reader (List Value)) read.2 := rfl

/-- A mapping that ends the text is the only document. -/
theorem documents_mapping {size : Nat} {tokens : List Token} {mapping : Value}
    (read : value true false (size + 1) { tokens := .blockMappingStart :: tokens } =
      some (mapping, { tokens := [.streamEnd] })) (fuel : Nat) :
    documents true (size + 1) (fuel + 2) { tokens := .blockMappingStart :: tokens } =
      some ([mapping], { tokens := [.streamEnd] }) := by
  rw [documents_cons, read]
  rfl

end Reader

/-- Bare entries are read as one mapping. -/
theorem documents?_bareText {entries : List BareEntry}
    (textual : ∀ entry ∈ entries, entry.HasTextKey)
    (short : ∀ entry ∈ entries, entry.key.chars.length ≤ 1024)
    (distinct : (entries.map (fun entry => entry.key.text)).Nodup) :
    documents? (bareText entries) =
      some (if entries.isEmpty then [] else [.mapping (entries.map BareEntry.pair)]) := by
  rw [documents?, scan_bareText short]
  cases entries with
  | nil => rfl
  | cons entry later =>
      have tokens : documentTokens (entry :: later) = .blockMappingStart ::
          ((entry :: later).flatMap entryTokens ++ .blockEnd :: [.streamEnd]) := by
        simp [documentTokens]
      have enough : ((entry :: later).flatMap entryTokens).length <
          4 * (documentTokens (entry :: later)).length + 3 := by
        rw [tokens, List.length_cons, List.length_append]
        omega
      have read := @Reader.blockEntries_entries { tokens := [] } _ _ textual enough [.streamEnd]
      have mapping := Reader.value_mapping read (Reader.mappingOf_entries distinct _)
      have all := Reader.documents_mapping mapping
        (4 * (documentTokens (entry :: later)).length + 2)
      rw [← tokens] at all
      exact congrArg (Option.map Prod.fst) all

end TopicPress.Yaml
