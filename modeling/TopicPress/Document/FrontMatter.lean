/-!
# Front matter

A document may open with metadata: a mapping from keys to lists of values.  The mapping is kept
as its entries in the order of the UTF-8 bytes of the keys, each key once, so that two mappings
with the same values are the same data whatever order they were built in.  The order is a proof
field of the type; no operation has to be trusted to restore it.
-/

namespace TopicPress

/-- One value of a front-matter key.  A mapping or a sequence is kept as its one-line text. -/
inductive MetaValue where
  | scalar (text : String)
  | null
  | structured (text : String)
  deriving DecidableEq

namespace MetaValue

/-- The text that is written for a value; nothing is written for null. -/
def asText : MetaValue → String
  | scalar text => text
  | null => ""
  | structured text => text

def isStructured : MetaValue → Bool
  | structured _ => true
  | _ => false

end MetaValue

/-! ## The order of keys -/

/-- The UTF-8 bytes of a key. -/
def keyBytes (key : String) : List UInt8 := key.toUTF8.data.toList

/-- Keys are ordered as their UTF-8 bytes are, lexicographically. -/
def KeyBefore (left right : String) : Prop := keyBytes left < keyBytes right

instance (left right : String) : Decidable (KeyBefore left right) :=
  inferInstanceAs (Decidable (keyBytes left < keyBytes right))

theorem keyBytes_injective {left right : String} (same : keyBytes left = keyBytes right) :
    left = right := by
  apply String.toByteArray_inj.1
  apply ByteArray.ext
  exact Array.toList_inj.1 same

theorem KeyBefore.irrefl (key : String) : ¬ KeyBefore key key :=
  List.lt_irrefl _

theorem KeyBefore.trans {first second third : String} (h : KeyBefore first second)
    (k : KeyBefore second third) : KeyBefore first third :=
  List.lt_trans h k

theorem KeyBefore.of_ne_of_not {left right : String} (different : left ≠ right)
    (notAfter : ¬ KeyBefore left right) : KeyBefore right left := by
  apply Decidable.byContradiction
  intro notBefore
  exact different (keyBytes_injective
    (List.le_antisymm (List.not_lt.1 notBefore) (List.not_lt.1 notAfter)))

/-! ## Entries in order -/

/-- A key with its values in source order. -/
abbrev FrontMatter.Entry := String × List MetaValue

/-- Each entry's key comes before the keys of all later entries. -/
def FrontMatter.Ordered (entries : List FrontMatter.Entry) : Prop :=
  entries.Pairwise (fun left right => KeyBefore left.1 right.1)

/-- Give `key` the values that `change` makes of the ones it has, in its place in the order. -/
def FrontMatter.alterEntries (key : String) (change : Option (List MetaValue) → List MetaValue) :
    List FrontMatter.Entry → List FrontMatter.Entry
  | [] => [(key, change none)]
  | entry :: rest =>
    if entry.1 = key then (key, change (some entry.2)) :: rest
    else if KeyBefore key entry.1 then (key, change none) :: entry :: rest
    else entry :: alterEntries key change rest

theorem FrontMatter.key_mem_alterEntries {key : String}
    {change : Option (List MetaValue) → List MetaValue} {entries : List FrontMatter.Entry}
    {entry : FrontMatter.Entry} (member : entry ∈ FrontMatter.alterEntries key change entries) :
    entry.1 = key ∨ entry ∈ entries := by
  induction entries with
  | nil =>
    simp only [alterEntries, List.mem_singleton] at member
    exact Or.inl (by rw [member])
  | cons head rest ih =>
    unfold alterEntries at member
    split at member
    · rcases List.mem_cons.1 member with same | later
      · exact Or.inl (by rw [same])
      · exact Or.inr (List.mem_cons_of_mem _ later)
    · split at member
      · rcases List.mem_cons.1 member with same | later
        · exact Or.inl (by rw [same])
        · exact Or.inr later
      · rcases List.mem_cons.1 member with same | later
        · exact Or.inr (by rw [same]; exact List.mem_cons_self)
        · exact (ih later).imp id (List.mem_cons_of_mem _)

theorem FrontMatter.ordered_alterEntries (key : String)
    (change : Option (List MetaValue) → List MetaValue) {entries : List FrontMatter.Entry}
    (ordered : FrontMatter.Ordered entries) :
    FrontMatter.Ordered (FrontMatter.alterEntries key change entries) := by
  induction entries with
  | nil => exact List.pairwise_singleton _ _
  | cons head rest ih =>
    have ⟨headFirst, restOrdered⟩ := List.pairwise_cons.1 ordered
    unfold alterEntries
    split
    · rename_i same
      exact List.pairwise_cons.2 ⟨fun later member => same ▸ headFirst later member, restOrdered⟩
    · rename_i different
      split
      · rename_i before
        refine List.pairwise_cons.2 ⟨fun later member => ?_, ordered⟩
        rcases List.mem_cons.1 member with same | inRest
        · exact same ▸ before
        · exact before.trans (headFirst later inRest)
      · rename_i notBefore
        refine List.pairwise_cons.2 ⟨fun later member => ?_, ih restOrdered⟩
        rcases key_mem_alterEntries member with same | inRest
        · exact same ▸ KeyBefore.of_ne_of_not (Ne.symm different) notBefore
        · exact headFirst later inRest

/-! ## The mapping -/

/-- A mapping from keys to lists of values, its keys in the order of their UTF-8 bytes. -/
structure FrontMatter where
  entries : List FrontMatter.Entry
  ordered : FrontMatter.Ordered entries
  deriving DecidableEq

namespace FrontMatter

def empty : FrontMatter := ⟨[], List.Pairwise.nil⟩

instance : Inhabited FrontMatter := ⟨empty⟩

/-- Give `key` exactly `values`. -/
def insert (header : FrontMatter) (key : String) (values : List MetaValue) : FrontMatter :=
  ⟨alterEntries key (fun _ => values) header.entries, ordered_alterEntries _ _ header.ordered⟩

/-- Append `value` to the values of `key`, which is created when it is absent. -/
def push (header : FrontMatter) (key : String) (value : MetaValue) : FrontMatter :=
  ⟨alterEntries key (fun values => values.getD [] ++ [value]) header.entries,
    ordered_alterEntries _ _ header.ordered⟩

/-- Insert `entries` one after the other; of two with one key the later stays. -/
def ofList (entries : List Entry) : FrontMatter :=
  entries.foldl (fun header entry => header.insert entry.1 entry.2) empty

def get? (header : FrontMatter) (key : String) : Option (List MetaValue) :=
  header.entries.lookup key

def contains (header : FrontMatter) (key : String) : Bool :=
  (header.get? key).isSome

def size (header : FrontMatter) : Nat := header.entries.length

def isEmpty (header : FrontMatter) : Bool := header.entries.isEmpty

/-- The first value of `key`, when it is a scalar that is not the empty text. -/
def firstScalar? (header : FrontMatter) (key : String) : Option String :=
  match header.get? key with
  | some (.scalar text :: _) => if text.isEmpty then none else some text
  | _ => none

end FrontMatter

end TopicPress
