import Mathlib.Data.List.SplitBy

/-!
# Maximal runs

A list is divided where the answer of a test changes.  A traversal that carries a flag, or that looks
back at what it has put out last, is compared with such a division run by run: the induction here
takes a whole run away from the front, and with it the knowledge that the next item, if there is one,
is answered otherwise.
-/

namespace TopicPress

variable {Item : Type} {test : Item → Bool}

/-- The maximal runs of items for which a test has the same answer. -/
def runs (test : Item → Bool) (items : List Item) : List (List Item) :=
  items.splitBy (fun first second => test first == test second)

/-- Items with one answer, and after them none or one with the other answer. -/
structure IsFirstRun (test : Item → Bool) (answer : Bool) (run rest : List Item) : Prop where
  notEmpty : run ≠ []
  alike : ∀ item ∈ run, test item = answer
  ends : ∀ item ∈ rest.head?, test item = !answer

theorem IsFirstRun.all_eq {answer : Bool} {run rest : List Item}
    (first : IsFirstRun test answer run rest) : run.all test = answer := by
  cases answer with
  | true => exact List.all_eq_true.mpr first.alike
  | false =>
      rcases List.exists_mem_of_ne_nil run first.notEmpty with ⟨item, member⟩
      exact List.all_eq_false.mpr ⟨item, member, Bool.eq_false_iff.mp (first.alike item member)⟩

theorem runs_nil : runs test [] = [] := rfl

theorem runs_append {answer : Bool} {run rest : List Item}
    (first : IsFirstRun test answer run rest) :
    runs test (run ++ rest) = run :: runs test rest := by
  have together : run.IsChain (fun one other => (test one == test other) = true) := by
    refine List.Pairwise.isChain (List.pairwise_of_forall_mem_list ?_)
    intro one oneIn other otherIn
    rw [first.alike one oneIn, first.alike other otherIn, beq_self_eq_true]
  have apart : ∀ one ∈ run.getLast?, ∀ other ∈ rest.head?, (test one == test other) = false := by
    intro one oneLast other otherFirst
    rw [first.alike one (List.mem_of_getLast? oneLast), first.ends other otherFirst]
    cases answer <;> rfl
  rw [runs, List.splitBy_append apart, List.splitBy_of_isChain first.notEmpty together]
  rfl

/-- The items that have the answer of the first one, up to one that has not. -/
theorem isFirstRun_takeWhile (item : Item) (later : List Item) :
    IsFirstRun test (test item) (item :: later.takeWhile (test · == test item))
      (later.dropWhile (test · == test item)) where
  notEmpty := List.cons_ne_nil _ _
  alike := by
    rw [List.forall_mem_cons]
    refine ⟨rfl, fun other member => ?_⟩
    exact beq_iff_eq.mp (List.all_eq_true.mp List.all_takeWhile other member)
  ends := by
    intro other member
    have different := List.head?_dropWhile_not (test · == test item) later
    rw [Option.mem_def.mp member] at different
    exact Bool.eq_not.mpr (beq_eq_false_iff_ne.mp different)

/-- What holds of no items, and goes on to hold when a run comes first, holds of all lists. -/
@[elab_as_elim]
theorem runInduction (test : Item → Bool) {motive : List Item → Prop} (nil : motive [])
    (run : ∀ answer run rest, IsFirstRun test answer run rest → motive rest →
      motive (run ++ rest)) : ∀ items, motive items
  | [] => nil
  | item :: later => by
      have whole := run _ _ _ (isFirstRun_takeWhile item later)
        (runInduction test nil run (later.dropWhile (test · == test item)))
      rwa [List.cons_append, List.takeWhile_append_dropWhile] at whole
termination_by items => items.length
decreasing_by exact Nat.lt_succ_of_le (List.dropWhile_sublist _).length_le

end TopicPress
