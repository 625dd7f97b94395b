import Mathlib.Data.List.Sort

namespace ExchangeSort

/-!
# Exchange sort

Two nested loops over an array: `i` runs from the front, `j` over the positions
behind `i`, and the elements at `i` and `j` are exchanged when the one at `j` is
smaller.  On a list the inner loop carries the element of position `i` along
the rest, which keeps every other element in its place.
-/

variable {α : Type*} (le : α → α → Bool)

/-- The inner loop: what ends up at position `i`, and the positions behind it. -/
def sweep (held : α) : List α → α × List α
  | [] => (held, [])
  | item :: rest =>
      if le held item then
        let swept := sweep held rest
        (swept.1, item :: swept.2)
      else
        let swept := sweep item rest
        (swept.1, held :: swept.2)

/-- The outer loop, with the number of rounds left. -/
def sortRounds : Nat → List α → List α
  | rounds + 1, first :: rest =>
      let swept := sweep le first rest
      swept.1 :: sortRounds rounds swept.2
  | _, list => list

def sort (list : List α) : List α :=
  sortRounds le list.length list

variable {le}

theorem sweep_perm (held : α) (items : List α) :
    ((sweep le held items).1 :: (sweep le held items).2).Perm (held :: items) := by
  induction items generalizing held with
  | nil =>
      exact .refl _
  | cons item rest inductionHypothesis =>
      unfold sweep
      split
      · -- the item stays where it is
        have swapped := (List.Perm.swap item (sweep le held rest).1 (sweep le held rest).2)
        exact swapped.trans (((inductionHypothesis held).cons item).trans (.swap held item rest))
      · have swapped := (List.Perm.swap held (sweep le item rest).1 (sweep le item rest).2)
        exact swapped.trans ((inductionHypothesis item).cons held)

theorem sweep_length (held : α) (items : List α) :
    (sweep le held items).2.length = items.length := by
  have same := (@sweep_perm _ le held items).length_eq
  simpa using same

theorem sortRounds_perm (rounds : Nat) (list : List α) :
    (sortRounds le rounds list).Perm list := by
  induction rounds generalizing list with
  | zero =>
      exact .refl _
  | succ rounds inductionHypothesis =>
      cases list with
      | nil => exact .refl _
      | cons first rest =>
          exact ((inductionHypothesis (sweep le first rest).2).cons _).trans (sweep_perm first rest)

theorem sort_perm (list : List α) : (sort le list).Perm list :=
  sortRounds_perm list.length list

section Order

variable (total : ∀ a b, le a b = true ∨ le b a = true)
variable (transitive : ∀ a b c, le a b = true → le b c = true → le a c = true)

include total transitive

/-- What the inner loop leaves at position `i` is a least element. -/
theorem sweep_least (held : α) (items : List α) :
    le (sweep le held items).1 held = true ∧
      ∀ item ∈ items, le (sweep le held items).1 item = true := by
  induction items generalizing held with
  | nil =>
      exact ⟨(total held held).elim id id, nofun⟩
  | cons item rest inductionHypothesis =>
      unfold sweep
      split
      · rename_i below
        obtain ⟨least, others⟩ := inductionHypothesis held
        refine ⟨least, fun other member => ?_⟩
        rcases List.mem_cons.mp member with rfl | later
        · exact transitive _ _ _ least below
        · exact others other later
      · rename_i above
        obtain ⟨least, others⟩ := inductionHypothesis item
        have smaller : le item held = true := (total held item).resolve_left above
        refine ⟨transitive _ _ _ least smaller, fun other member => ?_⟩
        rcases List.mem_cons.mp member with rfl | later
        · exact least
        · exact others other later

theorem sortRounds_pairwise (rounds : Nat) (list : List α) (enough : list.length ≤ rounds) :
    (sortRounds le rounds list).Pairwise (le · · = true) := by
  induction rounds generalizing list with
  | zero =>
      rw [List.length_eq_zero_iff.mp (Nat.le_zero.mp enough)]
      exact .nil
  | succ rounds inductionHypothesis =>
      cases list with
      | nil => exact .nil
      | cons first rest =>
          have shorter : (sweep le first rest).2.length ≤ rounds := by
            rw [sweep_length]
            exact Nat.le_of_succ_le_succ enough
          refine List.pairwise_cons.mpr ⟨fun other member => ?_,
            inductionHypothesis (sweep le first rest).2 shorter⟩
          have left : other ∈ (sweep le first rest).2 :=
            (sortRounds_perm rounds (sweep le first rest).2).subset member
          have among : other ∈ first :: rest :=
            (sweep_perm first rest).subset (List.mem_cons_of_mem _ left)
          obtain ⟨least, others⟩ := sweep_least total transitive first rest
          rcases List.mem_cons.mp among with rfl | later
          · exact least
          · exact others other later

theorem sort_pairwise (list : List α) :
    (sort le list).Pairwise (le · · = true) :=
  sortRounds_pairwise total transitive list.length list le_rfl

end Order

end ExchangeSort
