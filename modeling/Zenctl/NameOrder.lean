import Zenctl.CString
import Zenctl.ExchangeSort

namespace CString

/-!
# Sorting names

`strcmp` is a linear order, so a set of names has one sorted array, whatever
order the names came in and whichever routine sorts them.
-/

theorem strcmpLe_total (a b : CStr) :
    strcmpLe a b = true ∨ strcmpLe b a = true := by
  induction a generalizing b with
  | nil =>
      exact .inl rfl
  | cons x a inductionHypothesis =>
      cases b with
      | nil => exact .inr rfl
      | cons y b =>
          simp only [strcmpLe, Bool.or_eq_true, Bool.and_eq_true, decide_eq_true_eq]
          rcases Nat.lt_trichotomy x.toNat y.toNat with below | same | above
          · exact .inl (.inl below)
          · have equal : x = y := Char.toNat_inj.mp same
            exact (inductionHypothesis b).imp (fun le => .inr ⟨equal, le⟩)
              (fun le => .inr ⟨equal.symm, le⟩)
          · exact .inr (.inl above)

theorem strcmpLe_trans (a b c : CStr)
    (first : strcmpLe a b = true)
    (second : strcmpLe b c = true) :
    strcmpLe a c = true := by
  induction a generalizing b c with
  | nil =>
      rfl
  | cons x a inductionHypothesis =>
      cases b with
      | nil => cases first
      | cons y b =>
          cases c with
          | nil => cases second
          | cons z c =>
              simp only [strcmpLe, Bool.or_eq_true, Bool.and_eq_true, decide_eq_true_eq]
                at first second ⊢
              rcases first with below | ⟨rfl, first⟩
              · rcases second with below' | ⟨rfl, second⟩
                · exact .inl (below.trans below')
                · exact .inl below
              · rcases second with below | ⟨rfl, second⟩
                · exact .inl below
                · exact .inr ⟨rfl, inductionHypothesis b c first second⟩

theorem strcmpLe_antisymm (a b : CStr)
    (first : strcmpLe a b = true)
    (second : strcmpLe b a = true) :
    a = b := by
  induction a generalizing b with
  | nil =>
      cases b with
      | nil => rfl
      | cons y b => cases second
  | cons x a inductionHypothesis =>
      cases b with
      | nil => cases first
      | cons y b =>
          simp only [strcmpLe, Bool.or_eq_true, Bool.and_eq_true, decide_eq_true_eq]
            at first second
          rcases first with below | ⟨rfl, first⟩
          · rcases second with above | ⟨rfl, -⟩
            · exact absurd below above.asymm
            · exact absurd below (lt_irrefl _)
          · rcases second with above | ⟨-, second⟩
            · exact absurd above (lt_irrefl _)
            · rw [inductionHypothesis b first second]

instance : Std.Total (fun a b : CStr => strcmpLe a b = true) := ⟨strcmpLe_total⟩

instance : IsTrans CStr (fun a b => strcmpLe a b = true) := ⟨strcmpLe_trans⟩

instance : Std.Antisymm (fun a b : CStr => strcmpLe a b = true) := ⟨strcmpLe_antisymm⟩

/-- The sorted array of some names, as `qsort` with `strcmp` leaves it. -/
def sortNames (names : List CStr) : List CStr :=
  names.insertionSort fun a b => strcmpLe a b

theorem sortNames_perm (names : List CStr) : (sortNames names).Perm names :=
  List.perm_insertionSort _ names

theorem sortNames_pairwise (names : List CStr) :
    (sortNames names).Pairwise (strcmpLe · · = true) :=
  List.pairwise_insertionSort _ names

theorem sortNames_eq_of_perm
    {first second : List CStr} (same : first.Perm second) :
    sortNames first = sortNames second :=
  List.Perm.eq_of_pairwise' (sortNames_pairwise first) (sortNames_pairwise second)
    ((sortNames_perm first).trans (same.trans (sortNames_perm second).symm))

/-- Exchanging neighbours out of order ends in the same array. -/
theorem exchangeSort_eq (names : List CStr) :
    ExchangeSort.sort strcmpLe names = sortNames names :=
  List.Perm.eq_of_pairwise'
    (ExchangeSort.sort_pairwise strcmpLe_total strcmpLe_trans names) (sortNames_pairwise names)
    ((ExchangeSort.sort_perm names).trans (sortNames_perm names).symm)

end CString
