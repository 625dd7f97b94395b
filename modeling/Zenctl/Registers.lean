import Mathlib.Logic.Function.Basic

namespace Registers

/-!
# A bank of registers

Assignments in order, and what is in a register afterwards: the value of the
last assignment to it, or what it held before if there was none.
-/

variable {κ ν : Type*} [DecidableEq κ]

/-- The bank after these assignments, made in order. -/
def assignAll (bank : κ → ν) (assignments : List (κ × ν)) : κ → ν :=
  assignments.foldl (fun bank assignment => Function.update bank assignment.1 assignment.2) bank

@[simp] theorem assignAll_nil (bank : κ → ν) : assignAll bank [] = bank :=
  rfl

@[simp] theorem assignAll_cons (bank : κ → ν) (key : κ) (value : ν) (rest : List (κ × ν)) :
    assignAll bank ((key, value) :: rest) = assignAll (Function.update bank key value) rest :=
  rfl

theorem assignAll_append (bank : κ → ν) (front back : List (κ × ν)) :
    assignAll bank (front ++ back) = assignAll (assignAll bank front) back :=
  List.foldl_append

/-- A register nothing was assigned to keeps its value. -/
theorem assignAll_other
    {bank : κ → ν} {assignments : List (κ × ν)} {key : κ}
    (other : ∀ assignment ∈ assignments, assignment.1 ≠ key) :
    assignAll bank assignments key = bank key := by
  induction assignments generalizing bank with
  | nil =>
      rfl
  | cons assignment rest inductionHypothesis =>
      have here : assignment.1 ≠ key := other assignment List.mem_cons_self
      calc assignAll bank (assignment :: rest) key
          = Function.update bank assignment.1 assignment.2 key :=
            inductionHypothesis fun later member => other later (List.mem_cons_of_mem _ member)
        _ = bank key := Function.update_of_ne here.symm _ _

/-- The last assignment to a register decides what it holds. -/
theorem assignAll_last
    {bank : κ → ν} {front back : List (κ × ν)} {key : κ} {value : ν}
    (last : ∀ assignment ∈ back, assignment.1 ≠ key) :
    assignAll bank (front ++ (key, value) :: back) key = value := by
  rw [assignAll_append, assignAll_cons, assignAll_other last, Function.update_self]

/-- Where the assignments to a register agree, the last one does not matter. -/
theorem assignAll_agree
    {bank : κ → ν} {assignments : List (κ × ν)} {key : κ} {value : ν}
    (assigned : (key, value) ∈ assignments)
    (agree : ∀ assignment ∈ assignments, assignment.1 = key → assignment.2 = value) :
    assignAll bank assignments key = value := by
  induction assignments generalizing bank with
  | nil =>
      cases assigned
  | cons assignment rest inductionHypothesis =>
      have agreeRest := fun later member => agree later (List.mem_cons_of_mem assignment member)
      by_cases again : (key, value) ∈ rest
      · exact inductionHypothesis again agreeRest
      · have only : ∀ later ∈ rest, later.1 ≠ key := by
          intro later member same
          have whole : later = (key, value) := Prod.ext same (agreeRest later member same)
          exact again (whole ▸ member)
        obtain rfl := (List.mem_cons.mp assigned).resolve_right again
        rw [assignAll_cons, assignAll_other only, Function.update_self]

end Registers
