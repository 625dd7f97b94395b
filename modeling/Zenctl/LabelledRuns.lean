import Mathlib.Logic.Relation

namespace LabelledRuns

/-!
# Runs with their labels

A step relation whose steps carry labels, and the finite runs it has.  The
labels of a run are the list of what was done on the way, so that a statement
about a run can speak of its actions as well as of its ends.
-/

variable {σ ρ ℓ κ : Type*}

/-- From the first state to the last by steps with these labels. -/
inductive Runs (step : ℓ → σ → σ → Prop) : σ → List ℓ → σ → Prop
  | nil (state : σ) : Runs step state [] state
  | cons {label : ℓ} {labels : List ℓ} {first next last : σ}
      (taken : step label first next)
      (rest : Runs step next labels last) :
      Runs step first (label :: labels) last

namespace Runs

variable {step : ℓ → σ → σ → Prop} {first middle last : σ} {labels : List ℓ}

theorem one {label : ℓ} (taken : step label first last) : Runs step first [label] last :=
  .cons taken (.nil last)

theorem append
    {more : List ℓ}
    (front : Runs step first labels middle) (back : Runs step middle more last) :
    Runs step first (labels ++ more) last := by
  induction front with
  | nil state =>
      exact back
  | cons taken rest inductionHypothesis =>
      exact .cons taken (inductionHypothesis back)

/-- What every step of the run keeps, the run keeps. -/
theorem keeps
    {invariant : σ → Prop}
    (run : Runs step first labels last)
    (kept : ∀ label ∈ labels, ∀ before after, step label before after →
      invariant before → invariant after)
    (holds : invariant first) :
    invariant last := by
  induction run with
  | nil state =>
      exact holds
  | cons taken rest inductionHypothesis =>
      exact inductionHypothesis (fun label member => kept label (List.mem_cons_of_mem _ member))
        (kept _ List.mem_cons_self _ _ taken holds)

/-- A run whose every step leaves something alone leaves it alone. -/
theorem unchanged
    {α : Type*} (view : σ → α)
    (run : Runs step first labels last)
    (kept : ∀ label ∈ labels, ∀ before after, step label before after →
      view after = view before) :
    view last = view first :=
  run.keeps
    (fun label member before after taken same => (kept label member before after taken).trans same)
    rfl

/-- The abstract machine follows the run label by label. -/
theorem refines
    {act : ρ → ℓ → ρ} {abstract : ρ} (related : σ → ρ → Prop)
    (run : Runs step first labels last)
    (follows : ∀ label ∈ labels, ∀ before after state, step label before after →
      related before state → related after (act state label))
    (starts : related first abstract) :
    related last (labels.foldl act abstract) := by
  induction run generalizing abstract with
  | nil state =>
      exact starts
  | cons taken rest inductionHypothesis =>
      exact inductionHypothesis (fun label member => follows label (List.mem_cons_of_mem _ member))
        (follows _ List.mem_cons_self _ _ _ taken starts)

/-- The run, seen through a projection under which its steps are steps of another machine. -/
theorem image
    {other : ℓ → ρ → ρ → Prop} (view : σ → ρ)
    (run : Runs step first labels last)
    (follows : ∀ label before after, step label before after →
      other label (view before) (view after)) :
    Runs other (view first) labels (view last) := by
  induction run with
  | nil state =>
      exact .nil _
  | cons taken rest inductionHypothesis =>
      exact .cons (follows _ _ _ taken) inductionHypothesis

end Runs

end LabelledRuns
