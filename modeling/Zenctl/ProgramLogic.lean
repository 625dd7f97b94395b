import Mathlib.Logic.Relation

namespace ProgramLogic

/-!
# Programs that move along a step relation

A program is a function from a state to a result and a next state.  It moves
along a step relation when its final state is reached from its initial state by
finitely many steps, under a precondition on the start and with a postcondition
on the result and the end.  Programs compose without looking inside them, and
an invariant of the step relation is an invariant of every program.
-/

variable {σ α β : Type*}

/-- The program reaches its end along `step`. -/
def Moves
    (step : σ → σ → Prop)
    (pre : σ → Prop)
    (program : σ → α × σ)
    (post : α → σ → Prop) : Prop :=
  ∀ start, pre start →
    Relation.ReflTransGen step start (program start).2 ∧
      post (program start).1 (program start).2

/-- Moves from every start, nothing said about the end. -/
def Follows (step : σ → σ → Prop) (program : σ → α × σ) : Prop :=
  Moves step (fun _ => True) program (fun _ _ => True)

variable {step : σ → σ → Prop} {pre : σ → Prop} {program : σ → α × σ}

theorem Follows.reaches
    (follows : Follows step program) (start : σ) :
    Relation.ReflTransGen step start (program start).2 :=
  (follows start trivial).1

theorem Follows.of_reaches
    (reaches : ∀ start, Relation.ReflTransGen step start (program start).2) :
    Follows step program :=
  fun start _ => ⟨reaches start, trivial⟩

/-- The rule of sequencing: the postcondition of the first program is the precondition of the second. -/
theorem Moves.seq
    {next : α → σ → β × σ} {mid : α → σ → Prop} {post : β → σ → Prop}
    (first : Moves step pre program mid)
    (second : ∀ value, Moves step (mid value) (next value) post) :
    Moves step pre (fun start => next (program start).1 (program start).2) post := by
  intro start holds
  obtain ⟨reached, midHolds⟩ := first start holds
  obtain ⟨reachedNext, postHolds⟩ := second _ _ midHolds
  exact ⟨reached.trans reachedNext, postHolds⟩

/-- A program without requirements on its start, in a place where something is known of it. -/
theorem Follows.from
    (follows : Follows step program) (pre : σ → Prop) :
    Moves step pre program (fun _ _ => True) :=
  fun start _ => follows start trivial

theorem Follows.value (value : α) :
    Follows step (fun start => (value, start)) :=
  Follows.of_reaches fun _ => .refl

theorem Follows.seq
    {next : α → σ → β × σ}
    (first : Follows step program)
    (second : ∀ value, Follows step (next value)) :
    Follows step (fun start => next (program start).1 (program start).2) :=
  Moves.seq first second

/-- A step invariant is kept by every run. -/
theorem Follows.invariant
    (invariant : σ → Prop)
    (follows : Follows step program)
    (preserved : ∀ before after, invariant before → step before after → invariant after)
    {start : σ} (holds : invariant start) :
    invariant (program start).2 := by
  have reached := follows.reaches start
  generalize (program start).2 = final at reached
  induction reached with
  | refl =>
      exact holds
  | tail _ last inductionHypothesis =>
      exact preserved _ _ inductionHypothesis last

end ProgramLogic
