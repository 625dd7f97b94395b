import Mathlib.Logic.Basic

namespace RelationalLogic

/-!
# Pairs of runs

Two programs run from related states and reach related results.  A program is a
function from a state to a result and a next state; the two may work on
different states.  The rules follow the constructs the programs share, so that
neither has to be looked into where both do the same.
-/

variable {σ ρ α β γ δ ι : Type*}

/-- From related starts, the two programs reach related ends. -/
def Relates
    (pre : σ → ρ → Prop)
    (left : σ → α × σ)
    (right : ρ → β × ρ)
    (post : α → β → σ → ρ → Prop) : Prop :=
  ∀ start other, pre start other →
    post (left start).1 (right other).1 (left start).2 (right other).2

/-- The results are equal and the states are related in this way. -/
def SameResult (related : σ → ρ → Prop) (first second : α) (ended : σ) (other : ρ) : Prop :=
  first = second ∧ related ended other

variable {pre : σ → ρ → Prop} {left : σ → α × σ} {right : ρ → β × ρ}

theorem Relates.value
    {first : α} {second : β} {post : α → β → σ → ρ → Prop}
    (holds : ∀ start other, pre start other → post first second start other) :
    Relates pre (fun start => (first, start)) (fun other => (second, other)) post :=
  holds

/-- The rule of sequencing: what holds in the middle is what the second programs start from. -/
theorem Relates.seq
    {next : α → σ → γ × σ} {following : β → ρ → δ × ρ}
    {mid : α → β → σ → ρ → Prop} {post : γ → δ → σ → ρ → Prop}
    (first : Relates pre left right mid)
    (second : ∀ a b, Relates (mid a b) (next a) (following b) post) :
    Relates pre (fun start => next (left start).1 (left start).2)
      (fun other => following (right other).1 (right other).2) post :=
  fun start other related => second _ _ _ _ (first start other related)

theorem Relates.weaken
    {strong weak : α → β → σ → ρ → Prop}
    (relates : Relates pre left right strong)
    (implied : ∀ a b start other, strong a b start other → weak a b start other) :
    Relates pre left right weak :=
  fun start other related => implied _ _ _ _ (relates start other related)

/-- Sequencing after equal results: one value is enough to go on with. -/
theorem Relates.andThen
    {left : σ → α × σ} {right : ρ → α × ρ}
    {next : α → σ → γ × σ} {following : α → ρ → δ × ρ}
    {mid : σ → ρ → Prop} {post : γ → δ → σ → ρ → Prop}
    (first : Relates pre left right (SameResult mid))
    (second : ∀ value, Relates mid (next value) (following value) post) :
    Relates pre (fun start => next (left start).1 (left start).2)
      (fun other => following (right other).1 (right other).2) post := by
  refine first.seq fun value same => ?_
  rintro start other ⟨rfl, middle⟩
  exact second value start other middle

/-- Run a program on every element and collect the results. -/
def collectAll (body : ι → σ → α × σ) : List ι → σ → List α × σ
  | [], start => ([], start)
  | item :: rest, start =>
      let ended := collectAll body rest (body item start).2
      ((body item start).1 :: ended.1, ended.2)

/-- Two loops over one list keep the relation every round keeps. -/
theorem Relates.collectAll
    {round : ι → σ → α × σ} {other : ι → ρ → α × ρ} {kept : σ → ρ → Prop}
    (each : ∀ item, Relates kept (round item) (other item) (SameResult kept))
    (items : List ι) :
    Relates kept (RelationalLogic.collectAll round items) (RelationalLogic.collectAll other items)
      (SameResult kept) := by
  induction items with
  | nil =>
      exact .value fun start other related => ⟨rfl, related⟩
  | cons item rest inductionHypothesis =>
      intro start finish related
      obtain ⟨same, middle⟩ := each item start finish related
      obtain ⟨sameRest, ended⟩ := inductionHypothesis _ _ middle
      exact ⟨congrArg₂ List.cons same sameRest, ended⟩

end RelationalLogic
