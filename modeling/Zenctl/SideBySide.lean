import Zenctl.Main
import Zenctl.RelationalLogic

namespace Zenctl

open CString RelationalLogic

/-!
# Two runs of a command side by side

A command started twice, with other text on the console, reads the same answers
and takes the same steps as long as it asks the library the same questions.
Here are the relations between the two runs and a rule for each construct the
handlers are made of.
-/

variable {σ τ α β : Type}

/-- The library remembers the same; what was printed may differ. -/
def SameMemory (console other : Console τ) : Prop :=
  console.memory = other.memory

/-- Two processes that took the same steps and can go on in the same way. -/
structure Alongside (process other : Process σ τ) : Prop where
  sys : process.sys = other.sys
  steps : process.steps = other.steps
  memory : SameMemory process.console other.console

/-- Two processes that took the same steps and left the same system. -/
structure SameTrace (process other : Process σ τ) : Prop where
  sys : process.sys = other.sys
  steps : process.steps = other.steps

theorem Alongside.trace
    {process other : Process σ τ} (alongside : Alongside process other) :
    SameTrace process other :=
  ⟨alongside.sys, alongside.steps⟩

/-- The two programs deliver the same value and leave the library alike. -/
def ReadM.InStep (left right : ReadM σ τ α) : Prop :=
  ∀ ctx sys, Relates SameMemory (left ctx sys) (right ctx sys) (SameResult SameMemory)

/-- The two programs deliver the same value. -/
def ReadM.Agree (left right : ReadM σ τ α) : Prop :=
  ∀ ctx sys, Relates SameMemory (left ctx sys) (right ctx sys) (SameResult fun _ _ => True)

/-- The program always delivers this value. -/
def ReadM.Ends (program : ReadM σ τ α) (value : α) : Prop :=
  ∀ ctx sys console, (program ctx sys console).1 = value

/-- The two programs deliver the same value, take the same steps and can go on alike. -/
def CliM.InStep (left right : CliM σ τ α) : Prop :=
  ∀ ctx, Relates Alongside (left ctx) (right ctx) (SameResult Alongside)

/-- The two programs deliver the same value, take the same steps and leave the same system. -/
def CliM.SameOutcome (left right : CliM σ τ α) : Prop :=
  ∀ ctx, Relates Alongside (left ctx) (right ctx) (SameResult SameTrace)

namespace ReadM.InStep

variable {left right : ReadM σ τ α}

theorem pure (value : α) : (pure value : ReadM σ τ α).InStep (pure value) :=
  fun _ _ _ _ related => ⟨rfl, related⟩

theorem bind
    {next following : α → ReadM σ τ β}
    (first : left.InStep right)
    (second : ∀ value, (next value).InStep (following value)) :
    (left >>= next).InStep (right >>= following) :=
  fun ctx sys => Relates.andThen (first ctx sys) fun value => second value ctx sys

theorem query (call : Query β) : (query call : ReadM σ τ (Except Err β)).InStep (query call) := by
  intro ctx sys console other related
  have same : console.memory = other.memory := related
  refine ⟨?_, ?_⟩
  · exact congrArg (fun memory => (ctx.lib.query call sys memory).1) same
  · exact congrArg (fun memory => (ctx.lib.query call sys memory).2) same

/-- A program that neither asks the library nor looks at the console. -/
theorem silent {value : Ctx σ τ → σ → α}
    (first : ∀ ctx sys console, (left ctx sys console).1 = value ctx sys ∧
      (left ctx sys console).2.memory = console.memory)
    (second : ∀ ctx sys console, (right ctx sys console).1 = value ctx sys ∧
      (right ctx sys console).2.memory = console.memory) :
    left.InStep right := by
  intro ctx sys console other related
  obtain ⟨valueLeft, memoryLeft⟩ := first ctx sys console
  obtain ⟨valueRight, memoryRight⟩ := second ctx sys other
  exact ⟨valueLeft.trans valueRight.symm, memoryLeft.trans (related.trans memoryRight.symm)⟩

/-- Both programs ask the same, and go on by the same answer. -/
theorem answer
    {call : Query β} {next following : Except Err β → ReadM σ τ α}
    (failed : ∀ err, (next (.error err)).InStep (following (.error err)))
    (answered : ∀ value, (next (.ok value)).InStep (following (.ok value))) :
    (Zenctl.query call >>= next).InStep (Zenctl.query call >>= following) := by
  refine bind (query call) fun answer => ?_
  cases answer with
  | error err => exact failed err
  | ok value => exact answered value

theorem ite
    {condition : Prop} [Decidable condition] {first second other another : ReadM σ τ α}
    (whenTrue : condition → first.InStep other)
    (whenFalse : ¬condition → second.InStep another) :
    (if condition then first else second).InStep (if condition then other else another) := by
  split
  · next holds => exact whenTrue holds
  · next fails => exact whenFalse fails

theorem getEnv : (getEnv : ReadM σ τ Env).InStep getEnv :=
  silent (fun _ _ _ => ⟨rfl, rfl⟩) fun _ _ _ => ⟨rfl, rfl⟩

theorem listDir (path : CStr) :
    (listDir path : ReadM σ τ (Option (List CStr))).InStep (listDir path) :=
  silent (fun _ _ _ => ⟨rfl, rfl⟩) fun _ _ _ => ⟨rfl, rfl⟩

theorem access (path : CStr) (mode : Access) :
    (access path mode : ReadM σ τ Bool).InStep (access path mode) :=
  silent (fun _ _ _ => ⟨rfl, rfl⟩) fun _ _ _ => ⟨rfl, rfl⟩

theorem readFile (path : CStr) :
    (readFile path : ReadM σ τ (Except CStr (List Char))).InStep (readFile path) :=
  silent (fun _ _ _ => ⟨rfl, rfl⟩) fun _ _ _ => ⟨rfl, rfl⟩

end ReadM.InStep

namespace ReadM.Agree

variable {left right : ReadM σ τ α}

theorem ofEnds {value : α} (first : left.Ends value) (second : right.Ends value) :
    left.Agree right :=
  fun ctx sys console other _ =>
    ⟨(first ctx sys console).trans (second ctx sys other).symm, trivial⟩

theorem bind
    {next following : α → ReadM σ τ β}
    (first : left.InStep right)
    (second : ∀ value, (next value).Agree (following value)) :
    (left >>= next).Agree (right >>= following) :=
  fun ctx sys => Relates.andThen (first ctx sys) fun value => second value ctx sys

/-- Both programs ask the same, and go on by the same answer. -/
theorem answer
    {call : Query β} {next following : Except Err β → ReadM σ τ α}
    (failed : ∀ err, (next (.error err)).Agree (following (.error err)))
    (answered : ∀ value, (next (.ok value)).Agree (following (.ok value))) :
    (Zenctl.query call >>= next).Agree (Zenctl.query call >>= following) := by
  refine bind (.query call) fun answer => ?_
  cases answer with
  | error err => exact failed err
  | ok value => exact answered value

theorem ite
    {condition : Prop} [Decidable condition] {first second other another : ReadM σ τ α}
    (whenTrue : condition → first.Agree other)
    (whenFalse : ¬condition → second.Agree another) :
    (if condition then first else second).Agree (if condition then other else another) := by
  split
  · next holds => exact whenTrue holds
  · next fails => exact whenFalse fails

end ReadM.Agree

namespace CliM.InStep

variable {left right : CliM σ τ α}

theorem pure (value : α) : (pure value : CliM σ τ α).InStep (pure value) :=
  fun _ _ _ related => ⟨rfl, related⟩

theorem bind
    {next following : α → CliM σ τ β}
    (first : left.InStep right)
    (second : ∀ value, (next value).InStep (following value)) :
    (left >>= next).InStep (right >>= following) :=
  fun ctx => Relates.andThen (first ctx) fun value => second value ctx

theorem reading {left right : ReadM σ τ α} (inStep : left.InStep right) :
    (reading left).InStep (reading right) := by
  rintro ctx ⟨sys, console, steps⟩ ⟨_, other, _⟩ ⟨rfl, rfl, memory⟩
  obtain ⟨value, remembered⟩ := inStep ctx sys console other memory
  exact ⟨value, rfl, rfl, remembered⟩

theorem update (call : Update) :
    (update call : CliM σ τ (Except Err Unit)).InStep (update call) := by
  rintro ctx ⟨sys, console, steps⟩ ⟨_, other, _⟩ ⟨rfl, rfl, memory⟩
  have same : console.memory = other.memory := memory
  unfold Zenctl.update
  dsimp only
  rw [same]
  exact ⟨rfl, rfl, rfl, rfl⟩

theorem prompt (what : CStr) : (prompt what : CliM σ τ Bool).InStep (prompt what) := by
  rintro ctx ⟨sys, console, steps⟩ ⟨_, other, _⟩ ⟨rfl, rfl, memory⟩
  exact ⟨rfl, rfl, rfl, memory⟩

theorem mkdir (path : CStr) : (mkdir path : CliM σ τ Bool).InStep (mkdir path) := by
  rintro ctx ⟨sys, console, steps⟩ ⟨_, other, _⟩ ⟨rfl, rfl, memory⟩
  exact ⟨rfl, rfl, rfl, memory⟩

theorem openWrite (path : CStr) :
    (openWrite path : CliM σ τ (Except CStr Unit)).InStep (openWrite path) := by
  rintro ctx ⟨sys, console, steps⟩ ⟨_, other, _⟩ ⟨rfl, rfl, memory⟩
  exact ⟨rfl, rfl, rfl, memory⟩

theorem writeOut (path text : CStr) :
    (writeOut path text : CliM σ τ Unit).InStep (writeOut path text) := by
  rintro ctx ⟨sys, console, steps⟩ ⟨_, other, _⟩ ⟨rfl, rfl, memory⟩
  exact ⟨rfl, rfl, rfl, memory⟩

theorem unlink (path : CStr) :
    (unlink path : CliM σ τ (Except CStr Unit)).InStep (unlink path) := by
  rintro ctx ⟨sys, console, steps⟩ ⟨_, other, _⟩ ⟨rfl, rfl, memory⟩
  exact ⟨rfl, rfl, rfl, memory⟩

theorem collectCli
    {round other : α → CliM σ τ β}
    (each : ∀ item, (round item).InStep (other item))
    (items : List α) :
    (collectCli round items).InStep (collectCli other items) := by
  induction items with
  | nil =>
      exact .pure _
  | cons item rest inductionHypothesis =>
      exact .bind (each item) fun _ => .bind inductionHypothesis fun _ => .pure _

theorem ite
    {condition : Prop} [Decidable condition] {first second other another : CliM σ τ α}
    (whenTrue : condition → first.InStep other)
    (whenFalse : ¬condition → second.InStep another) :
    (if condition then first else second).InStep (if condition then other else another) := by
  split
  · next holds => exact whenTrue holds
  · next fails => exact whenFalse fails

end CliM.InStep

namespace CliM.SameOutcome

variable {left right : CliM σ τ α}

theorem ofInStep (inStep : left.InStep right) : left.SameOutcome right :=
  fun ctx => (inStep ctx).weaken fun _ _ _ _ same => ⟨same.1, same.2.trace⟩

theorem reading {left right : ReadM σ τ α} (agree : left.Agree right) :
    (reading left).SameOutcome (reading right) := by
  rintro ctx ⟨sys, console, steps⟩ ⟨_, other, _⟩ ⟨rfl, rfl, memory⟩
  exact ⟨(agree ctx sys console other memory).1, rfl, rfl⟩

theorem bind
    {next following : α → CliM σ τ β}
    (first : left.InStep right)
    (second : ∀ value, (next value).SameOutcome (following value)) :
    (left >>= next).SameOutcome (right >>= following) :=
  fun ctx => Relates.andThen (first ctx) fun value => second value ctx

/-- Something printed in between, and a value behind it. -/
theorem thenPure
    {front other : ReadM σ τ β} (value : α) :
    (do let _ ← Zenctl.reading front; Pure.pure value : CliM σ τ α).SameOutcome
      (do let _ ← Zenctl.reading other; Pure.pure value) := by
  rintro ctx ⟨sys, console, steps⟩ ⟨_, another, _⟩ ⟨rfl, rfl, memory⟩
  exact ⟨rfl, rfl, rfl⟩

theorem ite
    {condition : Prop} [Decidable condition] {first second other another : CliM σ τ α}
    (whenTrue : condition → first.SameOutcome other)
    (whenFalse : ¬condition → second.SameOutcome another) :
    (if condition then first else second).SameOutcome (if condition then other else another) := by
  split
  · next holds => exact whenTrue holds
  · next fails => exact whenFalse fails

end CliM.SameOutcome

end Zenctl
