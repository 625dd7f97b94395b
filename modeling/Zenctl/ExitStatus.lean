import Zenctl.CommandShapes
import Zenctl.LabelledRuns

namespace Zenctl

open CString LabelledRuns

/-!
# What the exit status says

A command changes the system by calling setters and by writing files.  An
`Action` is one such change together with what became of it; the actions of a
command lead from the system it found to the system it leaves.  The command
accounts for them when its status is zero only if every setter succeeded; a
command that makes one change at most accounts for that one exactly.
-/

variable {σ τ α β : Type}

/-- A setter that was called and whether it succeeded, or a step of the host. -/
inductive Action where
  | set (call : Update) (succeeded : Bool)
  | host (step : Step)
  deriving Repr, DecidableEq

/-- The step a command records for the action. -/
def Action.step : Action → Step
  | .set call _ => .update call
  | .host step => step

/-- Did the call succeed? -/
def succeeded : Except Err Unit → Bool
  | .ok _ => true
  | .error _ => false

/-- What an action does to the system. -/
inductive Acts (lib : Library σ τ) (host : Host σ) : Action → σ → σ → Prop
  | set (call : Update) (sys : σ) (memory : τ) :
      Acts lib host (.set call (succeeded (lib.update call sys memory).1)) sys
        (lib.update call sys memory).2.1
  | mkdir (path : CStr) (sys : σ) :
      Acts lib host (.host (.mkdir path)) sys (host.mkdir sys path).2
  | openWrite (path : CStr) (sys : σ) :
      Acts lib host (.host (.openWrite path)) sys (host.openWrite sys path).2
  | writeOut (path text : CStr) (sys : σ) :
      Acts lib host (.host (.writeOut path text)) sys (host.writeOut sys path text)
  | unlink (path : CStr) (sys : σ) :
      Acts lib host (.host (.unlink path)) sys (host.unlink sys path).2

/-- The setters among the actions, and whether each of them succeeded. -/
def attempts (actions : List Action) : List (Update × Bool) :=
  actions.filterMap fun
    | .set call succeeded => some (call, succeeded)
    | .host _ => none

@[simp] theorem attempts_append (actions more : List Action) :
    attempts (actions ++ more) = attempts actions ++ attempts more :=
  List.filterMap_append

/-- The actions lead from one process to the other, which has recorded them. -/
structure Leads (ctx : Ctx σ τ) (process : Process σ τ) (actions : List Action)
    (later : Process σ τ) : Prop where
  run : Runs (Acts ctx.lib ctx.host) process.sys actions later.sys
  recorded : later.steps.filter Step.changesState =
    process.steps.filter Step.changesState ++ actions.map Action.step

theorem Leads.nothing
    {ctx : Ctx σ τ} {process later : Process σ τ}
    (sameSys : later.sys = process.sys)
    (sameSteps : later.steps.filter Step.changesState =
      process.steps.filter Step.changesState) :
    Leads ctx process [] later :=
  ⟨sameSys ▸ .nil _, by rw [sameSteps, List.map_nil, List.append_nil]⟩

theorem Leads.one
    {ctx : Ctx σ τ} {process later : Process σ τ} {action : Action}
    (acts : Acts ctx.lib ctx.host action process.sys later.sys)
    (recorded : later.steps = process.steps ++ [action.step])
    (changes : action.step.changesState = true) :
    Leads ctx process [action] later :=
  ⟨.one acts, by rw [recorded, List.filter_append, List.filter_singleton, changes]; rfl⟩

theorem Leads.trans
    {ctx : Ctx σ τ} {process middle later : Process σ τ} {actions more : List Action}
    (front : Leads ctx process actions middle) (back : Leads ctx middle more later) :
    Leads ctx process (actions ++ more) later :=
  ⟨front.run.append back.run, by
    rw [back.recorded, front.recorded, List.map_append, List.append_assoc]⟩

theorem update_leads (ctx : Ctx σ τ) (process : Process σ τ) (call : Update) :
    Leads ctx process
      [.set call (succeeded (ctx.lib.update call process.sys process.console.memory).1)]
      (update call ctx process).2 :=
  .one (.set call process.sys process.console.memory) rfl rfl

/-- The status tells what became of the setters. -/
structure Accounts (many : Prop) (only : Step → Prop) (status : Int) (actions : List Action) :
    Prop where
  /-- The steps are some of those the command has. -/
  within : ∀ action ∈ actions, only action.step
  /-- Zero says that every setter succeeded. -/
  honest : status = 0 → ∀ attempt ∈ attempts actions, attempt.2 = true
  /-- A command that does not go over many devices calls one setter at most. -/
  single : ¬many → (attempts actions).length ≤ 1
  /-- Its other statuses say that the setter failed. -/
  exact : ¬many → status ≠ 0 → ∀ attempt ∈ attempts actions, attempt.2 = false

theorem Accounts.nothing (many : Prop) (only : Step → Prop) (status : Int) :
    Accounts many only status [] :=
  ⟨List.forall_mem_nil _, fun _ => List.forall_mem_nil _, fun _ => Nat.zero_le 1,
    fun _ _ => List.forall_mem_nil _⟩

theorem Accounts.weaken
    {many fewer : Prop} {only some : Step → Prop} {status : Int} {actions : List Action}
    (accounts : Accounts fewer some status actions)
    (allowed : fewer → many) (covers : ∀ step, some step → only step) :
    Accounts many only status actions :=
  ⟨fun action member => covers _ (accounts.within action member), accounts.honest,
    fun single => accounts.single (single ∘ allowed),
    fun single => accounts.exact (single ∘ allowed)⟩

/--
The program tells by its result what became of the setters it called.  Which
steps it may take can depend on the environment.
-/
def Accounted (many : Prop) (only : Env → Step → Prop) (program : CliM σ τ Int) : Prop :=
  ∀ ctx process, ∃ actions, Leads ctx process actions (program ctx process).2 ∧
    Accounts many (only ctx.env) (program ctx process).1 actions

namespace Accounted

variable {many : Prop} {only : Env → Step → Prop}

theorem ofReading (program : ReadM σ τ Int) : Accounted many only (reading program) :=
  fun _ _ => ⟨[], .nothing rfl rfl, .nothing many _ _⟩

theorem ofValue (status : Int) : Accounted many only (pure status : CliM σ τ Int) :=
  .ofReading (pure status)

theorem weaken
    {fewer : Prop} {some : Env → Step → Prop} {program : CliM σ τ Int}
    (accounted : Accounted fewer some program)
    (allowed : fewer → many) (covers : ∀ env step, some env step → only env step) :
    Accounted many only program := by
  intro ctx process
  obtain ⟨actions, leads, accounts⟩ := accounted ctx process
  exact ⟨actions, leads, accounts.weaken allowed (covers ctx.env)⟩

theorem afterReading
    {front : ReadM σ τ α} {next : α → CliM σ τ Int}
    (rest : ∀ value, Accounted many only (next value)) :
    Accounted many only (reading front >>= next) := by
  intro ctx process
  obtain ⟨actions, ⟨run, recorded⟩, accounts⟩ := rest _ ctx _
  exact ⟨actions, ⟨run, recorded⟩, accounts⟩

theorem afterPrompt
    {what : CStr} {next : Bool → CliM σ τ Int}
    (rest : ∀ answer, Accounted many only (next answer)) :
    Accounted many only (prompt what >>= next) := by
  intro ctx process
  obtain ⟨actions, ⟨run, recorded⟩, accounts⟩ := rest _ ctx _
  refine ⟨actions, ⟨run, recorded.trans ?_⟩, accounts⟩
  simp [prompt, Step.changesState]

end Accounted

/-! ## One setter -/

/-- One setter, and a report of what became of it. -/
theorem update_accounted
    {many : Prop} {only : Env → Step → Prop} {call : Update}
    {next : Except Err Unit → Bool → CliM σ τ Int}
    (part : ∀ env, only env (.update call))
    (failed : ∀ err, ∃ status, status ≠ 0 ∧ Closes (next (.error err)) status)
    (done : Closes (next (.ok ())) 0)
    (json : Bool) :
    Accounted many only (do next (← update call) json) := by
  intro ctx process
  have leads := update_leads ctx process call
  rw [CliM.bind_run]
  simp only [update] at leads ⊢
  cases answer : (ctx.lib.update call process.sys process.console.memory).1 with
  | ok result =>
      obtain ⟨closing, shape, ends⟩ := done json
      rw [answer] at leads
      refine ⟨[.set call true], ?_, ?_⟩
      · rw [shape]
        exact ⟨leads.run, leads.recorded⟩
      · rw [shape, reading_run, ends]
        exact ⟨by simpa [Action.step] using part ctx.env, fun _ => by simp [attempts],
          fun _ => Nat.le_refl 1, fun _ nonzero => absurd rfl nonzero⟩
  | error err =>
      obtain ⟨status, nonzero, closes⟩ := failed err
      obtain ⟨closing, shape, ends⟩ := closes json
      rw [answer] at leads
      refine ⟨[.set call false], ?_, ?_⟩
      · rw [shape]
        exact ⟨leads.run, leads.recorded⟩
      · rw [shape, reading_run, ends]
        exact ⟨by simpa [Action.step] using part ctx.env, fun zero => absurd zero nonzero,
          fun _ => Nat.le_refl 1, fun _ _ => by simp [attempts]⟩

/-! ## Many rounds -/

/-- A failed setter of a round shows in what the round delivers. -/
def RoundShows (only : Env → Step → Prop) (shows : β → Prop) (round : α → CliM σ τ β) : Prop :=
  ∀ item ctx process, ∃ actions, Leads ctx process actions (round item ctx process).2 ∧
    (∀ action ∈ actions, only ctx.env action.step) ∧
    (shows (round item ctx process).1 → ∀ attempt ∈ attempts actions, attempt.2 = true)

/-- When no round shows a failure, no setter failed. -/
theorem RoundShows.rounds
    {only : Env → Step → Prop} {shows : β → Prop} {round : α → CliM σ τ β}
    (each : RoundShows only shows round)
    (items : List α) (ctx : Ctx σ τ) (process : Process σ τ) :
    ∃ actions, Leads ctx process actions (collectCli round items ctx process).2 ∧
      (∀ action ∈ actions, only ctx.env action.step) ∧
      ((∀ result ∈ (collectCli round items ctx process).1, shows result) →
        ∀ attempt ∈ attempts actions, attempt.2 = true) := by
  induction items generalizing process with
  | nil =>
      exact ⟨[], .nothing rfl rfl, List.forall_mem_nil _, fun _ => List.forall_mem_nil _⟩
  | cons item rest inductionHypothesis =>
      obtain ⟨first, leads, within, passed⟩ := each item ctx process
      obtain ⟨others, leadsRest, withinRest, passedRest⟩ :=
        inductionHypothesis (round item ctx process).2
      refine ⟨first ++ others, leads.trans leadsRest, ?_, ?_⟩
      · exact List.forall_mem_append.mpr ⟨within, withinRest⟩
      · simp only [collectCli, CliM.bind_run, CliM.pure_run, List.forall_mem_cons, attempts_append,
          List.forall_mem_append]
        rintro ⟨here, there⟩
        exact ⟨passed here, passedRest there⟩

theorem cpuApply_shows
    {only : Env → Step → Prop} {set : CpuHandle → Update}
    (part : ∀ cpu env, only env (.update (set cpu))) :
    RoundShows only (fun result => setFailed result = false)
      (cpuApply set : Int → CliM σ τ (Int × Option (Except Err Unit))) := by
  intro c ctx process
  simp only [cpuApply, CliM.bind_run, reading_run, query]
  cases (ctx.lib.query (.cpuOpen c) process.sys process.console.memory).1 with
  | error err =>
      exact ⟨[], .nothing rfl rfl, List.forall_mem_nil _, fun _ => List.forall_mem_nil _⟩
  | ok cpu =>
      have leads := update_leads ctx (reading (query (.cpuOpen c)) ctx process).2 (set cpu)
      refine ⟨_, ⟨leads.run, leads.recorded⟩, by simpa [Action.step] using part cpu ctx.env,
        fun passed attempt member => ?_⟩
      rw [List.mem_singleton.mp member]
      simp only [CliM.bind_run, CliM.pure_run, update] at passed
      revert passed
      simp only [reading_run, query]
      cases (ctx.lib.update (set cpu) process.sys _).1 with
      | ok result =>
          exact fun _ => rfl
      | error err =>
          exact nofun

theorem cpuSetEach_accounted
    {many : Prop} {only : Env → Step → Prop} {set : CpuHandle → Update}
    (allowed : many) (part : ∀ cpu env, only env (.update (set cpu)))
    (json : Bool) (bounds : Int × Int) (done : CStr) :
    Accounted many only (cpuSetEach json bounds set done : CliM σ τ Int) := by
  intro ctx process
  obtain ⟨actions, leads, within, passed⟩ :=
    (cpuApply_shows part).rounds (countUp bounds.1 bounds.2) ctx process
  refine ⟨actions, ⟨leads.run, leads.recorded⟩, ⟨within, fun zero => passed ?_,
    fun single => absurd allowed single, fun single => absurd allowed single⟩⟩
  simp only [cpuSetEach, CliM.bind_run, CliM.pure_run] at zero
  split at zero
  · cases zero
  · next clean => simpa using clean

/-! ## Every shape -/

/-- The step is one of these setters. -/
def Sets (only : Update → Prop) (step : Step) : Prop :=
  ∃ call, step = .update call ∧ only call

theorem Performs.accounted
    {many : Prop} {only : Update → Prop} {program : Bool → CliM σ τ Int}
    (performs : Performs many only program) (json : Bool) :
    Accounted many (fun _ => Sets only) (program json) := by
  induction performs with
  | ends agree =>
      exact .ofReading _
  | reads inStep rest inductionHypothesis =>
      exact .afterReading inductionHypothesis
  | asks rest inductionHypothesis =>
      exact .afterPrompt inductionHypothesis
  | sets part failed done =>
      exact update_accounted (fun _ => ⟨_, rfl, part⟩) failed done json
  | goesOver allowed part =>
      exact cpuSetEach_accounted allowed (fun cpu _ => ⟨_, rfl, part cpu⟩) json _ _

theorem Planned.accounted
    {many : Prop} {only : Update → Prop} {program : Bool → Bool → CliM σ τ Int}
    (planned : Planned many only program) (json dryRun : Bool) :
    Accounted many (fun _ => Sets only) (program json dryRun) := by
  induction planned with
  | ends agree =>
      exact .ofReading _
  | reads inStep rest inductionHypothesis =>
      exact .afterReading inductionHypothesis
  | previews announced performs =>
      cases dryRun with
      | true =>
          exact .ofReading _
      | false =>
          exact performs.accounted json

end Zenctl
