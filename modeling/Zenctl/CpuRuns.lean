import Zenctl.CpuSelection
import Zenctl.LoadedSettings

namespace Zenctl

open CString

/-!
# Runs of `zenctl cpu set`

A whole run of one of the five settings, measured by the CPUs it calls setters
for.  `--cpu` names a set of CPUs of the machine, and the machine's CPUs are those
the kernel has a directory for, whatever their numbers: the loops of the handlers,
on the other hand, count up to the number of directories.
-/

variable {σ : Type}

/-! ## The CPUs of a machine -/

/-- Writing a file neither makes nor removes the directory of a CPU. -/
def Os.KeepsCpus (os : Os σ) : Prop :=
  ∀ sys path text, cpuDirs os (os.writeFile sys path text).2 = cpuDirs os sys

section Opening

variable {os : Os σ} {sys : σ} {c : Int}

theorem cpuOpen_there (there : c ∈ machineCpus os sys) :
    (Query.cpuOpen c).asked os sys = some ⟨c⟩ := by
  have opens : zenctlCpuOpen c os sys freshProc = (.value ⟨c⟩, freshProc) :=
    cpuOpen_present there.1 there.2 rfl
  rw [Query.asked, show (Query.cpuOpen c).program = zenctlCpuOpen c from rfl, opens]

theorem cpuOpen_absent (absent : c ∉ machineCpus os sys) :
    (Query.cpuOpen c).asked os sys = none := by
  rw [Query.asked, show (Query.cpuOpen c).program = zenctlCpuOpen c from rfl, zenctlCpuOpen]
  by_cases negative : c < 0
  · rw [if_pos negative]
    rfl
  · rw [if_neg negative, GetM.bind_run, sysCallOr, GetM.bind_run, sysCall]
    cases found : os.access sys
        (bounded 128 ("/sys/devices/system/cpu/cpu".toList ++ showInt c)) .present with
    | error e => rfl
    | ok _ => exact absurd ⟨not_lt.mp negative, found⟩ absent

theorem cpuOpen_kept (os : Os σ) (c : Int) :
    (Query.cpuOpen c).program.Settles os fun sys later => cpuDirs os later = cpuDirs os sys :=
  .ite (.raise _ _ _) (.bind (.sysCallOr (fun _ _ same => congrFun same c) _ _) fun _ =>
    .bind (.allocateOr _ _) fun _ => .pure _)

end Opening

/-! ## What is called -/

/-- The CPU a step changes a setting of. -/
def Step.cpu : Step → Option Int
  | .update call => call.cpu
  | _ => none

/-- The CPUs that setters were called for. -/
def actedCpus (steps : List Step) : List Int :=
  steps.filterMap Step.cpu

@[simp] theorem actedCpus_append (earlier later : List Step) :
    actedCpus (earlier ++ later) = actedCpus earlier ++ actedCpus later :=
  List.filterMap_append

/-- The setters a loop over CPUs calls. -/
def cpuCalls (os : Os σ) (sys : σ) (set : CpuHandle → Update) (cpus : List Int) : List Update :=
  cpus.flatMap fun c => ((Query.cpuOpen c).asked os sys).toList.map set

/-- They are called for those of the CPUs that the machine has. -/
theorem mem_actedCpus_calls
    {os : Os σ} {sys : σ} {set : CpuHandle → Update}
    (about : ∀ cpu, (set cpu).cpu = some cpu.index) (cpus : List Int) (d : Int) :
    d ∈ actedCpus ((cpuCalls os sys set cpus).map .update) ↔
      d ∈ cpus ∧ d ∈ machineCpus os sys := by
  induction cpus with
  | nil => simp [cpuCalls, actedCpus]
  | cons c rest inductionHypothesis =>
      have split : cpuCalls os sys set (c :: rest) =
          ((Query.cpuOpen c).asked os sys).toList.map set ++ cpuCalls os sys set rest := rfl
      rw [split, List.map_append, actedCpus_append, List.mem_append, inductionHypothesis,
        List.mem_cons]
      by_cases there : c ∈ machineCpus os sys
      · have acted : actedCpus ((((Query.cpuOpen c).asked os sys).toList.map set).map .update) =
            [c] := by
          rw [cpuOpen_there there]
          simp [actedCpus, Step.cpu, about]
        rw [acted, List.mem_singleton]
        constructor
        · rintro (rfl | ⟨member, inside⟩)
          · exact ⟨.inl rfl, there⟩
          · exact ⟨.inr member, inside⟩
        · rintro ⟨rfl | member, inside⟩
          · exact .inl rfl
          · exact .inr ⟨member, inside⟩
      · have acted : actedCpus ((((Query.cpuOpen c).asked os sys).toList.map set).map .update) =
            [] := by
          rw [cpuOpen_absent there]
          rfl
        rw [acted]
        constructor
        · rintro (impossible | ⟨member, inside⟩)
          · cases impossible
          · exact ⟨.inr member, inside⟩
        · rintro ⟨rfl | member, inside⟩
          · exact absurd inside there
          · exact .inr ⟨member, inside⟩

theorem setOr_steps
    {ctx : Ctx σ Proc} {json : Bool} {call : Update} {fallback document : CStr}
    {lines : ReadM σ Proc Unit} (process : Process σ Proc) :
    (setOr json call fallback document lines ctx process).2.steps =
      process.steps ++ [.update call] := by
  unfold setOr
  rw [CliM.bind_run]
  cases (update call ctx process).1 with
  | error err => rfl
  | ok _ => rfl

/-- A setter for one CPU: one file to write, and no memory kept. -/
structure CpuSetter (os : Os σ) (set : CpuHandle → Update) : Prop where
  about : ∀ cpu, (set cpu).cpu = some cpu.index
  assigns : ∀ cpu, (set cpu).assignment.isSome = true
  spares : ∀ cpu, (set cpu).program.Spares os

namespace CpuSetter

variable (os : Os σ)

theorem governor (name : CStr) : CpuSetter os (.cpuSetGovernor · name) where
  about _ := rfl
  assigns _ := rfl
  spares cpu := (Update.InProfile.governor cpu name).spares os

theorem freq (isMax : Bool) (hz : Int) :
    CpuSetter os fun cpu => if isMax then .cpuSetFreqMax cpu hz else .cpuSetFreqMin cpu hz := by
  cases isMax with
  | true => exact ⟨fun _ => rfl, fun _ => rfl, fun cpu => (Update.InProfile.freqMax cpu hz).spares os⟩
  | false => exact ⟨fun _ => rfl, fun _ => rfl, fun cpu => (Update.InProfile.freqMin cpu hz).spares os⟩

theorem online (on : Bool) : CpuSetter os (.cpuSetOnline · on) where
  about _ := rfl
  assigns _ := rfl
  spares _ := .write _ _

theorem cstate (state : Int) (disable : Bool) :
    CpuSetter os (.cpuSetCstateDisable · state disable) where
  about _ := rfl
  assigns _ := rfl
  spares _ := .ite (.raise _ _ _) (.write _ _)

end CpuSetter

section Loops

variable {os : Os σ} {ctx : Ctx σ Proc} {first : σ} {set : CpuHandle → Update}
  (library : ctx.lib = libzenctl os) (steady : os.KeepsCpus) (setter : CpuSetter os set)

include library steady setter

theorem cpuApply_calls (c : Int) :
    CliM.Calls ctx (cpuDirs os) first (cpuApply set c) (cpuCalls os first set [c]) := by
  refine .opening library (.cpuOpen c) (cpuOpen_kept os c) (fun cpu asked => ?_) fun asked err => ?_
  · have one : cpuCalls os first set [c] = [set cpu] := by
      simp [cpuCalls, asked]
    rw [one]
    exact .thenPure (.update library steady (setter.assigns cpu) (setter.spares cpu))
  · have none : cpuCalls os first set [c] = [] := by
      simp [cpuCalls, asked]
    rw [none]
    exact .pure _

theorem cpuLoop_calls (cpus : List Int) :
    CliM.Calls ctx (cpuDirs os) first (collectCli (cpuApply set) cpus)
      (cpuCalls os first set cpus) := by
  have rounds : CliM.Calls ctx (cpuDirs os) first (collectCli (cpuApply set) cpus)
      (cpus.flatMap fun c => cpuCalls os first set [c]) :=
    .collectCli (cpuApply_calls library steady setter) cpus
  simpa [cpuCalls] using rounds

end Loops

/-! ## Going over CPUs -/

/--
The program calls setters for those of the CPUs that the machine has, and returns
zero only if it has them all.
-/
structure GoesOver (program : CliM σ Proc Int) (ctx : Ctx σ Proc) (os : Os σ)
    (process : Process σ Proc) (cpus : List Int) : Prop where
  acted : ∀ c, c ∈ actedCpus (program ctx process).2.steps ↔
    c ∈ cpus ∧ c ∈ machineCpus os process.sys
  complete : (program ctx process).1 = 0 → ∀ c ∈ cpus, c ∈ machineCpus os process.sys
  empty : cpus = [] → (program ctx process).1 = 0

section Going

variable {os : Os σ} {ctx : Ctx σ Proc} {set : CpuHandle → Update} {process : Process σ Proc}
  (library : ctx.lib = libzenctl os) (steady : os.KeepsCpus) (setter : CpuSetter os set)
  (memory : process.console.memory.allocations = []) (fresh : actedCpus process.steps = [])

omit memory in
/-- A CPU that the machine does not have is a failure. -/
theorem cpuApply_absent
    (library : ctx.lib = libzenctl os) {c : Int} (absent : c ∉ machineCpus os process.sys)
    (memory : process.console.memory.allocations = []) :
    setFailed (cpuApply set c ctx process).1 = true := by
  obtain ⟨later, run, -⟩ := (cpuOpen_kept os c).answers process.sys
    { process.console.memory with err := Err.zero } memory
  rw [cpuOpen_absent absent] at run
  rw [cpuApply, CliM.bind_run, reading_run, query_run library, run]
  rfl

include library steady setter memory

theorem cpuLoop_complete
    {cpus : List Int}
    (fine : (collectCli (cpuApply set) cpus ctx process).1.any setFailed = false) :
    ∀ c ∈ cpus, c ∈ machineCpus os process.sys := by
  induction cpus generalizing process with
  | nil => exact List.forall_mem_nil _
  | cons c rest inductionHypothesis =>
      have results : (collectCli (cpuApply set) (c :: rest) ctx process).1 =
          (cpuApply set c ctx process).1 ::
            (collectCli (cpuApply set) rest ctx (cpuApply set c ctx process).2).1 := rfl
      rw [results, List.any_cons, Bool.or_eq_false_iff] at fine
      obtain ⟨-, kept, plenty⟩ :=
        cpuApply_calls library steady setter c process rfl memory
      have same : machineCpus os (cpuApply set c ctx process).2.sys =
          machineCpus os process.sys := by
        unfold machineCpus
        rw [kept]
      refine List.forall_mem_cons.mpr ⟨?_, ?_⟩
      · by_contra absent
        have failed := @cpuApply_absent σ os ctx set process library c absent memory
        rw [fine.1] at failed
        cases failed
      · rw [← same]
        exact inductionHypothesis plenty fine.2

include fresh

theorem cpuSetEach_goesOver (json : Bool) (bounds : Int × Int) (done : CStr) :
    GoesOver (cpuSetEach json bounds set done) ctx os process (countUp bounds.1 bounds.2) := by
  obtain ⟨steps, -, -⟩ :=
    cpuLoop_calls library steady setter (countUp bounds.1 bounds.2) process rfl memory
  have called : (cpuSetEach json bounds set done ctx process).2.steps =
      process.steps ++ (cpuCalls os process.sys set (countUp bounds.1 bounds.2)).map .update :=
    steps
  have status : (cpuSetEach json bounds set done ctx process).1 =
      if (collectCli (cpuApply set) (countUp bounds.1 bounds.2) ctx process).1.any setFailed
        then 1 else 0 := rfl
  constructor
  · intro c
    rw [called, actedCpus_append, fresh, List.nil_append]
    exact mem_actedCpus_calls setter.about _ c
  · intro success
    refine cpuLoop_complete library steady setter memory ?_
    by_contra failed
    rw [Bool.not_eq_false] at failed
    rw [status, if_pos failed] at success
    cases success
  · intro none
    rw [status, none]
    rfl

omit steady in
theorem cpuSetOne_goesOver
    (json : Bool) (c : Int) (noOpen fallback document : CStr) (lines : ReadM σ Proc Unit) :
    GoesOver (cpuSetOne json c noOpen fallback set document lines) ctx os process [c] := by
  obtain ⟨later, run, -⟩ := (cpuOpen_kept os c).answers process.sys
    { process.console.memory with err := Err.zero } memory
  by_cases there : c ∈ machineCpus os process.sys
  · rw [cpuOpen_there there] at run
    have called : (cpuSetOne json c noOpen fallback set document lines ctx process).2.steps =
        process.steps ++ [.update (set ⟨c⟩)] := by
      rw [cpuSetOne, CliM.bind_run, reading_run, query_run library, run]
      exact setOr_steps _
    have acted : actedCpus [Step.update (set ⟨c⟩)] = [c] := by
      simp [actedCpus, Step.cpu, setter.about]
    refine ⟨fun d => ?_, fun _ d member => ?_, nofun⟩
    · rw [called, actedCpus_append, fresh, List.nil_append, acted, List.mem_singleton]
      constructor
      · rintro rfl
        exact ⟨rfl, there⟩
      · exact And.left
    · cases List.mem_singleton.mp member
      exact there
  · rw [cpuOpen_absent there] at run
    have untouched : (cpuSetOne json c noOpen fallback set document lines ctx process).2.steps =
        process.steps := by
      rw [cpuSetOne, CliM.bind_run, reading_run, query_run library, run]
      rfl
    have status : (cpuSetOne json c noOpen fallback set document lines ctx process).1 = 1 := by
      rw [cpuSetOne, CliM.bind_run, reading_run, query_run library, run]
      rfl
    refine ⟨fun d => ?_, fun success => ?_, nofun⟩
    · rw [untouched, fresh, List.mem_singleton]
      constructor
      · nofun
      · rintro ⟨rfl, inside⟩
        exact absurd inside there
    · rw [status] at success
      cases success

end Going

/-! ## The handlers -/

/-- `cmd_count_cpus`: the entries `cpu<N>` of the CPU directory, or one. -/
def listedCpus (host : Host σ) (sys : σ) : Int :=
  match host.listDir sys "/sys/devices/system/cpu" with
  | none => 1
  | some names =>
      if 0 < (names.filter isCpuEntry).length then (names.filter isCpuEntry).length else 1

theorem countCpus_listed
    {τ : Type} (ctx : Ctx σ τ) (sys : σ) (console : Console τ) :
    cmdCountCpus ctx sys console = (listedCpus ctx.host sys, console) := by
  unfold cmdCountCpus listedCpus
  rw [ReadM.bind_run, listDir]
  cases ctx.host.listDir sys "/sys/devices/system/cpu" with
  | none => rfl
  | some names => rfl

namespace CpuSetting

/-- The CPUs the handler opens where `ncpu` CPUs are listed. -/
def opens (setting : CpuSetting) (args : List CStr) (ncpu : Int) : List Int :=
  match setting with
  | .governor | .freqMin | .freqMax =>
      countUp (cpuBounds (parseCpuArg args) ncpu).1 (cpuBounds (parseCpuArg args) ncpu).2
  | .online => [parseCpuArg args]
  | .cstate => [if parseCpuArg args = -1 then 0 else parseCpuArg args]

/-- The handler turns its arguments down. -/
def Refuses (setting : CpuSetting) (env : Env) (args : List CStr) : Prop :=
  told (cmdOptStr "--cpu" args) = -2 ∨
    match setting with
    | .governor => positionalArg args 0 = none
    | .freqMin | .freqMax => (positionalArg args 0).bind (parseFreq env) = none
    -- a CPU goes offline or online by its number only
    | .online =>
        (positionalArg args 0).bind parseOnOff = none ∨ told (cmdOptStr "--cpu" args) = -1
    | .cstate =>
        ((positionalArg args 0).bind fun text => (wholeInt text).filter (0 ≤ ·)) = none ∨
          ∀ word ∈ positionalArg args 1, word ≠ "disable".toList ∧ word ≠ "enable".toList

/-- The question before a CPU goes offline is not answered with yes. -/
def Declined (setting : CpuSetting) (env : Env) (args : List CStr) (confirm : Bool) : Prop :=
  setting = .online ∧ (positionalArg args 0).bind parseOnOff = some false ∧ confirm = false ∧
    isYes env.stdinLine = false

end CpuSetting

/-- What a run does, by what becomes of the arguments. -/
structure CpuHandled (program : CliM σ Proc Int) (ctx : Ctx σ Proc) (os : Os σ)
    (process : Process σ Proc) (refuses declined : Prop) (dryRun : Bool) (cpus : List Int) :
    Prop where
  refused : refuses →
    (program ctx process).1 = 1 ∧ actedCpus (program ctx process).2.steps = []
  waits : dryRun = true ∨ declined → actedCpus (program ctx process).2.steps = []
  goes : ¬refuses → dryRun = false → ¬declined → GoesOver program ctx os process cpus

section Handlers

variable {os : Os σ} {ctx : Ctx σ Proc} {process : Process σ Proc}

/-- What goes on as another program, on the same system, does what that one does. -/
theorem GoesOver.of_run
    {program other : CliM σ Proc Int} {later : Process σ Proc} {cpus : List Int}
    (goes : GoesOver other ctx os later cpus)
    (same : later.sys = process.sys)
    (run : program ctx process = other ctx later) :
    GoesOver program ctx os process cpus := by
  obtain ⟨acted, complete, empty⟩ := goes
  rw [← run, same] at acted
  rw [← run, same] at complete
  rw [← run] at empty
  exact ⟨acted, complete, empty⟩

variable (library : ctx.lib = libzenctl os) (steady : os.KeepsCpus)
  (memory : process.console.memory.allocations = []) (fresh : actedCpus process.steps = [])

namespace CpuHandled

variable {program : CliM σ Proc Int} {refuses declined : Prop} {dryRun : Bool} {cpus : List Int}

include fresh

/-- An error in front of everything else. -/
theorem refusal
    (why : refuses) (status : (program ctx process).1 = 1)
    (untouched : (program ctx process).2.steps = process.steps) :
    CpuHandled program ctx os process refuses declined dryRun cpus where
  refused _ := ⟨status, untouched ▸ fresh⟩
  waits _ := untouched ▸ fresh
  goes accepted := absurd why accepted

/-- Arguments in order, and no question asked. -/
theorem accepted
    (inOrder : ¬refuses) (unasked : ¬declined)
    (announces : dryRun = true → (program ctx process).2.steps = process.steps)
    (goes : dryRun = false → GoesOver program ctx os process cpus) :
    CpuHandled program ctx os process refuses declined dryRun cpus where
  refused why := absurd why inOrder
  waits idle := by
    rcases idle with dry | asked
    · rw [announces dry]
      exact fresh
    · exact absurd asked unasked
  goes _ going _ := goes going

omit fresh in
/-- The environment is looked at first. -/
theorem knowing
    {next : Env → CliM σ Proc Int}
    (handled : CpuHandled (next ctx.env) ctx os process refuses declined dryRun cpus) :
    CpuHandled (reading getEnv >>= next) ctx os process refuses declined dryRun cpus :=
  ⟨handled.refused, handled.waits, fun inOrder going unasked =>
    (handled.goes inOrder going unasked).of_run rfl rfl⟩

end CpuHandled

include library steady memory fresh

variable {args : List CStr} (parsed : parseCpuArg args = told (cmdOptStr "--cpu" args))

include parsed

/-- The last part of the handlers that go over a range of CPUs. -/
theorem cpuLoop_handled
    {set : CpuHandle → Update} (setter : CpuSetter os set)
    {refuses declined : Prop} (unasked : ¬declined)
    (refuses_iff : refuses ↔ told (cmdOptStr "--cpu" args) = -2)
    (json dryRun : Bool) (done : CStr) (announced : Int → ReadM σ Proc Int) :
    CpuHandled
      (if parseCpuArg args = -2 then reading (failWith json none "invalid --cpu value")
      else do
        let ncpu ← reading cmdCountCpus
        if dryRun then reading (announced ncpu)
        else cpuSetEach json (cpuBounds (parseCpuArg args) ncpu) set done)
      ctx os process refuses declined dryRun
      (CpuSetting.governor.opens args (listedCpus ctx.host process.sys)) := by
  by_cases invalid : parseCpuArg args = -2
  · rw [if_pos invalid]
    exact .refusal fresh (refuses_iff.mpr (parsed.symm.trans invalid)) rfl rfl
  · rw [if_neg invalid]
    refine .accepted fresh (fun why => invalid (parsed.trans (refuses_iff.mp why))) unasked ?_ ?_
    · rintro rfl
      rw [CliM.bind_run, reading_run, countCpus_listed]
      rfl
    · rintro rfl
      have goes := cpuSetEach_goesOver library steady setter memory fresh json
        (cpuBounds (parseCpuArg args) (listedCpus ctx.host process.sys)) done
      refine goes.of_run rfl ?_
      rw [CliM.bind_run, reading_run, countCpus_listed]
      rfl

theorem cpuSetGovernor_handled (json dryRun confirm : Bool) :
    CpuHandled (cpuSetGovernor args json dryRun) ctx os process
      (CpuSetting.governor.Refuses ctx.env args)
      (CpuSetting.governor.Declined ctx.env args confirm) dryRun
      (CpuSetting.governor.opens args (listedCpus ctx.host process.sys)) := by
  unfold cpuSetGovernor
  cases given : positionalArg args 0 with
  | none => exact .refusal fresh (.inr given) rfl rfl
  | some governor =>
      have inOrder : positionalArg args 0 ≠ none := by
        rw [given]
        exact Option.some_ne_none governor
      exact cpuLoop_handled library steady memory fresh parsed (.governor os governor)
        (fun asked => CpuSetting.noConfusion asked.1) (or_iff_left inOrder) json dryRun _ _

theorem cpuSetFreq_handled (json dryRun isMax confirm : Bool) {setting : CpuSetting}
    (which : setting = if isMax then .freqMax else .freqMin) :
    CpuHandled (cpuSetFreq args json dryRun isMax) ctx os process
      (setting.Refuses ctx.env args) (setting.Declined ctx.env args confirm) dryRun
      (CpuSetting.governor.opens args (listedCpus ctx.host process.sys)) := by
  have refuses_iff : setting.Refuses ctx.env args ↔ told (cmdOptStr "--cpu" args) = -2 ∨
      (positionalArg args 0).bind (parseFreq ctx.env) = none := by
    cases isMax <;> rw [which] <;> rfl
  have unasked : ¬setting.Declined ctx.env args confirm := by
    rintro ⟨online, -⟩
    cases isMax <;> rw [which] at online <;> cases online
  refine .knowing ?_
  dsimp only
  cases given : positionalArg args 0 with
  | none =>
      refine .refusal fresh (refuses_iff.mpr (.inr ?_)) rfl rfl
      rw [given]
      rfl
  | some text =>
      dsimp only
      cases hz : parseFreq ctx.env text with
      | none =>
          refine .refusal fresh (refuses_iff.mpr (.inr ?_)) rfl rfl
          rw [given]
          exact hz
      | some value =>
          have inOrder : (positionalArg args 0).bind (parseFreq ctx.env) ≠ none := by
            rw [given, Option.bind_some, hz]
            exact Option.some_ne_none value
          exact cpuLoop_handled library steady memory fresh parsed (.freq os isMax value) unasked
            (refuses_iff.trans (or_iff_left inOrder)) json dryRun _ _

omit library steady parsed in
/-- The question before a CPU goes offline, and what follows a yes. -/
theorem confirmed_handled
    {json on confirm dryRun : Bool} {what : CStr} {announced : ReadM σ Proc Int}
    {next : CliM σ Proc Int} {refuses declined : Prop} {c : Int} (inOrder : ¬refuses)
    (declined_iff : declined ↔ on = false ∧ confirm = false ∧ isYes ctx.env.stdinLine = false)
    (goes : ∀ later : Process σ Proc, later.console.memory.allocations = [] →
      actedCpus later.steps = [] → GoesOver next ctx os later [c]) :
    CpuHandled
      (if dryRun then reading announced
      else do
        let allowed ← if on then pure true else askConfirm what confirm
        if allowed then next else reading (cancelled json))
      ctx os process refuses declined dryRun [c] := by
  have asked : actedCpus (prompt what ctx process).2.steps = [] := by
    rw [prompt, actedCpus_append, fresh]
    rfl
  refine ⟨fun why => absurd why inOrder, fun idle => ?_, fun _ going unasked => ?_⟩
  · cases dryRun with
    | true => exact fresh
    | false =>
        obtain ⟨rfl, rfl, no⟩ := declined_iff.mp (idle.resolve_left Bool.false_ne_true)
        have answer : (prompt what ctx process).1 = false := no
        simp only [askConfirm, Bool.false_eq_true, ↓reduceIte, CliM.bind_run, answer, reading_run]
        exact asked
  · subst going
    rw [if_neg Bool.false_ne_true]
    cases on with
    | true => exact (goes process memory fresh).of_run rfl rfl
    | false =>
        cases confirm with
        | true => exact (goes process memory fresh).of_run rfl rfl
        | false =>
            have yes : (prompt what ctx process).1 = true := by
              by_contra no
              exact unasked (declined_iff.mpr ⟨rfl, rfl, Bool.eq_false_iff.mpr no⟩)
            refine (goes (prompt what ctx process).2 memory asked).of_run rfl ?_
            simp only [askConfirm, Bool.false_eq_true, ↓reduceIte, CliM.bind_run, yes]

omit steady in
theorem cpuSetOnline_handled (json dryRun confirm : Bool) (ncpu : Int) :
    CpuHandled (cpuSetOnline args json dryRun confirm) ctx os process
      (CpuSetting.online.Refuses ctx.env args)
      (CpuSetting.online.Declined ctx.env args confirm) dryRun
      (CpuSetting.online.opens args ncpu) := by
  unfold cpuSetOnline
  cases given : positionalArg args 0 with
  | none =>
      have unread : (positionalArg args 0).bind parseOnOff = none := by rw [given]; rfl
      exact .refusal fresh (.inr (.inl unread)) rfl rfl
  | some word =>
      dsimp only
      cases switch : parseOnOff word with
      | none =>
          have unread : (positionalArg args 0).bind parseOnOff = none := by rw [given]; exact switch
          exact .refusal fresh (.inr (.inl unread)) rfl rfl
      | some on =>
          have read : (positionalArg args 0).bind parseOnOff = some on := by
            rw [given]
            exact switch
          dsimp only
          by_cases invalid : parseCpuArg args = -2
          · rw [if_pos invalid]
            exact .refusal fresh (.inl (parsed.symm.trans invalid)) rfl rfl
          by_cases all : parseCpuArg args = -1
          · rw [if_neg invalid, if_pos all]
            exact .refusal fresh (.inr (.inr (parsed.symm.trans all))) rfl rfl
          rw [if_neg invalid, if_neg all]
          refine confirmed_handled memory fresh ?_ ?_ ?_
          · rintro (error | unread | every)
            · exact invalid (parsed.trans error)
            · rw [read] at unread
              cases unread
            · exact all (parsed.trans every)
          · unfold CpuSetting.Declined
            rw [read, Option.some.injEq]
            exact and_iff_right rfl
          · intro later plenty clean
            exact cpuSetOne_goesOver library (.online os on) plenty clean json _ _ _ _ _

omit steady in
theorem cpuSetCstate_handled (json dryRun confirm : Bool) (ncpu : Int) :
    CpuHandled (cpuSetCstate args json dryRun) ctx os process
      (CpuSetting.cstate.Refuses ctx.env args)
      (CpuSetting.cstate.Declined ctx.env args confirm) dryRun
      (CpuSetting.cstate.opens args ncpu) := by
  unfold cpuSetCstate
  cases given : positionalArg args 0 with
  | none =>
      have unread : ((positionalArg args 0).bind fun text => (wholeInt text).filter (0 ≤ ·)) =
          none := by
        rw [given]
        rfl
      exact .refusal fresh (.inr (.inl unread)) rfl rfl
  | some stateText =>
      cases spoken : positionalArg args 1 with
      | none =>
          have unknown : ∀ word ∈ positionalArg args 1,
              word ≠ "disable".toList ∧ word ≠ "enable".toList := by
            rw [spoken]
            exact nofun
          exact .refusal fresh (.inr (.inr unknown)) rfl rfl
      | some word =>
          dsimp only
          cases number : (wholeInt stateText).filter (0 ≤ ·) with
          | none =>
              have unread : ((positionalArg args 0).bind fun text =>
                  (wholeInt text).filter (0 ≤ ·)) = none := by
                rw [given]
                exact number
              exact .refusal fresh (.inr (.inl unread)) rfl rfl
          | some state =>
              dsimp only
              by_cases neither : word ≠ "disable".toList ∧ word ≠ "enable".toList
              · rw [if_pos neither]
                have unknown : ∀ word ∈ positionalArg args 1,
                    word ≠ "disable".toList ∧ word ≠ "enable".toList := by
                  rw [spoken]
                  rintro _ ⟨⟩
                  exact neither
                exact .refusal fresh (.inr (.inr unknown)) rfl rfl
              rw [if_neg neither]
              by_cases invalid : parseCpuArg args = -2
              · rw [if_pos invalid]
                exact .refusal fresh (.inl (parsed.symm.trans invalid)) rfl rfl
              rw [if_neg invalid]
              refine .accepted fresh ?_ (fun asked => CpuSetting.noConfusion asked.1) ?_ ?_
              · rintro (error | unread | unknown)
                · exact invalid (parsed.trans error)
                · rw [given] at unread
                  have none : (wholeInt stateText).filter (0 ≤ ·) = .none := unread
                  rw [number] at none
                  cases none
                · exact neither (unknown word spoken)
              · rintro rfl
                rfl
              · rintro rfl
                exact (cpuSetOne_goesOver library (.cstate os (toInt32 state) _) memory fresh
                  json _ _ _ _ _).of_run rfl rfl

/-- What every setting does with its arguments. -/
theorem CpuSetting.handler_handled (setting : CpuSetting) (json dryRun confirm : Bool) :
    CpuHandled (setting.handler args json dryRun confirm) ctx os process
      (setting.Refuses ctx.env args) (setting.Declined ctx.env args confirm) dryRun
      (setting.opens args (listedCpus ctx.host process.sys)) := by
  cases setting with
  | governor => exact cpuSetGovernor_handled library steady memory fresh parsed json dryRun confirm
  | freqMin =>
      exact cpuSetFreq_handled library steady memory fresh parsed json dryRun false confirm rfl
  | freqMax =>
      exact cpuSetFreq_handled library steady memory fresh parsed json dryRun true confirm rfl
  | online => exact cpuSetOnline_handled library memory fresh parsed json dryRun confirm _
  | cstate => exact cpuSetCstate_handled library memory fresh parsed json dryRun confirm _

end Handlers

/-! ## What `--cpu` says -/

/-- The CPUs `--cpu` stands for on a machine with these; none when its value is an error. -/
def toldCpus (chosen : Opt CStr) (machine : Set Int) : Set Int :=
  if told chosen = -2 then ∅
  else if told chosen = -1 then machine
  else {told chosen}

/-- The setting acts on exactly the CPUs that `--cpu` says, in this run. -/
structure ActsAsTold (setting : CpuSetting) (args : List CStr) (ctx : Ctx σ Proc) (os : Os σ)
    (sys : σ) (console : Console Proc) (json dryRun confirm : Bool) : Prop where
  /-- `parse_cpu_arg` delivers what the text says. -/
  parsed : parseCpuArg args = told (cmdOptStr "--cpu" args)
  /-- What is turned down fails and acts on no CPU. -/
  refused : setting.Refuses ctx.env args →
    (setting.handler args json dryRun confirm ctx ⟨sys, console, []⟩).1 = 1 ∧
      actedCpus (setting.handler args json dryRun confirm ctx ⟨sys, console, []⟩).2.steps = []
  /-- A dry run, and a question answered with no, act on no CPU. -/
  waits : dryRun = true ∨ setting.Declined ctx.env args confirm →
    actedCpus (setting.handler args json dryRun confirm ctx ⟨sys, console, []⟩).2.steps = []
  /-- Otherwise setters are called for those of the CPUs that the machine has. -/
  acted : ¬setting.Refuses ctx.env args → dryRun = false → ¬setting.Declined ctx.env args confirm →
    ∀ c, c ∈ actedCpus (setting.handler args json dryRun confirm ctx ⟨sys, console, []⟩).2.steps ↔
      c ∈ toldCpus (cmdOptStr "--cpu" args) (machineCpus os sys) ∧ c ∈ machineCpus os sys
  /-- A command that succeeds has found them all. -/
  complete : ¬setting.Refuses ctx.env args → dryRun = false →
    ¬setting.Declined ctx.env args confirm →
    (setting.handler args json dryRun confirm ctx ⟨sys, console, []⟩).1 = 0 →
      toldCpus (cmdOptStr "--cpu" args) (machineCpus os sys) ⊆ machineCpus os sys

/-- The CPUs that the setting goes over are the ones that `--cpu` stands for. -/
def CpuSetting.Reaches (setting : CpuSetting) (chosen : Opt CStr) (machine : Set Int)
    (listed : Int) : Prop :=
  match setting with
  -- the loop counts from 0 to the number of entries; for one CPU its bound is
  -- `cpu_idx + 1`, which overflows at the largest index
  | .governor | .freqMin | .freqMax =>
      told chosen ≠ int32Max ∧ (told chosen = -1 → ∀ c ∈ machine, c < listed)
  | .online => True
  -- no `--cpu` and `--cpu all` both stand for the first CPU
  | .cstate => told chosen = -1 → ∀ c ∈ machine, c = 0

section Told

variable {args : List CStr} (parsed : parseCpuArg args = told (cmdOptStr "--cpu" args))

include parsed

/-- One index, of a CPU that the loop of the setting can be at. -/
theorem CpuSetting.opens_index
    (setting : CpuSetting) {k : Int} (index : told (cmdOptStr "--cpu" args) = k) (nonneg : 0 ≤ k)
    (below : k < int32Max) (listed : Int) :
    setting.opens args listed = [k] := by
  have loop : countUp (cpuBounds k listed).1 (cpuBounds k listed).2 = [k] := by
    have next : toInt32 (k + 1) = k + 1 := toInt32_fits (by omega) (by omega)
    rw [cpuBounds, if_neg (by omega), next, countUp_cons (by omega), countUp]
    simp
  cases setting with
  | governor | freqMin | freqMax =>
      rw [CpuSetting.opens, parsed, index]
      exact loop
  | online => rw [CpuSetting.opens, parsed, index]
  | cstate => rw [CpuSetting.opens, parsed, index, if_neg (by omega)]

/-- At the largest index the bound of the loop wraps, and the loop is over at once. -/
theorem opens_largest
    (largest : told (cmdOptStr "--cpu" args) = int32Max) (listed : Int) :
    CpuSetting.governor.opens args listed = [] := by
  rw [CpuSetting.opens, parsed, largest]
  rfl

/-- Where a setting reaches the CPUs it is told, it opens all of the machine's, or the one. -/
theorem CpuSetting.opens_told
    {setting : CpuSetting} {env : Env} (inOrder : ¬setting.Refuses env args)
    {machine : Set Int} (nonneg : ∀ c ∈ machine, 0 ≤ c) {listed : Int}
    (reaches : setting.Reaches (cmdOptStr "--cpu" args) machine listed) :
    (toldCpus (cmdOptStr "--cpu" args) machine = machine ∧
        ∀ c ∈ machine, c ∈ setting.opens args listed) ∨
      ∃ k, toldCpus (cmdOptStr "--cpu" args) machine = {k} ∧ setting.opens args listed = [k] := by
  have valid : told (cmdOptStr "--cpu" args) ≠ -2 := fun error => inOrder (.inl error)
  rw [toldCpus, if_neg valid]
  by_cases all : told (cmdOptStr "--cpu" args) = -1
  · refine .inl ⟨if_pos all, fun c there => ?_⟩
    cases setting with
    | governor | freqMin | freqMax =>
        rw [CpuSetting.opens, parsed, all, mem_countUp]
        exact ⟨nonneg c there, reaches.2 all c there⟩
    | online => exact absurd (.inr (.inr all)) inOrder
    | cstate =>
        rw [CpuSetting.opens, parsed, all, reaches all c there]
        exact List.mem_cons_self
  · refine .inr ⟨_, if_neg all, ?_⟩
    rcases told_cases (cmdOptStr "--cpu" args) with error | ⟨every, -⟩ |
      ⟨-, k, -, -, index, low, high⟩
    · exact absurd error valid
    · exact absurd every all
    · rcases lt_or_eq_of_le high with below | rfl
      · rw [setting.opens_index parsed index low below, index]
      · cases setting with
        | governor | freqMin | freqMax => exact absurd index reaches.1
        | online => rw [CpuSetting.opens, parsed]
        | cstate => rw [CpuSetting.opens, parsed, if_neg all]

/-- A setting that acts on the CPUs it is told reaches them. -/
theorem CpuSetting.reaches_of_opens
    {setting : CpuSetting} {machine : Set Int} {listed : Int}
    (opened : ∀ c ∈ machine, c ∈ toldCpus (cmdOptStr "--cpu" args) machine →
      c ∈ setting.opens args listed)
    (found : setting.opens args listed = [] →
      toldCpus (cmdOptStr "--cpu" args) machine ⊆ machine) :
    setting.Reaches (cmdOptStr "--cpu" args) machine listed := by
  have every : ∀ {c}, told (cmdOptStr "--cpu" args) = -1 → c ∈ machine →
      c ∈ setting.opens args listed := by
    intro c all there
    refine opened c there ?_
    rw [toldCpus, if_neg (by omega), if_pos all]
    exact there
  have loop : setting.opens args listed = CpuSetting.governor.opens args listed →
      told (cmdOptStr "--cpu" args) ≠ int32Max ∧
        (told (cmdOptStr "--cpu" args) = -1 → ∀ c ∈ machine, c < listed) := by
    intro same
    refine ⟨fun largest => ?_, fun all c there => ?_⟩
    · have idle : setting.opens args listed = [] := same.trans (opens_largest parsed largest listed)
      have named : int32Max ∈ toldCpus (cmdOptStr "--cpu" args) machine := by
        rw [toldCpus, largest, if_neg (by decide), if_neg (by decide)]
        rfl
      have none := opened int32Max (found idle named) named
      rw [idle] at none
      cases none
    · have member := every all there
      rw [same, CpuSetting.opens, parsed, all] at member
      exact (mem_countUp.mp member).2
  cases setting with
  | governor => exact loop rfl
  | freqMin => exact loop rfl
  | freqMax => exact loop rfl
  | online => trivial
  | cstate =>
      intro all c there
      have member := every all there
      rw [CpuSetting.opens, parsed, all] at member
      exact List.mem_singleton.mp member

end Told

/--
A run acts on exactly the CPUs that `--cpu` says if and only if the cast of its
number does not wrap and the run acts on no CPU at all or the setting reaches the
CPUs it is told.
-/
theorem actsAsTold_iff
    (setting : CpuSetting) (args : List CStr) {os : Os σ} {ctx : Ctx σ Proc}
    (library : ctx.lib = libzenctl os) (steady : os.KeepsCpus)
    (sys : σ) {console : Console Proc} (memory : console.memory.allocations = [])
    (json dryRun confirm : Bool) :
    ActsAsTold setting args ctx os sys console json dryRun confirm ↔
      ¬CpuArgWraps args ∧
        (setting.Refuses ctx.env args ∨ dryRun = true ∨ setting.Declined ctx.env args confirm ∨
          setting.Reaches (cmdOptStr "--cpu" args) (machineCpus os sys)
            (listedCpus ctx.host sys)) := by
  rw [← parseCpuArg_told_iff]
  constructor
  · intro acts
    refine ⟨acts.parsed, ?_⟩
    by_cases refuses : setting.Refuses ctx.env args
    · exact .inl refuses
    by_cases declined : setting.Declined ctx.env args confirm
    · exact .inr (.inr (.inl declined))
    cases dryRun with
    | true => exact .inr (.inl rfl)
    | false =>
        refine .inr (.inr (.inr ?_))
        have goes := (@CpuSetting.handler_handled σ os ctx ⟨sys, console, []⟩ library steady memory
          rfl args acts.parsed setting json false confirm).goes refuses rfl declined
        refine CpuSetting.reaches_of_opens acts.parsed (fun c there named => ?_) fun idle => ?_
        · exact ((goes.acted c).mp ((acts.acted refuses rfl declined c).mpr ⟨named, there⟩)).1
        · exact acts.complete refuses rfl declined (goes.empty idle)
  · rintro ⟨parsed, holds⟩
    have handled := @CpuSetting.handler_handled σ os ctx ⟨sys, console, []⟩ library steady memory
      rfl args parsed setting json dryRun confirm
    have opened := fun (inOrder : ¬setting.Refuses ctx.env args) (going : dryRun = false)
      (unasked : ¬setting.Declined ctx.env args confirm) =>
        CpuSetting.opens_told parsed inOrder (fun c there => there.1)
          (((holds.resolve_left inOrder).resolve_left (going ▸ Bool.false_ne_true)).resolve_left
            unasked)
    refine ⟨parsed, handled.refused, handled.waits, fun inOrder going unasked c => ?_,
      fun inOrder going unasked success c named => ?_⟩
    · rw [(handled.goes inOrder going unasked).acted]
      refine and_congr_left fun there => ?_
      rcases opened inOrder going unasked with ⟨all, every⟩ | ⟨k, one, single⟩
      · rw [all]
        exact iff_of_true (every c there) there
      · rw [one, single, List.mem_singleton, Set.mem_singleton_iff]
    · rcases opened inOrder going unasked with ⟨all, -⟩ | ⟨k, one, single⟩
      · rwa [all] at named
      · refine (handled.goes inOrder going unasked).complete success c ?_
        rw [single, List.mem_singleton]
        rwa [one] at named

/-! ## Two CPUs -/

/-- Both CPUs of the machine, under the one governor. -/
theorem everyCpu_acts :
    ActsAsTold .governor ["powersave".toList, "--cpu".toList, "all".toList] pairCtx pairOs
      (pairFiles "performance" 800000 1500000) freshConsole false false false := by
  have valid : ¬CpuArgWraps ["powersave".toList, "--cpu".toList, "all".toList] :=
    (parseCpuArg_told_iff _).mp (by decide)
  refine (actsAsTold_iff .governor _ rfl (fun _ _ _ => rfl) _ rfl false false false).mpr
    ⟨valid, .inr (.inr (.inr ⟨by decide, fun _ => ?_⟩))⟩
  rw [pairOs_machine]
  rintro c (rfl | rfl)
  · decide
  · decide

/-- An index of twenty digits is clamped, cast to `-1`, and the governor of both is changed. -/
theorem hugeIndex_all :
    let args := ["powersave".toList, "--cpu".toList, "99999999999999999999".toList]
    let run := cpuSetGovernor args false false pairCtx
      ⟨pairFiles "performance" 800000 1500000, freshConsole, []⟩
    run.1 = 0 ∧ actedCpus run.2.steps = [0, 1] ∧
      ¬ActsAsTold .governor args pairCtx pairOs (pairFiles "performance" 800000 1500000)
        freshConsole false false false := by
  refine ⟨by decide +kernel, by decide +kernel, fun told => ?_⟩
  have parsed := told.parsed
  revert parsed
  decide +kernel

end Zenctl
