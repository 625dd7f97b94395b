import Zenctl.ProfileFormat
import Zenctl.CpuFreq

namespace Zenctl

open CString

/-!
# Restoring frequency limits

A `[cpu]` section is saved from the first CPU and loaded on all of them, the
lower limit before the upper one.  On a kernel that accepts and stores every
ordered limit, loading moves each CPU through the abstract states of
`FreqCall.after`, so whether the saved limits come back is decided by the saved
and the current limits alone.
-/

variable {σ : Type}

/-! ## The machine -/

def governorPath (cpu : CpuHandle) : CStr := cpuPath cpu "cpufreq/scaling_governor"

def availablePath (cpu : CpuHandle) : CStr :=
  cpuPath cpu "cpufreq/scaling_available_governors"

/-- The governor is among those the kernel lists for the CPU. -/
def GovernorAvailable (os : Os σ) (sys : σ) (cpu : CpuHandle) (governor : CStr) : Prop :=
  ∃ bytes, Holds os sys (availablePath cpu) bytes ∧
    (tokens (bufferText 1024 bytes)).any (sameIgnoringCase · governor) = true

/-- A kernel that accepts ordered limits and listed governors, and stores what it accepts. -/
structure CpuKernel (os : Os σ) (cpu : CpuHandle) : Prop where
  limits : StoresLimits os cpu
  governor : os.StoresVerbatim (resolvePath os.sysfsRoot (governorPath cpu))
  acceptsLimit : ∀ (sys : σ) (b : FreqBounds) (call : FreqCall),
    CpuFiles os sys cpu b → b.Ordered → call.Admitted b →
      (os.writeFile sys (resolvePath os.sysfsRoot (call.path cpu))
        (showInt (call.hz / 1000))).1 = .done
  acceptsGovernor : ∀ (sys : σ) (governor : CStr), GovernorAvailable os sys cpu governor →
    (os.writeFile sys (resolvePath os.sysfsRoot (governorPath cpu)) governor).1 = .done

/-- The directory `zenctl_cpu_open` looks for. -/
def cpuDir (index : Int) : CStr :=
  bounded 128 ("/sys/devices/system/cpu/cpu".toList ++ showInt index)

/-- The directories of the CPUs, as one view of the system. -/
def cpuDirs (os : Os σ) (sys : σ) : Int → Except Errno Unit :=
  fun c => os.access sys (cpuDir c) .present

/-- The CPUs the kernel has a directory for, whatever their numbers. -/
def machineCpus (os : Os σ) (sys : σ) : Set Int :=
  {c | 0 ≤ c ∧ cpuDirs os sys c = .ok ()}

/-- The machine has these CPUs with these limits, numbers them by an `int`, and has memory. -/
structure Ready (os : Os σ) (cpus : Set Int) (governor : Option CStr) (sys : σ) (memory : Proc)
    (b : Int → FreqBounds) : Prop where
  machine : machineCpus os sys = cpus
  int32 : ∀ i ∈ cpus, i ≤ 2147483647
  files : ∀ i ∈ cpus, CpuFiles os sys ⟨i⟩ (b i)
  available : ∀ text ∈ governor, ∀ i ∈ cpus, GovernorAvailable os sys ⟨i⟩ text
  memory : memory.allocations = []

namespace Ready

variable {os : Os σ} {cpus : Set Int} {governor : Option CStr} {sys : σ} {memory : Proc}
  {b : Int → FreqBounds} {i : Int}

theorem handle_int32
    (ready : Ready os cpus governor sys memory b) (there : i ∈ cpus) :
    CpuHandle.Int32 ⟨i⟩ := by
  have inside := there
  rw [← ready.machine] at inside
  exact ⟨inside.1, ready.int32 i there⟩

theorem present
    (ready : Ready os cpus governor sys memory b) (there : i ∈ cpus) :
    os.access sys (cpuDir i) .present = .ok () := by
  rw [← ready.machine] at there
  exact there.2

/-- The limits of the CPUs that are not there do not matter. -/
theorem congr
    (ready : Ready os cpus governor sys memory b)
    {b' : Int → FreqBounds} (same : ∀ i ∈ cpus, b' i = b i) :
    Ready os cpus governor sys memory b' :=
  { ready with
    files := fun i there => by
      rw [same i there]
      exact ready.files i there }

end Ready

/-- A write to one file of one CPU leaves the other files of all CPUs alone. -/
theorem SameFilesBut.kept
    {os : Os σ} {sys later : σ} {cpu other : CpuHandle} {attr suffix : CStr}
    (others : SameFilesBut os (resolvePath os.sysfsRoot (cpuPath cpu attr)) sys later)
    (int32 : cpu.Int32) (otherInt32 : other.Int32)
    (attrShort : attr.length ≤ 40) (suffixShort : suffix.length ≤ 40)
    (apart : other ≠ cpu ∨ suffix ≠ attr) :
    os.openRead later (resolvePath os.sysfsRoot (cpuPath other suffix)) =
      os.openRead sys (resolvePath os.sysfsRoot (cpuPath other suffix)) := by
  apply others.1
  intro same
  have equal := resolve_cpuPath_injective otherInt32 int32 suffixShort attrShort same
  rcases apart with different | different
  · exact different equal.1
  · exact different equal.2

/-- The files of another CPU are not touched. -/
theorem CpuFiles.other_kept
    {os : Os σ} {sys later : σ} {cpu other : CpuHandle} {attr : CStr} {b : FreqBounds}
    (files : CpuFiles os sys other b)
    (others : SameFilesBut os (resolvePath os.sysfsRoot (cpuPath cpu attr)) sys later)
    (int32 : cpu.Int32) (otherInt32 : other.Int32)
    (attrShort : attr.length ≤ 40)
    (apart : other ≠ cpu ∨ attr = "cpufreq/scaling_governor") :
    CpuFiles os later other b := by
  have kept : ∀ suffix : CStr, suffix.length ≤ 40 → suffix ≠ "cpufreq/scaling_governor".toList →
      os.openRead later (resolvePath os.sysfsRoot (cpuPath other suffix)) =
        os.openRead sys (resolvePath os.sysfsRoot (cpuPath other suffix)) := by
    intro suffix short different
    refine others.kept int32 otherInt32 attrShort short ?_
    rcases apart with otherCpu | rfl
    · exact .inl otherCpu
    · exact .inr different
  exact ⟨files.hwMin.of_same (kept _ (by decide) (by decide)),
    files.hwMax.of_same (kept _ (by decide) (by decide)),
    files.low.of_same (kept _ (by decide) (by decide)),
    files.high.of_same (kept _ (by decide) (by decide))⟩

theorem GovernorAvailable.kept
    {os : Os σ} {sys later : σ} {cpu other : CpuHandle} {attr governor : CStr}
    (available : GovernorAvailable os sys other governor)
    (others : SameFilesBut os (resolvePath os.sysfsRoot (cpuPath cpu attr)) sys later)
    (int32 : cpu.Int32) (otherInt32 : other.Int32)
    (attrShort : attr.length ≤ 40)
    (apart : "cpufreq/scaling_available_governors".toList ≠ attr) :
    GovernorAvailable os later other governor := by
  obtain ⟨bytes, held, listed⟩ := available
  exact ⟨bytes, (others.kept int32 otherInt32 attrShort (by decide) (.inr apart)).trans held,
    listed⟩

theorem GovernorAvailable.nonempty
    {os : Os σ} {sys : σ} {cpu : CpuHandle} {text : CStr}
    (available : GovernorAvailable os sys cpu text) :
    text ≠ [] := by
  rintro rfl
  obtain ⟨bytes, -, listed⟩ := available
  obtain ⟨token, member, same⟩ := List.any_eq_true.mp listed
  simp only [sameIgnoringCase, List.map_nil, List.map_eq_nil_iff, decide_eq_true_eq] at same
  subst same
  simp [tokens] at member

/-- The files hold one state only. -/
theorem HoldsInt.unique
    {os : Os σ} {sys : σ} {path : CStr} {first second : Int}
    (holdsFirst : HoldsInt os sys path first)
    (holdsSecond : HoldsInt os sys path second) :
    first = second := by
  obtain ⟨bytes, parsed, contents, read, -, rfl⟩ := holdsFirst
  obtain ⟨bytes', parsed', contents', read', -, rfl⟩ := holdsSecond
  have same := contents.symm.trans contents'
  injection same with same
  injection same with same
  subst same
  rw [read] at read'
  injection read' with same
  rw [same]

theorem CpuFiles.unique
    {os : Os σ} {sys : σ} {cpu : CpuHandle} {first second : FreqBounds}
    (filesFirst : CpuFiles os sys cpu first)
    (filesSecond : CpuFiles os sys cpu second) :
    first = second := by
  cases first
  cases second
  exact FreqBounds.mk.injEq .. ▸ ⟨filesFirst.hwMin.unique filesSecond.hwMin,
    filesFirst.low.unique filesSecond.low, filesFirst.high.unique filesSecond.high,
    filesFirst.hwMax.unique filesSecond.hwMax⟩

/-! ## One CPU -/

/-- The setter call as the command line makes it. -/
def FreqCall.update (cpu : CpuHandle) : FreqCall → Update
  | .setMin hz => .cpuSetFreqMin cpu hz.1
  | .setMax hz => .cpuSetFreqMax cpu hz.1

theorem FreqCall.update_program (cpu : CpuHandle) (call : FreqCall) :
    ((call.update cpu).program : SetM σ Unit) = call.run cpu := by
  cases call <;> rfl

section OneCpu

variable {os : Os σ} {ctx : Ctx σ Proc} {cpus : Set Int} {governor : Option CStr}
  {b : Int → FreqBounds} {process : Process σ Proc} {i : Int}

/-- A setter through the command line, on a machine with the library over `os`. -/
theorem update_run
    (library : ctx.lib = libzenctl os) (call : Update) (process : Process σ Proc) :
    (update call ctx process).1 =
        (call.program os process.sys { process.console.memory with err := Err.zero }).1.answer
          (call.program os process.sys { process.console.memory with err := Err.zero }).2.2.err ∧
      (update call ctx process).2.sys =
        (call.program os process.sys { process.console.memory with err := Err.zero }).2.1 ∧
      (update call ctx process).2.console.memory =
        (call.program os process.sys { process.console.memory with err := Err.zero }).2.2 := by
  simp only [update, library, libzenctl]
  exact ⟨trivial, trivial, trivial⟩

/-- Opening a CPU that is there changes nothing but the error record. -/
theorem cpuOpen_present
    {sys : σ} {proc : Proc}
    (nonneg : 0 ≤ i)
    (present : os.access sys (cpuDir i) .present = .ok ())
    (memory : proc.allocations = []) :
    zenctlCpuOpen i os sys proc = (.value ⟨i⟩, proc) := by
  have notNegative : ¬ i < 0 := by omega
  unfold cpuDir at present
  simp only [zenctlCpuOpen, notNegative, ↓reduceIte, GetM.bind_run, sysCallOr, sysCall, present,
    GetM.pure_run, allocateOr_plenty memory]

/-- A CPU that is not there is not opened. -/
theorem cpuOpen_failed
    {sys : σ} {proc : Proc}
    (absent : i ∉ machineCpus os sys)
    (memory : proc.allocations = []) :
    ∃ later, zenctlCpuOpen i os sys proc = (.failed, later) ∧ later.allocations = [] := by
  rw [zenctlCpuOpen]
  by_cases negative : i < 0
  · rw [if_pos negative]
    exact ⟨_, rfl, memory⟩
  · rw [if_neg negative, GetM.bind_run, sysCallOr, GetM.bind_run, sysCall]
    cases found : os.access sys
        (bounded 128 ("/sys/devices/system/cpu/cpu".toList ++ showInt i)) .present with
    | error e => exact ⟨_, rfl, memory⟩
    | ok _ => exact absurd ⟨not_lt.mp negative, found⟩ absent

/-- A CPU that is there is opened and the setter called on it. -/
theorem applyCpu_run
    (library : ctx.lib = libzenctl os)
    (ready : Ready os cpus governor process.sys process.console.memory b)
    (there : i ∈ cpus)
    (call : CpuHandle → Update) :
    ∃ opened : Process σ Proc,
      opened.sys = process.sys ∧
      opened.console.memory = { process.console.memory with err := Err.zero } ∧
      (applyCpu call i ctx process).1 =
        (match (update (call ⟨i⟩) ctx opened).1 with
          | .ok _ => 0
          | .error _ => -1) ∧
      (applyCpu call i ctx process).2 = (update (call ⟨i⟩) ctx opened).2 := by
  have opens : zenctlCpuOpen i os process.sys { process.console.memory with err := Err.zero } =
      (.value ⟨i⟩, { process.console.memory with err := Err.zero }) :=
    cpuOpen_present (ready.handle_int32 there).1 (ready.present there) ready.memory
  refine ⟨{ process with console :=
    { process.console with memory := { process.console.memory with err := Err.zero } } },
    rfl, rfl, ?_⟩
  have answered : query (.cpuOpen i) ctx process.sys process.console =
      (.ok ⟨i⟩, { process.console with
        memory := { process.console.memory with err := Err.zero } }) := by
    rw [query_run library, show Query.program (.cpuOpen i) = zenctlCpuOpen i from rfl, opens]
    rfl
  simp only [applyCpu, CliM.bind_run, reading_run, answered]
  generalize update (call ⟨i⟩) ctx _ = result
  obtain ⟨answer, later⟩ := result
  cases answer <;> exact ⟨rfl, rfl⟩

/-- A CPU that is not there is skipped. -/
theorem applyCpu_absent
    (library : ctx.lib = libzenctl os)
    (ready : Ready os cpus governor process.sys process.console.memory b)
    (absent : i ∉ cpus)
    (call : CpuHandle → Update) :
    (applyCpu call i ctx process).1 = 0 ∧
      Ready os cpus governor (applyCpu call i ctx process).2.sys
        (applyCpu call i ctx process).2.console.memory b := by
  rw [← ready.machine] at absent
  obtain ⟨later, failed, plenty⟩ := @cpuOpen_failed σ os i process.sys
    { process.console.memory with err := Err.zero } absent ready.memory
  have answered : query (.cpuOpen i) ctx process.sys process.console =
      (.error later.err, { process.console with memory := later }) := by
    rw [query_run library, show Query.program (.cpuOpen i) = zenctlCpuOpen i from rfl, failed]
    rfl
  simp only [applyCpu, CliM.bind_run, reading_run, answered, CliM.pure_run]
  exact ⟨trivial, { ready with memory := plenty }⟩

/-- The machine after a write to one attribute of one CPU. -/
theorem Ready.after_write
    (ready : Ready os cpus governor process.sys process.console.memory b)
    (there : i ∈ cpus)
    {attr : CStr} (attrShort : attr.length ≤ 40)
    (notListed : "cpufreq/scaling_available_governors".toList ≠ attr)
    {later : σ} {memory : Proc}
    (others : SameFilesBut os (resolvePath os.sysfsRoot (cpuPath ⟨i⟩ attr)) process.sys later)
    (plenty : memory.allocations = [])
    {after : FreqBounds}
    (written : CpuFiles os later ⟨i⟩ after) :
    Ready os cpus governor later memory (Function.update b i after) where
  machine := by
    have same : cpuDirs os later = cpuDirs os process.sys := funext fun c => others.2 _ _
    rw [← ready.machine, machineCpus, machineCpus, same]
  int32 := ready.int32
  files j here := by
    by_cases same : j = i
    · subst same
      rwa [Function.update_self]
    · rw [Function.update_of_ne same]
      refine (ready.files j here).other_kept others (ready.handle_int32 there)
        (ready.handle_int32 here) attrShort (.inl ?_)
      exact fun equal => same (congrArg CpuHandle.index equal)
  available text given j here :=
    (ready.available text given j here).kept others (ready.handle_int32 there)
      (ready.handle_int32 here) attrShort notListed
  memory := plenty

/-- An admitted limit is set on one CPU, and nothing fails. -/
theorem applyCpu_admitted
    (library : ctx.lib = libzenctl os)
    (ready : Ready os cpus governor process.sys process.console.memory b)
    (there : i ∈ cpus)
    (kernel : CpuKernel os ⟨i⟩)
    {call : FreqCall}
    (ordered : (b i).Ordered)
    (admitted : call.Admitted (b i)) :
    (applyCpu (call.update ·) i ctx process).1 = 0 ∧
      Ready os cpus governor (applyCpu (call.update ·) i ctx process).2.sys
        (applyCpu (call.update ·) i ctx process).2.console.memory
        (Function.update b i (call.after (b i))) := by
  obtain ⟨opened, sameSys, sameMemory, answer, final⟩ :=
    applyCpu_run library ready there (call.update ·)
  obtain ⟨outcome, changed, memory⟩ := update_run library (call.update ⟨i⟩) opened
  have files := ready.files i there
  have done := kernel.acceptsLimit process.sys (b i) call files ordered admitted
  obtain ⟨written, success, -⟩ := writeFileString_run os process.sys
    { opened.console.memory with err := Err.zero, errno := 0 } (call.path ⟨i⟩)
    (showInt (call.hz / 1000))
  rw [FreqCall.update_program, sameSys, FreqCall.run_admitted files admitted, writeFileI64]
    at outcome changed memory
  rw [(success done).1] at outcome
  rw [(success done).2] at memory
  rw [written] at changed
  rw [answer, final, outcome]
  refine ⟨rfl, ?_⟩
  obtain ⟨⟨newline, ending, stored⟩, others⟩ :=
    (kernel.limits.path call).accepted _ _ (showInt_ne_nil _) done
  rw [changed, memory]
  have moved := files.after_write (ready.handle_int32 there) admitted.1 ending stored others
  have plenty : ({ opened.console.memory with err := Err.zero, errno := 0 } : Proc).allocations =
      [] := by
    rw [sameMemory]
    exact ready.memory
  cases call with
  | setMin hz =>
      exact ready.after_write there (by decide) (by decide) others plenty moved
  | setMax hz =>
      exact ready.after_write there (by decide) (by decide) others plenty moved

/-- A limit that is not admitted is reported as a failure. -/
theorem applyCpu_refused
    (library : ctx.lib = libzenctl os)
    (ready : Ready os cpus governor process.sys process.console.memory b)
    (there : i ∈ cpus)
    {call : FreqCall}
    (refused : ¬ call.Admitted (b i)) :
    (applyCpu (call.update ·) i ctx process).1 = -1 := by
  obtain ⟨opened, sameSys, -, answer, -⟩ :=
    applyCpu_run library ready there (call.update ·)
  obtain ⟨outcome, -, -⟩ := update_run library (call.update ⟨i⟩) opened
  have failed := FreqCall.run_refused (ready.files i there) refused
    { opened.console.memory with err := Err.zero }
  rw [FreqCall.update_program, sameSys, failed.1] at outcome
  rw [answer, outcome]
  rfl

/-- A listed governor is set on one CPU, and the limits stay. -/
theorem applyCpu_governor
    (library : ctx.lib = libzenctl os)
    (ready : Ready os cpus governor process.sys process.console.memory b)
    (there : i ∈ cpus)
    (kernel : CpuKernel os ⟨i⟩)
    {text : CStr} (given : text ∈ governor) :
    (applyCpu (.cpuSetGovernor · text) i ctx process).1 = 0 ∧
      Ready os cpus governor (applyCpu (.cpuSetGovernor · text) i ctx process).2.sys
        (applyCpu (.cpuSetGovernor · text) i ctx process).2.console.memory b := by
  obtain ⟨opened, sameSys, sameMemory, answer, final⟩ :=
    applyCpu_run library ready there (.cpuSetGovernor · text)
  obtain ⟨outcome, changed, memory⟩ := update_run library (.cpuSetGovernor ⟨i⟩ text) opened
  have available := ready.available text given i there
  have done := kernel.acceptsGovernor process.sys text available
  obtain ⟨written, success, -⟩ := writeFileString_run os process.sys
    { opened.console.memory with err := Err.zero } (governorPath ⟨i⟩) text
  have program : (Update.program (.cpuSetGovernor ⟨i⟩ text)) os process.sys
      { opened.console.memory with err := Err.zero } =
      writeFileString (governorPath ⟨i⟩) text os process.sys
        { opened.console.memory with err := Err.zero } := by
    have nonempty := available.nonempty
    obtain ⟨bytes, held, listed⟩ := available
    have read := readFileString_holds held 1024
    simp only [availablePath] at read
    simp only [Update.program, zenctlCpuSetGovernor, nonempty, ↓reduceIte, SetM.bind_run,
      getting_run, read, listed]
    rfl
  rw [sameSys, program] at outcome changed memory
  rw [(success done).1] at outcome
  rw [(success done).2] at memory
  rw [written] at changed
  rw [answer, final, outcome]
  refine ⟨rfl, ?_⟩
  obtain ⟨-, others⟩ := kernel.governor.accepted _ _ available.nonempty done
  rw [changed, memory]
  have kept := (ready.files i there).other_kept others (ready.handle_int32 there)
    (ready.handle_int32 there) (by decide) (.inr rfl)
  have moved := ready.after_write there (by decide) (by decide) others
    (show ({ opened.console.memory with err := Err.zero } : Proc).allocations = [] by
      rw [sameMemory]; exact ready.memory) kept
  rwa [Function.update_eq_self] at moved

end OneCpu

/-! ## All CPUs -/

theorem countUp_nodup (start stop : Int) :
    (countUp start stop).Nodup := by
  refine List.Nodup.map ?_ List.nodup_range
  intro m n same
  simpa using same

/-- The CPUs a profile is applied to. -/
def configuredCpus (env : Env) : Int :=
  if toInt32 env.nprocessorsConf < 1 then 1 else toInt32 env.nprocessorsConf

theorem configuredCpus_bounds (env : Env) :
    1 ≤ configuredCpus env ∧ configuredCpus env ≤ 2147483648 := by
  have high := Int.bmod_lt (x := env.nprocessorsConf) (m := 4294967296) (by decide)
  unfold configuredCpus toInt32
  split <;> omega

/-- Limits that differ between the CPUs below a number and the others. -/
def zoned (n : Int) (inner outer : FreqBounds) : Int → FreqBounds :=
  fun i => if i < n then inner else outer

section AllCpus

variable {os : Os σ} {ctx : Ctx σ Proc} {cpus : Set Int} {governor : Option CStr}
  {c outer : FreqBounds} {process : Process σ Proc}

/-- Whatever a call does to one CPU of a machine in this state, the loop does to all it visits. -/
theorem collectCli_ready
    {program : Int → CliM σ Proc Int} {after : FreqBounds}
    (each : ∀ (process : Process σ Proc) (b : Int → FreqBounds) (i : Int),
      Ready os cpus governor process.sys process.console.memory b → b i = c →
        (program i ctx process).1 = 0 ∧
          Ready os cpus governor (program i ctx process).2.sys
            (program i ctx process).2.console.memory (Function.update b i after))
    {indices : List Int} (distinct : indices.Nodup)
    {b : Int → FreqBounds} (before : ∀ i ∈ indices, b i = c)
    (process : Process σ Proc)
    (ready : Ready os cpus governor process.sys process.console.memory b) :
    (∀ result ∈ (collectCli program indices ctx process).1, result = 0) ∧
      Ready os cpus governor (collectCli program indices ctx process).2.sys
        (collectCli program indices ctx process).2.console.memory
        (fun i => if i ∈ indices then after else b i) := by
  induction indices generalizing b process with
  | nil =>
      exact ⟨nofun, ready⟩
  | cons i indices inductionHypothesis =>
      obtain ⟨notLater, distinctLater⟩ := List.nodup_cons.mp distinct
      obtain ⟨success, moved⟩ := each process b i ready (before i (by simp))
      have untouched : ∀ j ∈ indices, Function.update b i after j = c := by
        intro j member
        rw [Function.update_of_ne (by rintro rfl; exact notLater member)]
        exact before j (List.mem_cons_of_mem _ member)
      obtain ⟨results, final⟩ := inductionHypothesis distinctLater untouched _ moved
      refine ⟨List.forall_mem_cons.mpr ⟨success, results⟩, ?_⟩
      have same : (fun j => if j ∈ indices then after else Function.update b i after j) =
          fun j => if j ∈ i :: indices then after else b j := by
        funext j
        by_cases here : j = i
        · subst here
          simp
        · simp [here]
      rw [← same]
      exact final

/-- The whole loop, from limits that are the same on all the CPUs it visits. -/
theorem applyAllCpus_ready
    {call : CpuHandle → Update} {after : FreqBounds}
    (each : ∀ (process : Process σ Proc) (b : Int → FreqBounds) (i : Int),
      Ready os cpus governor process.sys process.console.memory b → b i = c →
        (applyCpu call i ctx process).1 = 0 ∧
          Ready os cpus governor (applyCpu call i ctx process).2.sys
            (applyCpu call i ctx process).2.console.memory (Function.update b i after))
    (ready : Ready os cpus governor process.sys process.console.memory
      (zoned (configuredCpus ctx.env) c outer)) :
    (applyAllCpus call ctx process).1 = 0 ∧
      Ready os cpus governor (applyAllCpus call ctx process).2.sys
        (applyAllCpus call ctx process).2.console.memory
        (zoned (configuredCpus ctx.env) after outer) := by
  have visited : ∀ i ∈ countUp 0 (configuredCpus ctx.env),
      zoned (configuredCpus ctx.env) c outer i = c := fun i member =>
    if_pos (mem_countUp.mp member).2
  obtain ⟨results, final⟩ :=
    collectCli_ready each (countUp_nodup 0 (configuredCpus ctx.env)) visited process ready
  constructor
  · have all : ((collectCli (applyCpu call) (countUp 0 (configuredCpus ctx.env)) ctx
        process).1).all (· = 0) = true := by
      simpa using results
    simp only [applyAllCpus, CliM.bind_run, reading_run, getEnv, CliM.pure_run, allOrMinusOne]
    exact if_pos all
  · refine final.congr fun i there => ?_
    have nonneg := (final.handle_int32 there).1
    by_cases below : i < configuredCpus ctx.env
    · rw [zoned, if_pos below, if_pos (mem_countUp.mpr ⟨nonneg, below⟩)]
    · rw [zoned, if_neg below, if_neg fun member => below (mem_countUp.mp member).2, zoned,
        if_neg below]

variable (library : ctx.lib = libzenctl os)
include library

theorem applyAllCpus_admitted
    (kernel : ∀ i ∈ cpus, CpuKernel os ⟨i⟩)
    (ready : Ready os cpus governor process.sys process.console.memory
      (zoned (configuredCpus ctx.env) c outer))
    {call : FreqCall}
    (ordered : c.Ordered)
    (admitted : call.Admitted c) :
    (applyAllCpus (call.update ·) ctx process).1 = 0 ∧
      Ready os cpus governor (applyAllCpus (call.update ·) ctx process).2.sys
        (applyAllCpus (call.update ·) ctx process).2.console.memory
        (zoned (configuredCpus ctx.env) (call.after c) outer) := by
  refine applyAllCpus_ready (fun process b i reached here => ?_) ready
  by_cases there : i ∈ cpus
  · rw [← here] at ordered admitted ⊢
    exact applyCpu_admitted library reached there (kernel i there) ordered admitted
  · obtain ⟨skipped, kept⟩ := applyCpu_absent library reached there (call.update ·)
    refine ⟨skipped, kept.congr fun j inside => Function.update_of_ne ?_ _ _⟩
    rintro rfl
    exact there inside

theorem applyAllCpus_governor
    (kernel : ∀ i ∈ cpus, CpuKernel os ⟨i⟩)
    (ready : Ready os cpus governor process.sys process.console.memory
      (zoned (configuredCpus ctx.env) c outer))
    {text : CStr} (given : text ∈ governor) :
    (applyAllCpus (.cpuSetGovernor · text) ctx process).1 = 0 ∧
      Ready os cpus governor
        (applyAllCpus (.cpuSetGovernor · text) ctx process).2.sys
        (applyAllCpus (.cpuSetGovernor · text) ctx process).2.console.memory
        (zoned (configuredCpus ctx.env) c outer) := by
  refine applyAllCpus_ready (fun process b i ready here => ?_) ready
  rw [← here, Function.update_eq_self]
  by_cases there : i ∈ cpus
  · exact applyCpu_governor library ready there (kernel i there) given
  · exact applyCpu_absent library ready there (.cpuSetGovernor · text)

/-- The first CPU refuses, so the loop reports a failure. -/
theorem applyAllCpus_refused
    (first : 0 ∈ cpus)
    (ready : Ready os cpus governor process.sys process.console.memory
      (zoned (configuredCpus ctx.env) c outer))
    {call : FreqCall}
    (refused : ¬ call.Admitted c) :
    (applyAllCpus (call.update ·) ctx process).1 = -1 := by
  have positive := (configuredCpus_bounds ctx.env).1
  obtain ⟨others, shape⟩ : ∃ others, countUp 0 (configuredCpus ctx.env) = 0 :: others :=
    ⟨_, countUp_cons (by omega)⟩
  have inner : zoned (configuredCpus ctx.env) c outer 0 = c := if_pos (by omega)
  rw [← inner] at refused
  have failedFirst := applyCpu_refused library ready first refused
  have failed : ¬ ((collectCli (applyCpu (call.update ·)) (countUp 0 (configuredCpus ctx.env))
      ctx process).1).all (· = 0) = true := by
    rw [shape]
    simp [collectCli, failedFirst]
  simp only [applyAllCpus, CliM.bind_run, reading_run, getEnv, CliM.pure_run, allOrMinusOne]
  exact if_neg failed

end AllCpus

/-! ## Loading, on the limits alone -/

instance (call : FreqCall) (b : FreqBounds) : Decidable (call.Admitted b) :=
  match call with
  | .setMin hz => inferInstanceAs (Decidable (0 ≤ hz.1 ∧ b.hwMin ≤ hz.1 / 1000 ∧
      hz.1 / 1000 ≤ b.hwMax ∧ hz.1 / 1000 ≤ b.high))
  | .setMax hz => inferInstanceAs (Decidable (0 ≤ hz.1 ∧ b.hwMin ≤ hz.1 / 1000 ∧
      hz.1 / 1000 ≤ b.hwMax ∧ b.low ≤ hz.1 / 1000))

/-- The limits after one entry is loaded: a negative value is skipped, `none` is a failure. -/
def loadLimit (call : FreqCall) (b : FreqBounds) : Option FreqBounds :=
  if call.hz < 0 then some b else if call.Admitted b then some (call.after b) else none

/-- The two calls a saved section leads to; the getters multiply in 64 bits. -/
def savedMin (saved : FreqBounds) : FreqCall :=
  .setMin ⟨toInt64 (saved.low * 1000), toInt64_bounds _⟩

@[inherit_doc savedMin]
def savedMax (saved : FreqBounds) : FreqCall :=
  .setMax ⟨toInt64 (saved.high * 1000), toInt64_bounds _⟩

def restoreLimits (saved current : FreqBounds) : Option FreqBounds :=
  (loadLimit (savedMin saved) current).bind (loadLimit (savedMax saved))

/-- A saved limit that comes back: it fits in Hz, or it is skipped and was in force already. -/
def Restorable (saved current : Int) : Prop :=
  (0 ≤ saved ∧ saved * 1000 ≤ int64Max) ∨ (toInt64 (saved * 1000) < 0 ∧ current = saved)

theorem loadLimit_ordered
    {call : FreqCall} {b after : FreqBounds}
    (ordered : b.Ordered)
    (loaded : loadLimit call b = some after) :
    after.Ordered := by
  unfold loadLimit at loaded
  split at loaded
  · cases loaded
    exact ordered
  · split at loaded
    · next admitted =>
        cases loaded
        exact FreqCall.after_ordered ordered admitted
    · cases loaded

/-- Hz that are not negative give the saved kHz back only when nothing wrapped. -/
theorem restorable_nonneg
    {saved current : Int} (nonneg : 0 ≤ toInt64 (saved * 1000)) :
    Restorable saved current ↔ toInt64 (saved * 1000) / 1000 = saved := by
  have fits := toInt64_bounds (saved * 1000)
  unfold Restorable
  constructor
  · rintro (⟨savedNonneg, exact⟩ | ⟨negative, -⟩)
    · rw [toInt64_of_fits (by unfold int64Min; omega) exact]
      omega
    · omega
  · intro same
    left
    omega

theorem restorable_negative
    {saved current : Int} (negative : toInt64 (saved * 1000) < 0) :
    Restorable saved current ↔ current = saved := by
  unfold Restorable
  constructor
  · rintro (⟨savedNonneg, exact⟩ | ⟨-, same⟩)
    · rw [toInt64_of_fits (by unfold int64Min; omega) exact] at negative
      omega
    · exact same
  · exact fun same => .inr ⟨negative, same⟩

/-- The saved lower limit comes back exactly when it is not above the upper one in force. -/
theorem savedMin_restores
    {saved b : FreqBounds}
    (inHardware : b.hwMin ≤ saved.low ∧ saved.low ≤ b.hwMax)
    (ordered : b.low ≤ b.high) :
    loadLimit (savedMin saved) b = some { b with low := saved.low } ↔
      saved.low ≤ b.high ∧ Restorable saved.low b.low := by
  obtain ⟨hwMin, low, high, hwMax⟩ := b
  simp only at inHardware ordered ⊢
  rcases lt_or_ge (toInt64 (saved.low * 1000)) 0 with negative | nonneg
  · rw [restorable_negative negative, loadLimit, if_pos (show (savedMin saved).hz < 0 from negative)]
    simp only [Option.some.injEq, FreqBounds.mk.injEq, true_and, and_true]
    omega
  · rw [restorable_nonneg nonneg, loadLimit,
      if_neg (show ¬ (savedMin saved).hz < 0 from not_lt.mpr nonneg)]
    by_cases admitted : (savedMin saved).Admitted ⟨hwMin, low, high, hwMax⟩
    · rw [if_pos admitted]
      simp only [savedMin, FreqCall.Admitted, FreqCall.after, FreqCall.hz] at admitted ⊢
      simp only [Option.some.injEq, FreqBounds.mk.injEq, true_and, and_true]
      omega
    · rw [if_neg admitted]
      simp only [savedMin, FreqCall.Admitted, FreqCall.hz] at admitted
      simp only [reduceCtorEq, false_iff]
      omega

/-- The saved upper limit, below which the lower one in force must be. -/
theorem savedMax_restores
    {saved b : FreqBounds}
    (inHardware : b.hwMin ≤ saved.high ∧ saved.high ≤ b.hwMax)
    (ordered : b.low ≤ b.high) :
    loadLimit (savedMax saved) b = some { b with high := saved.high } ↔
      b.low ≤ saved.high ∧ Restorable saved.high b.high := by
  obtain ⟨hwMin, low, high, hwMax⟩ := b
  simp only at inHardware ordered ⊢
  rcases lt_or_ge (toInt64 (saved.high * 1000)) 0 with negative | nonneg
  · rw [restorable_negative negative, loadLimit, if_pos (show (savedMax saved).hz < 0 from negative)]
    simp only [Option.some.injEq, FreqBounds.mk.injEq, true_and, and_true]
    omega
  · rw [restorable_nonneg nonneg, loadLimit,
      if_neg (show ¬ (savedMax saved).hz < 0 from not_lt.mpr nonneg)]
    by_cases admitted : (savedMax saved).Admitted ⟨hwMin, low, high, hwMax⟩
    · rw [if_pos admitted]
      simp only [savedMax, FreqCall.Admitted, FreqCall.after, FreqCall.hz] at admitted ⊢
      simp only [Option.some.injEq, FreqBounds.mk.injEq, true_and, and_true]
      omega
    · rw [if_neg admitted]
      simp only [savedMax, FreqCall.Admitted, FreqCall.hz] at admitted
      simp only [reduceCtorEq, false_iff]
      omega

/-- A call moves its own limit only. -/
theorem loadLimit_frame
    {call : FreqCall} {b after : FreqBounds} (loaded : loadLimit call b = some after) :
    after.hwMin = b.hwMin ∧ after.hwMax = b.hwMax ∧
      match call with
      | .setMin _ => after.high = b.high
      | .setMax _ => after.low = b.low := by
  unfold loadLimit at loaded
  split at loaded
  · cases loaded
    cases call <;> exact ⟨rfl, rfl, rfl⟩
  · split at loaded
    · cases loaded
      cases call <;> exact ⟨rfl, rfl, rfl⟩
    · cases loaded

/--
The saved limits come back exactly when the lower one is not above the current
upper one and both are restorable.
-/
theorem restoreLimits_iff
    {saved current : FreqBounds}
    (savedOrdered : saved.Ordered)
    (currentOrdered : current.Ordered)
    (sameMin : saved.hwMin = current.hwMin)
    (sameMax : saved.hwMax = current.hwMax) :
    restoreLimits saved current = some saved ↔
      saved.low ≤ current.high ∧ Restorable saved.low current.low ∧
        Restorable saved.high current.high := by
  obtain ⟨savedLow, savedBetween, savedHigh⟩ := savedOrdered
  obtain ⟨low, between, high⟩ := currentOrdered
  have minRestores := @savedMin_restores saved current ⟨by omega, by omega⟩ between
  have goal : saved = { { current with low := saved.low } with high := saved.high } := by
    cases saved
    simp_all
  have maxRestores : ∀ below : saved.low ≤ current.high,
      loadLimit (savedMax saved) { current with low := saved.low } = some saved ↔
        Restorable saved.high current.high := by
    intro below
    have restores := @savedMax_restores saved { current with low := saved.low }
      ⟨by simp only; omega, by simp only; omega⟩ below
    rw [← goal] at restores
    exact restores.trans (and_iff_right savedBetween)
  unfold restoreLimits
  constructor
  · intro restored
    obtain ⟨middle, first, second⟩ := Option.bind_eq_some_iff.mp restored
    obtain ⟨frameMin, frameMax, frameHigh⟩ := loadLimit_frame first
    obtain ⟨-, -, frameLow⟩ := loadLimit_frame second
    have shape : middle = { current with low := saved.low } := by
      obtain ⟨hwMin, low, high, hwMax⟩ := middle
      exact FreqBounds.mk.injEq .. ▸ ⟨frameMin, frameLow.symm, frameHigh, frameMax⟩
    rw [shape] at first second
    obtain ⟨below, lowRestorable⟩ := minRestores.mp first
    exact ⟨below, lowRestorable, (maxRestores below).mp second⟩
  · rintro ⟨below, lowRestorable, highRestorable⟩
    rw [minRestores.mpr ⟨below, lowRestorable⟩]
    exact (maxRestores below).mpr highRestorable

/-! ## Saving and loading -/

theorem cliParseInt_showInt (value : Int64Value) :
    cliParseInt (showInt value.1) = some value.1 := by
  rw [cliParseInt, strtoll_showInt value.2.1 value.2.2]
  rfl

theorem parseInt_negative
    {call : FreqCall} (negative : call.hz < 0) :
    (cliParseInt (showInt call.hz)).filter (0 ≤ ·) = none := by
  rw [cliParseInt_showInt ⟨call.hz, call.hz_fits⟩]
  simp [Option.filter, negative]

theorem parseInt_nonneg
    {call : FreqCall} (nonneg : 0 ≤ call.hz) :
    (cliParseInt (showInt call.hz)).filter (0 ≤ ·) = some call.hz := by
  rw [cliParseInt_showInt ⟨call.hz, call.hz_fits⟩]
  simp [Option.filter, nonneg]

/-- The entry a limit is saved as. -/
def FreqCall.entry : FreqCall → TomlKv
  | .setMin hz => ⟨"cpu", "freq_min_hz", showInt hz.1, false⟩
  | .setMax hz => ⟨"cpu", "freq_max_hz", showInt hz.1, false⟩

def governorEntry (governor : CStr) : TomlKv :=
  ⟨"cpu", "governor", governor, true⟩

section Loading

variable {τ : Type} (json : Bool)

theorem applyKv_governor (governor : CStr) :
    (applyKv json false (governorEntry governor) : CliM σ τ Int) =
      applyAllCpus fun cpu => .cpuSetGovernor cpu governor := by
  simp [applyKv, governorEntry, loadCpuKv]

theorem applyKv_limit (call : FreqCall) :
    (applyKv json false call.entry : CliM σ τ Int) =
      if call.hz < 0 then pure 0 else applyAllCpus (call.update ·) := by
  by_cases negative : call.hz < 0
  · have skipped := parseInt_negative negative
    cases call <;>
      simp only [FreqCall.hz] at skipped negative <;>
      simp [applyKv, FreqCall.entry, loadCpuKv, skipped, FreqCall.hz, negative]
  · have kept := parseInt_nonneg (not_lt.mp negative)
    cases call <;>
      simp only [FreqCall.hz] at kept negative <;>
      simp [applyKv, FreqCall.entry, loadCpuKv, kept, FreqCall.hz, FreqCall.update, negative]

end Loading

section Restoring

variable {os : Os σ} {ctx : Ctx σ Proc} {cpus : Set Int} {governor : Option CStr}
  {c outer saved : FreqBounds}
  (library : ctx.lib = libzenctl os)
  (json : Bool)
  (kernel : ∀ i ∈ cpus, CpuKernel os ⟨i⟩)
  (first : 0 ∈ cpus)
include library kernel first

/-- Loading one limit follows `loadLimit` on the CPUs the loop visits. -/
theorem applyKv_limit_run
    {process : Process σ Proc}
    (ready : Ready os cpus governor process.sys process.console.memory
      (zoned (configuredCpus ctx.env) c outer))
    (ordered : c.Ordered)
    (call : FreqCall) :
    match loadLimit call c with
    | some after =>
        (applyKv json false call.entry ctx process).1 = 0 ∧
          Ready os cpus governor
            (applyKv json false call.entry ctx process).2.sys
            (applyKv json false call.entry ctx process).2.console.memory
            (zoned (configuredCpus ctx.env) after outer)
    | none => (applyKv json false call.entry ctx process).1 = -1 := by
  rw [applyKv_limit, loadLimit]
  by_cases negative : call.hz < 0
  · rw [if_pos negative, if_pos negative]
    exact ⟨rfl, ready⟩
  · rw [if_neg negative, if_neg negative]
    by_cases admitted : call.Admitted c
    · rw [if_pos admitted]
      exact applyAllCpus_admitted library kernel ready ordered admitted
    · rw [if_neg admitted]
      exact applyAllCpus_refused library first ready admitted

/--
Loading both limits gives the saved ones back exactly when `restoreLimits` does,
and the loop visits every CPU or the others have them already.
-/
theorem collectCli_limits
    {process : Process σ Proc}
    (ready : Ready os cpus governor process.sys process.console.memory
      (zoned (configuredCpus ctx.env) c outer))
    (ordered : c.Ordered) :
    ((∀ result ∈ (collectCli (applyKv json false)
          [(savedMin saved).entry, (savedMax saved).entry] ctx process).1, result = 0) ∧
        ∀ i ∈ cpus, CpuFiles os (collectCli (applyKv json false)
          [(savedMin saved).entry, (savedMax saved).entry] ctx process).2.sys ⟨i⟩ saved) ↔
      restoreLimits saved c = some saved ∧
        ((∀ i ∈ cpus, i < configuredCpus ctx.env) ∨ outer = saved) := by
  have positive := (configuredCpus_bounds ctx.env).1
  have minRun := applyKv_limit_run library json kernel first ready ordered (savedMin saved)
  simp only [collectCli, CliM.bind_run, CliM.pure_run, List.forall_mem_cons, List.not_mem_nil,
    false_implies, implies_true, and_true]
  rw [restoreLimits]
  cases loaded : loadLimit (savedMin saved) c with
  | none =>
      rw [loaded] at minRun
      simp [minRun]
  | some middle =>
      rw [loaded] at minRun
      obtain ⟨minDone, middleReady⟩ := minRun
      have maxRun := applyKv_limit_run library json kernel first middleReady
        (loadLimit_ordered ordered loaded) (savedMax saved)
      rw [Option.bind_some]
      cases reloaded : loadLimit (savedMax saved) middle with
      | none =>
          rw [reloaded] at maxRun
          simp [maxRun]
      | some final =>
          rw [reloaded] at maxRun
          obtain ⟨maxDone, finalReady⟩ := maxRun
          rw [minDone, maxDone, Option.some.injEq]
          simp only [true_and]
          have held : ∀ i ∈ cpus, CpuFiles os _ ⟨i⟩ saved ↔
              zoned (configuredCpus ctx.env) final outer i = saved := fun i there =>
            ⟨(finalReady.files i there).unique, fun same => same ▸ finalReady.files i there⟩
          rw [forall₂_congr held]
          constructor
          · intro restored
            have inner : zoned (configuredCpus ctx.env) final outer 0 = final := if_pos (by omega)
            refine ⟨inner.symm.trans (restored 0 first), ?_⟩
            rw [or_iff_not_imp_left, not_forall₂]
            rintro ⟨i, there, above⟩
            exact (if_neg above).symm.trans (restored i there)
          · rintro ⟨rfl, every | rfl⟩ i there
            · exact if_pos (every i there)
            · exact ite_self _

end Restoring

/-! ## The saved section -/

/--
The machine when the profile is saved: its CPUs have these limits, and the first one, if it is
there, this governor.
-/
structure SavedState (os : Os σ) (cpus : Set Int) (governor : Option KernelText) (sys : σ)
    (memory : Proc) (saved : FreqBounds) : Prop where
  machine : machineCpus os sys = cpus
  files : ∀ i ∈ cpus, CpuFiles os sys ⟨i⟩ saved
  governor : 0 ∈ cpus → ∀ proc : Proc, proc.allocations = [] →
    (zenctlCpuGetGovernor ⟨0⟩ os sys proc).1 =
      match governor with
      | some text => .value text.1
      | none => .failed
  memory : memory.allocations = []

/-- What `save_cpu` captures in that state. -/
def savedCpu (governor : Option KernelText) (saved : FreqBounds) : CapturedCpu where
  governor := governor
  freqMin := some ⟨toInt64 (saved.low * 1000), toInt64_bounds _⟩
  freqMax := some ⟨toInt64 (saved.high * 1000), toInt64_bounds _⟩

section Saving

variable {os : Os σ} {ctx : Ctx σ Proc} {cpus : Set Int} {governor : Option KernelText}
  {saved : FreqBounds} {sys : σ}

theorem queryOpt_value
    (library : ctx.lib = libzenctl os)
    {β : Type} {call : Query β} {value : Option β} {console : Console Proc}
    (run : (call.program os sys { console.memory with err := Err.zero }).1 =
      match value with
      | some result => .value result
      | none => .failed) :
    (queryOpt call ctx sys console).1 = value := by
  simp only [queryOpt, ReadM.bind_run, query_run library, run]
  cases value <;> rfl

theorem saveCpu_run
    (library : ctx.lib = libzenctl os)
    {console : Console Proc}
    (state : SavedState os cpus governor sys console.memory saved)
    (first : 0 ∈ cpus) :
    (saveCpu ctx sys console).1 = [("cpu".toList, (savedCpu governor saved).settings)] := by
  have present : os.access sys (cpuDir 0) .present = .ok () := by
    rw [← state.machine] at first
    exact first.2
  have opens : query (.cpuOpen 0) ctx sys console =
      (.ok ⟨0⟩, { console with memory := { console.memory with err := Err.zero } }) := by
    have opened : zenctlCpuOpen 0 os sys { console.memory with err := Err.zero } =
        (.value ⟨0⟩, { console.memory with err := Err.zero }) :=
      cpuOpen_present (le_refl 0) present state.memory
    rw [query_run library, show Query.program (.cpuOpen 0) = zenctlCpuOpen 0 from rfl, opened]
    rfl
  have governorRun := state.governor first { console.memory with err := Err.zero } state.memory
  have readGovernor := @queryOpt_value σ os ctx sys library CStr (.cpuGetGovernor ⟨0⟩)
    (governor.map (·.1)) { console with memory := { console.memory with err := Err.zero } }
    (governorRun.trans (by cases governor <;> rfl))
  have readMin := fun console => @queryOpt_value σ os ctx sys library Int (.cpuGetFreqMin ⟨0⟩)
    (some (toInt64 (saved.low * 1000))) console (getFreqMin_files (state.files 0 first) _)
  have readMax := fun console => @queryOpt_value σ os ctx sys library Int (.cpuGetFreqMax ⟨0⟩)
    (some (toInt64 (saved.high * 1000))) console (getFreqMax_files (state.files 0 first) _)
  simp only [saveCpu, ReadM.bind_run, opens, readGovernor, readMin, readMax]
  rfl

/-- Without the first CPU there is no section. -/
theorem saveCpu_absent
    (library : ctx.lib = libzenctl os)
    {console : Console Proc}
    (state : SavedState os cpus governor sys console.memory saved)
    (absent : 0 ∉ cpus) :
    (saveCpu ctx sys console).1 = [] := by
  rw [← state.machine] at absent
  obtain ⟨later, failed, -⟩ := @cpuOpen_failed σ os 0 sys
    { console.memory with err := Err.zero } absent state.memory
  rw [saveCpu, ReadM.bind_run, query_run library,
    show Query.program (.cpuOpen 0) = zenctlCpuOpen 0 from rfl, failed]
  rfl

/-- A listed governor has no newline in its name. -/
theorem GovernorAvailable.oneLine
    {cpu : CpuHandle} {text : CStr} (available : GovernorAvailable os sys cpu text) :
    '\n' ∉ text := by
  obtain ⟨bytes, -, listed⟩ := available
  obtain ⟨token, member, same⟩ := List.any_eq_true.mp listed
  intro newline
  have lowered : '\n' ∈ token.map toLower := by
    rw [of_decide_eq_true same]
    exact List.mem_map.mpr ⟨'\n', newline, by decide⟩
  obtain ⟨c, inToken, lowers⟩ := List.mem_map.mp lowered
  rw [toLower_newline lowers] at inToken
  exact (tokens_plain member).2.2 inToken

end Saving

/-! ## The round trip through a profile -/

/-- The text `save_*` functions print, one section after the other. -/
def printSections (sections : List (CStr × List Setting)) : CStr :=
  sections.flatMap fun s => sectionText s.1 s.2

/-- The entries of a saved `[cpu]` section. -/
def savedEntries (governor : Option KernelText) (saved : FreqBounds) : List TomlKv :=
  (governor.map fun text => governorEntry text.1).toList ++
    [(savedMin saved).entry, (savedMax saved).entry]

theorem allOrMinusOne_zero (results : List Int) :
    allOrMinusOne results = 0 ↔ ∀ result ∈ results, result = 0 := by
  unfold allOrMinusOne
  split
  · next all => simpa using all
  · next notAll => simpa using notAll

theorem savedCpu_read
    {governor : Option KernelText} (saved : FreqBounds)
    (oneLine : ∀ text ∈ governor, '\n' ∉ text.1) :
    tomlParse (printSections [("cpu".toList, (savedCpu governor saved).settings)]) =
      savedEntries governor saved := by
  have printed : PrintedSection ("cpu".toList, (savedCpu governor saved).settings) :=
    ⟨show '\x00' ∉ "cpu".toList by decide, show "cpu".toList.head? ≠ some '[' by decide,
      (savedCpu governor saved).settings_printed⟩
  have fits : ∀ kv ∈ (savedCpu governor saved).settings.map (Setting.entry "cpu"),
      kv.Representable :=
    (entries_representable_iff _ _).mpr ⟨fun _ => ⟨by decide, by decide, by decide⟩,
      (savedCpu governor saved).values_iff.mpr oneLine⟩
  have read := @sections_read [("cpu".toList, (savedCpu governor saved).settings)]
    (by simpa using printed) (by simpa using fits) []
  rw [tomlParse, printSections, read]
  cases governor <;> rfl

/-- The two CPUs with this governor and these limits in kHz. -/
def pairFiles (governor : CStr) (low high : Int) : CStr → Option (List Char) := fun path =>
  let ofEither (suffix : CStr) : Bool := path = cpuPath ⟨0⟩ suffix ∨ path = cpuPath ⟨1⟩ suffix
  if ofEither "cpufreq/scaling_governor" then some (governor ++ ['\n'])
  else if ofEither "cpufreq/scaling_available_governors" then some "performance powersave\n".toList
  else if ofEither "cpufreq/cpuinfo_min_freq" then some (showInt 800000 ++ ['\n'])
  else if ofEither "cpufreq/cpuinfo_max_freq" then some (showInt 3600000 ++ ['\n'])
  else if ofEither "cpufreq/scaling_min_freq" then some (showInt low ++ ['\n'])
  else if ofEither "cpufreq/scaling_max_freq" then some (showInt high ++ ['\n'])
  else none

/-- Files in memory, with the directories of two CPUs. -/
def pairOs : Os (CStr → Option (List Char)) :=
  { memoryOs with
    access := fun _ path _ =>
      if path = cpuDir 0 ∨ path = cpuDir 1 then .ok () else .error Errno.enoent }

/-- The command line on that machine. -/
def pairCtx : Ctx (CStr → Option (List Char)) Proc where
  lib := libzenctl pairOs
  host :=
    { listDir := fun _ _ => some ["cpu0", "cpu1", "cpufreq"]
      access := fun files path _ => (files path).isSome
      readFile := fun files path =>
        match files path with
        | some bytes => .ok bytes
        | none => .error "No such file or directory".toList
      mkdir := fun files _ => (true, files)
      openWrite := fun files path => (.ok (), Function.update files path (some []))
      writeOut := fun files path text => Function.update files path (some text)
      unlink := fun files path => (.ok (), Function.update files path none) }
  env := { smallEnv 0 with nprocessorsConf := 2 }

def freshConsole : Console Proc := ⟨freshProc, [], [], []⟩

theorem pairOs_stores (path : CStr) :
    pairOs.StoresVerbatim path where
  accepted files text _ _ := by
    refine ⟨⟨[], .inl rfl, by simp [pairOs, memoryOs]⟩, ?_, fun _ _ => rfl⟩
    intro other different
    simp [pairOs, memoryOs, Function.update_of_ne different]
  refused files text refused := (refused rfl).elim

theorem pairOs_kernel (cpu : CpuHandle) :
    CpuKernel pairOs cpu where
  limits := ⟨pairOs_stores _, pairOs_stores _⟩
  governor := pairOs_stores _
  acceptsLimit _ _ _ _ _ _ := rfl
  acceptsGovernor _ _ _ := rfl

/-- A short number is not cut off in the name of its directory. -/
theorem cpuDir_injective
    {c k : Int} (nonneg : 0 ≤ c) (nonnegK : 0 ≤ k) (short : (showInt k).length < 100)
    (same : cpuDir c = cpuDir k) :
    c = k := by
  have digits : ∀ {n : Int}, 0 ≤ n → (digitsValue (showInt n) : Int) = n := by
    intro n nonneg
    obtain ⟨m, rfl⟩ := Int.eq_ofNat_of_zero_le nonneg
    exact congrArg Int.ofNat (digitsValue_showNat m)
  have lead : "/sys/devices/system/cpu/cpu".toList.length = 27 := rfl
  unfold cpuDir bounded at same
  rw [List.take_append, List.take_append, lead] at same
  have numbers : (showInt c).take 100 = (showInt k).take 100 := List.append_cancel_left same
  rw [List.take_of_length_le short.le] at numbers
  have whole : (showInt c).take 100 = showInt c := by
    refine List.take_of_length_le ?_
    have lengths := congrArg List.length numbers
    rw [List.length_take] at lengths
    omega
  rw [whole] at numbers
  rw [← digits nonneg, numbers, digits nonnegK]

theorem pairOs_machine (files : CStr → Option (List Char)) :
    machineCpus pairOs files = {0, 1} := by
  ext c
  constructor
  · rintro ⟨nonneg, present⟩
    have listed : cpuDir c = cpuDir 0 ∨ cpuDir c = cpuDir 1 := by
      by_contra neither
      simp only [cpuDirs, pairOs, neither, if_false] at present
      cases present
    rcases listed with same | same
    · exact .inl (cpuDir_injective nonneg (by decide) (by decide) same)
    · exact .inr (cpuDir_injective nonneg (by decide) (by decide) same)
  · rintro (rfl | rfl)
    · exact ⟨by decide, rfl⟩
    · exact ⟨by decide, rfl⟩

theorem pairFiles_hold
    {i : Int} (there : i ∈ ({0, 1} : Set Int)) (governor : CStr) {low high : Int}
    (small : 0 ≤ low ∧ low ≤ 3600000 ∧ 0 ≤ high ∧ high ≤ 3600000) :
    CpuFiles pairOs (pairFiles governor low high) ⟨i⟩ ⟨800000, low, high, 3600000⟩ := by
  have fits : ∀ {n : Int}, 0 ≤ n → n ≤ 3600000 → int64Min ≤ n ∧ n ≤ int64Max := by
    intro n nonneg bounded
    unfold int64Min int64Max
    omega
  obtain ⟨lowNonneg, lowSmall, highNonneg, highSmall⟩ := small
  have lowFits := fits lowNonneg lowSmall
  have highFits := fits highNonneg highSmall
  have lowest : int64Min ≤ 800000 ∧ 800000 ≤ int64Max := by decide
  have highest : int64Min ≤ 3600000 ∧ 3600000 ≤ int64Max := by decide
  rcases there with rfl | rfl
  · exact ⟨.of_printed lowest.1 lowest.2 (.inr rfl) rfl,
      .of_printed highest.1 highest.2 (.inr rfl) rfl,
      .of_printed lowFits.1 lowFits.2 (.inr rfl) rfl,
      .of_printed highFits.1 highFits.2 (.inr rfl) rfl⟩
  · exact ⟨.of_printed lowest.1 lowest.2 (.inr rfl) rfl,
      .of_printed highest.1 highest.2 (.inr rfl) rfl,
      .of_printed lowFits.1 lowFits.2 (.inr rfl) rfl,
      .of_printed highFits.1 highFits.2 (.inr rfl) rfl⟩

end Zenctl
