import Zenctl.SavedSettings

namespace Zenctl

open CString LabelledRuns

/-!
# What a profile asks for

`profile load` goes on after a failed setter and opens devices by their names,
so which setters it calls is decided by the entries and the devices that are
there.  `entryCalls` lists them for one entry; `profile load` calls those of all
entries in order and takes no other step.
-/

variable {σ α β γ : Type}

/-! ## Setters with memory -/

/-- With memory, the program leaves memory. -/
def SetM.Spares (program : SetM σ α) (os : Os σ) : Prop :=
  ∀ sys proc, proc.allocations = [] → (program os sys proc).2.2.allocations = []

namespace SetM.Spares

variable {os : Os σ}

theorem raise (code : Int) (message context : CStr) :
    (getting (Zenctl.raise code message context : GetM σ α)).Spares os :=
  fun _ _ memory => memory

theorem write (path text : CStr) : (writeFileString path text).Spares os := by
  intro sys proc memory
  unfold writeFileString
  rw [SetM.bind_run]
  unfold writeResolved
  dsimp only
  cases (os.writeFile sys (resolvePath os.sysfsRoot path) text).1 <;> exact memory

theorem after
    {program : GetM σ α} {next : α → SetM σ β} {alike : σ → σ → Prop}
    (settles : program.Settles os alike) (rest : ∀ value, (next value).Spares os) :
    (getting program >>= next).Spares os := by
  intro sys proc memory
  obtain ⟨answer, answers, -⟩ := settles
  obtain ⟨later, run, kept⟩ := answers sys proc memory
  cases found : answer sys with
  | none =>
      rw [found] at run
      rw [SetM.bind_getting_failed run]
      exact kept
  | some value =>
      rw [found] at run
      rw [SetM.bind_getting_value run]
      exact rest value sys later kept

theorem ite
    {condition : Prop} [Decidable condition] {first second : SetM σ α}
    (yes : first.Spares os) (no : second.Spares os) :
    (if condition then first else second).Spares os := by
  split
  · exact yes
  · exact no

end SetM.Spares

/-- The setters a profile can call. -/
inductive Update.InProfile : Update → Prop
  | governor (cpu : CpuHandle) (governor : CStr) : InProfile (.cpuSetGovernor cpu governor)
  | freqMin (cpu : CpuHandle) (hz : Int) : InProfile (.cpuSetFreqMin cpu hz)
  | freqMax (cpu : CpuHandle) (hz : Int) : InProfile (.cpuSetFreqMax cpu hz)
  | swappiness (value : Int) : InProfile (.memSetSwappiness value)
  | thp (mode : ThpMode) : InProfile (.memSetThp mode)
  | overcommit (value : Int) : InProfile (.memSetOvercommit value)
  | vfsCachePressure (value : Int) : InProfile (.memSetVfsCachePressure value)
  | scheduler (st : StorageHandle) (name : CStr) : InProfile (.storageSetScheduler st name)
  | readAhead (st : StorageHandle) (kb : Int) : InProfile (.storageSetReadAhead st kb)

namespace Update.InProfile

variable {call : Update}

theorem assigns (inProfile : call.InProfile) : call.assignment.isSome = true := by
  cases inProfile <;> rfl

theorem checkHardwareRange_settles
    (os : Os σ) (cpu : CpuHandle) (hz : Int) (caller : CStr) :
    (checkHardwareRange cpu hz caller).Settles os os.SameDevices :=
  .ite (.raise _ _ _) (.bind (readFileI64_settles os (isDevicePath_cpu _ _)) fun _ =>
    .bind (readFileI64_settles os (isDevicePath_cpu _ _)) fun _ =>
      .ite (.raise _ _ _) (.ite (.raise _ _ _) (.pure _)))

theorem spares (inProfile : call.InProfile) (os : Os σ) : call.program.Spares os := by
  cases inProfile with
  | governor cpu governor =>
      exact .ite (.raise _ _ _) (.after (readFileString_settles os (isDevicePath_cpu _ _) _)
        fun _ => .ite (.write _ _) (.raise _ _ _))
  | freqMin cpu hz | freqMax cpu hz =>
      exact .after (checkHardwareRange_settles os cpu hz _) fun _ =>
        .after (readFileI64_settles os (isDevicePath_cpu _ _)) fun _ =>
          .ite (.raise _ _ _) (.write _ _)
  | swappiness value | overcommit value | vfsCachePressure value | readAhead st value =>
      exact .ite (.raise _ _ _) (.write _ _)
  | thp mode => exact .write _ _
  | scheduler st name => exact .ite (.raise _ _ _) (.ite (.raise _ _ _) (.write _ _))

end Update.InProfile

/-! ## The setters of an entry -/

/-- The CPUs a profile is applied to: those that can be opened. -/
def openCpus (os : Os σ) (sys : σ) (env : Env) : List CpuHandle :=
  (countUp 0 (configuredCpus env)).filterMap fun index => (Query.cpuOpen index).asked os sys

/-- The number an entry stands for, quoted or not a number apart. -/
def TomlKv.number (kv : TomlKv) : Option Int :=
  if kv.isString then none else cliParseInt kv.value

/-- The text of an entry whose value is quoted. -/
def TomlKv.text (kv : TomlKv) : Option CStr :=
  if kv.isString then some kv.value else none

/-- What a `[cpu]` entry asks of every CPU. -/
def cpuCall (kv : TomlKv) : Option (CpuHandle → Update) :=
  if kv.key = "governor" then kv.text.map fun governor cpu => .cpuSetGovernor cpu governor
  else if kv.key = "freq_min_hz" then
    (kv.number.filter (0 ≤ ·)).map fun hz cpu => .cpuSetFreqMin cpu hz
  else if kv.key = "freq_max_hz" then
    (kv.number.filter (0 ≤ ·)).map fun hz cpu => .cpuSetFreqMax cpu hz
  else none

/-- What a `[memory]` entry asks for. -/
def memoryCall (kv : TomlKv) : Option Update :=
  if kv.key = "swappiness" then kv.number.map fun v => .memSetSwappiness (toInt32 v)
  else if kv.key = "overcommit" then kv.number.map fun v => .memSetOvercommit (toInt32 v)
  else if kv.key = "vfs_cache_pressure" then
    kv.number.map fun v => .memSetVfsCachePressure (toInt32 v)
  else if kv.key = "thp" then (kv.text.bind parseThpName).map .memSetThp
  else none

/-- What an entry of a `[storage.NAME]` section asks of the device. -/
def deviceCall (kv : TomlKv) (st : StorageHandle) : Option Update :=
  if kv.key = "scheduler" then kv.text.map (.storageSetScheduler st)
  else if kv.key = "read_ahead_kb" then kv.number.map (.storageSetReadAhead st)
  else none

/-- The setters `profile load` calls for an entry. -/
def entryCalls (os : Os σ) (sys : σ) (env : Env) (kv : TomlKv) : List Update :=
  if kv.sectionPath = [] then []
  else if kv.sectionPath = "cpu" then
    (cpuCall kv).toList.flatMap fun call => (openCpus os sys env).map call
  else if kv.sectionPath = "memory" then (memoryCall kv).toList
  else if startsWith "storage." kv.sectionPath then
    ((Query.storageOpen (kv.sectionPath.drop 8)).asked os sys).toList.flatMap fun st =>
      (deviceCall kv st).toList
  else []

/-! ## Programs and their calls -/

/--
With memory, and where this view of the system is as at first, the program calls
these setters, takes no other step and keeps the view.
-/
def CliM.Calls (ctx : Ctx σ Proc) (view : σ → γ) (first : σ) (program : CliM σ Proc α)
    (calls : List Update) : Prop :=
  ∀ process, view process.sys = view first →
    process.console.memory.allocations = [] →
      (program ctx process).2.steps = process.steps ++ calls.map .update ∧
        view (program ctx process).2.sys = view first ∧
        (program ctx process).2.console.memory.allocations = []

namespace CliM.Calls

variable {os : Os σ} {ctx : Ctx σ Proc} {view : σ → γ} {first : σ}

theorem pure (value : α) : CliM.Calls ctx view first (Pure.pure value) [] :=
  fun process same memory => ⟨(List.append_nil process.steps).symm, same, memory⟩

theorem bind
    {program : CliM σ Proc α} {next : α → CliM σ Proc β} {calls more : List Update}
    (front : CliM.Calls ctx view first program calls)
    (back : ∀ value, CliM.Calls ctx view first (next value) more) :
    CliM.Calls ctx view first (program >>= next) (calls ++ more) := by
  intro process same memory
  obtain ⟨steps, sameAfter, kept⟩ := front process same memory
  obtain ⟨stepsAll, sameEnd, keptEnd⟩ := back _ _ sameAfter kept
  refine ⟨?_, sameEnd, keptEnd⟩
  rw [CliM.bind_run, stepsAll, steps, List.map_append, List.append_assoc]

theorem thenPure
    {program : CliM σ Proc α} {calls : List Update} {result : α → β}
    (front : CliM.Calls ctx view first program calls) :
    CliM.Calls ctx view first (program >>= fun value => Pure.pure (result value)) calls := by
  have both := bind front fun value => pure (result value)
  rwa [List.append_nil] at both

/-- A device is opened, or not, as at first. -/
theorem opening
    (library : ctx.lib = libzenctl os)
    (call : Query β) (settles : call.program.Settles os fun sys later => view later = view sys)
    {next : Except Err β → CliM σ Proc α} {calls : List Update}
    (opened : ∀ value, call.asked os first = some value →
      CliM.Calls ctx view first (next (.ok value)) calls)
    (failed : call.asked os first = none → ∀ err,
      CliM.Calls ctx view first (next (.error err)) calls) :
    CliM.Calls ctx view first (reading (query call) >>= next) calls := by
  intro process same memory
  have asked := settles.asked_alike same.symm
  obtain ⟨later, run, kept⟩ :=
    settles.answers process.sys { process.console.memory with err := Err.zero } memory
  rw [CliM.bind_run, reading_run, query_run library, run, ← asked]
  cases answer : call.asked os first with
  | none =>
      simp only [Outcome.ofOption, Outcome.answer]
      exact failed answer _ _ same kept
  | some value =>
      simp only [Outcome.ofOption, Outcome.answer]
      exact opened value answer _ same kept

/-- A setter with one file to write, on a system whose writes keep the view. -/
theorem update
    (library : ctx.lib = libzenctl os)
    (steady : ∀ sys path text, view (os.writeFile sys path text).2 = view sys)
    {call : Update} (assigns : call.assignment.isSome = true)
    (spares : call.program.Spares os) :
    CliM.Calls ctx view first (Zenctl.update call) [call] := by
  intro process same memory
  obtain ⟨-, changed, later⟩ := update_run library call process
  refine ⟨rfl, ?_, ?_⟩
  · obtain ⟨assignment, shape⟩ := Option.isSome_iff_exists.mp assigns
    rw [changed]
    exact ((call.assigns os shape).keeps view (steady _ _ _) _).trans same
  · rw [later]
    exact spares _ _ memory

/-- A setter whose outcome becomes a result. -/
theorem attempt
    (library : ctx.lib = libzenctl os)
    (steady : ∀ sys path text, view (os.writeFile sys path text).2 = view sys)
    {call : Update} (assigns : call.assignment.isSome = true)
    (spares : call.program.Spares os)
    {next : Except Err Unit → CliM σ Proc β}
    (failed : ∀ err, ∃ value, next (.error err) = Pure.pure value)
    (done : ∃ value, next (.ok ()) = Pure.pure value) :
    CliM.Calls ctx view first (Zenctl.update call >>= next) [call] := by
  refine (List.append_nil [call]) ▸ bind (update library steady assigns spares) fun answer => ?_
  cases answer with
  | error err =>
      obtain ⟨value, shape⟩ := failed err
      rw [shape]
      exact pure value
  | ok result =>
      obtain ⟨value, shape⟩ := done
      rw [shape]
      exact pure value

theorem collectCli
    {round : α → CliM σ Proc β} {calls : α → List Update}
    (each : ∀ item, CliM.Calls ctx view first (round item) (calls item)) (items : List α) :
    CliM.Calls ctx view first (Zenctl.collectCli round items) (items.flatMap calls) := by
  induction items with
  | nil =>
      exact pure _
  | cons item rest inductionHypothesis =>
      exact .bind (each item) fun _ => .thenPure inductionHypothesis

end CliM.Calls

/-! ## The calls of a load -/

section Load

variable {os : Os σ} {ctx : Ctx σ Proc} {first : σ}

theorem Os.WritesApart.access
    (writesApart : os.WritesApart) (sys : σ) (path text : CStr) :
    os.access (os.writeFile sys path text).2 = os.access sys :=
  funext₂ (writesApart sys path text).2

theorem opens_settles
    (os : Os σ) (path : CStr) (_ : IsDevicePath path) (sys later : σ)
    (same : os.access later = os.access sys) :
    os.access later path = os.access sys path :=
  congrFun same path

theorem applyCpu_calls
    (library : ctx.lib = libzenctl os) (writesApart : os.WritesApart)
    {call : CpuHandle → Update} (inProfile : ∀ cpu, (call cpu).InProfile) (index : Int) :
    CliM.Calls ctx os.access first (applyCpu call index)
      (((Query.cpuOpen index).asked os first).toList.map call) := by
  refine .opening library (.cpuOpen index) (cpuOpen_settles os (opens_settles os) index)
    (fun cpu asked => ?_) fun asked err => ?_
  · rw [asked]
    exact .attempt library writesApart.access (inProfile cpu).assigns
      ((inProfile cpu).spares os) (fun _ => ⟨_, rfl⟩) ⟨_, rfl⟩
  · rw [asked]
    exact .pure _

theorem applyAllCpus_calls
    (library : ctx.lib = libzenctl os) (writesApart : os.WritesApart)
    {call : CpuHandle → Update} (inProfile : ∀ cpu, (call cpu).InProfile) :
    CliM.Calls ctx os.access first (applyAllCpus call) ((openCpus os first ctx.env).map call) := by
  have rounds : CliM.Calls ctx os.access first
      (collectCli (applyCpu call) (countUp 0 (configuredCpus ctx.env))) _ :=
    .collectCli (applyCpu_calls library writesApart inProfile) _
  have same : (countUp 0 (configuredCpus ctx.env)).flatMap (fun index =>
      ((Query.cpuOpen index).asked os first).toList.map call) =
        (openCpus os first ctx.env).map call := by
    unfold openCpus
    generalize countUp 0 (configuredCpus ctx.env) = indices
    induction indices with
    | nil =>
        rfl
    | cons index rest inductionHypothesis =>
        rw [List.flatMap_cons, inductionHypothesis, List.filterMap_cons]
        cases (Query.cpuOpen index).asked os first <;> rfl
  rw [same] at rounds
  exact rounds.thenPure

theorem applyOne_calls
    (library : ctx.lib = libzenctl os) (writesApart : os.WritesApart)
    {call : Update} (inProfile : call.InProfile) (json : Bool) (wouldDo : CStr) :
    CliM.Calls ctx os.access first (applyOne json false wouldDo call) [call] :=
  .attempt library writesApart.access inProfile.assigns (inProfile.spares os)
    (fun _ => ⟨_, rfl⟩) ⟨_, rfl⟩

theorem applyMemoryInt_calls
    (library : ctx.lib = libzenctl os) (writesApart : os.WritesApart)
    {call : Int → Update} (inProfile : ∀ value, (call value).InProfile) (kv : TomlKv) (json : Bool) :
    CliM.Calls ctx os.access first (applyMemoryInt kv json false call)
      (kv.number.map fun v => call (toInt32 v)).toList := by
  unfold applyMemoryInt TomlKv.number
  split
  · exact .pure _
  · cases cliParseInt kv.value with
    | none => exact .pure _
    | some v => exact applyOne_calls library writesApart (inProfile _) _ _

theorem loadCpuKv_calls
    (library : ctx.lib = libzenctl os) (writesApart : os.WritesApart) (kv : TomlKv) (json : Bool) :
    CliM.Calls ctx os.access first (loadCpuKv kv json false)
      ((cpuCall kv).toList.flatMap fun call => (openCpus os first ctx.env).map call) := by
  have every : ∀ call : CpuHandle → Update, (∀ cpu, (call cpu).InProfile) →
      CliM.Calls ctx os.access first (applyAllCpus call)
        ((some call).toList.flatMap fun call => (openCpus os first ctx.env).map call) := by
    intro call inProfile
    rw [Option.toList_some, List.flatMap_singleton]
    exact applyAllCpus_calls library writesApart inProfile
  unfold loadCpuKv cpuCall TomlKv.text TomlKv.number
  cases string : kv.isString with
  | true =>
      simp only [Bool.true_eq_false, Bool.false_eq_true, if_false, if_true, Option.map_some,
        Option.filter_none, Option.map_none]
      split
      · exact every _ fun cpu => .governor cpu kv.value
      · split_ifs <;> exact .pure _
  | false =>
      simp only [if_true, Bool.false_eq_true, if_false, Option.map_none]
      split
      · exact .pure _
      split
      · next limit =>
        cases (cliParseInt kv.value).filter (0 ≤ ·) with
        | none => split_ifs <;> exact .pure _
        | some hz =>
            dsimp only
            split
            · exact every _ fun cpu => .freqMin cpu hz
            · next other =>
              rw [if_pos (limit.resolve_left other)]
              exact every _ fun cpu => .freqMax cpu hz
      · next neither =>
        rw [not_or] at neither
        rw [if_neg neither.1, if_neg neither.2]
        exact .pure _

theorem loadMemoryKv_calls
    (library : ctx.lib = libzenctl os) (writesApart : os.WritesApart) (kv : TomlKv) (json : Bool) :
    CliM.Calls ctx os.access first (loadMemoryKv kv json false) (memoryCall kv).toList := by
  unfold loadMemoryKv memoryCall
  split
  · exact applyMemoryInt_calls library writesApart .swappiness kv json
  split
  · exact applyMemoryInt_calls library writesApart .overcommit kv json
  split
  · exact applyMemoryInt_calls library writesApart .vfsCachePressure kv json
  split
  · unfold TomlKv.text
    cases kv.isString with
    | false => exact .pure _
    | true =>
        simp only [Bool.true_eq_false, if_false, if_true, Option.bind_some]
        cases parseThpName kv.value with
        | none => exact .pure _
        | some mode => exact applyOne_calls library writesApart (.thp mode) _ _
  · exact .pure _

theorem loadStorageKv_calls
    (library : ctx.lib = libzenctl os) (writesApart : os.WritesApart) (dev : CStr) (kv : TomlKv)
    (json : Bool) :
    CliM.Calls ctx os.access first (loadStorageKv dev kv json false)
      (((Query.storageOpen dev).asked os first).toList.flatMap fun st =>
        (deviceCall kv st).toList) := by
  refine .opening library (.storageOpen dev) (storageOpen_settles os (opens_settles os) dev)
    (fun st asked => ?_) fun asked err => ?_
  · rw [asked, Option.toList_some, List.flatMap_singleton]
    unfold deviceCall TomlKv.text TomlKv.number
    dsimp only
    split
    · cases kv.isString with
      | false => exact .pure _
      | true =>
          simp only [Bool.true_eq_false, if_false, if_true]
          exact applyOne_calls library writesApart (.scheduler st kv.value) _ _
    split
    · cases kv.isString with
      | true => exact .pure _
      | false =>
          simp only [Bool.false_eq_true, if_false]
          cases cliParseInt kv.value with
          | none => exact .pure _
          | some v => exact applyOne_calls library writesApart (.readAhead st v) _ _
    · exact .pure _
  · rw [asked]
    exact .pure _

theorem applyKv_calls
    (library : ctx.lib = libzenctl os) (writesApart : os.WritesApart) (json : Bool) (kv : TomlKv) :
    CliM.Calls ctx os.access first (applyKv json false kv) (entryCalls os first ctx.env kv) := by
  unfold applyKv entryCalls
  split
  · exact .pure _
  split
  · exact loadCpuKv_calls library writesApart kv json
  split
  · exact loadMemoryKv_calls library writesApart kv json
  split
  · exact loadStorageKv_calls library writesApart _ kv json
  · exact .pure _

/-- A profile is applied by the setters of its entries, in order. -/
theorem profileApply_calls
    (library : ctx.lib = libzenctl os) (writesApart : os.WritesApart) (kvs : List TomlKv)
    (json : Bool) :
    CliM.Calls ctx os.access first (profileApply kvs json false)
      (kvs.flatMap (entryCalls os first ctx.env)) :=
  .thenPure (.collectCli (applyKv_calls library writesApart json) kvs)

end Load

end Zenctl
