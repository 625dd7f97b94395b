import Zenctl.ProfileRestore
import Zenctl.Sessions

namespace Zenctl

open CString LabelledRuns

/-!
# What is saved

With memory, `profile save` writes down what eleven getters answer, and their
answers are decided by the device files.  `savedSections` is the document as a
function of the system.
-/

variable {σ α β : Type}

/-! ## Getters with an answer -/

/-- With memory, the getter delivers this value. -/
def Os.Delivers (os : Os σ) (sys : σ) (call : Query β) (value : β) : Prop :=
  ∀ proc, proc.allocations = [] → ((libzenctl os).query call sys proc).1 = .ok value

/-- What the getter answers, if anything. -/
def Query.asked (call : Query β) (os : Os σ) (sys : σ) : Option β :=
  match (call.program os sys freshProc).1 with
  | .value value => some value
  | _ => none

/--
With memory, the program ends in an answer that the system alone decides, and
systems that are alike in this way give the same one.
-/
def GetM.Settles (program : GetM σ α) (os : Os σ) (alike : σ → σ → Prop) : Prop :=
  ∃ answer : σ → Option α, (∀ sys, program.Answers os sys (answer sys)) ∧
    ∀ sys later, alike sys later → answer later = answer sys

theorem GetM.Answers.asked
    {os : Os σ} {sys : σ} {call : Query β} {answer : Option β}
    (answers : call.program.Answers os sys answer) :
    call.asked os sys = answer := by
  unfold Query.asked
  rw [answers.outcome rfl]
  cases answer <;> rfl

theorem Os.Delivers.of_answers
    {os : Os σ} {sys : σ} {call : Query β} {value : β}
    (answers : call.program.Answers os sys (some value)) :
    os.Delivers sys call value :=
  fun _ memory => libzenctl_query_ok answers memory

namespace GetM.Settles

variable {os : Os σ} {alike : σ → σ → Prop}

theorem answers
    {call : Query β} (settles : call.program.Settles os alike) (sys : σ) :
    call.program.Answers os sys (call.asked os sys) := by
  obtain ⟨answer, answers, -⟩ := settles
  rw [(answers sys).asked]
  exact answers sys

theorem asked_alike
    {call : Query β} (settles : call.program.Settles os alike) {sys later : σ}
    (same : alike sys later) :
    call.asked os later = call.asked os sys := by
  obtain ⟨answer, answers, kept⟩ := settles
  rw [(answers sys).asked, (answers later).asked, kept sys later same]

theorem pure (value : α) : (Pure.pure value : GetM σ α).Settles os alike :=
  ⟨fun _ => some value, fun _ => .pure value, fun _ _ _ => rfl⟩

theorem raise (code : Int) (message context : CStr) :
    (Zenctl.raise code message context : GetM σ α).Settles os alike :=
  ⟨fun _ => none, fun _ => .raise code message context, fun _ _ _ => rfl⟩

theorem bind
    {program : GetM σ α} {next : α → GetM σ β}
    (first : program.Settles os alike) (rest : ∀ value, (next value).Settles os alike) :
    (program >>= next).Settles os alike := by
  obtain ⟨answer, answers, kept⟩ := first
  choose later goesOn keptOn using rest
  refine ⟨fun sys => (answer sys).bind fun value => later value sys,
    fun sys => (answers sys).bind fun value _ => goesOn value sys, fun sys other same => ?_⟩
  dsimp only
  rw [kept sys other same]
  exact congrArg _ (funext fun value => keptOn value sys other same)

theorem ite
    {condition : Prop} [Decidable condition] {first second : GetM σ α}
    (yes : first.Settles os alike) (no : second.Settles os alike) :
    (if condition then first else second).Settles os alike := by
  split
  · exact yes
  · exact no

theorem allocateOr (message context : CStr) :
    (Zenctl.allocateOr message context).Settles os alike :=
  ⟨fun _ => some (), fun _ => allocateOr_answers message context, fun _ _ _ => rfl⟩

theorem sysCallOr
    {call : Os σ → σ → Except Errno α}
    (same : ∀ sys later, alike sys later → call os later = call os sys)
    (message : Option CStr) (context : CStr) :
    (Zenctl.sysCallOr call message context).Settles os alike :=
  ⟨fun sys => (call os sys).toOption, fun _ => sysCallOr_answers call message context,
    fun sys later kept => congrArg _ (same sys later kept)⟩

theorem readFileString
    {path : CStr}
    (same : ∀ sys later, alike sys later →
      os.openRead later (resolvePath os.sysfsRoot path) =
        os.openRead sys (resolvePath os.sysfsRoot path))
    (size : Nat) :
    (Zenctl.readFileString path size).Settles os alike := by
  refine ⟨fun sys => textOf os sys path size, fun _ => readFileString_answers path size,
    fun sys later kept => ?_⟩
  simp only [textOf, same sys later kept]

theorem readFileI64
    {path : CStr}
    (same : ∀ sys later, alike sys later →
      os.openRead later (resolvePath os.sysfsRoot path) =
        os.openRead sys (resolvePath os.sysfsRoot path)) :
    (Zenctl.readFileI64 path).Settles os alike := by
  refine ⟨fun sys => fileInt os sys path, fun _ => readFileI64_answers path,
    fun sys later kept => ?_⟩
  simp only [fileInt, textOf, same sys later kept]

end GetM.Settles

/-! ## The getters of a profile -/

/-- A path in the kernel's file systems. -/
def IsDevicePath (path : CStr) : Prop :=
  startsWith "/sys/" path = true ∨ startsWith "/proc/" path = true

/-- The device files read the same, and the same of them are there. -/
structure Os.SameDevices (os : Os σ) (sys later : σ) : Prop where
  files : ∀ path, IsDevicePath path →
    os.openRead later (resolvePath os.sysfsRoot path) =
      os.openRead sys (resolvePath os.sysfsRoot path)
  present : ∀ path, IsDevicePath path → os.access later path = os.access sys path

theorem sameDevices_access
    {os : Os σ} (path : CStr) (device : IsDevicePath path) (sys later : σ)
    (same : os.SameDevices sys later) :
    os.access later path = os.access sys path :=
  same.present path device

theorem isDevicePath_cpu (index : Int) (suffix : CStr) :
    IsDevicePath (bounded 128 ("/sys/devices/system/cpu/cpu".toList ++ showInt index ++ suffix)) :=
  .inl rfl

theorem isDevicePath_storage (rest : CStr) :
    IsDevicePath (bounded 512 ("/sys/block/".toList ++ rest)) :=
  .inl rfl

theorem cpuOpen_settles
    (os : Os σ) {alike : σ → σ → Prop}
    (same : ∀ path, IsDevicePath path → ∀ sys later, alike sys later →
      os.access later path = os.access sys path)
    (index : Int) :
    (Query.cpuOpen index).program.Settles os alike := by
  have device := isDevicePath_cpu index []
  rw [List.append_nil] at device
  refine .ite (.raise _ _ _) (.bind (.sysCallOr (fun sys later kept => ?_) _ _) fun _ =>
    .bind (.allocateOr _ _) fun _ => .pure _)
  exact congrFun (same _ device sys later kept) _

theorem storageOpen_settles
    (os : Os σ) {alike : σ → σ → Prop}
    (same : ∀ path, IsDevicePath path → ∀ sys later, alike sys later →
      os.access later path = os.access sys path)
    (name : CStr) :
    (Query.storageOpen name).program.Settles os alike := by
  refine .bind (.ite (.raise _ _ _) (.ite (.raise _ _ _) (.ite (.raise _ _ _) (.pure _))))
    fun _ => .bind (.sysCallOr (fun sys later kept => ?_) _ _) fun _ =>
      .bind (.allocateOr _ _) fun _ => .pure _
  exact congrFun (same _ (isDevicePath_storage name) sys later kept) _

section Settles

variable (os : Os σ)

theorem readFileString_settles {path : CStr} (device : IsDevicePath path) (size : Nat) :
    (readFileString path size).Settles os os.SameDevices :=
  .readFileString (fun _ _ same => same.files path device) size

theorem readFileI64_settles {path : CStr} (device : IsDevicePath path) :
    (readFileI64 path).Settles os os.SameDevices :=
  .readFileI64 fun _ _ same => same.files path device

theorem getGovernor_settles (cpu : CpuHandle) :
    (Query.cpuGetGovernor cpu).program.Settles os os.SameDevices :=
  .bind (readFileString_settles os (isDevicePath_cpu _ _) _) fun _ =>
    .bind (.allocateOr _ _) fun _ => .pure _

theorem getFreq_settles (cpu : CpuHandle) (file : CStr) :
    (getFreq cpu file).Settles os os.SameDevices :=
  .bind (readFileI64_settles os (isDevicePath_cpu _ _)) fun _ => .pure _

theorem getTunable_settles {path : CStr} (device : IsDevicePath path) :
    (getTunable path).Settles os os.SameDevices :=
  .bind (readFileI64_settles os device) fun _ => .pure _

theorem getFreqMin_settles (cpu : CpuHandle) :
    (Query.cpuGetFreqMin cpu).program.Settles os os.SameDevices :=
  getFreq_settles os cpu _

theorem getFreqMax_settles (cpu : CpuHandle) :
    (Query.cpuGetFreqMax cpu).program.Settles os os.SameDevices :=
  getFreq_settles os cpu _

theorem getSwappiness_settles : Query.memGetSwappiness.program.Settles os os.SameDevices :=
  getTunable_settles os (.inr rfl)

theorem getOvercommit_settles : Query.memGetOvercommit.program.Settles os os.SameDevices :=
  getTunable_settles os (.inr rfl)

theorem getVfsCachePressure_settles :
    Query.memGetVfsCachePressure.program.Settles os os.SameDevices :=
  getTunable_settles os (.inr rfl)

theorem getThp_settles : Query.memGetThp.program.Settles os os.SameDevices := by
  refine .bind (readFileString_settles os (.inl rfl) _) fun text => ?_
  split
  · exact .raise _ _ _
  · exact .ite (.pure _) (.ite (.pure _) (.ite (.pure _) (.raise _ _ _)))

theorem storagePath_device (st : StorageHandle) (suffix : CStr) :
    IsDevicePath (storagePath st suffix) := by
  unfold storagePath
  rw [List.append_assoc]
  exact isDevicePath_storage _

theorem getScheduler_settles (st : StorageHandle) :
    (Query.storageGetScheduler st).program.Settles os os.SameDevices := by
  refine .bind (readFileString_settles os (storagePath_device st _) _) fun text => ?_
  split
  · exact .raise _ _ _
  · exact .ite (.bind (.allocateOr _ _) fun _ => .pure _) (.raise _ _ _)

theorem getReadAhead_settles (st : StorageHandle) :
    (Query.storageGetReadAhead st).program.Settles os os.SameDevices :=
  readFileI64_settles os (storagePath_device st _)

end Settles

/-! ## The saved document -/

section Saved

variable (os : Os σ) (sys : σ)

/-- What is saved of the first CPU. -/
def cpuSettings (cpu : CpuHandle) : List Setting :=
  savedString "governor" ((Query.cpuGetGovernor cpu).asked os sys) ++
    savedInt "freq_min_hz" ((Query.cpuGetFreqMin cpu).asked os sys) ++
    savedInt "freq_max_hz" ((Query.cpuGetFreqMax cpu).asked os sys)

def memorySettings : List Setting :=
  savedInt "swappiness" (Query.memGetSwappiness.asked os sys) ++
    savedString "thp" ((Query.memGetThp.asked os sys).map thpName) ++
    savedInt "overcommit" (Query.memGetOvercommit.asked os sys) ++
    savedInt "vfs_cache_pressure" (Query.memGetVfsCachePressure.asked os sys)

/-- What is saved of a device. -/
def deviceSettings (st : StorageHandle) : List Setting :=
  savedString "scheduler" ((Query.storageGetScheduler st).asked os sys) ++
    savedInt "read_ahead_kb" ((Query.storageGetReadAhead st).asked os sys)

def savedCpuSections : List (CStr × List Setting) :=
  ((Query.cpuOpen 0).asked os sys).toList.map fun cpu => ("cpu".toList, cpuSettings os sys cpu)

def savedDeviceSections (name : CStr) : List (CStr × List Setting) :=
  ((Query.storageOpen name).asked os sys).toList.map fun st =>
    ("storage.".toList ++ name, deviceSettings os sys st)

/-- The sections `profile save` writes, as a function of the system. -/
def savedSections (host : Host σ) : List (CStr × List Setting) :=
  savedCpuSections os sys ++ [("memory".toList, memorySettings os sys)] ++
    (((host.listDir sys "/sys/block".toList).getD []).filter savedBlock).flatMap
      (savedDeviceSections os sys)

end Saved

/-- The document is decided by the device files and the list of devices. -/
theorem savedSections_same
    {os : Os σ} {host : Host σ} {sys later : σ}
    (same : os.SameDevices sys later)
    (listed : host.listDir later "/sys/block".toList = host.listDir sys "/sys/block".toList) :
    savedSections os later host = savedSections os sys host := by
  have opens := (cpuOpen_settles os sameDevices_access 0).asked_alike same
  have governor := fun cpu => (getGovernor_settles os cpu).asked_alike same
  have freqMin := fun cpu => (getFreqMin_settles os cpu).asked_alike same
  have freqMax := fun cpu => (getFreqMax_settles os cpu).asked_alike same
  have swappiness := (getSwappiness_settles os).asked_alike same
  have thp := (getThp_settles os).asked_alike same
  have overcommit := (getOvercommit_settles os).asked_alike same
  have pressure := (getVfsCachePressure_settles os).asked_alike same
  have opensDevice := fun name => (storageOpen_settles os sameDevices_access name).asked_alike same
  have scheduler := fun st => (getScheduler_settles os st).asked_alike same
  have readAhead := fun st => (getReadAhead_settles os st).asked_alike same
  have devices : savedDeviceSections os later = savedDeviceSections os sys := by
    funext name
    simp only [savedDeviceSections, deviceSettings, opensDevice, scheduler, readAhead]
  simp only [savedSections, savedCpuSections, cpuSettings, memorySettings, devices, listed, opens,
    governor, freqMin, freqMax, swappiness, thp, overcommit, pressure]

/-- With memory, the reading program delivers this value. -/
def ReadM.Produces (ctx : Ctx σ Proc) (sys : σ) (program : ReadM σ Proc α) (value : α) : Prop :=
  ∀ console, console.memory.allocations = [] →
    (program ctx sys console).1 = value ∧
      (program ctx sys console).2.memory.allocations = []

namespace ReadM.Produces

variable {os : Os σ} {ctx : Ctx σ Proc} {sys : σ}

theorem pure (value : α) : (Pure.pure value : ReadM σ Proc α).Produces ctx sys value :=
  fun _ memory => ⟨rfl, memory⟩

theorem bind
    {program : ReadM σ Proc α} {next : α → ReadM σ Proc β} {first : α} {second : β}
    (produces : program.Produces ctx sys first) (goesOn : (next first).Produces ctx sys second) :
    (program >>= next).Produces ctx sys second := by
  intro console memory
  obtain ⟨result, kept⟩ := produces console memory
  rw [ReadM.bind_run, result]
  exact goesOn _ kept

/-- An answer is handed on as a value, no answer as some error. -/
theorem query
    (library : ctx.lib = libzenctl os)
    (call : Query β) {alike : σ → σ → Prop} (settles : call.program.Settles os alike)
    {next : Except Err β → ReadM σ Proc α} {value : α}
    (answered : ∀ answer, call.asked os sys = some answer →
      (next (.ok answer)).Produces ctx sys value)
    (failed : call.asked os sys = none → ∀ err, (next (.error err)).Produces ctx sys value) :
    (Zenctl.query call >>= next).Produces ctx sys value := by
  intro console memory
  obtain ⟨later, run, kept⟩ := settles.answers sys { console.memory with err := Err.zero } memory
  rw [ReadM.bind_run, query_run library, run]
  cases asked : call.asked os sys with
  | none =>
      simp only [Outcome.ofOption, Outcome.answer]
      exact failed asked _ _ kept
  | some answer =>
      simp only [Outcome.ofOption, Outcome.answer]
      exact answered answer asked _ kept

theorem queryOpt
    (library : ctx.lib = libzenctl os)
    {call : Query β} {alike : σ → σ → Prop} (settles : call.program.Settles os alike) :
    (Zenctl.queryOpt call).Produces ctx sys (call.asked os sys) := by
  refine .query library call settles (fun answer asked => ?_) fun asked err => ?_
  · rw [asked]
    exact .pure _
  · rw [asked]
    exact .pure _

theorem collect
    {program : α → ReadM σ Proc β} {result : α → β}
    (each : ∀ item, (program item).Produces ctx sys (result item)) (items : List α) :
    (Zenctl.collect program items).Produces ctx sys (items.map result) := by
  induction items with
  | nil =>
      exact .pure _
  | cons item rest inductionHypothesis =>
      exact .bind (each item) (.bind inductionHypothesis (.pure _))

end ReadM.Produces

section Snapshot

variable {os : Os σ} {ctx : Ctx σ Proc} {sys : σ}

theorem saveCpu_produces (library : ctx.lib = libzenctl os) :
    saveCpu.Produces ctx sys (savedCpuSections os sys) := by
  refine .query library (.cpuOpen 0) (cpuOpen_settles os sameDevices_access 0)
    (fun cpu asked => ?_) fun asked err => ?_
  · unfold savedCpuSections
    rw [asked]
    exact .bind (.queryOpt library (getGovernor_settles os cpu))
      (.bind (.queryOpt library (getFreqMin_settles os cpu))
        (.bind (.queryOpt library (getFreqMax_settles os cpu)) (.pure _)))
  · unfold savedCpuSections
    rw [asked]
    exact .pure _

theorem saveMemory_produces (library : ctx.lib = libzenctl os) :
    saveMemory.Produces ctx sys [("memory".toList, memorySettings os sys)] :=
  .bind (.queryOpt library (getSwappiness_settles os))
    (.bind (.queryOpt library (getThp_settles os))
      (.bind (.queryOpt library (getOvercommit_settles os))
        (.bind (.queryOpt library (getVfsCachePressure_settles os)) (.pure _))))

theorem saveDevice_produces (library : ctx.lib = libzenctl os) (name : CStr) :
    (saveDevice name).Produces ctx sys (savedDeviceSections os sys name) := by
  refine .query library (.storageOpen name) (storageOpen_settles os sameDevices_access name)
    (fun st asked => ?_) fun asked err => ?_
  · unfold savedDeviceSections
    rw [asked]
    exact .bind (.queryOpt library (getScheduler_settles os st))
      (.bind (.queryOpt library (getReadAhead_settles os st)) (.pure _))
  · unfold savedDeviceSections
    rw [asked]
    exact .pure _

/-- With memory, the snapshot is the saved document. -/
theorem snapshot_produces (library : ctx.lib = libzenctl os) :
    snapshot.Produces ctx sys (savedSections os sys ctx.host) := by
  refine .bind (saveCpu_produces library) (.bind (saveMemory_produces library) (.bind ?_ (.pure _)))
  intro console memory
  unfold saveStorage
  rw [ReadM.bind_run]
  simp only [listDir]
  cases ctx.host.listDir sys "/sys/block".toList with
  | none => exact ⟨rfl, memory⟩
  | some names =>
      obtain ⟨collected, kept⟩ :=
        ReadM.Produces.collect (saveDevice_produces library) (names.filter savedBlock) console memory
      refine ⟨?_, kept⟩
      simp [collected, List.flatMap]

end Snapshot

end Zenctl
