import Zenctl.Answers

namespace Zenctl

open CString

/-!
# The calls a program makes

Any machine can be given a log of the calls that change something.  What a
setter does is then read off its log.
-/

variable {σ α β : Type}

/-- A call that changes something. -/
inductive SetCall where
  | wrote (path text : CStr)
  | ring (iface : CStr) (rp : RingParams)
  | other
  deriving DecidableEq

/-- The same machine, with a log of these calls beside its state. -/
def Os.recorded (os : Os σ) : Os (σ × List SetCall) where
  sysfsRoot := os.sysfsRoot
  strerror := os.strerror
  openRead sys := os.openRead sys.1
  writeFile sys path text :=
    let answer := os.writeFile sys.1 path text
    (answer.1, answer.2, sys.2 ++ [.wrote path text])
  access sys := os.access sys.1
  listDir sys := os.listDir sys.1
  readlink sys := os.readlink sys.1
  inetSocket sys := os.inetSocket sys.1
  getRing sys := os.getRing sys.1
  setRing sys iface rp :=
    let answer := os.setRing sys.1 iface rp
    (answer.1, answer.2, sys.2 ++ [.ring iface rp])
  getFlag sys := os.getFlag sys.1
  setFlag sys iface flag value :=
    let answer := os.setFlag sys.1 iface flag value
    (answer.1, answer.2, sys.2 ++ [.other])
  nvml :=
    { loads := fun sys => os.nvml.loads sys.1
      resolves := fun sys => os.nvml.resolves sys.1
      starts := fun sys => os.nvml.starts sys.1
      count := fun sys => os.nvml.count sys.1
      device := fun sys => os.nvml.device sys.1
      temperature := fun sys => os.nvml.temperature sys.1
      fanSpeed := fun sys => os.nvml.fanSpeed sys.1
      powerUsage := fun sys => os.nvml.powerUsage sys.1
      clock := fun sys => os.nvml.clock sys.1
      utilization := fun sys => os.nvml.utilization sys.1
      powerLimit := fun sys => os.nvml.powerLimit sys.1
      setPowerLimit := fun sys device limit =>
        let answer := os.nvml.setPowerLimit sys.1 device limit
        (answer.1, answer.2, sys.2 ++ [.other]) }
  openNode sys := os.openNode sys.1
  resetNode sys path :=
    let answer := os.resetNode sys.1 path
    (answer.1, answer.2, sys.2 ++ [.other])
  hciSocket sys := os.hciSocket sys.1
  hciInfo sys := os.hciInfo sys.1
  hciPower sys adapter up :=
    let answer := os.hciPower sys.1 adapter up
    (answer.1, answer.2, sys.2 ++ [.other])
  netlinkSocket sys := os.netlinkSocket sys.1
  netlinkGet sys := os.netlinkGet sys.1
  netlinkSet sys request :=
    let answer := os.netlinkSet sys.1 request
    (answer.1, answer.2, sys.2 ++ [.other])
  writeBinary sys path bytes :=
    let answer := os.writeBinary sys.1 path bytes
    (answer.1, answer.2, sys.2 ++ [.other])
  isEfivarfs sys := os.isEfivarfs sys.1
  isFile sys := os.isFile sys.1
  isDir sys := os.isDir sys.1
  getFlags sys := os.getFlags sys.1
  setFlags sys path word :=
    let answer := os.setFlags sys.1 path word
    (answer.1, answer.2, sys.2 ++ [.other])
  unlink sys path :=
    let answer := os.unlink sys.1 path
    (answer.1, answer.2, sys.2 ++ [.other])

section Recorded

variable {os : Os σ} {sys : σ}

theorem writeFileI64_recorded (path : CStr) (value : Int) :
    (writeFileI64 path value).FailsOr os.recorded (sys, []) fun reached =>
      reached.2 = [.wrote (resolvePath os.sysfsRoot path) (showInt value)] := by
  intro proc
  refine .inr ?_
  have written := (writeFileString_run os.recorded (sys, []) proc path (showInt value)).1
  rw [writeFileI64, written]
  rfl

end Recorded

/-! ## Only such calls -/

/-- With memory, every call the program makes is of this kind. -/
def SetM.CallsOnly (program : SetM (σ × List SetCall) α) (os : Os σ) (good : SetCall → Prop) :
    Prop :=
  ∀ sys proc, proc.allocations = [] → ∃ added,
    (program os.recorded sys proc).2.1.2 = sys.2 ++ added ∧ (∀ call ∈ added, good call) ∧
      (program os.recorded sys proc).2.2.allocations = []

namespace SetM.CallsOnly

variable {os : Os σ} {good : SetCall → Prop}

theorem pure (value : α) :
    (Pure.pure value : SetM (σ × List SetCall) α).CallsOnly os good :=
  fun sys _ memory => ⟨[], (List.append_nil sys.2).symm, nofun, memory⟩

theorem bind
    {program : SetM (σ × List SetCall) α} {next : α → SetM (σ × List SetCall) β}
    (first : program.CallsOnly os good)
    (rest : ∀ value, (next value).CallsOnly os good) :
    (program >>= next).CallsOnly os good := by
  intro sys proc memory
  obtain ⟨added, logged, kind, remembers⟩ := first sys proc memory
  rw [SetM.bind_run]
  rcases run : program os.recorded sys proc with ⟨value | _ | _, changed, later⟩
  · rw [run] at logged remembers
    obtain ⟨more, loggedMore, kindMore, kept⟩ := rest value changed later remembers
    refine ⟨added ++ more, ?_, ?_, kept⟩
    · rw [loggedMore, logged, List.append_assoc]
    · intro call member
      exact (List.mem_append.mp member).elim (kind call) (kindMore call)
  · rw [run] at logged remembers
    exact ⟨added, logged, kind, remembers⟩
  · rw [run] at logged remembers
    exact ⟨added, logged, kind, remembers⟩

/-- A program that reads makes no such call. -/
theorem getting
    {program : GetM (σ × List SetCall) α} {answer : σ × List SetCall → Option α}
    (asked : ∀ sys, program.Answers os.recorded sys (answer sys)) :
    (Zenctl.getting program).CallsOnly os good := by
  intro sys proc memory
  obtain ⟨later, run, remembers⟩ := asked sys proc memory
  refine ⟨[], (List.append_nil sys.2).symm, nofun, ?_⟩
  rw [getting_run, run]
  exact remembers

/-- What is read is the same at any time. -/
theorem after
    {program : GetM (σ × List SetCall) α} {next : α → SetM (σ × List SetCall) β}
    {answer : Option α}
    (asked : ∀ sys, program.Answers os.recorded sys answer)
    (rest : ∀ value, answer = some value → (next value).CallsOnly os good) :
    (Zenctl.getting program >>= next).CallsOnly os good := by
  intro sys proc memory
  obtain ⟨later, run, remembers⟩ := asked sys proc memory
  cases answer with
  | none =>
      rw [SetM.bind_getting_failed run]
      exact ⟨[], (List.append_nil sys.2).symm, nofun, remembers⟩
  | some value =>
      rw [SetM.bind_getting_value run]
      exact rest value rfl sys later remembers

theorem quietly
    {program : SetM (σ × List SetCall) α} (calls : program.CallsOnly os good) :
    (quietlySet program).CallsOnly os good := by
  intro sys proc memory
  obtain ⟨added, logged, kind, remembers⟩ := calls sys proc memory
  unfold quietlySet attemptSet
  rcases run : program os.recorded sys proc with ⟨value | _ | _, changed, later⟩
  all_goals
    rw [run] at logged remembers
    exact ⟨added, logged, kind, remembers⟩

theorem writeFileString
    {path text : CStr} (holds : good (.wrote (resolvePath os.sysfsRoot path) text)) :
    (Zenctl.writeFileString path text).CallsOnly os good := by
  intro sys proc memory
  refine ⟨[.wrote (resolvePath os.sysfsRoot path) text], ?_, ?_, ?_⟩
  · rw [(writeFileString_run os.recorded sys proc path text).1]
    rfl
  · intro call member
    rw [List.mem_singleton.mp member]
    exact holds
  · unfold Zenctl.writeFileString
    rw [SetM.bind_run]
    unfold writeResolved
    dsimp only
    cases (os.recorded.writeFile sys (resolvePath os.recorded.sysfsRoot path) text).1 <;> exact memory

end SetM.CallsOnly

end Zenctl
