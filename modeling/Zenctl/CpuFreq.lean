import Zenctl.LibCpu

namespace Zenctl

open CString

/-!
# Frequency limits over whole runs

`FreqBounds` is the abstract state of one CPU's frequency limits and
`FreqCall.after` what a successful call makes of it.  The setters refine it:
on files that hold such a state, a call either fails and changes nothing or
leaves files that hold the abstract successor state.
-/

/-- The hardware range and the limits in force, in kHz. -/
structure FreqBounds where
  hwMin : Int
  low : Int
  high : Int
  hwMax : Int
  deriving Repr, DecidableEq

namespace FreqBounds

/-- The limits are ordered and inside the hardware range. -/
def Ordered (b : FreqBounds) : Prop :=
  b.hwMin ≤ b.low ∧ b.low ≤ b.high ∧ b.high ≤ b.hwMax

end FreqBounds

/-- A call of one of the two setters, with its argument in Hz. -/
inductive FreqCall where
  | setMin (hz : Int64Value)
  | setMax (hz : Int64Value)

namespace FreqCall

variable {σ : Type}

def hz : FreqCall → Int
  | setMin hz => hz.1
  | setMax hz => hz.1

/-- The library function behind the call. -/
def run (cpu : CpuHandle) : FreqCall → SetM σ Unit
  | setMin hz => zenctlCpuSetFreqMin cpu hz.1
  | setMax hz => zenctlCpuSetFreqMax cpu hz.1

/-- The getter of the limit the call sets. -/
def get (cpu : CpuHandle) : FreqCall → GetM σ Int
  | setMin _ => zenctlCpuGetFreqMin cpu
  | setMax _ => zenctlCpuGetFreqMax cpu

/-- The getter of the other limit. -/
def getOther (cpu : CpuHandle) : FreqCall → GetM σ Int
  | setMin _ => zenctlCpuGetFreqMax cpu
  | setMax _ => zenctlCpuGetFreqMin cpu

/-- Is the requested limit inside the hardware range and on its side of the other? -/
def Admitted (call : FreqCall) (b : FreqBounds) : Prop :=
  0 ≤ call.hz ∧ b.hwMin ≤ call.hz / 1000 ∧ call.hz / 1000 ≤ b.hwMax ∧
    match call with
    | setMin _ => call.hz / 1000 ≤ b.high
    | setMax _ => b.low ≤ call.hz / 1000

/-- The limits after a successful call. -/
def after (call : FreqCall) (b : FreqBounds) : FreqBounds :=
  match call with
  | setMin _ => { b with low := call.hz / 1000 }
  | setMax _ => { b with high := call.hz / 1000 }

/-- An admitted call keeps the limits ordered. -/
theorem after_ordered
    {call : FreqCall} {b : FreqBounds}
    (ordered : b.Ordered)
    (admitted : call.Admitted b) :
    (call.after b).Ordered := by
  obtain ⟨_, aboveHw, belowHw, other⟩ := admitted
  obtain ⟨low, between, high⟩ := ordered
  cases call with
  | setMin hz =>
      exact ⟨aboveHw, other, high⟩
  | setMax hz =>
      exact ⟨low, other, belowHw⟩

theorem hz_fits (call : FreqCall) :
    int64Min ≤ call.hz ∧ call.hz ≤ int64Max := by
  cases call with
  | setMin hz | setMax hz =>
      exact hz.2

/-- The frequency in kHz of an admitted call is a 64-bit value. -/
theorem khz_fits
    {call : FreqCall} (nonneg : 0 ≤ call.hz) :
    int64Min ≤ call.hz / 1000 ∧ call.hz / 1000 ≤ int64Max := by
  have fits := call.hz_fits
  unfold int64Min int64Max at *
  omega

end FreqCall

/-! ## Files -/

variable {σ : Type}

def minFreqPath (cpu : CpuHandle) : CStr := cpuPath cpu "cpufreq/scaling_min_freq"
def maxFreqPath (cpu : CpuHandle) : CStr := cpuPath cpu "cpufreq/scaling_max_freq"

/-- The cpufreq files of a CPU hold these limits. -/
structure CpuFiles (os : Os σ) (sys : σ) (cpu : CpuHandle) (b : FreqBounds) : Prop where
  hwMin : HoldsInt os sys (cpuPath cpu "cpufreq/cpuinfo_min_freq") b.hwMin
  hwMax : HoldsInt os sys (cpuPath cpu "cpufreq/cpuinfo_max_freq") b.hwMax
  low : HoldsInt os sys (minFreqPath cpu) b.low
  high : HoldsInt os sys (maxFreqPath cpu) b.high

/-- The kernel keeps what it accepts in a CPU's two limit files. -/
structure StoresLimits (os : Os σ) (cpu : CpuHandle) : Prop where
  min : os.StoresVerbatim (resolvePath os.sysfsRoot (minFreqPath cpu))
  max : os.StoresVerbatim (resolvePath os.sysfsRoot (maxFreqPath cpu))

/-- The index of a CPU handle is an `int`. -/
def CpuHandle.Int32 (cpu : CpuHandle) : Prop :=
  0 ≤ cpu.index ∧ cpu.index ≤ 2147483647

theorem CpuHandle.Int32.fits
    {cpu : CpuHandle} (int32 : cpu.Int32) :
    int64Min ≤ cpu.index ∧ cpu.index ≤ int64Max := by
  obtain ⟨low, high⟩ := int32
  unfold int64Min int64Max
  omega

/-- The path of a short attribute is not cut. -/
theorem cpuPath_eq
    {cpu : CpuHandle} (int32 : cpu.Int32)
    {suffix : CStr} (short : suffix.length ≤ 40) :
    cpuPath cpu suffix =
      "/sys/devices/system/cpu/cpu".toList ++ showInt cpu.index ++ '/' :: suffix := by
  have printed := showInt_length int32.fits.1 int32.fits.2
  unfold cpuPath bounded
  rw [List.take_of_length_le]
  simp only [List.length_append, List.length_cons, String.length_toList]
  have : "/sys/devices/system/cpu/cpu".length = 27 := by decide
  omega

/-- Attribute files of CPUs stay apart when they are redirected. -/
theorem resolve_cpuPath_injective
    {cpu other : CpuHandle} (int32 : cpu.Int32) (otherInt32 : other.Int32)
    {first second : CStr}
    (firstShort : first.length ≤ 40)
    (secondShort : second.length ≤ 40)
    {sysfsRoot : Option CStr}
    (same : resolvePath sysfsRoot (cpuPath cpu first) =
      resolvePath sysfsRoot (cpuPath other second)) :
    cpu = other ∧ first = second := by
  have sysPath : ∀ {cpu : CpuHandle} {suffix : CStr}, cpu.Int32 → suffix.length ≤ 40 →
      startsWith "/sys/" (cpuPath cpu suffix) = true ∧ (cpuPath cpu suffix).length < 256 := by
    intro cpu suffix int32 short
    refine ⟨?_, ?_⟩
    · rw [cpuPath_eq int32 short]
      rfl
    · simp only [cpuPath, bounded, List.length_take]
      omega
  have equal := resolvePath_injective sysfsRoot (sysPath int32 firstShort).1
    (sysPath otherInt32 secondShort).1 (sysPath int32 firstShort).2
    (sysPath otherInt32 secondShort).2 same
  rw [cpuPath_eq int32 firstShort, cpuPath_eq otherInt32 secondShort, List.append_assoc,
    List.append_assoc] at equal
  have tails := List.append_cancel_left equal
  -- the number ends at the first slash
  have number : ∀ (index : Int) (suffix : CStr),
      (showInt index ++ '/' :: suffix).takeWhile (· ≠ '/') = showInt index := by
    intro index suffix
    rw [List.takeWhile_append_of_pos]
    · simp
    · intro c member
      rcases showInt_chars index c member with digit | rfl
      · simp only [ne_eq, decide_not, Bool.not_eq_eq_eq_not, Bool.not_true,
          decide_eq_false_iff_not]
        rintro rfl
        exact absurd digit (by decide)
      · decide
  have numbers : showInt cpu.index = showInt other.index := by
    rw [← number cpu.index first, ← number other.index second, tails]
  have indices : cpu.index = other.index :=
    showInt_injective int32.fits.1 int32.fits.2 otherInt32.fits.1 otherInt32.fits.2 numbers
  rw [numbers] at tails
  refine ⟨?_, (List.cons.inj (List.append_cancel_left tails)).2⟩
  cases cpu
  cases other
  exact congrArg CpuHandle.mk indices

theorem resolve_cpuPath_ne
    {cpu : CpuHandle} (int32 : cpu.Int32)
    (first second : CStr)
    (firstShort : first.length ≤ 40)
    (secondShort : second.length ≤ 40)
    (different : first ≠ second)
    (sysfsRoot : Option CStr) :
    resolvePath sysfsRoot (cpuPath cpu first) ≠ resolvePath sysfsRoot (cpuPath cpu second) :=
  fun same => different (resolve_cpuPath_injective int32 int32 firstShort secondShort same).2

/-! ## One call -/

section OneCall

variable {os : Os σ} {sys : σ} {cpu : CpuHandle} {b : FreqBounds}

/-- Inside the hardware range the check delivers kHz, and changes only `errno`. -/
theorem checkHardwareRange_inside
    (files : CpuFiles os sys cpu b)
    (hz : Int)
    (inside : 0 ≤ hz ∧ b.hwMin ≤ hz / 1000 ∧ hz / 1000 ≤ b.hwMax)
    (caller : CStr) (proc : Proc) :
    checkHardwareRange cpu hz caller os sys proc =
      (.value (hz / 1000), { proc with errno := 0 }) := by
  have negative : ¬ hz < 0 := by omega
  have below : ¬ hz / 1000 < b.hwMin := by omega
  have above : ¬ b.hwMax < hz / 1000 := by omega
  simp only [checkHardwareRange, negative, ↓reduceIte, Int.tdiv_eq_ediv_of_nonneg inside.1,
    readCpuinfoBound, GetM.bind_run, readFileI64_holds files.hwMin,
    readFileI64_holds files.hwMax, below, above]
  rfl

/-- Outside it the check fails. -/
theorem checkHardwareRange_outside
    (files : CpuFiles os sys cpu b)
    (hz : Int)
    (outside : ¬ (0 ≤ hz ∧ b.hwMin ≤ hz / 1000 ∧ hz / 1000 ≤ b.hwMax))
    (caller : CStr) (proc : Proc) :
    ∃ later, checkHardwareRange cpu hz caller os sys proc = (.failed, later) := by
  by_cases negative : hz < 0
  · simp only [checkHardwareRange, negative, ↓reduceIte]
    exact ⟨_, rfl⟩
  · have nonneg : 0 ≤ hz := by omega
    simp only [checkHardwareRange, negative, ↓reduceIte, Int.tdiv_eq_ediv_of_nonneg nonneg,
      readCpuinfoBound, GetM.bind_run, readFileI64_holds files.hwMin,
      readFileI64_holds files.hwMax]
    by_cases below : hz / 1000 < b.hwMin
    · simp only [below, ↓reduceIte]
      exact ⟨_, rfl⟩
    · have above : b.hwMax < hz / 1000 := by omega
      simp only [below, above, ↓reduceIte]
      exact ⟨_, rfl⟩

/-- The file a call writes. -/
def FreqCall.path (cpu : CpuHandle) : FreqCall → CStr
  | .setMin _ => minFreqPath cpu
  | .setMax _ => maxFreqPath cpu

/-- An admitted call is the write of the new limit. -/
theorem FreqCall.run_admitted
    (files : CpuFiles os sys cpu b)
    {call : FreqCall}
    (admitted : call.Admitted b)
    (proc : Proc) :
    call.run cpu os sys proc =
      writeFileI64 (call.path cpu) (call.hz / 1000) os sys { proc with errno := 0 } := by
  obtain ⟨nonneg, aboveHw, belowHw, other⟩ := admitted
  cases call with
  | setMin hz =>
      have checked := checkHardwareRange_inside files hz.1 ⟨nonneg, aboveHw, belowHw⟩
        "zenctl_cpu_set_freq_min" proc
      have inside : ¬ b.high < hz.1 / 1000 := by
        have : hz.1 / 1000 ≤ b.high := other
        omega
      have read := readFileI64_holds files.high
      simp only [maxFreqPath] at read
      simp only [run, zenctlCpuSetFreqMin, SetM.bind_run, getting_run, checked, read, inside,
        ↓reduceIte]
      rfl
  | setMax hz =>
      have checked := checkHardwareRange_inside files hz.1 ⟨nonneg, aboveHw, belowHw⟩
        "zenctl_cpu_set_freq_max" proc
      have inside : ¬ hz.1 / 1000 < b.low := by
        have : b.low ≤ hz.1 / 1000 := other
        omega
      have read := readFileI64_holds files.low
      simp only [minFreqPath] at read
      simp only [run, zenctlCpuSetFreqMax, SetM.bind_run, getting_run, checked, read, inside,
        ↓reduceIte]
      rfl

/-- A call that is not admitted fails before it writes. -/
theorem FreqCall.run_refused
    (files : CpuFiles os sys cpu b)
    {call : FreqCall}
    (refused : ¬ call.Admitted b)
    (proc : Proc) :
    (call.run cpu os sys proc).1 = .failed ∧ (call.run cpu os sys proc).2.1 = sys := by
  by_cases inRange : 0 ≤ call.hz ∧ b.hwMin ≤ call.hz / 1000 ∧ call.hz / 1000 ≤ b.hwMax
  · -- inside the hardware range, so it is on the wrong side of the other limit
    cases call with
    | setMin hz =>
        have checked := checkHardwareRange_inside files hz.1 inRange
          "zenctl_cpu_set_freq_min" proc
        have outside : b.high < hz.1 / 1000 := by
          by_contra inside
          exact refused ⟨inRange.1, inRange.2.1, inRange.2.2, not_lt.mp inside⟩
        have read := readFileI64_holds files.high
        simp only [maxFreqPath] at read
        simp only [run, zenctlCpuSetFreqMin, SetM.bind_run, getting_run, checked, read, outside,
          ↓reduceIte]
        exact ⟨rfl, trivial⟩
    | setMax hz =>
        have checked := checkHardwareRange_inside files hz.1 inRange
          "zenctl_cpu_set_freq_max" proc
        have outside : hz.1 / 1000 < b.low := by
          by_contra inside
          exact refused ⟨inRange.1, inRange.2.1, inRange.2.2, not_lt.mp inside⟩
        have read := readFileI64_holds files.low
        simp only [minFreqPath] at read
        simp only [run, zenctlCpuSetFreqMax, SetM.bind_run, getting_run, checked, read, outside,
          ↓reduceIte]
        exact ⟨rfl, trivial⟩
  · cases call with
    | setMin hz =>
        obtain ⟨later, checked⟩ := checkHardwareRange_outside files hz.1 inRange
          "zenctl_cpu_set_freq_min" proc
        simp only [run, zenctlCpuSetFreqMin, SetM.bind_run, getting_run, checked, and_self]
    | setMax hz =>
        obtain ⟨later, checked⟩ := checkHardwareRange_outside files hz.1 inRange
          "zenctl_cpu_set_freq_max" proc
        simp only [run, zenctlCpuSetFreqMax, SetM.bind_run, getting_run, checked, and_self]

/-- Both limit files read as before. -/
def SameLimits (os : Os σ) (cpu : CpuHandle) (sys later : σ) : Prop :=
  os.openRead later (resolvePath os.sysfsRoot (minFreqPath cpu)) =
      os.openRead sys (resolvePath os.sysfsRoot (minFreqPath cpu)) ∧
    os.openRead later (resolvePath os.sysfsRoot (maxFreqPath cpu)) =
      os.openRead sys (resolvePath os.sysfsRoot (maxFreqPath cpu))

/-- A write of one limit that leaves every other file alone moves to the new limits. -/
theorem CpuFiles.after_write
    (int32 : cpu.Int32)
    (files : CpuFiles os sys cpu b)
    {call : FreqCall} {later : σ} {newline : List Char}
    (nonneg : 0 ≤ call.hz)
    (ending : newline = [] ∨ newline = ['\n'])
    (stored : Holds os later (call.path cpu) (showInt (call.hz / 1000) ++ newline))
    (others : SameFilesBut os (resolvePath os.sysfsRoot (call.path cpu)) sys later) :
    CpuFiles os later cpu (call.after b) := by
  have fits := call.khz_fits nonneg
  have written := HoldsInt.of_printed fits.1 fits.2 ending stored
  have apart := resolve_cpuPath_ne int32
  cases call with
  | setMin hz =>
      exact ⟨files.hwMin.of_same (others.1 _ (apart _ _ (by decide) (by decide) (by decide) _)),
        files.hwMax.of_same (others.1 _ (apart _ _ (by decide) (by decide) (by decide) _)),
        written,
        files.high.of_same (others.1 _ (apart _ _ (by decide) (by decide) (by decide) _))⟩
  | setMax hz =>
      exact ⟨files.hwMin.of_same (others.1 _ (apart _ _ (by decide) (by decide) (by decide) _)),
        files.hwMax.of_same (others.1 _ (apart _ _ (by decide) (by decide) (by decide) _)),
        files.low.of_same (others.1 _ (apart _ _ (by decide) (by decide) (by decide) _)),
        written⟩

theorem StoresLimits.path
    (stores : StoresLimits os cpu) (call : FreqCall) :
    os.StoresVerbatim (resolvePath os.sysfsRoot (call.path cpu)) := by
  cases call with
  | setMin hz =>
      exact stores.min
  | setMax hz =>
      exact stores.max

/-- One call fails and changes neither limit, or moves to the abstract successor state. -/
theorem FreqCall.run_step
    (int32 : cpu.Int32)
    (stores : StoresLimits os cpu)
    (files : CpuFiles os sys cpu b)
    (call : FreqCall)
    (proc : Proc) :
    ((call.run cpu os sys proc).1 = .failed ∧
        os.openRead (call.run cpu os sys proc).2.1 = os.openRead sys) ∨
      ((call.run cpu os sys proc).1 = .value () ∧ call.Admitted b ∧
        CpuFiles os (call.run cpu os sys proc).2.1 cpu (call.after b)) := by
  by_cases admitted : call.Admitted b
  · obtain ⟨changed, success, failure⟩ := writeFileString_run os sys { proc with errno := 0 }
      (call.path cpu) (showInt (call.hz / 1000))
    rw [FreqCall.run_admitted files admitted proc, writeFileI64, changed]
    by_cases done : (os.writeFile sys (resolvePath os.sysfsRoot (call.path cpu))
        (showInt (call.hz / 1000))).1 = .done
    · right
      obtain ⟨⟨newline, ending, stored⟩, others⟩ :=
        (stores.path call).accepted _ _ (showInt_ne_nil _) done
      exact ⟨(success done).1, admitted,
        files.after_write int32 admitted.1 ending stored others⟩
    · left
      exact ⟨failure done, ((stores.path call).refused _ _ done).1⟩
  · left
    obtain ⟨failed, same⟩ := FreqCall.run_refused files admitted proc
    exact ⟨failed, by rw [same]⟩

theorem getFreqMin_files
    (files : CpuFiles os sys cpu b) (proc : Proc) :
    (zenctlCpuGetFreqMin cpu os sys proc).1 = .value (toInt64 (b.low * 1000)) := by
  have read := readFileI64_holds files.low
  simp only [minFreqPath] at read
  simp only [zenctlCpuGetFreqMin, getFreq, GetM.bind_run, read]
  rfl

theorem getFreqMax_files
    (files : CpuFiles os sys cpu b) (proc : Proc) :
    (zenctlCpuGetFreqMax cpu os sys proc).1 = .value (toInt64 (b.high * 1000)) := by
  have read := readFileI64_holds files.high
  simp only [maxFreqPath] at read
  simp only [zenctlCpuGetFreqMax, getFreq, GetM.bind_run, read]
  rfl

/-- After a successful call the getters deliver the abstract successor state. -/
theorem FreqCall.get_after
    (files : CpuFiles os sys cpu b)
    {later : σ} {call : FreqCall}
    (nonneg : 0 ≤ call.hz)
    (moved : CpuFiles os later cpu (call.after b))
    (proc : Proc) :
    (call.get cpu os later proc).1 = .value (1000 * (call.hz / 1000)) ∧
      (call.getOther cpu os later proc).1 = (call.getOther cpu os sys proc).1 := by
  have fits := call.hz_fits
  have exactly : toInt64 (call.hz / 1000 * 1000) = 1000 * (call.hz / 1000) := by
    rw [toInt64_of_fits, Int.mul_comm]
    · unfold int64Min
      omega
    · unfold int64Max at *
      omega
  cases call with
  | setMin hz =>
      exact ⟨by rw [← exactly]; exact getFreqMin_files moved proc,
        (getFreqMax_files moved proc).trans (getFreqMax_files files proc).symm⟩
  | setMax hz =>
      exact ⟨by rw [← exactly]; exact getFreqMax_files moved proc,
        (getFreqMin_files moved proc).trans (getFreqMin_files files proc).symm⟩

end OneCall

/-! ## Runs -/

/-- The states a finite sequence of calls leads to; the process memory is free at each call. -/
inductive FreqRun (os : Os σ) (cpu : CpuHandle) (sys : σ) : σ → Prop
  | start : FreqRun os cpu sys sys
  | call {reached : σ} (run : FreqRun os cpu sys reached) (call : FreqCall) (proc : Proc) :
      FreqRun os cpu sys (call.run cpu os reached proc).2.1

/-- Along a run the files hold ordered limits inside the same hardware range. -/
theorem FreqRun.files
    {os : Os σ} {sys later : σ} {cpu : CpuHandle} {b : FreqBounds}
    (int32 : cpu.Int32)
    (stores : StoresLimits os cpu)
    (files : CpuFiles os sys cpu b)
    (ordered : b.Ordered)
    (run : FreqRun os cpu sys later) :
    ∃ c, CpuFiles os later cpu c ∧ c.Ordered ∧ c.hwMin = b.hwMin ∧ c.hwMax = b.hwMax := by
  induction run with
  | start =>
      exact ⟨b, files, ordered, rfl, rfl⟩
  | call run call proc inductionHypothesis =>
      obtain ⟨c, reached, inOrder, sameMin, sameMax⟩ := inductionHypothesis
      rcases FreqCall.run_step int32 stores reached call proc with
        ⟨_, same⟩ | ⟨_, admitted, moved⟩
      · exact ⟨c, ⟨reached.hwMin.of_same (by rw [same]), reached.hwMax.of_same (by rw [same]),
          reached.low.of_same (by rw [same]), reached.high.of_same (by rw [same])⟩,
          inOrder, sameMin, sameMax⟩
      · refine ⟨call.after c, moved, FreqCall.after_ordered inOrder admitted, ?_, ?_⟩
        · cases call <;> exact sameMin
        · cases call <;> exact sameMax

/--
From ordered limits, every run of the two setters keeps the limits ordered.  In
every state it reaches, a further call that fails leaves both files as they
are, and one that succeeds sets its own limit to the requested frequency in
whole kHz and not the other one.
-/
theorem freqRun_ordered
    {os : Os σ} {sys later : σ} {cpu : CpuHandle} {b : FreqBounds}
    (int32 : cpu.Int32)
    (stores : StoresLimits os cpu)
    (files : CpuFiles os sys cpu b)
    (ordered : b.Ordered)
    (run : FreqRun os cpu sys later) :
    (∃ c, CpuFiles os later cpu c ∧ c.Ordered ∧ c.hwMin = b.hwMin ∧ c.hwMax = b.hwMax) ∧
      ∀ (call : FreqCall) (proc : Proc),
        ((call.run cpu os later proc).1 = .failed ∧
            SameLimits os cpu later (call.run cpu os later proc).2.1) ∨
          ((call.run cpu os later proc).1 = .value () ∧
            ∀ next, (call.get cpu os (call.run cpu os later proc).2.1 next).1 =
                .value (1000 * (call.hz / 1000)) ∧
              (call.getOther cpu os (call.run cpu os later proc).2.1 next).1 =
                (call.getOther cpu os later next).1) := by
  obtain ⟨c, reached, rest⟩ := run.files int32 stores files ordered
  refine ⟨⟨c, reached, rest⟩, ?_⟩
  intro call proc
  rcases FreqCall.run_step int32 stores reached call proc with
    ⟨failed, same⟩ | ⟨success, admitted, moved⟩
  · exact .inl ⟨failed, by rw [same], by rw [same]⟩
  · exact .inr ⟨success, fun next => FreqCall.get_after reached admitted.1 moved next⟩

/-! ## A small machine -/

/-- Files in memory: every write is accepted and kept. -/
def memoryOs : Os (CStr → Option (List Char)) where
  sysfsRoot := none
  strerror _ := "error"
  openRead files path :=
    match files path with
    | some bytes => .ok ⟨bytes, none⟩
    | none => .error Errno.enoent
  writeFile files path text := (.done, Function.update files path (some text))
  access _ _ _ := .ok ()
  listDir _ _ := .error Errno.enoent
  readlink _ _ := .error Errno.enoent
  inetSocket _ := .error Errno.eacces
  getRing _ _ := .error Errno.enotsup
  setRing files _ _ := (.error Errno.enotsup, files)
  getFlag _ _ _ := .error Errno.enotsup
  setFlag files _ _ _ := (.error Errno.enotsup, files)
  nvml := noNvml
  openNode _ _ := .error Errno.enoent
  resetNode files _ := (.error Errno.enoent, files)
  hciSocket _ := .error Errno.eafnosupport
  hciInfo _ _ := .error Errno.enodev
  hciPower files _ _ := (.error Errno.enodev, files)
  netlinkSocket _ := .error Errno.eprotonosupport
  netlinkGet _ _ := ⟨.error Errno.eio, []⟩
  netlinkSet files _ := (⟨.error Errno.eio, []⟩, files)
  writeBinary files path text := (.done, Function.update files path (some text))
  isEfivarfs _ _ := .error Errno.enoent
  isFile files path := (files path).isSome
  isDir _ _ := false
  getFlags _ _ := .ioctlFailed Errno.enotty
  setFlags files _ _ := (.ioctlFailed Errno.enotty, files)
  unlink files path := (.ok (), Function.update files path none)

theorem memoryOs_stores (path : CStr) :
    memoryOs.StoresVerbatim path where
  accepted files text _ _ := by
    refine ⟨⟨[], .inl rfl, by simp [memoryOs]⟩, ?_, fun _ _ => rfl⟩
    intro other different
    simp [memoryOs, Function.update_of_ne different]
  refused files text refused := (refused rfl).elim

/-- The first CPU between 800 MHz and 3.6 GHz, limited to 1.2 GHz and 2.4 GHz. -/
def smallCpuFiles : CStr → Option (List Char) := fun path =>
  if path = cpuPath ⟨0⟩ "cpufreq/cpuinfo_min_freq" then some "800000\n".toList
  else if path = cpuPath ⟨0⟩ "cpufreq/cpuinfo_max_freq" then some "3600000\n".toList
  else if path = minFreqPath ⟨0⟩ then some "1200000\n".toList
  else if path = maxFreqPath ⟨0⟩ then some "2400000\n".toList
  else none

theorem smallCpuFiles_hold :
    CpuFiles memoryOs smallCpuFiles ⟨0⟩ ⟨800000, 1200000, 2400000, 3600000⟩ where
  hwMin := ⟨"800000\n".toList, ⟨800000, [], false⟩, by rfl, by decide, rfl, rfl⟩
  hwMax := ⟨"3600000\n".toList, ⟨3600000, [], false⟩, by rfl, by decide, rfl, rfl⟩
  low := ⟨"1200000\n".toList, ⟨1200000, [], false⟩, by rfl, by decide, rfl, rfl⟩
  high := ⟨"2400000\n".toList, ⟨2400000, [], false⟩, by rfl, by decide, rfl, rfl⟩

/-- One call on that machine, and what a second one can do. -/
theorem freqRun_ordered_small :
    let call := FreqCall.setMax ⟨3000000999, by decide⟩
    let later := (call.run ⟨0⟩ memoryOs smallCpuFiles ⟨0, Err.zero, [], false, none⟩).2.1
    ∃ c, CpuFiles memoryOs later ⟨0⟩ c ∧ c.Ordered ∧ c.hwMin = 800000 ∧ c.hwMax = 3600000 :=
  (freqRun_ordered ⟨by decide, by decide⟩
    ⟨memoryOs_stores _, memoryOs_stores _⟩ smallCpuFiles_hold ⟨by decide, by decide, by decide⟩
    (.call .start _ _)).1

end Zenctl
