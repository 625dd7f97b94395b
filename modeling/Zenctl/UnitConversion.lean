import Zenctl.KernelLimits

namespace Zenctl

open CString

/-!
# Unit conversions

Some getters read a number in the kernel's unit and deliver it in the unit of
the interface.  The number is compared here with what is delivered, as integers
without a bound.
-/

variable {σ α β : Type}

/-! ## Integers in a text -/

/-- The integer at the start of a text: white space, an optional sign, digits. -/
def leadingInt (text : CStr) : Option Int :=
  let signed := splitSign (text.dropWhile isSpace)
  let digits := signed.2.takeWhile isDigit
  if digits = [] then none
  else some (if signed.1 then -(digitsValue digits : Int) else digitsValue digits)

/-- What the libc makes of an integer that is too large. -/
def clamped (value : Int) : Int :=
  max int64Min (min value int64Max)

theorem clamp_value (value : Int) (rest : CStr) :
    (clamp value rest).value = clamped value := by
  have low : int64Min = -9223372036854775808 := rfl
  have high : int64Max = 9223372036854775807 := rfl
  unfold clamp clamped
  split
  · dsimp only
    omega
  · split
    · dsimp only
      omega
    · dsimp only
      omega

theorem scanInt_leading (text : CStr) :
    (scanInt text).map Prod.fst = (leadingInt text).map clamped := by
  unfold scanInt strtoll leadingInt
  dsimp only
  split
  · rfl
  · simp only [Option.map_some, clamp_value]

theorem fits_of_eq
    {value factor : Int} (exact : toInt64 (clamped value * factor) = value * factor) :
    int64Min ≤ value * factor ∧ value * factor ≤ int64Max := by
  rw [← exact]
  exact toInt64_bounds _

/-- A product that fits is exact. -/
theorem eq_of_fits
    {value factor : Int} (positive : 0 < factor)
    (low : int64Min ≤ value * factor) (high : value * factor ≤ int64Max) :
    toInt64 (clamped value * factor) = value * factor := by
  have lowIs : int64Min = -9223372036854775808 := rfl
  have highIs : int64Max = 9223372036854775807 := rfl
  have inside : clamped value = value := by
    have above : int64Min ≤ value := by
      by_contra below
      have scaled : value * factor ≤ value := by nlinarith
      omega
    have under : value ≤ int64Max := by
      by_contra beyond
      have scaled : value ≤ value * factor := by nlinarith
      omega
    unfold clamped
    omega
  rw [inside]
  exact toInt64_of_fits low high

/-! ## Getters -/

inductive UnitGetter where
  | cpuFreqMin (cpu : CpuHandle)
  | cpuFreqMax (cpu : CpuHandle)
  | hugepageSize
  | numaTotal (node : Int)
  | numaFree (node : Int)
  | tripHysteresis (tz : ThermalHandle) (index : Int)
  | gpuFreq (gpu : GpuHandle)

/-- The number on a line `Hugepagesize: <number> kB`. -/
def hugepageNumber (line : CStr) : Option Int := do
  let rest ← scanText "Hugepagesize:" line
  leadingInt rest

/-- The number on a line `Node <number> <label> <number> kB`. -/
def nodeNumber (label line : CStr) : Option Int := do
  let rest ← scanText "Node" line
  let (_, rest) ← scanInt rest
  let rest ← scanText label (scanBlank rest)
  leadingInt rest

namespace UnitGetter

def run : UnitGetter → GetM σ Int
  | cpuFreqMin cpu => zenctlCpuGetFreqMin cpu
  | cpuFreqMax cpu => zenctlCpuGetFreqMax cpu
  | hugepageSize => zenctlMemGetHugepageSize
  | numaTotal node => do
      let found ← zenctlMemNumaGetNode node
      pure found.memTotal
  | numaFree node => do
      let found ← zenctlMemNumaGetNode node
      pure found.memFree
  | tripHysteresis tz index => do
      let trip ← zenctlThermalGetTrip tz index
      pure trip.hysteresis
  | gpuFreq gpu => zenctlGpuGetFreq gpu

/-- The last line of a node's `meminfo` with a label. -/
def nodeReading (os : Os σ) (sys : σ) (node : Int) (label : CStr) : Option Int :=
  let dir := nodeDir ++ "/node".toList ++ showInt node
  if node < 0 then none
  else
    match os.access sys (bounded 256 dir) .present,
      os.openRead sys (bounded 256 (dir ++ "/meminfo".toList)) with
    | .ok _, .ok file => (file.lines 512).reverse.findSome? (nodeNumber label)
    | _, _ => none

/-- The number the kernel has for the getter, when the call gets to see it. -/
def reading (os : Os σ) (sys : σ) (proc : Proc) : UnitGetter → Option Int
  | cpuFreqMin cpu => fileInt os sys (cpuPath cpu "cpufreq/scaling_min_freq")
  | cpuFreqMax cpu => fileInt os sys (cpuPath cpu "cpufreq/scaling_max_freq")
  | hugepageSize =>
      match os.openRead sys "/proc/meminfo" with
      | .ok file => (file.lines 256).findSome? hugepageNumber
      | .error _ => none
  | numaTotal node => nodeReading os sys node "MemTotal:"
  | numaFree node => nodeReading os sys node "MemFree:"
  | tripHysteresis tz index =>
      if index < 0 ∨ fileInt os sys (tripPath tz index "temp") = none then none
      else fileInt os sys (tripPath tz index "hyst")
  | gpuFreq gpu =>
      match quietly (gpuHwmon gpu) os sys proc with
      | (.value (some hw), _) => fileInt os sys (hwmonAttr hw "freq1_input")
      | _ => none

/-- The value is the number in the unit of the interface. -/
def Exact (number value : Int) : UnitGetter → Prop
  | cpuFreqMin _ | cpuFreqMax _ | tripHysteresis _ _ => value = number * 1000
  | hugepageSize | numaTotal _ | numaFree _ => value = number * 1024
  | gpuFreq _ => value * 1000 = number

/-- Where the conversion is exact. -/
def Fits (number : Int) : UnitGetter → Prop
  | cpuFreqMin _ | cpuFreqMax _ | tripHysteresis _ _ =>
      int64Min ≤ number * 1000 ∧ number * 1000 ≤ int64Max
  | hugepageSize | numaTotal _ | numaFree _ =>
      int64Min ≤ number * 1024 ∧ number * 1024 ≤ int64Max
  | gpuFreq _ => number = 0 ∨ (100000 < number ∧ number % 1000 = 0)

/-- What the code makes of the number. -/
def computed (number : Int) : UnitGetter → Int
  | cpuFreqMin _ | cpuFreqMax _ | tripHysteresis _ _ => toInt64 (clamped number * 1000)
  | hugepageSize | numaTotal _ | numaFree _ => toInt64 (clamped number * 1024)
  | gpuFreq _ => if 100000 < number then number.tdiv 1000 else number

end UnitGetter

/-- The getter fails or delivers the number it reads, in its own unit. -/
def ConvertsExactly (os : Os σ) (sys : σ) (getter : UnitGetter) : Prop :=
  ∀ proc number, getter.reading os sys proc = some number →
    (∃ later, getter.run os sys proc = (.failed, later)) ∨
      ∃ value later, getter.run os sys proc = (.value value, later) ∧ getter.Exact number value

theorem UnitGetter.exact_computed_iff (getter : UnitGetter) (number : Int) :
    getter.Exact number (getter.computed number) ↔ getter.Fits number := by
  have scaled : ∀ factor : Int, 0 < factor →
      (toInt64 (clamped number * factor) = number * factor ↔
        int64Min ≤ number * factor ∧ number * factor ≤ int64Max) :=
    fun factor positive => ⟨fits_of_eq, fun fits => eq_of_fits positive fits.1 fits.2⟩
  cases getter with
  | cpuFreqMin cpu => exact scaled 1000 (by decide)
  | cpuFreqMax cpu => exact scaled 1000 (by decide)
  | hugepageSize => exact scaled 1024 (by decide)
  | numaTotal node => exact scaled 1024 (by decide)
  | numaFree node => exact scaled 1024 (by decide)
  | tripHysteresis tz index => exact scaled 1000 (by decide)
  | gpuFreq gpu =>
      dsimp only [UnitGetter.Exact, UnitGetter.computed, UnitGetter.Fits]
      split
      · rw [Int.tdiv_eq_ediv_of_nonneg (by omega)]
        omega
      · omega

/-! ## Runs -/

section Runs

variable {os : Os σ} {sys : σ}

/-- The getter delivers what it computes, or fails where the conversion is exact. -/
def UnitGetter.Delivers (os : Os σ) (sys : σ) (getter : UnitGetter) : Prop :=
  ∀ proc number, getter.reading os sys proc = some number →
    (∃ later, getter.run os sys proc = (.value (getter.computed number), later)) ∨
      ((∃ later, getter.run os sys proc = (.failed, later)) ∧ getter.Fits number)

theorem fileInt_fits
    {path : CStr} {value : Int} (found : fileInt os sys path = some value) :
    clamped value = value := by
  have low : int64Min = -9223372036854775808 := rfl
  have high : int64Max = 9223372036854775807 := rfl
  unfold fileInt at found
  split at found
  · cases found
  · split at found
    · rename_i parsed read
      split at found
      · cases found
      · have bounds := strtoll_bounds read
        have valueIs := Option.some.inj found
        unfold clamped
        omega
    · cases found

theorem readFileI64_reads
    {path : CStr} {value : Int} (found : fileInt os sys path = some value) (proc : Proc) :
    ∃ later, readFileI64 path os sys proc = (.value value, later) := by
  have read := readFileI64_int os sys path proc
  rw [found] at read
  obtain ⟨later, run, -⟩ := read
  exact ⟨later, run⟩

theorem getFreq_delivers
    {cpu : CpuHandle} {file : CStr} {khz : Int}
    (found : fileInt os sys (cpuPath cpu file) = some khz) (proc : Proc) :
    ∃ later, getFreq cpu file os sys proc = (.value (toInt64 (clamped khz * 1000)), later) := by
  obtain ⟨later, run⟩ := readFileI64_reads found proc
  rw [fileInt_fits found]
  exact ⟨later, GetM.bind_value run⟩

/-! ### `/proc/meminfo` -/

theorem openPath_opens
    {path : CStr} {file : OpenFile} (opened : os.openRead sys path = .ok file) (proc : Proc) :
    openPath path os sys proc = (.value file, proc) := by
  unfold openPath sysCallOr
  exact GetM.bind_value (sysCall_ok opened)

theorem scanHugepagesize_number (line : CStr) :
    scanHugepagesize line = (hugepageNumber line).map clamped := by
  unfold scanHugepagesize hugepageNumber
  cases scanText "Hugepagesize:" line with
  | none => rfl
  | some rest =>
      have scanned := scanInt_leading rest
      simp only [Option.bind_eq_bind, Option.bind_some]
      rw [← scanned]
      cases scanInt rest <;> rfl

theorem clamped_eq_zero {value : Int} (zero : clamped value = 0) :
    value = 0 := by
  have low : int64Min = -9223372036854775808 := rfl
  have high : int64Max = 9223372036854775807 := rfl
  unfold clamped at zero
  omega

theorem hugepageSize_delivers :
    UnitGetter.hugepageSize.Delivers os sys := by
  intro proc number read
  dsimp only [UnitGetter.reading] at read
  split at read
  · rename_i file opened
    have scanned : (file.lines 256).findSome? scanHugepagesize = some (clamped number) := by
      have mapped := List.map_findSome? (f := hugepageNumber) (g := clamped) (l := file.lines 256)
      rw [funext scanHugepagesize_number]
      exact mapped.symm.trans (congrArg (Option.map clamped) read)
    by_cases zero : clamped number = 0
    · have fails : ∃ later, UnitGetter.hugepageSize.run os sys proc = (.failed, later) := by
        refine ⟨?later, (GetM.bind_value (openPath_opens opened proc)).trans ?run⟩
        case run =>
          rw [scanned, Option.getD_some, if_pos zero]
          rfl
      refine .inr ⟨fails, ?_⟩
      rw [clamped_eq_zero zero]
      exact ⟨by decide, by decide⟩
    · refine .inl ⟨proc, (GetM.bind_value (openPath_opens opened proc)).trans ?_⟩
      rw [scanned, Option.getD_some, if_neg zero]
      rfl
  · cases read

/-! ### A node's `meminfo` -/

theorem scanNodeLine_number (label line : CStr) :
    scanNodeLine label line =
      (nodeNumber label line).map fun kb => toInt64 (clamped kb * 1024) := by
  unfold scanNodeLine nodeNumber
  simp only [Option.bind_eq_bind]
  cases scanText "Node" line with
  | none => rfl
  | some rest =>
      simp only [Option.bind_some]
      cases scanInt rest with
      | none => rfl
      | some found =>
          simp only [Option.bind_some]
          cases scanText label (scanBlank found.2) with
          | none => rfl
          | some rest =>
              have scanned := scanInt_leading rest
              simp only [Option.bind_some]
              cases number : scanInt rest with
              | none =>
                  rw [number] at scanned
                  rw [Option.map_eq_none_iff.mp scanned.symm]
                  rfl
              | some kb =>
                  rw [number] at scanned
                  obtain ⟨value, is, same⟩ := Option.map_eq_some_iff.mp scanned.symm
                  rw [is]
                  simp only [Option.bind_some, Option.map_some, same]
                  rfl

theorem scanText_apart
    {text rest : CStr} (total : scanText "MemTotal:" text = some rest) :
    scanText "MemFree:" text = none := by
  unfold scanText at total ⊢
  split at total
  · rename_i starts
    obtain ⟨tail, rfl⟩ := List.isPrefixOf_iff_prefix.mp starts
    rfl
  · cases total

/-- A line is about one of the two labels at most. -/
theorem scanNodeLine_apart
    {line : CStr} {total : Int} (isTotal : scanNodeLine "MemTotal:" line = some total) :
    scanNodeLine "MemFree:" line = none := by
  unfold scanNodeLine at isTotal ⊢
  simp only [Option.bind_eq_bind] at isTotal ⊢
  obtain ⟨rest, node, isTotal⟩ := Option.bind_eq_some_iff.mp isTotal
  obtain ⟨found, index, isTotal⟩ := Option.bind_eq_some_iff.mp isTotal
  obtain ⟨tail, label, -⟩ := Option.bind_eq_some_iff.mp isTotal
  rw [node, Option.bind_some, index, Option.bind_some, scanText_apart label, Option.bind_none]

/-- The last line with a label decides a field. -/
theorem foldl_field
    {field : NumaNode → Int} {read : CStr → Option Int}
    (step : ∀ node line, field (scanNodeMeminfo node line) = (read line).getD (field node))
    (lines : List CStr) (node : NumaNode) :
    field (lines.foldl scanNodeMeminfo node) =
      (lines.reverse.findSome? read).getD (field node) := by
  induction lines generalizing node with
  | nil =>
      rfl
  | cons line lines inductionHypothesis =>
      rw [List.foldl_cons, inductionHypothesis, List.reverse_cons, List.findSome?_append, step]
      cases lines.reverse.findSome? read with
      | some value => rfl
      | none =>
          rw [Option.none_or, Option.getD_none, List.findSome?_cons, List.findSome?_nil]
          cases read line <;> rfl

theorem scanNodeMeminfo_total (node : NumaNode) (line : CStr) :
    (scanNodeMeminfo node line).memTotal =
      (scanNodeLine "MemTotal:" line).getD node.memTotal := by
  unfold scanNodeMeminfo
  cases scanNodeLine "MemTotal:" line with
  | some total => rfl
  | none => cases scanNodeLine "MemFree:" line <;> rfl

theorem scanNodeMeminfo_free (node : NumaNode) (line : CStr) :
    (scanNodeMeminfo node line).memFree =
      (scanNodeLine "MemFree:" line).getD node.memFree := by
  unfold scanNodeMeminfo
  cases total : scanNodeLine "MemTotal:" line with
  | some value =>
      rw [scanNodeLine_apart total]
      rfl
  | none => cases scanNodeLine "MemFree:" line <;> rfl

theorem numaGetNode_reads
    {node : Int} {label : CStr} {number : Int}
    (read : UnitGetter.nodeReading os sys node label = some number) (proc : Proc) :
    ∃ lines cpumask later, lines.reverse.findSome? (nodeNumber label) = some number ∧
      zenctlMemNumaGetNode node os sys proc =
        (.value { List.foldl scanNodeMeminfo ⟨node, 0, 0, []⟩ lines with cpumask := cpumask },
          later) := by
  unfold UnitGetter.nodeReading at read
  dsimp only at read
  split at read
  · cases read
  · rename_i nonneg
    split at read
    · rename_i present file accessed opened
      obtain ⟨cpulist, later, cpus⟩ := @quietly_readFileString σ os sys
        (bounded 256 (nodeDir ++ "/node".toList ++ showInt node ++ "/cpulist".toList)) 256 proc
      refine ⟨file.lines 512, cpulist.getD [], later, read, ?_⟩
      have here : (sysCallOr (fun os sys => os.access sys
          (bounded 256 (nodeDir ++ "/node".toList ++ showInt node)) .present)
          (some "NUMA node directory does not exist".toList)
          (bounded 256 (nodeDir ++ "/node".toList ++ showInt node))) os sys proc =
            (.value present, proc) := by
        unfold sysCallOr
        exact GetM.bind_value (sysCall_ok accessed)
      unfold zenctlMemNumaGetNode
      rw [if_neg nonneg]
      refine (GetM.bind_value here).trans ?_
      refine (GetM.bind_value (openPath_opens opened proc)).trans ?_
      exact GetM.bind_value cpus
    · cases read

theorem numaField_delivers
    {node : Int} {label : CStr} {number : Int} {field : NumaNode → Int}
    (step : ∀ node line, field (scanNodeMeminfo node line) =
      (scanNodeLine label line).getD (field node))
    (keeps : ∀ (node : NumaNode) cpumask, field { node with cpumask := cpumask } = field node)
    (read : UnitGetter.nodeReading os sys node label = some number) (proc : Proc) :
    ∃ later, (zenctlMemNumaGetNode node >>= fun found => pure (field found)) os sys proc =
      (.value (toInt64 (clamped number * 1024)), later) := by
  obtain ⟨lines, cpumask, later, last, run⟩ := numaGetNode_reads read proc
  refine ⟨later, (GetM.bind_value run).trans ?_⟩
  have mapped := List.map_findSome? (f := nodeNumber label)
    (g := fun kb => toInt64 (clamped kb * 1024)) (l := lines.reverse)
  rw [last] at mapped
  rw [keeps, foldl_field step, funext (scanNodeLine_number label)]
  exact congrArg (fun found : Option Int => (Outcome.value (found.getD _), later)) mapped.symm

/-! ### A trip point -/

theorem readHysteresis_reads
    {path : CStr} {degrees : Int} (found : fileInt os sys path = some degrees) (proc : Proc) :
    ∃ later, readHysteresis path os sys proc =
      (.value (toInt64 (clamped degrees * 1000)), later) := by
  obtain ⟨later, run⟩ := readFileI64_reads found { proc with err := Err.zero }
  unfold readHysteresis
  rw [run, fileInt_fits found]
  exact ⟨_, rfl⟩

theorem tripHysteresis_delivers (tz : ThermalHandle) (index : Int) :
    (UnitGetter.tripHysteresis tz index).Delivers os sys := by
  intro proc number read
  dsimp only [UnitGetter.reading] at read
  split at read
  · cases read
  · rename_i reached
    rw [not_or] at reached
    obtain ⟨nonneg, present⟩ := reached
    obtain ⟨temp, found⟩ := Option.ne_none_iff_exists'.mp present
    obtain ⟨first, tempRun⟩ := readFileI64_reads found proc
    obtain ⟨type, second, typeRun⟩ :=
      @quietly_readStringAlloc σ os sys (tripPath tz index "type") first
    obtain ⟨third, hystRun⟩ := readHysteresis_reads read second
    have trip : zenctlThermalGetTrip tz index os sys proc =
        (.value ⟨index, temp, bounded 32 (type.getD "unknown".toList),
          toInt64 (clamped number * 1000)⟩, third) := by
      unfold zenctlThermalGetTrip
      rw [if_neg nonneg]
      refine (GetM.bind_value tempRun).trans ?_
      refine (GetM.bind_value typeRun).trans ?_
      exact GetM.bind_value hystRun
    exact .inl ⟨third, GetM.bind_value trip⟩

/-! ### A graphics card -/

theorem gpuFreq_delivers (gpu : GpuHandle) :
    (UnitGetter.gpuFreq gpu).Delivers os sys := by
  intro proc number read
  dsimp only [UnitGetter.reading] at read
  split at read
  · rename_i hw later located
    obtain ⟨final, run⟩ := readFileI64_reads read later
    have first : quietly (do
        let v ← readFileI64 (hwmonAttr hw "freq1_input")
        pure (if 100000 < v then v.tdiv 1000 else v)) os sys later = _ :=
      quietly_value (GetM.bind_value run)
    refine .inl ⟨?later, ?delivers⟩
    case delivers =>
      refine (GetM.bind_value located).trans ?_
      refine (GetM.bind_value first).trans ?_
      rfl
  · cases read

end Runs

theorem UnitGetter.delivers (os : Os σ) (sys : σ) (getter : UnitGetter) :
    getter.Delivers os sys := by
  cases getter with
  | cpuFreqMin cpu => exact fun proc number read => .inl (getFreq_delivers read proc)
  | cpuFreqMax cpu => exact fun proc number read => .inl (getFreq_delivers read proc)
  | hugepageSize => exact hugepageSize_delivers
  | numaTotal node =>
      exact fun proc number read =>
        .inl (numaField_delivers scanNodeMeminfo_total (fun _ _ => rfl) read proc)
  | numaFree node =>
      exact fun proc number read =>
        .inl (numaField_delivers scanNodeMeminfo_free (fun _ _ => rfl) read proc)
  | tripHysteresis tz index => exact tripHysteresis_delivers tz index
  | gpuFreq gpu => exact gpuFreq_delivers gpu

theorem convertsExactly_iff (os : Os σ) (sys : σ) (getter : UnitGetter) :
    ConvertsExactly os sys getter ↔
      ∀ proc number, getter.reading os sys proc = some number → getter.Fits number := by
  constructor
  · intro exact proc number read
    rcases getter.delivers os sys proc number read with ⟨later, run⟩ | ⟨-, fits⟩
    · rcases exact proc number read with ⟨other, failed⟩ | ⟨value, other, delivered, same⟩
      · rw [run] at failed
        cases failed
      · rw [run] at delivered
        cases delivered
        exact (getter.exact_computed_iff number).mp same
    · exact fits
  · intro fits proc number read
    rcases getter.delivers os sys proc number read with ⟨later, run⟩ | ⟨failed, -⟩
    · exact .inr ⟨_, later, run, (getter.exact_computed_iff number).mpr (fits proc number read)⟩
    · exact .inl failed

/-- A card whose clock runs at 100 MHz. -/
def idleCardOs : Os Unit :=
  { bareOs with
    openRead := fun _ path =>
      if path = "/sys/class/hwmon/hwmon0/freq1_input".toList then .ok ⟨"100000\n".toList, none⟩
      else .error Errno.enoent }

def idleCard : GpuHandle :=
  ⟨0, "/sys/class/drm/card0", "/sys/class/drm/card0/device", some "amdgpu".toList,
    some "AMD".toList, some "/sys/class/hwmon/hwmon0".toList⟩

/-- A small number of kHz is delivered as if it were in MHz. -/
theorem gpuGetFreq_unconverted :
    ¬ConvertsExactly idleCardOs () (.gpuFreq idleCard) := by
  intro converts
  have read : (UnitGetter.gpuFreq idleCard).reading idleCardOs () freshProc = some 100000 := by
    decide +kernel
  have delivered : ((UnitGetter.gpuFreq idleCard).run idleCardOs () freshProc).1 =
      .value 100000 := by
    decide +kernel
  rcases converts freshProc 100000 read with ⟨later, failed⟩ | ⟨value, later, run, same⟩
  · rw [failed] at delivered
    cases delivered
  · rw [run] at delivered
    cases delivered
    have thousand : (100000 : Int) * 1000 = 100000 := same
    exact absurd thousand (by decide)

end Zenctl
