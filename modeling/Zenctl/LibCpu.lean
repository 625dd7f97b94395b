import Zenctl.LibIo

namespace Zenctl

open CString

/-!
# `cpu.c`

Frequencies are Hz at the interface and kHz in the kernel's files.
-/

variable {σ : Type}

def zenctlCpuOpen (index : Int) : GetM σ CpuHandle :=
  if index < 0 then raise Err.einval "cpu index must be >= 0" "zenctl_cpu_open"
  else do
    let path := bounded 128 ("/sys/devices/system/cpu/cpu".toList ++ showInt index)
    sysCallOr (fun os sys => os.access sys path .present)
      (some "CPU directory does not exist".toList) path
    allocateOr "calloc failed" "zenctl_cpu_open"
    pure ⟨index⟩

def cpuPath (cpu : CpuHandle) (suffix : CStr) : CStr :=
  bounded 128 ("/sys/devices/system/cpu/cpu".toList ++ showInt cpu.index ++ '/' :: suffix)

/-! ## Governor -/

def zenctlCpuGetGovernor (cpu : CpuHandle) : GetM σ CStr := do
  let text ← readFileString (cpuPath cpu "cpufreq/scaling_governor") 256
  allocateOr "strdup failed" "zenctl_cpu_get_governor"
  pure text

/-- The kernel compares governor names without regard to case. -/
def zenctlCpuSetGovernor (cpu : CpuHandle) (governor : CStr) : SetM σ Unit :=
  if governor = [] then
    getting (raise Err.einval "governor name is empty" "zenctl_cpu_set_governor")
  else do
    let available ← getting
      (readFileString (cpuPath cpu "cpufreq/scaling_available_governors") 1024)
    if (tokens available).any (sameIgnoringCase · governor) then
      writeFileString (cpuPath cpu "cpufreq/scaling_governor") governor
    else getting (raise Err.einval "governor not in scaling_available_governors" governor)

/-! ## Frequency -/

def readCpuinfoBound (cpu : CpuHandle) (attr : CStr) : GetM σ Int :=
  readFileI64 (cpuPath cpu attr)

/-- A frequency file in kHz, delivered in Hz. -/
def getFreq (cpu : CpuHandle) (file : CStr) : GetM σ Int := do
  let khz ← readFileI64 (cpuPath cpu file)
  pure (toInt64 (khz * 1000))

def zenctlCpuGetFreqMin (cpu : CpuHandle) : GetM σ Int :=
  getFreq cpu "cpufreq/scaling_min_freq"

def zenctlCpuGetFreqMax (cpu : CpuHandle) : GetM σ Int :=
  getFreq cpu "cpufreq/scaling_max_freq"

/-- The range checks both setters start with; the frequency in kHz. -/
def checkHardwareRange (cpu : CpuHandle) (hz : Int) (caller : CStr) : GetM σ Int :=
  if hz < 0 then raise Err.einval "frequency must be >= 0" caller
  else do
    let khz := hz.tdiv 1000
    let hwMin ← readCpuinfoBound cpu "cpufreq/cpuinfo_min_freq"
    let hwMax ← readCpuinfoBound cpu "cpufreq/cpuinfo_max_freq"
    if khz < hwMin then raise Err.erange "below cpuinfo_min_freq" caller
    else if hwMax < khz then raise Err.erange "above cpuinfo_max_freq" caller
    else pure khz

def zenctlCpuSetFreqMin (cpu : CpuHandle) (hz : Int) : SetM σ Unit := do
  let khz ← getting (checkHardwareRange cpu hz "zenctl_cpu_set_freq_min")
  let curMax ← getting (readFileI64 (cpuPath cpu "cpufreq/scaling_max_freq"))
  if curMax < khz then
    getting (raise Err.erange "above current scaling_max_freq" "zenctl_cpu_set_freq_min")
  else writeFileI64 (cpuPath cpu "cpufreq/scaling_min_freq") khz

def zenctlCpuSetFreqMax (cpu : CpuHandle) (hz : Int) : SetM σ Unit := do
  let khz ← getting (checkHardwareRange cpu hz "zenctl_cpu_set_freq_max")
  let curMin ← getting (readFileI64 (cpuPath cpu "cpufreq/scaling_min_freq"))
  if khz < curMin then
    getting (raise Err.erange "below current scaling_min_freq" "zenctl_cpu_set_freq_max")
  else writeFileI64 (cpuPath cpu "cpufreq/scaling_max_freq") khz

/-! ## Switches -/

/-- A file that starts with `1` when the switch is on. -/
def readSwitch (path : CStr) : GetM σ Bool := do
  let text ← readFileString path 16
  pure (text.head? = some '1')

/-- The canonical text of a switch. -/
def writeSwitch (path : CStr) (on : Bool) : SetM σ Unit :=
  writeFileString path (if on then "1" else "0")

def zenctlCpuGetOnline (cpu : CpuHandle) : GetM σ Bool :=
  readSwitch (cpuPath cpu "online")

def zenctlCpuSetOnline (cpu : CpuHandle) (on : Bool) : SetM σ Unit :=
  writeSwitch (cpuPath cpu "online") on

def zenctlCpuGetSmtActive : GetM σ Bool :=
  readSwitch "/sys/devices/system/cpu/smt/active"

def zenctlCpuSetSmtActive (on : Bool) : SetM σ Unit :=
  writeFileString "/sys/devices/system/cpu/smt/control" (if on then "on" else "off")

def cstatePath (cpu : CpuHandle) (state : Int) : CStr :=
  bounded 160 ("/sys/devices/system/cpu/cpu".toList ++ showInt cpu.index ++
    "/cpuidle/state".toList ++ showInt state ++ "/disable".toList)

def zenctlCpuGetCstateDisable (cpu : CpuHandle) (state : Int) : GetM σ Bool :=
  if state < 0 then raise Err.einval "state index must be >= 0" "zenctl_cpu_get_cstate_disable"
  else readSwitch (cstatePath cpu state)

def zenctlCpuSetCstateDisable (cpu : CpuHandle) (state : Int) (disable : Bool) : SetM σ Unit :=
  if state < 0 then
    getting (raise Err.einval "state index must be >= 0" "zenctl_cpu_set_cstate_disable")
  else writeSwitch (cstatePath cpu state) disable

end Zenctl
