import Zenctl.LibThermal

namespace Zenctl

open CString

/-!
# `gpu.c` and `nvml.c`

A handle keeps the `hwmon` directory it found; here a handle is a value, and
every call that needs the directory looks for it again.
-/

variable {σ : Type}

/-! ## NVML -/

/-- `nvml_init`: load, resolve and start the library once; is it there? -/
def nvmlInit : GetM σ Bool :=
  fun os sys proc =>
    if proc.nvmlInitialized then (.value true, proc)
    else if os.nvml.loads sys && os.nvml.resolves sys && os.nvml.starts sys then
      (.value true, { proc with nvmlInitialized := true })
    else (.value false, proc)

/-- `get_handle`. -/
def nvmlDevice (os : Os σ) (sys : σ) (index : Int) : Option Nat := do
  let count ← os.nvml.count sys
  if 0 ≤ index ∧ index < count then os.nvml.device sys index.toNat else none

/-- A getter of `nvml.c`: `none` is its `-1`. -/
def nvmlGet (index : Int) (read : Nvml σ → σ → Nat → Option Nat) : GetM σ (Option Nat) :=
  fun os sys proc =>
    if proc.nvmlInitialized then
      (.value ((nvmlDevice os sys index).bind (read os.nvml sys)), proc)
    else (.value none, proc)

/-- `nvml_get_*` after a successful `nvml_init`. -/
def nvmlRead (index : Int) (read : Nvml σ → σ → Nat → Option Nat) : GetM σ (Option Nat) := do
  if ← nvmlInit then nvmlGet index read else pure none

/-- `nvml_set_power_limit`. -/
def nvmlSetPowerLimit (index mw : Int) : SetM σ Bool :=
  fun os sys proc =>
    if proc.nvmlInitialized = false ∨ mw < 0 then (.value false, sys, proc)
    else
      match nvmlDevice os sys index with
      | none => (.value false, sys, proc)
      | some device =>
          let answer := os.nvml.setPowerLimit sys device mw.toNat
          (.value answer.1, answer.2, proc)

def nvmlUnavailable {α : Type} (caller : CStr) : GetM σ α :=
  raise Err.enotsup "NVML (libnvidia-ml.so.1) not available" caller

/-! ## Opening -/

/-- The first entry made of `start` and a digit. -/
def firstDirWithPrefix (dir start : CStr) : GetM σ CStr := do
  let names ← sysCallOr (fun os sys => os.listDir sys dir) none dir
  match names.find? fun name =>
      startsWith start name && ((name.drop start.length).head?.map isDigit).getD false with
  | some name => do
      allocateOr "strdup failed" "first_dir_with_prefix"
      pure name
  | none => do
      if (← getErr).code = Err.ok then raise Err.enoent "no matching entry" dir else fail

def pciVendors : List (Nat × CStr) :=
  [(0x1002, "AMD"), (0x10de, "NVIDIA"), (0x8086, "Intel"), (0x1234, "Bochs"),
    (0x1af4, "Red Hat"), (0x1b36, "Red Hat"), (0x15ad, "VMware"), (0x1a03, "ASPEED"),
    (0x1013, "Cirrus"), (0x0033, "Parallels"), (0x1414, "Microsoft")]

def vendorNameFromId (id : Nat) : CStr :=
  ((pciVendors.find? (·.1 = id)).map (·.2)).getD "Unknown"

/-- `strtoul(text, &end, 0)` cast to 32 bits. -/
def parseVendorId (text : CStr) : Option Nat :=
  (strtoIn detectBase text).map fun number =>
    let magnitude := min number.2.1 18446744073709551615
    (if number.1 then (18446744073709551616 - magnitude) else magnitude) % 4294967296

def gpuFindHwmon (devicePath : CStr) : GetM σ CStr := do
  let dir := bounded 8192 (devicePath ++ "/hwmon".toList)
  let name ← firstDirWithPrefix dir "hwmon"
  allocateOr "malloc failed" "gpu_find_hwmon"
  pure (bounded 8192 (dir ++ '/' :: name))

/-- `/dev/dri/cardN` and `/sys/class/drm/cardN` name the same directory. -/
def resolveSysfsPath (drmPath : CStr) : GetM σ CStr := do
  allocateOr "malloc failed" "resolve_sysfs_path"
  if startsWith "/sys/class/drm/" drmPath then pure (bounded 8192 drmPath)
  else pure (bounded 8192 ("/sys/class/drm/".toList ++ baseName drmPath))

/-- A `strdup` whose failure leaves a `NULL` field. -/
def copyOrNull (text : CStr) : GetM σ (Option CStr) := do
  if ← allocate then pure (some text) else pure none

def zenctlGpuOpenPath (drmPath : CStr) : GetM σ GpuHandle := do
  let sysfs ← resolveSysfsPath drmPath
  let devicePath := bounded 8192 (sysfs ++ "/device".toList)
  let vendorText ← readFileString (bounded 8192 (devicePath ++ "/vendor".toList)) 64
  allocateOr "calloc failed" "zenctl_gpu_open_path"
  allocateOr "strdup failed" "zenctl_gpu_open_path"
  let base := baseName sysfs
  let cardIndex := if startsWith "card" base then atoi (base.drop 4) else 0
  let linked ← quietly (readlinkBasename (bounded 8192 (devicePath ++ "/driver".toList)))
  let driver ← match linked with
    | some driver => pure (some driver)
    | none => copyOrNull "unknown"
  let vendor ← copyOrNull (((parseVendorId vendorText).map vendorNameFromId).getD "Unknown")
  pure ⟨cardIndex, sysfs, devicePath, driver, vendor, none⟩

def zenctlGpuOpen (card : Int) : GetM σ GpuHandle :=
  if card < 0 then raise Err.einval "card index must be >= 0" "zenctl_gpu_open"
  else zenctlGpuOpenPath ("/sys/class/drm/card".toList ++ showInt card)

def gpuHwmon (g : GpuHandle) : GetM σ CStr :=
  match g.hwmonPath with
  | some path => pure path
  | none => gpuFindHwmon g.devicePath

/-- The guard of the operations one driver has. -/
def gpuDriverCheck (g : GpuHandle) (driver caller : CStr) : GetM σ Unit :=
  match g.driver with
  | none => raise Err.einval "gpu handle invalid" caller
  | some found =>
      if found = driver then pure ()
      else
        raise Err.enotsup ("operation only supported on ".toList ++ driver)
          (bounded 128 (driver ++ "-specific op on driver=".toList ++ found))

def gpuAmdgpuCheck (g : GpuHandle) : GetM σ Unit :=
  gpuDriverCheck g "amdgpu" "gpu_amdgpu_check"

def gpuI915Check (g : GpuHandle) : GetM σ Unit :=
  gpuDriverCheck g "i915" "gpu_i915_check"

def gpuIsNvidia (g : GpuHandle) : Bool :=
  g.vendor = some "NVIDIA".toList || g.driver = some "nvidia".toList

/-! ## Common attributes -/

def zenctlGpuGetDriver (g : GpuHandle) : GetM σ CStr := do
  allocateOr "strdup failed" "zenctl_gpu_get_driver"
  pure (g.driver.getD "unknown")

def zenctlGpuGetVendor (g : GpuHandle) : GetM σ CStr := do
  allocateOr "strdup failed" "zenctl_gpu_get_vendor"
  pure (g.vendor.getD "Unknown")

def hwmonAttr (hw key : CStr) : CStr :=
  bounded 8192 (hw ++ '/' :: key)

/--
The shape of the getters with a fallback: the `hwmon` file without reporting,
then NVML on NVIDIA cards, then the `hwmon` file once more to report its error.
-/
def hwmonOrNvml (g : GpuHandle) (read : CStr → GetM σ Int)
    (nvml : Nvml σ → σ → Nat → Option Nat) (convert : Nat → Int) (caller : CStr) :
    GetM σ Int := do
  let hw ← quietly (gpuHwmon g)
  let first ← match hw with
    | some path => quietly (read path)
    | none => pure none
  match first with
  | some value => pure value
  | none =>
      if gpuIsNvidia g then do
        match ← nvmlRead g.cardIndex nvml with
        | some value => pure (convert value)
        | none => nvmlUnavailable caller
      else
        match hw with
        | some path => read path
        | none => raise Err.enotsup "no hwmon and not an NVIDIA GPU" caller

def zenctlGpuGetTemp (g : GpuHandle) : GetM σ Int :=
  hwmonOrNvml g (fun hw => readFileI64 (hwmonAttr hw "temp1_input")) Nvml.temperature
    (fun degrees => degrees * 1000) "zenctl_gpu_get_temp"

/-- Percent to the PWM scale, rounded to nearest; the speed is an `int`. -/
def fanPercentToPwm (speed : Nat) : Int :=
  (max 0 (min 100 (toInt32 speed)) * 255 + 50).tdiv 100

def zenctlGpuGetFanPwm (g : GpuHandle) : GetM σ Int :=
  hwmonOrNvml g
    (fun hw => do
      let v ← readFileI64 (hwmonAttr hw "pwm1")
      pure (toInt32 v))
    Nvml.fanSpeed fanPercentToPwm "zenctl_gpu_get_fan_pwm"

def zenctlGpuSetFanPwm (g : GpuHandle) (pwm : Int) : SetM σ Unit :=
  if pwm < 0 ∨ 255 < pwm then
    getting (raise Err.erange "pwm out of range [0,255]" "zenctl_gpu_set_fan_pwm")
  else do
    let hw ← getting (gpuHwmon g)
    writeFileI64 (hwmonAttr hw "pwm1") pwm

def zenctlGpuGetFanAuto (g : GpuHandle) : GetM σ Bool := do
  let hw ← gpuHwmon g
  let v ← readFileI64 (hwmonAttr hw "pwm1_enable")
  pure (2 ≤ v)

def zenctlGpuSetFanAuto (g : GpuHandle) (auto : Bool) : SetM σ Unit := do
  let hw ← getting (gpuHwmon g)
  writeFileI64 (hwmonAttr hw "pwm1_enable") (if auto then 2 else 1)

/-- `power1_average`, else `power1_input`, whose error is the one reported. -/
def readHwmonPower (hw : CStr) : GetM σ Int := do
  match ← quietly (readFileI64 (hwmonAttr hw "power1_average")) with
  | some value => pure value
  | none => readFileI64 (hwmonAttr hw "power1_input")

def zenctlGpuGetPower (g : GpuHandle) : GetM σ Int :=
  hwmonOrNvml g readHwmonPower Nvml.powerUsage (fun mw => mw * 1000) "zenctl_gpu_get_power"

/-- Large values are taken to be kHz. -/
def zenctlGpuGetFreq (g : GpuHandle) : GetM σ Int :=
  hwmonOrNvml g
    (fun hw => do
      let v ← readFileI64 (hwmonAttr hw "freq1_input")
      pure (if 100000 < v then v.tdiv 1000 else v))
    Nvml.clock (fun mhz => mhz) "zenctl_gpu_get_freq"

/-! ## `amdgpu` -/

def devicePath (g : GpuHandle) (key : CStr) : CStr :=
  bounded 8192 (g.devicePath ++ '/' :: key)

/--
The name on a starred line: the text before the last star, without the stars
and blanks at its end, behind the index token.  `none` when nothing is left.
-/
def starredProfile (line : CStr) : Option CStr :=
  if '*' ∈ line then
    let kept := (beforeLast '*' line).rdropWhile fun c => isSpace c || c = '*'
    let name := ((kept.dropWhile isSpace).dropWhile fun c => !isSpace c).dropWhile isSpace
    if name = [] then none else some name
  else none

def noActiveProfile : CStr :=
  "no active power profile found (may require DPM level=manual)"

def zenctlGpuAmdgpuGetPowerProfile (g : GpuHandle) : GetM σ CStr := do
  gpuAmdgpuCheck g
  let file ← openPath (devicePath g "pp_power_profile_mode")
  match (file.lines 512).findSome? starredProfile with
  | some name => do
      if ← allocate then pure name
      else raise Err.enotsup noActiveProfile "zenctl_gpu_amdgpu_get_power_profile"
  | none => raise Err.enotsup noActiveProfile "zenctl_gpu_amdgpu_get_power_profile"

/-- The index and the name of a row: at most 63 bytes of the name are taken. -/
def profileRow (line : CStr) : Option (Int × CStr) :=
  let start := line.dropWhile isSpace
  if (start.head?.map isDigit).getD false then
    match strtoll start with
    | some parsed =>
        some (toInt32 parsed.value,
          ((parsed.rest.dropWhile isSpace).takeWhile fun c => !isSpace c).take 63)
    | none => none
  else none

/-- The index of the first row of that name. -/
def profileIndex (profile : CStr) (lines : List CStr) : Int :=
  (lines.findSome? fun line =>
    match profileRow line with
    | some (index, name) => if name = profile then some index else none
    | none => none).getD (-1)

def zenctlGpuAmdgpuSetPowerProfile (g : GpuHandle) (profile : CStr) : SetM σ Unit := do
  getting (gpuAmdgpuCheck g)
  let path := devicePath g "pp_power_profile_mode"
  let file ← getting (openPath path)
  let index := profileIndex profile (file.lines 512)
  if index < 0 then
    getting (raise Err.einval "unknown power profile name"
      (bounded 128 ("profile=".toList ++ profile)))
  else do
    let level ← getting (quietly (readStringAlloc
      (devicePath g "power_dpm_force_performance_level")))
    if (level.getD "manual") ≠ "manual".toList then
      getting (raise Err.einval
        "power_dpm_force_performance_level must be 'manual' to select a power profile"
        "zenctl_gpu_amdgpu_set_power_profile")
    else writeFileString path (showInt index)

def zenctlGpuAmdgpuGetDpmState (g : GpuHandle) : GetM σ CStr := do
  gpuAmdgpuCheck g
  readStringAlloc (devicePath g "power_dpm_force_performance_level")

def zenctlGpuAmdgpuGetBusyPercent (g : GpuHandle) : GetM σ Int := do
  gpuAmdgpuCheck g
  let v ← readFileI64 (devicePath g "gpu_busy_percent")
  if v < 0 ∨ 100 < v then
    raise Err.eio "gpu_busy_percent out of range" "zenctl_gpu_amdgpu_get_busy_percent"
  else pure v

/-! ## NVIDIA -/

def gpuNvidiaCheck (g : GpuHandle) : GetM σ Unit :=
  if gpuIsNvidia g then pure ()
  else
    raise Err.enotsup "operation only supported on NVIDIA GPUs"
      (bounded 128 ("nvidia-specific op on driver=".toList ++ g.driver.getD "(null)" ++
        " vendor=".toList ++ g.vendor.getD "(null)"))

/-- A value only NVML has, as an `int`. -/
def nvidiaGet (g : GpuHandle) (read : Nvml σ → σ → Nat → Option Nat) (caller : CStr) :
    GetM σ Int := do
  gpuNvidiaCheck g
  match ← nvmlRead g.cardIndex read with
  | some value => pure (toInt32 value)
  | none => nvmlUnavailable caller

def zenctlGpuNvidiaGetUtilization (g : GpuHandle) : GetM σ Int :=
  nvidiaGet g Nvml.utilization "zenctl_gpu_nvidia_get_utilization"

def zenctlGpuNvidiaGetPowerLimit (g : GpuHandle) : GetM σ Int :=
  nvidiaGet g Nvml.powerLimit "zenctl_gpu_nvidia_get_power_limit"

def zenctlGpuNvidiaSetPowerLimit (g : GpuHandle) (mw : Int) : SetM σ Unit :=
  if mw < 0 then
    getting (raise Err.erange "power limit must be >= 0" "zenctl_gpu_nvidia_set_power_limit")
  else do
    getting (gpuNvidiaCheck g)
    if ← getting nvmlInit then do
      if ← nvmlSetPowerLimit g.cardIndex mw then pure ()
      else
        getting (raise Err.eio "nvmlDeviceSetPowerManagementLimit failed"
          "zenctl_gpu_nvidia_set_power_limit")
    else getting (nvmlUnavailable "zenctl_gpu_nvidia_set_power_limit")

/-! ## `i915` -/

/-- The modern place of an attribute, else the legacy one. -/
def i915ResolveAttr (g : GpuHandle) (newName oldName : CStr) : GetM σ CStr := do
  let modern := devicePath g ("gt/gt0/".toList ++ newName)
  match ← sysCall (fun os sys => os.access sys modern .present) with
  | some _ => pure modern
  | none => do
      let legacy := devicePath g oldName
      match ← sysCall (fun os sys => os.access sys legacy .present) with
      | some _ => pure legacy
      | none => raise Err.enoent "i915 attribute not present on this kernel" newName

def i915ReadAttr (g : GpuHandle) (newName oldName : CStr) : GetM σ Int := do
  gpuI915Check g
  let path ← i915ResolveAttr g newName oldName
  readFileI64 path

/-- `zenctl_gpu_i915_get_rps_*`. -/
def i915GetFreq (g : GpuHandle) (newName oldName : CStr) : GetM σ Int := do
  let v ← i915ReadAttr g newName oldName
  pure (toInt32 v)

/-- `zenctl_gpu_i915_set_rps_*`. -/
def i915SetFreq (g : GpuHandle) (newName oldName : CStr) (mhz : Int) (caller : CStr) :
    SetM σ Unit :=
  if mhz < 0 then getting (raise Err.erange "frequency must be >= 0" caller)
  else do
    getting (gpuI915Check g)
    let path ← getting (i915ResolveAttr g newName oldName)
    writeFileI64 path mhz

/-- Bit 0 of the mask is plain RC6. -/
def zenctlGpuI915GetRc6 (g : GpuHandle) : GetM σ Bool := do
  let v ← i915ReadAttr g "rc6_enable" "rc6_enable"
  pure (v % 2 ≠ 0)

def zenctlGpuI915SetRc6 (g : GpuHandle) (on : Bool) : SetM σ Unit := do
  getting (gpuI915Check g)
  let path ← getting (i915ResolveAttr g "rc6_enable" "rc6_enable")
  match ← getting (sysCall (fun os sys => os.access sys path .write)) with
  | some _ => writeSwitch path on
  | none =>
      getting (raise Err.enotsup "RC6 is read-only on this kernel" "zenctl_gpu_i915_set_rc6")

def zenctlGpuI915GetRpsMin (g : GpuHandle) : GetM σ Int :=
  i915GetFreq g "rps_min_freq_mhz" "rps_min_freq"

def zenctlGpuI915SetRpsMin (g : GpuHandle) (mhz : Int) : SetM σ Unit :=
  i915SetFreq g "rps_min_freq_mhz" "rps_min_freq" mhz "zenctl_gpu_i915_set_rps_min"

def zenctlGpuI915GetRpsMax (g : GpuHandle) : GetM σ Int :=
  i915GetFreq g "rps_max_freq_mhz" "rps_max_freq"

def zenctlGpuI915SetRpsMax (g : GpuHandle) (mhz : Int) : SetM σ Unit :=
  i915SetFreq g "rps_max_freq_mhz" "rps_max_freq" mhz "zenctl_gpu_i915_set_rps_max"

def zenctlGpuI915GetRpsCur (g : GpuHandle) : GetM σ Int :=
  i915GetFreq g "rps_cur_freq_mhz" "rps_cur_freq"

def zenctlGpuI915GetRpsBoost (g : GpuHandle) : GetM σ Int :=
  i915GetFreq g "rps_boost_freq_mhz" "rps_boost_freq"

def zenctlGpuI915SetRpsBoost (g : GpuHandle) (mhz : Int) : SetM σ Unit :=
  i915SetFreq g "rps_boost_freq_mhz" "rps_boost_freq" mhz "zenctl_gpu_i915_set_rps_boost"

end Zenctl
