import Zenctl.LibPower

namespace Zenctl

open CString

/-!
# `thermal.c`
-/

variable {σ : Type}

/-- `readlink_basename`. -/
def readlinkBasename (link : CStr) : GetM σ CStr := do
  let target ← sysCallOr (fun os sys => os.readlink sys link) none link
  allocateOr "strdup failed" "readlink_basename"
  pure (baseName (ofBuffer (target.take 8191)))

/-- A name made of a fixed start and one or more digits. -/
def isNumbered (start name : CStr) : Bool :=
  startsWith start name && name.drop start.length ≠ [] && (name.drop start.length).all isDigit

/-- `count_dir_entries`. -/
def countDirEntries (dir start : CStr) : GetM σ Int := do
  let names ← sysCallOr (fun os sys => os.listDir sys dir) none dir
  pure (names.filter (isNumbered start)).length

/-! ## Zones -/

def zenctlThermalOpen (zone : CStr) : GetM σ ThermalHandle :=
  if isNumbered "thermal_zone" zone then do
    let path := bounded 8192 ("/sys/class/thermal/".toList ++ zone)
    let tempPath := bounded 8192 (path ++ "/temp".toList)
    match ← attempt (readFileString tempPath 64) with
    | none => do
        if (← getErr).code = Err.ok then raise Err.enoent "thermal zone not found" tempPath
        else fail
    | some _ => do
        allocateOr "calloc failed" "zenctl_thermal_open"
        let zoneName ← allocate
        let zonePath ← allocate
        if zoneName && zonePath then pure ⟨zone, path⟩
        else raise Err.nomem "strdup failed" "zenctl_thermal_open"
  else
    raise Err.einval "invalid zone name (expected thermal_zoneN)" "zenctl_thermal_open"

def zonePath (tz : ThermalHandle) (suffix : CStr) : CStr :=
  bounded 8192 (tz.zonePath ++ suffix)

def zenctlThermalGetTemp (tz : ThermalHandle) : GetM σ Int :=
  readFileI64 (zonePath tz "/temp")

def zenctlThermalGetType (tz : ThermalHandle) : GetM σ CStr :=
  readStringAlloc (zonePath tz "/type")

def zenctlThermalGetPolicy (tz : ThermalHandle) : GetM σ CStr :=
  readStringAlloc (zonePath tz "/policy")

def zenctlThermalSetPolicy (tz : ThermalHandle) (policy : CStr) : SetM σ Unit :=
  writeFileString (zonePath tz "/policy") policy

def zenctlThermalListPolicies (tz : ThermalHandle) : GetM σ CStr :=
  readStringAlloc (zonePath tz "/available_policies")

def zenctlThermalGetMode (tz : ThermalHandle) : GetM σ Bool := do
  let text ← readStringAlloc (zonePath tz "/mode")
  pure (text = "enabled".toList)

def zenctlThermalSetMode (tz : ThermalHandle) (enabled : Bool) : SetM σ Unit :=
  writeFileString (zonePath tz "/mode") (if enabled then "enabled" else "disabled")

/-! ## Trip points -/

def tripPath (tz : ThermalHandle) (index : Int) (key : CStr) : CStr :=
  bounded 8192 (tz.zonePath ++ "/trip_point_".toList ++ showInt index ++ '_' :: key)

/-- Count up from zero to the first missing trip point. -/
def countTrips (tz : ThermalHandle) : Nat → Int → GetM σ Int
  | 0, _ => block
  | rounds + 1, count => do
      match ← sysCall (fun os sys => os.access sys (tripPath tz count "temp") .present) with
      | some _ => countTrips tz rounds (count + 1)
      | none => pure count

/-- The loop is cut off where its `int` counter would overflow. -/
def zenctlThermalGetTripCount (tz : ThermalHandle) : GetM σ Int :=
  countTrips tz 2147483648 0

/-- A missing hysteresis file is not an error; an unreadable one is. -/
def readHysteresis (path : CStr) : GetM σ Int :=
  fun os sys proc =>
    match readFileI64 path os sys { proc with err := Err.zero } with
    | (.value h, later) => (.value (toInt64 (h * 1000)), { later with err := proc.err })
    | (.failed, later) =>
        if later.err.code = Err.enoent then (.value (-1), { later with err := proc.err })
        else (.failed, later)
    | (.blocked, later) => (.blocked, later)

def zenctlThermalGetTrip (tz : ThermalHandle) (index : Int) : GetM σ Trip :=
  if index < 0 then
    raise Err.einval "NULL tz/out or negative index" "zenctl_thermal_get_trip"
  else do
    let temp ← readFileI64 (tripPath tz index "temp")
    let type ← quietly (readStringAlloc (tripPath tz index "type"))
    let hysteresis ← readHysteresis (tripPath tz index "hyst")
    pure ⟨index, temp, bounded 32 (type.getD "unknown".toList), hysteresis⟩

/-! ## Cooling devices -/

/-- The number of the cooling device behind a zone's `cdevN` link. -/
def zoneCdevIndex (tz : ThermalHandle) (index : Int) : GetM σ Int := do
  let target ← readlinkBasename (bounded 8192 (tz.zonePath ++ "/cdev".toList ++ showInt index))
  let number := if startsWith "cooling_device" target then atoi (target.drop 14) else -1
  if number < 0 then
    raise Err.internal "unrecognised cooling device symlink target" "zone_cdev_index"
  else pure number

def coolingPath (number : Int) (key : CStr) : CStr :=
  bounded 8192 ("/sys/class/thermal/cooling_device".toList ++ showInt number ++ '/' :: key)

def zenctlThermalGetCoolingCount (tz : ThermalHandle) : GetM σ Int := do
  let n ← countDirEntries tz.zonePath "cdev"
  if n < 0 then fail else pure n

def zenctlThermalGetCooling (tz : ThermalHandle) (index : Int) : GetM σ Cooling :=
  if index < 0 then
    raise Err.einval "NULL tz/out or negative index" "zenctl_thermal_get_cooling"
  else do
    let number ← zoneCdevIndex tz index
    let type ← quietly (readStringAlloc (coolingPath number "type"))
    let cur ← quietly (readFileI64 (coolingPath number "cur_state"))
    let max ← quietly (readFileI64 (coolingPath number "max_state"))
    let maxState := (max.map toInt32).getD (-1)
    if maxState < 0 then
      raise Err.enoent "cooling device not found"
        (bounded 64 ("cooling_device".toList ++ showInt number ++ " missing max_state".toList))
    else
      pure ⟨index, bounded 64 (type.getD []), (cur.map toInt32).getD (-1), maxState⟩

/-- The range is checked only when the maximum can be read. -/
def zenctlThermalSetCoolingState (tz : ThermalHandle) (index state : Int) : SetM σ Unit :=
  if index < 0 then
    getting (raise Err.einval "NULL tz or negative index" "zenctl_thermal_set_cooling_state")
  else do
    let number ← getting (zoneCdevIndex tz index)
    match ← getting (quietly (readFileI64 (coolingPath number "max_state"))) with
    | some max =>
        if state < 0 ∨ max < state then
          getting (raise Err.erange "cooling state out of range"
            (bounded 128 ("state ".toList ++ showInt state ++ " out of range [0, ".toList ++
              showInt max ++ "]".toList)))
        else writeFileI64 (coolingPath number "cur_state") state
    | none => writeFileI64 (coolingPath number "cur_state") state

/-! ## `hwmon` -/

def hwmonPath (index : Int) (suffix : CStr) : CStr :=
  bounded 8192 ("/sys/class/hwmon/hwmon".toList ++ showInt index ++ suffix)

def zenctlThermalHwmonCount : GetM σ Int := do
  let n ← countDirEntries "/sys/class/hwmon" "hwmon"
  if n < 0 then fail else pure n

/-- An attribute of one temperature sensor. -/
def sensorPath (hwmon sensor : Int) (key : CStr) : CStr :=
  hwmonPath hwmon ("/temp".toList ++ showInt sensor ++ '_' :: key)

def zenctlThermalHwmonGetTemp (hwmon sensor : Int) : GetM σ HwmonTemp :=
  if hwmon < 0 ∨ sensor < 1 then
    raise Err.einval "NULL out or negative index" "zenctl_thermal_hwmon_get_temp"
  else do
    let temp ← readFileI64 (sensorPath hwmon sensor "input")
    let name ← quietly (readStringAlloc (hwmonPath hwmon "/name"))
    let label ← quietly (readStringAlloc (sensorPath hwmon sensor "label"))
    let tempMax ← quietly (readFileI64 (sensorPath hwmon sensor "max"))
    let tempCrit ← quietly (readFileI64 (sensorPath hwmon sensor "crit"))
    pure ⟨bounded 64 (name.getD []), bounded 64 (label.getD []), temp, tempMax.getD (-1),
      tempCrit.getD (-1)⟩

def fanPath (hwmon fan : Int) (suffix : CStr) : CStr :=
  hwmonPath hwmon ("/pwm".toList ++ showInt fan ++ suffix)

def zenctlThermalHwmonGetFanPwm (hwmon fan : Int) : GetM σ Int :=
  if hwmon < 0 ∨ fan < 1 then
    raise Err.einval "NULL out or negative index" "zenctl_thermal_hwmon_get_fan_pwm"
  else do
    let v ← readFileI64 (fanPath hwmon fan [])
    pure (toInt32 v)

def zenctlThermalHwmonSetFanPwm (hwmon fan pwm : Int) : SetM σ Unit :=
  if hwmon < 0 ∨ fan < 1 then
    getting (raise Err.einval "negative index" "zenctl_thermal_hwmon_set_fan_pwm")
  else if pwm < 0 ∨ 255 < pwm then
    getting (raise Err.erange "pwm out of range [0,255]" "zenctl_thermal_hwmon_set_fan_pwm")
  else writeFileI64 (fanPath hwmon fan []) pwm

def zenctlThermalHwmonGetFanAuto (hwmon fan : Int) : GetM σ Bool :=
  if hwmon < 0 ∨ fan < 1 then
    raise Err.einval "NULL out or negative index" "zenctl_thermal_hwmon_get_fan_auto"
  else do
    let v ← readFileI64 (fanPath hwmon fan "_enable")
    pure (2 ≤ v)

def zenctlThermalHwmonSetFanAuto (hwmon fan : Int) (auto : Bool) : SetM σ Unit :=
  if hwmon < 0 ∨ fan < 1 then
    getting (raise Err.einval "negative index" "zenctl_thermal_hwmon_set_fan_auto")
  else writeFileI64 (fanPath hwmon fan "_enable") (if auto then 2 else 1)

end Zenctl
