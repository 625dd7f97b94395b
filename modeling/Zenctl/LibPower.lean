import Zenctl.LibNet
import Zenctl.NameOrder

namespace Zenctl

open CString

/-!
# `power.c`
-/

variable {σ : Type}

/-- `read_string_alloc`, of which three domains have a copy: trailing white space goes. -/
def readStringAlloc (path : CStr) : GetM σ CStr := do
  let text ← readFileString path 4096
  allocateOr "strdup failed" "read_string_alloc"
  pure (text.rdropWhile isSpace)

/-! ## Sleep states -/

def sleepStateName : SleepState → CStr
  | .freeze => "freeze"
  | .mem => "mem"
  | .disk => "disk"
  | .standby => "standby"

def zenctlPowerGetSupportedStates : GetM σ CStr :=
  readStringAlloc "/sys/power/state"

def zenctlPowerSuspend (state : SleepState) : SetM σ Unit := do
  let name := sleepStateName state
  let available ← getting (readStringAlloc "/sys/power/state")
  if name ∈ tokens available then writeFileString "/sys/power/state" name
  else
    getting (raise Err.enotsup "sleep state not supported"
      (bounded 64 ("state=".toList ++ name)))

/-- The bracketed mode, or the first token when nothing is bracketed. -/
def activeSleepMode (raw : CStr) : CStr :=
  if '[' ∈ raw ∧ ']' ∈ raw ∧ raw.idxOf '[' < raw.idxOf ']' then
    (raw.take (raw.idxOf ']')).drop (raw.idxOf '[' + 1)
  else ((tokens raw).head?).getD []

def zenctlPowerGetMemSleepMode : GetM σ CStr := do
  let raw ← readStringAlloc "/sys/power/mem_sleep"
  allocateOr "malloc/strdup failed" "zenctl_power_get_mem_sleep_mode"
  pure (activeSleepMode raw)

def zenctlPowerSetMemSleepMode (mode : CStr) : SetM σ Unit :=
  writeFileString "/sys/power/mem_sleep" mode

/-! ## Runtime power management -/

def zenctlPowerGetRuntimePm (devPath : CStr) : GetM σ CStr :=
  readStringAlloc (bounded 8192 (devPath ++ "/power/control".toList))

def zenctlPowerSetRuntimePm (devPath mode : CStr) : SetM σ Unit :=
  if mode ≠ "auto".toList ∧ mode ≠ "on".toList then
    getting (raise Err.einval "invalid runtime PM mode"
      (bounded 64 ("mode=".toList ++ mode ++ " (expected auto|on)".toList)))
  else writeFileString (bounded 8192 (devPath ++ "/power/control".toList)) mode

/-! ## Power supplies -/

def powerSupplyDir : CStr := "/sys/class/power_supply"

def supplyPath (name key : CStr) : CStr :=
  bounded 8192 (powerSupplyDir ++ '/' :: (name ++ '/' :: key))

/-- Room for one more pointer: the array grows from nothing to `first` and then doubles. -/
def growArray (first capacity used : Nat) (message context : CStr) : GetM σ Nat :=
  if used = capacity then do
    allocateOr message context
    pure (if capacity = 0 then first else capacity * 2)
  else pure capacity

/-- The directory loop of `list_supplies_by_type`; unreadable entries are skipped. -/
def collectSupplies (want : CStr) (capacity : Nat) (found : List CStr) :
    List CStr → GetM σ (List CStr)
  | [] => pure found
  | name :: rest =>
      if name.head? = some '.' then collectSupplies want capacity found rest
      else do
        match ← quietly (readStringAlloc (supplyPath name "type")) with
        | none => collectSupplies want capacity found rest
        | some type =>
            if type = want then do
              let capacity ← growArray 8 capacity found.length "realloc failed"
                "list_supplies_by_type"
              allocateOr "strdup failed" "list_supplies_by_type"
              collectSupplies want capacity (found ++ [name]) rest
            else collectSupplies want capacity found rest

/--
`list_supplies_by_type`.  The array is allocated with its first entry, so
without a match the function returns `NULL` and sets no error.
-/
def listSuppliesByType (want : CStr) : GetM σ (List CStr) := do
  let names ← sysCallOr (fun os sys => os.listDir sys powerSupplyDir) none powerSupplyDir
  let found ← collectSupplies want 0 [] names
  if found = [] then fail else pure found

def nthBatteryName (index : Int) : GetM σ CStr := do
  let list ← listSuppliesByType "Battery"
  if index < 0 ∨ (list.length : Int) ≤ index then
    raise Err.enoent "battery not found" (bounded 64 ("battery index ".toList ++ showInt index ++
      " out of range [0,".toList ++ showInt list.length ++ ")".toList))
  else do
    let sorted := ExchangeSort.sort strcmpLe list
    allocateOr "strdup failed" "nth_battery_name"
    pure ((sorted[index.toNat]?).getD [])

def readSupplyInt64 (name key : CStr) (unset : Int) : GetM σ Int := do
  let v ← quietly (readFileI64 (supplyPath name key))
  pure (v.getD unset)

def readSupplyString (name key : CStr) (size : Nat) : GetM σ CStr := do
  let text ← quietly (readStringAlloc (supplyPath name key))
  pure (bounded size (text.getD []))

def zenctlPowerBatteryCount : GetM σ Int := do
  let list ← listSuppliesByType "Battery"
  pure list.length

/-- A value read into a variable that holds zero is kept when it is not negative. -/
def nonnegativeOr (unset v : Int) : Int :=
  if 0 ≤ v then toInt32 v else unset

def zenctlPowerBatteryGet (index : Int) : GetM σ Battery :=
  if index < 0 then raise Err.einval "NULL out or negative index" "zenctl_power_battery_get"
  else do
    let name ← nthBatteryName index
    let status ← readSupplyString name "status" 32
    let technology ← readSupplyString name "technology" 32
    let capacity ← readSupplyInt64 name "capacity" 0
    let cycleCount ← readSupplyInt64 name "cycle_count" 0
    let chargeFull ← readSupplyInt64 name "charge_full" (-1)
    let chargeFullDesign ← readSupplyInt64 name "charge_full_design" (-1)
    let chargeNow ← readSupplyInt64 name "charge_now" (-1)
    let currentNow ← readSupplyInt64 name "current_now" 0
    let voltageNow ← readSupplyInt64 name "voltage_now" 0
    pure
      { name := bounded 64 name
        status := status
        capacity := nonnegativeOr (-1) capacity
        chargeFull := chargeFull
        chargeFullDesign := chargeFullDesign
        chargeNow := chargeNow
        currentNow := currentNow
        voltageNow := voltageNow
        cycleCount := nonnegativeOr (-1) cycleCount
        technology := technology }

/-! ## Charge thresholds -/

def getChargeThreshold (index : Int) (key unsupported caller : CStr) : GetM σ Int :=
  if index < 0 then raise Err.einval "NULL out or negative index" caller
  else do
    let name ← nthBatteryName index
    let path := supplyPath name key
    match ← attempt (readFileI64 path) with
    | none => do
        if (← getErr).code = Err.ok then raise Err.enotsup unsupported path else fail
    | some v =>
        if v < 0 ∨ 100 < v then
          raise Err.eio "threshold out of range" (bounded 64 ("threshold=".toList ++ showInt v))
        else pure v

def setChargeThreshold (index percent : Int) (key caller : CStr) : SetM σ Unit :=
  if index < 0 ∨ percent < 0 ∨ 100 < percent then
    getting (raise Err.einval "invalid argument (percent must be 0..100)" caller)
  else do
    let name ← getting (nthBatteryName index)
    writeFileI64 (supplyPath name key) percent

def zenctlPowerBatteryGetChargeStart (index : Int) : GetM σ Int :=
  getChargeThreshold index "charge_control_start_threshold"
    "charge start threshold not supported" "zenctl_power_battery_get_charge_start"

def zenctlPowerBatterySetChargeStart (index percent : Int) : SetM σ Unit :=
  setChargeThreshold index percent "charge_control_start_threshold"
    "zenctl_power_battery_set_charge_start"

def zenctlPowerBatteryGetChargeEnd (index : Int) : GetM σ Int :=
  getChargeThreshold index "charge_control_end_threshold"
    "charge end threshold not supported" "zenctl_power_battery_get_charge_end"

def zenctlPowerBatterySetChargeEnd (index percent : Int) : SetM σ Unit :=
  setChargeThreshold index percent "charge_control_end_threshold"
    "zenctl_power_battery_set_charge_end"

/-! ## Mains -/

/-- Is one of the supplies online?  The loop stops at the first that is. -/
def anyOnline : List CStr → GetM σ Bool
  | [] => pure false
  | name :: rest => do
      let v ← quietly (readFileI64 (supplyPath name "online"))
      if v = some 1 then pure true else anyOnline rest

def zenctlPowerAcOnline : GetM σ Bool := do
  let list ← listSuppliesByType "Mains"
  anyOnline list

/-! ## Wake sources -/

/-- `isalpha` in the C locale. -/
def isAlpha (c : Char) : Bool :=
  ('a' ≤ c && c ≤ 'z') || ('A' ≤ c && c ≤ 'Z')

def acpiWakeupPath : CStr := "/proc/acpi/wakeup"

/-- The device a row of the table is about; separator lines have none. -/
def wakeupDevice (line : CStr) : Option CStr :=
  match tokens line with
  | device :: _ => if (device.head?.map isAlpha).getD false then some device else none
  | [] => none

/-- The rows are copied one by one. -/
def collectWakeups (capacity : Nat) (found : List CStr) : List CStr → GetM σ (List CStr)
  | [] => pure found
  | line :: rest =>
      match wakeupDevice line with
      | none => collectWakeups capacity found rest
      | some device => do
          let capacity ← growArray 16 capacity found.length "realloc failed"
            "zenctl_power_get_wakeup_devices"
          allocateOr "strdup failed" "zenctl_power_get_wakeup_devices"
          collectWakeups capacity (found ++ [device]) rest

def zenctlPowerGetWakeupDevices : GetM σ (List CStr) := do
  let file ← sysCallOr (fun os sys => os.openRead sys acpiWakeupPath) none
    "/proc/acpi/wakeup (ACPI-only / may be absent)"
  -- the first line is the header
  collectWakeups 0 [] (file.lines 512).tail

/-- The tokens of a row between blanks and tabs. -/
def rowTokens (line : CStr) : List CStr :=
  (line.splitOnP isBlankOrTab).filter (· ≠ [])
where
  isBlankOrTab (c : Char) : Bool := c = ' ' || c = '\t'

/-- The status column of the first complete row of a device. -/
def wakeupStatus (device table : CStr) : Option CStr :=
  ((table.splitOn '\n').filter (· ≠ [])).findSome? fun line =>
    match rowTokens line with
    | name :: _ :: status :: _ =>
        if (name.head?.map isAlpha).getD false ∧ name = device then some status else none
    | _ => none

/-- Characters a wake device name must not have. -/
def isWakeupSeparator (c : Char) : Bool :=
  c = '/' || c = '\n' || c = '\r' || c = '\t' || c = ' '

def zenctlPowerSetWakeup (device : CStr) (enabled : Bool) : SetM σ Unit :=
  if device = [] then
    getting (raise Err.einval "NULL or empty device" "zenctl_power_set_wakeup")
  else if device.any isWakeupSeparator then
    getting (raise Err.einval "invalid device name" device)
  else do
    let table ← getting (readFileString acpiWakeupPath 16384)
    match wakeupStatus device table with
    | none =>
        getting (raise Err.enoent "device not in /proc/acpi/wakeup"
          (bounded 128 ("device=".toList ++ device)))
    | some status =>
        -- a write toggles, so nothing is written when the state is right
        if decide (status = "*enabled".toList) = enabled then pure ()
        else writeFileString acpiWakeupPath device

end Zenctl
