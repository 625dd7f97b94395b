import Zenctl.CmdGpu

namespace Zenctl

open CString

/-!
# `zenctl thermal`
-/

variable {σ τ : Type}

def zoneName (index : Int) : CStr :=
  bounded 32 ("thermal_zone".toList ++ showInt index)

def thermalListFields (index : Int) : ReadM σ τ (List Field) := do
  let zone := zoneName index
  let head : List Field := [.int "index" index, .string "zone" zone]
  match ← query (.thermalOpen zone) with
  | .error _ => pure head
  | .ok tz =>
      let type ← optField (.thermalGetType tz) (.string "type")
      let temp ← optField (.thermalGetTemp tz) (.int "temp_mc")
      pure (head ++ type ++ temp)

/-- The temperature cell; an unread temperature is `-1`. -/
def temperatureCell (temp : Int) : CStr :=
  if 0 ≤ temp then showInt temp ++ " mC".toList else "-"

def thermalListRow (index : Int) : ReadM σ τ Unit := do
  let zone := zoneName index
  match ← query (.thermalOpen zone) with
  | .error _ => outTableRow [zone, "-", "-"]
  | .ok tz =>
      let type ← queryOpt (.thermalGetType tz)
      let temp ← queryOpt (.thermalGetTemp tz)
      outTableRow [zone, orDash type, temperatureCell (temp.getD (-1))]

def thermalList (json : Bool) : ReadM σ τ Int := do
  match ← enumIndexed "/sys/class/thermal" "thermal_zone" 64 with
  | none => refuse json Err.eio "cannot read /sys/class/thermal" "thermal_list"
  | some zones =>
      if json then
        let items ← collect thermalListFields zones
        put (okArray items)
      else
        outTable ["ZONE", "TYPE", "TEMP"]
        forEach thermalListRow zones
      pure 0

/-! ## Hwmon sensors and fans -/

/-- The sensors `temp1`, `temp2`, … of one device up to the first that cannot be read. -/
def hwmonSensors (hwmon : Int) : List Int → ReadM σ τ (List (Int × HwmonTemp))
  | [] => pure []
  | sensor :: rest => do
      match ← query (.thermalHwmonGetTemp hwmon sensor) with
      | .error _ => pure []
      | .ok temp =>
          let others ← hwmonSensors hwmon rest
          pure ((sensor, temp) :: others)

def sensorName (sensor : Int) : CStr :=
  bounded 16 ("temp".toList ++ showInt sensor)

def sensorFields (t : HwmonTemp) : List Field :=
  (if t.name = [] then [] else [.string "name" t.name]) ++
  (if t.label = [] then [] else [.string "label" t.label]) ++
  [.int "temp_mc" t.temp] ++
  (if 0 ≤ t.tempMax then [.int "max_mc" t.tempMax] else []) ++
  (if 0 ≤ t.tempCrit then [.int "crit_mc" t.tempCrit] else [])

/-- One device of the JSON listing: its number, then one object for each sensor. -/
def hwmonObject (hwmon : Int) (sensors : List (Int × HwmonTemp)) : CStr :=
  '{' :: (outJsonFields true [.int "hwmon" hwmon] ++
    outFieldObjects false (sensors.map fun sensor =>
      (sensorName sensor.1, sensorFields sensor.2)) ++ ['}'])

def hwmonItem (hwmon : Int) : ReadM σ τ CStr := do
  let sensors ← hwmonSensors hwmon (countUp 1 16)
  pure (hwmonObject hwmon sensors)

def hwmonRows (hwmon : Int) : ReadM σ τ Unit := do
  let sensors ← hwmonSensors hwmon (countUp 1 16)
  forEach
    (fun sensor =>
      outTableRow [bounded 16 ("hwmon".toList ++ showInt hwmon), sensorName sensor.1,
        dashIfEmpty sensor.2.name, showInt sensor.2.temp ++ " mC".toList])
    sensors

def thermalHwmonList (json : Bool) : ReadM σ τ Int := do
  match ← enumIndexed "/sys/class/hwmon" "hwmon" 64 with
  | none => refuse json Err.eio "cannot read /sys/class/hwmon" "thermal_hwmon_list"
  | some devices =>
      if json then
        let items ← collect hwmonItem devices
        put (okEnvelope (arrayText items))
      else
        outTable ["HWMON", "SENSOR", "NAME", "TEMP"]
        forEach hwmonRows devices
      pure 0

/-- `hw` and `fan` as the handler accepts them. -/
def parseHwmonFan (hwmon fan : CStr) : Option (Int × Int) := do
  let hw ← (cliParseInt hwmon).filter (0 ≤ ·)
  let fan ← (cliParseInt fan).filter (1 ≤ ·)
  pure (hw, fan)

def hwmonSetFan (hw fan : Int) (value : CStr) (json dryRun : Bool) : CliM σ τ Int :=
  match parsePwm value with
  | none => reading (refuse json Err.erange "pwm must be 0-255" "thermal hwmon fan")
  | some pwm =>
      if dryRun then
        reading (announce json (bounded 64 ("set hwmon".toList ++ showInt (toInt32 hw) ++
          " fan".toList ++ showInt (toInt32 fan) ++ " pwm=".toList ++ showInt pwm)))
      else
        setOrErr json (.thermalHwmonSetFanPwm (toInt32 hw) (toInt32 fan) pwm)
          (okBare [.int "hwmon" hw, .int "fan" fan, .int "pwm" pwm])
          (do outKvInt "hwmon" hw
              outKvInt "fan" fan
              outKvInt "set pwm" pwm)

def hwmonGetFan (hw fan : Int) (json : Bool) : ReadM σ τ Int := do
  let pwm ← queryOpt (.thermalHwmonGetFanPwm (toInt32 hw) (toInt32 fan))
  let auto ← queryOpt (.thermalHwmonGetFanAuto (toInt32 hw) (toInt32 fan))
  if pwm.isNone && auto.isNone then
    refuse json Err.enotsup "no fan control on this hwmon/fan" "thermal hwmon fan"
  else
    report json
      (okBare (.int "hwmon" hw :: .int "fan" fan ::
        (pwm.toList.map (.int "pwm") ++ auto.toList.map (.bool "auto"))))
      (do outKvInt "hwmon" hw
          outKvInt "fan" fan
          forEach (outKvInt "pwm") pwm.toList
          forEach (fun auto => outKv "auto" (trueFalse auto)) auto.toList)

def thermalHwmonFan (args : List CStr) (json dryRun : Bool) : CliM σ τ Int :=
  match args with
  | hwmon :: fan :: rest =>
      match parseHwmonFan hwmon fan with
      | none =>
          reading (refuse json Err.einval "hwmon and fan index must be non-negative integers"
            "thermal hwmon fan")
      | some (hw, fan) =>
          match rest with
          | value :: _ => asRoot json (hwmonSetFan hw fan value json dryRun)
          | [] => reading (hwmonGetFan hw fan json)
  | _ => reading (cliUsage "zenctl thermal hwmon fan <hwmon> <fan> [<0-255>]")

def thermalHwmon (args : List CStr) (json dryRun : Bool) : CliM σ τ Int :=
  match args with
  | [] => reading (thermalHwmonList json)
  | sub :: rest =>
      if sub = "fan" then thermalHwmonFan rest json dryRun
      else reading (cliUsage "zenctl thermal hwmon [fan <hwmon> <fan> [<0-255>]]")

/-! ## Zones -/

def tripFields (trip : Trip) : List Field :=
  [.int "index" trip.index, .string "type" trip.type, .int "temp_mc" trip.temp] ++
  (if 0 ≤ trip.hysteresis then [.int "hyst_mc" trip.hysteresis] else [])

def tripRow (trip : Trip) : List CStr :=
  [showInt trip.index, trip.type, showInt trip.temp ++ " mC".toList,
    temperatureCell trip.hysteresis]

def coolingFields (c : Cooling) : List Field :=
  [.int "index" c.index, .string "type" c.type, .int "cur_state" c.curState,
    .int "max_state" c.maxState]

def coolingRow (c : Cooling) : List CStr :=
  [showInt c.index, c.type, showInt c.curState, showInt c.maxState]

/-- The trips or the cooling devices of a zone; an element that cannot be read is skipped. -/
def thermalGetParts {β : Type} (zone : CStr) (json : Bool) (count : Query Int)
    (part : Int → Query β) (key : CStr) (fields : β → List Field) (header : List CStr)
    (row : β → List CStr) : ReadM σ τ Int :=
  readOrErr json count fun n => do
    if json then
      let items ← collect (fun i => queryOpt (part i)) (countUp 0 n)
      put (okBareArray [.string "zone" zone] key (items.map (Option.map fields)))
    else
      outKv "zone" zone
      outTable header
      forEach (fun i => optLine (part i) fun value => outTableRow (row value)) (countUp 0 n)
    pure 0

/-- One getter of `thermal get`: the zone and the value. -/
def thermalShow {β : Type} (zone : CStr) (json : Bool) (call : Query β)
    (fields : β → List Field) (lines : β → ReadM σ τ Unit) : ReadM σ τ Int :=
  showBare json call (fun value => .string "zone" zone :: fields value) fun value => do
    outKv "zone" zone
    lines value

def thermalGetUsage : CStr :=
  "zenctl thermal get <temp|type|policy|mode|trips|cooling> --zone Z"

def thermalGet (args : List CStr) (json : Bool) : ReadM σ τ Int :=
  match args with
  | [] => cliUsage thermalGetUsage
  | what :: _ =>
      match cliOpt "--zone" args with
      | none => refuse json Err.einval "--zone <name> is required" "thermal get"
      | some zone =>
          readOrErr json (.thermalOpen zone) fun tz => do
            let env ← getEnv
            if what = "temp" then
              thermalShow zone json (.thermalGetTemp tz)
                (fun v => [.int "temp_mc" v, .double "temp_c" (env.printG v 1000)])
                fun v => do
                  outKvInt "temp_mc" v
                  outKv "temp" (bounded 32 (env.printF 1 v 1000 ++ " C".toList))
            else if what = "type" then
              thermalShow zone json (.thermalGetType tz) (fun s => [.string "type" s])
                (outKv "type")
            else if what = "policy" then
              thermalShow zone json (.thermalGetPolicy tz) (fun s => [.string "policy" s])
                (outKv "policy")
            else if what = "mode" then
              thermalShow zone json (.thermalGetMode tz) (fun on => [.bool "enabled" on])
                fun on => outKv "enabled" (trueFalse on)
            else if what = "trips" then
              thermalGetParts zone json (.thermalGetTripCount tz) (.thermalGetTrip tz) "trips"
                tripFields ["IDX", "TYPE", "TEMP", "HYST"] tripRow
            else if what = "cooling" then
              thermalGetParts zone json (.thermalGetCoolingCount tz) (.thermalGetCooling tz)
                "cooling" coolingFields ["IDX", "TYPE", "CUR", "MAX"] coolingRow
            else cliUsage thermalGetUsage

def thermalSetPolicy (zone val : CStr) (json dryRun : Bool) (tz : ThermalHandle) :
    CliM σ τ Int :=
  if dryRun then
    reading (announce json
      (bounded 128 ("set policy=".toList ++ val ++ " zone=".toList ++ zone)))
  else
    setOrErr json (.thermalSetPolicy tz val)
      (okBare [.string "zone" zone, .string "policy" val])
      (do outKv "zone" zone
          outKv "set policy" val)

def thermalSetMode (zone val : CStr) (json dryRun : Bool) (tz : ThermalHandle) : CliM σ τ Int :=
  match cliParseBool val with
  | none =>
      reading (refuse json Err.einval "mode must be 'enabled' or 'disabled'" "thermal set mode")
  | some on =>
      if dryRun then
        reading (announce json (bounded 128 ("set mode=".toList ++
          (if on then "enabled" else "disabled").toList ++ " zone=".toList ++ zone)))
      else
        setOrErr json (.thermalSetMode tz on)
          (okBare [.string "zone" zone, .bool "enabled" on])
          (do outKv "zone" zone
              outKv "enabled" (trueFalse on))

/-- The index and the state of `thermal set cooling`. -/
def parseCooling (index state : CStr) : Option (Int × Int) := do
  let index ← (cliParseInt index).filter (0 ≤ ·)
  let state ← cliParseInt state
  pure (index, state)

def thermalSetCooling (zone index state : CStr) (json dryRun : Bool) (tz : ThermalHandle) :
    CliM σ τ Int :=
  match parseCooling index state with
  | none =>
      reading (refuse json Err.einval "cooling index and state must be integers"
        "thermal set cooling")
  | some (index, state) =>
      if dryRun then
        reading (announce json (bounded 128 ("set cooling[".toList ++ showInt index ++
          "]=".toList ++ showInt state ++ " zone=".toList ++ zone)))
      else
        setOrErr json (.thermalSetCoolingState tz (toInt32 index) (toInt32 state))
          (okBare [.string "zone" zone, .int "cooling_index" index, .int "state" state])
          (do outKv "zone" zone
              outKvInt "cooling_index" index
              outKvInt "state" state)

def thermalSet (args : List CStr) (json dryRun : Bool) : CliM σ τ Int :=
  match args with
  | what :: val :: rest =>
      match cliOpt "--zone" args with
      | none => reading (refuse json Err.einval "--zone <name> is required" "thermal set")
      | some zone =>
          asRoot json <| openOrErr json (.thermalOpen zone) fun tz =>
            if what = "policy" then thermalSetPolicy zone val json dryRun tz
            else if what = "mode" then thermalSetMode zone val json dryRun tz
            else if what = "cooling" then
              match rest with
              | state :: _ => thermalSetCooling zone val state json dryRun tz
              | [] => reading (cliUsage "zenctl thermal set cooling <index> <state> --zone Z")
            else
              reading (cliUsage "zenctl thermal set <policy|mode|cooling> <args> --zone Z")
  | _ => reading (cliUsage "zenctl thermal set <policy|mode|cooling> <args> --zone Z")

def cmdThermal (args : List CStr) (json dryRun : Bool) : CliM σ τ Int :=
  match args with
  | [] => reading (cliUsage "zenctl thermal <list|get|set|hwmon> ...")
  | sub :: rest =>
      if sub = "list" then reading (thermalList json)
      else if sub = "hwmon" then thermalHwmon rest json dryRun
      else if sub = "get" then reading (thermalGet rest json)
      else if sub = "set" then thermalSet rest json dryRun
      else reading (cliUsage "zenctl thermal <list|get|set|hwmon> ...")

end Zenctl
