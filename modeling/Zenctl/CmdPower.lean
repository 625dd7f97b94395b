import Zenctl.Command

namespace Zenctl

open CString

/-!
# `zenctl power`
-/

variable {σ τ : Type}

def powerGetStates (json : Bool) : ReadM σ τ Int :=
  readOrErr json .powerGetSupportedStates fun states =>
    report json
      (okEnvelope ("\"states\":".toList ++ arrayText ((tokens states).map outJsonEscape)))
      (outKv "states" states)

def powerGetMemSleep (json : Bool) : ReadM σ τ Int :=
  showBare json .powerGetMemSleepMode (fun s => [.string "mem_sleep" s]) (outKv "mem_sleep")

/-- A field that is left out when its value is negative, i.e. not known. -/
def knownInt (key : CStr) (value : Int) : List Field :=
  if 0 ≤ value then [.int key value] else []

/-- A field that is left out when its value is zero. -/
def nonzeroInt (key : CStr) (value : Int) : List Field :=
  if value ≠ 0 then [.int key value] else []

/-- A field that is left out when its text is empty. -/
def nonemptyString (key value : CStr) : List Field :=
  if value = [] then [] else [.string key value]

/-- `battery_emit` in JSON mode. -/
def batteryFields (b : Battery) (index : Int) : List Field :=
  [.int "index" index, .string "name" b.name] ++ nonemptyString "status" b.status ++
  knownInt "capacity" b.capacity ++ knownInt "charge_full_uah" b.chargeFull ++
  knownInt "charge_full_design_uah" b.chargeFullDesign ++
  knownInt "charge_now_uah" b.chargeNow ++ nonzeroInt "current_now_ua" b.currentNow ++
  nonzeroInt "voltage_now_uv" b.voltageNow ++ knownInt "cycle_count" b.cycleCount ++
  nonemptyString "technology" b.technology

/-- A field as a `key: value` line. -/
def fieldLine : Field → ReadM σ τ Unit
  | .string key value => outKv key value
  | .int key value => outKvInt key value
  | .bool key value => outKv key (trueFalse value)
  | .double key text => outKv key text

/-- `battery_emit` in table mode: the line labelled `index` shows the name. -/
def batteryLines (b : Battery) : ReadM σ τ Unit :=
  forEach fieldLine
    ([.string "index" b.name] ++ nonemptyString "status" b.status ++
      knownInt "capacity_percent" b.capacity ++ knownInt "charge_full_uah" b.chargeFull ++
      knownInt "charge_full_design_uah" b.chargeFullDesign ++
      knownInt "charge_now_uah" b.chargeNow ++ nonzeroInt "current_now_ua" b.currentNow ++
      nonzeroInt "voltage_now_uv" b.voltageNow ++ knownInt "cycle_count" b.cycleCount ++
      nonemptyString "technology" b.technology)

/-- The optional battery index: `-1` stands for all batteries. -/
def parseBatteryIndex : List CStr → Option Int
  | _ :: index :: _ => ((cliParseInt index).filter (0 ≤ ·)).map toInt32
  | _ => some (-1)

def batteryItem (index : Int) : ReadM σ τ (Option (List Field)) := do
  let battery ← queryOpt (.powerBatteryGet index)
  pure (battery.map fun b => batteryFields b index)

def batteryRow (index : Int) : ReadM σ τ Unit :=
  optLine (.powerBatteryGet index) fun b =>
    outTableRow [showInt index, b.name, dashIfEmpty b.status, showInt b.capacity ++ ['%']]

def powerGetBattery (args : List CStr) (json : Bool) : ReadM σ τ Int :=
  match parseBatteryIndex args with
  | none =>
      refuse json Err.einval "battery index must be a non-negative integer" "power get battery"
  | some index =>
      readOrErr json .powerBatteryCount fun count =>
        if 0 ≤ index then
          readOrErr json (.powerBatteryGet index) fun b =>
            report json (okObject (batteryFields b index)) (batteryLines b)
        else do
          if json then
            let items ← collect batteryItem (countUp 0 count)
            put (okIndexedArray items)
          else
            outTable ["IDX", "NAME", "STATUS", "CAP"]
            forEach batteryRow (countUp 0 count)
          pure 0

def powerGetChargeThresholds (args : List CStr) (json : Bool) : ReadM σ τ Int :=
  match args with
  | _ :: text :: _ =>
      match (cliParseInt text).filter (0 ≤ ·) with
      | none => refuse json Err.einval "bad index" "charge-thresholds"
      | some index => do
          let start ← query (.powerBatteryGetChargeStart (toInt32 index))
          let stop ← query (.powerBatteryGetChargeEnd (toInt32 index))
          match start, stop with
          | .error e1, .error e2 => cliErr json (if e1.code ≠ 0 then e1 else e2)
          | _, _ =>
              report json
                (okBare (.int "index" index ::
                  (start.toOption.toList.map (.int "start_percent") ++
                    stop.toOption.toList.map (.int "end_percent"))))
                (do outKvInt "index" index
                    forEach (outKvInt "start_percent") start.toOption.toList
                    forEach (outKvInt "end_percent") stop.toOption.toList)
  | _ => refuse json Err.einval "battery index required" "power get charge-thresholds"

def powerGetAc (json : Bool) : ReadM σ τ Int :=
  showBare json .powerAcOnline (fun on => [.bool "online" on])
    fun on => outKv "ac_online" (trueFalse on)

/-- A list of strings as a JSON array or one line each. -/
def showNames (json : Bool) (call : Query (List CStr)) : ReadM σ τ Int :=
  readOrErr json call fun names =>
    report json (okEnvelope (arrayText (names.map outJsonEscape)))
      (forEach (fun name => put (name ++ ['\n'])) names)

def powerGetWakeup (json : Bool) : ReadM σ τ Int :=
  showNames json .powerGetWakeupDevices

def powerGetUsage : CStr :=
  "zenctl power get <states|mem-sleep|battery|charge-thresholds|ac|wakeup>"

def powerGet (args : List CStr) (json : Bool) : ReadM σ τ Int :=
  match args with
  | [] => cliUsage powerGetUsage
  | what :: _ =>
      if what = "states" then powerGetStates json
      else if what = "mem-sleep" then powerGetMemSleep json
      else if what = "battery" then powerGetBattery args json
      else if what = "charge-thresholds" then powerGetChargeThresholds args json
      else if what = "ac" then powerGetAc json
      else if what = "wakeup" then powerGetWakeup json
      else cliUsage powerGetUsage

/-! ## Setters -/

def powerSetMemSleep (args : List CStr) (json dryRun : Bool) : CliM σ τ Int :=
  match args with
  | _ :: mode :: _ =>
      asRoot json <|
        if dryRun then reading (announce json (bounded 128 ("set mem_sleep=".toList ++ mode)))
        else
          setOrErr json (.powerSetMemSleepMode mode) (okBare [.string "mem_sleep" mode])
            (outKv "set mem_sleep" mode)
  | _ => reading (refuse json Err.einval "mem_sleep mode required" "power set mem-sleep")

/-- The battery index and the percentage of a charge threshold. -/
def parseCharge (index percent : CStr) : Option (Int × Int) := do
  let index ← (cliParseInt index).filter (0 ≤ ·)
  let percent ← (cliParseInt percent).filter fun p => 0 ≤ p && p ≤ 100
  pure (index, percent)

def powerSetCharge (args : List CStr) (json dryRun isStart : Bool) : CliM σ τ Int :=
  match args with
  | _ :: index :: percent :: _ =>
      match parseCharge index percent with
      | none =>
          reading (refuse json Err.einval "bad index or percent (0..100)" "power set charge-*")
      | some (index, percent) =>
          asRoot json <|
            if dryRun then
              reading (announce json (bounded 128 ("set ".toList ++
                (if isStart then "charge_start" else "charge_end").toList ++
                " battery[".toList ++ showInt index ++ "]=".toList ++ showInt percent ++ ['%'])))
            else
              setOrErr json
                (if isStart then .powerBatterySetChargeStart (toInt32 index) percent
                 else .powerBatterySetChargeEnd (toInt32 index) percent)
                (okBare [.int "index" index,
                  .int (if isStart then "start_percent" else "end_percent").toList percent])
                (do outKvInt "index" index
                    outKvInt (if isStart then "set start_percent" else "set end_percent").toList
                      percent)
  | _ =>
      reading (refuse json Err.einval "battery index and percent required" "power set charge-*")

def powerSetUsage : CStr := "zenctl power set <mem-sleep|charge-start|charge-end> ..."

def powerSet (args : List CStr) (json dryRun : Bool) : CliM σ τ Int :=
  match args with
  | [] => reading (cliUsage powerSetUsage)
  | what :: _ =>
      if what = "mem-sleep" then powerSetMemSleep args json dryRun
      else if what = "charge-start" then powerSetCharge args json dryRun true
      else if what = "charge-end" then powerSetCharge args json dryRun false
      else reading (cliUsage powerSetUsage)

def parseSleepState (name : CStr) : Option SleepState :=
  if name = "freeze" then some .freeze
  else if name = "mem" then some .mem
  else if name = "disk" then some .disk
  else if name = "standby" then some .standby
  else none

def powerSuspend (args : List CStr) (json dryRun confirm : Bool) : CliM σ τ Int :=
  match args with
  | [] => reading (cliUsage "zenctl power suspend <freeze|mem|disk|standby> --confirm")
  | name :: _ =>
      match parseSleepState name with
      | none => reading (refuse json Err.einval "state must be freeze|mem|disk|standby"
          "power suspend")
      | some state =>
          -- suspending freezes the system, so it is never done on the bare command
          if confirm = false then
            reading (confirmRequired json "suspend requires --confirm to proceed")
          else
            asRoot json <|
              if dryRun then
                reading (announce json (bounded 64 ("would suspend to ".toList ++ name)))
              else
                setOrErr json (.powerSuspend state) (okBare [.string "resumed_from" name])
                  (outKv "resumed_from" name)

def cmdPower (args : List CStr) (json dryRun confirm : Bool) : CliM σ τ Int :=
  match args with
  | [] => reading (cliUsage "zenctl power <get|set|suspend> ...")
  | sub :: rest =>
      if sub = "get" then reading (powerGet rest json)
      else if sub = "set" then powerSet rest json dryRun
      else if sub = "suspend" then powerSuspend rest json dryRun confirm
      else reading (cliUsage "zenctl power <get|set|suspend> ...")

end Zenctl
