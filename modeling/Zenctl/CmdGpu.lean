import Zenctl.Command
import Mathlib.Data.List.Sort

namespace Zenctl

open CString

/-!
# `zenctl gpu`

Successful getters and setters print their fields right behind `"data":`,
without an object around them; the two listings print an array of objects.
-/

variable {σ τ : Type}

/-- A directory entry that is the lead followed by one or more digits. -/
def isIndexed (lead name : CStr) : Bool :=
  startsWith lead name && name.drop lead.length ≠ [] && (name.drop lead.length).all isDigit

/-- `enum_indexed`: at most `cap` indices of such entries, sorted. -/
def enumIndexed (dir lead : CStr) (cap : Nat) : ReadM σ τ (Option (List Int)) := do
  match ← listDir dir with
  | none => pure none
  | some names =>
      let indices := ((names.filter (isIndexed lead)).take cap).map fun name =>
        atoi (name.drop lead.length)
      pure (some (indices.insertionSort (· ≤ ·)))

def enumCards : ReadM σ τ (Option (List Int)) :=
  enumIndexed "/sys/class/drm" "card" 64

def gpuListFields (card : Int) : ReadM σ τ (List Field) := do
  match ← query (.gpuOpen card) with
  | .error _ => pure [.int "card" card]
  | .ok g =>
      let driver ← optField (.gpuGetDriver g) (.string "driver")
      let vendor ← optField (.gpuGetVendor g) (.string "vendor")
      pure (.int "card" card :: driver ++ vendor)

def gpuListRow (card : Int) : ReadM σ τ Unit := do
  match ← query (.gpuOpen card) with
  | .error _ => outTableRow [showInt card, "-", "-"]
  | .ok g =>
      let driver ← queryOpt (.gpuGetDriver g)
      let vendor ← queryOpt (.gpuGetVendor g)
      outTableRow [showInt card, orDash driver, orDash vendor]

def gpuList (json : Bool) : ReadM σ τ Int := do
  match ← enumCards with
  | none => refuse json Err.eio "cannot read /sys/class/drm" "gpu_list"
  | some cards =>
      if json then
        let items ← collect gpuListFields cards
        put (okArray items)
      else
        outTable ["CARD", "DRIVER", "VENDOR"]
        forEach gpuListRow cards
      pure 0

/-- `gpu_emit_all_json`. -/
def gpuEmitAllJson (g : GpuHandle) : ReadM σ τ (List Field) := do
  let driver ← optField (.gpuGetDriver g) (.string "driver")
  let vendor ← optField (.gpuGetVendor g) (.string "vendor")
  let temp ← optField (.gpuGetTemp g) (.int "temp_mc")
  let power ← optField (.gpuGetPower g) (.int "power_uw")
  let freq ← optField (.gpuGetFreq g) (.int "freq_mhz")
  let pwm ← optField (.gpuGetFanPwm g) (.int "fan_pwm")
  let auto ← optField (.gpuGetFanAuto g) (.bool "fan_auto")
  let profile ← optField (.gpuAmdgpuGetPowerProfile g) (.string "profile")
  let busy ← optField (.gpuAmdgpuGetBusyPercent g) (.int "busy_percent")
  pure (driver ++ vendor ++ temp ++ power ++ freq ++ pwm ++ auto ++ profile ++ busy)

def gpuAllFields (card : Int) : ReadM σ τ (List Field) := do
  match ← query (.gpuOpen card) with
  | .error _ => pure [.int "card" card]
  | .ok g =>
      let fields ← gpuEmitAllJson g
      pure (.int "card" card :: fields)

def gpuAllLines (card : Int) : ReadM σ τ Unit := do
  match ← query (.gpuOpen card) with
  | .error err =>
      let _ ← cliErr false err
      pure ()
  | .ok g =>
      put ("card ".toList ++ showInt card ++ ":\n".toList)
      optLine (.gpuGetDriver g) (outKv "driver")
      optLine (.gpuGetVendor g) (outKv "vendor")
      optLine (.gpuGetTemp g) (outKvInt "temp_mc")
      optLine (.gpuGetPower g) (outKvInt "power_uw")
      optLine (.gpuGetFreq g) (outKvInt "freq_mhz")
      optLine (.gpuGetFanPwm g) (outKvInt "fan_pwm")
      optLine (.gpuGetFanAuto g) fun auto => outKv "fan_auto" (trueFalse auto)
      optLine (.gpuAmdgpuGetPowerProfile g) (outKv "profile")
      optLine (.gpuAmdgpuGetBusyPercent g) (outKvInt "busy_percent")

def gpuGetAll (args : List CStr) (json : Bool) : ReadM σ τ Int := do
  let sel := cliOptInt "--card" (-1) args
  match ← enumCards with
  | none => refuse json Err.eio "cannot read /sys/class/drm" "gpu_get_all"
  | some found =>
      let cards := if 0 ≤ sel then [sel] else found
      if json then
        let items ← collect gpuAllFields cards
        put (okArray items)
      else forEach gpuAllLines cards
      pure 0

def gpuGetUsage : CStr :=
  "zenctl gpu get <temp|fan|power|freq|driver|profile|busy|--all> [--card N]"

/-- One getter of `gpu get`: the card and the value. -/
def gpuShow {β : Type} (json : Bool) (card : Int) (call : Query β) (fields : β → List Field)
    (lines : β → ReadM σ τ Unit) : ReadM σ τ Int :=
  showBare json call (fun value => .int "card" card :: fields value) fun value => do
    outKvInt "card" card
    lines value

def gpuGetFan (json : Bool) (card : Int) (g : GpuHandle) : ReadM σ τ Int := do
  let pwm ← queryOpt (.gpuGetFanPwm g)
  let auto ← queryOpt (.gpuGetFanAuto g)
  if pwm.isSome || auto.isSome then
    report json
      (okBare (.int "card" card :: (pwm.toList.map (.int "pwm") ++ auto.toList.map (.bool "auto"))))
      (do outKvInt "card" card
          forEach (outKvInt "pwm") pwm.toList
          forEach (fun auto => outKv "auto" (trueFalse auto)) auto.toList)
  else refuse json Err.enotsup "no fan control exposed by driver" "gpu get fan"

def gpuGet (args : List CStr) (json : Bool) : ReadM σ τ Int :=
  match args with
  | [] => cliUsage gpuGetUsage
  | what :: _ =>
      if what = "--all" then gpuGetAll args json
      else
        let card := cliOptInt "--card" 0 args
        readOrErr json (.gpuOpen card) fun g => do
          let env ← getEnv
          if what = "temp" then
            gpuShow json card (.gpuGetTemp g)
              (fun v => [.int "temp_mc" v, .double "temp_c" (env.printG v 1000)])
              fun v => do
                outKvInt "temp_mc" v
                outKv "temp" (bounded 32 (env.printF 1 v 1000 ++ " C".toList))
          else if what = "fan" then gpuGetFan json card g
          else if what = "power" then
            gpuShow json card (.gpuGetPower g)
              (fun v => [.int "power_uw" v, .double "power_w" (env.printG v 1000000)])
              fun v => do
                outKvInt "power_uw" v
                outKv "power" (bounded 32 (env.printF 2 v 1000000 ++ " W".toList))
          else if what = "freq" then
            gpuShow json card (.gpuGetFreq g) (fun v => [.int "freq_mhz" v]) (outKvInt "freq_mhz")
          else if what = "driver" then
            gpuShow json card (.gpuGetDriver g) (fun s => [.string "driver" s]) (outKv "driver")
          else if what = "profile" then
            gpuShow json card (.gpuAmdgpuGetPowerProfile g) (fun s => [.string "profile" s])
              (outKv "profile")
          else if what = "busy" then
            gpuShow json card (.gpuAmdgpuGetBusyPercent g) (fun v => [.int "busy_percent" v])
              (outKvInt "busy_percent")
          else cliUsage gpuGetUsage

/-- The accepted fan duty cycles. -/
def parsePwm (text : CStr) : Option Int :=
  (cliParseInt text).filter fun pwm => 0 ≤ pwm && pwm ≤ 255

def gpuSetFan (val : CStr) (json dryRun : Bool) (g : GpuHandle) : CliM σ τ Int :=
  if val = "auto" then
    if dryRun then reading (announce json "set fan auto")
    else
      setOrErr json (.gpuSetFanAuto g true) (okEnvelope "\"fan=auto\"".toList)
        (outKv "set" "fan=auto")
  else
    match parsePwm val with
    | none => reading (refuse json Err.erange "pwm must be 0-255 or 'auto'" "gpu set fan")
    | some pwm =>
        if dryRun then
          reading (announce json (bounded 64 ("set fan pwm=".toList ++ showInt pwm)))
        else
          setOrErr json (.gpuSetFanPwm g pwm) (okBare [.int "fan_pwm" pwm])
            (outKvInt "set fan_pwm" pwm)

def gpuSet (args : List CStr) (json dryRun : Bool) : CliM σ τ Int :=
  match args with
  | what :: val :: _ =>
      asRoot json <| openOrErr json (.gpuOpen (cliOptInt "--card" 0 args)) fun g =>
        if what = "fan" then gpuSetFan val json dryRun g
        else if what = "profile" then
          if dryRun then
            reading (announce json (bounded 128 ("set profile=".toList ++ val)))
          else
            setOrErr json (.gpuAmdgpuSetPowerProfile g val) (okBare [.string "profile" val])
              (outKv "set profile" val)
        else reading (cliUsage "zenctl gpu set <fan|profile> <value> [--card N]")
  | _ => reading (cliUsage "zenctl gpu set <fan|profile> <value> [--card N]")

def cmdGpu (args : List CStr) (json dryRun : Bool) : CliM σ τ Int :=
  match args with
  | [] => reading (cliUsage "zenctl gpu <list|get|set> ...")
  | sub :: rest =>
      if sub = "list" then reading (gpuList json)
      else if sub = "get" then reading (gpuGet rest json)
      else if sub = "set" then gpuSet rest json dryRun
      else reading (cliUsage "zenctl gpu <list|get|set> ...")

end Zenctl
