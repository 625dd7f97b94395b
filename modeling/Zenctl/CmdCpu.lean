import Zenctl.Command

namespace Zenctl

open CString

/-!
# `zenctl cpu`

Read targets print one array with an element for every CPU that answers; the
writing targets either announce the change (`--dry-run`) or apply it CPU by
CPU.  Taking a CPU offline and switching SMT off ask for confirmation first.
-/

variable {σ τ : Type}

/-- A frequency with an optional unit, in Hz. -/
def parseFreq (env : Env) (text : CStr) : Option Int :=
  if text = [] then none
  else
    match env.strtod text with
    | none => none
    | some (scaled, rest) =>
        match rest.dropWhile isSpace with
        | [] => some (scaled 1)
        | u :: _ =>
            if toLower u = 'm' then some (scaled 1000000)
            else if toLower u = 'g' then some (scaled 1000000000)
            else if toLower u = 'k' then some (scaled 1000)
            else none

/-- The `--cpu` option: an index, `-1` for all CPUs, `-2` for an error. -/
def parseCpuArg (args : List CStr) : Int :=
  match cmdOptStr "--cpu" args with
  | .absent => -1
  | .missing => -2
  | .value v =>
      if v = "all" then -1
      else
        match wholeInt v with
        | some n => if n < 0 then -2 else toInt32 n
        | none => -2

/-- The CPUs a `--cpu` value stands for, as the bounds of a counting loop. -/
def cpuBounds (cpuIdx ncpu : Int) : Int × Int :=
  if cpuIdx = -1 then (0, ncpu) else (cpuIdx, toInt32 (cpuIdx + 1))

/-- `count_cstates`, with the number of probes left. -/
def countCstates (cpu : CpuHandle) (n : Int) : Nat → ReadM σ τ Int
  | 0 => pure n
  | probes + 1 => do
      match ← query (.cpuGetCstateDisable cpu n) with
      | .error _ => pure n
      | .ok _ => countCstates cpu (n + 1) probes

/-- One element of a `cstates` array, if the state can be read. -/
def cstateItem (cpu : CpuHandle) (state : Int) : ReadM σ τ (Option CStr) := do
  match ← query (.cpuGetCstateDisable cpu state) with
  | .error _ => pure none
  | .ok disabled => pure (some (objectText [.int "state" state, .bool "disabled" disabled]))

def emitCpuJson (cpu : CpuHandle) (idx : Int) : ReadM σ τ CStr := do
  let governor ← optField (.cpuGetGovernor cpu) (.string "governor")
  let freqMin ← optField (.cpuGetFreqMin cpu) (.int "freq_min_hz")
  let freqMax ← optField (.cpuGetFreqMax cpu) (.int "freq_max_hz")
  let online ← optField (.cpuGetOnline cpu) (.bool "online")
  let fields := [.int "cpu" idx] ++ governor ++ freqMin ++ freqMax ++ online
  let count ← countCstates cpu 0 65
  if 0 < count then
    let states ← collect (cstateItem cpu) (countUp 0 count)
    pure ('{' :: (outJsonFields true fields ++ emitComma fields.isEmpty ++
      outJsonEscape "cstates" ++ ':' :: (arrayText (states.filterMap id) ++ ['}'])))
  else
    pure (objectText fields)

/-- A getter as a table cell, `-` when it fails. -/
def cellOr {β : Type} (call : Query β) (cell : β → CStr) : ReadM σ τ CStr := do
  match ← query call with
  | .ok value => pure (cell value)
  | .error _ => pure "-"

def printCpuTableRow (cpu : CpuHandle) (idx : Int) : ReadM σ τ Unit := do
  let env ← getEnv
  let governor ← cellOr (.cpuGetGovernor cpu) (bounded 64)
  let freqMin ← cellOr (.cpuGetFreqMin cpu) (fun hz => bounded 32 (cmdFormatHz env hz))
  let freqMax ← cellOr (.cpuGetFreqMax cpu) (fun hz => bounded 32 (cmdFormatHz env hz))
  let online ← cellOr (.cpuGetOnline cpu) (fun on => if on then "on" else "off")
  outTableRow [showInt idx, governor, freqMin, freqMax, online]

/-- Open one CPU and run a reader on it; a CPU that cannot be opened is skipped. -/
def withCpu (reader : CpuHandle → ReadM σ τ (Option CStr)) (c : Int) :
    ReadM σ τ (Option CStr) := do
  match ← query (.cpuOpen c) with
  | .error _ => pure none
  | .ok cpu => reader cpu

/-- The table counterpart of `withCpu`. -/
def withCpuRow (printer : CpuHandle → ReadM σ τ Unit) (c : Int) : ReadM σ τ Unit := do
  match ← query (.cpuOpen c) with
  | .error _ => pure ()
  | .ok cpu => printer cpu

def governorItem (c : Int) (cpu : CpuHandle) : ReadM σ τ (Option CStr) := do
  match ← query (.cpuGetGovernor cpu) with
  | .error _ => pure none
  | .ok governor => pure (some (objectText [.int "cpu" c, .string "governor" governor]))

def governorRow (c : Int) (cpu : CpuHandle) : ReadM σ τ Unit := do
  match ← query (.cpuGetGovernor cpu) with
  | .error _ => pure ()
  | .ok governor => outTableRow [showInt c, governor]

def freqItem (c : Int) (cpu : CpuHandle) : ReadM σ τ (Option CStr) := do
  let freqMin ← optField (.cpuGetFreqMin cpu) (.int "freq_min_hz")
  let freqMax ← optField (.cpuGetFreqMax cpu) (.int "freq_max_hz")
  if freqMin = [] ∧ freqMax = [] then pure none
  else pure (some (objectText ([.int "cpu" c] ++ freqMin ++ freqMax)))

def freqRow (c : Int) (cpu : CpuHandle) : ReadM σ τ Unit := do
  let env ← getEnv
  let freqMin ← cellOr (.cpuGetFreqMin cpu) (fun hz => bounded 32 (cmdFormatHz env hz))
  let freqMax ← cellOr (.cpuGetFreqMax cpu) (fun hz => bounded 32 (cmdFormatHz env hz))
  outTableRow [showInt c, freqMin, freqMax]

def onlineItem (c : Int) (cpu : CpuHandle) : ReadM σ τ (Option CStr) := do
  match ← query (.cpuGetOnline cpu) with
  | .error _ => pure none
  | .ok on => pure (some (objectText [.int "cpu" c, .bool "online" on]))

def onlineRow (c : Int) (cpu : CpuHandle) : ReadM σ τ Unit := do
  match ← query (.cpuGetOnline cpu) with
  | .error _ => pure ()
  | .ok on => outTableRow [showInt c, if on then "on" else "off"]

/-- The shape shared by `cpu get governor`, `cpu get freq` and `cpu get online`. -/
def cpuGetEach (args : List CStr) (json : Bool) (header : List CStr)
    (item : Int → CpuHandle → ReadM σ τ (Option CStr))
    (row : Int → CpuHandle → ReadM σ τ Unit) : ReadM σ τ Int := do
  let cpuIdx := parseCpuArg args
  if cpuIdx = -2 then failWith json none "invalid --cpu value"
  else
    let ncpu ← cmdCountCpus
    let bounds := cpuBounds cpuIdx ncpu
    if json then
      let items ← collect (fun c => withCpu (item c) c) (countUp bounds.1 bounds.2)
      put (okObjectArray [] "cpus" (items.filterMap id))
    else
      outTable header
      forEach (fun c => withCpuRow (row c) c) (countUp bounds.1 bounds.2)
    pure 0

def cpuGetGovernor (args : List CStr) (json : Bool) : ReadM σ τ Int :=
  cpuGetEach args json ["CPU", "GOVERNOR"] governorItem governorRow

def cpuGetFreq (args : List CStr) (json : Bool) : ReadM σ τ Int :=
  cpuGetEach args json ["CPU", "FREQ_MIN", "FREQ_MAX"] freqItem freqRow

def cpuGetOnline (args : List CStr) (json : Bool) : ReadM σ τ Int :=
  cpuGetEach args json ["CPU", "ONLINE"] onlineItem onlineRow

/-! ## Setting governor and frequency -/

/-- Apply a setter to one CPU; `none` when the CPU cannot be opened. -/
def cpuApply (set : CpuHandle → Update) (c : Int) :
    CliM σ τ (Int × Option (Except Err Unit)) := do
  match ← reading (query (.cpuOpen c)) with
  | .error _ => pure (c, none)
  | .ok cpu =>
      let result ← update (set cpu)
      pure (c, some result)

def setResultItem : Int × Option (Except Err Unit) → Option CStr
  | (_, none) => none
  | (c, some (.ok _)) => some (objectText [.int "cpu" c, .bool "ok" true])
  | (c, some (.error err)) =>
      some (objectText [.int "cpu" c, .bool "ok" false, .int "code" err.code,
        .string "error" err.message])

def setResultLine (done : CStr) : Int × Option (Except Err Unit) → ReadM σ τ Unit
  | (c, none) => outErr (bounded 64 ("cpu".toList ++ showInt c ++ ": open failed".toList))
  | (c, some (.ok _)) => put ("cpu".toList ++ showInt c ++ ": ".toList ++ done ++ ['\n'])
  | (c, some (.error err)) =>
      outErr (bounded 512 ("cpu".toList ++ showInt c ++ ": ".toList ++ err.message))

def setFailed : Int × Option (Except Err Unit) → Bool
  | (_, some (.ok _)) => false
  | _ => true

/-- The loop shared by `cpu set governor` and `cpu set freq-min|freq-max`. -/
def cpuSetEach (json : Bool) (bounds : Int × Int) (set : CpuHandle → Update) (done : CStr) :
    CliM σ τ Int := do
  let results ← collectCli (cpuApply set) (countUp bounds.1 bounds.2)
  let _ ← reading (report json
    (okObjectArray [] "results" (results.filterMap setResultItem))
    (forEach (setResultLine done) results))
  pure (if results.any setFailed then 1 else 0)

def cpuSetGovernor (args : List CStr) (json dryRun : Bool) : CliM σ τ Int := do
  match positionalArg args 0 with
  | none => reading (failWith json none "missing governor name")
  | some governor =>
      let cpuIdx := parseCpuArg args
      if cpuIdx = -2 then reading (failWith json none "invalid --cpu value")
      else
        let ncpu ← reading cmdCountCpus
        let bounds := cpuBounds cpuIdx ncpu
        if dryRun then
          reading (report json
            (okObject [.bool "dry_run" true, .string "action" "set_governor",
              .string "governor" governor, .int "cpu_start" bounds.1,
              .int "cpu_end" bounds.2])
            (outDryrun (bounded 256 ("Would set governor='".toList ++ governor ++
              "' on CPUs ".toList ++ showInt bounds.1 ++ "..".toList ++
              showInt (toInt32 (bounds.2 - 1))))))
        else
          cpuSetEach json bounds (fun cpu => .cpuSetGovernor cpu governor)
            ("governor=".toList ++ governor)

def cpuSetFreq (args : List CStr) (json dryRun isMax : Bool) : CliM σ τ Int := do
  let env ← reading getEnv
  match positionalArg args 0 with
  | none => reading (failWith json none "missing frequency value")
  | some text =>
      match parseFreq env text with
      | none =>
          reading (failWith json none (bounded 512 ("invalid frequency '".toList ++ text ++
            "' (try 3.6GHz, 3600M, 3600000)".toList)))
      | some hz =>
          let cpuIdx := parseCpuArg args
          if cpuIdx = -2 then reading (failWith json none "invalid --cpu value")
          else
            let ncpu ← reading cmdCountCpus
            let bounds := cpuBounds cpuIdx ncpu
            let which : CStr := if isMax then "freq-max" else "freq-min"
            let pretty := bounded 32 (cmdFormatHz env hz)
            if dryRun then
              reading (report json
                (okObject [.bool "dry_run" true, .string "action" "set_freq",
                  .string "which" which, .int "hz" hz, .int "cpu_start" bounds.1,
                  .int "cpu_end" bounds.2])
                (outDryrun (bounded 256 ("Would set ".toList ++ which ++ "=".toList ++
                  pretty ++ " (".toList ++ showInt hz ++ " Hz) on CPUs ".toList ++
                  showInt bounds.1 ++ "..".toList ++ showInt (toInt32 (bounds.2 - 1))))))
            else
              cpuSetEach json bounds
                (fun cpu => if isMax then .cpuSetFreqMax cpu hz else .cpuSetFreqMin cpu hz)
                (which ++ "=".toList ++ pretty)

/-! ## Online state and SMT -/

/-- `ask_confirm`: the flag answers the question without asking it. -/
def askConfirm (what : CStr) (confirm : Bool) : CliM σ τ Bool :=
  if confirm then pure true else prompt what

/-- The word `on` or `off`. -/
def parseOnOff (text : CStr) : Option Bool :=
  if text = "on" then some true else if text = "off" then some false else none

/-- The refusal printed when the prompt is not answered with yes. -/
def cancelled (json : Bool) : ReadM σ τ Int := do
  if json then put (outJsonError 3 "operation cancelled by user")
  else outErr "operation cancelled"
  pure 1

/-- Open a CPU, call a setter on it and report either end. -/
def cpuSetOne (json : Bool) (c : Int) (noOpen fallback : CStr) (set : CpuHandle → Update)
    (document : CStr) (lines : ReadM σ τ Unit) : CliM σ τ Int := do
  match ← reading (query (.cpuOpen c)) with
  | .error err => reading (failWith json (some err) noOpen)
  | .ok cpu => setOr json (set cpu) fallback document lines

def cpuSetOnline (args : List CStr) (json dryRun confirm : Bool) : CliM σ τ Int := do
  match positionalArg args 0 with
  | none => reading (failWith json none "missing on/off argument")
  | some word =>
      match parseOnOff word with
      | none => reading (failWith json none "argument must be 'on' or 'off'")
      | some on =>
          let c := parseCpuArg args
          if c = -2 then reading (failWith json none "invalid --cpu value")
          else if c = -1 then
            reading (failWith json none
              "online set requires explicit --cpu N (use --cpu all is not supported for safety)")
          else if dryRun then
            reading (report json
              (okObject [.bool "dry_run" true, .string "action" "set_online",
                .int "cpu" c, .bool "on" on])
              (outDryrun ("Would set cpu".toList ++ showInt c ++
                (if on then " online" else " offline").toList)))
          else
            let what := (if on then "online cpu" else "offline cpu").toList ++ showInt c
            let allowed ← if on then pure true else askConfirm what confirm
            if allowed then
              cpuSetOne json c "cpu open failed" "set online failed"
                (fun cpu => .cpuSetOnline cpu on)
                (okObject [.int "cpu" c, .bool "online" on])
                (put ("cpu".toList ++ showInt c ++
                  (if on then ": online\n" else ": offline\n").toList))
            else reading (cancelled json)

def cpuGetSmt (json : Bool) : ReadM σ τ Int := do
  match ← query (.cpuOpen 0) with
  | .error err => failWith json (some err) "cannot open cpu0"
  | .ok _ =>
      match ← query .cpuGetSmtActive with
      | .error err => failWith json (some err) "cannot read SMT state"
      | .ok active =>
          report json (okObject [.bool "smt_active" active])
            (outKv "SMT active" (if active then "yes" else "no"))

def cpuSetSmt (args : List CStr) (json dryRun confirm : Bool) : CliM σ τ Int := do
  match positionalArg args 0 with
  | none => reading (failWith json none "missing on/off argument")
  | some word =>
      match parseOnOff word with
      | none => reading (failWith json none "argument must be 'on' or 'off'")
      | some on =>
          if dryRun then
            reading (report json
              (okObject [.bool "dry_run" true, .string "action" "set_smt", .bool "on" on])
              (outDryrun (if on then "Would set SMT on" else "Would set SMT off")))
          else
            let allowed ← if on then pure true
              else askConfirm "disable SMT (this offlines sibling threads)" confirm
            if allowed then
              cpuSetOne json 0 "cannot open cpu0" "set SMT failed"
                (fun _ => .cpuSetSmtActive on)
                (okObject [.bool "smt_active" on])
                (put (if on then "SMT: on\n" else "SMT: off\n"))
            else reading (cancelled json)

/-! ## C-states -/

def cstateRow (cpuIdx : Int) (cpu : CpuHandle) (state : Int) : ReadM σ τ Unit := do
  match ← query (.cpuGetCstateDisable cpu state) with
  | .error _ => pure ()
  | .ok disabled =>
      outTableRow [showInt cpuIdx, showInt state, if disabled then "yes" else "no"]

/-- The states listed by `cpu get cstate`: the chosen one, or all that were counted. -/
def cstateList (chosen : Opt Int) (count : Int) : List Int :=
  match chosen with
  | .value state =>
      if 0 ≤ state then countUp (toInt32 state) (toInt32 state + 1) else countUp 0 count
  | _ => countUp 0 count

def cpuGetCstate (args : List CStr) (json : Bool) : ReadM σ τ Int := do
  let chosen := parseCpuArg args
  if chosen = -2 then failWith json none "invalid --cpu value"
  else
    let cpuIdx := if chosen = -1 then 0 else chosen
    let filter := cmdOptInt "--state" args
    if filter = .missing then failWith json none "invalid --state value"
    else
      match ← query (.cpuOpen cpuIdx) with
      | .error err => failWith json (some err) "cpu open failed"
      | .ok cpu =>
          let n ← countCstates cpu 0 65
          if json then
            let items ← collect (cstateItem cpu) (cstateList filter n)
            put (okObjectArray [.int "cpu" cpuIdx] "cstates" (items.filterMap id))
          else
            outTable ["CPU", "STATE", "DISABLED"]
            forEach (cstateRow cpuIdx cpu) (cstateList filter n)
          pure 0

def cpuSetCstate (args : List CStr) (json dryRun : Bool) : CliM σ τ Int := do
  match positionalArg args 0, positionalArg args 1 with
  | some stateText, some word =>
      match (wholeInt stateText).filter (0 ≤ ·) with
      | none => reading (failWith json none "invalid state index")
      | some state =>
          if word ≠ "disable".toList ∧ word ≠ "enable".toList then
            reading (failWith json none "argument must be 'enable' or 'disable'")
          else
            let disable : Bool := word = "disable".toList
            let chosen := parseCpuArg args
            if chosen = -2 then reading (failWith json none "invalid --cpu value")
            else
              let cpuIdx := if chosen = -1 then 0 else chosen
              if dryRun then
                reading (report json
                  (okObject [.bool "dry_run" true, .string "action" "set_cstate",
                    .int "cpu" cpuIdx, .int "state" state, .bool "disable" disable])
                  (outDryrun (bounded 128
                    ((if disable then "Would disable" else "Would enable").toList ++
                    " C-state ".toList ++ showInt state ++ " on cpu".toList ++
                    showInt cpuIdx))))
              else
                cpuSetOne json cpuIdx "cpu open failed" "set cstate failed"
                  (fun cpu => .cpuSetCstateDisable cpu (toInt32 state) disable)
                  (okObject [.int "cpu" cpuIdx, .int "state" (toInt32 state),
                    .bool "disabled" disable])
                  (put ("cpu".toList ++ showInt cpuIdx ++ ": C-state ".toList ++
                    showInt state ++ (if disable then " disabled\n" else " enabled\n").toList))
  | _, _ =>
      reading (failWith json none "usage: set cstate <state> <enable|disable> [--cpu N]")

/-! ## Dispatch -/

def cpuGetAll (json : Bool) : ReadM σ τ Int := do
  let ncpu ← cmdCountCpus
  if json then
    let smt ← do
      match ← query (.cpuOpen 0) with
      | .error _ => pure []
      | .ok _ => optField .cpuGetSmtActive (.bool "smt_active")
    let items ← collect
      (fun c => withCpu (fun cpu => do pure (some (← emitCpuJson cpu c))) c) (countUp 0 ncpu)
    put (okObjectArray smt "cpus" (items.filterMap id))
  else
    outTable ["CPU", "GOVERNOR", "FREQ_MIN", "FREQ_MAX", "ONLINE"]
    forEach (fun c => withCpuRow (fun cpu => printCpuTableRow cpu c) c) (countUp 0 ncpu)
  pure 0

def cmdCpuGet (args : List CStr) (json : Bool) : ReadM σ τ Int :=
  match args with
  | [] => failWith json none "missing get target"
  | what :: rest =>
      if what = "--all" ∨ what = "-a" then cpuGetAll json
      else if what = "governor" then cpuGetGovernor rest json
      else if what = "freq" then cpuGetFreq rest json
      else if what = "online" then cpuGetOnline rest json
      else if what = "smt" then cpuGetSmt json
      else if what = "cstate" then cpuGetCstate rest json
      else unknownWord json "unknown cpu get target '" what
        "'. Valid: governor, freq, online, smt, cstate"

def cmdCpuSet (args : List CStr) (json dryRun confirm : Bool) : CliM σ τ Int :=
  match args with
  | [] => reading (failWith json none "missing set target")
  | what :: rest =>
      if what = "governor" then cpuSetGovernor rest json dryRun
      else if what = "freq-min" then cpuSetFreq rest json dryRun false
      else if what = "freq-max" then cpuSetFreq rest json dryRun true
      else if what = "online" then cpuSetOnline rest json dryRun confirm
      else if what = "smt" then cpuSetSmt rest json dryRun confirm
      else if what = "cstate" then cpuSetCstate rest json dryRun
      else reading (unknownWord json "unknown cpu set target '" what
        "'. Valid: governor, freq-min, freq-max, online, smt, cstate")

def cmdCpu (args : List CStr) (json dryRun confirm : Bool) : CliM σ τ Int :=
  match args with
  | [] => reading (failWith json none "missing subcommand (try 'zenctl cpu get ...')")
  | sub :: rest =>
      if sub = "get" then reading (cmdCpuGet rest json)
      else if sub = "set" then cmdCpuSet rest json dryRun confirm
      else reading (unknownWord json "unknown cpu subcommand '" sub "' (try 'get' or 'set')")

end Zenctl
