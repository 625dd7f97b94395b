import Zenctl.Command

namespace Zenctl

open CString

/-!
# `zenctl mem`
-/

variable {σ τ : Type}

/-- A size in MiB without decimals. -/
def mib (env : Env) (bytes : Int) : CStr :=
  bounded 32 (env.printF 0 bytes 1048576 ++ " MiB".toList)

/-- An announced or applied change of one of the writable targets. -/
def memSet (json dryRun : Bool) (action key : CStr) (value : Field) (line : CStr)
    (call : Update) (fallback : CStr) (lines : ReadM σ τ Unit) : CliM σ τ Int :=
  if dryRun then
    reading (report json
      (okObject [.bool "dry_run" true, .string "action" action, value])
      (outDryrun (bounded 128 ("Would set ".toList ++ key ++ "=".toList ++ line))))
  else setOr json call fallback (okObject [value]) lines

def memGetHugepages (json : Bool) : ReadM σ τ Int := do
  match ← query .memGetNrHugepages with
  | .error err => failWith json (some err) "cannot read nr_hugepages"
  | .ok pages =>
      let env ← getEnv
      let size := match ← query .memGetHugepageSize with
        | .ok size => size
        | .error _ => 0
      report json
        (okObject ([.int "nr_hugepages" pages] ++
          (if 0 < size then [.int "hugepage_size_bytes" size] else [])))
        (do outKv "Hugepages" (showInt pages)
            outKv "Hugepage size" (if 0 < size then mib env size else "-"))

def memSetHugepages (args : List CStr) (json dryRun : Bool) : CliM σ τ Int :=
  match positionalArg args 0 with
  | none => reading (failWith json none "missing page count")
  | some text =>
      match (wholeInt text).filter (0 ≤ ·) with
      | none => reading (failWith json none "page count must be a non-negative integer")
      | some n =>
          memSet json dryRun "set_hugepages" "nr_hugepages" (.int "nr_hugepages" n)
            (showInt n) (.memSetNrHugepages n) "set nr_hugepages failed"
            (put ("nr_hugepages: ".toList ++ showInt n ++ ['\n']))

def thpModeStr : ThpMode → CStr
  | .always => "always"
  | .madvise => "madvise"
  | .never => "never"

/-- The three words `set thp` accepts. -/
def parseThp (text : CStr) : Option ThpMode :=
  if text = "always" then some .always
  else if text = "madvise" then some .madvise
  else if text = "never" then some .never
  else none

def memGetThp (json : Bool) : ReadM σ τ Int := do
  match ← query .memGetThp with
  | .error err => failWith json (some err) "cannot read THP mode"
  | .ok mode =>
      report json (okObject [.string "thp" (thpModeStr mode)]) (outKv "THP" (thpModeStr mode))

def memSetThp (args : List CStr) (json dryRun : Bool) : CliM σ τ Int :=
  match positionalArg args 0 with
  | none => reading (failWith json none "missing THP mode")
  | some text =>
      match parseThp text with
      | none => reading (failWith json none "THP mode must be always|madvise|never")
      | some mode =>
          memSet json dryRun "set_thp" "THP" (.string "thp" text) text (.memSetThp mode)
            "set THP failed" (put ("THP: ".toList ++ text ++ ['\n']))

/-- One element of the `nodes` array, if the node can be read. -/
def numaItem (node : Int) : ReadM σ τ (Option CStr) := do
  match ← query (.memNumaGetNode node) with
  | .error _ => pure none
  | .ok nd =>
      pure (some (objectText [.int "node" nd.nodeId, .int "mem_total_bytes" nd.memTotal,
        .int "mem_free_bytes" nd.memFree, .string "cpumask" nd.cpumask]))

def numaRow (node : Int) : ReadM σ τ Unit := do
  let env ← getEnv
  match ← query (.memNumaGetNode node) with
  | .error _ => pure ()
  | .ok nd =>
      outTableRow [showInt nd.nodeId, mib env nd.memTotal, mib env nd.memFree, nd.cpumask]

def memGetNuma (json : Bool) : ReadM σ τ Int := do
  match ← query .memNumaNodeCount with
  | .error err => failWith json (some err) "cannot read NUMA node count"
  | .ok n =>
      if n = 0 then
        report json (okObjectArray [.int "numa_nodes" 0] "nodes" [])
          (outKv "NUMA nodes" "0 (non-NUMA system)")
      else if json then
        let items ← collect numaItem (countUp 0 n)
        put (okObjectArray [.int "numa_nodes" n] "nodes" (items.filterMap id))
        pure 0
      else
        outTable ["NODE", "MEM_TOTAL", "MEM_FREE", "CPUMASK"]
        forEach numaRow (countUp 0 n)
        pure 0

def memGetSwappiness (json : Bool) : ReadM σ τ Int := do
  match ← query .memGetSwappiness with
  | .error err => failWith json (some err) "cannot read swappiness"
  | .ok v => report json (okObject [.int "swappiness" v]) (outKv "Swappiness" (showInt v))

def memSetSwappiness (args : List CStr) (json dryRun : Bool) : CliM σ τ Int :=
  match positionalArg args 0 with
  | none => reading (failWith json none "missing value")
  | some text =>
      match (wholeInt text).filter (fun v => 0 ≤ v ∧ v ≤ 200) with
      | none => reading (failWith json none "swappiness must be 0..200")
      | some v =>
          memSet json dryRun "set_swappiness" "swappiness" (.int "swappiness" v) (showInt v)
            (.memSetSwappiness (toInt32 v)) "set swappiness failed"
            (put ("swappiness: ".toList ++ showInt v ++ ['\n']))

def overcommitStr (v : Int) : CStr :=
  if v = 0 then "heuristic" else if v = 1 then "always" else if v = 2 then "never"
  else "unknown"

/-- The number with its meaning in parentheses. -/
def overcommitText (v : Int) : CStr :=
  showInt v ++ " (".toList ++ overcommitStr v ++ ")".toList

def memGetOvercommit (json : Bool) : ReadM σ τ Int := do
  match ← query .memGetOvercommit with
  | .error err => failWith json (some err) "cannot read overcommit"
  | .ok v =>
      report json (okObject [.int "overcommit" v, .string "mode" (overcommitStr v)])
        (outKv "Overcommit" (bounded 32 (overcommitText v)))

def memSetOvercommit (args : List CStr) (json dryRun : Bool) : CliM σ τ Int :=
  match positionalArg args 0 with
  | none => reading (failWith json none "missing value (0|1|2)")
  | some text =>
      match (wholeInt text).filter (fun v => 0 ≤ v ∧ v ≤ 2) with
      | none => reading (failWith json none "overcommit must be 0, 1, or 2")
      | some v =>
          memSet json dryRun "set_overcommit" "overcommit" (.int "overcommit" v)
            (overcommitText v) (.memSetOvercommit (toInt32 v)) "set overcommit failed"
            (put ("overcommit: ".toList ++ overcommitText v ++ ['\n']))

/-- A table line for a getter that succeeded. -/
def kvIfOk {β : Type} (label : CStr) (answer : Except Err β) (cell : β → CStr) :
    ReadM σ τ Unit :=
  match answer with
  | .ok value => outKv label (cell value)
  | .error _ => pure ()

/-- The fields of a getter that succeeded. -/
def fieldsIfOk {β : Type} (answer : Except Err β) (fields : β → List Field) : List Field :=
  match answer with
  | .ok value => fields value
  | .error _ => []

def memGetAll (json : Bool) : ReadM σ τ Int := do
  let env ← getEnv
  let pages ← query .memGetNrHugepages
  let hsize ← query .memGetHugepageSize
  let thp ← query .memGetThp
  let swap ← query .memGetSwappiness
  let oc ← query .memGetOvercommit
  let numa ← query .memNumaNodeCount
  let fields :=
    fieldsIfOk pages (fun v => [.int "nr_hugepages" v]) ++
    fieldsIfOk hsize (fun v => [.int "hugepage_size_bytes" v]) ++
    fieldsIfOk thp (fun v => [.string "thp" (thpModeStr v)]) ++
    fieldsIfOk swap (fun v => [.int "swappiness" v]) ++
    fieldsIfOk oc (fun v => [.int "overcommit" v, .string "overcommit_mode" (overcommitStr v)]) ++
    fieldsIfOk numa (fun n => [.int "numa_nodes" n])
  if json then
    match numa with
    | .error _ => put (okObject fields)
    | .ok n =>
        let items ← collect numaItem (countUp 0 n)
        put (okObjectArray fields "numa" (items.filterMap id))
  else
    kvIfOk "Hugepages" pages showInt
    kvIfOk "Hugepage size" hsize (mib env)
    kvIfOk "THP" thp thpModeStr
    kvIfOk "Swappiness" swap showInt
    kvIfOk "Overcommit" oc (fun v => bounded 32 (overcommitText v))
    kvIfOk "NUMA nodes" numa showInt
  pure 0

def cmdMemGet (args : List CStr) (json : Bool) : ReadM σ τ Int :=
  match args with
  | [] => failWith json none "missing get target"
  | what :: _ =>
      if what = "--all" ∨ what = "-a" then memGetAll json
      else if what = "hugepages" then memGetHugepages json
      else if what = "thp" then memGetThp json
      else if what = "numa" then memGetNuma json
      else if what = "swappiness" then memGetSwappiness json
      else if what = "overcommit" then memGetOvercommit json
      else unknownWord json "unknown mem get target '" what
        "'. Valid: hugepages, thp, numa, swappiness, overcommit"

def cmdMemSet (args : List CStr) (json dryRun : Bool) : CliM σ τ Int :=
  match args with
  | [] => reading (failWith json none "missing set target")
  | what :: rest =>
      if what = "hugepages" then memSetHugepages rest json dryRun
      else if what = "thp" then memSetThp rest json dryRun
      else if what = "swappiness" then memSetSwappiness rest json dryRun
      else if what = "overcommit" then memSetOvercommit rest json dryRun
      else reading (unknownWord json "unknown mem set target '" what
        "'. Valid: hugepages, thp, swappiness, overcommit")

def cmdMem (args : List CStr) (json dryRun : Bool) : CliM σ τ Int :=
  match args with
  | [] => reading (failWith json none "missing subcommand (try 'zenctl mem get ...')")
  | sub :: rest =>
      if sub = "get" then reading (cmdMemGet rest json)
      else if sub = "set" then cmdMemSet rest json dryRun
      else reading (unknownWord json "unknown mem subcommand '" sub "'. Try: get, set")

end Zenctl
