import Zenctl.LibCpu

namespace Zenctl

open CString

/-!
# `mem.c`
-/

variable {σ : Type}

/-! ## Huge pages -/

def zenctlMemGetNrHugepages : GetM σ Int :=
  readFileI64 "/proc/sys/vm/nr_hugepages"

def zenctlMemSetNrHugepages (pages : Int) : SetM σ Unit :=
  if pages < 0 then
    getting (raise Err.einval "page count must be >= 0" "zenctl_mem_set_nr_hugepages")
  else writeFileI64 "/proc/sys/vm/nr_hugepages" pages

/-- `sscanf(line, "Hugepagesize: %ld kB", &kb)`. -/
def scanHugepagesize (line : CStr) : Option Int := do
  let rest ← scanText "Hugepagesize:" line
  let (kb, _) ← scanInt rest
  pure kb

def zenctlMemGetHugepageSize : GetM σ Int := do
  let file ← openPath "/proc/meminfo"
  let kb := ((file.lines 256).findSome? scanHugepagesize).getD 0
  if kb = 0 then
    raise Err.enoent "Hugepagesize not found in /proc/meminfo" "/proc/meminfo"
  else pure (toInt64 (kb * 1024))

def hugepagesPath (sizeKb : Int) (attr : CStr) : GetM σ CStr :=
  if sizeKb ≤ 0 then raise Err.einval "size_kb must be > 0" "hugepages_path"
  else
    pure (bounded 160 ("/sys/kernel/mm/hugepages/hugepages-".toList ++ showInt sizeKb ++
      "kB/".toList ++ attr))

def zenctlMemGetNrHugepagesSize (sizeKb : Int) : GetM σ Int := do
  let path ← hugepagesPath sizeKb "nr_hugepages"
  readFileI64 path

def zenctlMemSetNrHugepagesSize (sizeKb pages : Int) : SetM σ Unit :=
  if pages < 0 then
    getting (raise Err.einval "page count must be >= 0" "zenctl_mem_set_nr_hugepages_size")
  else do
    let path ← getting (hugepagesPath sizeKb "nr_hugepages")
    writeFileI64 path pages

/-! ## Transparent huge pages -/

def thpPath : CStr := "/sys/kernel/mm/transparent_hugepage/enabled"

/-- The text in brackets; the first `]` must not stand before the first `[`. -/
def bracketedThp (text : CStr) : Option CStr :=
  if '[' ∈ text ∧ ']' ∈ text ∧ text.idxOf '[' ≤ text.idxOf ']' then
    some ((text.take (text.idxOf ']')).drop (text.idxOf '[' + 1))
  else none

def zenctlMemGetThp : GetM σ ThpMode := do
  let text ← readFileString thpPath 128
  match bracketedThp text with
  | none => raise Err.eio "could not parse THP enabled (no bracketed mode)" thpPath
  | some mode =>
      if mode = "always" then pure .always
      else if mode = "madvise" then pure .madvise
      else if mode = "never" then pure .never
      else raise Err.einval "unknown THP mode in enabled file" mode

def zenctlMemSetThp (mode : ThpMode) : SetM σ Unit :=
  writeFileString thpPath
    (match mode with
      | .always => "always"
      | .madvise => "madvise"
      | .never => "never")

/-! ## NUMA topology -/

def nodeDir : CStr := "/sys/devices/system/node"

def isNodeName (name : CStr) : Bool :=
  startsWith "node" name &&
    match strtoll (name.drop 4) with
    | some parsed => parsed.rest = [] && 0 ≤ parsed.value
    | none => false

def zenctlMemNumaNodeCount : GetM σ Int := do
  match ← sysCall (fun os sys => os.listDir sys nodeDir) with
  | some names => pure (names.filter isNodeName).length
  | none => do
      -- a machine without NUMA has no node directory
      if (← getErrno) = Errno.enoent.1 then pure 0
      else raiseErrno none nodeDir

/-- `sscanf(line, "Node %d <label> %ld kB", &n, &v)`, in bytes. -/
def scanNodeLine (label line : CStr) : Option Int := do
  let rest ← scanText "Node" line
  let (_, rest) ← scanInt rest
  let rest ← scanText label (scanBlank rest)
  let (kb, _) ← scanInt rest
  pure (toInt64 (kb * 1024))

/-- The loop over a node's `meminfo`: the last line of each kind counts. -/
def scanNodeMeminfo (node : NumaNode) (line : CStr) : NumaNode :=
  match scanNodeLine "MemTotal:" line with
  | some total => { node with memTotal := total }
  | none =>
      match scanNodeLine "MemFree:" line with
      | some free => { node with memFree := free }
      | none => node

def zenctlMemNumaGetNode (nodeId : Int) : GetM σ NumaNode :=
  if nodeId < 0 then raise Err.einval "node_id must be >= 0" "zenctl_mem_numa_get_node"
  else do
    let dir := nodeDir ++ "/node".toList ++ showInt nodeId
    sysCallOr (fun os sys => os.access sys (bounded 256 dir) .present)
      (some "NUMA node directory does not exist".toList) (bounded 256 dir)
    let file ← openPath (bounded 256 (dir ++ "/meminfo".toList))
    let node := (file.lines 512).foldl scanNodeMeminfo ⟨nodeId, 0, 0, []⟩
    let cpulist ← quietly (readFileString (bounded 256 (dir ++ "/cpulist".toList)) 256)
    pure { node with cpumask := cpulist.getD [] }

/-! ## VM tunables -/

/-- A tunable the library hands out as an `int`. -/
def getTunable (path : CStr) : GetM σ Int := do
  let v ← readFileI64 path
  pure (toInt32 v)

def zenctlMemGetSwappiness : GetM σ Int :=
  getTunable "/proc/sys/vm/swappiness"

def zenctlMemSetSwappiness (value : Int) : SetM σ Unit :=
  if value < 0 ∨ 200 < value then
    getting (raise Err.erange "swappiness must be 0..200" "zenctl_mem_set_swappiness")
  else writeFileI64 "/proc/sys/vm/swappiness" value

def zenctlMemGetOvercommit : GetM σ Int :=
  getTunable "/proc/sys/vm/overcommit_memory"

def zenctlMemSetOvercommit (value : Int) : SetM σ Unit :=
  if value < 0 ∨ 2 < value then
    getting (raise Err.einval "overcommit must be 0, 1, or 2" "zenctl_mem_set_overcommit")
  else writeFileI64 "/proc/sys/vm/overcommit_memory" value

def zenctlMemGetVfsCachePressure : GetM σ Int :=
  getTunable "/proc/sys/vm/vfs_cache_pressure"

def zenctlMemSetVfsCachePressure (value : Int) : SetM σ Unit :=
  if value < 0 then
    getting (raise Err.einval "vfs_cache_pressure must be >= 0"
      "zenctl_mem_set_vfs_cache_pressure")
  else writeFileI64 "/proc/sys/vm/vfs_cache_pressure" value

end Zenctl
