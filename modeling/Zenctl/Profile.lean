import Zenctl.Command
import Zenctl.Toml
import Mathlib.Data.List.Sort

namespace Zenctl

open CString

/-!
# `zenctl profile`

Saving captures the live CPU, memory and storage settings in a profile file;
loading parses such a file and applies its entries one by one in file order.
-/

variable {σ τ : Type}

/-! ## Paths -/

/-- `SYSTEM_PROFILE_DIR`. -/
def systemProfileDir : CStr := "/etc/zenctl/profiles"

def userProfileDir (env : Env) : CStr :=
  let home := match env.home with
    | some home => if home = [] then ['/'] else home
    | none => ['/']
  home ++ "/.config/zenctl/profiles".toList

def profilePath (dir name : CStr) : CStr :=
  dir ++ '/' :: (name ++ ".toml".toList)

/-- The proper leading parts of a path that end before a slash, the first byte apart. -/
def leadingDirs (path : CStr) : List CStr :=
  ((List.range path.length).filter fun i => 0 < i && path[i]? = some '/').map path.take

/-- `mkpath`: create the leading directories in order, up to the first failure. -/
def mkdirAll : List CStr → CliM σ τ Unit
  | [] => pure ()
  | dir :: rest => do
      if ← mkdir dir then mkdirAll rest else pure ()

def mkpath (dir : CStr) : CliM σ τ Unit :=
  let buf := bounded 512 dir
  mkdirAll (leadingDirs buf ++ [buf])

/-! ## Saving -/

/-- A setting that was read. -/
def savedString (key : CStr) : Option CStr → List Setting
  | some value => [⟨key, value, true⟩]
  | none => []

@[inherit_doc savedString]
def savedInt (key : CStr) : Option Int → List Setting
  | some value => [⟨key, showInt value, false⟩]
  | none => []

def saveCpu : ReadM σ τ (List (CStr × List Setting)) := do
  match ← query (.cpuOpen 0) with
  | .error _ => pure []
  | .ok cpu =>
      let governor ← queryOpt (.cpuGetGovernor cpu)
      let freqMin ← queryOpt (.cpuGetFreqMin cpu)
      let freqMax ← queryOpt (.cpuGetFreqMax cpu)
      pure [("cpu".toList, savedString "governor" governor ++ savedInt "freq_min_hz" freqMin ++
        savedInt "freq_max_hz" freqMax)]

def thpName : ThpMode → CStr
  | .always => "always"
  | .madvise => "madvise"
  | .never => "never"

def saveMemory : ReadM σ τ (List (CStr × List Setting)) := do
  let swappiness ← queryOpt .memGetSwappiness
  let thp ← queryOpt .memGetThp
  let overcommit ← queryOpt .memGetOvercommit
  let pressure ← queryOpt .memGetVfsCachePressure
  pure [("memory".toList, savedInt "swappiness" swappiness ++
    savedString "thp" (thp.map thpName) ++ savedInt "overcommit" overcommit ++
    savedInt "vfs_cache_pressure" pressure)]

def isRealBlock (name : CStr) : Bool :=
  name ≠ [] && !startsWith "loop" name && !startsWith "ram" name && !startsWith "zram" name &&
    !(startsWith "md" name && ((name[2]?).map isDigit).getD false)

/-- An entry of `/sys/block` that is saved. -/
def savedBlock (name : CStr) : Bool :=
  name.head? ≠ some '.' && isRealBlock name

def saveDevice (dev : CStr) : ReadM σ τ (List (CStr × List Setting)) := do
  match ← query (.storageOpen dev) with
  | .error _ => pure []
  | .ok st =>
      let scheduler ← queryOpt (.storageGetScheduler st)
      let readAhead ← queryOpt (.storageGetReadAhead st)
      pure [("storage.".toList ++ dev, savedString "scheduler" scheduler ++
        savedInt "read_ahead_kb" readAhead)]

def saveStorage : ReadM σ τ (List (CStr × List Setting)) := do
  match ← listDir "/sys/block" with
  | none => pure []
  | some names =>
      let devices ← collect saveDevice (names.filter savedBlock)
      pure devices.flatten

/-- The sections of the document, in the order they are printed. -/
def snapshot : ReadM σ τ (List (CStr × List Setting)) := do
  let cpu ← saveCpu
  let memory ← saveMemory
  let storage ← saveStorage
  pure (cpu ++ memory ++ storage)

/-- `profile_write`; `none` is success. -/
def profileWrite (path name : CStr) (json dryRun : Bool) : CliM σ τ (Option Err) :=
  if dryRun then do
    reading (cliDryrun json
      (bounded 256 ("would save profile '".toList ++ name ++ "' to ".toList ++ path)))
    pure none
  else do
    let dir := bounded 512 path
    if '/' ∈ dir then mkpath (beforeLast '/' dir) else pure ()
    match ← openWrite path with
    | .error reason => pure (some (cliMakeErr Err.eio reason path))
    | .ok _ =>
        let env ← reading getEnv
        let sections ← reading snapshot
        writeOut path (profileText name env.now sections)
        pure none

/-- Names `profile save` refuses. -/
def escapesDirectory (name : CStr) : Bool :=
  '/' ∈ name || name = "..".toList || decide ("../".toList <:+: name)

def profileSaveCmd (name : CStr) (json dryRun : Bool) : CliM σ τ Int :=
  if name = [] then reading (refuse json Err.einval "profile name required" "profile save")
  else if escapesDirectory name then
    reading (refuse json Err.einval "invalid profile name" "profile save")
  else do
    let env ← reading getEnv
    let dir := if env.euid = 0 then systemProfileDir else userProfileDir env
    let path := profilePath dir name
    match ← profileWrite path name json dryRun with
    | none =>
        reading (report json (okBare [.string "name" name, .string "path" path]) do
          outKv "saved" name
          outKv "path" path)
    | some err => reading (cliErr json err)

/-! ## Loading -/

/-- Did every call of a run succeed?  `-1` as soon as one of them failed. -/
def allOrMinusOne (results : List Int) : Int :=
  if results.all (· = 0) then 0 else -1

/-- Open one CPU and call a setter; a CPU that cannot be opened is skipped. -/
def applyCpu (call : CpuHandle → Update) (index : Int) : CliM σ τ Int := do
  match ← reading (query (.cpuOpen index)) with
  | .error _ => pure 0
  | .ok cpu =>
      match ← update (call cpu) with
      | .ok _ => pure 0
      | .error _ => pure (-1)

def applyAllCpus (call : CpuHandle → Update) : CliM σ τ Int := do
  let env ← reading getEnv
  let conf := toInt32 env.nprocessorsConf
  let results ← collectCli (applyCpu call) (countUp 0 (if conf < 1 then 1 else conf))
  pure (allOrMinusOne results)

/-- `load_cpu_kv`; the confirmation flag it is given is not used. -/
def loadCpuKv (kv : TomlKv) (json dryRun : Bool) : CliM σ τ Int :=
  if kv.key = "governor" then
    if kv.isString = false then pure 0
    else if dryRun then
      reading (announce json (bounded 128 ("cpu[all]: governor=".toList ++ kv.value)))
    else applyAllCpus fun cpu => .cpuSetGovernor cpu kv.value
  else if kv.key = "freq_min_hz" ∨ kv.key = "freq_max_hz" then
    if kv.isString then pure 0
    else
      match (cliParseInt kv.value).filter (0 ≤ ·) with
      | none => pure 0
      | some hz =>
          if dryRun then
            reading (announce json
              (bounded 128 ("cpu[all]: ".toList ++ kv.key ++ '=' :: showInt hz)))
          else
            applyAllCpus fun cpu =>
              if kv.key = "freq_min_hz" then .cpuSetFreqMin cpu hz else .cpuSetFreqMax cpu hz
  else pure 0

/-- Announce, or call one setter and map its outcome to `0` or `-1`. -/
def applyOne (json dryRun : Bool) (wouldDo : CStr) (call : Update) : CliM σ τ Int :=
  if dryRun then reading (announce json wouldDo)
  else do
    match ← update call with
    | .ok _ => pure 0
    | .error _ => pure (-1)

/-- An integer key of the `[memory]` section. -/
def applyMemoryInt (kv : TomlKv) (json dryRun : Bool) (call : Int → Update) : CliM σ τ Int :=
  if kv.isString then pure 0
  else
    match cliParseInt kv.value with
    | none => pure 0
    | some v =>
        applyOne json dryRun
          (bounded 64 ("memory: ".toList ++ kv.key ++ '=' :: showInt v)) (call (toInt32 v))

def parseThpName (text : CStr) : Option ThpMode :=
  if text = "always" then some .always
  else if text = "madvise" then some .madvise
  else if text = "never" then some .never
  else none

def loadMemoryKv (kv : TomlKv) (json dryRun : Bool) : CliM σ τ Int :=
  if kv.key = "swappiness" then applyMemoryInt kv json dryRun .memSetSwappiness
  else if kv.key = "overcommit" then applyMemoryInt kv json dryRun .memSetOvercommit
  else if kv.key = "vfs_cache_pressure" then
    applyMemoryInt kv json dryRun .memSetVfsCachePressure
  else if kv.key = "thp" then
    if kv.isString = false then pure 0
    else
      match parseThpName kv.value with
      | none => pure 0
      | some mode =>
          applyOne json dryRun (bounded 64 ("memory: thp=".toList ++ kv.value))
            (.memSetThp mode)
  else pure 0

/-- `load_storage_kv`: a device that cannot be opened is skipped. -/
def loadStorageKv (dev : CStr) (kv : TomlKv) (json dryRun : Bool) : CliM σ τ Int := do
  match ← reading (query (.storageOpen dev)) with
  | .error _ => pure 0
  | .ok st =>
      if kv.key = "scheduler" then
        if kv.isString = false then pure 0
        else
          applyOne json dryRun
            (bounded 128 ("storage.".toList ++ dev ++ ": scheduler=".toList ++ kv.value))
            (.storageSetScheduler st kv.value)
      else if kv.key = "read_ahead_kb" then
        if kv.isString then pure 0
        else
          match cliParseInt kv.value with
          | none => pure 0
          | some v =>
              applyOne json dryRun
                (bounded 128 ("storage.".toList ++ dev ++ ": read_ahead_kb=".toList ++ showInt v))
                (.storageSetReadAhead st v)
      else pure 0

/-- The loop body of `profile_apply`; unknown sections are ignored. -/
def applyKv (json dryRun : Bool) (kv : TomlKv) : CliM σ τ Int :=
  if kv.sectionPath = [] then pure 0
  else if kv.sectionPath = "cpu" then loadCpuKv kv json dryRun
  else if kv.sectionPath = "memory" then loadMemoryKv kv json dryRun
  else if startsWith "storage." kv.sectionPath then
    loadStorageKv (kv.sectionPath.drop 8) kv json dryRun
  else pure 0

def profileApply (kvs : List TomlKv) (json dryRun : Bool) : CliM σ τ Int := do
  let results ← collectCli (applyKv json dryRun) kvs
  pure (allOrMinusOne results)

/-- The user's profile if `access` allows it, else the system's. -/
def findProfile (name : CStr) (mode : Access) : ReadM σ τ (Option CStr) := do
  let env ← getEnv
  let upath := profilePath (userProfileDir env) name
  let spath := profilePath systemProfileDir name
  if ← access upath mode then pure (some upath)
  else if ← access spath mode then pure (some spath)
  else pure none

/-- `toml_parse` on a path. -/
def tomlParseFile (path : CStr) : ReadM σ τ (Except Err (List TomlKv)) := do
  match ← readFile path with
  | .error reason => pure (.error (cliMakeErr Err.eio reason path))
  | .ok content => pure (.ok (tomlParse content))

/-- Parse the profile, apply it, report. -/
def loadFrom (path name : CStr) (json dryRun : Bool) : CliM σ τ Int := do
  match ← reading (tomlParseFile path) with
  | .error err => reading (cliErr json err)
  | .ok kvs =>
      let rc ← profileApply kvs json dryRun
      if rc = 0 then
        reading (report json
          (okBare [.string "loaded" name, .string "path" path, .int "entries" kvs.length]) do
            outKv "loaded" name
            outKv "path" path
            outKvInt "entries" kvs.length)
      else do
        reading (if json then put (outJsonError Err.eio "profile load completed with errors")
          else outErrCode Err.eio "profile load completed with errors")
        pure rc

def profileLoadCmd (name : CStr) (json dryRun : Bool) : CliM σ τ Int :=
  if name = [] then reading (refuse json Err.einval "profile name required" "profile load")
  else do
    match ← reading (findProfile name .read) with
    | none => reading (refuse json Err.enoent "profile not found" name)
    | some path =>
        if dryRun then loadFrom path name json dryRun
        else asRoot json (loadFrom path name json dryRun)

/-! ## Listing -/

/-- `list_dir_profiles`: the stems of the visible `.toml` entries. -/
def profileStems (names : List CStr) : List CStr :=
  (names.filter fun name => 6 ≤ name.length && name.drop (name.length - 5) = ".toml".toList &&
    name.head? ≠ some '.').map fun name => name.take (name.length - 5)

/-- The array of names while duplicates are dropped: the slots and the output count. -/
structure Slots where
  slots : List (Option CStr)
  outN : Nat
  deriving Repr, DecidableEq

/--
One round of the loop that drops duplicates.  The slot before may have been
cleared by the round before; comparing with it ends the process (`none`).
-/
def dedupStep (s : Slots) (i : Nat) : Option Slots :=
  let keep : Slots := ⟨s.slots.set s.outN ((s.slots[i]?).join), s.outN + 1⟩
  if i = 0 then some keep
  else
    match (s.slots[i]?).join, (s.slots[i - 1]?).join with
    | some a, some b => some (if a = b then ⟨s.slots.set i none, s.outN⟩ else keep)
    | _, _ => none

/-- The whole loop on a sorted list; `none` when a cleared slot was compared. -/
def dedup (sorted : List CStr) : Option (List CStr) := do
  let final ← (List.range sorted.length).foldlM dedupStep ⟨sorted.map some, 0⟩
  pure ((final.slots.take final.outN).filterMap id)

/-- The status of a process a segmentation fault ended. -/
def segmentationFault : Int := 139

def profileListCmd (json : Bool) : ReadM σ τ Int := do
  let env ← getEnv
  let user ← listDir (userProfileDir env)
  let system ← listDir systemProfileDir
  let stems := profileStems (user.getD []) ++ profileStems (system.getD [])
  match dedup (stems.insertionSort fun a b => strcmpLe a b) with
  | none => pure segmentationFault
  | some names =>
      report json (okEnvelope (arrayText (names.map outJsonEscape)))
        (forEach (fun name => put (name ++ ['\n'])) names)

/-! ## Deleting -/

def profileDeleteCmd (name : CStr) (json : Bool) : CliM σ τ Int :=
  if name = [] then reading (refuse json Err.einval "profile name required" "profile delete")
  else do
    match ← reading (findProfile name .write) with
    | none => reading (refuse json Err.enoent "profile not found or not writable" name)
    | some path =>
        match ← unlink path with
        | .error reason => reading (refuse json Err.eio reason path)
        | .ok _ =>
            reading (report json (okBare [.string "deleted" name, .string "path" path]) do
              outKv "deleted" name
              outKv "path" path)

def cmdProfile (args : List CStr) (json dryRun : Bool) : CliM σ τ Int :=
  match args with
  | [] => reading (cliUsage "zenctl profile <save|load|list|delete> <name>")
  | sub :: rest =>
      if sub = "list" then reading (profileListCmd json)
      else
        match rest with
        | [] => reading (cliUsage "zenctl profile <save|load|delete> <name>")
        | name :: _ =>
            if sub = "save" then profileSaveCmd name json dryRun
            else if sub = "load" then profileLoadCmd name json dryRun
            else if sub = "delete" then profileDeleteCmd name json
            else reading (cliUsage "zenctl profile <save|load|list|delete> <name>")

end Zenctl
