import Zenctl.LibMem

namespace Zenctl

open CString

/-!
# `storage.c`
-/

variable {σ : Type}

/-- The strings every device name check refuses. -/
def storageBadName (name : CStr) : Bool :=
  '/' ∈ name || decide ("..".toList <:+: name) || '\n' ∈ name

theorem storageBadName_false
    {name : CStr} (good : storageBadName name = false) :
    '/' ∉ name ∧ ¬ "..".toList <:+: name ∧ '\n' ∉ name := by
  rw [storageBadName, Bool.or_eq_false_iff, Bool.or_eq_false_iff] at good
  exact ⟨of_decide_eq_false good.1.1, of_decide_eq_false good.1.2, of_decide_eq_false good.2⟩

def storageValidateDev (name : CStr) : GetM σ Unit :=
  if name = [] then raise Err.einval "device name is required" "zenctl_storage_open"
  else if 256 ≤ name.length then raise Err.einval "device name too long" "zenctl_storage_open"
  else if storageBadName name then
    raise Err.einval "device name has invalid characters" "zenctl_storage_open"
  else pure ()

def storagePath (st : StorageHandle) (suffix : CStr) : CStr :=
  bounded 512 ("/sys/block/".toList ++ st.devName ++ suffix)

def zenctlStorageOpen (name : CStr) : GetM σ StorageHandle := do
  storageValidateDev name
  let path := bounded 512 ("/sys/block/".toList ++ name)
  sysCallOr (fun os sys => os.access sys path .present)
    (some "block device not found".toList) path
  allocateOr "calloc failed" "zenctl_storage_open"
  pure ⟨bounded 256 name⟩

/-! ## Scheduler -/

def zenctlStorageGetScheduler (st : StorageHandle) : GetM σ CStr := do
  let path := storagePath st "/queue/scheduler"
  let text ← readFileString path 256
  match afterChar '[' text with
  | none => raise Err.eio "no active scheduler in sysfs output" path
  | some start =>
      if ']' ∈ start then do
        allocateOr "strdup failed" path
        pure (start.takeWhile (· ≠ ']'))
      else raise Err.eio "malformed scheduler sysfs output" path

def zenctlStorageSetScheduler (st : StorageHandle) (scheduler : CStr) : SetM σ Unit :=
  if scheduler = [] then
    getting (raise Err.einval "NULL st or sched" "zenctl_storage_set_scheduler")
  else if '/' ∈ scheduler ∨ '\n' ∈ scheduler ∨ ' ' ∈ scheduler ∨ 128 ≤ scheduler.length then
    getting (raise Err.einval "invalid scheduler name" "zenctl_storage_set_scheduler")
  else writeFileString (storagePath st "/queue/scheduler") scheduler

/-- A file delivered as a copy of its text. -/
def readCopy (path : CStr) (size : Nat) : GetM σ CStr := do
  let text ← readFileString path size
  allocateOr "strdup failed" path
  pure text

def zenctlStorageListSchedulers (st : StorageHandle) : GetM σ CStr :=
  readCopy (storagePath st "/queue/scheduler") 256

/-! ## Queue depth and read-ahead -/

def intMax : Int := 2147483647

def zenctlStorageGetQueueDepth (st : StorageHandle) : GetM σ Int := do
  let path := storagePath st "/device/queue_depth"
  let v ← readFileI64 path
  if v < 0 ∨ intMax < v then raise Err.erange "queue_depth out of range" path
  else pure v

def zenctlStorageSetQueueDepth (st : StorageHandle) (depth : Int) : SetM σ Unit :=
  if depth < 1 then
    getting (raise Err.einval "queue depth must be >= 1" "zenctl_storage_set_queue_depth")
  else writeFileI64 (storagePath st "/device/queue_depth") depth

def zenctlStorageGetReadAhead (st : StorageHandle) : GetM σ Int :=
  readFileI64 (storagePath st "/queue/read_ahead_kb")

def zenctlStorageSetReadAhead (st : StorageHandle) (kb : Int) : SetM σ Unit :=
  if kb < 0 then
    getting (raise Err.einval "read-ahead must be >= 0" "zenctl_storage_set_read_ahead")
  else writeFileI64 (storagePath st "/queue/read_ahead_kb") kb

/-! ## Write cache -/

/-- The mode with FUA has no text of its own and is written as write back. -/
def cacheTypeToStr : CacheType → CStr
  | .writeBack => "write back"
  | .writeThrough => "write through"
  | .none => "none"
  | .writeBackFua => "write back"

def cacheStrToType (text : CStr) : Option CacheType :=
  if text = "write back" then some .writeBack
  else if text = "write through" then some .writeThrough
  else if text = "none" then some .none
  else if text = "write back, no read (daft)" then some .writeBack
  else none

/-- SCSI disks have `device/cache_type`, others `queue/write_cache`. -/
def zenctlStorageGetCacheType (st : StorageHandle) : GetM σ CacheType := do
  let path := storagePath st "/device/cache_type"
  match ← quietly (readFileString path 64) with
  | some text =>
      match cacheStrToType text with
      | some type => pure type
      | none => raise Err.eio "unrecognised cache_type string" path
  | none => do
      let fallback := storagePath st "/queue/write_cache"
      let text ← readFileString fallback 64
      match cacheStrToType text with
      | some type => pure type
      | none => raise Err.eio "unrecognised write_cache string" fallback

def zenctlStorageSetCacheType (st : StorageHandle) (type : CacheType) : SetM σ Unit := do
  match ← quietlySet (writeFileString (storagePath st "/device/cache_type")
      (cacheTypeToStr type)) with
  | some _ => pure ()
  | none => writeFileString (storagePath st "/queue/write_cache") (cacheTypeToStr type)

/-! ## Other attributes -/

def zenctlStorageGetDiscardMax (st : StorageHandle) : GetM σ Int :=
  readFileI64 (storagePath st "/queue/discard_max_bytes")

def zenctlStorageGetRotational (st : StorageHandle) : GetM σ Bool := do
  let v ← readFileI64 (storagePath st "/queue/rotational")
  pure (v ≠ 0)

/-- The record the counters of a `stat` line fill, missing ones zero. -/
def ioStatsOf (v : List Int) : IoStats :=
  let field := fun i => (v[i]?).getD 0
  { readsCompleted := field 0
    readsMerged := field 1
    sectorsRead := field 2
    timeReadingMs := field 3
    writesCompleted := field 4
    writesMerged := field 5
    sectorsWritten := field 6
    timeWritingMs := field 7
    iosInProgress := field 8
    timeIoMs := field 9
    weightedTimeIoMs := field 10
    discardsCompleted := field 11
    discardsMerged := field 12
    sectorsDiscarded := field 13
    timeDiscardingMs := field 14
    flushesCompleted := field 15
    timeFlushingMs := field 16 }

/--
The first line of `stat`.  When there is none the error is taken from `errno`,
which a plain end of file does not set.
-/
def readStatLine (path : CStr) : GetM σ CStr := do
  let file ← openPath path
  match file.lines 1024, file.readError with
  | line :: _, _ => pure line
  | [], some e => do
      setErrno e.1
      raise (errnoToCode e.1) "cannot read stat file" path
  | [], none => raiseErrno (some "cannot read stat file".toList) path

def zenctlStorageGetIoStats (st : StorageHandle) : GetM σ IoStats := do
  let path := storagePath st "/stat"
  let line ← readStatLine path
  let v := scanInts 17 line
  if v.length < 11 then raise Err.eio "cannot parse /sys/block/.../stat" path
  else pure (ioStatsOf v)

/-! ## Runtime power management -/

def zenctlStorageGetPowerControl (st : StorageHandle) : GetM σ CStr :=
  readCopy (storagePath st "/device/power/control") 64

/-- `on` or `auto`, for every device with a `power/control` file. -/
def writePowerControl (path mode caller : CStr) : SetM σ Unit :=
  if mode ≠ "on".toList ∧ mode ≠ "auto".toList then
    getting (raise Err.einval "mode must be 'on' or 'auto'" caller)
  else writeFileString path mode

def zenctlStorageSetPowerControl (st : StorageHandle) (mode : CStr) : SetM σ Unit :=
  if mode = [] then
    getting (raise Err.einval "NULL st or mode" "zenctl_storage_set_power_control")
  else
    writePowerControl (storagePath st "/device/power/control") mode
      "zenctl_storage_set_power_control"

end Zenctl
