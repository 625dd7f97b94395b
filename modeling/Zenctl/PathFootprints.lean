import Zenctl.Redirection
import Zenctl.BiosPassword
import Zenctl.Libzenctl

namespace Zenctl

open CString

/-!
# Footprints

Which paths a call works on.  A call works within a set of paths if it cannot
tell two machines apart that agree on them; this asks nothing about how the
call goes about it, so a call that opened one other file would be told apart.
-/

variable {σ α β : Type}

/-- Machines that agree on these paths, with and without the prefix. -/
structure Os.AgreeOn (paths : CStr → Prop) (os other : Os σ) : Prop where
  sysfsRoot : os.sysfsRoot = other.sysfsRoot
  strerror : os.strerror = other.strerror
  file : ∀ path, paths path → os.AgreeAt path other
  resolved : ∀ path, paths path → os.AgreeAt (resolvePath os.sysfsRoot path) other
  openNode : ∀ path, paths path → ∀ sys, os.openNode sys path = other.openNode sys path
  resetNode : ∀ path, paths path → ∀ sys, os.resetNode sys path = other.resetNode sys path
  /-- The calls that take no path. -/
  inetSocket : os.inetSocket = other.inetSocket
  getRing : os.getRing = other.getRing
  setRing : os.setRing = other.setRing
  getFlag : os.getFlag = other.getFlag
  setFlag : os.setFlag = other.setFlag
  /-- The names in a directory have no slash. -/
  plain : ∀ sys dir names, os.listDir sys dir = .ok names → ∀ name ∈ names, '/' ∉ name

/-- The getter works within these paths. -/
def Query.Within (call : Query β) (paths : CStr → Prop) : Prop :=
  ∀ (σ : Type) (os other : Os σ), os.AgreeOn paths other → call.program.Alike os other

/-- The setter works within these paths. -/
def Update.Within (call : Update) (paths : CStr → Prop) : Prop :=
  ∀ (σ : Type) (os other : Os σ), os.AgreeOn paths other → call.program.Alike os other

/-- The handles an open call returns. -/
inductive DeviceHandle where
  | storage (st : StorageHandle)
  | net (net : NetHandle)
  | pcie (p : PcieHandle)
  | usb (u : UsbHandle)
  deriving Repr, DecidableEq

/-- The device handle a reading call is made on. -/
def Query.handle : {β : Type} → Query β → Option DeviceHandle
  | _, .storageGetScheduler st | _, .storageListSchedulers st | _, .storageGetQueueDepth st
  | _, .storageGetReadAhead st | _, .storageGetCacheType st | _, .storageGetDiscardMax st
  | _, .storageGetRotational st | _, .storageGetIoStats st | _, .storageGetPowerControl st =>
      some (.storage st)
  | _, .netGetRingRx net | _, .netGetRingTx net | _, .netGetRingRxMax net
  | _, .netGetRingTxMax net | _, .netGetOffload net _ | _, .netGetSpeed net
  | _, .netGetDuplex net | _, .netGetLink net | _, .netGetMtu net | _, .netGetIrq net
  | _, .netGetIrqAffinity net => some (.net net)
  | _, .pcieGetLinkSpeed p | _, .pcieGetLinkWidth p | _, .pcieGetMaxLinkSpeed p
  | _, .pcieGetMaxLinkWidth p | _, .pcieGetPowerControl p | _, .pcieGetD3coldAllowed p
  | _, .pcieGetIommuGroup p | _, .pcieGetNumaNode p | _, .pcieGetVendorId p
  | _, .pcieGetDeviceId p | _, .pcieGetClass p => some (.pcie p)
  | _, .usbGetVendorId u | _, .usbGetProductId u | _, .usbGetManufacturer u
  | _, .usbGetProduct u | _, .usbGetSpeed u | _, .usbGetPowerControl u
  | _, .usbGetAutosuspendDelay u | _, .usbGetRuntimeStatus u | _, .usbGetAuthorized u
  | _, .usbGetWakeup u => some (.usb u)
  | _, _ => none

/-- The device handle a setter is made on. -/
def Update.handle : Update → Option DeviceHandle
  | .storageSetScheduler st _ | .storageSetQueueDepth st _ | .storageSetReadAhead st _
  | .storageSetCacheType st _ | .storageSetPowerControl st _ => some (.storage st)
  | .netSetRingRx net _ | .netSetRingTx net _ | .netSetOffload net _ _ | .netSetMtu net _
  | .netSetIrqAffinity net _ => some (.net net)
  | .pcieSetPowerControl p _ | .pcieSetD3coldAllowed p _ => some (.pcie p)
  | .usbSetPowerControl u _ | .usbSetAutosuspendDelay u _ | .usbSetAuthorized u _
  | .usbSetWakeup u _ | .usbReset u => some (.usb u)
  | _ => none

/-! ## Rules -/

section Rules

variable {os other : Os σ}

/-- A choice whose condition may be used in both branches. -/
theorem GetM.Alike.iteOf
    {condition : Prop} [Decidable condition] {first second : GetM σ α}
    (yes : condition → first.Alike os other) (no : ¬ condition → second.Alike os other) :
    (if condition then first else second).Alike os other := by
  split
  · next holds => exact yes holds
  · next fails => exact no fails

/-- A choice whose condition does not matter. -/
theorem GetM.Alike.ite
    {condition : Prop} [Decidable condition] {first second : GetM σ α}
    (yes : first.Alike os other) (no : second.Alike os other) :
    (if condition then first else second).Alike os other :=
  .iteOf (fun _ => yes) fun _ => no

/-- A choice whose condition may be used in both branches. -/
theorem SetM.Alike.iteOf
    {condition : Prop} [Decidable condition] {first second : SetM σ α}
    (yes : condition → first.Alike os other) (no : ¬ condition → second.Alike os other) :
    (if condition then first else second).Alike os other := by
  split
  · next holds => exact yes holds
  · next fails => exact no fails

/-- A choice whose condition does not matter. -/
theorem SetM.Alike.ite
    {condition : Prop} [Decidable condition] {first second : SetM σ α}
    (yes : first.Alike os other) (no : second.Alike os other) :
    (if condition then first else second).Alike os other :=
  .iteOf (fun _ => yes) fun _ => no

/-- A value depends on no machine. -/
theorem SetM.Alike.pure (result : α) :
    (Pure.pure result : SetM σ α).Alike os other := by
  intro sys proc
  rfl

/-- What follows may rely on what the first part can deliver on the one machine. -/
theorem GetM.Alike.bindOf
    {program : GetM σ α} {next : α → GetM σ β} {kind : α → Prop}
    (first : program.Alike os other)
    (delivers : ∀ sys proc result later, program os sys proc = (.value result, later) → kind result)
    (second : ∀ result, kind result → (next result).Alike os other) :
    (program >>= next).Alike os other := by
  intro sys proc
  rw [GetM.bind_run, GetM.bind_run, ← first sys proc]
  cases run : program os sys proc with
  | mk outcome later =>
      cases outcome with
      | value result => exact second result (delivers sys proc result later run) sys later
      | failed => rfl
      | blocked => rfl

/-- The same where a reading program comes first. -/
theorem SetM.Alike.gettingOf
    {program : GetM σ α} {next : α → SetM σ β} {kind : α → Prop}
    (first : program.Alike os other)
    (delivers : ∀ sys proc result later, program os sys proc = (.value result, later) → kind result)
    (second : ∀ result, kind result → (next result).Alike os other) :
    (getting program >>= next).Alike os other := by
  intro sys proc
  rw [SetM.bind_run, SetM.bind_run, getting_run, getting_run, ← first sys proc]
  cases run : program os sys proc with
  | mk outcome later =>
      cases outcome with
      | value result => exact second result (delivers sys proc result later run) sys later
      | failed => rfl
      | blocked => rfl

/-- With `NULL` for `err`. -/
theorem GetM.Alike.quietly
    {program : GetM σ α} (alike : program.Alike os other) :
    (Zenctl.quietly program).Alike os other := by
  intro sys proc
  unfold Zenctl.quietly attempt
  rw [alike sys proc]

/-- A failure that is caught. -/
theorem SetM.Alike.attemptSet
    {program : SetM σ α} (alike : program.Alike os other) :
    (Zenctl.attemptSet program).Alike os other := by
  intro sys proc
  unfold Zenctl.attemptSet
  rw [alike sys proc]

/-- With `NULL` for `err`. -/
theorem SetM.Alike.quietlySet
    {program : SetM σ α} (alike : program.Alike os other) :
    (Zenctl.quietlySet program).Alike os other := by
  intro sys proc
  unfold Zenctl.quietlySet
  rw [alike.attemptSet sys proc]

/-- `errno` belongs to the process. -/
theorem getErrno_alike : (getErrno : GetM σ Int).Alike os other :=
  fun _ _ => rfl

/-- So does the heap. -/
theorem allocate_alike : (allocate : GetM σ Bool).Alike os other :=
  fun _ _ => rfl

/-- Several allocations one after the other. -/
theorem allocateMany_alike (count : Nat) :
    (allocateMany count : GetM σ Bool).Alike os other := by
  induction count with
  | zero => exact .pure true
  | succ count inductionHypothesis =>
      refine .bind allocate_alike fun there => ?_
      cases there with
      | false => exact .pure false
      | true => exact inductionHypothesis

/-- The texts of the errors are the same on both machines. -/
theorem strerror_alike
    (texts : os.strerror = other.strerror) (e : Int) :
    (strerror e : GetM σ CStr).Alike os other := by
  intro sys proc
  unfold strerror
  rw [texts]

/-- A changing call answered alike by both machines. -/
theorem sysSet_alike
    {call : Os σ → σ → Except Errno α × σ}
    (same : ∀ sys, call os sys = call other sys) :
    (sysSet call).Alike os other := by
  intro sys proc
  unfold sysSet
  rw [same sys]

/-- The names are copied on the heap only. -/
theorem copyNames_alike (message dir : CStr) (names : List CStr) :
    ∀ capacity copied,
      (copyNames message dir capacity copied names : GetM σ (List CStr)).Alike os other := by
  induction names with
  | nil =>
      intro capacity copied
      exact .pure copied
  | cons name rest inductionHypothesis =>
      intro capacity copied
      unfold copyNames
      refine .ite (inductionHypothesis _ _) (.bind (allocateOr_alike _ _) fun _ => ?_)
      exact .ite (.bind (allocateOr_alike _ _) fun _ => inductionHypothesis _ _)
        (inductionHypothesis _ _)

end Rules

/-! ## Files -/

section Files

variable {paths : CStr → Prop} {os other : Os σ} (agree : os.AgreeOn paths other)
  {path : CStr} (inside : paths path)

include agree inside

/-- A text file. -/
theorem Os.AgreeOn.readFileString (size : Nat) :
    (Zenctl.readFileString path size).Alike os other :=
  FileStep.readFileString_alike (agree.resolved path inside) size

/-- A file with an integer. -/
theorem Os.AgreeOn.readFileI64 :
    (Zenctl.readFileI64 path).Alike os other :=
  FileStep.readFileI64_alike (agree.resolved path inside)

/-- A write to a file. -/
theorem Os.AgreeOn.writeFileString (value : CStr) :
    (Zenctl.writeFileString path value).Alike os other :=
  FileStep.writeFileString_alike (agree.resolved path inside) value

/-- The question whether a path is there. -/
theorem Os.AgreeOn.accessOr (message : Option CStr) (mode : Access) :
    (sysCallOr (fun os sys => os.access sys path mode) message path : GetM σ Unit).Alike os
      other :=
  sysCallOr_alike agree.strerror (fun sys => (agree.file path inside).access sys mode) _ _

/-- The names in a directory. -/
theorem Os.AgreeOn.listDirOr :
    (sysCallOr (fun os sys => os.listDir sys path) none path : GetM σ (List CStr)).Alike os other :=
  sysCallOr_alike agree.strerror (agree.file path inside).listDir _ _

/-- The question whether a path is a directory. -/
theorem Os.AgreeOn.askIsDir :
    (Zenctl.askIsDir path).Alike os other := by
  intro sys proc
  exact congrArg (fun found => (Outcome.value found, proc)) ((agree.file path inside).isDir sys)

/-- The names in a directory, as the firmware calls read them. -/
theorem Os.AgreeOn.firmwareListDir :
    (Zenctl.firmwareListDir path).Alike os other := by
  have listed : GetM.Alike (firmwareListDir.listed path) os other := by
    intro sys proc
    unfold firmwareListDir.listed
    rw [(agree.file path inside).listDir sys]
    cases other.listDir sys path with
    | ok names => rfl
    | error e => exact raiseFirmware_alike agree.strerror e path sys proc
  refine .bind listed fun names => .bind (allocateOr_alike _ _) fun _ => ?_
  exact copyNames_alike _ _ _ _ _

/-- A text file, copied. -/
theorem Os.AgreeOn.readCopy (size : Nat) :
    (Zenctl.readCopy path size).Alike os other :=
  .bind (agree.readFileString inside size) fun _ => .bind (allocateOr_alike _ _) fun _ => .pure _

/-- An integer between two bounds. -/
theorem Os.AgreeOn.readRanged (low high : Int) (message : CStr) :
    (Zenctl.readRanged path low high message).Alike os other :=
  .bind (agree.readFileI64 inside) fun _ => .ite (raise_alike _ _ _) (.pure _)

/-- An integer read as a truth value. -/
theorem Os.AgreeOn.readNonzero :
    (Zenctl.readNonzero path).Alike os other :=
  .bind (agree.readFileI64 inside) fun _ => .pure _

/-- A hexadecimal identifier. -/
theorem Os.AgreeOn.readPciId :
    (Zenctl.readPciId path).Alike os other := by
  refine .bind (.bind (agree.readFileString inside 64) fun text => ?_) fun _ => .pure _
  refine .bind (setErrno_alike 0) fun _ => ?_
  cases strtollAuto text with
  | none => exact raise_alike _ _ _
  | some parsed =>
      exact .ite (.bind (setErrno_alike _) fun _ => raise_alike _ _ _) (.pure _)

/-- One of the two words of a power control. -/
theorem Os.AgreeOn.writePowerControl (mode caller : CStr) :
    (Zenctl.writePowerControl path mode caller).Alike os other :=
  .ite (raise_alike _ _ _).getting (agree.writeFileString inside mode)

end Files

/-! ## Block devices -/

section Storage

/-- What the code reads and writes below the directory of a block device. -/
def storageSuffixes : List CStr :=
  ["/queue/scheduler", "/device/queue_depth", "/queue/read_ahead_kb", "/device/cache_type",
    "/queue/write_cache", "/queue/rotational", "/queue/discard_max_bytes", "/stat",
    "/device/power/control"]

variable {paths : CStr → Prop} {os other : Os σ} (agree : os.AgreeOn paths other)

include agree

omit agree in
/-- The check of the name looks at no file. -/
theorem storageValidateDev_alike (name : CStr) :
    (storageValidateDev name).Alike os other :=
  .ite (raise_alike _ _ _) (.ite (raise_alike _ _ _) (.ite (raise_alike _ _ _) (.pure _)))

/-- The directory of the device, whose path is cut at 512 bytes. -/
theorem zenctlStorageOpen_alike
    {name : CStr} (inside : paths (bounded 512 ("/sys/block/".toList ++ name))) :
    (zenctlStorageOpen name).Alike os other :=
  .bind (storageValidateDev_alike name) fun _ => .bind (agree.accessOr inside _ _) fun _ =>
    .bind (allocateOr_alike _ _) fun _ => .pure _

variable {st : StorageHandle} (inside : ∀ suffix ∈ storageSuffixes, paths (storagePath st suffix))

include inside

/-- Two files may hold the type. -/
theorem cacheType_alike : (zenctlStorageGetCacheType st).Alike os other := by
  refine .bind (agree.readFileString (inside "/device/cache_type" (by decide)) 64).quietly ?_
  intro first
  cases first with
  | some text =>
      dsimp only
      cases cacheStrToType text with
      | some type => exact .pure type
      | none => exact raise_alike _ _ _
  | none =>
      refine .bind (agree.readFileString (inside "/queue/write_cache" (by decide)) 64) ?_
      intro text
      cases cacheStrToType text with
      | some type => exact .pure type
      | none => exact raise_alike _ _ _

/-- One line of numbers. -/
theorem ioStats_alike : (zenctlStorageGetIoStats st).Alike os other := by
  have stat := inside "/stat" (by decide)
  have opened : (openPath (storagePath st "/stat")).Alike os other :=
    sysCallOr_alike agree.strerror (agree.file _ stat).openRead _ _
  have line : (readStatLine (storagePath st "/stat")).Alike os other := by
    refine .bind opened fun file => ?_
    cases file.lines 1024 with
    | cons line rest => exact .pure line
    | nil =>
        cases file.readError with
        | some e => exact .bind (setErrno_alike _) fun _ => raise_alike _ _ _
        | none => exact raiseErrno_alike agree.strerror _ _
  exact .bind line fun _ => .ite (raise_alike _ _ _) (.pure _)

/-- Every getter of an open device. -/
theorem storageQuery_alike
    {call : Query β} (on : call.handle = some (.storage st)) :
    call.program.Alike os other := by
  cases call with
  | storageGetScheduler =>
      cases on
      refine .bind (agree.readFileString (inside "/queue/scheduler" (by decide)) 256) ?_
      intro text
      cases afterChar '[' text with
      | none => exact raise_alike _ _ _
      | some start =>
          exact .ite (.bind (allocateOr_alike _ _) fun _ => .pure _) (raise_alike _ _ _)
  | storageListSchedulers =>
      cases on
      exact agree.readCopy (inside "/queue/scheduler" (by decide)) 256
  | storageGetQueueDepth =>
      cases on
      exact .bind (agree.readFileI64 (inside "/device/queue_depth" (by decide))) fun _ =>
        .ite (raise_alike _ _ _) (.pure _)
  | storageGetReadAhead =>
      cases on
      exact agree.readFileI64 (inside "/queue/read_ahead_kb" (by decide))
  | storageGetCacheType =>
      cases on
      exact cacheType_alike agree inside
  | storageGetDiscardMax =>
      cases on
      exact agree.readFileI64 (inside "/queue/discard_max_bytes" (by decide))
  | storageGetRotational =>
      cases on
      exact .bind (agree.readFileI64 (inside "/queue/rotational" (by decide))) fun _ => .pure _
  | storageGetIoStats =>
      cases on
      exact ioStats_alike agree inside
  | storageGetPowerControl =>
      cases on
      exact agree.readCopy (inside "/device/power/control" (by decide)) 64
  | _ => cases on

/-- Every setter of an open device. -/
theorem storageUpdate_alike
    {call : Update} (on : call.handle = some (.storage st)) :
    call.program.Alike os other := by
  cases call with
  | storageSetScheduler =>
      cases on
      exact .ite (raise_alike _ _ _).getting (.ite (raise_alike _ _ _).getting
        (agree.writeFileString (inside "/queue/scheduler" (by decide)) _))
  | storageSetQueueDepth =>
      cases on
      exact .ite (raise_alike _ _ _).getting
        (agree.writeFileString (inside "/device/queue_depth" (by decide)) _)
  | storageSetReadAhead =>
      cases on
      exact .ite (raise_alike _ _ _).getting
        (agree.writeFileString (inside "/queue/read_ahead_kb" (by decide)) _)
  | storageSetCacheType =>
      cases on
      refine .bind (agree.writeFileString (inside "/device/cache_type" (by decide)) _).quietlySet ?_
      intro first
      cases first with
      | some _ => exact .pure ()
      | none => exact agree.writeFileString (inside "/queue/write_cache" (by decide)) _
  | storageSetPowerControl =>
      cases on
      exact .ite (raise_alike _ _ _).getting
        (agree.writePowerControl (inside "/device/power/control" (by decide)) _ _)
  | _ => cases on

end Storage

/-! ## Interfaces -/

section Net

/-- What the code reads and writes below the directory of an interface. -/
def netSuffixes : List CStr :=
  ["/speed", "/duplex", "/carrier", "/mtu", "/device/irq"]

/-- The affinity file of an interrupt, whose number the device tells. -/
def irqAffinityPath (irq : Int) : CStr :=
  bounded 512 ("/proc/irq/".toList ++ showInt irq ++ "/smp_affinity".toList)

variable {paths : CStr → Prop} {os other : Os σ} (agree : os.AgreeOn paths other)

include agree

omit agree in
/-- The check of the name looks at no file. -/
theorem netValidateIface_alike (name : CStr) :
    (netValidateIface name).Alike os other :=
  .ite (raise_alike _ _ _) (.ite (raise_alike _ _ _) (.ite (raise_alike _ _ _) (.pure _)))

/-- The directory of the interface, and a socket. -/
theorem zenctlNetOpen_alike
    {name : CStr} (inside : paths (bounded 512 ("/sys/class/net/".toList ++ name))) :
    (zenctlNetOpen name).Alike os other := by
  refine .bind (netValidateIface_alike name) fun _ => .bind (agree.accessOr inside _ _) fun _ =>
    .bind (allocateOr_alike _ _) fun _ => ?_
  refine .bind (sysCall_alike fun sys => congrFun agree.inetSocket sys) fun socket => ?_
  cases socket with
  | some _ => exact .pure _
  | none =>
      refine .bind getErrno_alike fun e => .bind (strerror_alike agree.strerror e) fun text => ?_
      exact .bind (fun _ _ => rfl) fun _ => .pure _

/-- The error depends on `errno` only. -/
theorem ethtoolFailed_alike : (ethtoolFailed : GetM σ α).Alike os other :=
  .bind getErrno_alike fun e => .bind (strerror_alike agree.strerror e) fun _ => raise_alike _ _ _

/-- An `ioctl` on the socket, which takes no path. -/
theorem netEthtoolGet_alike
    (net : NetHandle) {call : Os σ → σ → Except Errno α}
    (same : ∀ sys, call os sys = call other sys) :
    (netEthtoolGet net call).Alike os other := by
  refine .ite (.bind (sysCall_alike same) fun answer => ?_) (raise_alike _ _ _)
  cases answer with
  | some result => exact .pure result
  | none => exact ethtoolFailed_alike agree

/-- An `ioctl` on the socket, which takes no path. -/
theorem netEthtoolSet_alike
    (net : NetHandle) {call : Os σ → σ → Except Errno Unit × σ}
    (same : ∀ sys, call os sys = call other sys) :
    (netEthtoolSet net call).Alike os other := by
  refine .ite (.bind (sysSet_alike same) fun answer => ?_) (raise_alike _ _ _).getting
  cases answer with
  | some _ => exact .pure ()
  | none => exact (ethtoolFailed_alike agree).getting

/-- The ring parameters come from an `ioctl`. -/
theorem netGetRingparams_alike (net : NetHandle) :
    (netGetRingparams net).Alike os other :=
  netEthtoolGet_alike agree net fun sys => congrFun (congrFun agree.getRing sys) net.iface

/-- One of the ring parameters. -/
theorem getRing_alike (net : NetHandle) (field : RingParams → Nat) :
    (getRing net field).Alike os other :=
  .bind (netGetRingparams_alike agree net) fun _ => .pure _

/-- The ring parameters are read before they are written. -/
theorem setRing_alike
    (net : NetHandle) (size : Int) (change : RingParams → RingParams) (caller : CStr) :
    (setRing net size change caller).Alike os other := by
  refine .ite (raise_alike _ _ _).getting (.bind (netGetRingparams_alike agree net).getting ?_)
  intro rp
  refine netEthtoolSet_alike agree net fun sys => ?_
  rw [agree.setRing]

variable {net : NetHandle} (inside : ∀ suffix ∈ netSuffixes, paths (netSysfsPath net suffix))
  (affinity : ∀ irq, paths (irqAffinityPath irq))

include inside affinity

omit agree inside in
/-- Whatever number the device tells, its affinity file is among the paths. -/
theorem netIrqPath_delivers
    (sys : σ) (proc : Proc) (path : CStr) (later : Proc)
    (run : netIrqPath net "/smp_affinity" os sys proc = (.value path, later)) :
    paths path := by
  obtain ⟨irq, _, -, returned⟩ := GetM.value_of_bind run
  cases returned
  exact affinity irq

omit affinity in
/-- The number is read first, then the file of that number. -/
theorem irqAffinity_alike : (netIrqPath net "/smp_affinity").Alike os other :=
  .bind (agree.readRanged (inside "/device/irq" (by decide)) 0 intMax "irq out of range")
    fun _ => .pure _

/-- Every getter of an open interface. -/
theorem netQuery_alike
    {call : Query β} (on : call.handle = some (.net net)) :
    call.program.Alike os other := by
  cases call with
  | netGetRingRx | netGetRingTx | netGetRingRxMax | netGetRingTxMax =>
      cases on
      exact getRing_alike agree net _
  | netGetOffload _ flag =>
      cases on
      refine .bind (netEthtoolGet_alike agree net fun sys => ?_) fun _ => .pure _
      rw [agree.getFlag]
  | netGetSpeed =>
      cases on
      exact agree.readRanged (inside "/speed" (by decide)) _ _ _
  | netGetDuplex =>
      cases on
      exact agree.readCopy (inside "/duplex" (by decide)) 64
  | netGetLink =>
      cases on
      exact agree.readNonzero (inside "/carrier" (by decide))
  | netGetMtu =>
      cases on
      exact agree.readRanged (inside "/mtu" (by decide)) _ _ _
  | netGetIrq =>
      cases on
      exact agree.readRanged (inside "/device/irq" (by decide)) _ _ _
  | netGetIrqAffinity =>
      cases on
      exact .bindOf (irqAffinity_alike agree inside) (netIrqPath_delivers affinity)
        fun path inside => agree.readCopy inside 256
  | _ => cases on

/-- Every setter of an open interface. -/
theorem netUpdate_alike
    {call : Update} (on : call.handle = some (.net net)) :
    call.program.Alike os other := by
  cases call with
  | netSetRingRx | netSetRingTx =>
      cases on
      exact setRing_alike agree net _ _ _
  | netSetOffload _ flag on =>
      cases on
      refine netEthtoolSet_alike agree net fun sys => ?_
      rw [agree.setFlag]
  | netSetMtu =>
      cases on
      exact .ite (raise_alike _ _ _).getting
        (agree.writeFileString (inside "/mtu" (by decide)) _)
  | netSetIrqAffinity =>
      cases on
      refine .ite (raise_alike _ _ _).getting (.ite (raise_alike _ _ _).getting ?_)
      exact .gettingOf (irqAffinity_alike agree inside) (netIrqPath_delivers affinity)
        fun path inside => agree.writeFileString inside _
  | _ => cases on

end Net

/-! ## PCI devices -/

section Pcie

/-- What the code reads and writes below the directory of a PCI device. -/
def pcieSuffixes : List CStr :=
  ["/current_link_speed", "/current_link_width", "/max_link_speed", "/max_link_width",
    "/power/control", "/d3cold_allowed", "/iommu_group", "/numa_node", "/vendor", "/device",
    "/class"]

variable {paths : CStr → Prop} {os other : Os σ} (agree : os.AgreeOn paths other)

include agree

omit agree in
/-- The check of the address looks at no file. -/
theorem pcieValidateAddr_alike (addr : CStr) :
    (pcieValidateAddr addr).Alike os other :=
  .ite (raise_alike _ _ _) (.ite (raise_alike _ _ _) (.ite (.pure _) (raise_alike _ _ _)))

/-- The directory of the device. -/
theorem zenctlPcieOpen_alike
    {addr : CStr} (inside : paths (bounded 512 ("/sys/bus/pci/devices/".toList ++ addr))) :
    (zenctlPcieOpen addr).Alike os other :=
  .bind (pcieValidateAddr_alike addr) fun _ => .bind (agree.accessOr inside _ _) fun _ =>
    .bind (allocateOr_alike _ _) fun _ => .pure _

variable {p : PcieHandle} (inside : ∀ suffix ∈ pcieSuffixes, paths (pcieDevPath p suffix))

include inside

/-- The link is read where it lies, and its target is not opened. -/
theorem iommuGroup_alike : (zenctlPcieGetIommuGroup p).Alike os other := by
  have link := agree.file _ (inside "/iommu_group" (by decide))
  refine .bind (sysCall_alike link.readlink) fun target => ?_
  cases target with
  | none =>
      exact .bind getErrno_alike fun _ =>
        .ite (raise_alike _ _ _) (raiseErrno_alike agree.strerror _ _)
  | some target =>
      refine .ite (raise_alike _ _ _) ?_
      cases strtoll (baseName ((ofBuffer (target.take 511)).rdropWhile (· = '/'))) with
      | none => exact raise_alike _ _ _
      | some parsed => exact .ite (raise_alike _ _ _) (.ite (raise_alike _ _ _) (.pure _))

/-- Every getter of an open device. -/
theorem pcieQuery_alike
    {call : Query β} (on : call.handle = some (.pcie p)) :
    call.program.Alike os other := by
  cases call with
  | pcieGetLinkSpeed =>
      cases on
      exact agree.readCopy (inside "/current_link_speed" (by decide)) 64
  | pcieGetLinkWidth =>
      cases on
      exact agree.readRanged (inside "/current_link_width" (by decide)) _ _ _
  | pcieGetMaxLinkSpeed =>
      cases on
      exact agree.readCopy (inside "/max_link_speed" (by decide)) 64
  | pcieGetMaxLinkWidth =>
      cases on
      exact agree.readRanged (inside "/max_link_width" (by decide)) _ _ _
  | pcieGetPowerControl =>
      cases on
      exact agree.readCopy (inside "/power/control" (by decide)) 64
  | pcieGetD3coldAllowed =>
      cases on
      exact agree.readNonzero (inside "/d3cold_allowed" (by decide))
  | pcieGetIommuGroup =>
      cases on
      exact iommuGroup_alike agree inside
  | pcieGetNumaNode =>
      cases on
      exact agree.readRanged (inside "/numa_node" (by decide)) _ _ _
  | pcieGetVendorId =>
      cases on
      exact agree.readPciId (inside "/vendor" (by decide))
  | pcieGetDeviceId =>
      cases on
      exact agree.readPciId (inside "/device" (by decide))
  | pcieGetClass =>
      cases on
      exact agree.readPciId (inside "/class" (by decide))
  | _ => cases on

/-- Every setter of an open device. -/
theorem pcieUpdate_alike
    {call : Update} (on : call.handle = some (.pcie p)) :
    call.program.Alike os other := by
  cases call with
  | pcieSetPowerControl =>
      cases on
      exact .ite (raise_alike _ _ _).getting
        (agree.writePowerControl (inside "/power/control" (by decide)) _ _)
  | pcieSetD3coldAllowed =>
      cases on
      exact agree.writeFileString (inside "/d3cold_allowed" (by decide)) _
  | _ => cases on

end Pcie

/-! ## USB devices -/

section Usb

/-- The attributes of a USB device, under its own directory. -/
def usbAttributes : List CStr :=
  ["busnum", "devnum", "idVendor", "idProduct", "manufacturer", "product", "speed",
    "power/control", "power/runtime_status", "power/autosuspend_delay_ms", "authorized",
    "power/wakeup"]

/-- The node of a device, made of the two numbers it tells. -/
def usbNodePath (busnum devnum : Int) : CStr :=
  bounded 128 ("/dev/bus/usb/".toList ++ pad3 busnum ++ '/' :: pad3 devnum)

variable {paths : CStr → Prop} {os other : Os σ} (agree : os.AgreeOn paths other)
  {u : UsbHandle} (inside : ∀ attr ∈ usbAttributes, paths (joinPath u.sysfsDir attr))

include agree inside

/-- A number that may be missing. -/
theorem readUsbNumber_alike
    {key : CStr} (listed : key ∈ usbAttributes) (unset : Int) :
    (readUsbNumber u.sysfsDir key unset).Alike os other :=
  .bind (agree.readFileString (inside key listed) 32).quietly fun _ => .pure _

/-- The bus and the device number. -/
theorem readBusDevNums_alike : (readBusDevNums u).Alike os other := by
  refine .bind allocate_alike fun first => .ite ?_ (.pure u)
  refine .bind (readUsbNumber_alike agree inside (by decide) _) fun busnum => ?_
  refine .bind allocate_alike fun second => .ite ?_ (.pure _)
  exact .bind (readUsbNumber_alike agree inside (by decide) _) fun devnum => .pure _

omit inside in
/-- The directory of the device and its two numbers. -/
theorem zenctlUsbOpen_alike
    {dev : CStr} (dir : paths (joinPath usbSysfsBase dev))
    (inside : ∀ attr ∈ usbAttributes, paths (joinPath (joinPath usbSysfsBase dev) attr)) :
    (zenctlUsbOpen dev).Alike os other := by
  refine .ite ?_ (raise_alike _ _ _)
  refine .bind (allocateOr_alike _ _) fun _ => .bind (allocateOr_alike _ _) fun _ =>
    .bind (allocateOr_alike _ _) fun _ => .bind (agree.listDirOr dir) fun _ => ?_
  exact readBusDevNums_alike agree inside

omit agree in
/-- The path of an attribute is the one of the list. -/
theorem usbAttrPath_delivers
    {attr : CStr} (listed : attr ∈ usbAttributes) {context : CStr}
    (sys : σ) (proc : Proc) (path : CStr) (later : Proc)
    (run : usbAttrPath u attr context os sys proc = (.value path, later)) :
    paths path := by
  obtain ⟨_, _, -, returned⟩ := GetM.value_of_bind run
  cases returned
  exact inside attr listed

omit agree inside in
/-- The path is put together on the heap. -/
theorem usbAttrPath_alike (u : UsbHandle) (attr context : CStr) :
    (usbAttrPath u attr context).Alike os other :=
  .bind (allocateOr_alike _ _) fun _ => .pure _

/-- An attribute as a text. -/
theorem readAttrStr_alike
    {attr : CStr} (listed : attr ∈ usbAttributes) :
    (readAttrStr u attr).Alike os other :=
  .bindOf (usbAttrPath_alike u attr attr) (usbAttrPath_delivers inside listed) fun _ inside =>
    .bind (agree.readFileString inside 512) fun _ => .bind (allocateOr_alike _ _) fun _ => .pure _

/-- An attribute as a hexadecimal number. -/
theorem readAttrHex_alike
    {attr : CStr} (listed : attr ∈ usbAttributes) :
    (readAttrHex u attr).Alike os other :=
  .bindOf (usbAttrPath_alike u attr attr) (usbAttrPath_delivers inside listed) fun _ inside =>
    .bind (agree.readFileString inside 32) fun _ => .pure _

/-- An attribute in a small buffer. -/
theorem readAttrText_alike
    {attr : CStr} (listed : attr ∈ usbAttributes) (context : CStr) (size : Nat) :
    (readAttrText u attr context size).Alike os other :=
  .bindOf (usbAttrPath_alike u attr context) (usbAttrPath_delivers inside listed) fun _ inside =>
    agree.readFileString inside size

/-- An attribute is written. -/
theorem writeAttrStr_alike
    {attr : CStr} (listed : attr ∈ usbAttributes) (value : CStr) :
    (writeAttrStr u attr value).Alike os other :=
  .gettingOf (usbAttrPath_alike u attr attr) (usbAttrPath_delivers inside listed) fun _ inside =>
    agree.writeFileString inside value

/-- The node of the device lies outside its directory. -/
theorem zenctlUsbReset_alike (nodes : ∀ busnum devnum, paths (usbNodePath busnum devnum)) :
    (zenctlUsbReset u).Alike os other := by
  refine .bind (GetM.Alike.ite (readBusDevNums_alike agree inside) (.pure u)).getting ?_
  intro found
  refine .ite (raise_alike _ _ _).getting ?_
  have node := nodes found.busnum found.devnum
  refine .bind (sysCallOr_alike agree.strerror (agree.openNode _ node) _ _).getting fun _ => ?_
  refine .bind (sysSet_alike (agree.resetNode _ node)) fun answer => ?_
  cases answer with
  | some _ => exact .pure ()
  | none => exact (raiseErrno_alike agree.strerror _ _).getting

/-- Every getter of an open device. -/
theorem usbQuery_alike
    {call : Query β} (on : call.handle = some (.usb u)) :
    call.program.Alike os other := by
  cases call with
  | usbGetVendorId | usbGetProductId =>
      cases on
      exact readAttrHex_alike agree inside (by decide)
  | usbGetManufacturer | usbGetProduct | usbGetSpeed | usbGetPowerControl | usbGetRuntimeStatus =>
      cases on
      exact readAttrStr_alike agree inside (by decide)
  | usbGetAutosuspendDelay | usbGetAuthorized | usbGetWakeup =>
      cases on
      exact .bind (readAttrText_alike agree inside (by decide) _ _) fun _ => .pure _
  | _ => cases on

/-- Every setter of an open device. -/
theorem usbUpdate_alike (nodes : ∀ busnum devnum, paths (usbNodePath busnum devnum))
    {call : Update} (on : call.handle = some (.usb u)) :
    call.program.Alike os other := by
  cases call with
  | usbSetPowerControl =>
      cases on
      exact .ite (raise_alike _ _ _).getting (writeAttrStr_alike agree inside (by decide) _)
  | usbSetAutosuspendDelay | usbSetAuthorized | usbSetWakeup =>
      cases on
      exact writeAttrStr_alike agree inside (by decide) _
  | usbReset =>
      cases on
      exact zenctlUsbReset_alike agree inside nodes
  | _ => cases on

end Usb

/-! ## Firmware -/

section Firmware

variable {paths : CStr → Prop} {os other : Os σ} (agree : os.AgreeOn paths other)

/-- The path is put together on the heap. -/
theorem joinOr_alike (dir name context : CStr) :
    (joinOr dir name context).Alike os other :=
  .bind (allocateOr_alike _ _) fun _ => .pure _

/-- What is delivered is the joined path. -/
theorem joinOr_delivers
    {dir name context : CStr} (inside : paths (joinPath dir name))
    (sys : σ) (proc : Proc) (path : CStr) (later : Proc)
    (run : joinOr dir name context os sys proc = (.value path, later)) :
    paths path := by
  obtain ⟨_, _, -, returned⟩ := GetM.value_of_bind run
  cases returned
  exact inside

/-- The path of a variable is put together on the heap. -/
theorem efiPath_alike (name guid caller : CStr) :
    (efiPath name guid caller).Alike os other :=
  .bind (allocateOr_alike _ _) fun _ => joinOr_alike _ _ _

/-- What is delivered is the path of the variable. -/
theorem efiPath_delivers
    {name guid caller : CStr} (inside : paths (efiVariablePath name guid))
    (sys : σ) (proc : Proc) (path : CStr) (later : Proc)
    (run : efiPath name guid caller os sys proc = (.value path, later)) :
    paths path := by
  obtain ⟨_, between, -, joined⟩ := GetM.value_of_bind run
  exact joinOr_delivers inside sys between path later joined

include agree

/-- The name is checked, then one file is read. -/
theorem zenctlFwAcpiGetTable_alike
    {name : CStr} (inside : paths (joinPath acpiTablesBase name)) :
    (zenctlFwAcpiGetTable name).Alike os other := by
  refine .ite (raise_alike _ _ _) (.ite ?_ (raise_alike _ _ _))
  exact .bindOf (joinOr_alike _ _ _) (joinOr_delivers inside) fun path inside =>
    FileStep.readFileBinary_alike (agree.resolved path inside)

section Efi

variable {name guid : CStr} (base : paths efivarsBase) (inside : paths (efiVariablePath name guid))

include base inside

/-- The mount table is looked up, then one file is read. -/
theorem zenctlFwEfiGet_alike : (zenctlFwEfiGet name guid).Alike os other := by
  refine .ite ?_ (raise_alike _ _ _)
  refine .bind (FileStep.efivarsMounted_alike (agree.resolved _ base)) fun _ => ?_
  refine .bindOf (efiPath_alike _ _ _) (efiPath_delivers inside) fun path inside => ?_
  refine .bind (FileStep.readFileBinary_alike (agree.resolved path inside)) fun raw => ?_
  exact .ite (raise_alike _ _ _) (.bind (allocateOr_alike _ _) fun _ => .pure _)

omit base inside in
/-- The flags of the file, read and written. -/
theorem efiMaybeClearImmutable_alike
    {path : CStr} (inside : paths path) :
    (efiMaybeClearImmutable path).Alike os other := by
  have same := agree.file path inside
  refine .bind (FileStep.fsGetFlags_alike same).getting fun flags => ?_
  cases flags with
  | none => exact .pure false
  | some flags => exact .ite (.bind (FileStep.fsSetFlags_alike same _) fun _ => .pure _) (.pure _)

omit base inside in
/-- The flags of the same file again. -/
theorem restoreAfter_alike
    {path : CStr} (inside : paths path) (wasCleared : Bool) (result : Option Unit) :
    (restoreAfter path wasCleared result).Alike os other := by
  have same := agree.file path inside
  have finish : SetM.Alike (restoreAfter.finish result) os other := by
    cases result <;> exact fun _ _ => rfl
  have restore : (efiMaybeRestoreImmutable path).Alike os other := by
    refine .bind (FileStep.fsGetFlags_alike same).getting fun flags => ?_
    cases flags with
    | none => exact .pure ()
    | some flags => exact .ite (.pure ()) (FileStep.fsSetFlags_alike same _)
  exact .ite (.bind restore.quietlySet fun _ => finish) finish

/-- One file is written, its flags before and after. -/
theorem zenctlFwEfiSet_alike (attributes : Nat) (data : List Char) :
    (zenctlFwEfiSet name guid attributes data).Alike os other := by
  refine .ite ?_ (raise_alike _ _ _).getting
  refine .bind (FileStep.efivarsMounted_alike (agree.resolved _ base)).getting fun _ => ?_
  refine .gettingOf (efiPath_alike _ _ _) (efiPath_delivers inside) fun path inside => ?_
  refine .bind (allocateOr_alike _ _).getting fun _ => ?_
  refine .bind (efiMaybeClearImmutable_alike agree inside) fun wasCleared => ?_
  have written := FileStep.writeBinaryFile_alike (agree.file path inside)
    (attributeBytes attributes ++ data)
  exact .bind written.attemptSet fun result => restoreAfter_alike agree inside wasCleared result

/-- One file is emptied and removed. -/
theorem zenctlFwEfiDelete_alike : (zenctlFwEfiDelete name guid).Alike os other := by
  refine .ite ?_ (raise_alike _ _ _).getting
  refine .bind (FileStep.efivarsMounted_alike (agree.resolved _ base)).getting fun _ => ?_
  refine .gettingOf (efiPath_alike _ _ _) (efiPath_delivers inside) fun path inside => ?_
  refine .bind (efiMaybeClearImmutable_alike agree inside) fun wasCleared => ?_
  have same := agree.file path inside
  have isFile : GetM.Alike (eraseVariable.askIsFile path) os other := by
    intro sys proc
    exact congrArg (fun found => (Outcome.value found, proc)) (same.isFile sys)
  have erased : (eraseVariable path).Alike os other :=
    .bind (FileStep.writeBinaryFile_alike same _) fun _ => .bind isFile.getting fun _ =>
      .ite (FileStep.unlinkVariable_alike same) (.pure ())
  refine .bind erased.attemptSet fun result => ?_
  cases result with
  | some _ => exact .pure ()
  | none => exact restoreAfter_alike agree inside wasCleared none

end Efi

end Firmware

/-! ## BIOS settings -/

section Bios

/-- The directories of the vendors and roles, and the password files of the roles. -/
def IsVendorPath (path : CStr) : Prop :=
  path = fwattrBase ∨ ∃ vendor, '/' ∉ vendor ∧
    (path = joinPath fwattrBase vendor ∨ path = vendorPath vendor "authentication" ∨
      ∃ role, '/' ∉ role ∧ (path = joinPath (vendorPath vendor "authentication") role ∨
        path = rolePath vendor role))

variable {paths : CStr → Prop} {os other : Os σ} (agree : os.AgreeOn paths other)
  (vendors : ∀ path, IsVendorPath path → paths path)

include agree

/-- A listing delivers names without a slash. -/
theorem firmwareListDir_plain
    {dir : CStr} (sys : σ) (proc : Proc) (names : List CStr) (later : Proc)
    (run : firmwareListDir dir os sys proc = (.value names, later)) :
    ∀ name ∈ names, '/' ∉ name := by
  obtain ⟨found, _, listing, copying⟩ := GetM.value_of_bind run
  obtain ⟨_, _, -, copied⟩ := GetM.value_of_bind copying
  have listed : os.listDir sys dir = .ok found := by
    unfold firmwareListDir.listed at listing
    split at listing
    · next names answer =>
        cases listing
        exact answer
    · cases listing
  intro name member
  rcases copyNames_value copied name member with none | entry
  · cases none
  · exact agree.plain sys dir found listed name (List.mem_filter.mp entry).1

include vendors

/-- The directories of the vendors, one after the other. -/
theorem firstVendor_alike
    {entries : List CStr} (plain : ∀ entry ∈ entries, '/' ∉ entry) :
    (firstVendor entries).Alike os other := by
  induction entries with
  | nil => exact .pure none
  | cons entry rest inductionHypothesis =>
      have later := inductionHypothesis fun entry member => plain entry (List.mem_cons_of_mem _ member)
      have dir := vendors (joinPath fwattrBase entry)
        (.inr ⟨entry, plain entry List.mem_cons_self, .inl rfl⟩)
      refine .bind allocate_alike fun _ => .ite (.bind (agree.askIsDir dir) fun _ => ?_) later
      exact .ite (.bind allocate_alike fun _ => .ite (.pure _) (.pure _)) later

/-- The first of them. -/
theorem fwattrFindVendor_alike : fwattrFindVendor.Alike os other := by
  refine .bindOf (agree.firmwareListDir (vendors _ (.inl rfl))) (firmwareListDir_plain agree) ?_
  intro entries plain
  refine .bind (firstVendor_alike agree vendors plain) fun vendor => ?_
  cases vendor with
  | some vendor => exact .pure vendor
  | none => exact raise_alike _ _ _

omit vendors in
/-- The vendor is a name in a directory, so it has no slash. -/
theorem fwattrFindVendor_plain
    (sys : σ) (proc : Proc) (vendor : CStr) (later : Proc)
    (run : fwattrFindVendor os sys proc = (.value vendor, later)) :
    '/' ∉ vendor := by
  obtain ⟨entries, between, listing, looking⟩ := GetM.value_of_bind run
  obtain ⟨first, _, looked, returned⟩ := GetM.value_of_bind looking
  cases first with
  | none => cases returned
  | some found =>
      cases returned
      exact firmwareListDir_plain agree sys proc entries between listing _
        (firstVendor_value looked).1

section Roles

variable {vendor : CStr} (named : '/' ∉ vendor)

include named

/-- The directory of a role is looked for. -/
theorem passwordPath_alike {role : CStr} (plain : '/' ∉ role) :
    (passwordPath (vendorPath vendor "authentication") role).Alike os other := by
  have dir := vendors (joinPath (vendorPath vendor "authentication") role)
    (.inr ⟨vendor, named, .inr (.inr ⟨role, plain, .inl rfl⟩)⟩)
  refine .bind allocate_alike fun _ => .ite (.bind (agree.askIsDir dir) fun _ => ?_) (.pure _)
  exact .ite (.bind allocate_alike fun _ => .ite (.pure _) (.pure _)) (.pure _)

omit agree in
/-- The password file of a role is among the paths. -/
theorem passwordPath_delivers
    {role : CStr} (plain : '/' ∉ role)
    (sys : σ) (proc : Proc) (found : Option CStr) (later : Proc)
    (run : passwordPath (vendorPath vendor "authentication") role os sys proc =
      (.value found, later)) :
    ∀ path ∈ found, paths path := by
  have isRole : paths (rolePath vendor role) :=
    vendors _ (.inr ⟨vendor, named, .inr (.inr ⟨role, plain, .inr rfl⟩)⟩)
  obtain ⟨memory, _, -, looking⟩ := GetM.value_of_bind run
  intro path member
  cases memory with
  | false =>
      cases looking
      cases member
  | true =>
      obtain ⟨isDir, _, -, chosen⟩ := GetM.value_of_bind looking
      cases isDir with
      | false =>
          cases chosen
          cases member
      | true =>
          obtain ⟨copied, _, -, returned⟩ := GetM.value_of_bind chosen
          cases copied with
          | false =>
              cases returned
              cases member
          | true =>
              cases returned
              cases member
              exact isRole

/-- A walk over the roles that gives a text to each file, whatever it does with the answer. -/
theorem unlockRoles_alike
    (password : CStr) {roles : List CStr} (plain : ∀ role ∈ roles, '/' ∉ role) :
    (unlockRoles (vendorPath vendor "authentication") password roles).Alike os other := by
  induction roles with
  | nil => exact .pure ()
  | cons role rest inductionHypothesis =>
      have later := inductionHypothesis fun role member => plain role (List.mem_cons_of_mem _ member)
      have here := plain role List.mem_cons_self
      refine .gettingOf (passwordPath_alike agree vendors named here)
        (passwordPath_delivers vendors named here) fun found inside => ?_
      cases found with
      | none => exact later
      | some path =>
          refine .bind (agree.writeFileString (inside path rfl) password).quietlySet fun taken => ?_
          cases taken with
          | some _ => exact .pure ()
          | none => exact later

/-- The password files again, all of them. -/
theorem clearRoles_alike
    {roles : List CStr} (plain : ∀ role ∈ roles, '/' ∉ role) :
    (clearRoles (vendorPath vendor "authentication") roles).Alike os other := by
  induction roles with
  | nil => exact .pure ()
  | cons role rest inductionHypothesis =>
      have later := inductionHypothesis fun role member => plain role (List.mem_cons_of_mem _ member)
      have here := plain role List.mem_cons_self
      refine .gettingOf (passwordPath_alike agree vendors named here)
        (passwordPath_delivers vendors named here) fun found inside => ?_
      cases found with
      | none => exact later
      | some path => exact .bind (agree.writeFileString (inside path rfl) []).quietlySet fun _ => later

omit vendors named in
/-- A listing that may be missing has plain names too. -/
theorem quietly_plain
    {dir : CStr} (sys : σ) (proc : Proc) (listing : Option (List CStr)) (later : Proc)
    (run : quietly (firmwareListDir dir) os sys proc = (.value listing, later)) :
    ∀ names ∈ listing, ∀ name ∈ names, '/' ∉ name := by
  rintro names ⟨⟩
  obtain ⟨between, listed⟩ := value_of_quietly run
  exact firmwareListDir_plain agree sys proc names between listed

/-- The roles are the names in one directory. -/
theorem rolesListed_alike :
    (quietly (firmwareListDir (vendorPath vendor "authentication"))).Alike os other :=
  (agree.firmwareListDir (vendors _ (.inr ⟨vendor, named, .inr (.inl rfl)⟩))).quietly

/-- The roles are listed, then their password files are written. -/
theorem unlockBios_alike (password : CStr) :
    (unlockBios vendor password).Alike os other := by
  refine .bind (allocateOr_alike _ _).getting fun _ => .bind (allocateOr_alike _ _).getting fun _ => ?_
  refine .gettingOf (rolesListed_alike agree vendors named) (quietly_plain agree) ?_
  intro listing plain
  cases listing with
  | none => exact .pure ()
  | some roles => exact unlockRoles_alike agree vendors named password (plain roles rfl)

end Roles

/-- The vendor is looked for once more. -/
theorem clearPasswords_alike : clearPasswords.Alike os other := by
  have found : ∀ sys proc vendor later,
      quietly fwattrFindVendor os sys proc = (.value vendor, later) →
        ∀ name ∈ vendor, '/' ∉ name := by
    rintro sys proc vendor later run name ⟨⟩
    obtain ⟨between, looked⟩ := value_of_quietly run
    exact fwattrFindVendor_plain agree sys proc name between looked
  refine .gettingOf (fwattrFindVendor_alike agree vendors).quietly found fun vendor named => ?_
  cases vendor with
  | none => exact .pure ()
  | some vendor =>
      have named := named vendor rfl
      refine .bind (allocateMany_alike 2).getting fun _ => .ite ?_ (.pure ())
      refine .gettingOf (rolesListed_alike agree vendors named) (quietly_plain agree) ?_
      intro listing plain
      cases listing with
      | none => exact .pure ()
      | some roles => exact clearRoles_alike agree vendors named (plain roles rfl)

/-- The value of the setting, and the password files around it. -/
theorem zenctlFwBiosSetSetting_alike
    {name : CStr} (inside : ∀ vendor, '/' ∉ vendor → paths (settingValuePath vendor name))
    (value : CStr) (password : Option CStr) :
    (zenctlFwBiosSetSetting name value password).Alike os other := by
  refine .ite (raise_alike _ _ _).getting (.ite (raise_alike _ _ _).getting ?_)
  refine .gettingOf (fwattrFindVendor_alike agree vendors) (fwattrFindVendor_plain agree) ?_
  intro vendor named
  have path : (settingValuePathOr vendor name).Alike os other :=
    .bind (allocateOr_alike _ _) fun _ => .bind (allocateOr_alike _ _) fun _ =>
      .bind (allocateOr_alike _ _) fun _ => .bind (allocateOr_alike _ _) fun _ => .pure _
  have written : ∀ result, result = settingValuePath vendor name →
      (writeFileString result value).Alike os other := by
    rintro _ rfl
    exact agree.writeFileString (inside vendor named) value
  have joined : ∀ sys proc result later, settingValuePathOr vendor name os sys proc =
      (.value result, later) → result = settingValuePath vendor name :=
    fun _ _ _ _ run => settingValuePathOr_value run
  refine .ite (.gettingOf path joined written) ?_
  refine .bind (unlockBios_alike agree vendors named _) fun _ => ?_
  refine .gettingOf path joined fun result same => ?_
  exact .bind (written result same) fun _ => clearPasswords_alike agree vendors

end Bios

end Zenctl
