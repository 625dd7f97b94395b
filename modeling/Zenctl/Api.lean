import Zenctl.CString

namespace Zenctl

open CString

/-!
# The library interface the command line is written against

The command line reaches the hardware through `libzenctl` only.  Its calls are
of two kinds: a `Query` reads the system and cannot change it, an `Update` is
a setter.  A `Library` answers both over an arbitrary system state `σ`; the
second state `τ` is what the library process itself remembers between calls
(`errno`, the allocator), so that a query may answer differently each time it
is asked.

The remaining system services the command line uses directly (directory
listings, profile files, the user's identity) are the fields of `Host` and
`Env`.
-/

/-- The error record every fallible library call fills. -/
structure Err where
  code : Int
  message : CStr
  context : CStr
  recoverable : Bool
  deriving Repr, DecidableEq

namespace Err

/-- `ZENCTL_OK`. -/
abbrev ok : Int := 0
/-- `ZENCTL_ERR_EPERM`. -/
abbrev eperm : Int := 1
/-- `ZENCTL_ERR_ENOENT`. -/
abbrev enoent : Int := 2
/-- `ZENCTL_ERR_EINVAL`. -/
abbrev einval : Int := 3
/-- `ZENCTL_ERR_EIO`. -/
abbrev eio : Int := 4
/-- `ZENCTL_ERR_ENOTSUP`. -/
abbrev enotsup : Int := 5
/-- `ZENCTL_ERR_ERANGE`. -/
abbrev erange : Int := 6
/-- `ZENCTL_ERR_NOMEM`. -/
abbrev nomem : Int := 7
/-- `ZENCTL_ERR_INTERNAL`. -/
abbrev internal : Int := 8

/-- An error record as `memset(&err, 0, sizeof(err))` leaves it. -/
def zero : Err := ⟨ok, [], [], false⟩

end Err

/-- `zenctl_strerror`. -/
def zenctlStrerror (code : Int) : CStr :=
  if code = Err.ok then "ok"
  else if code = Err.eperm then "permission denied"
  else if code = Err.enoent then "not found"
  else if code = Err.einval then "invalid argument"
  else if code = Err.eio then "I/O error"
  else if code = Err.enotsup then "not supported"
  else if code = Err.erange then "out of range"
  else if code = Err.nomem then "out of memory"
  else if code = Err.internal then "internal error"
  else "unknown error"

/-! ## Records and handles -/

inductive ThpMode where
  | always | madvise | never
  deriving Repr, DecidableEq

inductive CacheType where
  | writeBack | writeThrough | none | writeBackFua
  deriving Repr, DecidableEq

inductive SleepState where
  | freeze | mem | disk | standby
  deriving Repr, DecidableEq

/-- The five NIC offloads with a getter and a setter each. -/
inductive Offload where
  | tso | gro | gso | rxcsum | txcsum
  deriving Repr, DecidableEq

structure NumaNode where
  nodeId : Int
  memTotal : Int
  memFree : Int
  cpumask : CStr
  deriving Repr, DecidableEq

/-- The seventeen counters of `/sys/block/<dev>/stat`. -/
structure IoStats where
  readsCompleted : Int
  readsMerged : Int
  sectorsRead : Int
  timeReadingMs : Int
  writesCompleted : Int
  writesMerged : Int
  sectorsWritten : Int
  timeWritingMs : Int
  iosInProgress : Int
  timeIoMs : Int
  weightedTimeIoMs : Int
  discardsCompleted : Int
  discardsMerged : Int
  sectorsDiscarded : Int
  timeDiscardingMs : Int
  flushesCompleted : Int
  timeFlushingMs : Int
  deriving Repr, DecidableEq

structure Trip where
  index : Int
  temp : Int
  type : CStr
  hysteresis : Int
  deriving Repr, DecidableEq

structure Cooling where
  index : Int
  type : CStr
  curState : Int
  maxState : Int
  deriving Repr, DecidableEq

structure HwmonTemp where
  name : CStr
  label : CStr
  temp : Int
  tempMax : Int
  tempCrit : Int
  deriving Repr, DecidableEq

structure Battery where
  name : CStr
  status : CStr
  capacity : Int
  chargeFull : Int
  chargeFullDesign : Int
  chargeNow : Int
  currentNow : Int
  voltageNow : Int
  cycleCount : Int
  technology : CStr
  deriving Repr, DecidableEq

structure EfiVar where
  name : CStr
  guid : CStr
  attributes : Nat
  dataSize : Nat
  deriving Repr, DecidableEq

structure BiosSetting where
  name : CStr
  type : CStr
  currentValue : CStr
  defaultValue : CStr
  displayName : CStr
  deriving Repr, DecidableEq

structure CpuHandle where
  index : Int
  deriving Repr, DecidableEq

structure StorageHandle where
  devName : CStr
  deriving Repr, DecidableEq

structure NetHandle where
  iface : CStr
  /-- Could the `ethtool` socket be opened? -/
  hasSocket : Bool
  deriving Repr, DecidableEq

structure PcieHandle where
  pciAddr : CStr
  deriving Repr, DecidableEq

structure GpuHandle where
  cardIndex : Int
  sysfsPath : CStr
  devicePath : CStr
  driver : Option CStr
  vendor : Option CStr
  hwmonPath : Option CStr
  deriving Repr, DecidableEq

structure ThermalHandle where
  zoneName : CStr
  zonePath : CStr
  deriving Repr, DecidableEq

structure UsbHandle where
  devPath : CStr
  sysfsDir : CStr
  busnum : Int
  devnum : Int
  deriving Repr, DecidableEq

structure BtHandle where
  adapter : CStr
  sysfsDir : CStr
  index : Int
  deriving Repr, DecidableEq

structure WirelessHandle where
  phy : CStr
  sysfsDir : CStr
  index : Int
  deriving Repr, DecidableEq

/-! ## Calls -/

/--
The reading calls, with the type of what each returns on success.  The
key-value interface is a stub that returns nothing.
-/
inductive Query : Type → Type where
  | ctxNew : Query Unit
  | kvGet (key : CStr) : Query Unit
  | kvKeys : Query Unit
  | cpuOpen (index : Int) : Query CpuHandle
  | cpuGetGovernor (cpu : CpuHandle) : Query CStr
  | cpuGetFreqMin (cpu : CpuHandle) : Query Int
  | cpuGetFreqMax (cpu : CpuHandle) : Query Int
  | cpuGetOnline (cpu : CpuHandle) : Query Bool
  | cpuGetSmtActive : Query Bool
  | cpuGetCstateDisable (cpu : CpuHandle) (state : Int) : Query Bool
  | memGetNrHugepages : Query Int
  | memGetNrHugepagesSize (sizeKb : Int) : Query Int
  | memGetHugepageSize : Query Int
  | memGetThp : Query ThpMode
  | memNumaNodeCount : Query Int
  | memNumaGetNode (node : Int) : Query NumaNode
  | memGetSwappiness : Query Int
  | memGetOvercommit : Query Int
  | memGetVfsCachePressure : Query Int
  | storageOpen (dev : CStr) : Query StorageHandle
  | storageGetScheduler (st : StorageHandle) : Query CStr
  | storageListSchedulers (st : StorageHandle) : Query CStr
  | storageGetQueueDepth (st : StorageHandle) : Query Int
  | storageGetReadAhead (st : StorageHandle) : Query Int
  | storageGetCacheType (st : StorageHandle) : Query CacheType
  | storageGetDiscardMax (st : StorageHandle) : Query Int
  | storageGetRotational (st : StorageHandle) : Query Bool
  | storageGetIoStats (st : StorageHandle) : Query IoStats
  | storageGetPowerControl (st : StorageHandle) : Query CStr
  | netOpen (iface : CStr) : Query NetHandle
  | netGetRingRx (net : NetHandle) : Query Int
  | netGetRingTx (net : NetHandle) : Query Int
  | netGetRingRxMax (net : NetHandle) : Query Int
  | netGetRingTxMax (net : NetHandle) : Query Int
  | netGetOffload (net : NetHandle) (flag : Offload) : Query Bool
  | netGetSpeed (net : NetHandle) : Query Int
  | netGetDuplex (net : NetHandle) : Query CStr
  | netGetLink (net : NetHandle) : Query Bool
  | netGetMtu (net : NetHandle) : Query Int
  | netGetIrq (net : NetHandle) : Query Int
  | netGetIrqAffinity (net : NetHandle) : Query CStr
  | pcieOpen (addr : CStr) : Query PcieHandle
  | pcieGetLinkSpeed (p : PcieHandle) : Query CStr
  | pcieGetLinkWidth (p : PcieHandle) : Query Int
  | pcieGetMaxLinkSpeed (p : PcieHandle) : Query CStr
  | pcieGetMaxLinkWidth (p : PcieHandle) : Query Int
  | pcieGetPowerControl (p : PcieHandle) : Query CStr
  | pcieGetD3coldAllowed (p : PcieHandle) : Query Bool
  | pcieGetIommuGroup (p : PcieHandle) : Query Int
  | pcieGetNumaNode (p : PcieHandle) : Query Int
  | pcieGetVendorId (p : PcieHandle) : Query Int
  | pcieGetDeviceId (p : PcieHandle) : Query Int
  | pcieGetClass (p : PcieHandle) : Query Int
  | pcieGetAspmPolicy : Query CStr
  | gpuOpen (card : Int) : Query GpuHandle
  | gpuOpenPath (drmPath : CStr) : Query GpuHandle
  | gpuGetDriver (g : GpuHandle) : Query CStr
  | gpuGetVendor (g : GpuHandle) : Query CStr
  | gpuGetTemp (g : GpuHandle) : Query Int
  | gpuGetPower (g : GpuHandle) : Query Int
  | gpuGetFreq (g : GpuHandle) : Query Int
  | gpuGetFanPwm (g : GpuHandle) : Query Int
  | gpuGetFanAuto (g : GpuHandle) : Query Bool
  | gpuAmdgpuGetPowerProfile (g : GpuHandle) : Query CStr
  | gpuAmdgpuGetBusyPercent (g : GpuHandle) : Query Int
  | gpuAmdgpuGetDpmState (g : GpuHandle) : Query CStr
  | gpuNvidiaGetUtilization (g : GpuHandle) : Query Int
  | gpuNvidiaGetPowerLimit (g : GpuHandle) : Query Int
  | gpuI915GetRc6 (g : GpuHandle) : Query Bool
  | gpuI915GetRpsMin (g : GpuHandle) : Query Int
  | gpuI915GetRpsMax (g : GpuHandle) : Query Int
  | gpuI915GetRpsCur (g : GpuHandle) : Query Int
  | gpuI915GetRpsBoost (g : GpuHandle) : Query Int
  | thermalOpen (zone : CStr) : Query ThermalHandle
  | thermalGetType (tz : ThermalHandle) : Query CStr
  | thermalGetTemp (tz : ThermalHandle) : Query Int
  | thermalGetPolicy (tz : ThermalHandle) : Query CStr
  | thermalListPolicies (tz : ThermalHandle) : Query CStr
  | thermalGetMode (tz : ThermalHandle) : Query Bool
  | thermalGetTripCount (tz : ThermalHandle) : Query Int
  | thermalGetTrip (tz : ThermalHandle) (index : Int) : Query Trip
  | thermalGetCoolingCount (tz : ThermalHandle) : Query Int
  | thermalGetCooling (tz : ThermalHandle) (index : Int) : Query Cooling
  | thermalHwmonGetTemp (hwmon sensor : Int) : Query HwmonTemp
  | thermalHwmonCount : Query Int
  | thermalHwmonGetFanPwm (hwmon fan : Int) : Query Int
  | thermalHwmonGetFanAuto (hwmon fan : Int) : Query Bool
  | powerGetSupportedStates : Query CStr
  | powerGetMemSleepMode : Query CStr
  | powerGetRuntimePm (devPath : CStr) : Query CStr
  | powerBatteryCount : Query Int
  | powerBatteryGet (index : Int) : Query Battery
  | powerBatteryGetChargeStart (index : Int) : Query Int
  | powerBatteryGetChargeEnd (index : Int) : Query Int
  | powerAcOnline : Query Bool
  | powerGetWakeupDevices : Query (List CStr)
  | usbEnumerate : Query (List CStr)
  | usbOpen (dev : CStr) : Query UsbHandle
  | usbGetVendorId (u : UsbHandle) : Query Int
  | usbGetProductId (u : UsbHandle) : Query Int
  | usbGetManufacturer (u : UsbHandle) : Query CStr
  | usbGetProduct (u : UsbHandle) : Query CStr
  | usbGetSpeed (u : UsbHandle) : Query CStr
  | usbGetPowerControl (u : UsbHandle) : Query CStr
  | usbGetAutosuspendDelay (u : UsbHandle) : Query Int
  | usbGetRuntimeStatus (u : UsbHandle) : Query CStr
  | usbGetAuthorized (u : UsbHandle) : Query Bool
  | usbGetWakeup (u : UsbHandle) : Query Bool
  | btEnumerate : Query (List CStr)
  | btOpen (adapter : CStr) : Query BtHandle
  | btGetPowered (bt : BtHandle) : Query Bool
  | btGetRfkillBlocked (bt : BtHandle) : Query Bool
  | btGetAddress (bt : BtHandle) : Query CStr
  | wirelessEnumerate : Query (List CStr)
  | wirelessOpen (phy : CStr) : Query WirelessHandle
  | wirelessGetRfkillBlocked (wl : WirelessHandle) : Query Bool
  | wirelessGetRegdomain (wl : WirelessHandle) : Query CStr
  | wirelessGetTxpower (wl : WirelessHandle) : Query Int
  | wirelessGetPowerSave (wl : WirelessHandle) : Query Bool
  | fwDmiGet (field : CStr) : Query CStr
  | fwEfiEnumerate : Query (List EfiVar)
  | fwEfiGet (name guid : CStr) : Query (List Char)
  | fwAcpiListTables : Query (List CStr)
  | fwAcpiGetTable (name : CStr) : Query (List Char)
  | fwBiosSettingCount : Query Int
  | fwBiosGetSetting (index : Int) : Query BiosSetting

/-- The state-changing calls: every setter of the library. -/
inductive Update where
  | kvSet (key value : CStr)
  | cpuSetGovernor (cpu : CpuHandle) (governor : CStr)
  | cpuSetFreqMin (cpu : CpuHandle) (hz : Int)
  | cpuSetFreqMax (cpu : CpuHandle) (hz : Int)
  | cpuSetOnline (cpu : CpuHandle) (on : Bool)
  | cpuSetSmtActive (on : Bool)
  | cpuSetCstateDisable (cpu : CpuHandle) (state : Int) (disable : Bool)
  | memSetNrHugepages (pages : Int)
  | memSetNrHugepagesSize (sizeKb pages : Int)
  | memSetThp (mode : ThpMode)
  | memSetSwappiness (value : Int)
  | memSetOvercommit (value : Int)
  | memSetVfsCachePressure (value : Int)
  | storageSetScheduler (st : StorageHandle) (scheduler : CStr)
  | storageSetQueueDepth (st : StorageHandle) (depth : Int)
  | storageSetReadAhead (st : StorageHandle) (kb : Int)
  | storageSetCacheType (st : StorageHandle) (type : CacheType)
  | storageSetPowerControl (st : StorageHandle) (mode : CStr)
  | netSetRingRx (net : NetHandle) (size : Int)
  | netSetRingTx (net : NetHandle) (size : Int)
  | netSetOffload (net : NetHandle) (flag : Offload) (on : Bool)
  | netSetMtu (net : NetHandle) (mtu : Int)
  | netSetIrqAffinity (net : NetHandle) (mask : CStr)
  | pcieSetPowerControl (p : PcieHandle) (mode : CStr)
  | pcieSetAspmPolicy (policy : CStr)
  | pcieSetD3coldAllowed (p : PcieHandle) (allow : Bool)
  | gpuSetFanAuto (g : GpuHandle) (auto : Bool)
  | gpuSetFanPwm (g : GpuHandle) (pwm : Int)
  | gpuAmdgpuSetPowerProfile (g : GpuHandle) (profile : CStr)
  | gpuNvidiaSetPowerLimit (g : GpuHandle) (mw : Int)
  | gpuI915SetRc6 (g : GpuHandle) (on : Bool)
  | gpuI915SetRpsMin (g : GpuHandle) (mhz : Int)
  | gpuI915SetRpsMax (g : GpuHandle) (mhz : Int)
  | gpuI915SetRpsBoost (g : GpuHandle) (mhz : Int)
  | thermalSetPolicy (tz : ThermalHandle) (policy : CStr)
  | thermalSetMode (tz : ThermalHandle) (enabled : Bool)
  | thermalSetCoolingState (tz : ThermalHandle) (index state : Int)
  | thermalHwmonSetFanPwm (hwmon fan pwm : Int)
  | thermalHwmonSetFanAuto (hwmon fan : Int) (auto : Bool)
  | powerSetMemSleepMode (mode : CStr)
  | powerSetRuntimePm (devPath mode : CStr)
  | powerBatterySetChargeStart (index percent : Int)
  | powerBatterySetChargeEnd (index percent : Int)
  | powerSuspend (state : SleepState)
  | powerSetWakeup (device : CStr) (enabled : Bool)
  | usbSetPowerControl (u : UsbHandle) (mode : CStr)
  | usbSetAutosuspendDelay (u : UsbHandle) (ms : Int)
  | usbSetAuthorized (u : UsbHandle) (on : Bool)
  | usbSetWakeup (u : UsbHandle) (on : Bool)
  | usbReset (u : UsbHandle)
  | btSetPowered (bt : BtHandle) (on : Bool)
  | btSetRfkillBlocked (bt : BtHandle) (blocked : Bool)
  | wirelessSetRfkillBlocked (wl : WirelessHandle) (blocked : Bool)
  | wirelessSetRegdomain (wl : WirelessHandle) (country : CStr)
  | wirelessSetTxpower (wl : WirelessHandle) (mBm : Int)
  | wirelessSetPowerSave (wl : WirelessHandle) (on : Bool)
  | fwEfiSet (name guid : CStr) (attributes : Nat) (data : List Char)
  | fwEfiDelete (name guid : CStr)
  | fwBiosSetSetting (name value : CStr) (password : Option CStr)
  deriving Repr, DecidableEq

/--
The library over a system state.  On failure the `Err` is what the caller's
error record holds when the call returns.
-/
structure Library (σ τ : Type) where
  query : {β : Type} → Query β → σ → τ → Except Err β × τ
  update : Update → σ → τ → Except Err Unit × σ × τ

/-- The mode of an `access` probe: `F_OK`, `R_OK` or `W_OK`. -/
inductive Access where
  | present | read | write
  deriving Repr, DecidableEq

/--
The system services the command line uses besides the library.  Failing calls
carry the `strerror` text they are reported with.
-/
structure Host (σ : Type) where
  /-- `opendir` and `readdir`: the entry names in directory order. -/
  listDir : σ → CStr → Option (List CStr)
  /-- `access(path, mode) == 0`. -/
  access : σ → CStr → Access → Bool
  /-- The content of a file that could be opened. -/
  readFile : σ → CStr → Except CStr (List Char)
  /-- `mkdir(path, 0755)`, true when it succeeded or the directory exists. -/
  mkdir : σ → CStr → Bool × σ
  /-- `fopen(path, "w")`, which creates or truncates the file. -/
  openWrite : σ → CStr → Except CStr Unit × σ
  /-- The text written through that stream, flushed by `fclose`. -/
  writeOut : σ → CStr → CStr → σ
  unlink : σ → CStr → Except CStr Unit × σ

/-- What the process is started with, and the parts of libc left to it. -/
structure Env where
  uid : Nat
  euid : Nat
  home : Option CStr
  /-- The line `fgets` returns at the confirmation prompt, if any. -/
  stdinLine : Option CStr
  /-- `sysconf(_SC_NPROCESSORS_CONF)`. -/
  nprocessorsConf : Int
  /-- `time(NULL)`. -/
  now : Int
  /-- `isatty(STDOUT_FILENO)`. -/
  tty : Bool
  /--
  `strtod`: the unread rest and, for a scale, the product of the parsed double
  with it cast to a 64-bit integer; `none` when no number was read.
  -/
  strtod : CStr → Option ((Nat → Int) × CStr)
  /-- `%.<digits>f` of a quotient of two integers computed in doubles. -/
  printF : Nat → Int → Int → CStr
  /-- `%g` of a quotient of two integers computed in doubles. -/
  printG : Int → Int → CStr

end Zenctl
