import Zenctl.LibFirmware

namespace Zenctl

open CString

/-!
# `core.c` and the library as a whole

Every call of the interface with the program behind it, and the library these
programs make up over an operating system.
-/

variable {σ : Type}

/-! ## `core.c` -/

/-- `zenctl_ctx_new` does not look at its `err` argument. -/
def zenctlCtxNew : GetM σ Unit := do
  if ← allocate then pure () else fail

/-- A key has a domain and a dot. -/
def validKvKey (key : CStr) : Bool :=
  key ≠ [] && key.length < 4096 && '.' ∈ key

def invalidKey : CStr :=
  "invalid key (NULL, empty, too long, or missing domain prefix)"

/-- No key is implemented. -/
def zenctlGet (key : CStr) : GetM σ Unit :=
  if validKvKey key then
    raise Err.enotsup "key not implemented" ("zenctl_get(".toList ++ key ++ ")".toList)
  else raise Err.einval invalidKey "zenctl_get"

@[inherit_doc zenctlGet]
def zenctlSet (key _value : CStr) : SetM σ Unit :=
  getting
    (if validKvKey key then
      raise Err.enotsup "key not implemented" ("zenctl_set(".toList ++ key ++ ")".toList)
    else raise Err.einval invalidKey "zenctl_set")

/-- The context of the record is left as it was. -/
def zenctlKeys : GetM σ Unit := do
  let err ← getErr
  raise Err.enotsup "key iteration not implemented" err.context

/-! ## The calls -/

/-- The program behind a reading call. -/
def Query.program : {β : Type} → Query β → GetM σ β
  | _, .ctxNew => zenctlCtxNew
  | _, .kvGet key => zenctlGet key
  | _, .kvKeys => zenctlKeys
  | _, .cpuOpen index => zenctlCpuOpen index
  | _, .cpuGetGovernor cpu => zenctlCpuGetGovernor cpu
  | _, .cpuGetFreqMin cpu => zenctlCpuGetFreqMin cpu
  | _, .cpuGetFreqMax cpu => zenctlCpuGetFreqMax cpu
  | _, .cpuGetOnline cpu => zenctlCpuGetOnline cpu
  | _, .cpuGetSmtActive => zenctlCpuGetSmtActive
  | _, .cpuGetCstateDisable cpu state => zenctlCpuGetCstateDisable cpu state
  | _, .memGetNrHugepages => zenctlMemGetNrHugepages
  | _, .memGetNrHugepagesSize sizeKb => zenctlMemGetNrHugepagesSize sizeKb
  | _, .memGetHugepageSize => zenctlMemGetHugepageSize
  | _, .memGetThp => zenctlMemGetThp
  | _, .memNumaNodeCount => zenctlMemNumaNodeCount
  | _, .memNumaGetNode node => zenctlMemNumaGetNode node
  | _, .memGetSwappiness => zenctlMemGetSwappiness
  | _, .memGetOvercommit => zenctlMemGetOvercommit
  | _, .memGetVfsCachePressure => zenctlMemGetVfsCachePressure
  | _, .storageOpen dev => zenctlStorageOpen dev
  | _, .storageGetScheduler st => zenctlStorageGetScheduler st
  | _, .storageListSchedulers st => zenctlStorageListSchedulers st
  | _, .storageGetQueueDepth st => zenctlStorageGetQueueDepth st
  | _, .storageGetReadAhead st => zenctlStorageGetReadAhead st
  | _, .storageGetCacheType st => zenctlStorageGetCacheType st
  | _, .storageGetDiscardMax st => zenctlStorageGetDiscardMax st
  | _, .storageGetRotational st => zenctlStorageGetRotational st
  | _, .storageGetIoStats st => zenctlStorageGetIoStats st
  | _, .storageGetPowerControl st => zenctlStorageGetPowerControl st
  | _, .netOpen iface => zenctlNetOpen iface
  | _, .netGetRingRx net => zenctlNetGetRingRx net
  | _, .netGetRingTx net => zenctlNetGetRingTx net
  | _, .netGetRingRxMax net => zenctlNetGetRingRxMax net
  | _, .netGetRingTxMax net => zenctlNetGetRingTxMax net
  | _, .netGetOffload net flag => zenctlNetGetOffload net flag
  | _, .netGetSpeed net => zenctlNetGetSpeed net
  | _, .netGetDuplex net => zenctlNetGetDuplex net
  | _, .netGetLink net => zenctlNetGetLink net
  | _, .netGetMtu net => zenctlNetGetMtu net
  | _, .netGetIrq net => zenctlNetGetIrq net
  | _, .netGetIrqAffinity net => zenctlNetGetIrqAffinity net
  | _, .pcieOpen addr => zenctlPcieOpen addr
  | _, .pcieGetLinkSpeed p => zenctlPcieGetLinkSpeed p
  | _, .pcieGetLinkWidth p => zenctlPcieGetLinkWidth p
  | _, .pcieGetMaxLinkSpeed p => zenctlPcieGetMaxLinkSpeed p
  | _, .pcieGetMaxLinkWidth p => zenctlPcieGetMaxLinkWidth p
  | _, .pcieGetPowerControl p => zenctlPcieGetPowerControl p
  | _, .pcieGetD3coldAllowed p => zenctlPcieGetD3coldAllowed p
  | _, .pcieGetIommuGroup p => zenctlPcieGetIommuGroup p
  | _, .pcieGetNumaNode p => zenctlPcieGetNumaNode p
  | _, .pcieGetVendorId p => zenctlPcieGetVendorId p
  | _, .pcieGetDeviceId p => zenctlPcieGetDeviceId p
  | _, .pcieGetClass p => zenctlPcieGetClass p
  | _, .pcieGetAspmPolicy => zenctlPcieGetAspmPolicy
  | _, .gpuOpen card => zenctlGpuOpen card
  | _, .gpuOpenPath drmPath => zenctlGpuOpenPath drmPath
  | _, .gpuGetDriver g => zenctlGpuGetDriver g
  | _, .gpuGetVendor g => zenctlGpuGetVendor g
  | _, .gpuGetTemp g => zenctlGpuGetTemp g
  | _, .gpuGetPower g => zenctlGpuGetPower g
  | _, .gpuGetFreq g => zenctlGpuGetFreq g
  | _, .gpuGetFanPwm g => zenctlGpuGetFanPwm g
  | _, .gpuGetFanAuto g => zenctlGpuGetFanAuto g
  | _, .gpuAmdgpuGetPowerProfile g => zenctlGpuAmdgpuGetPowerProfile g
  | _, .gpuAmdgpuGetBusyPercent g => zenctlGpuAmdgpuGetBusyPercent g
  | _, .gpuAmdgpuGetDpmState g => zenctlGpuAmdgpuGetDpmState g
  | _, .gpuNvidiaGetUtilization g => zenctlGpuNvidiaGetUtilization g
  | _, .gpuNvidiaGetPowerLimit g => zenctlGpuNvidiaGetPowerLimit g
  | _, .gpuI915GetRc6 g => zenctlGpuI915GetRc6 g
  | _, .gpuI915GetRpsMin g => zenctlGpuI915GetRpsMin g
  | _, .gpuI915GetRpsMax g => zenctlGpuI915GetRpsMax g
  | _, .gpuI915GetRpsCur g => zenctlGpuI915GetRpsCur g
  | _, .gpuI915GetRpsBoost g => zenctlGpuI915GetRpsBoost g
  | _, .thermalOpen zone => zenctlThermalOpen zone
  | _, .thermalGetType tz => zenctlThermalGetType tz
  | _, .thermalGetTemp tz => zenctlThermalGetTemp tz
  | _, .thermalGetPolicy tz => zenctlThermalGetPolicy tz
  | _, .thermalListPolicies tz => zenctlThermalListPolicies tz
  | _, .thermalGetMode tz => zenctlThermalGetMode tz
  | _, .thermalGetTripCount tz => zenctlThermalGetTripCount tz
  | _, .thermalGetTrip tz index => zenctlThermalGetTrip tz index
  | _, .thermalGetCoolingCount tz => zenctlThermalGetCoolingCount tz
  | _, .thermalGetCooling tz index => zenctlThermalGetCooling tz index
  | _, .thermalHwmonGetTemp hwmon sensor => zenctlThermalHwmonGetTemp hwmon sensor
  | _, .thermalHwmonCount => zenctlThermalHwmonCount
  | _, .thermalHwmonGetFanPwm hwmon fan => zenctlThermalHwmonGetFanPwm hwmon fan
  | _, .thermalHwmonGetFanAuto hwmon fan => zenctlThermalHwmonGetFanAuto hwmon fan
  | _, .powerGetSupportedStates => zenctlPowerGetSupportedStates
  | _, .powerGetMemSleepMode => zenctlPowerGetMemSleepMode
  | _, .powerGetRuntimePm devPath => zenctlPowerGetRuntimePm devPath
  | _, .powerBatteryCount => zenctlPowerBatteryCount
  | _, .powerBatteryGet index => zenctlPowerBatteryGet index
  | _, .powerBatteryGetChargeStart index => zenctlPowerBatteryGetChargeStart index
  | _, .powerBatteryGetChargeEnd index => zenctlPowerBatteryGetChargeEnd index
  | _, .powerAcOnline => zenctlPowerAcOnline
  | _, .powerGetWakeupDevices => zenctlPowerGetWakeupDevices
  | _, .usbEnumerate => zenctlUsbEnumerate
  | _, .usbOpen dev => zenctlUsbOpen dev
  | _, .usbGetVendorId u => zenctlUsbGetVendorId u
  | _, .usbGetProductId u => zenctlUsbGetProductId u
  | _, .usbGetManufacturer u => zenctlUsbGetManufacturer u
  | _, .usbGetProduct u => zenctlUsbGetProduct u
  | _, .usbGetSpeed u => zenctlUsbGetSpeed u
  | _, .usbGetPowerControl u => zenctlUsbGetPowerControl u
  | _, .usbGetAutosuspendDelay u => zenctlUsbGetAutosuspendDelay u
  | _, .usbGetRuntimeStatus u => zenctlUsbGetRuntimeStatus u
  | _, .usbGetAuthorized u => zenctlUsbGetAuthorized u
  | _, .usbGetWakeup u => zenctlUsbGetWakeup u
  | _, .btEnumerate => zenctlBtEnumerate
  | _, .btOpen adapter => zenctlBtOpen adapter
  | _, .btGetPowered bt => zenctlBtGetPowered bt
  | _, .btGetRfkillBlocked bt => zenctlBtGetRfkillBlocked bt
  | _, .btGetAddress bt => zenctlBtGetAddress bt
  | _, .wirelessEnumerate => zenctlWirelessEnumerate
  | _, .wirelessOpen phy => zenctlWirelessOpen phy
  | _, .wirelessGetRfkillBlocked wl => zenctlWirelessGetRfkillBlocked wl
  | _, .wirelessGetRegdomain wl => zenctlWirelessGetRegdomain wl
  | _, .wirelessGetTxpower wl => zenctlWirelessGetTxpower wl
  | _, .wirelessGetPowerSave wl => zenctlWirelessGetPowerSave wl
  | _, .fwDmiGet field => zenctlFwDmiGet field
  | _, .fwEfiEnumerate => zenctlFwEfiEnumerate
  | _, .fwEfiGet name guid => zenctlFwEfiGet name guid
  | _, .fwAcpiListTables => zenctlFwAcpiListTables
  | _, .fwAcpiGetTable name => zenctlFwAcpiGetTable name
  | _, .fwBiosSettingCount => zenctlFwBiosSettingCount
  | _, .fwBiosGetSetting index => zenctlFwBiosGetSetting index

/-- The program behind a setter. -/
def Update.program : Update → SetM σ Unit
  | .kvSet key value => zenctlSet key value
  | .cpuSetGovernor cpu governor => zenctlCpuSetGovernor cpu governor
  | .cpuSetFreqMin cpu hz => zenctlCpuSetFreqMin cpu hz
  | .cpuSetFreqMax cpu hz => zenctlCpuSetFreqMax cpu hz
  | .cpuSetOnline cpu on => zenctlCpuSetOnline cpu on
  | .cpuSetSmtActive on => zenctlCpuSetSmtActive on
  | .cpuSetCstateDisable cpu state disable => zenctlCpuSetCstateDisable cpu state disable
  | .memSetNrHugepages pages => zenctlMemSetNrHugepages pages
  | .memSetNrHugepagesSize sizeKb pages => zenctlMemSetNrHugepagesSize sizeKb pages
  | .memSetThp mode => zenctlMemSetThp mode
  | .memSetSwappiness value => zenctlMemSetSwappiness value
  | .memSetOvercommit value => zenctlMemSetOvercommit value
  | .memSetVfsCachePressure value => zenctlMemSetVfsCachePressure value
  | .storageSetScheduler st scheduler => zenctlStorageSetScheduler st scheduler
  | .storageSetQueueDepth st depth => zenctlStorageSetQueueDepth st depth
  | .storageSetReadAhead st kb => zenctlStorageSetReadAhead st kb
  | .storageSetCacheType st type => zenctlStorageSetCacheType st type
  | .storageSetPowerControl st mode => zenctlStorageSetPowerControl st mode
  | .netSetRingRx net size => zenctlNetSetRingRx net size
  | .netSetRingTx net size => zenctlNetSetRingTx net size
  | .netSetOffload net flag on => zenctlNetSetOffload net flag on
  | .netSetMtu net mtu => zenctlNetSetMtu net mtu
  | .netSetIrqAffinity net mask => zenctlNetSetIrqAffinity net mask
  | .pcieSetPowerControl p mode => zenctlPcieSetPowerControl p mode
  | .pcieSetAspmPolicy policy => zenctlPcieSetAspmPolicy policy
  | .pcieSetD3coldAllowed p allow => zenctlPcieSetD3coldAllowed p allow
  | .gpuSetFanAuto g auto => zenctlGpuSetFanAuto g auto
  | .gpuSetFanPwm g pwm => zenctlGpuSetFanPwm g pwm
  | .gpuAmdgpuSetPowerProfile g profile => zenctlGpuAmdgpuSetPowerProfile g profile
  | .gpuNvidiaSetPowerLimit g mw => zenctlGpuNvidiaSetPowerLimit g mw
  | .gpuI915SetRc6 g on => zenctlGpuI915SetRc6 g on
  | .gpuI915SetRpsMin g mhz => zenctlGpuI915SetRpsMin g mhz
  | .gpuI915SetRpsMax g mhz => zenctlGpuI915SetRpsMax g mhz
  | .gpuI915SetRpsBoost g mhz => zenctlGpuI915SetRpsBoost g mhz
  | .thermalSetPolicy tz policy => zenctlThermalSetPolicy tz policy
  | .thermalSetMode tz enabled => zenctlThermalSetMode tz enabled
  | .thermalSetCoolingState tz index state => zenctlThermalSetCoolingState tz index state
  | .thermalHwmonSetFanPwm hwmon fan pwm => zenctlThermalHwmonSetFanPwm hwmon fan pwm
  | .thermalHwmonSetFanAuto hwmon fan auto => zenctlThermalHwmonSetFanAuto hwmon fan auto
  | .powerSetMemSleepMode mode => zenctlPowerSetMemSleepMode mode
  | .powerSetRuntimePm devPath mode => zenctlPowerSetRuntimePm devPath mode
  | .powerBatterySetChargeStart index percent => zenctlPowerBatterySetChargeStart index percent
  | .powerBatterySetChargeEnd index percent => zenctlPowerBatterySetChargeEnd index percent
  | .powerSuspend state => zenctlPowerSuspend state
  | .powerSetWakeup device enabled => zenctlPowerSetWakeup device enabled
  | .usbSetPowerControl u mode => zenctlUsbSetPowerControl u mode
  | .usbSetAutosuspendDelay u ms => zenctlUsbSetAutosuspendDelay u ms
  | .usbSetAuthorized u on => zenctlUsbSetAuthorized u on
  | .usbSetWakeup u on => zenctlUsbSetWakeup u on
  | .usbReset u => zenctlUsbReset u
  | .btSetPowered bt on => zenctlBtSetPowered bt on
  | .btSetRfkillBlocked bt blocked => zenctlBtSetRfkillBlocked bt blocked
  | .wirelessSetRfkillBlocked wl blocked => zenctlWirelessSetRfkillBlocked wl blocked
  | .wirelessSetRegdomain wl country => zenctlWirelessSetRegdomain wl country
  | .wirelessSetTxpower wl mBm => zenctlWirelessSetTxpower wl mBm
  | .wirelessSetPowerSave wl on => zenctlWirelessSetPowerSave wl on
  | .fwEfiSet name guid attributes data => zenctlFwEfiSet name guid attributes data
  | .fwEfiDelete name guid => zenctlFwEfiDelete name guid
  | .fwBiosSetSetting name value password => zenctlFwBiosSetSetting name value password

/-- What the caller sees; a call that never returns has no answer to see. -/
def Outcome.answer {β : Type} (outcome : Outcome β) (err : Err) : Except Err β :=
  match outcome with
  | .value result => .ok result
  | .failed | .blocked => .error err

/-- The library over an operating system; callers clear their error record first. -/
def libzenctl (os : Os σ) : Library σ Proc where
  query call sys proc :=
    let result := call.program os sys { proc with err := Err.zero }
    (result.1.answer result.2.err, result.2)
  update call sys proc :=
    let result := call.program os sys { proc with err := Err.zero }
    (result.1.answer result.2.2.err, result.2.1, result.2.2)

end Zenctl
