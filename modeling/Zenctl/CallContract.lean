import Zenctl.SilentFailures

namespace Zenctl

open CString Netlink

/-!
# The error contract of the interface

A caller clears its error record, makes a call and, when the call fails, looks
into the record for the reason.  Every call keeps its side of this outside the
circumstances listed here.
-/

variable {σ β : Type}

/-! ## Reading calls -/

/-- The circumstances in which a reading call fails and does not say why. -/
def Query.Silent : Query β → Os σ → σ → Proc → Prop
  | .ctxNew => fun _ _ proc => proc.allocations.head? = some false
  | .storageGetIoStats st => EmptyStat st
  | .powerBatteryCount => NoSupply "Battery"
  | .powerBatteryGet index | .powerBatteryGetChargeStart index | .powerBatteryGetChargeEnd index =>
      fun os sys proc => ¬index < 0 ∧ NoSupply "Battery" os sys proc
  | .powerAcOnline => NoSupply "Mains"
  | .wirelessGetRegdomain _ => FamilySilent
  | .wirelessGetTxpower wl => fun os sys proc => ¬wl.index < 0 ∧ FamilySilent os sys proc
  | _ => never

theorem wirelessRfkill_reports (wl : WirelessHandle) :
    (wirelessRfkill wl : GetM σ Int).Reports := by
  refine .bind (quietly_quiet _).reports fun found => ?_
  cases found with
  | some index => exact .pure index
  | none => exact rfkillFind_reports _ _

theorem amdgpuGetBusyPercent_reports (g : GpuHandle) :
    (zenctlGpuAmdgpuGetBusyPercent g : GetM σ Int).Reports :=
  .bind (gpuDriverCheck_reports g _ _) fun _ => .bind (readFileI64_reports _) fun _ =>
    .ite (.raise (by decide) (by decide) _ _) (.pure _)

theorem Query.silentIff (call : Query β) :
    (call.program : GetM σ β).SilentIff call.Silent := by
  cases call with
  | ctxNew => exact ctxNew_silentIff
  | kvGet key =>
      exact GetM.Reports.silentIff
        (.ite (.raise (by decide) (by decide) _ _) (.raise (by decide) (by decide) _ _))
  | kvKeys =>
      exact GetM.Reports.silentIff (.bind getErr_quiet.reports fun _ =>
        .raise (by decide) (by decide) _ _)
  | cpuOpen index => exact (cpuOpen_reports index).silentIff
  | cpuGetGovernor cpu => exact (cpuGetGovernor_reports cpu).silentIff
  | cpuGetFreqMin cpu => exact (readInt_reports _ _).silentIff
  | cpuGetFreqMax cpu => exact (readInt_reports _ _).silentIff
  | cpuGetOnline cpu => exact (readSwitch_reports _).silentIff
  | cpuGetSmtActive => exact (readSwitch_reports _).silentIff
  | cpuGetCstateDisable cpu state =>
      exact GetM.Reports.silentIff
        (.ite (.raise (by decide) (by decide) _ _) (readSwitch_reports _))
  | memGetNrHugepages => exact (readFileI64_reports _).silentIff
  | memGetNrHugepagesSize sizeKb =>
      exact GetM.Reports.silentIff (.bind (hugepagesPath_reports _ _) fun _ =>
        readFileI64_reports _)
  | memGetHugepageSize => exact memGetHugepageSize_reports.silentIff
  | memGetThp => exact memGetThp_reports.silentIff
  | memNumaNodeCount => exact memNumaNodeCount_reports.silentIff
  | memNumaGetNode node => exact (memNumaGetNode_reports node).silentIff
  | memGetSwappiness => exact (readInt_reports _ _).silentIff
  | memGetOvercommit => exact (readInt_reports _ _).silentIff
  | memGetVfsCachePressure => exact (readInt_reports _ _).silentIff
  | storageOpen dev => exact (storageOpen_reports dev).silentIff
  | storageGetScheduler st => exact (storageGetScheduler_reports st).silentIff
  | storageListSchedulers st => exact (readCopy_reports _ _).silentIff
  | storageGetQueueDepth st => exact (readRanged_reports _ _ _ _).silentIff
  | storageGetReadAhead st => exact (readFileI64_reports _).silentIff
  | storageGetCacheType st => exact (storageGetCacheType_reports st).silentIff
  | storageGetDiscardMax st => exact (readFileI64_reports _).silentIff
  | storageGetRotational st => exact (readInt_reports _ _).silentIff
  | storageGetIoStats st => exact getIoStats_silentIff st
  | storageGetPowerControl st => exact (readCopy_reports _ _).silentIff
  | netOpen iface => exact (netOpen_reports iface).silentIff
  | netGetRingRx net => exact (getRing_reports net _).silentIff
  | netGetRingTx net => exact (getRing_reports net _).silentIff
  | netGetRingRxMax net => exact (getRing_reports net _).silentIff
  | netGetRingTxMax net => exact (getRing_reports net _).silentIff
  | netGetOffload net flag =>
      exact GetM.Reports.silentIff (.bind (netEthtoolGet_reports net _) fun _ => .pure _)
  | netGetSpeed net => exact (readRanged_reports _ _ _ _).silentIff
  | netGetDuplex net => exact (readCopy_reports _ _).silentIff
  | netGetLink net => exact (readInt_reports _ _).silentIff
  | netGetMtu net => exact (readRanged_reports _ _ _ _).silentIff
  | netGetIrq net => exact (readRanged_reports _ _ _ _).silentIff
  | netGetIrqAffinity net =>
      exact GetM.Reports.silentIff (.bind (netIrqPath_reports net _) fun _ => readCopy_reports _ _)
  | pcieOpen addr => exact (pcieOpen_reports addr).silentIff
  | pcieGetLinkSpeed p => exact (readCopy_reports _ _).silentIff
  | pcieGetLinkWidth p => exact (readRanged_reports _ _ _ _).silentIff
  | pcieGetMaxLinkSpeed p => exact (readCopy_reports _ _).silentIff
  | pcieGetMaxLinkWidth p => exact (readRanged_reports _ _ _ _).silentIff
  | pcieGetPowerControl p => exact (readCopy_reports _ _).silentIff
  | pcieGetD3coldAllowed p => exact (readInt_reports _ _).silentIff
  | pcieGetIommuGroup p => exact (pcieGetIommuGroup_reports p).silentIff
  | pcieGetNumaNode p => exact (readRanged_reports _ _ _ _).silentIff
  | pcieGetVendorId p => exact (readPciId_reports _).silentIff
  | pcieGetDeviceId p => exact (readPciId_reports _).silentIff
  | pcieGetClass p => exact (readPciId_reports _).silentIff
  | pcieGetAspmPolicy => exact (readCopy_reports _ _).silentIff
  | gpuOpen card =>
      exact GetM.Reports.silentIff
        (.ite (.raise (by decide) (by decide) _ _) (gpuOpenPath_reports _))
  | gpuOpenPath drmPath => exact (gpuOpenPath_reports drmPath).silentIff
  | gpuGetDriver g => exact GetM.Reports.silentIff (.bind (allocateOr_reports _ _) fun _ => .pure _)
  | gpuGetVendor g => exact GetM.Reports.silentIff (.bind (allocateOr_reports _ _) fun _ => .pure _)
  | gpuGetTemp g => exact (hwmonOrNvml_reports (fun _ => readFileI64_reports _) _ _ _).silentIff
  | gpuGetPower g => exact (hwmonOrNvml_reports readHwmonPower_reports _ _ _).silentIff
  | gpuGetFreq g => exact (hwmonOrNvml_reports (fun _ => readInt_reports _ _) _ _ _).silentIff
  | gpuGetFanPwm g => exact (hwmonOrNvml_reports (fun _ => readInt_reports _ _) _ _ _).silentIff
  | gpuGetFanAuto g =>
      exact GetM.Reports.silentIff (.bind (gpuHwmon_reports g) fun _ => readInt_reports _ _)
  | gpuAmdgpuGetPowerProfile g => exact (amdgpuGetPowerProfile_reports g).silentIff
  | gpuAmdgpuGetBusyPercent g => exact (amdgpuGetBusyPercent_reports g).silentIff
  | gpuAmdgpuGetDpmState g =>
      exact GetM.Reports.silentIff (.bind (gpuDriverCheck_reports g _ _) fun _ =>
        readStringAlloc_reports _)
  | gpuNvidiaGetUtilization g => exact (nvidiaGet_reports g _ _).silentIff
  | gpuNvidiaGetPowerLimit g => exact (nvidiaGet_reports g _ _).silentIff
  | gpuI915GetRc6 g =>
      exact GetM.Reports.silentIff (.bind (i915ReadAttr_reports g _ _) fun _ => .pure _)
  | gpuI915GetRpsMin g => exact (i915GetFreq_reports g _ _).silentIff
  | gpuI915GetRpsMax g => exact (i915GetFreq_reports g _ _).silentIff
  | gpuI915GetRpsCur g => exact (i915GetFreq_reports g _ _).silentIff
  | gpuI915GetRpsBoost g => exact (i915GetFreq_reports g _ _).silentIff
  | thermalOpen zone => exact (thermalOpen_reports zone).silentIff
  | thermalGetType tz => exact (readStringAlloc_reports _).silentIff
  | thermalGetTemp tz => exact (readFileI64_reports _).silentIff
  | thermalGetPolicy tz => exact (readStringAlloc_reports _).silentIff
  | thermalListPolicies tz => exact (readStringAlloc_reports _).silentIff
  | thermalGetMode tz =>
      exact GetM.Reports.silentIff (.bind (readStringAlloc_reports _) fun _ => .pure _)
  | thermalGetTripCount tz => exact (countTrips_quiet tz _ _).reports.silentIff
  | thermalGetTrip tz index => exact (thermalGetTrip_reports tz index).silentIff
  | thermalGetCoolingCount tz => exact (countDirEntries_reports _ _).silentIff
  | thermalGetCooling tz index => exact (thermalGetCooling_reports tz index).silentIff
  | thermalHwmonGetTemp hwmon sensor => exact (hwmonGetTemp_reports hwmon sensor).silentIff
  | thermalHwmonCount => exact (countDirEntries_reports _ _).silentIff
  | thermalHwmonGetFanPwm hwmon fan =>
      exact GetM.Reports.silentIff (.ite (.raise (by decide) (by decide) _ _) (readInt_reports _ _))
  | thermalHwmonGetFanAuto hwmon fan =>
      exact GetM.Reports.silentIff (.ite (.raise (by decide) (by decide) _ _) (readInt_reports _ _))
  | powerGetSupportedStates => exact (readStringAlloc_reports _).silentIff
  | powerGetMemSleepMode => exact powerGetMemSleepMode_reports.silentIff
  | powerGetRuntimePm devPath => exact (readStringAlloc_reports _).silentIff
  | powerBatteryCount => exact batteryCount_silentIff
  | powerBatteryGet index => exact batteryGet_silentIff index
  | powerBatteryGetChargeStart index => exact getChargeThreshold_silentIff index _ _ _
  | powerBatteryGetChargeEnd index => exact getChargeThreshold_silentIff index _ _ _
  | powerAcOnline => exact acOnline_silentIff
  | powerGetWakeupDevices =>
      exact GetM.Reports.silentIff (.bind (sysCallOr_reports _ _ _) fun _ =>
        collectWakeups_reports _ _ _)
  | usbEnumerate => exact (enumerateSorted_reports _ _ _).silentIff
  | usbOpen dev => exact (usbOpen_reports dev).silentIff
  | usbGetVendorId u => exact (readAttrHex_reports u _).silentIff
  | usbGetProductId u => exact (readAttrHex_reports u _).silentIff
  | usbGetManufacturer u => exact (readAttrStr_reports u _).silentIff
  | usbGetProduct u => exact (readAttrStr_reports u _).silentIff
  | usbGetSpeed u => exact (readAttrStr_reports u _).silentIff
  | usbGetPowerControl u => exact (readAttrStr_reports u _).silentIff
  | usbGetAutosuspendDelay u => exact (readAttrText_reports u _ _ _ _).silentIff
  | usbGetRuntimeStatus u => exact (readAttrStr_reports u _).silentIff
  | usbGetAuthorized u => exact (readAttrText_reports u _ _ _ _).silentIff
  | usbGetWakeup u => exact (readAttrText_reports u _ _ _ _).silentIff
  | btEnumerate => exact (enumerateSorted_reports _ _ _).silentIff
  | btOpen adapter =>
      exact GetM.Reports.silentIff (.bind (openNumbered_reports _ _ _ _ _) fun _ => .pure _)
  | btGetPowered bt => exact (btGetPowered_reports bt).silentIff
  | btGetRfkillBlocked bt => exact (btGetRfkillBlocked_reports bt).silentIff
  | btGetAddress bt => exact (btGetAddress_reports bt).silentIff
  | wirelessEnumerate => exact (enumerateSorted_reports _ _ _).silentIff
  | wirelessOpen phy =>
      exact GetM.Reports.silentIff (.bind (openNumbered_reports _ _ _ _ _) fun _ => .pure _)
  | wirelessGetRfkillBlocked wl =>
      exact GetM.Reports.silentIff (.bind (wirelessRfkill_reports wl) fun _ =>
        rfkillGetSoft_reports _)
  | wirelessGetRegdomain wl => exact getRegdomain_silentIff wl
  | wirelessGetTxpower wl => exact getTxpower_silentIff wl
  | wirelessGetPowerSave wl => exact (GetM.Reports.raise (by decide) (by decide) _ _).silentIff
  | fwDmiGet field => exact (fwDmiGet_reports field).silentIff
  | fwEfiEnumerate => exact fwEfiEnumerate_reports.silentIff
  | fwEfiGet name guid => exact (fwEfiGet_reports name guid).silentIff
  | fwAcpiListTables => exact fwAcpiListTables_reports.silentIff
  | fwAcpiGetTable name => exact (fwAcpiGetTable_reports name).silentIff
  | fwBiosSettingCount => exact fwBiosSettingCount_reports.silentIff
  | fwBiosGetSetting index => exact (fwBiosGetSetting_reports index).silentIff

/-! ## Setters -/

/-- The circumstances in which a setter fails and does not say why. -/
def Update.Silent : Update → Os σ → σ → Proc → Prop
  | .powerBatterySetChargeStart index percent | .powerBatterySetChargeEnd index percent =>
      fun os sys proc =>
        ¬(index < 0 ∨ percent < 0 ∨ 100 < percent) ∧ NoSupply "Battery" os sys proc
  | .wirelessSetRegdomain _ country => fun os sys proc =>
      ¬(country.length ≠ 2 ∨ country.all isAlpha = false) ∧ ¬country.length ≠ 2 ∧
        FamilySilent os sys proc
  | .wirelessSetTxpower wl _ => fun os sys proc => ¬wl.index < 0 ∧ FamilySilent os sys proc
  | .wirelessSetPowerSave wl _ => PowerSaveSilent wl.phy
  | _ => never

theorem Update.silentIff (call : Update) :
    (call.program : SetM σ Unit).SilentIff call.Silent := by
  cases call with
  | kvSet key value =>
      exact SetM.Reports.silentIff
        (.getting (.ite (.raise (by decide) (by decide) _ _) (.raise (by decide) (by decide) _ _)))
  | cpuSetGovernor cpu governor => exact (cpuSetGovernor_reports cpu governor).silentIff
  | cpuSetFreqMin cpu hz => exact (cpuSetFreqMin_reports cpu hz).silentIff
  | cpuSetFreqMax cpu hz => exact (cpuSetFreqMax_reports cpu hz).silentIff
  | cpuSetOnline cpu on => exact (writeFileString_reports _ _).silentIff
  | cpuSetSmtActive on => exact (writeFileString_reports _ _).silentIff
  | cpuSetCstateDisable cpu state disable =>
      exact (checkedWrite_reports (by decide) (by decide) _ _ _ _).silentIff
  | memSetNrHugepages pages =>
      exact (checkedWrite_reports (by decide) (by decide) _ _ _ _).silentIff
  | memSetNrHugepagesSize sizeKb pages =>
      exact SetM.Reports.silentIff
        (.ite (.getting (.raise (by decide) (by decide) _ _))
          (.after (hugepagesPath_reports _ _) fun _ => writeFileString_reports _ _))
  | memSetThp mode => exact (writeFileString_reports _ _).silentIff
  | memSetSwappiness value => exact (checkedWrite_reports (by decide) (by decide) _ _ _ _).silentIff
  | memSetOvercommit value => exact (checkedWrite_reports (by decide) (by decide) _ _ _ _).silentIff
  | memSetVfsCachePressure value =>
      exact (checkedWrite_reports (by decide) (by decide) _ _ _ _).silentIff
  | storageSetScheduler st scheduler => exact (storageSetScheduler_reports st scheduler).silentIff
  | storageSetQueueDepth st depth =>
      exact (checkedWrite_reports (by decide) (by decide) _ _ _ _).silentIff
  | storageSetReadAhead st kb =>
      exact (checkedWrite_reports (by decide) (by decide) _ _ _ _).silentIff
  | storageSetCacheType st type => exact (storageSetCacheType_reports st type).silentIff
  | storageSetPowerControl st mode =>
      exact SetM.Reports.silentIff
        (.ite (.getting (.raise (by decide) (by decide) _ _)) (writePowerControl_reports _ _ _))
  | netSetRingRx net size => exact (setRing_reports net size _ _).silentIff
  | netSetRingTx net size => exact (setRing_reports net size _ _).silentIff
  | netSetOffload net flag on => exact (netEthtoolSet_reports net _).silentIff
  | netSetMtu net mtu => exact (checkedWrite_reports (by decide) (by decide) _ _ _ _).silentIff
  | netSetIrqAffinity net mask => exact (netSetIrqAffinity_reports net mask).silentIff
  | pcieSetPowerControl p mode =>
      exact SetM.Reports.silentIff
        (.ite (.getting (.raise (by decide) (by decide) _ _)) (writePowerControl_reports _ _ _))
  | pcieSetAspmPolicy policy => exact (pcieSetAspmPolicy_reports policy).silentIff
  | pcieSetD3coldAllowed p allow => exact (writeFileString_reports _ _).silentIff
  | gpuSetFanAuto g auto => exact (hwmonWrite_reports g _ _).silentIff
  | gpuSetFanPwm g pwm =>
      exact SetM.Reports.silentIff
        (.ite (.getting (.raise (by decide) (by decide) _ _)) (hwmonWrite_reports g _ _))
  | gpuAmdgpuSetPowerProfile g profile => exact (amdgpuSetPowerProfile_reports g profile).silentIff
  | gpuNvidiaSetPowerLimit g mw => exact (nvidiaSetPowerLimit_reports g mw).silentIff
  | gpuI915SetRc6 g on => exact (i915SetRc6_reports g on).silentIff
  | gpuI915SetRpsMin g mhz => exact (i915SetFreq_reports g _ _ _ _).silentIff
  | gpuI915SetRpsMax g mhz => exact (i915SetFreq_reports g _ _ _ _).silentIff
  | gpuI915SetRpsBoost g mhz => exact (i915SetFreq_reports g _ _ _ _).silentIff
  | thermalSetPolicy tz policy => exact (writeFileString_reports _ _).silentIff
  | thermalSetMode tz enabled => exact (writeFileString_reports _ _).silentIff
  | thermalSetCoolingState tz index state =>
      exact (thermalSetCoolingState_reports tz index state).silentIff
  | thermalHwmonSetFanPwm hwmon fan pwm =>
      exact SetM.Reports.silentIff
        (.ite (.getting (.raise (by decide) (by decide) _ _))
          (checkedWrite_reports (by decide) (by decide) _ _ _ _))
  | thermalHwmonSetFanAuto hwmon fan auto =>
      exact (checkedWrite_reports (by decide) (by decide) _ _ _ _).silentIff
  | powerSetMemSleepMode mode => exact (writeFileString_reports _ _).silentIff
  | powerSetRuntimePm devPath mode =>
      exact (checkedWrite_reports (by decide) (by decide) _ _ _ _).silentIff
  | powerBatterySetChargeStart index percent => exact setChargeThreshold_silentIff index percent _ _
  | powerBatterySetChargeEnd index percent => exact setChargeThreshold_silentIff index percent _ _
  | powerSuspend state => exact (powerSuspend_reports state).silentIff
  | powerSetWakeup device enabled => exact (powerSetWakeup_reports device enabled).silentIff
  | usbSetPowerControl u mode =>
      exact SetM.Reports.silentIff
        (.ite (.getting (.raise (by decide) (by decide) _ _)) (writeAttrStr_reports u _ _))
  | usbSetAutosuspendDelay u ms => exact (writeAttrStr_reports u _ _).silentIff
  | usbSetAuthorized u on => exact (writeAttrStr_reports u _ _).silentIff
  | usbSetWakeup u on => exact (writeAttrStr_reports u _ _).silentIff
  | usbReset u => exact (usbReset_reports u).silentIff
  | btSetPowered bt on => exact (btSetPowered_reports bt on).silentIff
  | btSetRfkillBlocked bt blocked => exact (btSetRfkillBlocked_reports bt blocked).silentIff
  | wirelessSetRfkillBlocked wl blocked =>
      exact SetM.Reports.silentIff (.after (wirelessRfkill_reports wl) fun _ =>
        writeFileString_reports _ _)
  | wirelessSetRegdomain wl country => exact setRegdomain_silentIff wl country
  | wirelessSetTxpower wl mBm => exact setTxpower_silentIff wl mBm
  | wirelessSetPowerSave wl on => exact setPowerSave_silentIff wl on
  | fwEfiSet name guid attributes data =>
      exact (fwEfiSet_reports name guid attributes data).silentIff
  | fwEfiDelete name guid => exact (fwEfiDelete_reports name guid).silentIff
  | fwBiosSetSetting name value password =>
      exact (fwBiosSetSetting_reports name value password).silentIff

/-! ## The contract -/

/-- A call of the interface that takes an error record. -/
inductive PublicCall where
  | get {β : Type} (call : Query β)
  | set (call : Update)

/-- The call comes back with `-1` or with `NULL`. -/
def PublicCall.Fails : PublicCall → Os σ → σ → Proc → Prop
  | .get call, os, sys, proc => (call.program os sys proc).1 = .failed
  | .set call, os, sys, proc => (call.program os sys proc).1 = .failed

/-- The process when the call comes back. -/
def PublicCall.later : PublicCall → Os σ → σ → Proc → Proc
  | .get call, os, sys, proc => (call.program os sys proc).2
  | .set call, os, sys, proc => (call.program os sys proc).2.2

/-- The circumstances in which the call fails and does not say why. -/
def PublicCall.Silent : PublicCall → Os σ → σ → Proc → Prop
  | .get call => call.Silent
  | .set call => call.Silent

/--
A call that is made with an empty error record, and fails, leaves one of the
error codes in it.
-/
def PublicCall.KeepsContract (call : PublicCall) (os : Os σ) (sys : σ) (proc : Proc) : Prop :=
  proc.err.code = Err.ok → call.Fails os sys proc → (call.later os sys proc).Reported

/-- What a failing call leaves is the empty record or a report. -/
theorem PublicCall.failed_silent_iff
    (call : PublicCall) (os : Os σ) (sys : σ) {proc : Proc} (empty : proc.err.code = Err.ok) :
    (call.later os sys proc).Sound ∧
      (call.Fails os sys proc ∧ (call.later os sys proc).err.code = Err.ok ↔
        call.Silent os sys proc) := by
  cases call with
  | get call => exact call.silentIff os sys proc empty
  | set call => exact call.silentIff os sys proc empty

theorem Proc.Sound.reported_iff
    {proc : Proc} (sound : proc.Sound) :
    proc.Reported ↔ proc.err.code ≠ Err.ok := by
  refine ⟨Proc.Reported.not_ok, fun filled => ⟨?_, sound.2⟩⟩
  have low := sound.1
  have filled : proc.err.code ≠ 0 := filled
  omega

/-- A call keeps the contract outside the silent circumstances, and only there. -/
theorem keepsContract_iff
    (call : PublicCall) (os : Os σ) (sys : σ) (proc : Proc) :
    call.KeepsContract os sys proc ↔
      ¬(proc.err.code = Err.ok ∧ call.Silent os sys proc) := by
  constructor
  · rintro keeps ⟨empty, silent⟩
    obtain ⟨failed, unreported⟩ := (call.failed_silent_iff os sys empty).2.mpr silent
    exact (keeps empty failed).not_ok unreported
  · intro loud empty failed
    obtain ⟨sound, silently⟩ := call.failed_silent_iff os sys empty
    refine sound.reported_iff.mpr fun unreported => ?_
    exact loud ⟨empty, silently.mp ⟨failed, unreported⟩⟩

/-- A machine without a battery, as the power supplies show it. -/
def mainsOnlyOs : Os Unit :=
  { bareOs with
    listDir := fun _ _ => .ok [".", "..", "AC"]
    openRead := fun _ _ => .ok ⟨"Mains\n".toList, none⟩ }

/-- The battery count of such a machine fails, and the record still says that all is well. -/
theorem batteryCount_silent :
    ¬(PublicCall.get .powerBatteryCount).KeepsContract mainsOnlyOs () freshProc := by
  intro keeps
  have failed : (PublicCall.get .powerBatteryCount).Fails mainsOnlyOs () freshProc := rfl
  have unreported : ((PublicCall.get .powerBatteryCount).later mainsOnlyOs () freshProc).err.code =
      Err.ok := by
    decide +kernel
  exact (keeps rfl failed).not_ok unreported

end Zenctl
