import Zenctl.CpuFreq
import Zenctl.Libzenctl
import Zenctl.WholeRuns

namespace Zenctl

open CString LabelledRuns

/-!
# Changes that happen or do not happen

On a kernel that changes nothing when it refuses, most setters either succeed or
leave the system as it was.  A setter of several kernel calls keeps this as long
as nothing that can fail comes after a call that was accepted.
-/

variable {σ τ α β : Type}

/-- A call the kernel refuses changes nothing. -/
structure Os.RefusesCleanly (os : Os σ) : Prop where
  writeFile : ∀ sys path text, (os.writeFile sys path text).1 ≠ .done →
    (os.writeFile sys path text).2 = sys
  setRing : ∀ sys iface rp e, (os.setRing sys iface rp).1 = .error e →
    (os.setRing sys iface rp).2 = sys
  setFlag : ∀ sys iface flag data e, (os.setFlag sys iface flag data).1 = .error e →
    (os.setFlag sys iface flag data).2 = sys
  setPowerLimit : ∀ sys device mw, (os.nvml.setPowerLimit sys device mw).1 = false →
    (os.nvml.setPowerLimit sys device mw).2 = sys
  resetNode : ∀ sys node e, (os.resetNode sys node).1 = .error e →
    (os.resetNode sys node).2 = sys
  hciPower : ∀ sys index on e, (os.hciPower sys index on).1 = .error e →
    (os.hciPower sys index on).2 = sys

/-- The system is as it was, unless the program delivers such a value. -/
def SetM.ChangesOnlyWith (program : SetM σ α) (os : Os σ) (done : α → Prop) : Prop :=
  ∀ sys proc, (∃ value, (program os sys proc).1 = .value value ∧ done value) ∨
    (program os sys proc).2.1 = sys

/-- The program always delivers a value. -/
def SetM.Delivers (program : SetM σ α) (os : Os σ) (done : α → Prop) : Prop :=
  ∀ sys proc, ∃ value, (program os sys proc).1 = .value value ∧ done value

/-- The program succeeds or leaves the system as it was. -/
def SetM.AllOrNothing (program : SetM σ α) (os : Os σ) : Prop :=
  program.ChangesOnlyWith os fun _ => True

namespace SetM.ChangesOnlyWith

variable {os : Os σ} {done : α → Prop}

theorem getting (program : GetM σ α) : (getting program).ChangesOnlyWith os done :=
  fun _ _ => .inr rfl

theorem pure (value : α) : (pure value : SetM σ α).ChangesOnlyWith os done :=
  fun _ _ => .inr rfl

/-- What comes after a change that was made has to go through. -/
theorem bind
    {program : SetM σ α} {next : α → SetM σ β} {other : β → Prop}
    (first : program.ChangesOnlyWith os done)
    (whenDone : ∀ value, done value → (next value).Delivers os other)
    (rest : ∀ value, (next value).ChangesOnlyWith os other) :
    (program >>= next).ChangesOnlyWith os other := by
  intro sys proc
  have start := first sys proc
  rw [SetM.bind_run]
  cases run : program os sys proc with
  | mk outcome ended =>
      obtain ⟨changed, later⟩ := ended
      rw [run] at start
      cases outcome with
      | value middle =>
          rcases start with ⟨value, same, holds⟩ | kept
          · obtain rfl : middle = value := Outcome.value.inj same
            exact .inl (whenDone middle holds changed later)
          · have kept : changed = sys := kept
            rw [kept]
            exact rest middle sys later
      | failed =>
          exact .inr (start.resolve_left nofun)
      | blocked =>
          exact .inr (start.resolve_left nofun)

/-- What is read first changes nothing. -/
theorem after
    {program : GetM σ α} {next : α → SetM σ β} {other : β → Prop}
    (rest : ∀ value, (next value).ChangesOnlyWith os other) :
    (Zenctl.getting program >>= next).ChangesOnlyWith os other :=
  have reads : (Zenctl.getting program).ChangesOnlyWith os fun _ => False := .getting program
  .bind reads (fun _ impossible => impossible.elim) rest

theorem ite
    {condition : Prop} [Decidable condition] {first second : SetM σ α}
    (whenTrue : condition → first.ChangesOnlyWith os done)
    (whenFalse : ¬condition → second.ChangesOnlyWith os done) :
    (if condition then first else second).ChangesOnlyWith os done := by
  split
  · next holds => exact whenTrue holds
  · next fails => exact whenFalse fails

theorem quietly
    {program : SetM σ α} (first : program.AllOrNothing os) :
    (quietlySet program).ChangesOnlyWith os fun result => result.isSome = true := by
  intro sys proc
  have start := first sys proc
  unfold quietlySet attemptSet
  cases run : program os sys proc with
  | mk outcome ended =>
      rw [run] at start
      cases outcome with
      | value result => exact .inl ⟨some result, rfl, rfl⟩
      | failed => exact .inr (start.resolve_left nofun)
      | blocked => exact .inr (start.resolve_left nofun)

/-- A system call that may change the system, and what it delivers. -/
theorem sysSet
    {call : Os σ → σ → Except Errno α × σ}
    (clean : ∀ sys e, (call os sys).1 = .error e → (call os sys).2 = sys) :
    (sysSet call).ChangesOnlyWith os fun result => result.isSome = true := by
  intro sys proc
  unfold Zenctl.sysSet
  cases answer : call os sys with
  | mk outcome changed =>
      have refused := clean sys
      rw [answer] at refused
      cases outcome with
      | ok result => exact .inl ⟨some result, rfl, rfl⟩
      | error e => exact .inr (refused e rfl)

end SetM.ChangesOnlyWith

theorem SetM.Delivers.pure
    {os : Os σ} {value : α} {done : α → Prop} (holds : done value) :
    (Pure.pure value : SetM σ α).Delivers os done :=
  fun _ _ => ⟨value, rfl, holds⟩

/-! ## The helpers of the setters -/

theorem netEthtoolSet_allOrNothing
    {os : Os σ} (net : NetHandle) {call : Os σ → σ → Except Errno Unit × σ}
    (refused : ∀ sys e, (call os sys).1 = .error e → (call os sys).2 = sys) :
    (netEthtoolSet net call).AllOrNothing os := by
  refine .ite (fun _ => .bind (.sysSet refused) ?_ ?_) fun _ => .getting _
  · rintro (_ | done) isSome
    · cases isSome
    · exact .pure trivial
  · rintro (_ | done)
    · exact .getting _
    · exact .pure _

section Helpers

variable {os : Os σ} (clean : os.RefusesCleanly)
include clean

theorem writeFileString_allOrNothing (path value : CStr) :
    (writeFileString path value).AllOrNothing os := by
  intro sys proc
  obtain ⟨changed, accepted, -⟩ := writeFileString_run os sys proc path value
  by_cases done : (os.writeFile sys (resolvePath os.sysfsRoot path) value).1 = .done
  · exact .inl ⟨(), (accepted done).1, trivial⟩
  · exact .inr (changed.trans (clean.writeFile sys _ value done))

/-- `on` or `auto`, or nothing at all. -/
theorem writePowerControl_allOrNothing (path mode caller : CStr) :
    (writePowerControl path mode caller).AllOrNothing os :=
  .ite (fun _ => .getting _) fun _ => writeFileString_allOrNothing clean _ _

theorem setRing_allOrNothing
    (net : NetHandle) (size : Int) (change : RingParams → RingParams) (caller : CStr) :
    (setRing net size change caller).AllOrNothing os :=
  .ite (fun _ => .getting _) fun _ => .after fun rp =>
    netEthtoolSet_allOrNothing net fun sys e => clean.setRing sys net.iface (change rp) e

theorem setChargeThreshold_allOrNothing (index percent : Int) (key caller : CStr) :
    (setChargeThreshold index percent key caller).AllOrNothing os :=
  .ite (fun _ => .getting _) fun _ => .after fun _ => writeFileString_allOrNothing clean _ _

theorem i915SetFreq_allOrNothing (g : GpuHandle) (newName oldName : CStr) (mhz : Int)
    (caller : CStr) :
    (i915SetFreq g newName oldName mhz caller).AllOrNothing os :=
  .ite (fun _ => .getting _) fun _ => .after fun _ => .after fun _ =>
    writeFileString_allOrNothing clean _ _

theorem writeAttrStr_allOrNothing (u : UsbHandle) (attr value : CStr) :
    (writeAttrStr u attr value).AllOrNothing os :=
  .after fun _ => writeFileString_allOrNothing clean _ _

/-! ## Setters with more than one kernel call -/

/-- The second place of the cache mode is written only when the first one refused. -/
theorem storageSetCacheType_allOrNothing (st : StorageHandle) (type : CacheType) :
    (zenctlStorageSetCacheType st type).AllOrNothing os := by
  refine .bind (.quietly (writeFileString_allOrNothing clean _ _)) ?_ ?_
  · rintro (_ | done) isSome
    · cases isSome
    · exact .pure trivial
  · rintro (_ | done)
    · exact writeFileString_allOrNothing clean _ _
    · exact .pure _

theorem nvmlSetPowerLimit_changesOnly (index mw : Int) :
    (nvmlSetPowerLimit index mw).ChangesOnlyWith os fun accepted => accepted = true := by
  intro sys proc
  unfold nvmlSetPowerLimit
  split
  · exact .inr rfl
  cases nvmlDevice os sys index with
  | none =>
      exact .inr rfl
  | some device =>
      dsimp only
      cases answer : (os.nvml.setPowerLimit sys device mw.toNat).1 with
      | true => exact .inl ⟨true, rfl, rfl⟩
      | false => exact .inr (clean.setPowerLimit sys device mw.toNat answer)

theorem gpuNvidiaSetPowerLimit_allOrNothing (g : GpuHandle) (mw : Int) :
    (zenctlGpuNvidiaSetPowerLimit g mw).AllOrNothing os := by
  refine .ite (fun _ => .getting _) fun _ => .after fun _ => .after fun started =>
    .ite (fun _ => .bind (nvmlSetPowerLimit_changesOnly clean _ _) ?_ fun accepted => ?_) fun _ =>
    .getting _
  · rintro _ rfl
    exact .pure trivial
  · exact .ite (fun _ => .pure _) fun _ => .getting _

theorem btMgmtSetPowered_changesOnly (index : Int) (on : Bool) :
    (btMgmtSetPowered index on).ChangesOnlyWith os fun powered => powered = true := by
  refine .ite (fun _ => .getting _) fun _ =>
    .bind (.sysSet fun sys e => clean.hciPower sys index.toNat on e) ?_ ?_
  · rintro (_ | done) isSome
    · cases isSome
    · exact .pure rfl
  · rintro (_ | done)
    · exact .getting _
    · exact .pure _

theorem btSetRfkillBlocked_allOrNothing (bt : BtHandle) (blocked : Bool) :
    (zenctlBtSetRfkillBlocked bt blocked).AllOrNothing os :=
  .after fun _ => writeFileString_allOrNothing clean _ _

/-- The `rfkill` switch is written only when the adapter refused. -/
theorem btSetPowered_allOrNothing (bt : BtHandle) (on : Bool) :
    (zenctlBtSetPowered bt on).AllOrNothing os := by
  refine .after fun socket => ?_
  cases socket with
  | none => exact btSetRfkillBlocked_allOrNothing clean bt _
  | some opened =>
      refine .bind (btMgmtSetPowered_changesOnly clean bt.index on) ?_ fun powered => ?_
      · rintro _ rfl
        exact .pure trivial
      · exact .ite (fun _ => .pure _) fun _ => .after fun _ => .ite (fun _ => .getting _) fun _ =>
          btSetRfkillBlocked_allOrNothing clean bt _

theorem usbReset_allOrNothing (u : UsbHandle) : (zenctlUsbReset u).AllOrNothing os := by
  refine .after fun found => .ite (fun _ => .getting _) fun _ => .after fun _ =>
    .bind (.sysSet fun sys e => clean.resetNode sys _ e) ?_ ?_
  · rintro (_ | done) isSome
    · cases isSome
    · exact .pure trivial
  · rintro (_ | done)
    · exact .getting _
    · exact .pure _

theorem thermalSetCoolingState_allOrNothing (tz : ThermalHandle) (index state : Int) :
    (zenctlThermalSetCoolingState tz index state).AllOrNothing os := by
  refine .ite (fun _ => .getting _) fun _ => .after fun number => .after fun max => ?_
  cases max with
  | none => exact writeFileString_allOrNothing clean _ _
  | some max =>
      exact .ite (fun _ => .getting _) fun _ => writeFileString_allOrNothing clean _ _

theorem powerSetWakeup_allOrNothing (device : CStr) (enabled : Bool) :
    (zenctlPowerSetWakeup device enabled).AllOrNothing os := by
  refine .ite (fun _ => .getting _) fun _ => .ite (fun _ => .getting _) fun _ =>
    .after fun table => ?_
  cases wakeupStatus device table with
  | none => exact .getting _
  | some status =>
      exact .ite (fun _ => .pure _) fun _ => writeFileString_allOrNothing clean _ _

theorem gpuI915SetRc6_allOrNothing (g : GpuHandle) (on : Bool) :
    (zenctlGpuI915SetRc6 g on).AllOrNothing os := by
  refine .after fun _ => .after fun path => .after fun writable => ?_
  cases writable with
  | none => exact .getting _
  | some allowed => exact writeFileString_allOrNothing clean _ _

theorem gpuAmdgpuSetPowerProfile_allOrNothing (g : GpuHandle) (profile : CStr) :
    (zenctlGpuAmdgpuSetPowerProfile g profile).AllOrNothing os :=
  .after fun _ => .after fun _ => .ite (fun _ => .getting _) fun _ => .after fun _ =>
    .ite (fun _ => .getting _) fun _ => writeFileString_allOrNothing clean _ _

/-- Without a password there is nothing to unlock and to clear. -/
theorem fwBiosSetSetting_allOrNothing
    (name value : CStr) {password : Option CStr} (none : password.getD [] = []) :
    (zenctlFwBiosSetSetting name value password).AllOrNothing os := by
  unfold zenctlFwBiosSetSetting
  simp only [none, ↓reduceIte]
  exact .ite (fun _ => .getting _) fun _ => .ite (fun _ => .getting _) fun _ => .after fun _ =>
    .after fun _ => writeFileString_allOrNothing clean _ _

end Helpers

/-! ## Every setter -/

/-- An atomic setter succeeds or leaves the system as it was. -/
theorem Update.allOrNothing
    {os : Os σ} (clean : os.RefusesCleanly) {call : Update} (atomic : call.atomic = true) :
    call.program.AllOrNothing os := by
  have write : ∀ path value, (writeFileString path value : SetM σ Unit).AllOrNothing os :=
    writeFileString_allOrNothing clean
  cases call with
  | kvSet key value => exact .getting _
  | cpuSetGovernor cpu governor =>
      exact .ite (fun _ => .getting _) fun _ => .after fun _ =>
        .ite (fun _ => write _ _) fun _ => .getting _
  | cpuSetFreqMin cpu hz | cpuSetFreqMax cpu hz =>
      exact .after fun _ => .after fun _ => .ite (fun _ => .getting _) fun _ => write _ _
  | cpuSetOnline cpu on => exact write _ _
  | cpuSetSmtActive on => exact write _ _
  | cpuSetCstateDisable cpu state disable =>
      exact .ite (fun _ => .getting _) fun _ => write _ _
  | memSetNrHugepages pages => exact .ite (fun _ => .getting _) fun _ => write _ _
  | memSetNrHugepagesSize sizeKb pages =>
      exact .ite (fun _ => .getting _) fun _ => .after fun _ => write _ _
  | memSetThp mode => exact write _ _
  | memSetSwappiness value | memSetOvercommit value | memSetVfsCachePressure value =>
      exact .ite (fun _ => .getting _) fun _ => write _ _
  | storageSetScheduler st scheduler =>
      exact .ite (fun _ => .getting _) fun _ => .ite (fun _ => .getting _) fun _ => write _ _
  | storageSetQueueDepth st depth => exact .ite (fun _ => .getting _) fun _ => write _ _
  | storageSetReadAhead st kb => exact .ite (fun _ => .getting _) fun _ => write _ _
  | storageSetCacheType st type => exact storageSetCacheType_allOrNothing clean st type
  | storageSetPowerControl st mode =>
      exact .ite (fun _ => .getting _) fun _ => writePowerControl_allOrNothing clean _ _ _
  | netSetRingRx net size | netSetRingTx net size => exact setRing_allOrNothing clean net size _ _
  | netSetOffload net flag on =>
      exact netEthtoolSet_allOrNothing net fun sys e => clean.setFlag sys net.iface flag _ e
  | netSetMtu net mtu => exact .ite (fun _ => .getting _) fun _ => write _ _
  | netSetIrqAffinity net mask =>
      exact .ite (fun _ => .getting _) fun _ => .ite (fun _ => .getting _) fun _ =>
        .after fun _ => write _ _
  | pcieSetPowerControl p mode =>
      exact .ite (fun _ => .getting _) fun _ => writePowerControl_allOrNothing clean _ _ _
  | pcieSetAspmPolicy policy =>
      exact .ite (fun _ => .getting _) fun _ => .ite (fun _ => write _ _) fun _ => .getting _
  | pcieSetD3coldAllowed p allow => exact write _ _
  | gpuSetFanAuto g auto => exact .after fun _ => write _ _
  | gpuSetFanPwm g pwm => exact .ite (fun _ => .getting _) fun _ => .after fun _ => write _ _
  | gpuAmdgpuSetPowerProfile g profile =>
      exact gpuAmdgpuSetPowerProfile_allOrNothing clean g profile
  | gpuNvidiaSetPowerLimit g mw => exact gpuNvidiaSetPowerLimit_allOrNothing clean g mw
  | gpuI915SetRc6 g on => exact gpuI915SetRc6_allOrNothing clean g on
  | gpuI915SetRpsMin g mhz | gpuI915SetRpsMax g mhz | gpuI915SetRpsBoost g mhz =>
      exact i915SetFreq_allOrNothing clean g _ _ mhz _
  | thermalSetPolicy tz policy => exact write _ _
  | thermalSetMode tz enabled => exact write _ _
  | thermalSetCoolingState tz index state =>
      exact thermalSetCoolingState_allOrNothing clean tz index state
  | thermalHwmonSetFanPwm hwmon fan pwm =>
      exact .ite (fun _ => .getting _) fun _ => .ite (fun _ => .getting _) fun _ => write _ _
  | thermalHwmonSetFanAuto hwmon fan auto => exact .ite (fun _ => .getting _) fun _ => write _ _
  | powerSetMemSleepMode mode => exact write _ _
  | powerSetRuntimePm devPath mode => exact .ite (fun _ => .getting _) fun _ => write _ _
  | powerBatterySetChargeStart index percent | powerBatterySetChargeEnd index percent =>
      exact setChargeThreshold_allOrNothing clean index percent _ _
  | powerSuspend state =>
      exact .after fun _ => .ite (fun _ => write _ _) fun _ => .getting _
  | powerSetWakeup device enabled => exact powerSetWakeup_allOrNothing clean device enabled
  | usbSetPowerControl u mode =>
      exact .ite (fun _ => .getting _) fun _ => writeAttrStr_allOrNothing clean _ _ _
  | usbSetAutosuspendDelay u ms => exact writeAttrStr_allOrNothing clean _ _ _
  | usbSetAuthorized u on => exact writeAttrStr_allOrNothing clean _ _ _
  | usbSetWakeup u on => exact writeAttrStr_allOrNothing clean _ _ _
  | usbReset u => exact usbReset_allOrNothing clean u
  | btSetPowered bt on => exact btSetPowered_allOrNothing clean bt on
  | btSetRfkillBlocked bt blocked => exact btSetRfkillBlocked_allOrNothing clean bt blocked
  | wirelessSetRfkillBlocked wl blocked => exact .after fun _ => write _ _
  | wirelessSetRegdomain wl country => cases atomic
  | wirelessSetTxpower wl mBm => cases atomic
  | wirelessSetPowerSave wl on => cases atomic
  | fwEfiSet name guid attributes data => cases atomic
  | fwEfiDelete name guid => cases atomic
  | fwBiosSetSetting name value password =>
      exact fwBiosSetSetting_allOrNothing clean name value (of_decide_eq_true atomic)

/-- A setter that failed, seen through the library. -/
theorem libzenctl_failed_unchanged
    {os : Os σ} (clean : os.RefusesCleanly) {call : Update} (atomic : call.atomic = true)
    {sys : σ} {proc : Proc}
    (failed : succeeded ((libzenctl os).update call sys proc).1 = false) :
    ((libzenctl os).update call sys proc).2.1 = sys := by
  rcases call.allOrNothing clean atomic sys { proc with err := Err.zero } with
    ⟨value, delivered, -⟩ | kept
  · simp [libzenctl, delivered, Outcome.answer, succeeded] at failed
  · exact kept

/--
On a kernel that changes nothing when it refuses, a command that exits with a
status other than zero has left the system exactly as it found it, outside
`firmware`, `profile` and the commands that go over many CPUs.
-/
theorem failedCommand_changesNothing
    (os : Os σ) (host : Host σ) (env : Env) (argv : List CStr) (sys : σ) (proc : Proc)
    (clean : os.RefusesCleanly)
    (single : ¬ChangesMany argv)
    (plain : ∀ args, ¬Commands argv ("firmware".toList :: args) ∧
      ¬Commands argv ("profile".toList :: args))
    (failed : (main argv ⟨libzenctl os, host, env⟩ (start sys proc)).1 ≠ 0) :
    (runMain ⟨libzenctl os, host, env⟩ argv sys proc).sys = sys := by
  obtain ⟨actions, leads, accounts⟩ := runMain_leads ⟨libzenctl os, host, env⟩ argv sys proc
  refine leads.run.unchanged id fun action member before after acts => ?_
  have refused := accounts.exact single failed
  obtain ⟨domain, args, command, ⟨call, isSetter, part⟩ | ⟨rfl, -⟩⟩ := accounts.within action member
  · have atomic : call.atomic = true := by
      refine part.2.resolve_left ?_
      rintro rfl
      exact (plain args).1 command
    cases acts with
    | set other sys memory =>
        obtain rfl : other = call := Step.update.inj isSetter
        exact libzenctl_failed_unchanged clean atomic
          (refused (other, _) (List.mem_filterMap.mpr ⟨_, member, rfl⟩))
    | mkdir path sys => cases isSetter
    | openWrite path sys => cases isSetter
    | writeOut path text sys => cases isSetter
    | unlink path sys => cases isSetter
  · exact absurd command (plain args).2

/-! ## A machine with attribute files -/

/--
Files in memory, where only a file that is there can be written, and the empty text
leads to no write.
-/
def attributeOs : Os (CStr → Option (List Char)) :=
  { memoryOs with
    writeFile := fun files path text =>
      if (files path).isSome then
        (.done, if text = [] then files else Function.update files path (some text))
      else (.openFailed Errno.enoent, files) }

theorem attributeOs_refusesCleanly : attributeOs.RefusesCleanly where
  writeFile files path text refused := by
    simp only [attributeOs] at refused ⊢
    split at refused
    · exact absurd rfl refused
    · next absent => rw [if_neg absent]
  setRing _ _ _ _ _ := rfl
  setFlag _ _ _ _ _ _ := rfl
  setPowerLimit _ _ _ _ := rfl
  resetNode _ _ _ _ := rfl
  hciPower _ _ _ _ _ := rfl

/-- The files of `attributeOs` for the command line. -/
def attributeHost : Host (CStr → Option (List Char)) where
  listDir _ _ := none
  access files path _ := (files path).isSome
  readFile files path :=
    match files path with
    | some text => .ok text
    | none => .error "No such file or directory".toList
  mkdir files _ := (false, files)
  openWrite files path := (.ok (), Function.update files path (some []))
  writeOut files path text := Function.update files path (some text)
  unlink files path := (.ok (), Function.update files path none)

/-- The same files on a kernel that refuses every write. -/
def lockedOs : Os (CStr → Option (List Char)) :=
  { attributeOs with writeFile := fun files _ _ => (.writeFailed Errno.eperm, files) }

theorem lockedOs_refusesCleanly : lockedOs.RefusesCleanly :=
  { attributeOs_refusesCleanly with writeFile := fun _ _ _ _ => rfl }

/-- The file of the swappiness, and no other. -/
def swappinessFile : CStr → Option (List Char) := fun path =>
  if path = "/proc/sys/vm/swappiness".toList then some "60\n".toList else none

/-- The kernel refuses the write of a new swappiness, and nothing is changed. -/
theorem failedCommand_swappiness :
    ((libzenctl lockedOs).query .memGetSwappiness swappinessFile freshProc).1 = .ok 60 ∧
      (runMain ⟨libzenctl lockedOs, attributeHost, smallEnv 0⟩
        (["mem", "set", "swappiness", "10"].map String.toList) swappinessFile freshProc).sys =
          swappinessFile := by
  refine ⟨by decide +kernel, failedCommand_changesNothing _ _ _ _ _ _ lockedOs_refusesCleanly
    (changesOne (by decide) (by decide)) (fun args => ⟨?_, ?_⟩) (by decide +kernel)⟩
  · exact fun command => absurd command.domain (by decide)
  · exact fun command => absurd command.domain (by decide)

end Zenctl
