import Zenctl.RecordedCalls
import Zenctl.Libzenctl

namespace Zenctl

open CString

/-!
# Values and the kernel's limits

For some settings the kernel reports the range it takes: the hardware range of
a CPU's frequencies, the largest state of a cooling device, the largest rings
of a network interface.  What a setter asks for is compared here with what is
reported at the time of the call.
-/

variable {σ : Type}

/-! ## Setters with limits -/

/-- The range of a setting, as far as it is reported. -/
structure Limits where
  low : Option Int
  high : Option Int

def Limits.Allow (limits : Limits) (value : Int) : Prop :=
  (∀ low ∈ limits.low, low ≤ value) ∧ ∀ high ∈ limits.high, value ≤ high

inductive LimitedSetter where
  | freqMin (cpu : CpuHandle) (hz : Int)
  | freqMax (cpu : CpuHandle) (hz : Int)
  | coolingState (tz : ThermalHandle) (index state : Int)
  | ringRx (net : NetHandle) (size : Int)
  | ringTx (net : NetHandle) (size : Int)

/-- The cooling device behind a zone's link. -/
def coolingNumber (os : Os σ) (sys : σ) (tz : ThermalHandle) (index : Int) : Option Int :=
  match os.readlink sys (bounded 8192 (tz.zonePath ++ "/cdev".toList ++ showInt index)) with
  | .error _ => none
  | .ok target =>
      let name := baseName (ofBuffer (target.take 8191))
      if startsWith "cooling_device" name ∧ 0 ≤ atoi (name.drop 14) then
        some (atoi (name.drop 14))
      else none

namespace LimitedSetter

def run : LimitedSetter → SetM σ Unit
  | freqMin cpu hz => zenctlCpuSetFreqMin cpu hz
  | freqMax cpu hz => zenctlCpuSetFreqMax cpu hz
  | coolingState tz index state => zenctlThermalSetCoolingState tz index state
  | ringRx net size => zenctlNetSetRingRx net size
  | ringTx net size => zenctlNetSetRingTx net size

/-- What is asked for, in the kernel's unit. -/
def asked : LimitedSetter → Int
  | freqMin _ hz | freqMax _ hz => hz.tdiv 1000
  | coolingState _ _ state => state
  | ringRx _ size | ringTx _ size => size

/-- The range of a CPU's frequencies in kHz. -/
def freqLimits (os : Os σ) (sys : σ) (cpu : CpuHandle) : Limits where
  low := fileInt os sys (cpuPath cpu "cpufreq/cpuinfo_min_freq")
  high := fileInt os sys (cpuPath cpu "cpufreq/cpuinfo_max_freq")

/-- States are counted from zero. -/
def stateLimits (os : Os σ) (sys : σ) (number : Int) : Limits where
  low := (fileInt os sys (coolingPath number "max_state")).map fun _ => 0
  high := fileInt os sys (coolingPath number "max_state")

def ringLimits (os : Os σ) (sys : σ) (net : NetHandle) (most : RingParams → Nat) : Limits :=
  match os.getRing sys net.iface with
  | .ok rp => ⟨some 0, some (most rp)⟩
  | .error _ => ⟨none, none⟩

/-- The limits that are reported for a setting. -/
def limits (os : Os σ) (sys : σ) : LimitedSetter → Limits
  | freqMin cpu _ | freqMax cpu _ => freqLimits os sys cpu
  | coolingState tz index _ =>
      match coolingNumber os sys tz index with
      | some number => stateLimits os sys number
      | none => ⟨none, none⟩
  | ringRx net _ => ringLimits os sys net RingParams.rxMaxPending
  | ringTx net _ => ringLimits os sys net RingParams.txMaxPending

/-- The file a setting is written to; the rings have none. -/
def file (os : Os σ) (sys : σ) : LimitedSetter → Option CStr
  | freqMin cpu _ => some (cpuPath cpu "cpufreq/scaling_min_freq")
  | freqMax cpu _ => some (cpuPath cpu "cpufreq/scaling_max_freq")
  | coolingState tz index _ =>
      (coolingNumber os sys tz index).map fun number => coolingPath number "cur_state"
  | ringRx _ _ | ringTx _ _ => none

end LimitedSetter

/-- The call carries values inside the limits that are reported. -/
def SetCall.Within (os : Os σ) (sys : σ) (setter : LimitedSetter) : SetCall → Prop
  | wrote path text => ∃ file value, setter.file os sys = some file ∧
      path = resolvePath os.sysfsRoot file ∧ text = showInt value ∧
      (setter.limits os sys).Allow value
  | ring iface rp => ∀ reported, os.getRing sys iface = .ok reported →
      rp.rxPending ≤ reported.rxMaxPending ∧ rp.txPending ≤ reported.txMaxPending
  | other => False

/-- Nothing outside the limits is written or set; asking for it fails and changes nothing. -/
structure StaysWithin (os : Os σ) (sys : σ) (setter : LimitedSetter) : Prop where
  carried : ∀ proc, ∀ call ∈ (setter.run os.recorded (sys, []) proc).2.1.2,
    call.Within os sys setter
  refused : ¬(setter.limits os sys).Allow setter.asked → ∀ proc, ∃ later,
    setter.run os.recorded (sys, []) proc = (.failed, (sys, []), later)

/-- The rings that are set, and those kept as they are, fit what the interface reports. -/
def RingFits (os : Os σ) (sys : σ) (net : NetHandle) (size : Int)
    (change : RingParams → RingParams) : Prop :=
  0 ≤ size → net.hasSocket = true → ∀ rp, os.getRing sys net.iface = .ok rp →
    (change rp).rxPending ≤ rp.rxMaxPending ∧ (change rp).txPending ≤ rp.txMaxPending

/-- Where a setter keeps to the limits. -/
def LimitedSetter.Plain (os : Os σ) (sys : σ) : LimitedSetter → Prop
  | freqMin _ _ | freqMax _ _ | coolingState _ _ _ => True
  | ringRx net size => RingFits os sys net size fun rp => { rp with rxPending := size.toNat }
  | ringTx net size => RingFits os sys net size fun rp => { rp with txPending := size.toNat }

/-! ## Each setter -/

section Recorded

variable {os : Os σ} {sys : σ} {log : List SetCall}

theorem coolingNumber_recorded (tz : ThermalHandle) (index : Int) :
    coolingNumber os.recorded (sys, log) tz index = coolingNumber os sys tz index :=
  rfl

theorem zoneCdevIndex_failsOr (os : Os σ) (sys : σ) (tz : ThermalHandle) (index : Int) :
    (zoneCdevIndex tz index).FailsOr os sys fun number =>
      coolingNumber os sys tz index = some number := by
  have linked : (readlinkBasename (bounded 8192 (tz.zonePath ++ "/cdev".toList ++ showInt index)) :
      GetM σ CStr).FailsOr os sys fun name => ∃ target, os.readlink sys
        (bounded 8192 (tz.zonePath ++ "/cdev".toList ++ showInt index)) = .ok target ∧
          name = baseName (ofBuffer (target.take 8191)) :=
    .bind (sysCallOr_failsOr _ _ _) fun target answer =>
      .bind (allocateOr_failsOr _ _) fun _ _ => .pure ⟨target, answer, rfl⟩
  refine .bind linked ?_
  rintro name ⟨target, answer, rfl⟩
  unfold coolingNumber
  rw [answer]
  by_cases device : startsWith "cooling_device" (baseName (ofBuffer (target.take 8191))) = true
  · simp only [device, if_true, true_and]
    refine .ite (fun _ => .raise _ _ _) fun nonneg => .pure ?_
    rw [if_pos (not_lt.mp nonneg)]
  · simp only [device, Bool.false_eq_true, if_false]
    exact .raise _ _ _

end Recorded

section Setters

variable {os : Os σ} {sys : σ}

/-- A setter that fails, or makes one call with what is asked for, inside the limits. -/
theorem staysWithin_of_failsOr
    {setter : LimitedSetter}
    (ends : setter.run.FailsOr os.recorded (sys, []) fun reached =>
      (setter.limits os sys).Allow setter.asked ∧ ∃ call : SetCall,
        reached.2 = [call] ∧ call.Within os sys setter) :
    StaysWithin os sys setter := by
  constructor
  · intro proc call made
    rcases ends proc with ⟨later, failed⟩ | ⟨-, only, written, within⟩
    · rw [failed] at made
      cases made
    · rw [written] at made
      rw [List.mem_singleton.mp made]
      exact within
  · intro outside proc
    rcases ends proc with refused | ⟨inside, -⟩
    · exact refused
    · exact absurd inside outside

theorem checkHardwareRange_failsOr (cpu : CpuHandle) (hz : Int) (caller : CStr) :
    (checkHardwareRange cpu hz caller).FailsOr os sys fun khz =>
      khz = hz.tdiv 1000 ∧ (LimitedSetter.freqLimits os sys cpu).Allow khz := by
  refine .ite (fun _ => .raise _ _ _) fun _ => ?_
  refine .bind (readFileI64_failsOr _ _ _) fun hwMin foundMin => ?_
  refine .bind (readFileI64_failsOr _ _ _) fun hwMax foundMax => ?_
  refine .ite (fun _ => .raise _ _ _) fun above => .ite (fun _ => .raise _ _ _) fun below => ?_
  refine .pure ⟨rfl, ?_, ?_⟩
  · intro low reported
    rw [LimitedSetter.freqLimits, foundMin] at reported
    cases reported
    exact not_lt.mp above
  · intro high reported
    rw [LimitedSetter.freqLimits, foundMax] at reported
    cases reported
    exact not_lt.mp below

/-- Both limits of the frequency are checked before anything is written. -/
theorem freqMin_within (cpu : CpuHandle) (hz : Int) :
    StaysWithin os sys (.freqMin cpu hz) := by
  refine staysWithin_of_failsOr ?_
  refine .after (checkHardwareRange_failsOr cpu hz _) ?_
  rintro khz ⟨rfl, inside⟩
  refine .after (readFileI64_failsOr _ _ _) fun _ _ => .ite (fun _ => .raise _ _ _) fun _ => ?_
  refine (writeFileI64_recorded _ _).mono fun reached written => ?_
  exact ⟨inside, _, written, _, _, rfl, rfl, rfl, inside⟩

theorem freqMax_within (cpu : CpuHandle) (hz : Int) :
    StaysWithin os sys (.freqMax cpu hz) := by
  refine staysWithin_of_failsOr ?_
  refine .after (checkHardwareRange_failsOr cpu hz _) ?_
  rintro khz ⟨rfl, inside⟩
  refine .after (readFileI64_failsOr _ _ _) fun _ _ => .ite (fun _ => .raise _ _ _) fun _ => ?_
  refine (writeFileI64_recorded _ _).mono fun reached written => ?_
  exact ⟨inside, _, written, _, _, rfl, rfl, rfl, inside⟩

/-- A state is checked against the largest one, when there is one to read. -/
theorem coolingState_within (tz : ThermalHandle) (index state : Int) :
    StaysWithin os sys (.coolingState tz index state) := by
  refine staysWithin_of_failsOr ?_
  refine .ite (fun _ => .raise _ _ _) fun _ => ?_
  refine .after (zoneCdevIndex_failsOr _ _ tz index) fun number linked => ?_
  rw [coolingNumber_recorded] at linked
  have device : (LimitedSetter.coolingState tz index state).limits os sys =
      LimitedSetter.stateLimits os sys number := by
    simp only [LimitedSetter.limits, linked]
  have target : (LimitedSetter.coolingState tz index state).file os sys =
      some (coolingPath number "cur_state") := by
    simp only [LimitedSetter.file, linked, Option.map_some]
  have writes : (LimitedSetter.stateLimits os sys number).Allow state →
      (writeFileI64 (coolingPath number "cur_state") state).FailsOr os.recorded (sys, [])
        fun reached => ((LimitedSetter.coolingState tz index state).limits os sys).Allow state ∧
          ∃ call : SetCall, reached.2 = [call] ∧
            call.Within os sys (.coolingState tz index state) := by
    intro inside
    rw [← device] at inside
    refine (writeFileI64_recorded _ _).mono fun reached written => ?_
    exact ⟨inside, _, written, _, _, target, rfl, rfl, inside⟩
  have maximum : (quietly (readFileI64 (coolingPath number "max_state"))).FailsOr os.recorded
      (sys, []) fun most => fileInt os sys (coolingPath number "max_state") = most := by
    intro proc
    obtain ⟨later, run, -⟩ := quietly_readFileI64 os.recorded (sys, [])
      (coolingPath number "max_state") proc
    exact .inr ⟨_, later, run, rfl⟩
  refine .after maximum fun most reported => ?_
  cases most with
  | none =>
      refine writes ⟨fun low has => ?_, fun high has => ?_⟩
      · rw [LimitedSetter.stateLimits, reported] at has
        cases has
      · rw [LimitedSetter.stateLimits, reported] at has
        cases has
  | some most =>
      refine .ite (fun _ => .raise _ _ _) fun inside => ?_
      rw [not_or, not_lt, not_lt] at inside
      refine writes ⟨fun low has => ?_, fun high has => ?_⟩
      · rw [LimitedSetter.stateLimits, reported] at has
        cases has
        exact inside.1
      · rw [LimitedSetter.stateLimits, reported] at has
        cases has
        exact inside.2

/-! ## Rings -/

variable {net : NetHandle}

theorem netGetRingparams_failsOr (net : NetHandle) :
    (netGetRingparams net).FailsOr os sys fun rp =>
      net.hasSocket = true ∧ os.getRing sys net.iface = .ok rp := by
  refine .ite (fun socket => ?_) fun _ => .raise _ _ _
  intro proc
  cases answer : os.getRing sys net.iface with
  | error e =>
      rw [GetM.bind_value (sysCall_error answer)]
      exact .inl ⟨_, rfl⟩
  | ok rp =>
      rw [GetM.bind_value (sysCall_ok answer)]
      exact .inr ⟨rp, proc, rfl, socket, rfl⟩

theorem netEthtoolSet_recorded
    (socket : net.hasSocket = true) (rp : RingParams) (proc : Proc) :
    (netEthtoolSet net (fun os sys => os.setRing sys net.iface rp) os.recorded (sys, [])
      proc).2.1.2 = [.ring net.iface rp] := by
  unfold netEthtoolSet
  rw [if_pos socket, SetM.bind_run]
  unfold sysSet
  dsimp only [Os.recorded]
  cases (os.setRing sys net.iface rp).1 <;> rfl

theorem setRing_failsOr
    (net : NetHandle) (size : Int) (change : RingParams → RingParams) (caller : CStr) :
    (setRing net size change caller).FailsOr os.recorded (sys, []) fun reached =>
      ∃ rp, 0 ≤ size ∧ net.hasSocket = true ∧ os.getRing sys net.iface = .ok rp ∧
        reached.2 = [.ring net.iface (change rp)] := by
  refine .ite (fun _ => .raise _ _ _) fun nonneg => ?_
  refine .after (netGetRingparams_failsOr net) ?_
  rintro rp ⟨socket, answer⟩
  exact fun proc => .inr
    ⟨rp, not_lt.mp nonneg, socket, answer, netEthtoolSet_recorded socket (change rp) proc⟩

/-- With the parameters in hand, they are set whatever the limits. -/
theorem setRing_sets
    {size : Int} (nonneg : 0 ≤ size) (socket : net.hasSocket = true)
    {rp : RingParams} (answer : os.getRing sys net.iface = .ok rp)
    (change : RingParams → RingParams) (caller : CStr) (proc : Proc) :
    (setRing net size change caller os.recorded (sys, []) proc).2.1.2 =
      [.ring net.iface (change rp)] := by
  have params : netGetRingparams net os.recorded (sys, []) proc = (.value rp, proc) := by
    unfold netGetRingparams netEthtoolGet
    rw [if_pos socket]
    exact GetM.bind_value (sysCall_ok (show os.recorded.getRing (sys, []) net.iface = .ok rp
      from answer))
  unfold setRing
  rw [if_neg (not_lt.mpr nonneg), SetM.bind_getting_value params]
  exact netEthtoolSet_recorded socket (change rp) proc

/-- A setter that is `setRing` keeps to the limits just where the rings fit. -/
theorem ring_within_iff
    (setter : LimitedSetter) {size : Int} {change : RingParams → RingParams} {caller : CStr}
    {most : RingParams → Nat}
    (sets : (setter.run : SetM (σ × List SetCall) Unit) = setRing net size change caller)
    (asks : setter.asked = size)
    (reported : setter.limits os sys = LimitedSetter.ringLimits os sys net most)
    (changes : ∀ rp, 0 ≤ size → (change rp).rxPending ≤ rp.rxMaxPending →
      (change rp).txPending ≤ rp.txMaxPending → size ≤ most rp) :
    StaysWithin os sys setter ↔ RingFits os sys net size change := by
  constructor
  · intro within nonneg socket rp answer
    refine within.carried freshProc (.ring net.iface (change rp)) ?_ rp answer
    rw [sets, setRing_sets nonneg socket answer change caller]
    exact List.mem_singleton.mpr rfl
  · intro fits
    refine staysWithin_of_failsOr ?_
    rw [sets]
    refine (setRing_failsOr net size change caller).mono ?_
    rintro reached ⟨rp, nonneg, socket, answer, logged⟩
    obtain ⟨rxFits, txFits⟩ := fits nonneg socket rp answer
    refine ⟨?_, _, logged, ?_⟩
    · rw [reported, asks, LimitedSetter.ringLimits, answer]
      refine ⟨fun low has => ?_, fun high has => ?_⟩
      · cases has
        exact nonneg
      · cases has
        exact changes rp nonneg rxFits txFits
    · intro other same
      rw [answer] at same
      cases same
      exact ⟨rxFits, txFits⟩

end Setters

theorem staysWithin_iff (os : Os σ) (sys : σ) (setter : LimitedSetter) :
    StaysWithin os sys setter ↔ setter.Plain os sys := by
  cases setter with
  | freqMin cpu hz => exact iff_of_true (freqMin_within cpu hz) trivial
  | freqMax cpu hz => exact iff_of_true (freqMax_within cpu hz) trivial
  | coolingState tz index state => exact iff_of_true (coolingState_within tz index state) trivial
  | ringRx net size =>
      refine ring_within_iff (.ringRx net size) rfl rfl rfl ?_
      intro rp nonneg rxFits _
      dsimp only at rxFits
      omega
  | ringTx net size =>
      refine ring_within_iff (.ringTx net size) rfl rfl rfl ?_
      intro rp nonneg _ txFits
      dsimp only at txFits
      omega

/-- An interface with rings of 256, and room for 4096. -/
def ringOs : Os RingParams :=
  { bareOs with
    getRing := fun rp _ => .ok rp
    setRing := fun rp _ asked =>
      if asked.rxPending ≤ rp.rxMaxPending ∧ asked.txPending ≤ rp.txMaxPending then (.ok (), asked)
      else (.error Errno.einval, rp) }

/-- A ring of 8192 is asked of an interface that reports 4096 as the most. -/
theorem setRing_beyond :
    ¬StaysWithin ringOs ⟨4096, 0, 0, 4096, 256, 0, 0, 256⟩ (.ringRx ⟨"eth0", true⟩ 8192) := by
  intro within
  have logged : (zenctlNetSetRingRx ⟨"eth0", true⟩ 8192 ringOs.recorded
      (⟨4096, 0, 0, 4096, 256, 0, 0, 256⟩, []) freshProc).2.1.2 =
        [.ring "eth0" ⟨4096, 0, 0, 4096, 8192, 0, 0, 256⟩] := by
    decide +kernel
  have carried := within.carried freshProc
  dsimp only [LimitedSetter.run] at carried
  rw [logged] at carried
  have small := (carried _ (List.mem_singleton.mpr rfl) _ rfl).1
  exact absurd small (by decide)

end Zenctl
