import Zenctl.SideBySide

namespace Zenctl

open CString RelationalLogic

/-!
# The shape of a command

A handler reads, prints, and at some point either previews a change or makes
it.  `Planned` says so of a handler as a family of programs over the JSON and
the dry-run flag: what is read does not depend on the flags, the dry-run flag
decides between a preview and the change, and the JSON flag decides what is
printed.  `Performs` says the same of the part behind the dry-run check.

What follows for all such families is proved here once, by induction on the
shape.
-/

variable {σ τ : Type}

/-- With and without JSON, the program only reads and prints, and ends with this status. -/
def Closes (program : Bool → CliM σ τ Int) (status : Int) : Prop :=
  ∀ json, ∃ closing : ReadM σ τ Int, program json = reading closing ∧ closing.Ends status

/-- The domain whose part of the library a setter belongs to. -/
def Update.domain : Update → CStr
  | .kvSet .. => []
  | .cpuSetGovernor .. | .cpuSetFreqMin .. | .cpuSetFreqMax .. | .cpuSetOnline ..
  | .cpuSetSmtActive .. | .cpuSetCstateDisable .. => "cpu"
  | .memSetNrHugepages .. | .memSetNrHugepagesSize .. | .memSetThp .. | .memSetSwappiness ..
  | .memSetOvercommit .. | .memSetVfsCachePressure .. => "mem"
  | .storageSetScheduler .. | .storageSetQueueDepth .. | .storageSetReadAhead ..
  | .storageSetCacheType .. | .storageSetPowerControl .. => "storage"
  | .netSetRingRx .. | .netSetRingTx .. | .netSetOffload .. | .netSetMtu ..
  | .netSetIrqAffinity .. => "net"
  | .pcieSetPowerControl .. | .pcieSetAspmPolicy .. | .pcieSetD3coldAllowed .. => "pcie"
  | .gpuSetFanAuto .. | .gpuSetFanPwm .. | .gpuAmdgpuSetPowerProfile ..
  | .gpuNvidiaSetPowerLimit .. | .gpuI915SetRc6 .. | .gpuI915SetRpsMin ..
  | .gpuI915SetRpsMax .. | .gpuI915SetRpsBoost .. => "gpu"
  | .thermalSetPolicy .. | .thermalSetMode .. | .thermalSetCoolingState ..
  | .thermalHwmonSetFanPwm .. | .thermalHwmonSetFanAuto .. => "thermal"
  | .powerSetMemSleepMode .. | .powerSetRuntimePm .. | .powerBatterySetChargeStart ..
  | .powerBatterySetChargeEnd .. | .powerSuspend .. | .powerSetWakeup .. => "power"
  | .usbSetPowerControl .. | .usbSetAutosuspendDelay .. | .usbSetAuthorized ..
  | .usbSetWakeup .. | .usbReset .. => "usb"
  | .btSetPowered .. | .btSetRfkillBlocked .. => "bt"
  | .wirelessSetRfkillBlocked .. | .wirelessSetRegdomain .. | .wirelessSetTxpower ..
  | .wirelessSetPowerSave .. => "wireless"
  | .fwEfiSet .. | .fwEfiDelete .. | .fwBiosSetSetting .. => "firmware"

/--
The setters that may fail after a change was made: the flags around an EFI
variable, the password around a BIOS setting, and the netlink commands, whose
reply may be lost.
-/
def Update.atomic : Update → Bool
  | .fwEfiSet .. | .fwEfiDelete .. => false
  | .fwBiosSetSetting _ _ password => password.getD [] = []
  | .wirelessSetRegdomain .. | .wirelessSetTxpower .. | .wirelessSetPowerSave .. => false
  | _ => true

/-- A setter of this domain; outside `firmware` it is atomic. -/
def PartOf (domain : CStr) (call : Update) : Prop :=
  call.domain = domain ∧ (domain = "firmware".toList ∨ call.atomic = true)

theorem PartOf.ite
    {domain : CStr} {condition : Prop} [Decidable condition] {first second : Update}
    (whenTrue : PartOf domain first) (whenFalse : PartOf domain second) :
    PartOf domain (if condition then first else second) := by
  split
  · exact whenTrue
  · exact whenFalse

/--
The part of a handler behind the dry-run check, over the JSON flag: which
setters it may call, and whether it may call more than one.
-/
inductive Performs (many : Prop) (only : Update → Prop) : (Bool → CliM σ τ Int) → Prop
  /-- It reads, prints and ends. -/
  | ends {program : Bool → ReadM σ τ Int}
      (agree : (program true).Agree (program false)) :
      Performs many only fun json => reading (program json)
  /-- It reads, and goes on by what it has read. -/
  | reads {α : Type} {front : Bool → ReadM σ τ α} {next : α → Bool → CliM σ τ Int}
      (inStep : (front true).InStep (front false))
      (rest : ∀ value, Performs many only (next value)) :
      Performs many only fun json => do next (← reading (front json)) json
  /-- It asks for confirmation, and goes on by the answer. -/
  | asks {what : CStr} {next : Bool → Bool → CliM σ τ Int}
      (rest : ∀ answer, Performs many only (next answer)) :
      Performs many only fun json => do next (← prompt what) json
  /-- It calls one setter and reports what became of it. -/
  | sets {call : Update} {next : Except Err Unit → Bool → CliM σ τ Int}
      (part : only call)
      (failed : ∀ err, ∃ status, status ≠ 0 ∧ Closes (next (.error err)) status)
      (done : Closes (next (.ok ())) 0) :
      Performs many only fun json => do next (← update call) json
  /-- It calls one setter on every CPU. -/
  | goesOver {bounds : Int × Int} {set : CpuHandle → Update} {done : CStr}
      (allowed : many)
      (part : ∀ cpu, only (set cpu)) :
      Performs many only fun json => cpuSetEach json bounds set done

/-- A handler over the JSON and the dry-run flag. -/
inductive Planned (many : Prop) (only : Update → Prop) : (Bool → Bool → CliM σ τ Int) → Prop
  /-- It reads, prints and ends, dry run or not. -/
  | ends {program : Bool → ReadM σ τ Int}
      (agree : (program true).Agree (program false)) :
      Planned many only fun json _ => reading (program json)
  /-- It reads, and goes on by what it has read. -/
  | reads {α : Type} {front : Bool → ReadM σ τ α} {next : α → Bool → Bool → CliM σ τ Int}
      (inStep : (front true).InStep (front false))
      (rest : ∀ value, Planned many only (next value)) :
      Planned many only fun json dryRun => do next (← reading (front json)) json dryRun
  /-- A dry run says what would be done; otherwise it is done. -/
  | previews {announcement : Bool → ReadM σ τ Int} {change : Bool → CliM σ τ Int}
      (announced : ∀ json, (announcement json).Ends 0)
      (performs : Performs many only change) :
      Planned many only fun json dryRun =>
        if dryRun then reading (announcement json) else change json

namespace Performs

variable {many condition : Prop} {only : Update → Prop} [Decidable condition]
  {first second : Bool → CliM σ τ Int}

theorem ite
    (whenTrue : condition → Performs many only first)
    (whenFalse : ¬condition → Performs many only second) :
    Performs many only fun json => if condition then first json else second json := by
  by_cases holds : condition
  · simpa only [holds, ↓reduceIte] using whenTrue holds
  · simpa only [holds, ↓reduceIte] using whenFalse holds

end Performs

namespace Planned

variable {many condition : Prop} {only : Update → Prop} [Decidable condition]
  {first second : Bool → Bool → CliM σ τ Int}

theorem ite
    (whenTrue : condition → Planned many only first)
    (whenFalse : ¬condition → Planned many only second) :
    Planned many only fun json dryRun =>
      if condition then first json dryRun else second json dryRun := by
  by_cases holds : condition
  · simpa only [holds, ↓reduceIte] using whenTrue holds
  · simpa only [holds, ↓reduceIte] using whenFalse holds

end Planned

/-! ## The JSON flag -/

/-- Programs that close alike have the same outcome. -/
theorem Closes.sameOutcome
    {program : Bool → CliM σ τ Int} {status : Int} (closes : Closes program status) :
    (program true).SameOutcome (program false) := by
  obtain ⟨left, shapeLeft, endsLeft⟩ := closes true
  obtain ⟨right, shapeRight, endsRight⟩ := closes false
  rw [shapeLeft, shapeRight]
  exact .reading (.ofEnds endsLeft endsRight)

theorem cpuApply_inStep (set : CpuHandle → Update) (c : Int) :
    (cpuApply set c : CliM σ τ _).InStep (cpuApply set c) := by
  refine .bind (.reading (.query _)) fun answer => ?_
  cases answer with
  | error err =>
      exact .pure _
  | ok cpu =>
      exact .bind (.update _) fun _ => .pure _

theorem Performs.sameOutcome
    {many : Prop} {only : Update → Prop} {program : Bool → CliM σ τ Int}
    (performs : Performs many only program) :
    (program true).SameOutcome (program false) := by
  induction performs with
  | ends agree =>
      exact .reading agree
  | reads inStep rest inductionHypothesis =>
      exact .bind (.reading inStep) inductionHypothesis
  | asks rest inductionHypothesis =>
      exact .bind (.prompt _) inductionHypothesis
  | sets part failed done =>
      refine .bind (.update _) fun answer => ?_
      cases answer with
      | error err =>
          obtain ⟨status, _, closes⟩ := failed err
          exact closes.sameOutcome
      | ok result =>
          exact done.sameOutcome
  | goesOver allowed part =>
      exact .bind (.collectCli (cpuApply_inStep _) _) fun _ => .thenPure _

/-- The JSON flag decides only what is printed. -/
theorem Planned.sameOutcome
    {many : Prop} {only : Update → Prop} {program : Bool → Bool → CliM σ τ Int}
    (planned : Planned many only program)
    (dryRun : Bool) :
    (program true dryRun).SameOutcome (program false dryRun) := by
  induction planned with
  | ends agree =>
      exact .reading agree
  | reads inStep rest inductionHypothesis =>
      exact .bind (.reading inStep) inductionHypothesis
  | previews announced performs =>
      cases dryRun with
      | true =>
          exact .reading (.ofEnds (announced true) (announced false))
      | false =>
          exact performs.sameOutcome

/-! ## The dry-run flag -/

/-- Nothing was changed on the way: the same system, and no step that changes files or devices. -/
def Untouched (process later : Process σ τ) : Prop :=
  later.sys = process.sys ∧
    later.steps.filter Step.changesState = process.steps.filter Step.changesState

theorem reading_untouched {α : Type} (program : ReadM σ τ α) (ctx : Ctx σ τ)
    (process : Process σ τ) :
    Untouched process (reading program ctx process).2 :=
  ⟨rfl, rfl⟩

/-- The command refuses as well, and for root it says the same. -/
structure RefusesAlike (preview command : CliM σ τ Int) (ctx : Ctx σ τ) (process : Process σ τ) :
    Prop where
  refused : (command ctx process).1 ≠ 0
  untouched : Untouched process (command ctx process).2
  alike : ctx.env.euid = 0 → command ctx process = preview ctx process

/-- What the preview refuses, the command refuses. -/
def Foretells (preview command : CliM σ τ Int) : Prop :=
  ∀ ctx process, (preview ctx process).1 ≠ 0 → RefusesAlike preview command ctx process

/-- A program that only reads is its own preview. -/
theorem Foretells.itself (program : ReadM σ τ Int) :
    Foretells (reading program) (reading program) :=
  fun ctx process refused => ⟨refused, reading_untouched program ctx process, fun _ => rfl⟩

/-- A preview that is always accepted has nothing to answer for. -/
theorem Foretells.ofAccepted
    {preview : CliM σ τ Int} (accepted : ∀ ctx process, (preview ctx process).1 = 0)
    (command : CliM σ τ Int) :
    Foretells preview command :=
  fun ctx process refused => absurd (accepted ctx process) refused

/-- Both read the same first. -/
theorem Foretells.afterReading
    {α : Type} {front : ReadM σ τ α} {preview command : α → CliM σ τ Int}
    (rest : ∀ value, Foretells (preview value) (command value)) :
    Foretells (reading front >>= preview) (reading front >>= command) := by
  intro ctx process refused
  have alike := rest _ ctx _ refused
  exact ⟨alike.refused, ⟨alike.untouched.1, alike.untouched.2⟩, alike.alike⟩

theorem Planned.foretells
    {many : Prop} {only : Update → Prop} {program : Bool → Bool → CliM σ τ Int}
    (planned : Planned many only program)
    (json : Bool) :
    Foretells (program json true) (program json false) := by
  induction planned with
  | ends agree =>
      exact .itself _
  | reads inStep rest inductionHypothesis =>
      exact .afterReading inductionHypothesis
  | previews announced performs =>
      exact .ofAccepted (fun ctx process => announced json ctx process.sys process.console) _

end Zenctl
