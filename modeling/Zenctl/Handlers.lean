import Zenctl.Guards

namespace Zenctl

open CString ProgramLogic

/-!
# The handlers obey their guards

One lemma for each domain: whatever its arguments, the handler takes permitted
steps only.  A handler whose setters stand behind `cli_require_root` needs no
privilege from its caller; the others are given it by the root check of `main`,
which recognises the verb `set`.
-/

variable {σ τ : Type} {g : Guards} {ctx : Ctx σ τ}

/-! ## CPU -/

/-- The loop over the CPUs makes one setter call after the other. -/
theorem cpuSetEach_obeys
    {set : CpuHandle → Update} {json : Bool} {bounds : Int × Int} {done : CStr}
    (permitted : ∀ cpu earlier, g.Permits earlier (.update (set cpu))) :
    Obeys g ctx (cpuSetEach json bounds set done) := by
  have each : ∀ c, Obeys g ctx (cpuApply set c) := by
    intro c
    refine .bind (.reading _) fun answer => ?_
    cases answer with
    | error err =>
        exact .pure _
    | ok cpu =>
        exact .bind (.update (permitted cpu)) fun _ => .pure _
  exact .bind (.collectCli each _) fun _ => .bind (.reading _) fun _ => .pure _

/-- The governor is written after the dry run has returned. -/
theorem cpuSetGovernor_obeys
    (privileged : g.privileged) (args : List CStr) (json : Bool) :
    Obeys g ctx (cpuSetGovernor args json g.dryRun) := by
  unfold cpuSetGovernor
  split
  · exact .reading _
  · refine .ite (fun _ => .reading _) fun _ => .bind (.reading _) fun _ => ?_
    refine .ite (fun _ => .reading _) fun applied => ?_
    exact cpuSetEach_obeys fun _ => .ofPlain (by simpa using applied) privileged rfl

/-- Both limits are written in the same way. -/
theorem cpuSetFreq_obeys
    (privileged : g.privileged) (args : List CStr) (json isMax : Bool) :
    Obeys g ctx (cpuSetFreq args json g.dryRun isMax) := by
  refine .bind (.reading _) fun env => ?_
  split
  · exact .reading _
  split
  · exact .reading _
  · refine .ite (fun _ => .reading _) fun _ => .bind (.reading _) fun _ => ?_
    refine .ite (fun _ => .reading _) fun applied => ?_
    refine cpuSetEach_obeys fun _ => .ofPlain (by simpa using applied) privileged ?_
    cases isMax <;> rfl

/-- What is known after `ask_confirm` has answered. -/
theorem askConfirm_moves (what : CStr) :
    Moves (Move g) (fun _ => True) (askConfirm what g.confirm ctx)
      (fun answer (process : Process σ τ) =>
        answer = true → g.confirm = true ∨ Prompted process.steps) := by
  intro process _
  unfold askConfirm
  split
  · next confirmed =>
      exact ⟨.refl, fun _ => .inl confirmed⟩
  · refine ⟨(Obeys.prompt what).reaches process, fun answered => .inr ⟨what, ?_⟩⟩
    have recorded : isYes ctx.env.stdinLine = true := answered
    simp [prompt, recorded]

/-- One setter on an opened CPU, permitted by what is known before. -/
theorem cpuSetOne_moves
    {set : CpuHandle → Update} {json : Bool} {c : Int} {noOpen fallback document : CStr}
    {lines : ReadM σ τ Unit} {known : List Step → Prop}
    (permitted : ∀ cpu earlier, known earlier → g.Permits earlier (.update (set cpu))) :
    Moves (Move g) (fun process => known process.steps)
      (cpuSetOne json c noOpen fallback set document lines ctx) (fun _ _ => True) := by
  refine bind_moves (reading_moves known _) fun answer => ?_
  cases answer with
  | error err =>
      exact (Obeys.reading _).from _
  | ok cpu =>
      refine bind_moves (update_moves (permitted cpu)) fun result => ?_
      cases result with
      | error err =>
          exact (Obeys.reading _).from _
      | ok done =>
          exact (Obeys.reading _).from _

/-- The same where the setter is permitted whatever went before. -/
theorem cpuSetOne_obeys
    {set : CpuHandle → Update} {json : Bool} {c : Int} {noOpen fallback document : CStr}
    {lines : ReadM σ τ Unit}
    (permitted : ∀ cpu earlier, g.Permits earlier (.update (set cpu))) :
    Obeys g ctx (cpuSetOne json c noOpen fallback set document lines) :=
  cpuSetOne_moves fun cpu earlier (_ : True) => permitted cpu earlier

/-- After a yes every setter is permitted. -/
theorem permittedAfter
    {set : CpuHandle → Update}
    (applied : g.dryRun = false) (privileged : g.privileged)
    (cpu : CpuHandle) (earlier : List Step)
    (answered : g.confirm = true ∨ Prompted earlier) :
    g.Permits earlier (.update (set cpu)) where
  applied _ := .inl applied
  privileged _ := privileged
  confirmed _ := answered.imp id .inl

/-- Switching on is not destructive; switching off is done after a yes only. -/
theorem confirmedSet_obeys
    {set : CpuHandle → Update} {json on : Bool} {c : Int} {what noOpen fallback document : CStr}
    {lines : ReadM σ τ Unit}
    (applied : g.dryRun = false) (privileged : g.privileged)
    (plain : on = true → ∀ cpu, (set cpu).destructive = false) :
    Obeys g ctx (do
      let allowed ← if on then pure true else askConfirm what g.confirm
      if allowed then cpuSetOne json c noOpen fallback set document lines
      else reading (cancelled json)) := by
  cases on with
  | true =>
      exact .bind (.pure _) fun _ => .ite
        (fun _ => cpuSetOne_obeys fun cpu => .ofPlain applied privileged (plain rfl cpu))
        fun _ => .reading _
  | false =>
      simp only [Bool.false_eq_true, ↓reduceIte]
      refine .ofMoves (bind_moves (askConfirm_moves what) fun allowed => ?_)
      cases allowed with
      | false =>
          exact (Obeys.reading _).from _
      | true =>
          intro process answered
          exact cpuSetOne_moves (permittedAfter applied privileged) process (answered rfl)

/-- Taking a CPU offline asks first, bringing it back does not. -/
theorem cpuSetOnline_obeys
    (privileged : g.privileged) (args : List CStr) (json : Bool) :
    Obeys g ctx (cpuSetOnline args json g.dryRun g.confirm) := by
  unfold cpuSetOnline
  split
  · exact .reading _
  split
  · exact .reading _
  · refine .ite (fun _ => .reading _) fun _ => .ite (fun _ => .reading _) fun _ => ?_
    refine .ite (fun _ => .reading _) fun applied => ?_
    exact confirmedSet_obeys (by simpa using applied) privileged fun on cpu => by rw [on]; rfl

/-- Switching the threads off asks first. -/
theorem cpuSetSmt_obeys
    (privileged : g.privileged) (args : List CStr) (json : Bool) :
    Obeys g ctx (cpuSetSmt args json g.dryRun g.confirm) := by
  unfold cpuSetSmt
  split
  · exact .reading _
  split
  · exact .reading _
  · refine .ite (fun _ => .reading _) fun applied => ?_
    exact confirmedSet_obeys (by simpa using applied) privileged fun on cpu => by rw [on]; rfl

/-- An idle state may be disabled without asking. -/
theorem cpuSetCstate_obeys
    (privileged : g.privileged) (args : List CStr) (json : Bool) :
    Obeys g ctx (cpuSetCstate args json g.dryRun) := by
  unfold cpuSetCstate
  split
  · split
    · exact .reading _
    · refine .ite (fun _ => .reading _) fun _ => .ite (fun _ => .reading _) fun _ => ?_
      refine .ite (fun _ => .reading _) fun applied => ?_
      exact cpuSetOne_obeys fun _ => .ofPlain (by simpa using applied) privileged rfl
  · exact .reading _

/-- The verbs the root check of `main` lets through only for root. -/
def writeVerb (args : List CStr) : Prop :=
  subcommandNeedsRoot args.head? = true

/-- `set` is the only verb of `cpu` that writes, and the root check of `main` knows it. -/
theorem cmdCpu_obeys
    (args : List CStr) (json : Bool)
    (privileged : writeVerb args → g.privileged) :
    Obeys g ctx (cmdCpu args json g.dryRun g.confirm) := by
  unfold cmdCpu
  split
  · exact .reading _
  · refine .ite (fun get => .reading _) fun other => ?_
    refine .ite (fun set => ?_) fun unknown => .reading _
    have allowed := privileged (by rw [set]; rfl)
    unfold cmdCpuSet
    split
    · exact .reading _
    · refine .ite (fun governor => cpuSetGovernor_obeys allowed _ _) fun other => ?_
      refine .ite (fun freqMin => cpuSetFreq_obeys allowed _ _ _) fun other => ?_
      refine .ite (fun freqMax => cpuSetFreq_obeys allowed _ _ _) fun other => ?_
      refine .ite (fun online => cpuSetOnline_obeys allowed _ _) fun other => ?_
      refine .ite (fun smt => cpuSetSmt_obeys allowed _ _) fun other => ?_
      exact .ite (fun cstate => cpuSetCstate_obeys allowed _ _) fun unknown => .reading _

/-! ## Memory, storage, network, PCI -/

/-- The plan of a dry run, or the setter. -/
theorem memSet_obeys
    {json : Bool} {action key line fallback : CStr} {value : Field} {call : Update}
    {lines : ReadM σ τ Unit}
    (privileged : g.privileged) (plain : call.destructive = false) :
    Obeys g ctx (memSet json g.dryRun action key value line call fallback lines) := by
  refine .ite (fun _ => .reading _) fun applied => ?_
  exact setOr_obeys (.ofPlain (by simpa using applied) privileged plain)

/-- The four targets of `mem set`. -/
theorem cmdMemSet_obeys
    (privileged : g.privileged) (args : List CStr) (json : Bool) :
    Obeys g ctx (cmdMemSet args json g.dryRun) := by
  unfold cmdMemSet
  split
  · exact .reading _
  -- every target reads a value, parses it, and ends in `memSet`
  · refine .ite (fun hugepages => ?_) fun other => ?_
    · unfold memSetHugepages
      split <;> [exact .reading _; split <;>
        [exact .reading _; exact memSet_obeys privileged rfl]]
    refine .ite (fun thp => ?_) fun other => ?_
    · unfold memSetThp
      split <;> [exact .reading _; split <;>
        [exact .reading _; exact memSet_obeys privileged rfl]]
    refine .ite (fun swappiness => ?_) fun other => ?_
    · unfold memSetSwappiness
      split <;> [exact .reading _; split <;>
        [exact .reading _; exact memSet_obeys privileged rfl]]
    refine .ite (fun overcommit => ?_) fun unknown => .reading _
    · unfold memSetOvercommit
      split <;> [exact .reading _; split <;>
        [exact .reading _; exact memSet_obeys privileged rfl]]

/-- `set` is the only verb of `mem` that writes. -/
theorem cmdMem_obeys
    (args : List CStr) (json : Bool)
    (privileged : writeVerb args → g.privileged) :
    Obeys g ctx (cmdMem args json g.dryRun) := by
  unfold cmdMem
  split
  · exact .reading _
  · refine .ite (fun get => .reading _) fun other => ?_
    refine .ite (fun set => ?_) fun unknown => .reading _
    exact cmdMemSet_obeys (privileged (by rw [set]; rfl)) _ _

/-- A device writer whose setter is not destructive. -/
theorem writePlain_obeys
    {H : Type} {openCall : Query H} {noOpen wouldDo fallback : CStr} {json : Bool}
    {announced done : List Field} {lines : ReadM σ τ Unit} {call : H → Update}
    (privileged : g.privileged) (plain : ∀ handle, (call handle).destructive = false) :
    Obeys g ctx (writeDevice openCall noOpen json g.dryRun announced done wouldDo call fallback
      lines) :=
  writeDevice_obeys fun applied handle => .ofPlain applied privileged (plain handle)

/-- The four targets of `storage set`. -/
theorem cmdStorageSet_obeys
    (privileged : g.privileged) (args : List CStr) (json : Bool) :
    Obeys g ctx (cmdStorageSet args json g.dryRun) := by
  unfold cmdStorageSet
  split
  · exact .reading _
  · refine .ite (fun scheduler => ?_) fun other => ?_
    · unfold stSetScheduler
      split <;> [exact .reading _; split <;>
        [exact .reading _; exact writePlain_obeys privileged fun _ => rfl]]
    refine .ite (fun readAhead => ?_) fun other => ?_
    · unfold stSetReadAhead
      split <;> [exact .reading _; split <;> [exact .reading _; split <;>
        [exact .reading _; exact writePlain_obeys privileged fun _ => rfl]]]
    refine .ite (fun cacheType => ?_) fun other => ?_
    · unfold stSetCacheType
      split <;> [exact .reading _; split <;> [exact .reading _; split <;>
        [exact .reading _; exact writePlain_obeys privileged fun _ => rfl]]]
    refine .ite (fun power => ?_) fun unknown => .reading _
    · unfold stSetPower
      split <;> [exact .reading _; split <;> [exact .reading _; split <;>
        [exact .reading _; exact writePlain_obeys privileged fun _ => rfl]]]

/-- `set` is the only verb of `storage` that writes. -/
theorem cmdStorage_obeys
    (args : List CStr) (json : Bool)
    (privileged : writeVerb args → g.privileged) :
    Obeys g ctx (cmdStorage args json g.dryRun) := by
  unfold cmdStorage
  split
  · exact .reading _
  · refine .ite (fun list => .reading _) fun other => ?_
    refine .ite (fun get => .reading _) fun other => ?_
    refine .ite (fun set => ?_) fun unknown => .reading _
    exact cmdStorageSet_obeys (privileged (by rw [set]; rfl)) _ _

/-- The features are asked for once the interface is open, then written. -/
theorem netSetOffload_obeys
    (privileged : g.privileged) (args : List CStr) (json : Bool) :
    Obeys g ctx (netSetOffload args json g.dryRun) := by
  unfold netSetOffload
  split
  · exact .reading _
  split
  · refine .ite (fun _ => .reading _) fun _ => .ite (fun _ => .reading _) fun applied => ?_
    refine .bind (.reading _) fun answer => ?_
    cases answer with
    | error err =>
        exact .reading _
    | ok net =>
        dsimp only
        split
        · exact .reading _
        · exact setOr_obeys (.ofPlain (by simpa using applied) privileged rfl)
  · exact .reading _

/-- The four targets of `net set`. -/
theorem cmdNetSet_obeys
    (privileged : g.privileged) (args : List CStr) (json : Bool) :
    Obeys g ctx (cmdNetSet args json g.dryRun) := by
  unfold cmdNetSet
  split
  · exact .reading _
  · refine .ite (fun ring => ?_) fun other => ?_
    · unfold netSetRing
      split <;> [exact .reading _; split <;> [exact .reading _; split <;> [exact .reading _; skip]]]
      refine writePlain_obeys privileged fun net => ?_
      split <;> rfl
    refine .ite (fun offload => netSetOffload_obeys privileged _ _) fun other => ?_
    refine .ite (fun mtu => ?_) fun other => ?_
    · unfold netSetMtu
      split <;> [exact .reading _; split <;> [exact .reading _; split <;>
        [exact .reading _; exact writePlain_obeys privileged fun _ => rfl]]]
    refine .ite (fun irqAffinity => ?_) fun unknown => .reading _
    · unfold netSetIrqAffinity
      split <;> [exact .reading _; split <;>
        [exact .reading _; exact writePlain_obeys privileged fun _ => rfl]]

/-- `set` is the only verb of `net` that writes. -/
theorem cmdNet_obeys
    (args : List CStr) (json : Bool)
    (privileged : writeVerb args → g.privileged) :
    Obeys g ctx (cmdNet args json g.dryRun) := by
  unfold cmdNet
  split
  · exact .reading _
  · refine .ite (fun list => .reading _) fun other => ?_
    refine .ite (fun get => .reading _) fun other => ?_
    refine .ite (fun set => ?_) fun unknown => .reading _
    exact cmdNetSet_obeys (privileged (by rw [set]; rfl)) _ _

/-- `set power` is the only writer of `pcie`. -/
theorem cmdPcie_obeys
    (args : List CStr) (json : Bool)
    (privileged : writeVerb args → g.privileged) :
    Obeys g ctx (cmdPcie args json g.dryRun) := by
  unfold cmdPcie
  split
  · exact .reading _
  · refine .ite (fun list => .reading _) fun other => ?_
    refine .ite (fun get => .reading _) fun other => ?_
    refine .ite (fun set => ?_) fun unknown => .reading _
    have allowed := privileged (by rw [set]; rfl)
    unfold cmdPcieSet pcieSetPower
    split
    · exact .reading _
    · refine .ite (fun power => ?_) fun unknown => .reading _
      split <;> [exact .reading _; split <;> [exact .reading _; split <;>
        [exact .reading _; exact writePlain_obeys allowed fun _ => rfl]]]

/-! ## Handlers that check for root themselves -/

variable (root : ctx.env.euid = 0 → g.privileged)
include root

/-- A setter of the `cli_err` handlers that is not destructive. -/
theorem setPlain_obeys
    {json : Bool} {document : CStr} {lines : ReadM σ τ Unit} {call : Update}
    (euid : ctx.env.euid = 0) (applied : ¬g.dryRun = true) (plain : call.destructive = false) :
    Obeys g ctx (setOrErr json call document lines) :=
  setOrErr_obeys (.ofPlain (by simpa using applied) (root euid) plain)

/-- The root check of the handler comes before the card is opened. -/
theorem gpuSet_obeys (args : List CStr) (json : Bool) :
    Obeys g ctx (gpuSet args json g.dryRun) := by
  unfold gpuSet
  split
  · refine asRoot_obeys fun euid => openOrErr_obeys fun handle => ?_
    refine .ite (fun fan => ?_) fun other => ?_
    · unfold gpuSetFan
      refine .ite (fun auto => ?_) fun percent => ?_
      · refine .ite (fun dry => .reading _) fun applied => ?_
        exact setPlain_obeys root euid applied rfl
      split
      · exact .reading _
      · refine .ite (fun dry => .reading _) fun applied => ?_
        exact setPlain_obeys root euid applied rfl
    refine .ite (fun powerProfile => ?_) fun unknown => .reading _
    refine .ite (fun dry => .reading _) fun applied => ?_
    exact setPlain_obeys root euid applied rfl
  · exact .reading _

/-- `set` is the only verb of `gpu` that writes. -/
theorem cmdGpu_obeys (args : List CStr) (json : Bool) :
    Obeys g ctx (cmdGpu args json g.dryRun) := by
  unfold cmdGpu
  split
  · exact .reading _
  · refine .ite (fun list => .reading _) fun other => ?_
    refine .ite (fun get => .reading _) fun other => ?_
    exact .ite (fun set => gpuSet_obeys root _ _) fun unknown => .reading _

/-- Reading a fan needs no root, setting it does. -/
theorem thermalHwmon_obeys (args : List CStr) (json : Bool) :
    Obeys g ctx (thermalHwmon args json g.dryRun) := by
  unfold thermalHwmon thermalHwmonFan hwmonSetFan
  split
  · exact .reading _
  refine .ite (fun fan => ?_) fun unknown => .reading _
  split
  · split
    · exact .reading _
    split
    · refine asRoot_obeys fun euid => ?_
      split
      · exact .reading _
      · refine .ite (fun dry => .reading _) fun applied => ?_
        exact setPlain_obeys root euid applied rfl
    · exact .reading _
  · exact .reading _

/-- The root check of the handler comes before the zone is opened. -/
theorem thermalSet_obeys (args : List CStr) (json : Bool) :
    Obeys g ctx (thermalSet args json g.dryRun) := by
  unfold thermalSet
  split
  · split
    · exact .reading _
    refine asRoot_obeys fun euid => openOrErr_obeys fun tz => ?_
    refine .ite (fun policy => ?_) fun other => ?_
    · refine .ite (fun dry => .reading _) fun applied => ?_
      exact setPlain_obeys root euid applied rfl
    refine .ite (fun mode => ?_) fun other => ?_
    · unfold thermalSetMode
      split
      · exact .reading _
      · refine .ite (fun dry => .reading _) fun applied => ?_
        exact setPlain_obeys root euid applied rfl
    refine .ite (fun cooling => ?_) fun unknown => .reading _
    split
    · unfold thermalSetCooling
      split
      · exact .reading _
      · refine .ite (fun dry => .reading _) fun applied => ?_
        exact setPlain_obeys root euid applied rfl
    · exact .reading _
  · exact .reading _

/-- Two verbs of `thermal` write. -/
theorem cmdThermal_obeys (args : List CStr) (json : Bool) :
    Obeys g ctx (cmdThermal args json g.dryRun) := by
  unfold cmdThermal
  split
  · exact .reading _
  · refine .ite (fun list => .reading _) fun other => ?_
    refine .ite (fun hwmon => thermalHwmon_obeys root _ _) fun other => ?_
    refine .ite (fun get => .reading _) fun other => ?_
    exact .ite (fun set => thermalSet_obeys root _ _) fun unknown => .reading _

/-- The sleep mode and the two thresholds of a battery. -/
theorem powerSet_obeys (args : List CStr) (json : Bool) :
    Obeys g ctx (powerSet args json g.dryRun) := by
  have charge : ∀ isStart, Obeys g ctx (powerSetCharge args json g.dryRun isStart) := by
    intro isStart
    unfold powerSetCharge
    split
    · split
      · exact .reading _
      · refine asRoot_obeys fun euid => .ite (fun dry => .reading _) fun applied => ?_
        refine setPlain_obeys root euid applied ?_
        cases isStart <;> rfl
    · exact .reading _
  have memSleep : Obeys g ctx (powerSetMemSleep args json g.dryRun) := by
    unfold powerSetMemSleep
    split
    · refine asRoot_obeys fun euid => .ite (fun dry => .reading _) fun applied => ?_
      exact setPlain_obeys root euid applied rfl
    · exact .reading _
  unfold powerSet
  split
  · exact .reading _
  · refine .ite (fun memSleepMode => memSleep) fun other => ?_
    refine .ite (fun chargeStart => charge _) fun other => ?_
    exact .ite (fun chargeEnd => charge _) fun unknown => .reading _

/-- A suspend is refused before anything else without `--confirm`. -/
theorem powerSuspend_obeys (args : List CStr) (json : Bool) :
    Obeys g ctx (powerSuspend args json g.dryRun g.confirm) := by
  unfold powerSuspend
  split
  · exact .reading _
  split
  · exact .reading _
  · refine .ite (fun unconfirmed => .reading _) fun confirmed => asRoot_obeys fun euid => ?_
    refine .ite (fun dry => .reading _) fun applied => setOrErr_obeys ?_
    exact .ofConfirmed (by simpa using applied) (root euid) (by simpa using confirmed)

/-- Two verbs of `power` write. -/
theorem cmdPower_obeys (args : List CStr) (json : Bool) :
    Obeys g ctx (cmdPower args json g.dryRun g.confirm) := by
  unfold cmdPower
  split
  · exact .reading _
  · refine .ite (fun get => .reading _) fun other => ?_
    refine .ite (fun set => powerSet_obeys root _ _) fun other => ?_
    exact .ite (fun suspend => powerSuspend_obeys root _ _) fun unknown => .reading _

/-- The plan of a dry run, or the setter on the opened device. -/
theorem usbWrite_obeys
    {json : Bool} {dev wouldDo : CStr} {call : UsbHandle → Update} {done : List Field}
    {lines : ReadM σ τ Unit}
    (euid : ctx.env.euid = 0) (plain : ∀ u, (call u).destructive = false) :
    Obeys g ctx (usbWrite dev json g.dryRun wouldDo call done lines) :=
  .ite (fun _ => .reading _) fun applied => openOrErr_obeys fun u =>
    setPlain_obeys root euid applied (plain u)

/-- Deauthorising a device is destructive, authorising it is not. -/
theorem usbSetAuthorized_obeys (args : List CStr) (json : Bool) :
    Obeys g ctx (usbSetAuthorized args json g.dryRun g.confirm) := by
  unfold usbSetAuthorized
  split
  · split
    · exact .reading _
    · next on _ =>
        refine asRoot_obeys fun euid => .ite (fun unconfirmed => .reading _) fun answered => ?_
        cases on with
        | true =>
            exact usbWrite_obeys root euid fun _ => rfl
        | false =>
            have confirmed : g.confirm = true := by simpa using answered
            refine .ite (fun dry => .reading _) fun applied => openOrErr_obeys fun u => ?_
            exact setOrErr_obeys (.ofConfirmed (by simpa using applied) (root euid) confirmed)
  · exact .reading _

/-- The four targets of `usb set`. -/
theorem usbSet_obeys (args : List CStr) (json : Bool) :
    Obeys g ctx (usbSet args json g.dryRun g.confirm) := by
  unfold usbSet
  split
  · exact .reading _
  · refine .ite (fun power => ?_) fun other => ?_
    · unfold usbSetPower
      split
      · refine .ite (fun badWord => .reading _) fun goodWord => asRoot_obeys fun euid => ?_
        exact usbWrite_obeys root euid fun _ => rfl
      · exact .reading _
    refine .ite (fun autosuspend => ?_) fun other => ?_
    · unfold usbSetAutosuspend
      split
      · split
        · exact .reading _
        · exact asRoot_obeys fun euid => usbWrite_obeys root euid fun _ => rfl
      · exact .reading _
    refine .ite (fun authorized => usbSetAuthorized_obeys root _ _) fun other => ?_
    refine .ite (fun wakeup => ?_) fun unknown => .reading _
    · unfold usbSetWakeup
      split
      · split
        · exact .reading _
        · exact asRoot_obeys fun euid => usbWrite_obeys root euid fun _ => rfl
      · exact .reading _

/-- Two verbs of `usb` write. -/
theorem cmdUsb_obeys (args : List CStr) (json : Bool) :
    Obeys g ctx (cmdUsb args json g.dryRun g.confirm) := by
  unfold cmdUsb
  split
  · exact .reading _
  · refine .ite (fun list => .reading _) fun other => ?_
    refine .ite (fun get => .reading _) fun other => ?_
    refine .ite (fun set => usbSet_obeys root _ _) fun other => ?_
    refine .ite (fun reset => ?_) fun unknown => .reading _
    unfold usbReset
    split
    · exact .reading _
    · exact asRoot_obeys fun euid => usbWrite_obeys root euid fun _ => rfl

/-- The one writer of `bt` and of `wireless`. -/
theorem radioSetPower_obeys
    {H : Type} {json : Bool} {usage context key : CStr} {openCall : CStr → Query H}
    {call : H → Bool → Update}
    (args : List CStr) (plain : ∀ handle on, (call handle on).destructive = false) :
    Obeys g ctx (radioSetPower args json g.dryRun usage context key openCall call) := by
  unfold radioSetPower
  split
  · refine .ite (fun otherTarget => .reading _) fun power => ?_
    split
    · exact .reading _
    · refine asRoot_obeys fun euid => openOrErr_obeys fun handle => ?_
      refine .ite (fun dry => .reading _) fun applied => ?_
      exact setPlain_obeys root euid applied (plain _ _)
  · exact .reading _

/-- `set power` is the only writer of `bt`. -/
theorem cmdBt_obeys (args : List CStr) (json : Bool) :
    Obeys g ctx (cmdBt args json g.dryRun) := by
  unfold cmdBt
  split
  · exact .reading _
  · refine .ite (fun list => .reading _) fun other => ?_
    refine .ite (fun get => .reading _) fun other => ?_
    exact .ite (fun set => radioSetPower_obeys root _ fun _ _ => rfl) fun unknown => .reading _

/-- `set power` is the only writer of `wireless`. -/
theorem cmdWireless_obeys (args : List CStr) (json : Bool) :
    Obeys g ctx (cmdWireless args json g.dryRun) := by
  unfold cmdWireless
  split
  · exact .reading _
  · refine .ite (fun list => .reading _) fun other => ?_
    refine .ite (fun get => .reading _) fun other => ?_
    exact .ite (fun set => radioSetPower_obeys root _ fun _ _ => rfl) fun unknown => .reading _

/-! ## Firmware -/

/-- The variable is written without asking, so the guards have to name it. -/
theorem fwEfiSet_obeys
    (args : List CStr) (json : Bool)
    (writing : g.confirm = true ∨ g.writesEfi) :
    Obeys g ctx (fwEfiSet args json g.dryRun) := by
  unfold fwEfiSet
  split
  · refine asRoot_obeys fun euid => .bind (.reading _) fun payload => ?_
    cases payload with
    | error err =>
        exact .reading _
    | ok data =>
        refine .ite (fun dry => .reading _) fun applied => setOrErr_obeys fun earlier => ?_
        exact
          { applied := fun _ => .inl (by simpa using applied)
            privileged := fun _ => root euid
            confirmed := fun _ => writing.imp id .inr }
  · exact .reading _

/-- A variable is deleted with `--confirm` only. -/
theorem fwEfiDelete_obeys (args : List CStr) (json : Bool) :
    Obeys g ctx (fwEfiDelete args json g.dryRun g.confirm) := by
  unfold fwEfiDelete
  split
  · refine asRoot_obeys fun euid => .ite (fun unconfirmed => .reading _) fun confirmed => ?_
    refine .ite (fun dry => .reading _) fun applied => setOrErr_obeys ?_
    exact .ofConfirmed (by simpa using applied) (root euid) (by simpa using confirmed)
  · exact .reading _

/-- A setting of the BIOS is written without asking. -/
theorem fwBios_obeys (args : List CStr) (json : Bool) :
    Obeys g ctx (fwBios args json g.dryRun) := by
  unfold fwBios
  split
  · exact .reading _
  · refine .ite (fun list => .reading _) fun other => ?_
    refine .ite (fun get => .reading _) fun other => ?_
    refine .ite (fun set => ?_) fun unknown => .reading _
    unfold fwBiosSet
    split
    · refine asRoot_obeys fun euid => .ite (fun dry => .reading _) fun applied => ?_
      exact setPlain_obeys root euid applied rfl
    · exact .reading _

/-- The arguments of `firmware` that lead to `fw_efi_set`. -/
def writesEfiArgs : List CStr → Prop
  | sub :: verb :: _ => sub = "efi" ∧ verb = "set"
  | _ => False

/-- Two of the subdomains write. -/
theorem cmdFirmware_obeys
    (args : List CStr) (json : Bool)
    (writing : writesEfiArgs args → g.confirm = true ∨ g.writesEfi) :
    Obeys g ctx (cmdFirmware args json g.dryRun g.confirm) := by
  unfold cmdFirmware
  split
  · exact .reading _
  · refine .ite (fun dmi => .reading _) fun other => ?_
    refine .ite (fun efi => ?_) fun other => ?_
    · unfold fwEfi
      split
      · exact .reading _
      · refine .ite (fun list => .reading _) fun other => ?_
        refine .ite (fun get => .reading _) fun other => ?_
        refine .ite (fun set => fwEfiSet_obeys root _ _ (writing ⟨efi, set⟩)) fun other => ?_
        exact .ite (fun delete => fwEfiDelete_obeys root _ _) fun unknown => .reading _
    refine .ite (fun acpi => .reading _) fun other => ?_
    exact .ite (fun bios => fwBios_obeys root _ _) fun unknown => .reading _

omit root

/-! ## Profiles -/

/-- The directories are made one after the other. -/
theorem mkpath_obeys
    (applied : g.dryRun = false) (privileged : g.privileged) (dir : CStr) :
    Obeys g ctx (mkpath dir) := by
  have each : ∀ dirs, Obeys g ctx (mkdirAll dirs : CliM σ τ Unit) := by
    intro dirs
    induction dirs with
    | nil =>
        exact .pure _
    | cons first rest inductionHypothesis =>
        exact .bind (.mkdir (.ofPlain applied privileged rfl)) fun _ =>
          .ite (fun _ => inductionHypothesis) fun _ => .pure _
  exact each _

/-- A dry run prints the profile and touches nothing. -/
theorem profileWrite_obeys
    (privileged : g.privileged) (path name : CStr) (json : Bool) :
    Obeys g ctx (profileWrite path name json g.dryRun) := by
  unfold profileWrite
  refine .ite (fun _ => .bind (.reading _) fun _ => .pure _) fun skipped => ?_
  have applied : g.dryRun = false := by simpa using skipped
  refine .ite (fun _ => .bind (mkpath_obeys applied privileged _) fun _ => ?_) fun _ => ?_
  -- with and without the directory the file is written in the same way
  all_goals
    refine .bind (.openWrite (.ofPlain applied privileged rfl)) fun opened => ?_
    cases opened with
    | error reason =>
        exact .pure _
    | ok stream =>
        exact .bind (.reading _) fun _ => .bind (.reading _) fun _ =>
          .bind (.writeOut (.ofPlain applied privileged rfl)) fun _ => .pure _

/-- A save is one profile written. -/
theorem profileSaveCmd_obeys
    (privileged : g.privileged) (name : CStr) (json : Bool) :
    Obeys g ctx (profileSaveCmd name json g.dryRun) := by
  unfold profileSaveCmd
  refine .ite (fun _ => .reading _) fun _ => .ite (fun _ => .reading _) fun _ => ?_
  refine .bind (.reading _) fun env => .bind (profileWrite_obeys privileged _ _ _) fun failed => ?_
  cases failed with
  | none =>
      exact .reading _
  | some err =>
      exact .reading _

/-- One entry of a profile: its plan, or its setter. -/
theorem applyOne_obeys
    {json : Bool} {wouldDo : CStr} {call : Update}
    (privileged : g.privileged) (plain : call.destructive = false) :
    Obeys g ctx (applyOne json g.dryRun wouldDo call) := by
  refine .ite (fun _ => .reading _) fun applied => ?_
  refine .bind (.update (.ofPlain (by simpa using applied) privileged plain)) fun answer => ?_
  cases answer with
  | error err =>
      exact .pure _
  | ok done =>
      exact .pure _

/-- One entry of a profile on every CPU. -/
theorem applyAllCpus_obeys
    {call : CpuHandle → Update}
    (applied : g.dryRun = false) (privileged : g.privileged)
    (plain : ∀ cpu, (call cpu).destructive = false) :
    Obeys g ctx (applyAllCpus call) := by
  have each : ∀ index, Obeys g ctx (applyCpu call index) := by
    intro index
    refine .bind (.reading _) fun answer => ?_
    cases answer with
    | error err =>
        exact .pure _
    | ok cpu =>
        refine .bind (.update (.ofPlain applied privileged (plain cpu))) fun result => ?_
        cases result with
        | error err =>
            exact .pure _
        | ok done =>
            exact .pure _
  exact .bind (.reading _) fun _ => .bind (.collectCli each _) fun _ => .pure _

/-- The entries of the section `cpu`. -/
theorem loadCpuKv_obeys
    (privileged : g.privileged) (kv : TomlKv) (json : Bool) :
    Obeys g ctx (loadCpuKv kv json g.dryRun) := by
  unfold loadCpuKv
  refine .ite (fun governor => ?_) fun other => ?_
  · refine .ite (fun noString => .pure _) fun string => ?_
    refine .ite (fun dry => .reading _) fun applied => ?_
    exact applyAllCpus_obeys (by simpa using applied) privileged fun _ => rfl
  · refine .ite (fun frequency => ?_) fun unknown => .pure _
    refine .ite (fun noInteger => .pure _) fun integer => ?_
    split
    · exact .pure _
    · refine .ite (fun dry => .reading _) fun applied => ?_
      refine applyAllCpus_obeys (by simpa using applied) privileged fun cpu => ?_
      split <;> rfl

/-- The entries of the section `memory`. -/
theorem loadMemoryKv_obeys
    (privileged : g.privileged) (kv : TomlKv) (json : Bool) :
    Obeys g ctx (loadMemoryKv kv json g.dryRun) := by
  have integer : ∀ call : Int → Update, (∀ v, (call v).destructive = false) →
      Obeys g ctx (applyMemoryInt kv json g.dryRun call) := by
    intro call plain
    unfold applyMemoryInt
    refine .ite (fun noInteger => .pure _) fun typed => ?_
    split
    · exact .pure _
    · exact applyOne_obeys privileged (plain _)
  unfold loadMemoryKv
  refine .ite (fun swappiness => integer _ fun _ => rfl) fun other => ?_
  refine .ite (fun overcommit => integer _ fun _ => rfl) fun other => ?_
  refine .ite (fun hugepages => integer _ fun _ => rfl) fun other => ?_
  refine .ite (fun thp => ?_) fun unknown => .pure _
  refine .ite (fun noString => .pure _) fun string => ?_
  split
  · exact .pure _
  · exact applyOne_obeys privileged rfl

/-- The entries of a `storage` section. -/
theorem loadStorageKv_obeys
    (privileged : g.privileged) (dev : CStr) (kv : TomlKv) (json : Bool) :
    Obeys g ctx (loadStorageKv dev kv json g.dryRun) := by
  refine .bind (.reading _) fun answer => ?_
  cases answer with
  | error err =>
      exact .pure _
  | ok st =>
      refine .ite (fun scheduler => ?_) fun other => ?_
      · exact .ite (fun noString => .pure _) fun string => applyOne_obeys privileged rfl
      refine .ite (fun readAhead => ?_) fun unknown => .pure _
      refine .ite (fun noInteger => .pure _) fun integer => ?_
      split
      · exact .pure _
      · exact applyOne_obeys privileged rfl

/-- The entries of the file, one after the other. -/
theorem loadFrom_obeys
    (privileged : g.privileged) (path name : CStr) (json : Bool) :
    Obeys g ctx (loadFrom path name json g.dryRun) := by
  have each : ∀ kv, Obeys g ctx (applyKv json g.dryRun kv) := by
    intro kv
    unfold applyKv
    refine .ite (fun profile => .pure _) fun other => ?_
    refine .ite (fun cpu => loadCpuKv_obeys privileged _ _) fun other => ?_
    refine .ite (fun memory => loadMemoryKv_obeys privileged _ _) fun other => ?_
    exact .ite (fun storage => loadStorageKv_obeys privileged _ _ _) fun unknown => .pure _
  refine .bind (.reading _) fun parsed => ?_
  cases parsed with
  | error err =>
      exact .reading _
  | ok kvs =>
      refine .bind (.bind (.collectCli each _) fun _ => .pure _) fun rc => ?_
      exact .ite (fun _ => .reading _) fun _ => .bind (.reading _) fun _ => .pure _

/-- A dry run loads without the root check. -/
theorem profileLoadCmd_obeys
    (privileged : g.privileged) (name : CStr) (json : Bool) :
    Obeys g ctx (profileLoadCmd name json g.dryRun) := by
  unfold profileLoadCmd
  refine .ite (fun _ => .reading _) fun _ => .bind (.reading _) fun found => ?_
  cases found with
  | none =>
      exact .reading _
  | some path =>
      exact .ite (fun _ => loadFrom_obeys privileged _ _ _) fun _ =>
        asRoot_obeys fun _ => loadFrom_obeys privileged _ _ _

/-- The file goes without a look at `--dry-run`, so the guards have to name it. -/
theorem profileDeleteCmd_obeys
    (privileged : g.privileged)
    (deleting : g.dryRun = false ∨ g.deletes)
    (name : CStr) (json : Bool) :
    Obeys g ctx (profileDeleteCmd name json) := by
  have permitted : ∀ path earlier, g.Permits earlier (.unlink path) := fun _ _ =>
    { applied := fun _ => deleting
      privileged := fun _ => privileged
      confirmed := fun destructive => by simp [Step.destructive] at destructive }
  unfold profileDeleteCmd
  refine .ite (fun _ => .reading _) fun _ => .bind (.reading _) fun found => ?_
  cases found with
  | none =>
      exact .reading _
  | some path =>
      refine .bind (.unlink (permitted path)) fun answer => ?_
      cases answer with
      | error reason =>
          exact .reading _
      | ok done =>
          exact .reading _

/-- Three verbs of `profile` write. -/
theorem cmdProfile_obeys
    (args : List CStr) (json : Bool)
    (privileged : writeVerb args → g.privileged)
    (deleting : args.head? = some "delete".toList → g.dryRun = false ∨ g.deletes) :
    Obeys g ctx (cmdProfile args json g.dryRun) := by
  unfold cmdProfile
  split
  · exact .reading _
  refine .ite (fun list => .reading _) fun other => ?_
  split
  · exact .reading _
  · refine .ite (fun save => ?_) fun other => ?_
    · exact profileSaveCmd_obeys (privileged (by rw [save]; rfl)) _ _
    refine .ite (fun load => ?_) fun other => ?_
    · exact profileLoadCmd_obeys (privileged (by rw [load]; rfl)) _ _
    refine .ite (fun delete => ?_) fun unknown => .reading _
    exact profileDeleteCmd_obeys (privileged (by rw [delete]; rfl))
      (deleting (by rw [delete]; rfl)) _ _

/-! ## Dispatch -/

/-- Everything a handler may need from its guards. -/
structure Guards.Cover (g : Guards) (ctx : Ctx σ τ) (domain : CStr) (args : List CStr) : Prop where
  verb : writeVerb args → g.privileged
  root : ctx.env.euid = 0 → g.privileged
  deleting : domain = "profile" → args.head? = some "delete".toList → g.dryRun = false ∨ g.deletes
  writing : domain = "firmware" → writesEfiArgs args → g.confirm = true ∨ g.writesEfi

/-- Every handler of the table obeys. -/
theorem findHandler_obeys
    {domain : CStr} {handler : Handler σ τ} {args : List CStr}
    (found : findHandler domain = some handler)
    (covered : g.Cover ctx domain args)
    (json : Bool) :
    Obeys g ctx (handler args json g.dryRun g.confirm) := by
  obtain ⟨entry, inTable, rfl⟩ := Option.map_eq_some_iff.mp found
  have named : entry.1 = domain := by simpa using List.find?_some inTable
  have listed := List.mem_of_find?_eq_some inTable
  simp only [dispatchTable, List.mem_cons, List.not_mem_nil, or_false] at listed
  rcases listed with rfl | rfl | rfl | rfl | rfl | rfl | rfl | rfl | rfl | rfl | rfl | rfl | rfl |
    rfl
  · exact cmdCpu_obeys _ _ covered.verb
  · exact cmdMem_obeys _ _ covered.verb
  · exact cmdStorage_obeys _ _ covered.verb
  · exact cmdNet_obeys _ _ covered.verb
  · exact cmdPcie_obeys _ _ covered.verb
  · exact cmdGpu_obeys covered.root _ _
  · exact cmdThermal_obeys covered.root _ _
  · exact cmdPower_obeys covered.root _ _
  · exact cmdUsb_obeys covered.root _ _
  · exact cmdBt_obeys covered.root _ _
  · exact cmdWireless_obeys covered.root _ _
  · exact cmdFirmware_obeys covered.root _ _ (covered.writing named.symm)
  · exact cmdProfile_obeys _ _ covered.verb (covered.deleting named.symm)
  · exact .reading _

/-- What the root check of `main` has let through obeys. -/
theorem dispatch_obeys
    {flags : Flags} {args : List CStr}
    (sameDryRun : g.dryRun = flags.dryRun) (sameConfirm : g.confirm = flags.confirm)
    (covered : ∀ domain rest, args = domain :: rest →
      flags.version = false → flags.help = false →
      (subcommandNeedsRoot rest.head? = true → flags.dryRun = true ∨ ctx.env.uid = 0) →
      g.Cover ctx domain rest) :
    Obeys g ctx (dispatch flags args) := by
  unfold dispatch
  refine .ite (fun _ => .bind (.reading _) fun _ => .pure _) fun noVersion => ?_
  split
  · exact .bind (.reading _) fun _ => .pure _
  next domain rest =>
  refine .ite (fun _ => .bind (.reading _) fun _ => .pure _) fun noHelp => ?_
  split
  · exact .bind (.reading _) fun _ => .pure _
  next handler found =>
  by_cases gate : flags.dryRun = false ∧ subcommandNeedsRoot rest.head? = true ∧ ctx.env.uid ≠ 0
  · refine Follows.of_reaches fun process => ?_
    simp only [bind, getEnv, reading, gate.1, gate.2.1, gate.2.2, ne_eq, not_false_eq_true,
      and_self, ↓reduceIte]
    exact .single (.console process _)
  · have cover := covered domain rest rfl (by simpa using noVersion) (by simpa using noHelp) (by
      intro needed
      by_contra refused
      simp only [not_or, Bool.not_eq_true] at refused
      exact gate ⟨refused.1, needed, refused.2⟩)
    refine Follows.of_reaches fun process => ?_
    simp only [bind, getEnv, reading, gate, ↓reduceIte]
    have obeyed := findHandler_obeys found cover flags.json
    rw [sameDryRun, sameConfirm] at obeyed
    exact obeyed.reaches process

end Zenctl
