import Zenctl.CommandShapes

namespace Zenctl

open CString

/-!
# The shape of each handler

One lemma for each domain but the profiles: whatever its arguments, the handler
has the shape of a command.  The commands that only read come first; what they
deliver does not depend on the JSON flag.
-/

variable {σ τ β : Type} {many : Prop} {only : Update → Prop}

/-! ## Endings -/

/-- `cmd_print_err` returns 1 in both modes. -/
theorem failWith_ends (json : Bool) (err : Option Err) (fallback : CStr) :
    (failWith json err fallback : ReadM σ τ Int).Ends 1 :=
  fun _ _ _ => rfl

/-- `cli_err` returns -1 in both modes. -/
theorem cliErr_ends (json : Bool) (err : Err) : (cliErr json err : ReadM σ τ Int).Ends (-1) := by
  cases json <;> exact fun _ _ _ => rfl

/-- So does an error the handler fills itself. -/
theorem refuse_ends (json : Bool) (code : Int) (message context : CStr) :
    (refuse json code message context : ReadM σ τ Int).Ends (-1) :=
  cliErr_ends _ _

/-- The usage text is printed on standard error, whatever the mode. -/
theorem cliUsage_ends (text : CStr) : (cliUsage text : ReadM σ τ Int).Ends (-1) :=
  fun _ _ _ => rfl

/-- The refusal for want of `--confirm`. -/
theorem confirmRequired_ends (json : Bool) (message : CStr) :
    (confirmRequired json message : ReadM σ τ Int).Ends (-1) := by
  cases json <;> exact fun _ _ _ => rfl

/-- A report returns 0 in both modes. -/
theorem report_ends (json : Bool) (document : CStr) (lines : ReadM σ τ Unit) :
    (report json document lines).Ends 0 := by
  cases json <;> exact fun _ _ _ => rfl

/-- The announcement of a dry run returns 0. -/
theorem announce_ends (json : Bool) (what : CStr) : (announce json what : ReadM σ τ Int).Ends 0 :=
  fun _ _ _ => rfl

/-- What ends with one status in both modes delivers the same in both. -/
theorem failWith_agree (err : Option Err) (fallback : CStr) :
    (failWith true err fallback : ReadM σ τ Int).Agree (failWith false err fallback) :=
  .ofEnds (failWith_ends _ _ _) (failWith_ends _ _ _)

theorem unknownWord_agree (before word after : CStr) :
    (unknownWord true before word after : ReadM σ τ Int).Agree
      (unknownWord false before word after) :=
  failWith_agree _ _

theorem cliErr_agree (err : Err) :
    (cliErr true err : ReadM σ τ Int).Agree (cliErr false err) :=
  .ofEnds (cliErr_ends _ _) (cliErr_ends _ _)

theorem refuse_agree (code : Int) (message context : CStr) :
    (refuse true code message context : ReadM σ τ Int).Agree (refuse false code message context) :=
  cliErr_agree _

theorem cliUsage_agree (text : CStr) :
    (cliUsage text : ReadM σ τ Int).Agree (cliUsage text) :=
  .ofEnds (cliUsage_ends _) (cliUsage_ends _)

theorem report_agree (document : CStr) (lines : ReadM σ τ Unit) :
    (report true document lines).Agree (report false document lines) :=
  .ofEnds (report_ends _ _ _) (report_ends _ _ _)

/-- A getter that is reported when it fails, and what is done with its value. -/
theorem readOrErr_agree
    {call : Query β} {next following : β → ReadM σ τ Int}
    (answered : ∀ value, (next value).Agree (following value)) :
    (readOrErr true call next).Agree (readOrErr false call following) :=
  .answer cliErr_agree answered

/-- A getter whose value is printed, and nothing else. -/
theorem showBare_agree (call : Query β) (fields : β → List Field) (lines : β → ReadM σ τ Unit) :
    (showBare true call fields lines).Agree (showBare false call fields lines) :=
  readOrErr_agree fun _ => report_agree _ _

/-- A getter whose failure is no failure of the command. -/
theorem queryOpt_inStep (call : Query β) :
    (queryOpt call : ReadM σ τ (Option β)).InStep (queryOpt call) :=
  .answer (fun _ => .pure _) fun _ => .pure _

/-- A getter on the device the arguments name. -/
theorem readDevice_agree
    {H : Type} {option missing noOpen : CStr} {openCall : CStr → Query H}
    {reader other : CStr → H → ReadM σ τ Int}
    (read : ∀ dev handle, (reader dev handle).Agree (other dev handle))
    (args : List CStr) :
    (readDevice option missing noOpen openCall args true reader).Agree
      (readDevice option missing noOpen openCall args false other) := by
  unfold readDevice
  cases deviceArg option args with
  | none => exact failWith_agree _ _
  | some dev => exact .answer (fun _ => failWith_agree _ _) (read dev)

theorem cmdListDir_inStep (path : CStr) (filter : CStr → Bool) :
    (cmdListDir path filter : ReadM σ τ _).InStep (cmdListDir path filter) := by
  refine .bind (.listDir path) fun names => ?_
  cases names with
  | none => exact .pure _
  | some names => exact .pure _

/-- The names of a directory, or an error when it cannot be listed. -/
theorem listCommand_agree (path message key header : CStr) (filter : CStr → Bool) :
    (listCommand path message key header filter true : ReadM σ τ Int).Agree
      (listCommand path message key header filter false) := by
  refine .bind (cmdListDir_inStep _ _) fun names => ?_
  cases names with
  | none => exact failWith_agree _ _
  | some names => exact report_agree _ _

/-! ## `cpu get` and `mem get` -/

theorem cmdCountCpus_inStep :
    (cmdCountCpus : ReadM σ τ Int).InStep cmdCountCpus := by
  refine .bind (.listDir _) fun names => ?_
  cases names with
  | none => exact .pure _
  | some names => exact .pure _

/-- The states are counted by asking for one after the other. -/
theorem countCstates_inStep (cpu : CpuHandle) (probes : Nat) :
    ∀ n, (countCstates cpu n probes : ReadM σ τ Int).InStep (countCstates cpu n probes) := by
  induction probes with
  | zero =>
      exact fun n => .pure n
  | succ probes inductionHypothesis =>
      exact fun n => .answer (fun _ => .pure _) fun _ => inductionHypothesis _

/-- A getter that is tried on every CPU. -/
theorem cpuGetEach_agree (args header : List CStr)
    (item : Int → CpuHandle → ReadM σ τ (Option CStr)) (row : Int → CpuHandle → ReadM σ τ Unit) :
    (cpuGetEach args true header item row).Agree (cpuGetEach args false header item row) :=
  .ite (fun _ => failWith_agree _ _) fun _ => .bind cmdCountCpus_inStep fun _ =>
    .ofEnds (fun _ _ _ => rfl) fun _ _ _ => rfl

/-- In JSON mode CPU 0 is opened once more for the SMT state, which reads only. -/
theorem cpuGetAll_agree :
    (cpuGetAll true : ReadM σ τ Int).Agree (cpuGetAll false) := by
  refine .bind cmdCountCpus_inStep fun ncpu =>
    .ofEnds ?_ fun _ _ _ => rfl
  intro ctx sys console
  simp only [↓reduceIte, ReadM.bind_run]
  cases (query (.cpuOpen 0) ctx sys console).1 <;> rfl

theorem cpuGetCstate_agree (args : List CStr) :
    (cpuGetCstate args true : ReadM σ τ Int).Agree (cpuGetCstate args false) :=
  .ite (fun _ => failWith_agree _ _) fun _ => .ite (fun _ => failWith_agree _ _) fun _ =>
    .answer (fun _ => failWith_agree _ _) fun _ => .bind (countCstates_inStep _ _ _) fun _ =>
    .ofEnds (fun _ _ _ => rfl) fun _ _ _ => rfl

/-- `cpu get`, by its target. -/
theorem cmdCpuGet_agree (args : List CStr) :
    (cmdCpuGet args true : ReadM σ τ Int).Agree (cmdCpuGet args false) := by
  cases args with
  | nil => exact failWith_agree _ _
  | cons what rest =>
      have smt : (cpuGetSmt true : ReadM σ τ Int).Agree (cpuGetSmt false) :=
        .answer (fun _ => failWith_agree _ _) fun _ =>
          .answer (fun _ => failWith_agree _ _) fun _ => report_agree _ _
      refine .ite (fun all => cpuGetAll_agree) fun one => ?_
      refine .ite (fun governor => cpuGetEach_agree _ _ _ _) fun other => ?_
      refine .ite (fun freq => cpuGetEach_agree _ _ _ _) fun other => ?_
      refine .ite (fun online => cpuGetEach_agree _ _ _ _) fun other => ?_
      refine .ite (fun isSmt => smt) fun other => ?_
      exact .ite (fun cstate => cpuGetCstate_agree _) fun unknown => unknownWord_agree _ _ _

/-! ## `cpu set` -/

/-- A refusal, whatever the flags. -/
theorem failWith_planned (err : Option Err) (fallback : CStr) :
    Planned many only fun json _ =>
      (reading (failWith json err fallback) : CliM σ τ Int) :=
  .ends (failWith_agree _ _)

theorem refuse_planned (code : Int) (message context : CStr) :
    Planned many only fun json _ =>
      (reading (refuse json code message context) : CliM σ τ Int) :=
  .ends (refuse_agree _ _ _)

theorem unknownWord_planned (before word after : CStr) :
    Planned many only fun json _ =>
      (reading (unknownWord json before word after) : CliM σ τ Int) :=
  .ends (unknownWord_agree _ _ _)

theorem cliUsage_planned (text : CStr) :
    Planned many only fun _ _ => (reading (cliUsage text) : CliM σ τ Int) :=
  .ends (cliUsage_agree _)

/-- A setter of the `cmd_print_err` handlers with both of its ends. -/
theorem setOr_performs
    {call : Update} (part : only call) (fallback document : CStr) (lines : ReadM σ τ Unit) :
    Performs many only fun json => setOr json call fallback document lines :=
  .sets part (fun err => ⟨1, by decide, fun _ => ⟨_, rfl, failWith_ends _ _ _⟩⟩)
    fun _ => ⟨_, rfl, report_ends _ _ _⟩

/-- A setter of the `cli_err` handlers with both of its ends. -/
theorem setOrErr_performs
    {call : Update} (part : only call) (document : CStr) (lines : ReadM σ τ Unit) :
    Performs many only fun json => setOrErr json call document lines :=
  .sets part (fun err => ⟨-1, by decide, fun _ => ⟨_, rfl, cliErr_ends _ _⟩⟩)
    fun _ => ⟨_, rfl, report_ends _ _ _⟩

/-- The governor is written to every CPU, so the command may call many setters. -/
theorem cpuSetGovernor_planned (allowed : many) (args : List CStr) :
    Planned many (PartOf "cpu".toList) fun json dryRun =>
      (cpuSetGovernor args json dryRun : CliM σ τ Int) := by
  unfold cpuSetGovernor
  cases positionalArg args 0 with
  | none => exact failWith_planned _ _
  | some governor =>
      refine .ite (fun _ => failWith_planned _ _) fun _ => .reads cmdCountCpus_inStep fun ncpu => ?_
      exact .previews (fun _ => report_ends _ _ _) (.goesOver allowed fun _ => ⟨rfl, .inr rfl⟩)

/-- Both limits of the frequency are set in this way. -/
theorem cpuSetFreq_planned (allowed : many) (args : List CStr) (isMax : Bool) :
    Planned many (PartOf "cpu".toList) fun json dryRun =>
      (cpuSetFreq args json dryRun isMax : CliM σ τ Int) := by
  refine .reads .getEnv fun env => ?_
  cases positionalArg args 0 with
  | none => exact failWith_planned _ _
  | some text =>
      dsimp only
      cases parseFreq env text with
      | none => exact failWith_planned _ _
      | some hz =>
          refine .ite (fun _ => failWith_planned _ _) fun _ =>
            .reads cmdCountCpus_inStep fun ncpu => ?_
          exact .previews (fun _ => report_ends _ _ _)
            (.goesOver allowed fun _ => .ite ⟨rfl, .inr rfl⟩ ⟨rfl, .inr rfl⟩)

/-- One setter on an opened CPU. -/
theorem cpuSetOne_performs
    {set : CpuHandle → Update} (part : ∀ cpu, only (set cpu))
    (c : Int) (noOpen fallback : CStr) (document : CStr)
    (lines : ReadM σ τ Unit) :
    Performs many only fun json => cpuSetOne json c noOpen fallback set document lines := by
  refine .reads (.query _) fun answer => ?_
  cases answer with
  | error err => exact .ends (failWith_agree _ _)
  | ok cpu => exact setOr_performs (part cpu) _ _ _

theorem cancelled_agree : (cancelled true : ReadM σ τ Int).Agree (cancelled false) :=
  .ofEnds (fun _ _ _ => rfl) fun _ _ _ => rfl

/-- What is done after a question, or without one. -/
theorem confirmed_performs
    {what : CStr} {next : Bool → Bool → CliM σ τ Int} (on confirm : Bool)
    (performs : ∀ answer, Performs many only (next answer)) :
    Performs many only fun json => (do
      let allowed ← if on then pure true else askConfirm what confirm
      next allowed json) := by
  cases on with
  | true => exact performs true
  | false =>
      cases confirm with
      | true => exact performs true
      | false => exact .asks performs

/-- Switching a CPU off asks first; switching it on does not. -/
theorem cpuSetOnline_planned (args : List CStr) (confirm : Bool) :
    Planned many (PartOf "cpu".toList) fun json dryRun =>
      (cpuSetOnline args json dryRun confirm : CliM σ τ Int) := by
  unfold cpuSetOnline
  cases positionalArg args 0 with
  | none => exact failWith_planned _ _
  | some word =>
      dsimp only
      cases parseOnOff word with
      | none => exact failWith_planned _ _
      | some on =>
          refine .ite (fun _ => failWith_planned _ _) fun _ =>
            .ite (fun _ => failWith_planned _ _) fun _ =>
            .previews (fun _ => report_ends _ _ _) ?_
          exact confirmed_performs on confirm fun answer =>
            .ite (fun _ => cpuSetOne_performs (fun _ => ⟨rfl, .inr rfl⟩) _ _ _ _ _) fun _ =>
            .ends cancelled_agree

/-- The same with the control of simultaneous multithreading. -/
theorem cpuSetSmt_planned (args : List CStr) (confirm : Bool) :
    Planned many (PartOf "cpu".toList) fun json dryRun =>
      (cpuSetSmt args json dryRun confirm : CliM σ τ Int) := by
  unfold cpuSetSmt
  cases positionalArg args 0 with
  | none => exact failWith_planned _ _
  | some word =>
      dsimp only
      cases parseOnOff word with
      | none => exact failWith_planned _ _
      | some on =>
          refine .previews (fun _ => report_ends _ _ _) ?_
          exact confirmed_performs on confirm fun answer =>
            .ite (fun _ => cpuSetOne_performs (fun _ => ⟨rfl, .inr rfl⟩) _ _ _ _ _) fun _ =>
            .ends cancelled_agree

/-- An idle state of one CPU. -/
theorem cpuSetCstate_planned (args : List CStr) :
    Planned many (PartOf "cpu".toList) fun json dryRun =>
      (cpuSetCstate args json dryRun : CliM σ τ Int) := by
  unfold cpuSetCstate
  cases positionalArg args 0 with
  | none => exact failWith_planned _ _
  | some stateText =>
      cases positionalArg args 1 with
      | none => exact failWith_planned _ _
      | some word =>
          dsimp only
          cases (wholeInt stateText).filter (0 ≤ ·) with
          | none => exact failWith_planned _ _
          | some state =>
              exact .ite (fun _ => failWith_planned _ _) fun _ =>
                .ite (fun _ => failWith_planned _ _) fun _ =>
                .previews (fun _ => report_ends _ _ _)
                  (cpuSetOne_performs (fun _ => ⟨rfl, .inr rfl⟩) _ _ _ _ _)

/-- The commands that go over the CPUs. -/
def SetsEachCpu (args : List CStr) : Prop :=
  ∃ what rest, args = "set".toList :: what :: rest ∧
    (what = "governor" ∨ what = "freq-min" ∨ what = "freq-max")

/-- `cpu set`: the first three targets go over the CPUs, the others change one setting. -/
theorem cmdCpuSet_planned (args : List CStr) (confirm : Bool) :
    Planned (SetsEachCpu ("set".toList :: args)) (PartOf "cpu".toList) fun json dryRun =>
      (cmdCpuSet args json dryRun confirm : CliM σ τ Int) := by
  cases args with
  | nil => exact failWith_planned _ _
  | cons what rest =>
      have each (word : what = "governor" ∨ what = "freq-min" ∨ what = "freq-max") :
          SetsEachCpu ("set".toList :: what :: rest) :=
        ⟨what, rest, rfl, word⟩
      refine .ite (fun governor => ?_) fun other => ?_
      · exact cpuSetGovernor_planned (each (.inl governor)) rest
      refine .ite (fun freqMin => ?_) fun other => ?_
      · exact cpuSetFreq_planned (each (.inr (.inl freqMin))) rest false
      refine .ite (fun freqMax => ?_) fun other => ?_
      · exact cpuSetFreq_planned (each (.inr (.inr freqMax))) rest true
      refine .ite (fun online => cpuSetOnline_planned rest confirm) fun other => ?_
      refine .ite (fun smt => cpuSetSmt_planned rest confirm) fun other => ?_
      exact .ite (fun cstate => cpuSetCstate_planned rest) fun unknown => unknownWord_planned _ _ _

/-- `cpu get` only reads; the commands that go over the CPUs are those of `cpu set`. -/
theorem cmdCpu_planned (args : List CStr) (confirm : Bool) :
    Planned (SetsEachCpu args) (PartOf "cpu".toList) fun json dryRun =>
      (cmdCpu args json dryRun confirm : CliM σ τ Int) := by
  cases args with
  | nil => exact failWith_planned _ _
  | cons sub rest =>
      refine .ite (fun get => .ends (cmdCpuGet_agree rest)) fun other => ?_
      refine .ite (fun set => ?_) fun unknown => unknownWord_planned _ _ _
      subst set
      exact cmdCpuSet_planned rest confirm

/-! ## Memory -/

/-- A setter of `mem`: announced in a dry run, or called. -/
theorem memSet_planned
    {call : Update} (part : only call)
    (action key : CStr) (value : Field) (line : CStr) (fallback : CStr)
    (lines : ReadM σ τ Unit) :
    Planned many only fun json dryRun =>
      memSet json dryRun action key value line call fallback lines :=
  .previews (fun _ => report_ends _ _ _) (setOr_performs part _ _ _)

/-- Every getter is asked in front of the output, in both modes. -/
theorem memGetAll_agree : (memGetAll true : ReadM σ τ Int).Agree (memGetAll false) := by
  refine .bind .getEnv fun env => .bind (.query _) fun pages => .bind (.query _) fun hsize =>
    .bind (.query _) fun thp => .bind (.query _) fun swap => .bind (.query _) fun oc =>
    .bind (.query _) fun numa => .ofEnds ?_ fun _ _ _ => rfl
  intro ctx sys console
  cases numa <;> rfl

/-- `mem get`, by its target. -/
theorem cmdMemGet_agree (args : List CStr) :
    (cmdMemGet args true : ReadM σ τ Int).Agree (cmdMemGet args false) := by
  have numa : (memGetNuma true : ReadM σ τ Int).Agree (memGetNuma false) :=
    .answer (fun _ => failWith_agree _ _) fun _ => .ite (fun _ => report_agree _ _) fun _ =>
      .ofEnds (fun _ _ _ => rfl) fun _ _ _ => rfl
  have hugepages : (memGetHugepages true : ReadM σ τ Int).Agree (memGetHugepages false) :=
    .answer (fun _ => failWith_agree _ _) fun _ => .bind .getEnv fun _ =>
      .answer (fun _ => report_agree _ _) fun _ => report_agree _ _
  cases args with
  | nil => exact failWith_agree _ _
  | cons what rest =>
      refine .ite (fun all => memGetAll_agree) fun one => ?_
      refine .ite (fun isHugepages => hugepages) fun other => ?_
      refine .ite (fun thp => ?_) fun other => ?_
      · exact .answer (fun _ => failWith_agree _ _) fun _ => report_agree _ _
      refine .ite (fun isNuma => numa) fun other => ?_
      refine .ite (fun swappiness => ?_) fun other => ?_
      · exact .answer (fun _ => failWith_agree _ _) fun _ => report_agree _ _
      refine .ite (fun overcommit => ?_) fun unknown => unknownWord_agree _ _ _
      exact .answer (fun _ => failWith_agree _ _) fun _ => report_agree _ _

/-- `mem set`: each target reads its own argument and calls its own setter. -/
theorem cmdMemSet_planned (args : List CStr) :
    Planned many (PartOf "mem".toList) fun json dryRun =>
      (cmdMemSet args json dryRun : CliM σ τ Int) := by
  cases args with
  | nil => exact failWith_planned _ _
  | cons what rest =>
      refine .ite (fun hugepages => ?_) fun other => .ite (fun thp => ?_) fun other =>
        .ite (fun swappiness => ?_) fun other => .ite (fun overcommit => ?_) fun unknown =>
        unknownWord_planned _ _ _
      · unfold memSetHugepages
        cases positionalArg rest 0 with
        | none => exact failWith_planned _ _
        | some text =>
            dsimp only
            cases (wholeInt text).filter (0 ≤ ·) with
            | none => exact failWith_planned _ _
            | some n => exact memSet_planned ⟨rfl, .inr rfl⟩ _ _ _ _ _ _
      · unfold memSetThp
        cases positionalArg rest 0 with
        | none => exact failWith_planned _ _
        | some text =>
            dsimp only
            cases parseThp text with
            | none => exact failWith_planned _ _
            | some mode => exact memSet_planned ⟨rfl, .inr rfl⟩ _ _ _ _ _ _
      · unfold memSetSwappiness
        cases positionalArg rest 0 with
        | none => exact failWith_planned _ _
        | some text =>
            dsimp only
            cases (wholeInt text).filter (fun v => 0 ≤ v ∧ v ≤ 200) with
            | none => exact failWith_planned _ _
            | some v => exact memSet_planned ⟨rfl, .inr rfl⟩ _ _ _ _ _ _
      · unfold memSetOvercommit
        cases positionalArg rest 0 with
        | none => exact failWith_planned _ _
        | some text =>
            dsimp only
            cases (wholeInt text).filter (fun v => 0 ≤ v ∧ v ≤ 2) with
            | none => exact failWith_planned _ _
            | some v => exact memSet_planned ⟨rfl, .inr rfl⟩ _ _ _ _ _ _

theorem cmdMem_planned (args : List CStr) :
    Planned many (PartOf "mem".toList) fun json dryRun =>
      (cmdMem args json dryRun : CliM σ τ Int) := by
  cases args with
  | nil => exact failWith_planned _ _
  | cons sub rest =>
      exact .ite (fun _ => .ends (cmdMemGet_agree _)) fun _ =>
        .ite (fun _ => cmdMemSet_planned _) fun _ => unknownWord_planned _ _ _

/-! ## Storage, network and PCI devices -/

/-- A setter on a device: announced in a dry run, or the device is opened and it is called. -/
theorem writeDevice_planned
    {H : Type} {call : H → Update} (part : ∀ handle, only (call handle))
    (openCall : Query H) (noOpen : CStr) (announced done : List Field) (wouldDo : CStr)
    (fallback : CStr) (lines : ReadM σ τ Unit) :
    Planned many only fun json dryRun =>
      writeDevice openCall noOpen json dryRun announced done wouldDo call fallback lines := by
  refine .previews (fun _ => report_ends _ _ _) (.reads (.query _) fun answer => ?_)
  cases answer with
  | error err => exact .ends (failWith_agree _ _)
  | ok handle => exact setOr_performs (part handle) _ _ _

/-- `storage get`: of the scheduler both getters are asked before the first is looked at. -/
theorem cmdStorageGet_agree (args : List CStr) :
    (cmdStorageGet args true : ReadM σ τ Int).Agree (cmdStorageGet args false) := by
  cases args with
  | nil => exact failWith_agree _ _
  | cons what rest =>
      refine .ite (fun isScheduler => readDevice_agree (fun dev st => ?_) _) fun other =>
        .ite (fun queueDepth => readDevice_agree (fun dev st => ?_) _) fun other =>
        .ite (fun readAhead => readDevice_agree (fun dev st => ?_) _) fun other =>
        .ite (fun cacheType => readDevice_agree (fun dev st => ?_) _) fun other =>
        .ite (fun stats => readDevice_agree (fun dev st => ?_) _) fun other =>
        .ite (fun power => readDevice_agree (fun dev st => ?_) _) fun unknown =>
        unknownWord_agree _ _ _
      · refine .bind (.query _) fun current => .bind (.query _) fun list => ?_
        cases current with
        | error err => exact failWith_agree _ _
        | ok scheduler => exact report_agree _ _
      all_goals exact .answer (fun _ => failWith_agree _ _) fun _ => report_agree _ _

/-- `storage set`: the device comes first, then the value. -/
theorem cmdStorageSet_planned (args : List CStr) :
    Planned many (PartOf "storage".toList) fun json dryRun =>
      (cmdStorageSet args json dryRun : CliM σ τ Int) := by
  cases args with
  | nil => exact failWith_planned _ _
  | cons what rest =>
      refine .ite (fun scheduler => ?_) fun other => .ite (fun readAhead => ?_) fun other =>
        .ite (fun cacheType => ?_) fun other => .ite (fun power => ?_) fun unknown =>
        unknownWord_planned _ _ _
      · unfold stSetScheduler
        cases deviceArg "--dev" rest with
        | none => exact failWith_planned _ _
        | some dev =>
            cases positionalArg rest 0 with
            | none => exact failWith_planned _ _
            | some sched => exact writeDevice_planned (fun _ => ⟨rfl, .inr rfl⟩) _ _ _ _ _ _ _
      · unfold stSetReadAhead
        cases deviceArg "--dev" rest with
        | none => exact failWith_planned _ _
        | some dev =>
            cases positionalArg rest 0 with
            | none => exact failWith_planned _ _
            | some text =>
                dsimp only
                cases (wholeInt text).filter (0 ≤ ·) with
                | none => exact failWith_planned _ _
                | some kb => exact writeDevice_planned (fun _ => ⟨rfl, .inr rfl⟩) _ _ _ _ _ _ _
      · unfold stSetCacheType
        cases deviceArg "--dev" rest with
        | none => exact failWith_planned _ _
        | some dev =>
            cases positionalArg rest 0 with
            | none => exact failWith_planned _ _
            | some text =>
                dsimp only
                cases cacheTypeParse text with
                | none => exact failWith_planned _ _
                | some type => exact writeDevice_planned (fun _ => ⟨rfl, .inr rfl⟩) _ _ _ _ _ _ _
      · unfold stSetPower
        cases deviceArg "--dev" rest with
        | none => exact failWith_planned _ _
        | some dev =>
            cases positionalArg rest 0 with
            | none => exact failWith_planned _ _
            | some mode =>
                exact .ite (fun _ => failWith_planned _ _) fun _ =>
                  writeDevice_planned (fun _ => ⟨rfl, .inr rfl⟩) _ _ _ _ _ _ _

theorem cmdStorage_planned (args : List CStr) :
    Planned many (PartOf "storage".toList) fun json dryRun =>
      (cmdStorage args json dryRun : CliM σ τ Int) := by
  cases args with
  | nil => exact failWith_planned _ _
  | cons sub rest =>
      refine .ite (fun list => .ends (listCommand_agree _ _ _ _ _)) fun other => ?_
      refine .ite (fun get => .ends (cmdStorageGet_agree rest)) fun other => ?_
      exact .ite (fun set => cmdStorageSet_planned rest) fun unknown => unknownWord_planned _ _ _

/-- A getter whose failure counts as zero. -/
theorem intOrZero_inStep (call : Query Int) :
    (intOrZero call : ReadM σ τ Int).InStep (intOrZero call) :=
  .answer (fun _ => .pure _) fun _ => .pure _

/-- A getter whose failure counts as off. -/
theorem boolOrFalse_inStep (call : Query Bool) :
    (boolOrFalse call : ReadM σ τ Bool).InStep (boolOrFalse call) :=
  .answer (fun _ => .pure _) fun _ => .pure _

/-- `net get`: a ring is reported when one of its two sizes can be read. -/
theorem cmdNetGet_agree (args : List CStr) :
    (cmdNetGet args true : ReadM σ τ Int).Agree (cmdNetGet args false) := by
  cases args with
  | nil => exact failWith_agree _ _
  | cons what rest =>
      refine .ite (fun ring => readDevice_agree (fun iface net => ?_) _) fun other =>
        .ite (fun offload => readDevice_agree (fun iface net => ?_) _) fun other =>
        .ite (fun link => readDevice_agree (fun iface net => ?_) _) fun other =>
        .ite (fun mtu => readDevice_agree (fun iface net => ?_) _) fun other =>
        .ite (fun irq => readDevice_agree (fun iface net => ?_) _) fun unknown =>
        unknownWord_agree _ _ _
      · refine .bind (.query _) fun rx => .bind (.query _) fun tx =>
          .bind (intOrZero_inStep _) fun rxMax => .bind (intOrZero_inStep _) fun txMax => ?_
        cases rx with
        | error _ =>
            cases tx with
            | error err => exact failWith_agree _ _
            | ok _ => exact report_agree _ _
        | ok _ => exact report_agree _ _
      · exact .bind (boolOrFalse_inStep _) fun _ => .bind (boolOrFalse_inStep _) fun _ =>
          .bind (boolOrFalse_inStep _) fun _ => .bind (boolOrFalse_inStep _) fun _ =>
          .bind (boolOrFalse_inStep _) fun _ => report_agree _ _
      · exact .bind (.query _) fun _ => .bind (.query _) fun _ => .bind (.query _) fun _ =>
          report_agree _ _
      · exact .answer (fun _ => failWith_agree _ _) fun _ => report_agree _ _
      · refine .bind (.query _) fun irq => .bind (.query _) fun mask => ?_
        cases irq with
        | error err => exact failWith_agree _ _
        | ok irq => exact report_agree _ _

/-- The name of the offload is looked at after the interface has been opened. -/
theorem netSetOffload_planned (args : List CStr) :
    Planned many (PartOf "net".toList) fun json dryRun =>
      (netSetOffload args json dryRun : CliM σ τ Int) := by
  unfold netSetOffload
  cases deviceArg "--iface" args with
  | none => exact failWith_planned _ _
  | some iface =>
      cases positionalArg args 0 with
      | none => exact failWith_planned _ _
      | some flag =>
          cases positionalArg args 1 with
          | none => exact failWith_planned _ _
          | some word =>
              refine .ite (fun _ => failWith_planned _ _) fun _ =>
                .previews (fun _ => report_ends _ _ _) (.reads (.query _) fun answer => ?_)
              cases answer with
              | error err => exact .ends (failWith_agree _ _)
              | ok net =>
                  dsimp only
                  cases parseOffload flag with
                  | none => exact .ends (failWith_agree _ _)
                  | some offload => exact setOr_performs ⟨rfl, .inr rfl⟩ _ _ _

/-- `net set`, by its target. -/
theorem cmdNetSet_planned (args : List CStr) :
    Planned many (PartOf "net".toList) fun json dryRun =>
      (cmdNetSet args json dryRun : CliM σ τ Int) := by
  cases args with
  | nil => exact failWith_planned _ _
  | cons what rest =>
      refine .ite (fun ring => ?_) fun other =>
        .ite (fun offload => netSetOffload_planned rest) fun other =>
        .ite (fun isMtu => ?_) fun other => .ite (fun irqAffinity => ?_) fun unknown =>
        unknownWord_planned _ _ _
      · unfold netSetRing
        cases deviceArg "--iface" rest with
        | none => exact failWith_planned _ _
        | some iface =>
            dsimp only
            cases ringChoice rest with
            | error message => exact failWith_planned _ _
            | ok choice =>
                dsimp only
                cases (wholeInt choice.2).filter (0 ≤ ·) with
                | none => exact failWith_planned _ _
                | some n =>
                    exact writeDevice_planned (fun _ => .ite ⟨rfl, .inr rfl⟩ ⟨rfl, .inr rfl⟩)
                      _ _ _ _ _ _ _
      · unfold netSetMtu
        cases deviceArg "--iface" rest with
        | none => exact failWith_planned _ _
        | some iface =>
            cases positionalArg rest 0 with
            | none => exact failWith_planned _ _
            | some text =>
                dsimp only
                cases (wholeInt text).filter (fun v => 68 ≤ v ∧ v ≤ 65536) with
                | none => exact failWith_planned _ _
                | some mtu => exact writeDevice_planned (fun _ => ⟨rfl, .inr rfl⟩) _ _ _ _ _ _ _
      · unfold netSetIrqAffinity
        cases deviceArg "--iface" rest with
        | none => exact failWith_planned _ _
        | some iface =>
            cases positionalArg rest 0 with
            | none => exact failWith_planned _ _
            | some mask => exact writeDevice_planned (fun _ => ⟨rfl, .inr rfl⟩) _ _ _ _ _ _ _

theorem cmdNet_planned (args : List CStr) :
    Planned many (PartOf "net".toList) fun json dryRun =>
      (cmdNet args json dryRun : CliM σ τ Int) := by
  cases args with
  | nil => exact failWith_planned _ _
  | cons sub rest =>
      refine .ite (fun list => .ends (listCommand_agree _ _ _ _ _)) fun other => ?_
      refine .ite (fun get => .ends (cmdNetGet_agree rest)) fun other => ?_
      exact .ite (fun set => cmdNetSet_planned rest) fun unknown => unknownWord_planned _ _ _

/-- `pcie get`, by its target. -/
theorem cmdPcieGet_agree (args : List CStr) :
    (cmdPcieGet args true : ReadM σ τ Int).Agree (cmdPcieGet args false) := by
  cases args with
  | nil => exact failWith_agree _ _
  | cons what rest =>
      refine .ite (fun link => readDevice_agree (fun addr p => ?_) _) fun other =>
        .ite (fun power => readDevice_agree (fun addr p => ?_) _) fun other =>
        .ite (fun iommu => readDevice_agree (fun addr p => ?_) _) fun other =>
        .ite (fun numa => readDevice_agree (fun addr p => ?_) _) fun other =>
        .ite (fun info => readDevice_agree (fun addr p => ?_) _) fun other =>
        .ite (fun aspm => ?_) fun unknown => unknownWord_agree _ _ _
      · refine .bind (.query _) fun speed => .bind (.query _) fun width =>
          .bind (.query _) fun maxSpeed => .bind (intOrZero_inStep _) fun maxWidth => ?_
        cases speed with
        | error _ =>
            cases width with
            | error err => exact failWith_agree _ _
            | ok _ => exact report_agree _ _
        | ok _ => exact report_agree _ _
      · refine .bind (.query _) fun mode => .bind (.query _) fun d3cold => ?_
        cases mode with
        | error err => exact failWith_agree _ _
        | ok mode => exact report_agree _ _
      · exact .answer (fun _ => .ite (fun _ => report_agree _ _) fun _ => failWith_agree _ _)
          fun _ => report_agree _ _
      · exact .answer (fun _ => failWith_agree _ _) fun _ => report_agree _ _
      · refine .bind (.query _) fun vendor => .bind (.query _) fun device =>
          .bind (.query _) fun pciClass => ?_
        cases vendor with
        | error err => exact failWith_agree _ _
        | ok vendor => exact report_agree _ _
      · exact .answer (fun _ => failWith_agree _ _) fun _ => report_agree _ _

/-- `pcie`, whose only setter is the power control. -/
theorem cmdPcie_planned (args : List CStr) :
    Planned many (PartOf "pcie".toList) fun json dryRun =>
      (cmdPcie args json dryRun : CliM σ τ Int) := by
  have set : ∀ rest, Planned many (PartOf "pcie".toList) fun json dryRun =>
      (cmdPcieSet rest json dryRun : CliM σ τ Int) := by
    intro rest
    cases rest with
    | nil => exact failWith_planned _ _
    | cons what args =>
        refine .ite (fun _ => ?_) fun _ => unknownWord_planned _ _ _
        unfold pcieSetPower
        cases deviceArg "--addr" args with
        | none => exact failWith_planned _ _
        | some addr =>
            cases positionalArg args 0 with
            | none => exact failWith_planned _ _
            | some mode =>
                exact .ite (fun _ => failWith_planned _ _) fun _ =>
                  writeDevice_planned (fun _ => ⟨rfl, .inr rfl⟩) _ _ _ _ _ _ _
  cases args with
  | nil => exact failWith_planned _ _
  | cons sub rest =>
      refine .ite (fun list => .ends (listCommand_agree _ _ _ _ _)) fun other => ?_
      refine .ite (fun get => .ends (cmdPcieGet_agree rest)) fun other => ?_
      exact .ite (fun isSet => set rest) fun unknown => unknownWord_planned _ _ _

end Zenctl
