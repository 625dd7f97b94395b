import Zenctl.ProfileShapes
import Zenctl.Safety

namespace Zenctl

open CString RelationalLogic LabelledRuns

/-!
# The flags and the exit status over whole runs

What holds of every shape of handler holds of every entry of the dispatch table
and then of every run of `main`: `--json` decides only what is printed, a status
of zero says that every setter succeeded, and what a dry run refuses the command
itself refuses.
-/

variable {σ τ : Type}

/-- The two commands that may call more than one setter. -/
def GoesOverMany (domain : CStr) (args : List CStr) : Prop :=
  (domain = "cpu".toList ∧ SetsEachCpu args) ∨ (domain = "profile".toList ∧ LoadsProfile args)

/-- Every handler has the shape of a command, but the one of `profile`. -/
theorem findHandler_shape
    {domain : CStr} {handler : Handler σ τ}
    (found : findHandler domain = some handler)
    (args : List CStr) (confirm : Bool) :
    (domain = "profile".toList ∧
        handler = fun args json dryRun _ => cmdProfile args json dryRun) ∨
      Planned (GoesOverMany domain args) (PartOf domain) fun json dryRun =>
        handler args json dryRun confirm := by
  obtain ⟨entry, inTable, rfl⟩ := Option.map_eq_some_iff.mp found
  have named : entry.1 = domain := by simpa using List.find?_some inTable
  have listed := List.mem_of_find?_eq_some inTable
  subst named
  simp only [dispatchTable, List.mem_cons, List.not_mem_nil, or_false] at listed
  rcases listed with rfl | rfl | rfl | rfl | rfl | rfl | rfl | rfl | rfl | rfl | rfl | rfl | rfl |
    rfl
  · right
    have same : GoesOverMany "cpu".toList args = SetsEachCpu args := by
      refine propext ⟨fun many => ?_, fun sets => .inl ⟨rfl, sets⟩⟩
      exact many.elim (·.2) fun other => absurd other.1 (by decide)
    rw [same]
    exact cmdCpu_planned _ _
  · exact .inr (cmdMem_planned _)
  · exact .inr (cmdStorage_planned _)
  · exact .inr (cmdNet_planned _)
  · exact .inr (cmdPcie_planned _)
  · exact .inr (cmdGpu_planned _)
  · exact .inr (cmdThermal_planned _)
  · exact .inr (cmdPower_planned _ _)
  · exact .inr (cmdUsb_planned _ _)
  · exact .inr (cmdBt_planned _)
  · exact .inr (cmdWireless_planned _)
  · exact .inr (cmdFirmware_planned _ _)
  · exact .inl ⟨rfl, rfl⟩
  · exact .inr (.ends (cmdCaps_agree _))

/-! ## The JSON flag -/

theorem findHandler_sameOutcome
    {domain : CStr} {handler : Handler σ τ}
    (found : findHandler domain = some handler)
    (args : List CStr) (dryRun confirm : Bool) :
    (handler args true dryRun confirm).SameOutcome (handler args false dryRun confirm) := by
  rcases findHandler_shape found args confirm with ⟨-, rfl⟩ | planned
  · exact cmdProfile_sameOutcome _ _
  · exact planned.sameOutcome dryRun

theorem CliM.SameOutcome.thenStatus
    {left right : CliM σ τ Int} (same : left.SameOutcome right) (status : Int → Int) :
    (do pure (status (← left)) : CliM σ τ Int).SameOutcome (do pure (status (← right))) := by
  intro ctx start other alongside
  obtain ⟨sameResult, trace⟩ := same ctx start other alongside
  exact ⟨congrArg status sameResult, trace⟩

theorem dispatch_sameOutcome (flags : Flags) (args : List CStr) :
    (dispatch { flags with json := true } args : CliM σ τ Int).SameOutcome
      (dispatch { flags with json := false } args) := by
  unfold dispatch
  refine .ite (fun _ => .thenPure _) fun _ => ?_
  cases args with
  | nil => exact .thenPure _
  | cons domain rest =>
      refine .ite (fun _ => .thenPure _) fun _ => ?_
      cases found : (findHandler domain : Option (Handler σ τ)) with
      | none => exact .thenPure _
      | some handler =>
          refine .bind (.reading .getEnv) fun env => .ite (fun _ => .thenPure _) fun _ => ?_
          exact (findHandler_sameOutcome found rest _ _).thenStatus exitStatus

/-- Without `--json` the other flags and the arguments are the same. -/
theorem filterGlobalFlags_plain (argv : List CStr) :
    filterGlobalFlags (argv.filter (· ≠ "--json".toList)) =
      ({ (filterGlobalFlags argv).1 with json := false }, (filterGlobalFlags argv).2) := by
  induction argv with
  | nil =>
      rfl
  | cons arg rest inductionHypothesis =>
      by_cases json : arg = "--json".toList
      · have sets : globalFlag arg = some fun flags => { flags with json := true } := by
          rw [json]
          rfl
        have dropped : ((arg :: rest).filter (· ≠ "--json".toList)) =
            rest.filter (· ≠ "--json".toList) :=
          List.filter_cons_of_neg (by simp [json])
        rw [dropped, inductionHypothesis, filterGlobalFlags, sets]
      · have kept : ((arg :: rest).filter (· ≠ "--json".toList)) =
            arg :: rest.filter (· ≠ "--json".toList) :=
          List.filter_cons_of_pos (decide_eq_true json)
        rw [kept, filterGlobalFlags, filterGlobalFlags, inductionHypothesis]
        cases given : globalFlag arg with
        | none =>
            rfl
        | some set =>
            have commutes : ∀ flags, set { flags with json := false } =
                { set flags with json := false } := by
              intro flags
              unfold globalFlag at given
              split_ifs at given <;> cases given <;> rfl
            dsimp only
            rw [commutes]

/--
With and without `--json`, wherever it stands and however often it is given, a
run calls the same setters and changes the same files in the same order, leaves
the same system and exits with the same status.
-/
theorem json_sameRun (ctx : Ctx σ τ) (argv : List CStr) (sys : σ) (memory : τ) :
    let plain := argv.filter (· ≠ "--json".toList)
    (main argv ctx (start sys memory)).1 = (main plain ctx (start sys memory)).1 ∧
      (runMain ctx argv sys memory).steps = (runMain ctx plain sys memory).steps ∧
      (runMain ctx argv sys memory).sys = (runMain ctx plain sys memory).sys := by
  intro plain
  have alike : Alongside (start sys memory) (start sys memory) := ⟨rfl, rfl, rfl⟩
  simp only [runMain, main, plain, filterGlobalFlags_plain]
  generalize (filterGlobalFlags argv).2 = args
  cases json : (filterGlobalFlags argv).1.json with
  | false =>
      have same : { (filterGlobalFlags argv).1 with json := false } =
          (filterGlobalFlags argv).1 := by
        rw [← json]
      rw [same]
      exact ⟨rfl, rfl, rfl⟩
  | true =>
      obtain ⟨status, trace⟩ :=
        dispatch_sameOutcome (filterGlobalFlags argv).1 args ctx _ _ alike
      have same : { (filterGlobalFlags argv).1 with json := true } =
          (filterGlobalFlags argv).1 := by
        rw [← json]
      rw [same] at status trace
      exact ⟨status, trace.steps, trace.sys⟩

/-! ## The exit status -/

/-- What a command may do: call a setter of its domain, or what a profile command may. -/
def Handles (domain : CStr) (args : List CStr) (env : Env) (step : Step) : Prop :=
  Sets (PartOf domain) step ∨ (domain = "profile".toList ∧ ProfileStep args env step)

theorem findHandler_accounted
    {domain : CStr} {handler : Handler σ τ}
    (found : findHandler domain = some handler)
    (args : List CStr) (json dryRun confirm : Bool) :
    Accounted (GoesOverMany domain args) (Handles domain args)
      (handler args json dryRun confirm) := by
  intro ctx process
  rcases findHandler_shape found args confirm with ⟨rfl, rfl⟩ | planned
  · exact (cmdProfile_accounted args json dryRun).weaken (fun loads => .inr ⟨rfl, loads⟩)
      (fun _ _ takes => .inr ⟨rfl, takes⟩) ctx process
  · exact (planned.accounted json dryRun).weaken id (fun _ _ => .inl) ctx process

theorem exitStatus_eq_zero {rc : Int} : exitStatus rc = 0 ↔ rc = 0 := by
  unfold exitStatus
  split_ifs with zero fault
  · exact iff_of_true rfl zero
  · exact iff_of_false (by decide) zero
  · exact iff_of_false (by decide) zero

/-- The arguments name a command that may call more than one setter. -/
def ChangesMany (argv : List CStr) : Prop :=
  ∃ domain args, Commands argv (domain :: args) ∧ GoesOverMany domain args

theorem Commands.domain
    {argv : List CStr} {domain : CStr} {args : List CStr} (command : Commands argv (domain :: args)) :
    (filterGlobalFlags argv).2.head? = some domain := by
  rw [command.2.2, List.head?_cons]

/-- Only `cpu` and `profile` have commands that call more than one setter. -/
theorem changesOne
    {argv : List CStr}
    (noCpu : (filterGlobalFlags argv).2.head? ≠ some "cpu".toList)
    (noProfile : (filterGlobalFlags argv).2.head? ≠ some "profile".toList) :
    ¬ChangesMany argv := by
  rintro ⟨domain, args, command, ⟨rfl, -⟩ | ⟨rfl, -⟩⟩
  · exact noCpu command.domain
  · exact noProfile command.domain

/-- What the command the arguments name may do. -/
def Offers (argv : List CStr) (env : Env) (step : Step) : Prop :=
  ∃ domain args, Commands argv (domain :: args) ∧ Handles domain args env step

theorem Accounted.thenValue
    {many : Prop} {only : Env → Step → Prop} {α : Type} (front : ReadM σ τ α) (status : Int) :
    Accounted many only (do let _ ← reading front; pure status : CliM σ τ Int) :=
  fun _ _ => ⟨[], .nothing rfl rfl, .nothing many _ status⟩

theorem Accounted.thenStatus
    {many fewer : Prop} {only some : Env → Step → Prop} {program : CliM σ τ Int}
    (accounted : Accounted fewer some program)
    (allowed : fewer → many) (covers : ∀ env step, some env step → only env step) :
    Accounted many only (do pure (exitStatus (← program))) := by
  intro ctx process
  obtain ⟨actions, leads, accounts⟩ := accounted ctx process
  have weak := accounts.weaken allowed (covers ctx.env)
  exact ⟨actions, leads, ⟨weak.within, fun zero => weak.honest (exitStatus_eq_zero.mp zero),
    weak.single, fun single nonzero => weak.exact single (nonzero ∘ exitStatus_eq_zero.mpr)⟩⟩

theorem dispatch_accounted
    {many : Prop} {only : Env → Step → Prop} {flags : Flags} {args : List CStr}
    (commands : ∀ domain rest, args = domain :: rest → flags.version = false →
      flags.help = false →
      (GoesOverMany domain rest → many) ∧
        ∀ env step, Handles domain rest env step → only env step) :
    Accounted many only (dispatch flags args : CliM σ τ Int) := by
  unfold dispatch
  split
  · exact .thenValue _ _
  next version =>
  cases args with
  | nil => exact .thenValue _ _
  | cons domain rest =>
      dsimp only
      split
      · exact .thenValue _ _
      next help =>
      split
      · exact .thenValue _ _
      next handler found =>
      refine .afterReading fun env => ?_
      split
      · exact .thenValue _ _
      · obtain ⟨allowed, covers⟩ :=
          commands domain rest rfl (by simpa using version) (by simpa using help)
        exact (findHandler_accounted found rest _ _ _).thenStatus allowed covers

theorem main_accounted (argv : List CStr) :
    Accounted (ChangesMany argv) (Offers argv) (main argv : CliM σ τ Int) :=
  dispatch_accounted fun domain rest shape version help =>
    ⟨fun goesOver => ⟨domain, rest, ⟨version, help, shape⟩, goesOver⟩,
      fun _ _ handles => ⟨domain, rest, ⟨version, help, shape⟩, handles⟩⟩

/-- Every run is a sequence of actions, and its exit status accounts for them. -/
theorem runMain_leads (ctx : Ctx σ τ) (argv : List CStr) (sys : σ) (memory : τ) :
    ∃ actions, Leads ctx (start sys memory) actions (runMain ctx argv sys memory) ∧
      Accounts (ChangesMany argv) (Offers argv ctx.env) (main argv ctx (start sys memory)).1
        actions :=
  main_accounted argv ctx (start sys memory)

/--
Every step of a run that changes devices or files is one the command has: a setter of
its own domain and no other, or for `profile load` a setter of `cpu`, `mem` or
`storage`, for `profile save` the making of a directory on the way to the file of the
name given, or the writing of that file, and for `profile delete` the unlinking of
one of the two files of that name.
-/
theorem runMain_keepsToItsDomain
    (ctx : Ctx σ τ) (argv : List CStr) (sys : σ) (memory : τ) :
    ∀ step ∈ (runMain ctx argv sys memory).steps, step.changesState = true →
      ∃ domain args, Commands argv (domain :: args) ∧ Handles domain args ctx.env step := by
  intro step taken changes
  obtain ⟨actions, leads, accounts⟩ := runMain_leads ctx argv sys memory
  have kept : step ∈ (runMain ctx argv sys memory).steps.filter Step.changesState :=
    List.mem_filter.mpr ⟨taken, changes⟩
  have nothing : (start sys memory : Process σ τ).steps.filter Step.changesState = [] := rfl
  rw [leads.recorded, nothing, List.nil_append] at kept
  obtain ⟨action, member, rfl⟩ := List.mem_map.mp kept
  exact accounts.within action member

/-- Root saves a profile. -/
def saveMine : List CStr :=
  ["profile", "save", "mine"].map String.toList

/-- The directories that are made and the file that is opened are those of the profile's name. -/
theorem runMain_profileSave_keepsToItsDomain :
    ((runMain (smallCtx 0) saveMine [] ()).steps.filter Step.changesState).take 4 =
        [.mkdir "/etc", .mkdir "/etc/zenctl", .mkdir "/etc/zenctl/profiles",
          .openWrite "/etc/zenctl/profiles/mine.toml"] ∧
      (∃ domain args, Commands saveMine (domain :: args) ∧
        Handles domain args (smallCtx 0).env (.mkdir "/etc/zenctl")) ∧
      ∃ domain args, Commands saveMine (domain :: args) ∧
        Handles domain args (smallCtx 0).env (.openWrite "/etc/zenctl/profiles/mine.toml") := by
  have made : Step.mkdir "/etc/zenctl" ∈ (runMain (smallCtx 0) saveMine [] ()).steps := by
    decide
  have opened : Step.openWrite "/etc/zenctl/profiles/mine.toml" ∈
      (runMain (smallCtx 0) saveMine [] ()).steps := by
    decide
  exact ⟨by decide, runMain_keepsToItsDomain _ _ _ _ _ made rfl,
    runMain_keepsToItsDomain _ _ _ _ _ opened rfl⟩

/-- The same library, with the setters called so far and their outcomes beside the state. -/
def Library.audited (lib : Library σ τ) : Library (σ × List (Update × Bool)) τ where
  query call sys memory := lib.query call sys.1 memory
  update call sys memory :=
    let answer := lib.update call sys.1 memory
    (answer.1, (answer.2.1, sys.2 ++ [(call, succeeded answer.1)]), answer.2.2)

@[inherit_doc Library.audited]
def Host.audited (host : Host σ) : Host (σ × List (Update × Bool)) where
  listDir sys := host.listDir sys.1
  access sys := host.access sys.1
  readFile sys := host.readFile sys.1
  mkdir sys path :=
    let answer := host.mkdir sys.1 path
    (answer.1, answer.2, sys.2)
  openWrite sys path :=
    let answer := host.openWrite sys.1 path
    (answer.1, answer.2, sys.2)
  writeOut sys path text := (host.writeOut sys.1 path text, sys.2)
  unlink sys path :=
    let answer := host.unlink sys.1 path
    (answer.1, answer.2, sys.2)

@[inherit_doc Library.audited]
def Ctx.audited (ctx : Ctx σ τ) : Ctx (σ × List (Update × Bool)) τ :=
  ⟨ctx.lib.audited, ctx.host.audited, ctx.env⟩

section Audited

variable {lib : Library σ τ} {host : Host σ} {actions : List Action}
variable {sys later : σ × List (Update × Bool)}

/-- The log is no part of what the calls do. -/
theorem Acts.unlogged
    {action : Action} (acts : Acts lib.audited host.audited action sys later) :
    Acts lib host action sys.1 later.1 := by
  cases acts with
  | set call before memory => exact .set call sys.1 memory
  | mkdir path before => exact .mkdir path sys.1
  | openWrite path before => exact .openWrite path sys.1
  | writeOut path text before => exact .writeOut path text sys.1
  | unlink path before => exact .unlink path sys.1

/-- What is audited is what the actions say. -/
theorem audited_log
    (run : Runs (Acts lib.audited host.audited) sys actions later) :
    later.2 = sys.2 ++ attempts actions := by
  induction run with
  | nil state =>
      exact (List.append_nil _).symm
  | cons taken rest inductionHypothesis =>
      rw [inductionHypothesis]
      cases taken with
      | set call sys memory =>
          simp [Library.audited, attempts]
      | mkdir path sys =>
          rfl
      | openWrite path sys =>
          rfl
      | writeOut path text sys =>
          rfl
      | unlink path sys =>
          rfl

/-- Without its log an audited run is a run of the library itself, with the same actions. -/
theorem audited_run
    (run : Runs (Acts lib.audited host.audited) sys actions later) :
    Runs (Acts lib host) sys.1 actions later.1 ∧ later.2 = sys.2 ++ attempts actions :=
  ⟨run.image Prod.fst fun _ _ _ acts => acts.unlogged, audited_log run⟩

end Audited

/--
The audited setters are those of a run of the library itself, to the state the
audited run ends in, and the steps it has recorded.
-/
theorem audited_attempts (ctx : Ctx σ τ) (argv : List CStr) (sys : σ) (memory : τ) :
    ∃ actions,
      Runs (Acts ctx.lib ctx.host) sys actions (runMain ctx.audited argv (sys, []) memory).sys.1 ∧
      (runMain ctx.audited argv (sys, []) memory).steps.filter Step.changesState =
        actions.map Action.step ∧
      (runMain ctx.audited argv (sys, []) memory).sys.2 = attempts actions ∧
      Accounts (ChangesMany argv) (Offers argv ctx.env)
        (main argv ctx.audited (start (sys, []) memory)).1 actions := by
  obtain ⟨actions, leads, accounts⟩ := runMain_leads ctx.audited argv (sys, []) memory
  obtain ⟨plain, logged⟩ := audited_run leads.run
  exact ⟨actions, plain, leads.recorded, logged, accounts⟩

/--
A run that exits with status zero has called no setter that failed, whatever
the command: a failure on one of many CPUs or profile entries is not lost.
-/
theorem exitZero_everySetterSucceeded
    (ctx : Ctx σ τ) (argv : List CStr) (sys : σ) (memory : τ)
    (zero : (main argv ctx.audited (start (sys, []) memory)).1 = 0) :
    ∀ attempt ∈ (runMain ctx.audited argv (sys, []) memory).sys.2, attempt.2 = true := by
  obtain ⟨actions, -, -, logged, accounts⟩ := audited_attempts ctx argv sys memory
  rw [logged]
  exact accounts.honest zero

/-- Root writes an EFI variable: one setter, which succeeded. -/
theorem exitZero_efiSet :
    (runMain (smallCtx 0).audited (["firmware", "efi", "set", "Boot0000", "guid",
      "payload"].map String.toList) (["payload".toList], []) ()).sys.2 ≠ [] ∧
    ∀ attempt ∈ (runMain (smallCtx 0).audited (["firmware", "efi", "set", "Boot0000", "guid",
      "payload"].map String.toList) (["payload".toList], []) ()).sys.2, attempt.2 = true :=
  ⟨by decide, exitZero_everySetterSucceeded _ _ _ _ (by decide)⟩

/--
Outside `cpu set governor|freq-min|freq-max` and `profile load` a run calls at
most one setter, and its exit status is zero exactly if that setter succeeded.
-/
theorem exitStatus_tellsTheSetter
    (ctx : Ctx σ τ) (argv : List CStr) (sys : σ) (memory : τ)
    (single : ¬ChangesMany argv) :
    (runMain ctx.audited argv (sys, []) memory).sys.2.length ≤ 1 ∧
      ∀ attempt ∈ (runMain ctx.audited argv (sys, []) memory).sys.2,
        ((main argv ctx.audited (start (sys, []) memory)).1 = 0 ↔ attempt.2 = true) := by
  obtain ⟨actions, -, -, logged, accounts⟩ := audited_attempts ctx argv sys memory
  rw [logged]
  refine ⟨accounts.single single, fun attempt member => ⟨fun zero => ?_, fun succeeded => ?_⟩⟩
  · exact accounts.honest zero attempt member
  · by_contra nonzero
    rw [accounts.exact single nonzero attempt member] at succeeded
    cases succeeded

/-- The small machine has no devices: the one setter fails, and the status says so. -/
theorem exitStatus_swappiness :
    (runMain (smallCtx 0).audited (["mem", "set", "swappiness", "10"].map String.toList) ([], [])
      ()).sys.2 = [(.memSetSwappiness 10, false)] ∧
    ((runMain (smallCtx 0).audited (["mem", "set", "swappiness", "10"].map String.toList) ([], [])
        ()).sys.2.length ≤ 1 ∧
      ∀ attempt ∈ (runMain (smallCtx 0).audited (["mem", "set", "swappiness", "10"].map
          String.toList) ([], []) ()).sys.2,
        ((main (["mem", "set", "swappiness", "10"].map String.toList) (smallCtx 0).audited
          (start ([], []) ())).1 = 0 ↔ attempt.2 = true)) := by
  exact ⟨by decide, exitStatus_tellsTheSetter _ _ _ _ (changesOne (by decide) (by decide))⟩

/-! ## The dry-run flag -/

theorem findHandler_foretells
    {domain : CStr} {handler : Handler σ τ}
    (found : findHandler domain = some handler)
    {args : List CStr}
    (keeps : ¬(domain = "profile".toList ∧ args.head? = some "delete".toList))
    (json confirm : Bool) :
    Foretells (handler args json true confirm) (handler args json false confirm) := by
  rcases findHandler_shape found args confirm with ⟨rfl, rfl⟩ | planned
  · exact cmdProfile_foretells json fun deletes => keeps ⟨rfl, deletes⟩
  · exact planned.foretells json

/-- The arguments name the command that deletes a profile. -/
def Deletes (argv : List CStr) : Prop :=
  ∃ rest, Commands argv ("profile".toList :: "delete".toList :: rest)

/-- What a refused dry run says of the run without the flag. -/
structure Foretold (preview command : CliM σ τ Int) (ctx : Ctx σ τ) (process : Process σ τ) :
    Prop where
  refused : (command ctx process).1 ≠ 0
  untouched : Untouched process (command ctx process).2
  alike : ctx.env.uid = 0 → ctx.env.euid = 0 → command ctx process = preview ctx process

theorem Foretold.same
    {command : CliM σ τ Int} {ctx : Ctx σ τ} {process : Process σ τ}
    (untouched : Untouched process (command ctx process).2)
    (refused : (command ctx process).1 ≠ 0) :
    Foretold command command ctx process :=
  ⟨refused, untouched, fun _ _ => rfl⟩

theorem Foretold.ofRuns
    {preview other command another : CliM σ τ Int} {ctx : Ctx σ τ} {process : Process σ τ}
    (samePreview : preview ctx process = other ctx process)
    (sameCommand : command ctx process = another ctx process)
    (foretold : Foretold other another ctx process) :
    Foretold preview command ctx process := by
  obtain ⟨refused, untouched, alike⟩ := foretold
  exact ⟨sameCommand ▸ refused, sameCommand ▸ untouched, fun root effective =>
    sameCommand.trans ((alike root effective).trans samePreview.symm)⟩

/-- A command behind the root check of `main`, and its preview, which needs no privilege. -/
theorem Foretells.behindGate
    {preview command : CliM σ τ Int} (foretells : Foretells preview command)
    (gate : Prop) [Decidable gate] (refusal : ReadM σ τ Unit)
    {ctx : Ctx σ τ} {process : Process σ τ} (guarded : gate → ctx.env.uid ≠ 0)
    (refused : ((do pure (exitStatus (← preview)) : CliM σ τ Int) ctx process).1 ≠ 0) :
    Foretold (do pure (exitStatus (← preview)))
      (if gate then do
          reading refusal
          pure 1
        else do pure (exitStatus (← command))) ctx process := by
  split
  · next stopped =>
    exact ⟨(by decide : (1 : Int) ≠ 0), ⟨rfl, rfl⟩, fun root => absurd root (guarded stopped)⟩
  · have alike := foretells ctx process (refused ∘ exitStatus_eq_zero.mpr)
    refine ⟨?_, alike.untouched, fun _ root => ?_⟩
    · simp only [CliM.bind_run, CliM.pure_run]
      exact alike.refused ∘ exitStatus_eq_zero.mp
    · simp only [CliM.bind_run, CliM.pure_run, alike.alike root]

theorem dispatch_foretells
    (flags : Flags) (args : List CStr)
    (keeps : ∀ rest, args = "profile".toList :: "delete".toList :: rest →
      flags.version = false → flags.help = false → False)
    (ctx : Ctx σ τ) (process : Process σ τ)
    (refused : (dispatch { flags with dryRun := true } args ctx process).1 ≠ 0) :
    Foretold (dispatch { flags with dryRun := true } args)
      (dispatch { flags with dryRun := false } args) ctx process := by
  unfold dispatch at refused ⊢
  dsimp only at refused ⊢
  split
  · next version =>
    rw [if_pos version] at refused
    exact absurd rfl refused
  next version =>
  rw [if_neg version] at refused
  cases args with
  | nil => exact absurd rfl refused
  | cons domain rest =>
      dsimp only at refused ⊢
      split
      · next help =>
        rw [if_pos help] at refused
        exact absurd rfl refused
      next help =>
      rw [if_neg help] at refused
      split
      · exact .same ⟨rfl, rfl⟩ (by decide : (1 : Int) ≠ 0)
      next handler found =>
      simp only [found] at refused
      have noDelete : ¬(domain = "profile".toList ∧ rest.head? = some "delete".toList) := by
        rintro ⟨rfl, deletes⟩
        obtain ⟨others, rfl⟩ := List.head?_eq_some_iff.mp deletes
        exact keeps others rfl (by simpa using version) (by simpa using help)
      have foretells := findHandler_foretells found noDelete flags.json flags.confirm
      refine Foretold.ofRuns rfl ?_ (foretells.behindGate
        (subcommandNeedsRoot rest.head? = true ∧ ctx.env.uid ≠ 0)
        (if flags.json then
            put (outJsonError 1 "operation requires root (run as root or via sudo)".toList)
          else outErr "operation requires root (run as root or via sudo)".toList) (·.2) refused)
      simp only [CliM.bind_run, getEnv, reading_run, true_and]
      rfl

/--
A command that `--dry-run` refuses is refused without the flag as well, and
changes nothing on the way; for root the two runs are the same to the last
byte printed.  Deleting a profile is the exception, which does not look at the flag.
-/
theorem dryRun_foretells
    (ctx : Ctx σ τ) (argv : List CStr) (sys : σ) (memory : τ)
    (applied : "--dry-run".toList ∉ argv)
    (keeps : ¬Deletes argv)
    (refused : (main ("--dry-run".toList :: argv) ctx (start sys memory)).1 ≠ 0) :
    (main argv ctx (start sys memory)).1 ≠ 0 ∧
      Quiet sys (runMain ctx argv sys memory) ∧
      (ctx.env.uid = 0 → ctx.env.euid = 0 →
        main argv ctx (start sys memory) =
          main ("--dry-run".toList :: argv) ctx (start sys memory)) := by
  have plain : (filterGlobalFlags argv).1 =
      { (filterGlobalFlags argv).1 with dryRun := false } := by
    have noDryRun : (filterGlobalFlags argv).1.dryRun = false := by
      rw [← Bool.not_eq_true, filterGlobalFlags_dryRun]
      exact applied
    rw [← noDryRun]
  have foretold := dispatch_foretells (filterGlobalFlags argv).1 (filterGlobalFlags argv).2
    (fun rest shape version help => keeps ⟨rest, version, help, shape⟩) ctx (start sys memory)
    refused
  rw [← plain] at foretold
  refine ⟨foretold.refused, ⟨?_, foretold.untouched.1⟩, foretold.alike⟩
  have silent := foretold.untouched.2
  intro step taken
  by_contra changes
  have kept : step ∈ (runMain ctx argv sys memory).steps.filter Step.changesState :=
    List.mem_filter.mpr ⟨taken, by simpa using changes⟩
  have nothing : (start sys memory : Process σ τ).steps.filter Step.changesState = [] := rfl
  rw [runMain, main, silent, nothing] at kept
  cases kept

/-- A swappiness that is not a number is refused, dry run or not. -/
theorem dryRun_foretells_swappiness :
    (main (["mem", "set", "swappiness", "ten"].map String.toList) (smallCtx 0) (start [] ())).1 ≠
        0 ∧
      Quiet [] (runMain (smallCtx 0) (["mem", "set", "swappiness", "ten"].map String.toList) []
        ()) ∧
      ((smallCtx 0).env.uid = 0 → (smallCtx 0).env.euid = 0 →
        main (["mem", "set", "swappiness", "ten"].map String.toList) (smallCtx 0) (start [] ()) =
          main ("--dry-run".toList :: ["mem", "set", "swappiness", "ten"].map String.toList)
            (smallCtx 0) (start [] ())) := by
  refine dryRun_foretells _ _ _ _ (by decide) ?_ (by decide)
  exact fun ⟨_, command⟩ => absurd command.domain (by decide)

end Zenctl
