import Zenctl.Handlers

namespace Zenctl

open CString ProgramLogic

/-!
# Dry run, root gate and confirmation gate over whole runs

The invariants below are properties of the steps taken so far.  Each is kept by
every permitted move, hence by every run of `main` whose guards exclude the
steps in question.  Where the code forgets a guard, the exact condition under
which the run meets it anyway is proved instead.
-/

variable {σ τ : Type}

/-! ## Global flags -/

/-- A flag is set exactly when one of its names was given. -/
theorem filterGlobalFlags_sets
    {flag : Flags → Bool} {names : CStr → Prop}
    (unset : flag Flags.none = false)
    (sets : ∀ arg, names arg → ∃ set, globalFlag arg = some set ∧ ∀ flags, flag (set flags) = true)
    (keeps : ∀ arg set, ¬names arg → globalFlag arg = some set →
      ∀ flags, flag (set flags) = flag flags)
    (argv : List CStr) :
    flag (filterGlobalFlags argv).1 = true ↔ ∃ arg ∈ argv, names arg := by
  induction argv with
  | nil =>
      simp [filterGlobalFlags, unset]
  | cons arg rest inductionHypothesis =>
      rw [List.exists_mem_cons_iff, filterGlobalFlags]
      by_cases named : names arg
      · obtain ⟨set, given, sets⟩ := sets arg named
        rw [given]
        exact iff_of_true (sets _) (.inl named)
      · rw [or_iff_right named, ← inductionHypothesis]
        cases given : globalFlag arg with
        | none =>
            rfl
        | some set =>
            dsimp only
            rw [keeps arg set named given]

theorem filterGlobalFlags_dryRun (argv : List CStr) :
    (filterGlobalFlags argv).1.dryRun = true ↔ "--dry-run".toList ∈ argv := by
  have named : (∃ arg ∈ argv, arg = "--dry-run".toList) ↔ "--dry-run".toList ∈ argv := by
    simp only [exists_eq_right]
  refine (filterGlobalFlags_sets rfl ?_ ?_ argv).trans named
  · rintro _ rfl
    exact ⟨_, rfl, fun _ => rfl⟩
  · intro arg set other given flags
    unfold globalFlag at given
    split_ifs at given <;> cases given <;> rfl

theorem filterGlobalFlags_json (argv : List CStr) :
    (filterGlobalFlags argv).1.json = true ↔ "--json".toList ∈ argv := by
  have named : (∃ arg ∈ argv, arg = "--json".toList) ↔ "--json".toList ∈ argv := by
    simp only [exists_eq_right]
  refine (filterGlobalFlags_sets rfl ?_ ?_ argv).trans named
  · rintro _ rfl
    exact ⟨_, rfl, fun _ => rfl⟩
  · intro arg set other given flags
    unfold globalFlag at given
    split_ifs at given <;> cases given <;> rfl

/-- The flag that answers every question was given. -/
def ConfirmGiven (argv : List CStr) : Prop :=
  "--confirm".toList ∈ argv ∨ "--yes".toList ∈ argv ∨ "-y".toList ∈ argv

theorem filterGlobalFlags_confirm (argv : List CStr) :
    (filterGlobalFlags argv).1.confirm = true ↔ ConfirmGiven argv := by
  have named : (∃ arg ∈ argv, arg = "--confirm".toList ∨ arg = "--yes".toList ∨ arg = "-y".toList) ↔
      ConfirmGiven argv := by
    simp only [ConfirmGiven, and_or_left, exists_or, exists_eq_right]
  refine (filterGlobalFlags_sets rfl ?_ ?_ argv).trans named
  · rintro _ (rfl | rfl | rfl) <;> exact ⟨_, rfl, fun _ => rfl⟩
  · intro arg set other given flags
    unfold globalFlag at given
    split_ifs at given <;> cases given <;> rfl

/-- The command is run on these arguments: neither help nor the version was asked for. -/
def Commands (argv args : List CStr) : Prop :=
  (filterGlobalFlags argv).1.version = false ∧ (filterGlobalFlags argv).1.help = false ∧
    (filterGlobalFlags argv).2 = args

/-! ## Runs that change nothing -/

/-- No step that changes files or devices was taken, and the system is as it was. -/
def Quiet (sys : σ) (process : Process σ τ) : Prop :=
  (∀ step ∈ process.steps, step.changesState = false) ∧ process.sys = sys

theorem quiet_start (sys : σ) (memory : τ) : Quiet sys (start sys memory) :=
  ⟨by simp [start], rfl⟩

/-- A program whose guards permit no change keeps the system as it is. -/
theorem Obeys.quiet
    {g : Guards} {ctx : Ctx σ τ} {program : CliM σ τ Int} {sys : σ} {process : Process σ τ}
    (obeys : Obeys g ctx program)
    (nothing : ∀ earlier step, step.changesState = true → ¬g.Permits earlier step)
    (quiet : Quiet sys process) :
    Quiet sys (program ctx process).2 := by
  refine Follows.invariant _ obeys ?_ quiet
  intro before after holds move
  cases move with
  | console _ =>
      exact holds
  | ask _ what answer =>
      refine ⟨fun step taken => ?_, holds.2⟩
      rcases List.mem_append.mp taken with old | new
      · exact holds.1 step old
      · simp only [List.mem_singleton] at new
        rw [new]
        rfl
  | act _ _ step changes permitted =>
      exact absurd permitted (nothing _ _ changes)

/-- The circumstances of a run of `main` on these flags. -/
def mainGuards (ctx : Ctx σ τ) (flags : Flags) (deletes writesEfi : Prop) : Guards where
  dryRun := flags.dryRun
  confirm := flags.confirm
  privileged := flags.dryRun = true ∨ ctx.env.uid = 0 ∨ ctx.env.euid = 0
  deletes := deletes
  writesEfi := writesEfi

/-- `main` obeys its guards if these name the two commands that skip a check. -/
theorem main_obeys
    {ctx : Ctx σ τ} {argv : List CStr} {deletes writesEfi : Prop}
    (deleting : ∀ rest, Commands argv ("profile".toList :: "delete".toList :: rest) →
      (filterGlobalFlags argv).1.dryRun = false ∨ deletes)
    (writing : ∀ rest, Commands argv ("firmware".toList :: "efi".toList :: "set".toList :: rest) →
      (filterGlobalFlags argv).1.confirm = true ∨ writesEfi) :
    Obeys (mainGuards ctx (filterGlobalFlags argv).1 deletes writesEfi) ctx (main argv) := by
  refine dispatch_obeys rfl rfl fun domain rest shape noVersion noHelp checked => ?_
  refine ⟨fun verb => (checked verb).imp id .inl, fun root => .inr (.inr root), ?_, ?_⟩
  · rintro rfl head
    obtain ⟨tail, rfl⟩ := List.head?_eq_some_iff.mp head
    exact deleting tail ⟨noVersion, noHelp, shape⟩
  · rintro rfl verb
    match rest, verb with
    | _ :: _ :: tail, ⟨rfl, rfl⟩ => exact writing tail ⟨noVersion, noHelp, shape⟩

/-! ## A small machine -/

/-- The files that exist are the whole state; every file is readable, writable and empty. -/
def smallHost : Host (List CStr) where
  listDir _ _ := none
  access files path _ := files.contains path
  readFile files path :=
    if files.contains path then .ok [] else .error "No such file or directory".toList
  mkdir files _ := (true, files)
  openWrite files path := (.ok (), path :: files.erase path)
  writeOut files _ _ := files
  unlink files path :=
    if files.contains path then (.ok (), files.erase path)
    else (.error "No such file or directory".toList, files)

/-- No device is there; EFI variables can be written, each of them is one file. -/
def smallLibrary : Library (List CStr) Unit where
  query _ _ memory := (.error (cliMakeErr Err.enotsup "not supported" ""), memory)
  update call files memory :=
    match call with
    | .fwEfiSet name guid _ _ =>
        (.ok (), ("/sys/firmware/efi/efivars/".toList ++ name ++ '-' :: guid) :: files, memory)
    | _ => (.error (cliMakeErr Err.enotsup "not supported" ""), files, memory)

/-- The small machine with a process of this user. -/
def smallCtx (uid : Nat) : Ctx (List CStr) Unit :=
  ⟨smallLibrary, smallHost, smallEnv uid⟩

/-! ## Dry run -/

theorem findProfile_run
    (ctx : Ctx σ τ) (sys : σ) (console : Console τ) (name : CStr) (mode : Access) :
    findProfile name mode ctx sys console =
      ((if ctx.host.access sys (profilePath (userProfileDir ctx.env) name) mode then
          some (profilePath (userProfileDir ctx.env) name)
        else if ctx.host.access sys (profilePath systemProfileDir name) mode then
          some (profilePath systemProfileDir name)
        else none), console) := by
  by_cases user : ctx.host.access sys (profilePath (userProfileDir ctx.env) name) mode = true
  · simp [findProfile, getEnv, access, user]
  · by_cases system : ctx.host.access sys (profilePath systemProfileDir name) mode = true
    · simp [findProfile, getEnv, access, user, system]
    · simp [findProfile, getEnv, access, user, system]

/-- A run of `profile delete` on a dry run is the delete handler itself. -/
theorem main_profileDelete
    {argv : List CStr} {name : CStr} {rest : List CStr}
    (command : Commands argv ("profile".toList :: "delete".toList :: name :: rest))
    (dry : (filterGlobalFlags argv).1.dryRun = true)
    (ctx : Ctx σ τ) (process : Process σ τ) :
    (main argv ctx process).2 =
      (profileDeleteCmd name (filterGlobalFlags argv).1.json ctx process).2 := by
  obtain ⟨noVersion, noHelp, shape⟩ := command
  have handler : (findHandler "profile".toList : Option (Handler σ τ)) =
      some fun args json dryRun _ => cmdProfile args json dryRun := rfl
  simp only [main, dispatch, noVersion, noHelp, shape, handler, dry, cmdProfile, getEnv,
    CliM.bind_run, reading_run, CliM.ite_run, CliM.pure_run]
  rfl

/-- The run is a `profile delete` that finds a profile it may delete. -/
def DeletesProfile (ctx : Ctx σ τ) (argv : List CStr) (sys : σ) : Prop :=
  ∃ name rest, Commands argv ("profile".toList :: "delete".toList :: name :: rest) ∧ name ≠ [] ∧
    (ctx.host.access sys (profilePath (userProfileDir ctx.env) name) .write = true ∨
      ctx.host.access sys (profilePath systemProfileDir name) .write = true)

/-- The delete handler changes something exactly when it finds a profile. -/
theorem profileDeleteCmd_quiet_iff
    (ctx : Ctx σ τ) (name : CStr) (json : Bool) (sys : σ) (memory : τ) :
    Quiet sys (profileDeleteCmd name json ctx (start sys memory)).2 ↔
      ¬(name ≠ [] ∧
        (ctx.host.access sys (profilePath (userProfileDir ctx.env) name) .write = true ∨
          ctx.host.access sys (profilePath systemProfileDir name) .write = true)) := by
  by_cases empty : name = []
  · have quiet : Quiet sys (profileDeleteCmd name json ctx (start sys memory)).2 := by
      simp only [profileDeleteCmd, empty, ↓reduceIte]
      exact quiet_start sys memory
    exact iff_of_true quiet fun finds => finds.1 empty
  · cases found : (findProfile name .write ctx sys (start sys memory).console).1 with
    | none =>
        have quiet : Quiet sys (profileDeleteCmd name json ctx (start sys memory)).2 := by
          simp only [profileDeleteCmd, empty, ↓reduceIte, CliM.bind_run, reading_run, start]
          simp only [start] at found
          rw [found]
          exact ⟨by simp, rfl⟩
        rw [findProfile_run] at found
        simp only at found
        split_ifs at found with user system
        simp [quiet, user, system]
    | some path =>
        have unlinked :
            .unlink path ∈ (profileDeleteCmd name json ctx (start sys memory)).2.steps := by
          simp only [profileDeleteCmd, empty, ↓reduceIte, CliM.bind_run, reading_run, start]
          simp only [start] at found
          rw [found]
          simp only [CliM.bind_run, unlink]
          cases (ctx.host.unlink sys path).1 with
          | error reason =>
              simp
          | ok done =>
              simp
        have loud : ¬Quiet sys (profileDeleteCmd name json ctx (start sys memory)).2 := by
          intro quiet
          have unchanged := quiet.1 _ unlinked
          simp [Step.changesState] at unchanged
        rw [findProfile_run] at found
        simp only at found
        refine iff_of_false loud (not_not_intro ⟨empty, ?_⟩)
        split_ifs at found with user system
        · exact .inl user
        · exact .inr system

/--
With `--dry-run` somewhere among the arguments a run takes no step that changes
files or devices, and leaves the system as it was, unless it is a
`profile delete` that finds a profile: that handler is not given the flag.
-/
theorem dryRun_quiet_iff
    (ctx : Ctx σ τ) (argv : List CStr) (sys : σ) (memory : τ)
    (dry : "--dry-run".toList ∈ argv) :
    ((∀ step ∈ (runMain ctx argv sys memory).steps, step.changesState = false) ∧
        (runMain ctx argv sys memory).sys = sys) ↔
      ¬DeletesProfile ctx argv sys := by
  have dryFlag := (filterGlobalFlags_dryRun argv).mpr dry
  by_cases deletes : ∃ rest, Commands argv ("profile".toList :: "delete".toList :: rest)
  · obtain ⟨rest, command⟩ := deletes
    cases rest with
    | nil =>
        have usage : Quiet sys (runMain ctx argv sys memory) := by
          obtain ⟨noVersion, noHelp, shape⟩ := command
          have handler : (findHandler "profile".toList : Option (Handler σ τ)) =
              some fun args json dryRun _ => cmdProfile args json dryRun := rfl
          simp only [runMain, main, dispatch, noVersion, noHelp, shape, handler, dryFlag,
            cmdProfile, getEnv, CliM.bind_run, reading_run, CliM.ite_run, CliM.pure_run]
          exact quiet_start sys memory
        refine iff_of_true usage ?_
        rintro ⟨name, rest, ⟨-, -, other⟩, -⟩
        rw [command.2.2] at other
        simp at other
    | cons name rest =>
        have handled := profileDeleteCmd_quiet_iff ctx name (filterGlobalFlags argv).1.json sys
          memory
        rw [← main_profileDelete command dryFlag] at handled
        refine handled.trans (not_congr ⟨fun finds => ⟨name, rest, command, finds⟩, ?_⟩)
        rintro ⟨other, tail, ⟨-, -, shape⟩, finds⟩
        rw [command.2.2] at shape
        simp only [List.cons.injEq, true_and] at shape
        rw [shape.1]
        exact finds
  · have obeys : Obeys (mainGuards ctx (filterGlobalFlags argv).1 False True) ctx (main argv) :=
      main_obeys (fun rest command => absurd ⟨rest, command⟩ deletes) fun _ _ => .inr trivial
    refine iff_of_true (obeys.quiet ?_ (quiet_start sys memory)) ?_
    · intro earlier step changes permitted
      have applied := permitted.applied changes
      simp [mainGuards, dryFlag] at applied
    · rintro ⟨name, rest, command, -⟩
      exact deletes ⟨_, command⟩

/-- A preview of a governor change changes nothing. -/
theorem dryRun_quiet_governor :
    (∀ step ∈ (runMain (smallCtx 0) (["cpu", "set", "--dry-run", "governor", "powersave"].map
      String.toList) [] ()).steps, step.changesState = false) ∧
    (runMain (smallCtx 0) (["cpu", "set", "--dry-run", "governor", "powersave"].map
      String.toList) [] ()).sys = [] := by
  refine (dryRun_quiet_iff _ _ _ _ (by decide)).mpr ?_
  rintro ⟨name, rest, ⟨-, -, shape⟩, -⟩
  exact absurd (List.cons.inj shape).1 (by decide)

/-- `zenctl profile delete old --dry-run` deletes the profile. -/
theorem dryRun_deletes_profile :
    "--dry-run".toList ∈ ["profile", "delete", "old", "--dry-run"].map String.toList ∧
    .unlink "/etc/zenctl/profiles/old.toml".toList ∈
      (runMain (smallCtx 0) (["profile", "delete", "old", "--dry-run"].map String.toList)
        ["/etc/zenctl/profiles/old.toml".toList] ()).steps ∧
    (runMain (smallCtx 0) (["profile", "delete", "old", "--dry-run"].map String.toList)
      ["/etc/zenctl/profiles/old.toml".toList] ()).sys ≠
      ["/etc/zenctl/profiles/old.toml".toList] := by
  decide

/-! ## Root gate -/

/--
Without `--dry-run`, a process whose real and effective user are both not root
takes no step that changes files or devices, on any path through the handlers.
-/
theorem unprivileged_quiet
    (ctx : Ctx σ τ) (argv : List CStr) (sys : σ) (memory : τ)
    (applied : "--dry-run".toList ∉ argv)
    (notRoot : ctx.env.uid ≠ 0)
    (notEffectiveRoot : ctx.env.euid ≠ 0) :
    (∀ step ∈ (runMain ctx argv sys memory).steps, step.changesState = false) ∧
      (runMain ctx argv sys memory).sys = sys := by
  have noDryRun : (filterGlobalFlags argv).1.dryRun = false := by
    rw [← Bool.not_eq_true, filterGlobalFlags_dryRun]
    exact applied
  have obeys : Obeys (mainGuards ctx (filterGlobalFlags argv).1 True True) ctx (main argv) :=
    main_obeys (fun _ _ => .inl noDryRun) fun _ _ => .inr trivial
  refine obeys.quiet ?_ (quiet_start sys memory)
  intro earlier step changes permitted
  have privileged := permitted.privileged changes
  simp [mainGuards, noDryRun, notRoot, notEffectiveRoot] at privileged

/-- An ordinary user cannot write an EFI variable. -/
theorem unprivileged_quiet_efi :
    (∀ step ∈ (runMain (smallCtx 1000) (["firmware", "efi", "set", "Boot0000", "guid",
      "payload", "--confirm"].map String.toList) ["payload".toList] ()).steps,
      step.changesState = false) ∧
    (runMain (smallCtx 1000) (["firmware", "efi", "set", "Boot0000", "guid",
      "payload", "--confirm"].map String.toList) ["payload".toList] ()).sys =
      ["payload".toList] :=
  unprivileged_quiet _ _ _ _ (by decide) (by decide) (by decide)

/-! ## Confirmation gate -/

/-- Every destructive call comes after the flag or after a prompt answered with yes. -/
def Gated (given : Prop) (steps : List Step) : Prop :=
  ∀ earlier step later, steps = earlier ++ step :: later → step.destructive = true →
    given ∨ Prompted earlier

/-- One more step keeps the gate if it is itself behind the gate. -/
theorem Gated.concat
    {given : Prop} {steps : List Step} {last : Step}
    (gated : Gated given steps)
    (behind : last.destructive = true → given ∨ Prompted steps) :
    Gated given (steps ++ [last]) := by
  intro earlier step later shape destructive
  rcases later.eq_nil_or_concat with rfl | ⟨rest, final, rfl⟩
  · obtain ⟨sameSteps, sameLast⟩ := List.append_inj' shape rfl
    simp only [List.cons.injEq, and_true] at sameLast
    rw [← sameLast] at destructive
    rw [← sameSteps]
    exact behind destructive
  · have split : steps ++ [last] = (earlier ++ step :: rest) ++ [final] := by simpa using shape
    exact gated _ _ _ (List.append_inj' split rfl).1 destructive

theorem Obeys.gated
    {g : Guards} {ctx : Ctx σ τ} {program : CliM σ τ Int} {process : Process σ τ}
    (obeys : Obeys g ctx program)
    (asks : ¬g.writesEfi)
    (gated : Gated (g.confirm = true) process.steps) :
    Gated (g.confirm = true) (program ctx process).2.steps := by
  refine Follows.invariant (fun process => Gated (g.confirm = true) process.steps) obeys ?_ gated
  intro before after holds move
  cases move with
  | console _ =>
      exact holds
  | ask _ what answer =>
      exact holds.concat fun destructive => by simp [Step.destructive] at destructive
  | act _ _ step _ permitted =>
      exact holds.concat fun destructive =>
        (permitted.confirmed destructive).imp id fun asked => asked.resolve_right asks

theorem setOrErr_steps
    (ctx : Ctx σ τ) (process : Process σ τ) (json : Bool) (call : Update) (document : CStr)
    (lines : ReadM σ τ Unit) :
    (setOrErr json call document lines ctx process).2.steps =
      process.steps ++ [.update call] := by
  simp only [setOrErr, CliM.bind_run, update]
  cases (ctx.lib.update call process.sys process.console.memory).1 with
  | error err =>
      rfl
  | ok done =>
      rfl

/-- `fw_efi_set` takes no step at all, or the one library call. -/
theorem fwEfiSet_steps
    (ctx : Ctx σ τ) (args : List CStr) (json : Bool) (sys : σ) (memory : τ) :
    (ctx.env.euid = 0 ∧ ∃ name guid file rest data, args = name :: guid :: file :: rest ∧
        ctx.host.readFile sys file = .ok data ∧
        (fwEfiSet args json false ctx (start sys memory)).2.steps =
          [.update (.fwEfiSet name guid efiVarAttributes data)]) ∨
      (¬(ctx.env.euid = 0 ∧ ∃ name guid file rest data, args = name :: guid :: file :: rest ∧
          ctx.host.readFile sys file = .ok data) ∧
        (fwEfiSet args json false ctx (start sys memory)).2.steps = []) := by
  match args with
  | [] =>
      exact .inr ⟨by simp, rfl⟩
  | [_] =>
      exact .inr ⟨by simp, rfl⟩
  | [_, _] =>
      exact .inr ⟨by simp, rfl⟩
  | name :: guid :: file :: rest =>
      by_cases root : ctx.env.euid = 0
      · cases payload : ctx.host.readFile sys file with
        | error reason =>
            refine .inr ⟨?_, ?_⟩
            · rintro ⟨-, name', guid', file', rest', data, shape, read⟩
              simp only [List.cons.injEq] at shape
              rw [← shape.2.2.1, payload] at read
              simp at read
            · simp only [fwEfiSet, asRoot_root root, CliM.bind_run, reading_run, readPayloadFile,
                ReadM.bind_run, readFile, start, payload, ReadM.pure_run]
        | ok data =>
            refine .inl ⟨root, name, guid, file, rest, data, rfl, payload, ?_⟩
            simp only [fwEfiSet, asRoot_root root, CliM.bind_run, reading_run, readPayloadFile,
              ReadM.bind_run, readFile, start, payload, ReadM.pure_run, Bool.false_eq_true,
              ↓reduceIte, setOrErr_steps, List.nil_append]
      · refine .inr ⟨fun writes => root writes.1, ?_⟩
        simp only [fwEfiSet, asRoot_other root, reading_run, start]

/-- The run writes an EFI variable: as root, with a payload that can be read, unasked. -/
def WritesEfiUnasked (ctx : Ctx σ τ) (argv : List CStr) (sys : σ) : Prop :=
  ¬ConfirmGiven argv ∧ ctx.env.euid = 0 ∧
    ∃ name guid file rest data,
      Commands argv ("firmware".toList :: "efi".toList :: "set".toList :: name :: guid ::
        file :: rest) ∧
      ctx.host.readFile sys file = .ok data

theorem main_efiSet
    {argv rest : List CStr}
    (command : Commands argv ("firmware".toList :: "efi".toList :: "set".toList :: rest))
    (ctx : Ctx σ τ) (process : Process σ τ) :
    (main argv ctx process).2 =
      (fwEfiSet rest (filterGlobalFlags argv).1.json (filterGlobalFlags argv).1.dryRun ctx
        process).2 := by
  obtain ⟨noVersion, noHelp, shape⟩ := command
  have handler : (findHandler "firmware".toList : Option (Handler σ τ)) = some cmdFirmware := rfl
  have noVerb : subcommandNeedsRoot (some "efi".toList) = false := rfl
  simp only [main, dispatch, noVersion, noHelp, shape, handler, cmdFirmware, fwEfi, getEnv,
    CliM.bind_run, reading_run, CliM.ite_run, CliM.pure_run, List.head?_cons, noVerb,
    Bool.false_eq_true, false_and, and_false, ↓reduceIte]
  rfl

/--
Without `--dry-run` every destructive call comes after `--confirm`, `--yes`,
`-y` or a prompt answered with yes, unless the run is a `firmware efi set` of
root whose payload can be read: `fw_efi_set` does not ask.
-/
theorem confirmGate_iff
    (ctx : Ctx σ τ) (argv : List CStr) (sys : σ) (memory : τ)
    (applied : "--dry-run".toList ∉ argv) :
    Gated (ConfirmGiven argv) (runMain ctx argv sys memory).steps ↔
      ¬WritesEfiUnasked ctx argv sys := by
  have noDryRun : (filterGlobalFlags argv).1.dryRun = false := by
    rw [← Bool.not_eq_true, filterGlobalFlags_dryRun]
    exact applied
  by_cases unasked : ¬ConfirmGiven argv ∧
      ∃ rest, Commands argv ("firmware".toList :: "efi".toList :: "set".toList :: rest)
  · obtain ⟨noConfirm, rest, command⟩ := unasked
    have steps := fwEfiSet_steps ctx rest (filterGlobalFlags argv).1.json sys memory
    rw [← noDryRun, ← main_efiSet command] at steps
    rcases steps with ⟨root, name, guid, file, tail, data, rfl, read, taken⟩ | ⟨nowhere, taken⟩
    · refine iff_of_false ?_ (not_not_intro ⟨noConfirm, root, name, guid, file, tail, data,
        command, read⟩)
      intro gated
      rcases gated [] _ [] taken rfl with given | ⟨what, asked⟩
      · exact noConfirm given
      · simp at asked
    · refine iff_of_true ?_ ?_
      · intro earlier step later shape
        rw [runMain, taken] at shape
        simp at shape
      · rintro ⟨-, root, name, guid, file, tail, data, ⟨-, -, shape⟩, read⟩
        rw [command.2.2] at shape
        simp only [List.cons.injEq, true_and] at shape
        exact nowhere ⟨root, name, guid, file, tail, data, shape, read⟩
  · have obeys : Obeys (mainGuards ctx (filterGlobalFlags argv).1 True False) ctx (main argv) := by
      refine main_obeys (fun _ _ => .inl noDryRun) fun rest command => .inl ?_
      by_contra notGiven
      rw [filterGlobalFlags_confirm] at notGiven
      exact unasked ⟨notGiven, rest, command⟩
    refine iff_of_true ?_ ?_
    · have gated := @Obeys.gated _ _ _ _ _ (start sys memory) obeys id (by simp [Gated, start])
      intro earlier step later shape destructive
      exact (gated earlier step later shape destructive).imp (filterGlobalFlags_confirm argv).mp id
    · rintro ⟨noConfirm, -, name, guid, file, rest, data, command, -⟩
      exact unasked ⟨noConfirm, _, command⟩

/-- Switching SMT off goes through the prompt. -/
theorem confirmGate_smt :
    Gated (ConfirmGiven (["cpu", "set", "smt", "off"].map String.toList))
      (runMain (smallCtx 0) (["cpu", "set", "smt", "off"].map String.toList) [] ()).steps := by
  refine (confirmGate_iff _ _ _ _ (by decide)).mpr ?_
  rintro ⟨-, -, name, guid, file, rest, data, ⟨-, -, shape⟩, -⟩
  exact absurd (List.cons.inj shape).1 (by decide)

/-- `zenctl firmware efi set Boot0000 <guid> payload` writes the variable unasked. -/
theorem confirmGate_efi_unasked :
    "--dry-run".toList ∉ ["firmware", "efi", "set", "Boot0000",
      "8be4df61-93ca-11d2-aa0d-00e098032b8c", "payload"].map String.toList ∧
    ¬Gated (ConfirmGiven (["firmware", "efi", "set", "Boot0000",
        "8be4df61-93ca-11d2-aa0d-00e098032b8c", "payload"].map String.toList))
      (runMain (smallCtx 0) (["firmware", "efi", "set", "Boot0000",
        "8be4df61-93ca-11d2-aa0d-00e098032b8c", "payload"].map String.toList)
        ["payload".toList] ()).steps := by
  refine ⟨by decide, fun gated => ?_⟩
  have taken : (runMain (smallCtx 0) (["firmware", "efi", "set", "Boot0000",
      "8be4df61-93ca-11d2-aa0d-00e098032b8c", "payload"].map String.toList)
      ["payload".toList] ()).steps =
      [.update (.fwEfiSet "Boot0000".toList "8be4df61-93ca-11d2-aa0d-00e098032b8c".toList 7 [])] :=
    rfl
  rcases gated [] _ [] taken rfl with given | ⟨what, asked⟩
  · revert given
    unfold ConfirmGiven
    decide
  · simp at asked

end Zenctl
