import Zenctl.CarriedSettings

namespace Zenctl

open CString LabelledRuns Registers

/-!
# Profiles across sessions

A profile is saved by one command, other commands run, and a later command loads
it.  The file carries the saved document from the one machine to the other, and
a load that succeeds leaves every setting that was saved as it was then.
-/

variable {σ τ : Type}

/-! ## The file of a profile -/

/-- What is read from devices is the same, and the same devices are listed. -/
structure SameMachine (os : Os σ) (host : Host σ) (sys later : σ) : Prop where
  devices : os.SameDevices sys later
  listed : host.listDir later "/sys/block".toList = host.listDir sys "/sys/block".toList

namespace SameMachine

variable {os : Os σ} {host : Host σ} {sys middle later : σ}

theorem refl (sys : σ) : SameMachine os host sys sys :=
  ⟨⟨fun _ _ => rfl, fun _ _ => rfl⟩, rfl⟩

theorem trans
    (first : SameMachine os host sys middle) (second : SameMachine os host middle later) :
    SameMachine os host sys later where
  devices :=
    ⟨fun path device => (second.devices.files path device).trans (first.devices.files path device),
      fun path device =>
        (second.devices.present path device).trans (first.devices.present path device)⟩
  listed := second.listed.trans first.listed

end SameMachine

/-- A file of a disk: it keeps what is written, and is no device. -/
structure Host.ProfileFile (host : Host σ) (os : Os σ) (file : CStr) : Prop where
  written : ∀ sys text, host.readFile (host.writeOut sys file text) file = .ok text
  mkdirMachine : ∀ sys path, SameMachine os host sys (host.mkdir sys path).2
  openMachine : ∀ sys, SameMachine os host sys (host.openWrite sys file).2
  mkdir : ∀ sys path, path ≠ file →
    host.readFile (host.mkdir sys path).2 file = host.readFile sys file
  openWrite : ∀ sys path, path ≠ file →
    host.readFile (host.openWrite sys path).2 file = host.readFile sys file
  writeOut : ∀ sys path text, path ≠ file →
    host.readFile (host.writeOut sys path text) file = host.readFile sys file
  unlink : ∀ sys path, path ≠ file →
    host.readFile (host.unlink sys path).2 file = host.readFile sys file

/-- The step leaves the file alone: its setter does, or what it opens or removes is another one. -/
def Step.Elsewhere (os : Os σ) (host : Host σ) (file : CStr) : Step → Prop
  | .update call => call.Keeps os (host.readFile · file)
  | step => step.profilePath ≠ some file

/-- Commands that never touch the file leave it as it was. -/
theorem session_keepsFile
    {os : Os σ} {host : Host σ} {file : CStr} (disk : host.ProfileFile os file)
    (commands : List (Invocation Proc)) (sys : σ)
    (elsewhere : ∀ step ∈ sessionSteps (libzenctl os) host commands sys,
      step.Elsewhere os host file) :
    host.readFile (session (libzenctl os) host commands sys) file = host.readFile sys file := by
  obtain ⟨actions, run, recorded, -⟩ := session_leads (libzenctl os) host commands sys
  refine run.unchanged (host.readFile · file) fun action member before after acts => ?_
  have taken : action.step ∈ sessionSteps (libzenctl os) host commands sys := by
    have changing : action.step ∈
        (sessionSteps (libzenctl os) host commands sys).filter Step.changesState := by
      rw [recorded]
      exact List.mem_map_of_mem member
    exact List.mem_of_mem_filter changing
  have apart := elsewhere _ taken
  cases acts with
  | set call before memory => exact apart before _
  | mkdir path => exact disk.mkdir _ path (apart ∘ congrArg some)
  | openWrite path => exact disk.openWrite _ path (apart ∘ congrArg some)
  | writeOut path text => exact disk.writeOut _ path text (apart ∘ congrArg some)
  | unlink path => exact disk.unlink _ path (apart ∘ congrArg some)

/-! ## Commands that succeed -/

/-- If the program returns zero, it is this command that ran and returned zero. -/
def SucceedsAs (program command : CliM σ τ Int) (ctx : Ctx σ τ) (process : Process σ τ) : Prop :=
  (program ctx process).1 = 0 →
    (command ctx process).1 = 0 ∧ (program ctx process).2 = (command ctx process).2

/-- A program that reports an error fails; without one it ends in its report. -/
theorem SucceedsAs.reports
    {ctx : Ctx σ τ} {process : Process σ τ} {program : CliM σ τ (Option Err)}
    {result : ReadM σ τ Int} {failure : Err → ReadM σ τ Int}
    (zero : ((do
      match ← program with
      | none => reading result
      | some err => reading (failure err) : CliM σ τ Int) ctx process).1 = 0)
    (fails : ∀ err sys console, (failure err ctx sys console).1 ≠ 0) :
    (program ctx process).1 = none ∧
      ((do
        match ← program with
        | none => reading result
        | some err => reading (failure err) : CliM σ τ Int) ctx process).2.sys =
        (program ctx process).2.sys := by
  rw [CliM.bind_run] at zero ⊢
  generalize program ctx process = run at zero ⊢
  obtain ⟨answer, later⟩ := run
  cases answer with
  | none => exact ⟨rfl, rfl⟩
  | some err => exact absurd zero (fails err _ _)

/-- The program refuses and leaves the system as it was, or it is this command that ran. -/
def RunsAs (program command : CliM σ τ Int) (ctx : Ctx σ τ) (process : Process σ τ) : Prop :=
  ((program ctx process).1 ≠ 0 ∧ (program ctx process).2.sys = process.sys) ∨
    ((program ctx process).1 = exitStatus (command ctx process).1 ∧
      (program ctx process).2 = (command ctx process).2)

theorem RunsAs.behindGate
    {ctx : Ctx σ τ} {process : Process σ τ} {command : CliM σ τ Int}
    (gate : Prop) [Decidable gate] (refusal : ReadM σ τ Unit) :
    RunsAs (if gate then do
        reading refusal
        pure 1
      else do pure (exitStatus (← command))) command ctx process := by
  unfold RunsAs
  split
  · exact .inl ⟨(by decide : (1 : Int) ≠ 0), rfl⟩
  · exact .inr ⟨rfl, rfl⟩

/-- A command is its handler, behind a gate. -/
theorem main_runs
    {argv : List CStr} {domain : CStr} {args : List CStr} {handler : Handler σ τ}
    (commands : Commands argv (domain :: args))
    (found : findHandler domain = some handler) (ctx : Ctx σ τ) (process : Process σ τ) :
    RunsAs (main argv)
      (handler args (filterGlobalFlags argv).1.json (filterGlobalFlags argv).1.dryRun
        (filterGlobalFlags argv).1.confirm) ctx process := by
  obtain ⟨version, help, shape⟩ := commands
  have runs : main argv ctx process = dispatch (filterGlobalFlags argv).1 (domain :: args) ctx
      process := by
    unfold main
    rw [shape]
  unfold RunsAs
  rw [runs]
  unfold dispatch
  rw [version, if_neg Bool.false_ne_true]
  dsimp only
  rw [help, if_neg Bool.false_ne_true, found]
  exact RunsAs.behindGate _ _

/-- A command that exits with status zero is its handler, and the handler returned zero. -/
theorem main_succeedsAs
    {argv : List CStr} {domain : CStr} {args : List CStr} {handler : Handler σ τ}
    (commands : Commands argv (domain :: args))
    (found : findHandler domain = some handler) (ctx : Ctx σ τ) (process : Process σ τ) :
    SucceedsAs (main argv)
      (handler args (filterGlobalFlags argv).1.json (filterGlobalFlags argv).1.dryRun
        (filterGlobalFlags argv).1.confirm) ctx process := by
  intro zero
  rcases main_runs commands found ctx process with ⟨fails, -⟩ | ⟨status, same⟩
  · exact absurd zero fails
  · exact ⟨exitStatus_eq_zero.mp (status.symm.trans zero), same⟩

/-! ## Saving -/

section Write

variable {ctx : Ctx σ τ} (kept : σ → σ → Prop) (refl : ∀ sys, kept sys sys)
  (trans : ∀ first middle last, kept first middle → kept middle last → kept first last)
  (each : ∀ sys path, kept sys (ctx.host.mkdir sys path).2)

include refl trans each

/-- Making directories keeps what making one keeps. -/
theorem mkdirAll_keeps (dirs : List CStr) (process : Process σ τ) :
    kept process.sys (mkdirAll dirs ctx process).2.sys ∧
      (mkdirAll dirs ctx process).2.console = process.console := by
  induction dirs generalizing process with
  | nil =>
      exact ⟨refl _, rfl⟩
  | cons dir rest inductionHypothesis =>
      unfold mkdirAll
      rw [CliM.bind_run, CliM.ite_run]
      have one := each process.sys dir
      split
      · obtain ⟨more, same⟩ := inductionHypothesis (mkdir dir ctx process).2
        exact ⟨trans _ _ _ one more, same⟩
      · exact ⟨one, rfl⟩

/-- Whether directories are made first or not, the document is written. -/
theorem profileWrite_run (file name : CStr) (json : Bool) (process : Process σ τ) :
    ∃ ready, kept process.sys ready.sys ∧ ready.console = process.console ∧
      profileWrite file name json false ctx process = writeDocument file name ctx ready := by
  unfold profileWrite
  rw [if_neg Bool.false_ne_true]
  dsimp only
  split
  · obtain ⟨same, silent⟩ := mkdirAll_keeps kept refl trans each _ process
    exact ⟨_, same, silent, rfl⟩
  · exact ⟨process, refl _, rfl, rfl⟩

end Write

section Save

variable {os : Os σ} {ctx : Ctx σ Proc} {file : CStr}

/-- Without an error, what is written to the file is the document of the machine. -/
theorem profileWrite_writes
    (library : ctx.lib = libzenctl os) (disk : ctx.host.ProfileFile os file)
    {name : CStr} {json : Bool} {process : Process σ Proc}
    (memory : process.console.memory.allocations = [])
    (success : (profileWrite file name json false ctx process).1 = none) :
    ∃ opened, (profileWrite file name json false ctx process).2.sys =
      ctx.host.writeOut opened file
        (profileText name ctx.env.now (savedSections os process.sys ctx.host)) := by
  obtain ⟨ready, made, sameConsole, run⟩ := profileWrite_run (SameMachine os ctx.host) .refl
    (fun _ _ _ => .trans) disk.mkdirMachine file name json process
  rw [run] at success ⊢
  have same := made.trans (disk.openMachine ready.sys)
  simp only [writeDocument, CliM.bind_run, openWrite] at success ⊢
  generalize ctx.host.openWrite ready.sys file = opened at same success ⊢
  obtain ⟨answer, sys⟩ := opened
  cases answer with
  | error reason => cases success
  | ok value =>
      refine ⟨sys, ?_⟩
      obtain ⟨document, -⟩ := @snapshot_produces _ os ctx sys library ready.console
        (sameConsole ▸ memory)
      simp only [CliM.bind_run, reading_run, CliM.pure_run, getEnv, writeOut, document]
      rw [savedSections_same same.devices same.listed]

/-- The file `profile save` writes. -/
def profileFile (env : Env) (name : CStr) : CStr :=
  profilePath (if env.euid = 0 then systemProfileDir else userProfileDir env) name

theorem profileSaveCmd_writes
    (library : ctx.lib = libzenctl os) (name : SaveName)
    (disk : ctx.host.ProfileFile os (profileFile ctx.env name.text))
    {json : Bool} {process : Process σ Proc}
    (memory : process.console.memory.allocations = [])
    (success : (profileSaveCmd name.text json false ctx process).1 = 0) :
    ctx.host.readFile (profileSaveCmd name.text json false ctx process).2.sys
        (profileFile ctx.env name.text) =
      .ok (profileText name.text ctx.env.now (savedSections os process.sys ctx.host)) := by
  obtain ⟨nonempty, inside⟩ := name.accepted
  have wrote := @profileWrite_writes _ os ctx _ library disk name.text json process memory
  unfold profileSaveCmd at *
  rw [if_neg nonempty, if_neg (Bool.eq_false_iff.mp inside)] at success ⊢
  obtain ⟨written, reported⟩ := SucceedsAs.reports success fun err sys console =>
    ne_of_eq_of_ne (cliErr_ends json err ctx sys console) (by decide)
  obtain ⟨opened, wrote⟩ := wrote written
  calc _ = _ := congrArg (ctx.host.readFile · (profileFile ctx.env name.text)) reported
    _ = _ := congrArg (ctx.host.readFile · (profileFile ctx.env name.text)) wrote
    _ = _ := disk.written _ _

end Save

theorem findHandler_profile :
    (findHandler "profile".toList : Option (Handler σ τ)) =
      some fun args json dryRun _ => cmdProfile args json dryRun :=
  rfl

/-- A save that succeeds leaves the document of the machine in its file. -/
theorem save_writes
    {os : Os σ} {host : Host σ} {save : Invocation Proc} {name : SaveName} {rest : List CStr}
    {sys : σ}
    (commands : Commands save.argv ("profile".toList :: "save".toList :: name.text :: rest))
    (wet : (filterGlobalFlags save.argv).1.dryRun = false)
    (disk : host.ProfileFile os (profileFile save.env name.text))
    (memory : save.memory.allocations = [])
    (success : (save.run (libzenctl os) host sys).1 = 0) :
    host.readFile (save.run (libzenctl os) host sys).2.sys (profileFile save.env name.text) =
      .ok (profileText name.text save.env.now (savedSections os sys host)) := by
  obtain ⟨zero, same⟩ := main_succeedsAs commands findHandler_profile
    ⟨libzenctl os, host, save.env⟩ (start sys save.memory) success
  rw [wet] at zero same
  unfold Invocation.run
  rw [same]
  exact @profileSaveCmd_writes _ os ⟨libzenctl os, host, save.env⟩ rfl name disk _ _ memory zero

/-! ## Loading -/

/-- The profile `profile load` finds: the user's, if it can be read, else the system's. -/
def foundProfile (host : Host σ) (env : Env) (sys : σ) (name : CStr) : Option CStr :=
  if host.access sys (profilePath (userProfileDir env) name) .read then
    some (profilePath (userProfileDir env) name)
  else if host.access sys (profilePath systemProfileDir name) .read then
    some (profilePath systemProfileDir name)
  else none

section Load

variable {os : Os σ} {ctx : Ctx σ Proc} {file : CStr} {content : List Char}
  {process : Process σ Proc}

theorem loadFrom_calls
    (library : ctx.lib = libzenctl os) (writesApart : os.WritesApart)
    (read : ctx.host.readFile process.sys file = .ok content)
    (memory : process.console.memory.allocations = [])
    {name : CStr} {json : Bool}
    (zero : (loadFrom file name json false ctx process).1 = 0) :
    (loadFrom file name json false ctx process).2.steps =
      process.steps ++
        ((tomlParse content).flatMap (entryCalls os process.sys ctx.env)).map .update := by
  have parsed : tomlParseFile file ctx process.sys process.console =
      (.ok (tomlParse content), process.console) := by
    simp only [tomlParseFile, ReadM.bind_run, readFile, read]
    rfl
  have applied := (profileApply_calls library writesApart (tomlParse content) json process rfl
    memory).1
  unfold loadFrom at zero ⊢
  rw [CliM.bind_run] at zero ⊢
  simp only [reading_run, parsed] at zero ⊢
  rw [CliM.bind_run] at zero ⊢
  generalize profileApply (tomlParse content) json false ctx process = result at applied zero ⊢
  obtain ⟨rc, later⟩ := result
  by_cases done : rc = 0
  · simp only [done, if_true, reading_run]
    exact applied
  · simp only [done, if_false, CliM.bind_run, reading_run, CliM.pure_run] at zero

/-- Behind the check for root, a command that returns zero is the command alone. -/
theorem asRoot_succeedsAs (json : Bool) (command : CliM σ Proc Int) :
    SucceedsAs (asRoot json command) command ctx process := by
  unfold SucceedsAs
  by_cases root : ctx.env.euid = 0
  · rw [asRoot_root root]
    exact fun zero => ⟨zero, rfl⟩
  · simp only [asRoot, CliM.bind_run, reading_run, cliRequireRoot_other root, ↓reduceIte,
      CliM.pure_run]
    exact fun zero => absurd zero (by decide : (-1 : Int) ≠ 0)

theorem profileLoadCmd_calls
    (library : ctx.lib = libzenctl os) (writesApart : os.WritesApart)
    {name : CStr} (nonempty : name ≠ [])
    (found : foundProfile ctx.host ctx.env process.sys name = some file)
    (read : ctx.host.readFile process.sys file = .ok content)
    (memory : process.console.memory.allocations = [])
    {json : Bool} (zero : (profileLoadCmd name json false ctx process).1 = 0) :
    (profileLoadCmd name json false ctx process).2.steps =
      process.steps ++
        ((tomlParse content).flatMap (entryCalls os process.sys ctx.env)).map .update := by
  have run : profileLoadCmd name json false ctx process =
      asRoot json (loadFrom file name json false) ctx process := by
    have finds : findProfile name .read ctx process.sys process.console =
        (some file, process.console) :=
      (findProfile_run _ _ _ _ _).trans (congrArg (·, process.console) found)
    unfold profileLoadCmd
    rw [if_neg nonempty, CliM.bind_run, reading_run, finds]
    rfl
  rw [run] at zero ⊢
  obtain ⟨loaded, same⟩ := asRoot_succeedsAs json _ zero
  rw [same]
  exact loadFrom_calls library writesApart read memory loaded

end Load

/-- A load that succeeds calls the setters of the entries it found, and takes no other step. -/
theorem load_calls
    {os : Os σ} {host : Host σ} {load : Invocation Proc} {name : CStr} {rest : List CStr} {sys : σ}
    {file : CStr} {content : List Char}
    (commands : Commands load.argv ("profile".toList :: "load".toList :: name :: rest))
    (wet : (filterGlobalFlags load.argv).1.dryRun = false)
    (nonempty : name ≠ [])
    (writesApart : os.WritesApart)
    (found : foundProfile host load.env sys name = some file)
    (read : host.readFile sys file = .ok content)
    (memory : load.memory.allocations = [])
    (success : (load.run (libzenctl os) host sys).1 = 0) :
    (load.run (libzenctl os) host sys).2.steps =
      ((tomlParse content).flatMap (entryCalls os sys load.env)).map .update := by
  obtain ⟨zero, same⟩ := main_succeedsAs commands findHandler_profile
    ⟨libzenctl os, host, load.env⟩ (start sys load.memory) success
  rw [wet] at zero same
  unfold Invocation.run
  rw [same]
  exact @profileLoadCmd_calls _ os ⟨libzenctl os, host, load.env⟩ file content _ rfl writesApart
    name nonempty found read memory _ zero

/-! ## From one to the other -/

/-- A document that fits the parser is loaded as it was saved; its preamble asks for nothing. -/
theorem savedDocument_calls
    {os : Os σ} {host : Host σ} {saving loading : σ} {env : Env} {name : SaveName} {now : Int}
    (entries : ∀ sys path names, host.listDir sys path = some names →
      ∀ entry ∈ names, '\x00' ∉ entry)
    (fits : ∀ kv ∈ writtenEntries name.text now (savedSections os saving host), kv.Representable) :
    (tomlParse (profileText name.text now (savedSections os saving host))).flatMap
        (entryCalls os loading env) =
      (savedKvs os saving host).flatMap (entryCalls os loading env) := by
  obtain ⟨document, -⟩ :=
    @snapshot_produces _ os ⟨libzenctl os, host, env⟩ saving rfl freshConsole rfl
  obtain ⟨c, captured⟩ := @snapshot_captured _ os ⟨libzenctl os, host, env⟩ rfl entries saving
    freshConsole
  rw [document] at captured
  have printed : ∀ s ∈ savedSections os saving host, PrintedSection s := by
    rw [captured]
    exact c.sections_printed
  have preambleIdle : ((preamble name.text now).map (Setting.entry [])).flatMap
      (entryCalls os loading env) = [] := by
    simp [preamble, Setting.entry, entryCalls]
  rw [(tomlParse_profileText_iff name.cString printed).mpr fits, writtenEntries,
    List.flatMap_append, preambleIdle, List.nil_append]
  rfl

/--
A profile is saved, other commands run that do not touch its file, and it is
loaded; the first and the last exit with status zero.
-/
structure SavedThenLoaded (os : Os σ) (host : Host σ) (name : SaveName) (save : Invocation Proc)
    (others : List (Invocation Proc)) (load : Invocation Proc) (sys : σ) : Prop where
  saves : ∃ rest, Commands save.argv ("profile".toList :: "save".toList :: name.text :: rest)
  saveWet : (filterGlobalFlags save.argv).1.dryRun = false
  saveMemory : save.memory.allocations = []
  saved : (save.run (libzenctl os) host sys).1 = 0
  /-- The parser can deliver every entry of the document. -/
  fits : ∀ kv ∈ writtenEntries name.text save.env.now (savedSections os sys host),
    kv.Representable
  elsewhere : ∀ step ∈ sessionSteps (libzenctl os) host others
    (save.run (libzenctl os) host sys).2.sys,
      step.Elsewhere os host (profileFile save.env name.text)
  loads : ∃ rest, Commands load.argv ("profile".toList :: "load".toList :: name.text :: rest)
  loadWet : (filterGlobalFlags load.argv).1.dryRun = false
  loadMemory : load.memory.allocations = []
  found : foundProfile host load.env (session (libzenctl os) host (save :: others) sys)
    name.text = some (profileFile save.env name.text)
  loaded : (load.run (libzenctl os) host
    (session (libzenctl os) host (save :: others) sys)).1 = 0

section Restored

variable {os : Os σ} {host : Host σ} {name : SaveName} {save load : Invocation Proc}
  {others : List (Invocation Proc)} {sys : σ}

/-- The load calls what the saved document asks for, on the machine it finds. -/
theorem SavedThenLoaded.steps
    (story : SavedThenLoaded os host name save others load sys)
    (disk : host.ProfileFile os (profileFile save.env name.text))
    (writesApart : os.WritesApart)
    (entries : ∀ sys path names, host.listDir sys path = some names →
      ∀ entry ∈ names, '\x00' ∉ entry) :
    (load.run (libzenctl os) host (session (libzenctl os) host (save :: others) sys)).2.steps =
      ((savedKvs os sys host).flatMap (entryCalls os
        (session (libzenctl os) host (save :: others) sys) load.env)).map .update := by
  obtain ⟨_, saves⟩ := story.saves
  obtain ⟨_, loads⟩ := story.loads
  have written := save_writes saves story.saveWet disk story.saveMemory story.saved
  have kept := session_keepsFile disk others _ story.elsewhere
  rw [load_calls loads story.loadWet name.accepted.1 writesApart story.found (kept.trans written)
    story.loadMemory story.loaded, savedDocument_calls entries story.fits]

/-- After setters that all succeeded, a file shows the text those of its setters agree on. -/
theorem shows_agreed
    {actions : List Action} {first last : σ} {calls : List Update} {call : Update}
    {assignment : FileAssignment} {display : Display}
    (run : Runs (Acts (libzenctl os) host) first actions last)
    (succeeded : attempts actions = calls.map fun call => (call, true))
    (onlySetters : ∀ action ∈ actions, ∃ call, action.step = .update call)
    (assigns : ∀ call ∈ calls, call.assignment.isSome = true)
    (writesApart : os.WritesApart)
    (stores : os.Stores display (assignment.file os))
    (member : call ∈ calls) (shape : call.assignment = some assignment)
    (written : assignment.text ≠ [])
    (agree : ∀ other ∈ calls, ∀ another, other.assignment = some another →
      another.file os = assignment.file os → another.text = assignment.text) :
    os.Displays display last (assignment.file os) assignment.text := by
  have allKeep : ∀ attempt ∈ attempts actions, attempt.1.file os ≠ some (assignment.file os) →
      attempt.1.Keeps os (os.openRead · (assignment.file os)) := by
    rw [succeeded]
    exact List.forall_mem_map.mpr fun call called =>
      Update.keeps_other writesApart (assigns call called)
  have follows := settings_follow run allKeep stores
    fun step member before after acts => by
      obtain ⟨call, same⟩ := onlySetters _ member
      cases acts <;> cases same
  have register : assignAll (fun _ => none) ((attempts actions).filterMap (made os))
      (assignment.file os) = some assignment.text := by
    refine assignAll_agree (List.mem_filterMap.mpr ⟨(call, true), ?_, ?_⟩) ?_
    · rw [succeeded]
      exact List.mem_map_of_mem member
    · exact made_of_written shape written
    · rintro entry inEntries sameFile
      obtain ⟨attempt, tried, wrote⟩ := List.mem_filterMap.mp inEntries
      rw [succeeded] at tried
      obtain ⟨other, inCalls, rfl⟩ := List.mem_map.mp tried
      obtain ⟨another, shapeOther, -, rfl⟩ := assignment_of_made wrote
      exact congrArg some (agree other inCalls another shapeOther sameFile)
  rwa [register] at follows

/--
A profile carries the settings over: the load calls exactly the setters of what
was saved, for the devices it finds, and afterwards the getter of each of them
delivers the saved value, whatever was changed in between.
-/
theorem profile_carriesOver
    (story : SavedThenLoaded os host name save others load sys)
    (disk : host.ProfileFile os (profileFile save.env name.text))
    (writesApart : os.WritesApart)
    (entries : ∀ sys path names, host.listDir sys path = some names →
      ∀ entry ∈ names, '\x00' ∉ entry) :
    let atLoad := session (libzenctl os) host (save :: others) sys
    let run := load.run (libzenctl os) host atLoad
    ∃ calls : List Update, run.2.steps = calls.map .update ∧
      (∀ call, call ∈ calls ↔ Carried os host sys atLoad load.env call) ∧
      ∀ call ∈ calls, (∀ file ∈ call.file os, os.Stores call.display file) →
        (∀ cpu governor, call = .cpuSetGovernor cpu governor →
          ∀ last ∈ governor.getLast?, isSpace last = false) →
        ∃ reading, call.reading = some reading ∧
          os.Delivers run.2.sys reading.query reading.value := by
  intro atLoad run
  have steps := story.steps disk writesApart entries
  refine ⟨_, steps, fun call => ⟨carried_of_saved, saved_of_carried⟩, ?_⟩
  intro call member stores solid
  have allCarried : ∀ other ∈ (savedKvs os sys host).flatMap (entryCalls os atLoad load.env),
      Carried os host sys atLoad load.env other := fun _ => carried_of_saved
  generalize (savedKvs os sys host).flatMap (entryCalls os atLoad load.env) = calls at *
  have carried := allCarried call member
  obtain ⟨assignment, shape⟩ := Option.isSome_iff_exists.mp carried.assigns
  obtain ⟨reading, readable⟩ := Option.isSome_iff_exists.mp carried.reads
  obtain ⟨actions, leads, recorded, called⟩ :=
    @session_succeeds _ _ (libzenctl os) host [load] atLoad ⟨story.loaded, trivial⟩
  have allSteps : sessionSteps (libzenctl os) host [load] atLoad = calls.map .update :=
    (List.append_nil _).trans steps
  rw [allSteps] at recorded called
  rw [setters_updates] at called
  have onlySetters : ∀ action ∈ actions, ∃ call, action.step = .update call := by
    intro action inActions
    have taken : action.step ∈ (calls.map Step.update).filter Step.changesState :=
      recorded ▸ List.mem_map_of_mem inActions
    obtain ⟨other, -, same⟩ := List.mem_map.mp (List.mem_of_mem_filter taken)
    exact ⟨other, same.symm⟩
  have itsFile : call.file os = some (assignment.file os) := by
    rw [Update.file, shape, Option.map_some]
  have admitted := admitted_of_succeeded leads shape (called ▸ List.mem_map_of_mem member)
  have shown := shows_agreed leads called onlySetters
    (fun other here => (allCarried other here).assigns) writesApart (stores _ itsFile) member shape
    (carried.inProfile.written shape admitted)
    fun other here another shapeOther sameFile =>
      (allCarried other here).oneText carried shapeOther shape sameFile
  exact ⟨reading, readable, .of_answers (call.reads shape readable admitted
    (carried.inRange solid) shown)⟩

end Restored

/-! ## A small story -/

theorem attributeHost_profileFile
    {file : CStr} (noSys : startsWith "/sys/" file = false)
    (noProc : startsWith "/proc/" file = false) :
    attributeHost.ProfileFile attributeOs file where
  written _ _ := by simp [attributeHost]
  mkdirMachine _ _ := .refl _
  openMachine files := by
    refine ⟨⟨fun path device => ?_, fun _ _ => rfl⟩, rfl⟩
    have different : path ≠ file := by
      rintro rfl
      rcases device with sys | proc
      · rw [noSys] at sys
        cases sys
      · rw [noProc] at proc
        cases proc
    simp [attributeOs, memoryOs, attributeHost, resolvePath, Function.update_of_ne different]
  mkdir _ _ _ := rfl
  openWrite _ _ different := by simp [attributeHost, Function.update_of_ne different.symm]
  writeOut _ _ _ different := by simp [attributeHost, Function.update_of_ne different.symm]
  unlink _ _ different := by simp [attributeHost, Function.update_of_ne different.symm]

/-- Root runs a command. -/
def byRoot (argv : List String) : Invocation Proc :=
  ⟨smallEnv 0, argv.map String.toList, freshProc⟩

def nightName : SaveName where
  text := "night"
  cString := by decide
  accepted := by decide

/-- The swappiness is saved, changed, the machine suspended, and the profile loaded again. -/
theorem nightStory :
    SavedThenLoaded attributeOs attributeHost nightName (byRoot ["profile", "save", "night"])
      [byRoot ["mem", "set", "swappiness", "10"], byRoot ["power", "suspend", "mem", "--confirm"]]
      (byRoot ["profile", "load", "night"])
      tunables where
  saves := ⟨[], by unfold Commands; decide⟩
  saveWet := by decide
  saveMemory := rfl
  saved := by decide +kernel
  fits := by
    unfold TomlKv.Representable SectionText ValueText
    decide +kernel
  elsewhere := by
    have steps : sessionSteps (libzenctl attributeOs) attributeHost
        [byRoot ["mem", "set", "swappiness", "10"], byRoot ["power", "suspend", "mem", "--confirm"]]
        ((byRoot ["profile", "save", "night"]).run (libzenctl attributeOs) attributeHost
          tunables).2.sys = [.update (.memSetSwappiness 10), .update (.powerSuspend .mem)] := by
      decide +kernel
    rw [steps]
    refine List.forall_mem_cons.mpr ⟨?_, List.forall_mem_singleton.mpr ?_⟩
    · exact attributeOs_keepsFile rfl (by decide)
    · have kept : ∀ files text, attributeHost.readFile
          (attributeOs.writeFile files "/sys/power/state".toList text).2
            (profileFile (smallEnv 0) nightName.text) =
          attributeHost.readFile files (profileFile (smallEnv 0) nightName.text) := by
        intro files text
        simp only [attributeHost]
        rw [attributeOs_untouched files (by decide)]
      exact @suspend_keeps _ _ attributeOs
        (attributeHost.readFile · (profileFile (smallEnv 0) nightName.text)) kept .mem
  loads := ⟨[], by unfold Commands; decide⟩
  loadWet := by decide
  loadMemory := rfl
  found := by decide +kernel
  loaded := by decide +kernel

/-- After the load the swappiness is what it was when the profile was saved. -/
theorem nightStory_carriesOver :
    attributeOs.Delivers
      ((byRoot ["profile", "load", "night"]).run (libzenctl attributeOs) attributeHost
        (session (libzenctl attributeOs) attributeHost
          [byRoot ["profile", "save", "night"], byRoot ["mem", "set", "swappiness", "10"],
            byRoot ["power", "suspend", "mem", "--confirm"]]
          tunables)).2.sys
      .memGetSwappiness 60 := by
  obtain ⟨calls, -, exactly, delivers⟩ := profile_carriesOver nightStory
    (attributeHost_profileFile (by decide) (by decide)) attributeOs_writesApart nofun
  have called : .memSetSwappiness 60 ∈ calls := (exactly _).mpr (.swappiness (by decide))
  obtain ⟨reading, readable, delivered⟩ := delivers _ called
    (fun _ _ => attributeOs_shows _) nofun
  cases readable
  exact delivered

end Zenctl
