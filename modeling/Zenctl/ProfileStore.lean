import Zenctl.ProfileSessions

namespace Zenctl

open CString LabelledRuns

/-!
# The profiles on a disk

The abstract store holds one document for each profile file; a name stands for
the user's file if there is one and for the system's otherwise.  Whatever
commands are run, the files follow it: a save that succeeds stores its document,
a delete that succeeds removes the file its name stood for, and nothing else
changes a profile.
-/

variable {σ : Type}

/-! ## The store -/

/-- The document in each file. -/
abbrev Documents := CStr → Option (List Char)

/-- What a command did to the profiles. -/
inductive StoreEvent where
  | saved (file : CStr) (text : List Char)
  | deleted (file : CStr)
  | kept
  deriving Repr, DecidableEq

/-- The documents after the event. -/
def StoreEvent.apply (store : Documents) : StoreEvent → Documents
  | .saved file text => Function.update store file (some text)
  | .deleted file => Function.update store file none
  | .kept => store

/-- The file a name stands for: a profile of the user hides one of the system. -/
def Documents.lookup (store : Documents) (env : Env) (name : CStr) : Option CStr :=
  [profilePath (userProfileDir env) name, profilePath systemProfileDir name].find? fun file =>
    (store file).isSome

/-! ## The files -/

/-- The documents that can be read. -/
def Host.documents (host : Host σ) (sys : σ) : Documents :=
  fun file => (host.readFile sys file).toOption

/-- These files are on a disk: they keep what is written, and are no devices. -/
structure Host.Disk (host : Host σ) (mine : CStr → Prop) : Prop where
  readable : ∀ sys file, mine file →
    host.access sys file .read = (host.documents sys file).isSome
  mkdir : ∀ sys path file, mine file →
    host.documents (host.mkdir sys path).2 file = host.documents sys file
  /-- Where the file cannot be opened for writing, nothing is truncated. -/
  openWrite : ∀ sys path file, mine file →
    (file = path → ∃ reason, (host.openWrite sys path).1 = .error reason) →
    host.documents (host.openWrite sys path).2 file = host.documents sys file
  writeOut : ∀ sys path text file, mine file →
    host.documents (host.writeOut sys path text) file =
      Function.update (host.documents sys) path (some text) file
  unlink : ∀ sys path file, mine file → (host.unlink sys path).1 = .ok () →
    host.documents (host.unlink sys path).2 file =
      Function.update (host.documents sys) path none file
  unlinkFails : ∀ sys path file reason, mine file → (host.unlink sys path).1 = .error reason →
    host.documents (host.unlink sys path).2 file = host.documents sys file

/-- A setter of the step writes none of the files. -/
def Step.Apart (os : Os σ) (host : Host σ) (mine : CStr → Prop) (step : Step) : Prop :=
  ∀ call, step = .update call → ∀ file, mine file → call.Keeps os (host.documents · file)

/-- The profile files hold what they held. -/
def SameProfiles (host : Host σ) (mine : CStr → Prop) (sys later : σ) : Prop :=
  ∀ file, mine file → host.documents later file = host.documents sys file

/-- The profile files hold what the event leaves. -/
def Leaves (host : Host σ) (mine : CStr → Prop) (sys : σ) (event : StoreEvent) (later : σ) :
    Prop :=
  ∀ file, mine file → host.documents later file = event.apply (host.documents sys) file

/-! ## One command -/

/-- On the way directories were made and files opened, and no setter was called. -/
def Prepared (ctx : Ctx σ Proc) (sys later : σ) : Prop :=
  ∃ actions, Runs (Acts ctx.lib ctx.host) sys actions later ∧ attempts actions = []

theorem Prepared.trans
    {ctx : Ctx σ Proc} {sys middle later : σ}
    (front : Prepared ctx sys middle) (back : Prepared ctx middle later) :
    Prepared ctx sys later := by
  obtain ⟨actions, run, none⟩ := front
  obtain ⟨more, runOn, noMore⟩ := back
  exact ⟨actions ++ more, run.append runOn, by rw [attempts_append, none, noMore]; rfl⟩

/-- What a `profile` command with these arguments and this status does to the profiles. -/
inductive Handled (ctx : Ctx σ Proc) (args : List CStr) (dryRun : Bool) (sys : σ) :
    Int → StoreEvent → Prop
  | saved {name : CStr} {rest : List CStr} {opened : σ} (console : Console Proc)
      (saves : args = "save".toList :: name :: rest) (wet : dryRun = false)
      (prepared : Prepared ctx sys opened) :
      Handled ctx args dryRun sys 0
        (.saved (profileFile ctx.env name)
          (profileText name ctx.env.now (snapshot ctx opened console).1))
  /-- The flag of a dry run is not asked for. -/
  | deleted {name file : CStr} {rest : List CStr} (console : Console Proc)
      (deletes : args = "delete".toList :: name :: rest)
      (found : (findProfile name .write ctx sys console).1 = some file) :
      Handled ctx args dryRun sys 0 (.deleted file)
  | kept {status : Int}
      (noStore : status = 0 → ∀ name rest,
        (args = "save".toList :: name :: rest → dryRun = true) ∧
          args ≠ "delete".toList :: name :: rest) :
      Handled ctx args dryRun sys status .kept

/-- A command that fails has changed no profile. -/
theorem Handled.failed
    {ctx : Ctx σ Proc} {args : List CStr} {dryRun : Bool} {sys : σ} {status : Int}
    (nonzero : status ≠ 0) :
    Handled ctx args dryRun sys status .kept :=
  .kept fun zero => absurd zero nonzero

/-- The arguments neither save nor delete a profile. -/
def StoresNothing (args : List CStr) : Prop :=
  ∀ name rest, args ≠ "save".toList :: name :: rest ∧ args ≠ "delete".toList :: name :: rest

theorem StoresNothing.none : StoresNothing [] :=
  fun _ _ => ⟨(List.cons_ne_nil _ _).symm, (List.cons_ne_nil _ _).symm⟩

/-- A subcommand without a name. -/
theorem StoresNothing.alone (sub : CStr) : StoresNothing [sub] :=
  fun _ _ => ⟨fun same => (List.cons_ne_nil _ _).symm (List.cons.inj same).2,
    fun same => (List.cons_ne_nil _ _).symm (List.cons.inj same).2⟩

theorem StoresNothing.other
    {sub : CStr} {rest : List CStr} (noSave : sub ≠ "save".toList)
    (noDelete : sub ≠ "delete".toList) :
    StoresNothing (sub :: rest) :=
  fun _ _ => ⟨fun same => noSave (List.cons.inj same).1,
    fun same => noDelete (List.cons.inj same).1⟩

theorem StoresNothing.kept
    {ctx : Ctx σ Proc} {args : List CStr} {dryRun : Bool} {sys : σ} {status : Int}
    (idle : StoresNothing args) :
    Handled ctx args dryRun sys status .kept :=
  .kept fun _ name rest => ⟨fun saves => absurd saves (idle name rest).1, (idle name rest).2⟩

theorem Handled.exit
    {ctx : Ctx σ Proc} {args : List CStr} {dryRun : Bool} {sys : σ} {status : Int}
    {event : StoreEvent} (handled : Handled ctx args dryRun sys status event) :
    Handled ctx args dryRun sys (exitStatus status) event := by
  cases handled with
  | saved console saves wet prepared => exact .saved console saves wet prepared
  | deleted console deletes found => exact .deleted console deletes found
  | kept noStore => exact .kept fun zero => noStore (exitStatus_eq_zero.mp zero)

/-- The program does to the profiles what its status says, if its setters write elsewhere. -/
def HandledBy (ctx : Ctx σ Proc) (os : Os σ) (mine : CStr → Prop) (args : List CStr)
    (dryRun : Bool) (program : CliM σ Proc Int) : Prop :=
  ∀ process, (∀ step ∈ (program ctx process).2.steps, step.Apart os ctx.host mine) →
    ∃ event, Handled ctx args dryRun process.sys (program ctx process).1 event ∧
      Leaves ctx.host mine process.sys event (program ctx process).2.sys

section Handlers

variable {ctx : Ctx σ Proc} {os : Os σ} {mine : CStr → Prop}

/-- Setters that write elsewhere change no profile. -/
theorem setters_sameProfiles
    {host : Host σ} {first last : σ} {actions : List Action}
    (run : Runs (Acts (libzenctl os) host) first actions last)
    (setters : ∀ action ∈ actions, ∃ call, action.step = .update call)
    (apart : ∀ action ∈ actions, action.step.Apart os host mine) :
    SameProfiles host mine first last := by
  intro file its
  refine run.unchanged (host.documents · file) fun action member before after acts => ?_
  obtain ⟨setter, shape⟩ := setters action member
  have keeps := apart action member setter shape file its
  cases acts with
  | set call before memory =>
      cases shape
      exact keeps before _
  | mkdir | openWrite | writeOut | unlink => cases shape

/-- The steps of the actions are among those recorded. -/
theorem Leads.apart
    {process later : Process σ Proc} {actions : List Action}
    (leads : Leads ctx process actions later)
    (apart : ∀ step ∈ later.steps, step.Apart os ctx.host mine) :
    ∀ action ∈ actions, action.step.Apart os ctx.host mine := by
  intro action member
  have recorded : action.step ∈ later.steps.filter Step.changesState := by
    rw [leads.recorded]
    exact List.mem_append_right _ (List.mem_map_of_mem member)
  exact apart _ (List.mem_of_mem_filter recorded)

namespace HandledBy

variable {args : List CStr} {dryRun : Bool}

theorem refuses
    {program : ReadM σ Proc Int} {status : Int}
    (ends : program.Ends status) (nonzero : status ≠ 0) :
    HandledBy ctx os mine args dryRun (Zenctl.reading program) :=
  fun _ _ => ⟨.kept, .failed (ne_of_eq_of_ne (ends ctx _ _) nonzero), fun _ _ => rfl⟩

/-- A command that stores nothing and only reports. -/
theorem reports
    {program : ReadM σ Proc Int} (idle : StoresNothing args) :
    HandledBy ctx os mine args dryRun (Zenctl.reading program) :=
  fun _ _ => ⟨.kept, idle.kept, fun _ _ => rfl⟩

/-- A command that stores nothing and calls setters at most. -/
theorem settersOnly
    {many : Prop} {only : Update → Prop} {program : CliM σ Proc Int}
    (library : ctx.lib = libzenctl os)
    (accounted : Accounted many (fun _ => Sets only) program)
    (idle : StoresNothing args) :
    HandledBy ctx os mine args dryRun program := by
  intro process apart
  obtain ⟨actions, leads, accounts⟩ := accounted ctx process
  refine ⟨.kept, idle.kept, ?_⟩
  refine setters_sameProfiles (library ▸ leads.run) (fun action member => ?_)
    (leads.apart apart)
  obtain ⟨call, setter, -⟩ := accounts.within action member
  exact ⟨call, setter⟩

end HandledBy

theorem profileWrite_leaves
    (disk : ctx.host.Disk mine) (path name : CStr) (json : Bool)
    (process : Process σ Proc) :
    ((profileWrite path name json false ctx process).1 = none ∧ ∃ opened console,
      Prepared ctx process.sys opened ∧
      Leaves ctx.host mine process.sys
        (.saved path (profileText name ctx.env.now (snapshot ctx opened console).1))
        (profileWrite path name json false ctx process).2.sys) ∨
    ((profileWrite path name json false ctx process).1 ≠ none ∧
      SameProfiles ctx.host mine process.sys
        (profileWrite path name json false ctx process).2.sys) := by
  obtain ⟨ready, ⟨made, same⟩, -, run⟩ := profileWrite_run
    (fun sys later => Prepared ctx sys later ∧ SameProfiles ctx.host mine sys later)
    (fun sys => ⟨⟨[], .nil sys, rfl⟩, fun _ _ => rfl⟩)
    (fun _ _ _ first second => ⟨first.1.trans second.1,
      fun file its => (second.2 file its).trans (first.2 file its)⟩)
    (fun sys dir => ⟨⟨_, .one (.mkdir dir sys), rfl⟩,
      fun file its => disk.mkdir sys dir file its⟩) path name json process
  rw [run]
  have opening := disk.openWrite ready.sys path
  have opens : Prepared ctx ready.sys (ctx.host.openWrite ready.sys path).2 :=
    ⟨_, .one (.openWrite path ready.sys), rfl⟩
  simp only [writeDocument, CliM.bind_run, openWrite]
  generalize ctx.host.openWrite ready.sys path = opened at opening opens
  obtain ⟨answer, sys⟩ := opened
  cases answer with
  | error reason =>
      refine .inr ⟨Option.some_ne_none _, fun file its => ?_⟩
      exact (opening file its fun _ => ⟨reason, rfl⟩).trans (same file its)
  | ok value =>
      refine .inl ⟨rfl, sys, ready.console, made.trans opens, fun file its => ?_⟩
      refine (disk.writeOut sys path _ file its).trans ?_
      simp only [StoreEvent.apply, Function.update_apply]
      split
      · rfl
      · next elsewhere =>
        exact (opening file its fun here => absurd here elsewhere).trans (same file its)

theorem profileSaveCmd_handled
    (disk : ctx.host.Disk mine) (name : CStr) (rest : List CStr) (json dryRun : Bool) :
    HandledBy ctx os mine ("save".toList :: name :: rest) dryRun
      (profileSaveCmd name json dryRun) := by
  unfold profileSaveCmd
  split
  · exact .refuses (refuse_ends _ _ _ _) (by decide)
  split
  · exact .refuses (refuse_ends _ _ _ _) (by decide)
  intro process _
  cases dryRun with
  | true =>
      have other : "save".toList ≠ "delete".toList := by decide
      exact ⟨.kept, .kept fun _ _ _ => ⟨fun _ => rfl, fun same => other (List.cons.inj same).1⟩,
        fun _ _ => rfl⟩
  | false =>
      have wrote := profileWrite_leaves disk (profileFile ctx.env name) name json process
      rw [CliM.bind_run]
      change ∃ event, Handled ctx _ false process.sys
          ((profileWrite (profileFile ctx.env name) name json false >>= _ : CliM σ Proc Int) ctx
            process).1 event ∧
        Leaves ctx.host mine process.sys event
          ((profileWrite (profileFile ctx.env name) name json false >>= _ : CliM σ Proc Int) ctx
            process).2.sys
      rw [CliM.bind_run]
      generalize profileWrite (profileFile ctx.env name) name json false ctx process = result
        at wrote ⊢
      obtain ⟨answer, later⟩ := result
      cases answer with
      | none =>
          obtain ⟨-, opened, console, prepared, leaves⟩ := wrote.resolve_right fun failed =>
            failed.1 rfl
          exact ⟨_, (report_ends json _ _ ctx later.sys later.console).symm ▸
            .saved console rfl rfl prepared, leaves⟩
      | some err =>
          obtain ⟨-, same⟩ := wrote.resolve_left fun written => Option.some_ne_none err written.1
          exact ⟨.kept, .failed (ne_of_eq_of_ne (cliErr_ends json err ctx _ _) (by decide)), same⟩

theorem profileDeleteCmd_handled
    (disk : ctx.host.Disk mine) (name : CStr) (rest : List CStr) (json dryRun : Bool) :
    HandledBy ctx os mine ("delete".toList :: name :: rest) dryRun (profileDeleteCmd name json) := by
  unfold profileDeleteCmd
  split
  · exact .refuses (refuse_ends _ _ _ _) (by decide)
  intro process _
  rw [CliM.bind_run, reading_run]
  cases found : (findProfile name .write ctx process.sys process.console).1 with
  | none =>
      exact ⟨.kept, .failed (ne_of_eq_of_ne (refuse_ends json _ _ _ ctx _ _) (by decide)),
        fun _ _ => rfl⟩
  | some path =>
      have removed := disk.unlink process.sys path
      have stays := disk.unlinkFails process.sys path
      dsimp only
      rw [CliM.bind_run]
      simp only [unlink]
      generalize ctx.host.unlink process.sys path = unlinked at removed stays ⊢
      obtain ⟨answer, sys⟩ := unlinked
      cases answer with
      | error reason =>
          exact ⟨.kept, .failed (ne_of_eq_of_ne (refuse_ends json _ _ _ ctx _ _) (by decide)),
            fun file its => stays file reason its rfl⟩
      | ok value =>
          refine ⟨.deleted path, ?_, fun file its => removed file its rfl⟩
          exact (report_ends json _ _ ctx _ _).symm ▸ .deleted process.console rfl found

theorem cmdProfile_handled
    (library : ctx.lib = libzenctl os) (disk : ctx.host.Disk mine) (args : List CStr)
    (json dryRun : Bool) :
    HandledBy ctx os mine args dryRun (cmdProfile args json dryRun) := by
  cases args with
  | nil => exact .reports .none
  | cons sub rest =>
      dsimp only [cmdProfile]
      split
      · next lists => exact .reports (.other (by rw [lists]; decide) (by rw [lists]; decide))
      cases rest with
      | nil => exact .reports (.alone sub)
      | cons name others =>
          dsimp only
          split
          · next saves =>
            subst saves
            exact profileSaveCmd_handled disk name others json dryRun
          next noSave =>
          split
          · next loads =>
            exact .settersOnly library (profileLoadCmd_accounted name json dryRun)
              (.other noSave (by rw [loads]; decide))
          split
          · next deletes =>
            subst deletes
            exact profileDeleteCmd_handled disk name others json dryRun
          · next noDelete => exact .reports (.other noSave noDelete)

end Handlers

/-! ## Histories -/

/-- What a command does to the profiles, by its arguments and its exit status. -/
def Records (lib : Library σ Proc) (host : Host σ) (command : Invocation Proc) (sys : σ)
    (event : StoreEvent) : Prop :=
  (∃ args, Commands command.argv ("profile".toList :: args) ∧
    Handled ⟨lib, host, command.env⟩ args (filterGlobalFlags command.argv).1.dryRun sys
      (command.run lib host sys).1 event) ∨
  (event = .kept ∧ ∀ args, ¬Commands command.argv ("profile".toList :: args))

/-- A command of a history, beside what it did to the profiles. -/
structure Stores (lib : Library σ Proc) (host : Host σ) (entry : Invocation Proc × StoreEvent)
    (before after : σ) : Prop where
  ran : after = (entry.1.run lib host before).2.sys
  records : Records lib host entry.1 before entry.2

section Histories

variable {os : Os σ} {host : Host σ} {mine : CStr → Prop}

theorem command_stores
    (disk : host.Disk mine) (command : Invocation Proc) (sys : σ)
    (apart : ∀ step ∈ (command.run (libzenctl os) host sys).2.steps, step.Apart os host mine) :
    ∃ event, Stores (libzenctl os) host (command, event) sys
        (command.run (libzenctl os) host sys).2.sys ∧
      Leaves host mine sys event (command.run (libzenctl os) host sys).2.sys := by
  by_cases profile : ∃ args, Commands command.argv ("profile".toList :: args)
  · obtain ⟨args, commands⟩ := profile
    rcases main_runs commands findHandler_profile ⟨libzenctl os, host, command.env⟩
      (start sys command.memory) with ⟨fails, same⟩ | ⟨status, later⟩
    · refine ⟨.kept, ⟨rfl, .inl ⟨args, commands, .failed fails⟩⟩, ?_⟩
      exact fun file _ => congrArg (host.documents · file) same
    · unfold Invocation.run at apart
      rw [later] at apart
      obtain ⟨event, handled, leaves⟩ := @cmdProfile_handled _ ⟨libzenctl os, host, command.env⟩
        os mine rfl disk args _ _ _ apart
      refine ⟨event, ⟨rfl, .inl ⟨args, commands, ?_⟩⟩, ?_⟩
      · unfold Invocation.run
        rw [status]
        exact handled.exit
      · unfold Invocation.run
        rw [later]
        exact leaves
  · refine ⟨.kept, ⟨rfl, .inr ⟨rfl, not_exists.mp profile⟩⟩, ?_⟩
    obtain ⟨actions, leads, accounts⟩ :=
      runMain_leads ⟨libzenctl os, host, command.env⟩ command.argv sys command.memory
    refine setters_sameProfiles leads.run (fun action member => ?_) (leads.apart apart)
    obtain ⟨domain, args, commands, ⟨call, setter, -⟩ | ⟨rfl, -⟩⟩ := accounts.within action member
    · exact ⟨call, setter⟩
    · exact absurd ⟨args, commands⟩ profile

/-- An event does the same to a file wherever the file held the same. -/
theorem StoreEvent.apply_congr
    {store other : Documents} {file : CStr} (same : store file = other file) (event : StoreEvent) :
    event.apply store file = event.apply other file := by
  cases event with
  | saved path text | deleted path => simp only [StoreEvent.apply, Function.update_apply, same]
  | kept => exact same

theorem session_stores
    (disk : host.Disk mine) (commands : List (Invocation Proc)) (sys : σ)
    (apart : ∀ step ∈ sessionSteps (libzenctl os) host commands sys, step.Apart os host mine)
    (store : Documents) (agrees : ∀ file, mine file → host.documents sys file = store file) :
    ∃ history : List (Invocation Proc × StoreEvent), history.map Prod.fst = commands ∧
      Runs (Stores (libzenctl os) host) sys history (session (libzenctl os) host commands sys) ∧
      ∀ file, mine file → host.documents (session (libzenctl os) host commands sys) file =
        (history.map Prod.snd).foldl StoreEvent.apply store file := by
  induction commands generalizing sys store with
  | nil =>
      exact ⟨[], rfl, .nil sys, agrees⟩
  | cons command rest inductionHypothesis =>
      obtain ⟨here, there⟩ := List.forall_mem_append.mp apart
      obtain ⟨event, stores, leaves⟩ := command_stores disk command sys here
      obtain ⟨history, same, run, follows⟩ := inductionHypothesis
        (command.run (libzenctl os) host sys).2.sys there (event.apply store) fun file its =>
          (leaves file its).trans (event.apply_congr (agrees file its))
      exact ⟨(command, event) :: history, congrArg (command :: ·) same, .cons stores run, follows⟩

end Histories

/-! ## A small store -/

/-- No file of a device. -/
def NoDevice (file : CStr) : Prop :=
  startsWith "/sys/" file = false ∧ startsWith "/proc/" file = false

theorem attributeHost_documents (files : CStr → Option (List Char)) (file : CStr) :
    attributeHost.documents files file = files file := by
  simp only [Host.documents, attributeHost]
  cases files file <;> rfl

theorem attributeHost_disk : attributeHost.Disk NoDevice where
  readable files file _ := by rw [attributeHost_documents]; rfl
  mkdir _ _ _ _ := rfl
  openWrite files path file _ fails := by
    have different : file ≠ path := fun same => by
      obtain ⟨reason, failed⟩ := fails same
      cases failed
    simp only [attributeHost_documents]
    exact Function.update_of_ne different ..
  writeOut files path text file _ := by
    rw [attributeHost_documents, funext (attributeHost_documents files)]
    rfl
  unlink files path file _ _ := by
    rw [attributeHost_documents, funext (attributeHost_documents files)]
    rfl
  unlinkFails _ _ _ _ _ failed := by cases failed

/-- A profile is saved, a tunable set, the machine suspended, and the profile deleted again. -/
def shortLived : List (Invocation Proc) :=
  [byRoot ["profile", "save", "night"], byRoot ["mem", "set", "swappiness", "10"],
    byRoot ["power", "suspend", "mem", "--confirm"], byRoot ["profile", "delete", "night"]]

end Zenctl
