import Zenctl.ExitStatus
import Zenctl.Guards
import Zenctl.ShapedPlatforms

namespace Zenctl

open CString RelationalLogic LabelledRuns

/-!
# Profiles under the flags

Loading a profile makes or previews one change for each entry, saving writes a
file, deleting removes one.  These commands do not have the shape of the others,
so what the flags do to them is proved here.
-/

variable {σ τ α β : Type}

/-! ## The JSON flag -/

/-- The line of a dry run is left out under `--json`. -/
theorem announce_inStep (what : CStr) :
    (announce true what : ReadM σ τ Int).InStep (announce false what) :=
  .silent (fun _ _ _ => ⟨rfl, rfl⟩) fun _ _ _ => ⟨rfl, rfl⟩

/-- One CPU. -/
theorem applyCpu_inStep (call : CpuHandle → Update) (index : Int) :
    (applyCpu call index : CliM σ τ Int).InStep (applyCpu call index) := by
  refine .bind (.reading (.query _)) fun answer => ?_
  cases answer with
  | error err => exact .pure _
  | ok cpu =>
      refine .bind (.update _) fun result => ?_
      cases result with
      | error err => exact .pure _
      | ok done => exact .pure _

/-- All of them. -/
theorem applyAllCpus_inStep (call : CpuHandle → Update) :
    (applyAllCpus call : CliM σ τ Int).InStep (applyAllCpus call) :=
  .bind (.reading .getEnv) fun _ => .bind (.collectCli (applyCpu_inStep call) _) fun _ => .pure _

/-- One device, or the line of a dry run. -/
theorem applyOne_inStep (dryRun : Bool) (wouldDo : CStr) (call : Update) :
    (applyOne true dryRun wouldDo call : CliM σ τ Int).InStep
      (applyOne false dryRun wouldDo call) := by
  refine .ite (fun _ => .reading (announce_inStep _)) fun _ => .bind (.update _) fun result => ?_
  cases result with
  | error err => exact .pure _
  | ok done => exact .pure _

/-- The entries of the section `cpu`. -/
theorem loadCpuKv_inStep (kv : TomlKv) (dryRun : Bool) :
    (loadCpuKv kv true dryRun : CliM σ τ Int).InStep (loadCpuKv kv false dryRun) := by
  unfold loadCpuKv
  refine .ite (fun _ => .ite (fun _ => .pure _) fun _ => .ite (fun _ =>
    .reading (announce_inStep _)) fun _ => applyAllCpus_inStep _) fun _ => .ite (fun _ =>
    .ite (fun _ => .pure _) fun _ => ?_) fun _ => .pure _
  cases (cliParseInt kv.value).filter (0 ≤ ·) with
  | none => exact .pure _
  | some hz =>
      exact .ite (fun _ => .reading (announce_inStep _)) fun _ => applyAllCpus_inStep _

/-- An integer of the section `memory`. -/
theorem applyMemoryInt_inStep (kv : TomlKv) (dryRun : Bool) (call : Int → Update) :
    (applyMemoryInt kv true dryRun call : CliM σ τ Int).InStep
      (applyMemoryInt kv false dryRun call) := by
  refine .ite (fun _ => .pure _) fun _ => ?_
  cases cliParseInt kv.value with
  | none => exact .pure _
  | some v => exact applyOne_inStep _ _ _

/-- The entries of the section `memory`. -/
theorem loadMemoryKv_inStep (kv : TomlKv) (dryRun : Bool) :
    (loadMemoryKv kv true dryRun : CliM σ τ Int).InStep (loadMemoryKv kv false dryRun) := by
  refine .ite (fun _ => applyMemoryInt_inStep _ _ _) fun _ =>
    .ite (fun _ => applyMemoryInt_inStep _ _ _) fun _ =>
    .ite (fun _ => applyMemoryInt_inStep _ _ _) fun _ =>
    .ite (fun _ => .ite (fun _ => .pure _) fun _ => ?_) fun _ => .pure _
  cases parseThpName kv.value with
  | none => exact .pure _
  | some mode => exact applyOne_inStep _ _ _

/-- The entries of a `storage` section. -/
theorem loadStorageKv_inStep (dev : CStr) (kv : TomlKv) (dryRun : Bool) :
    (loadStorageKv dev kv true dryRun : CliM σ τ Int).InStep
      (loadStorageKv dev kv false dryRun) := by
  refine .bind (.reading (.query _)) fun answer => ?_
  cases answer with
  | error err => exact .pure _
  | ok st =>
      refine .ite (fun _ => .ite (fun _ => .pure _) fun _ => applyOne_inStep _ _ _) fun _ =>
        .ite (fun _ => .ite (fun _ => .pure _) fun _ => ?_) fun _ => .pure _
      cases cliParseInt kv.value with
      | none => exact .pure _
      | some v => exact applyOne_inStep _ _ _

/-- An entry goes to its section whether the output is a document or not. -/
theorem applyKv_inStep (dryRun : Bool) (kv : TomlKv) :
    (applyKv true dryRun kv : CliM σ τ Int).InStep (applyKv false dryRun kv) :=
  .ite (fun _ => .pure _) fun _ => .ite (fun _ => loadCpuKv_inStep _ _) fun _ =>
    .ite (fun _ => loadMemoryKv_inStep _ _) fun _ => .ite (fun _ => loadStorageKv_inStep _ _ _)
    fun _ => .pure _

/-- The file is read in the same way. -/
theorem tomlParseFile_inStep (path : CStr) :
    (tomlParseFile path : ReadM σ τ _).InStep (tomlParseFile path) := by
  refine .bind (.readFile path) fun content => ?_
  cases content with
  | error reason => exact .pure _
  | ok text => exact .pure _

/-- The reports differ, the steps before them do not. -/
theorem loadFrom_sameOutcome (path name : CStr) (dryRun : Bool) :
    (loadFrom path name true dryRun : CliM σ τ Int).SameOutcome
      (loadFrom path name false dryRun) := by
  refine .bind (.reading (tomlParseFile_inStep path)) fun parsed => ?_
  cases parsed with
  | error err => exact .reading (cliErr_agree err)
  | ok kvs =>
      refine .bind (.bind (.collectCli (applyKv_inStep dryRun) kvs) fun _ => .pure _) fun rc => ?_
      exact .ite (fun _ => .reading (report_agree _ _)) fun _ => .thenPure _

/-- The refusal differs in its text only. -/
theorem asRoot_sameOutcome
    {left right : CliM σ τ Int} (same : left.SameOutcome right) :
    (asRoot true left).SameOutcome (asRoot false right) :=
  .bind (.reading cliRequireRoot_inStep) fun _ =>
    .ite (fun _ => .ofInStep (.pure _)) fun _ => same

/-- The same two places are looked at. -/
theorem findProfile_inStep (name : CStr) (mode : Access) :
    (findProfile name mode : ReadM σ τ _).InStep (findProfile name mode) :=
  .bind .getEnv fun _ => .bind (.access _ _) fun _ => .ite (fun _ => .pure _) fun _ =>
    .bind (.access _ _) fun _ => .ite (fun _ => .pure _) fun _ => .pure _

/-- A load takes the same steps and returns the same status. -/
theorem profileLoadCmd_sameOutcome (name : CStr) (dryRun : Bool) :
    (profileLoadCmd name true dryRun : CliM σ τ Int).SameOutcome
      (profileLoadCmd name false dryRun) := by
  refine .ite (fun _ => .reading (refuse_agree _ _ _)) fun _ =>
    .bind (.reading (findProfile_inStep _ _)) fun found => ?_
  cases found with
  | none => exact .reading (refuse_agree _ _ _)
  | some path =>
      exact .ite (fun _ => loadFrom_sameOutcome _ _ _) fun _ =>
        asRoot_sameOutcome (loadFrom_sameOutcome _ _ _)

/-- So does a delete. -/
theorem profileDeleteCmd_sameOutcome (name : CStr) :
    (profileDeleteCmd name true : CliM σ τ Int).SameOutcome (profileDeleteCmd name false) := by
  refine .ite (fun _ => .reading (refuse_agree _ _ _)) fun _ =>
    .bind (.reading (findProfile_inStep _ _)) fun found => ?_
  cases found with
  | none => exact .reading (refuse_agree _ _ _)
  | some path =>
      refine .bind (.unlink path) fun answer => ?_
      cases answer with
      | error reason => exact .reading (refuse_agree _ _ _)
      | ok done => exact .reading (report_agree _ _)

/-- The directories are made one after the other. -/
theorem mkdirAll_inStep (dirs : List CStr) :
    (mkdirAll dirs : CliM σ τ Unit).InStep (mkdirAll dirs) := by
  induction dirs with
  | nil =>
      exact .pure _
  | cons dir rest inductionHypothesis =>
      exact .bind (.mkdir dir) fun _ => .ite (fun _ => inductionHypothesis) fun _ => .pure _

/-- A list of readings. -/
theorem collect_inStep
    {program : α → ReadM σ τ β} (each : ∀ item, (program item).InStep (program item))
    (items : List α) :
    (collect program items).InStep (collect program items) := by
  induction items with
  | nil =>
      exact .pure _
  | cons item rest inductionHypothesis =>
      exact .bind (each item) fun _ => .bind inductionHypothesis fun _ => .pure _

/-- What is saved of the CPUs. -/
theorem saveCpu_inStep : (saveCpu : ReadM σ τ _).InStep saveCpu :=
  .answer (fun _ => .pure _) fun _ => .bind (queryOpt_inStep _) fun _ =>
    .bind (queryOpt_inStep _) fun _ => .bind (queryOpt_inStep _) fun _ => .pure _

/-- What is saved of the memory. -/
theorem saveMemory_inStep : (saveMemory : ReadM σ τ _).InStep saveMemory :=
  .bind (queryOpt_inStep _) fun _ => .bind (queryOpt_inStep _) fun _ =>
    .bind (queryOpt_inStep _) fun _ => .bind (queryOpt_inStep _) fun _ => .pure _

/-- What is saved of one block device. -/
theorem saveDevice_inStep (dev : CStr) : (saveDevice dev : ReadM σ τ _).InStep (saveDevice dev) :=
  .answer (fun _ => .pure _) fun _ => .bind (queryOpt_inStep _) fun _ =>
    .bind (queryOpt_inStep _) fun _ => .pure _

/-- The whole document. -/
theorem snapshot_inStep : (snapshot : ReadM σ τ _).InStep snapshot := by
  refine .bind saveCpu_inStep fun _ => .bind saveMemory_inStep fun _ => .bind ?_ fun _ => .pure _
  refine .bind (.listDir _) fun names => ?_
  cases names with
  | none => exact .pure _
  | some names => exact .bind (collect_inStep saveDevice_inStep _) fun _ => .pure _

/-- The part of `profile_write` behind `mkpath`. -/
def writeDocument (path name : CStr) : CliM σ τ (Option Err) := do
  match ← openWrite path with
  | .error reason => pure (some (cliMakeErr Err.eio reason path))
  | .ok _ =>
      let env ← reading getEnv
      let sections ← reading snapshot
      writeOut path (profileText name env.now sections)
      pure none

/-- The document is written to the file, not to the terminal. -/
theorem writeDocument_inStep (path name : CStr) :
    (writeDocument path name : CliM σ τ _).InStep (writeDocument path name) := by
  refine .bind (.openWrite path) fun opened => ?_
  cases opened with
  | error reason => exact .pure _
  | ok done =>
      exact .bind (.reading .getEnv) fun _ => .bind (.reading snapshot_inStep) fun _ =>
        .bind (.writeOut _ _) fun _ => .pure _

/-- A dry run prints the document instead. -/
theorem profileWrite_inStep (path name : CStr) (dryRun : Bool) :
    (profileWrite path name true dryRun : CliM σ τ _).InStep
      (profileWrite path name false dryRun) := by
  have written := @writeDocument_inStep σ τ path name
  refine .ite (fun _ => ?_) fun _ => ?_
  · exact .bind (.reading (.silent (fun _ _ _ => ⟨rfl, rfl⟩) fun _ _ _ => ⟨rfl, rfl⟩)) fun _ =>
      .pure _
  · exact .ite (fun _ => .bind (mkdirAll_inStep _) fun _ => written) fun _ => written

/-- So does a save, though its dry run prints the document. -/
theorem profileSaveCmd_sameOutcome (name : CStr) (dryRun : Bool) :
    (profileSaveCmd name true dryRun : CliM σ τ Int).SameOutcome
      (profileSaveCmd name false dryRun) := by
  refine .ite (fun _ => .reading (refuse_agree _ _ _)) fun _ =>
    .ite (fun _ => .reading (refuse_agree _ _ _)) fun _ => .bind (.reading .getEnv) fun env => ?_
  refine .bind (profileWrite_inStep _ _ _) fun written => ?_
  cases written with
  | none => exact .reading (report_agree _ _)
  | some err => exact .reading (cliErr_agree err)

/-- The list says as much in a document as in lines. -/
theorem profileListCmd_agree :
    (profileListCmd true : ReadM σ τ Int).Agree (profileListCmd false) := by
  refine .bind .getEnv fun env => .bind (.listDir _) fun user => .bind (.listDir _) fun system => ?_
  dsimp only
  cases dedup _ with
  | none => exact .ofEnds (fun _ _ _ => rfl) fun _ _ _ => rfl
  | some names => exact report_agree _ _

/-- Every verb of `profile`. -/
theorem cmdProfile_sameOutcome (args : List CStr) (dryRun : Bool) :
    (cmdProfile args true dryRun : CliM σ τ Int).SameOutcome (cmdProfile args false dryRun) := by
  cases args with
  | nil => exact .reading (cliUsage_agree _)
  | cons sub rest =>
      refine .ite (fun _ => .reading profileListCmd_agree) fun _ => ?_
      cases rest with
      | nil => exact .reading (cliUsage_agree _)
      | cons name _ =>
          exact .ite (fun _ => profileSaveCmd_sameOutcome _ _) fun _ =>
            .ite (fun _ => profileLoadCmd_sameOutcome _ _) fun _ =>
            .ite (fun _ => profileDeleteCmd_sameOutcome _) fun _ => .reading (cliUsage_agree _)

/-! ## The exit status -/

section Status

variable {many : Prop} {only : Env → Step → Prop}

/-- The setters a profile can restore. -/
def Restores (call : Update) : Prop :=
  PartOf "cpu".toList call ∨ PartOf "mem".toList call ∨ PartOf "storage".toList call

/-- The file a save writes. -/
def savedFile (env : Env) (name : CStr) : CStr :=
  profilePath (if env.euid = 0 then systemProfileDir else userProfileDir env) name

/-- The path is a directory on the way to the file. -/
def LeadsTo (dir file : CStr) : Prop :=
  ∃ below, file = dir ++ '/' :: below

/--
What a profile command may do: a load restores settings, a save makes the directories
on the way to the file of that name and writes the file, and a delete unlinks one of
the two files a profile of that name can have.
-/
def ProfileStep (args : List CStr) (env : Env) : Step → Prop
  | .update call => args.head? = some "load".toList ∧ Restores call
  | .mkdir path => ∃ name, args.take 2 = ["save".toList, name] ∧ LeadsTo path (savedFile env name)
  | .openWrite path | .writeOut path _ =>
      ∃ name, args.take 2 = ["save".toList, name] ∧ path = savedFile env name
  | .unlink path => ∃ name, args.take 2 = ["delete".toList, name] ∧
      path ∈ [profilePath (userProfileDir env) name, profilePath systemProfileDir name]
  | .prompt .. => False

/-- A setter of a CPU is one that a profile can restore. -/
theorem Sets.cpu
    {call : Update} (part : PartOf "cpu".toList call) : Sets Restores (.update call) :=
  ⟨call, rfl, .inl part⟩

/-- So is a setter of the memory. -/
theorem Sets.mem
    {call : Update} (part : PartOf "mem".toList call) : Sets Restores (.update call) :=
  ⟨call, rfl, .inr (.inl part)⟩

/-- So is a setter of a block device. -/
theorem Sets.storage
    {call : Update} (part : PartOf "storage".toList call) : Sets Restores (.update call) :=
  ⟨call, rfl, .inr (.inr part)⟩

/-- What a setter may do is known whatever the arguments. -/
theorem ProfileStep.restores
    {args : List CStr} {env : Env} {step : Step} (loads : args.head? = some "load".toList)
    (sets : Sets Restores step) :
    ProfileStep args env step := by
  obtain ⟨call, rfl, restores⟩ := sets
  exact ⟨loads, restores⟩

/-- The status of several rounds is zero only if each of them is. -/
theorem allOrMinusOne_eq_zero {results : List Int} :
    allOrMinusOne results = 0 ↔ ∀ result ∈ results, result = 0 := by
  unfold allOrMinusOne
  split
  · next passed => simpa using passed
  · next failed => simpa using failed

/-- Rounds that account for themselves, under one status for all of them. -/
theorem allOrMinusOne_accounted
    {round : α → CliM σ τ Int}
    (each : ∀ item, Accounted True only (round item)) (items : List α) :
    Accounted True only (do
      let results ← collectCli round items
      pure (allOrMinusOne results)) := by
  have shows : RoundShows only (fun status => status = 0) round := by
    intro item ctx process
    obtain ⟨actions, leads, accounts⟩ := each item ctx process
    exact ⟨actions, leads, accounts.within, accounts.honest⟩
  intro ctx process
  obtain ⟨actions, leads, within, passed⟩ := shows.rounds items ctx process
  exact ⟨actions, leads, ⟨within, fun zero => passed (allOrMinusOne_eq_zero.mp zero),
    absurd trivial, absurd trivial⟩⟩

/-- One setter, its outcome mapped to `0` or `-1`. -/
theorem attempt_accounted
    {call : Update} {next : Except Err Unit → CliM σ τ Int}
    (part : ∀ env, only env (.update call))
    (failed : ∀ err, next (.error err) = pure (-1))
    (done : next (.ok ()) = pure 0) :
    Accounted many only (update call >>= next) := by
  refine @update_accounted σ τ many only call (fun answer _ => next answer) part
    (fun err => ⟨-1, by decide, ?_⟩) ?_ true
  · exact fun _ => ⟨pure (-1), failed err, fun _ _ _ => rfl⟩
  · exact fun _ => ⟨pure 0, done, fun _ _ _ => rfl⟩

/-- A CPU that cannot be opened is no failure. -/
theorem applyCpu_accounted
    {call : CpuHandle → Update} (part : ∀ cpu env, only env (.update (call cpu))) (index : Int) :
    Accounted True only (applyCpu call index : CliM σ τ Int) := by
  refine .afterReading fun answer => ?_
  cases answer with
  | error err => exact .ofValue 0
  | ok cpu => exact attempt_accounted (part cpu) (fun _ => rfl) rfl

/-- One setter for each CPU that opens. -/
theorem applyAllCpus_accounted
    {call : CpuHandle → Update} (part : ∀ cpu env, only env (.update (call cpu))) :
    Accounted True only (applyAllCpus call : CliM σ τ Int) :=
  .afterReading fun _ => allOrMinusOne_accounted (applyCpu_accounted part) _

/-- One setter, or none in a dry run. -/
theorem applyOne_accounted
    {call : Update} (part : ∀ env, only env (.update call)) (json dryRun : Bool) (wouldDo : CStr) :
    Accounted True only (applyOne json dryRun wouldDo call : CliM σ τ Int) := by
  unfold applyOne
  split
  · exact .ofReading _
  · exact attempt_accounted part (fun _ => rfl) rfl

/-- The entries of the section `cpu`. -/
theorem loadCpuKv_accounted (kv : TomlKv) (json dryRun : Bool) :
    Accounted True (fun _ => Sets Restores) (loadCpuKv kv json dryRun : CliM σ τ Int) := by
  unfold loadCpuKv
  split
  · split
    · exact .ofValue 0
    · split
      · exact .ofReading _
      · exact applyAllCpus_accounted fun _ _ => .cpu ⟨rfl, .inr rfl⟩
  · split
    · split
      · exact .ofValue 0
      · split
        · exact .ofValue 0
        · split
          · exact .ofReading _
          · exact applyAllCpus_accounted fun _ _ =>
              .cpu (.ite ⟨rfl, .inr rfl⟩ ⟨rfl, .inr rfl⟩)
    · exact .ofValue 0

/-- A text that is no integer is passed over. -/
theorem applyMemoryInt_accounted
    {call : Int → Update} (part : ∀ v env, only env (.update (call v)))
    (kv : TomlKv) (json dryRun : Bool) :
    Accounted True only (applyMemoryInt kv json dryRun call : CliM σ τ Int) := by
  unfold applyMemoryInt
  split
  · exact .ofValue 0
  · split
    · exact .ofValue 0
    · exact applyOne_accounted (part _) _ _ _

/-- The entries of the section `memory`. -/
theorem loadMemoryKv_accounted (kv : TomlKv) (json dryRun : Bool) :
    Accounted True (fun _ => Sets Restores) (loadMemoryKv kv json dryRun : CliM σ τ Int) := by
  unfold loadMemoryKv
  split
  · exact applyMemoryInt_accounted (fun _ _ => .mem ⟨rfl, .inr rfl⟩) _ _ _
  split
  · exact applyMemoryInt_accounted (fun _ _ => .mem ⟨rfl, .inr rfl⟩) _ _ _
  split
  · exact applyMemoryInt_accounted (fun _ _ => .mem ⟨rfl, .inr rfl⟩) _ _ _
  split
  · split
    · exact .ofValue 0
    · split
      · exact .ofValue 0
      · exact applyOne_accounted (fun _ => .mem ⟨rfl, .inr rfl⟩) _ _ _
  · exact .ofValue 0

/-- A device that cannot be opened is no failure. -/
theorem loadStorageKv_accounted (dev : CStr) (kv : TomlKv) (json dryRun : Bool) :
    Accounted True (fun _ => Sets Restores) (loadStorageKv dev kv json dryRun : CliM σ τ Int) := by
  refine .afterReading fun answer => ?_
  cases answer with
  | error err => exact .ofValue 0
  | ok st =>
      dsimp only
      split
      · split
        · exact .ofValue 0
        · exact applyOne_accounted (fun _ => .storage ⟨rfl, .inr rfl⟩) _ _ _
      split
      · split
        · exact .ofValue 0
        · split
          · exact .ofValue 0
          · exact applyOne_accounted (fun _ => .storage ⟨rfl, .inr rfl⟩) _ _ _
      · exact .ofValue 0

/-- An entry of another section is passed over. -/
theorem applyKv_accounted (json dryRun : Bool) (kv : TomlKv) :
    Accounted True (fun _ => Sets Restores) (applyKv json dryRun kv : CliM σ τ Int) := by
  unfold applyKv
  split
  · exact .ofValue 0
  split
  · exact loadCpuKv_accounted _ _ _
  split
  · exact loadMemoryKv_accounted _ _ _
  split
  · exact loadStorageKv_accounted _ _ _ _
  · exact .ofValue 0

/-- A report behind a program that accounts for itself, and is honest about its result. -/
theorem Accounted.thenReport
    {program : CliM σ τ Int} {report : Int → CliM σ τ Int}
    (accounted : Accounted True only program)
    (quiet : ∀ rc ctx process, Untouched process (report rc ctx process).2)
    (honest : ∀ rc ctx process, (report rc ctx process).1 = 0 → rc = 0) :
    Accounted True only (program >>= report) := by
  intro ctx process
  obtain ⟨actions, leads, accounts⟩ := accounted ctx process
  obtain ⟨sameSys, sameSteps⟩ := quiet _ ctx (program ctx process).2
  refine ⟨actions, ⟨?_, sameSteps.trans leads.recorded⟩,
    ⟨accounts.within, fun zero => accounts.honest (honest _ _ _ zero), absurd trivial,
      absurd trivial⟩⟩
  rw [CliM.bind_run, sameSys]
  exact leads.run

/-- The status of a load is that of its entries. -/
theorem loadFrom_accounted (path name : CStr) (json dryRun : Bool) :
    Accounted True (fun _ => Sets Restores) (loadFrom path name json dryRun : CliM σ τ Int) := by
  refine .afterReading fun parsed => ?_
  cases parsed with
  | error err => exact .ofReading _
  | ok kvs =>
      refine .thenReport (allOrMinusOne_accounted (applyKv_accounted json dryRun) kvs) ?_ ?_
      · intro rc ctx process
        by_cases zero : rc = 0
        · simp only [zero, ↓reduceIte, reading_run]
          exact ⟨rfl, rfl⟩
        · simp only [zero, ↓reduceIte, CliM.bind_run, CliM.pure_run, reading_run]
          exact ⟨rfl, rfl⟩
      · intro rc ctx process
        by_cases zero : rc = 0
        · exact fun _ => zero
        · simp only [zero, ↓reduceIte, CliM.bind_run, CliM.pure_run, false_imp_iff]

/-- `profile load` calls the setters of its entries. -/
theorem profileLoadCmd_accounted (name : CStr) (json dryRun : Bool) :
    Accounted True (fun _ => Sets Restores) (profileLoadCmd name json dryRun : CliM σ τ Int) := by
  unfold profileLoadCmd
  split
  · exact .ofReading _
  refine .afterReading fun found => ?_
  cases found with
  | none => exact .ofReading _
  | some path =>
      dsimp only
      split
      · exact loadFrom_accounted _ _ _ _
      · refine .afterReading fun stopped => ?_
        split
        · exact .ofValue _
        · exact loadFrom_accounted _ _ _ _

/-- In this environment the program calls no setter, and its steps on files are of this kind. -/
def CallsNone (env : Env) (files : Step → Prop) (program : CliM σ τ α) : Prop :=
  ∀ ctx process, ctx.env = env → ∃ actions, Leads ctx process actions (program ctx process).2 ∧
    attempts actions = [] ∧ ∀ action ∈ actions, files action.step

namespace CallsNone

variable {env : Env} {files : Step → Prop}

/-- Such programs one after the other. -/
theorem bind
    {program : CliM σ τ α} {next : α → CliM σ τ β}
    (first : CallsNone env files program) (second : ∀ value, CallsNone env files (next value)) :
    CallsNone env files (program >>= next) := by
  intro ctx process here
  obtain ⟨actions, leads, none, within⟩ := first ctx process here
  obtain ⟨more, leadsOn, noMore, moreWithin⟩ :=
    second (program ctx process).1 ctx (program ctx process).2 here
  exact ⟨actions ++ more, leads.trans leadsOn, by rw [attempts_append, none, noMore]; rfl,
    List.forall_mem_append.mpr ⟨within, moreWithin⟩⟩

/-- Without a setter the status accounts for nothing. -/
theorem accounted
    {program : CliM σ τ Int} (none : ∀ env, CallsNone env (only env) program) :
    Accounted many only program := by
  intro ctx process
  obtain ⟨actions, leads, nothing, within⟩ := none ctx.env ctx process rfl
  exact ⟨actions, leads, within, by simp [nothing], by simp [nothing], by simp [nothing]⟩

/-- A reading program takes no step. -/
theorem reading (program : ReadM σ τ α) : CallsNone env files (reading program) :=
  fun _ _ _ => ⟨[], .nothing rfl rfl, rfl, List.forall_mem_nil _⟩

/-- A value takes no step. -/
theorem pure (value : α) : CallsNone env files (pure value : CliM σ τ α) :=
  fun _ _ _ => ⟨[], .nothing rfl rfl, rfl, List.forall_mem_nil _⟩

/-- What is read of a context in this environment. -/
theorem afterReading
    {front : ReadM σ τ α} {next : α → CliM σ τ β} (kind : α → Prop)
    (delivers : ∀ ctx sys console, ctx.env = env → kind (front ctx sys console).1)
    (rest : ∀ value, kind value → CallsNone env files (next value)) :
    CallsNone env files (Zenctl.reading front >>= next) := by
  intro ctx process here
  obtain ⟨actions, ⟨run, recorded⟩, found⟩ := rest _ (delivers ctx _ _ here) ctx
    { process with console := (front ctx process.sys process.console).2 } here
  exact ⟨actions, ⟨run, recorded⟩, found⟩

/-- One step of the host. -/
theorem one
    {program : CliM σ τ α} {step : Step}
    (acts : ∀ ctx process, Acts ctx.lib ctx.host (.host step) process.sys (program ctx process).2.sys)
    (recorded : ∀ ctx process, (program ctx process).2.steps = process.steps ++ [step])
    (changes : step.changesState = true) (file : files step) :
    CallsNone env files program :=
  fun ctx process _ => ⟨[.host step], .one (acts ctx process) (recorded ctx process) changes, rfl,
    by simpa [Action.step] using file⟩

end CallsNone

section Files

variable {env : Env} {files : Step → Prop}

/-- Each step makes one of the directories. -/
theorem mkdirAll_callsNone
    {dirs : List CStr} (inside : ∀ dir ∈ dirs, files (.mkdir dir)) :
    CallsNone env files (mkdirAll dirs : CliM σ τ Unit) := by
  induction dirs with
  | nil =>
      exact .pure _
  | cons dir rest inductionHypothesis =>
      have made : CallsNone env files (mkdir dir : CliM σ τ Bool) :=
        .one (fun _ process => .mkdir dir process.sys) (fun _ _ => rfl) rfl
          (inside dir List.mem_cons_self)
      refine .bind made fun made => ?_
      split
      · exact inductionHypothesis fun dir member => inside dir (List.mem_cons_of_mem _ member)
      · exact .pure _

/-- The file is opened and written. -/
theorem writeDocument_callsNone
    {path : CStr} (opens : files (.openWrite path)) (writes : ∀ text, files (.writeOut path text))
    (name : CStr) :
    CallsNone env files (writeDocument path name : CliM σ τ _) := by
  have opened : CallsNone env files (openWrite path : CliM σ τ _) :=
    .one (fun _ process => .openWrite path process.sys) (fun _ _ => rfl) rfl opens
  refine .bind opened fun answer => ?_
  cases answer with
  | error reason => exact .pure _
  | ok done =>
      refine .bind (.reading _) fun env => .bind (.reading _) fun sections => ?_
      refine .bind ?_ fun _ => .pure _
      exact .one (fun _ process => .writeOut path _ process.sys) (fun _ _ => rfl) rfl (writes _)

/-- The directories `mkpath` makes before a file is opened lie on the way to it. -/
theorem leadingDirs_leadTo
    {path : CStr} (slash : '/' ∈ bounded 512 path) :
    ∀ dir ∈ leadingDirs (bounded 512 (beforeLast '/' (bounded 512 path))) ++
        [bounded 512 (beforeLast '/' (bounded 512 path))], LeadsTo dir path := by
  obtain ⟨cut, whole⟩ : ∃ cut, path = bounded 512 path ++ cut :=
    ⟨path.drop 511, (List.take_append_drop 511 path).symm⟩
  obtain ⟨rest, shape⟩ := beforeLast_leads slash
  have short : (beforeLast '/' (bounded 512 path)).length < 512 := by
    have kept := congrArg List.length shape
    have bound : (bounded 512 path).length ≤ 511 := List.length_take_le _ _
    simp only [List.length_append, List.length_cons] at kept
    omega
  rw [bounded_eq_self short]
  generalize beforeLast '/' (bounded 512 path) = lead at shape
  have leads : LeadsTo lead path := ⟨rest ++ cut, by rw [whole, shape]; simp⟩
  intro dir member
  rcases List.mem_append.mp member with earlier | last
  · simp only [leadingDirs, List.mem_map, List.mem_filter, Bool.and_eq_true, decide_eq_true_eq]
      at earlier
    obtain ⟨i, ⟨-, -, here⟩, rfl⟩ := earlier
    obtain ⟨inside, isSlash⟩ := List.getElem?_eq_some_iff.mp here
    have split : lead = lead.take i ++ '/' :: lead.drop (i + 1) := by
      rw [← isSlash, List.getElem_cons_drop, List.take_append_drop]
    obtain ⟨below, file⟩ := leads
    refine ⟨lead.drop (i + 1) ++ '/' :: below, ?_⟩
    rw [file]
    conv_lhs => rw [split]
    simp
  · cases List.mem_singleton.mp last
    exact leads

/-- The directories lie on the way to the file that is written. -/
theorem profileWrite_callsNone
    {path : CStr} (makes : ∀ dir, LeadsTo dir path → files (.mkdir dir))
    (opens : files (.openWrite path)) (writes : ∀ text, files (.writeOut path text))
    (name : CStr) (json dryRun : Bool) :
    CallsNone env files (profileWrite path name json dryRun : CliM σ τ _) := by
  have written := @writeDocument_callsNone σ τ env files path opens writes name
  unfold profileWrite
  split
  · exact .bind (.reading _) fun _ => .pure _
  dsimp only
  split
  · next slash =>
    exact .bind (mkdirAll_callsNone fun dir member => makes dir (leadingDirs_leadTo slash dir member))
      fun _ => written
  · exact written

end Files

/-- `profile save` writes the file of its name. -/
theorem profileSaveCmd_callsNone (env : Env) (name : CStr) (rest : List CStr) (json dryRun : Bool) :
    CallsNone env (ProfileStep ("save".toList :: name :: rest) env)
      (profileSaveCmd name json dryRun : CliM σ τ Int) := by
  unfold profileSaveCmd
  split
  · exact .reading _
  split
  · exact .reading _
  refine .afterReading (· = env) (fun _ _ _ here => here) ?_
  rintro _ rfl
  refine .bind (profileWrite_callsNone (fun dir leads => ⟨name, rfl, leads⟩) ⟨name, rfl, rfl⟩
    (fun _ => ⟨name, rfl, rfl⟩) _ _ _) fun written => ?_
  cases written with
  | none => exact .reading _
  | some err => exact .reading _

/-- A profile is looked for in two places. -/
theorem findProfile_delivers
    {env : Env} (name : CStr) (mode : Access) (ctx : Ctx σ τ) (sys : σ) (console : Console τ)
    (here : ctx.env = env) :
    ∀ path ∈ (findProfile name mode ctx sys console).1,
      path ∈ [profilePath (userProfileDir env) name, profilePath systemProfileDir name] := by
  subst here
  intro path found
  simp only [findProfile, ReadM.bind_run, getEnv, ReadM.ite_run, ReadM.pure_run] at found
  split at found
  · cases found
    exact List.mem_cons_self
  · split at found
    · cases found
      simp
    · cases found

/-- `profile delete` removes one of the two files of its name. -/
theorem profileDeleteCmd_callsNone (env : Env) (name : CStr) (rest : List CStr) (json : Bool) :
    CallsNone env (ProfileStep ("delete".toList :: name :: rest) env)
      (profileDeleteCmd name json : CliM σ τ Int) := by
  unfold profileDeleteCmd
  split
  · exact .reading _
  refine .afterReading (fun found => ∀ path ∈ found,
      path ∈ [profilePath (userProfileDir env) name, profilePath systemProfileDir name])
    (findProfile_delivers name .write) fun found places => ?_
  cases found with
  | none => exact .reading _
  | some path =>
      have unlinked : CallsNone env (ProfileStep ("delete".toList :: name :: rest) env)
          (unlink path : CliM σ τ _) :=
        .one (fun _ process => .unlink path process.sys) (fun _ _ => rfl) rfl
          ⟨name, rfl, places path rfl⟩
      refine .bind unlinked fun answer => ?_
      cases answer with
      | error reason => exact .reading _
      | ok done => exact .reading _

/-- The arguments of `profile load`. -/
def LoadsProfile (args : List CStr) : Prop :=
  args.head? = some "load".toList

/-- Every verb of `profile` keeps to its files. -/
theorem cmdProfile_accounted (args : List CStr) (json dryRun : Bool) :
    Accounted (LoadsProfile args) (ProfileStep args)
      (cmdProfile args json dryRun : CliM σ τ Int) := by
  cases args with
  | nil => exact .ofReading _
  | cons sub rest =>
      dsimp only [cmdProfile]
      split
      · exact .ofReading _
      cases rest with
      | nil => exact .ofReading _
      | cons name others =>
          dsimp only
          split
          · next saves =>
            subst saves
            exact CallsNone.accounted fun env => profileSaveCmd_callsNone env name others json dryRun
          split
          · next loads =>
            subst loads
            exact (profileLoadCmd_accounted _ _ _).weaken (fun _ => rfl) fun _ _ => .restores rfl
          split
          · next deletes =>
            subst deletes
            exact CallsNone.accounted fun env => profileDeleteCmd_callsNone env name others json
          · exact .ofReading _

end Status

/-! ## The dry-run flag -/

/-- A dry run of every entry is accepted. -/
def AcceptsAll (program : CliM σ τ Int) : Prop :=
  ∀ ctx process, (program ctx process).1 = 0

/-- Whatever is read first. -/
theorem AcceptsAll.afterReading
    {front : ReadM σ τ α} {next : α → CliM σ τ Int} (rest : ∀ value, AcceptsAll (next value)) :
    AcceptsAll (reading front >>= next) :=
  fun ctx _ => rest _ ctx _

/-- A line of a dry run. -/
theorem announce_accepts (json : Bool) (what : CStr) :
    AcceptsAll (reading (announce json what) : CliM σ τ Int) :=
  fun ctx process => announce_ends json what ctx process.sys process.console

/-- The plan of one setter. -/
theorem applyOne_accepts (json : Bool) (wouldDo : CStr) (call : Update) :
    AcceptsAll (applyOne json true wouldDo call : CliM σ τ Int) :=
  announce_accepts json wouldDo

/-- An integer of the section `memory`. -/
theorem applyMemoryInt_accepts (kv : TomlKv) (json : Bool) (call : Int → Update) :
    AcceptsAll (applyMemoryInt kv json true call : CliM σ τ Int) := by
  unfold applyMemoryInt
  split
  · exact fun _ _ => rfl
  split
  · exact fun _ _ => rfl
  · exact applyOne_accepts _ _ _

/-- The entries of the section `cpu`. -/
theorem loadCpuKv_accepts (kv : TomlKv) (json : Bool) :
    AcceptsAll (loadCpuKv kv json true : CliM σ τ Int) := by
  unfold loadCpuKv
  split
  · split
    · exact fun _ _ => rfl
    · exact announce_accepts _ _
  split
  · split
    · exact fun _ _ => rfl
    split
    · exact fun _ _ => rfl
    · exact announce_accepts _ _
  · exact fun _ _ => rfl

/-- The entries of the section `memory`. -/
theorem loadMemoryKv_accepts (kv : TomlKv) (json : Bool) :
    AcceptsAll (loadMemoryKv kv json true : CliM σ τ Int) := by
  unfold loadMemoryKv
  split
  · exact applyMemoryInt_accepts _ _ _
  split
  · exact applyMemoryInt_accepts _ _ _
  split
  · exact applyMemoryInt_accepts _ _ _
  split
  · split
    · exact fun _ _ => rfl
    split
    · exact fun _ _ => rfl
    · exact applyOne_accepts _ _ _
  · exact fun _ _ => rfl

/-- The entries of a `storage` section. -/
theorem loadStorageKv_accepts (dev : CStr) (kv : TomlKv) (json : Bool) :
    AcceptsAll (loadStorageKv dev kv json true : CliM σ τ Int) := by
  refine .afterReading fun answer => ?_
  cases answer with
  | error err => exact fun _ _ => rfl
  | ok st =>
      dsimp only
      split
      · split
        · exact fun _ _ => rfl
        · exact applyOne_accepts _ _ _
      split
      · split
        · exact fun _ _ => rfl
        split
        · exact fun _ _ => rfl
        · exact applyOne_accepts _ _ _
      · exact fun _ _ => rfl

/-- An entry of any section. -/
theorem applyKv_accepts (json : Bool) (kv : TomlKv) :
    AcceptsAll (applyKv json true kv : CliM σ τ Int) := by
  unfold applyKv
  split
  · exact fun _ _ => rfl
  split
  · exact loadCpuKv_accepts _ _
  split
  · exact loadMemoryKv_accepts _ _
  split
  · exact loadStorageKv_accepts _ _ _
  · exact fun _ _ => rfl

/-- All the entries of a file. -/
theorem profileApply_accepts (kvs : List TomlKv) (json : Bool) :
    AcceptsAll (profileApply kvs json true : CliM σ τ Int) := by
  have rounds : ∀ ctx process,
      ∀ result ∈ (collectCli (applyKv json true) kvs ctx process : List Int × Process σ τ).1,
        result = 0 := by
    intro ctx
    induction kvs with
    | nil =>
        exact fun _ => List.forall_mem_nil _
    | cons kv rest inductionHypothesis =>
        intro process
        simp only [collectCli, CliM.bind_run, CliM.pure_run, List.forall_mem_cons]
        exact ⟨applyKv_accepts json kv ctx process, inductionHypothesis _⟩
  exact fun ctx process => allOrMinusOne_eq_zero.mpr (rounds ctx process)

/-- Only a profile that cannot be read is refused by a dry run. -/
theorem loadFrom_foretells (path name : CStr) (json : Bool) :
    Foretells (loadFrom path name json true : CliM σ τ Int) (loadFrom path name json false) := by
  refine .afterReading fun parsed => ?_
  cases parsed with
  | error err =>
      exact .itself _
  | ok kvs =>
      refine .ofAccepted (fun ctx process => ?_) _
      simp only [CliM.bind_run, profileApply_accepts kvs json ctx process, ↓reduceIte]
      exact report_ends _ _ _ _ _ _

/-- Behind the root check of the command, but not of its preview. -/
theorem Foretells.asRoot
    {preview command : CliM σ τ Int} (foretells : Foretells preview command) (json : Bool) :
    Foretells preview (Zenctl.asRoot json command) := by
  intro ctx process refused
  by_cases root : ctx.env.euid = 0
  · have passed : Zenctl.asRoot json command ctx process = command ctx process := by
      rw [asRoot_root root]
    have alike := foretells ctx process refused
    exact ⟨passed ▸ alike.refused, passed ▸ alike.untouched, fun _ => passed ▸ alike.alike root⟩
  · refine ⟨?_, ?_, fun isRoot => absurd isRoot root⟩
    · simp only [Zenctl.asRoot, CliM.bind_run, reading_run, cliRequireRoot_other root, ↓reduceIte,
        CliM.pure_run]
      decide
    · rw [Untouched, asRoot_other root]
      exact ⟨rfl, rfl⟩

/-- A profile that cannot be found is refused by a load and by its preview. -/
theorem profileLoadCmd_foretells (name : CStr) (json : Bool) :
    Foretells (profileLoadCmd name json true : CliM σ τ Int) (profileLoadCmd name json false) := by
  unfold profileLoadCmd
  split
  · exact .itself _
  refine .afterReading fun found => ?_
  cases found with
  | none => exact .itself _
  | some path => exact (loadFrom_foretells path name json).asRoot json

/-- A name that leaves the directory is refused by a save and by its preview. -/
theorem profileSaveCmd_foretells (name : CStr) (json : Bool) :
    Foretells (profileSaveCmd name json true : CliM σ τ Int) (profileSaveCmd name json false) := by
  unfold profileSaveCmd
  split
  · exact .itself _
  split
  · exact .itself _
  · exact .ofAccepted (fun ctx process => report_ends _ _ _ _ _ _) _

/-- Every verb of `profile`. -/
theorem cmdProfile_foretells
    {args : List CStr} (json : Bool) (keeps : args.head? ≠ some "delete".toList) :
    Foretells (cmdProfile args json true : CliM σ τ Int) (cmdProfile args json false) := by
  cases args with
  | nil => exact .itself _
  | cons sub rest =>
      dsimp only [cmdProfile]
      split
      · exact .itself _
      cases rest with
      | nil => exact .itself _
      | cons name _ =>
          dsimp only
          split
          · exact profileSaveCmd_foretells _ _
          split
          · exact profileLoadCmd_foretells _ _
          split
          · next deletes => exact absurd (congrArg some deletes) keeps
          · exact .itself _

end Zenctl
