import Zenctl.ProfileShapes

namespace Zenctl

open CString

/-!
# Footprints of the profile commands

The profile commands work on files of their own.  A command keeps to a set of
paths if it runs alike on two hosts that agree on them; the library it calls is
the same on both.
-/

variable {σ τ α β : Type}

/-- Every call on these paths has the same answer and the same effect. -/
structure Host.AgreeOn (paths : CStr → Prop) (host other : Host σ) : Prop where
  listDir : ∀ path, paths path → ∀ sys, host.listDir sys path = other.listDir sys path
  access : ∀ path, paths path → ∀ sys mode, host.access sys path mode = other.access sys path mode
  readFile : ∀ path, paths path → ∀ sys, host.readFile sys path = other.readFile sys path
  mkdir : ∀ path, paths path → ∀ sys, host.mkdir sys path = other.mkdir sys path
  openWrite : ∀ path, paths path → ∀ sys, host.openWrite sys path = other.openWrite sys path
  writeOut : ∀ path, paths path → ∀ sys text,
    host.writeOut sys path text = other.writeOut sys path text
  unlink : ∀ path, paths path → ∀ sys, host.unlink sys path = other.unlink sys path

/-- On this other host the program runs alike. -/
def ReadM.Alike (program : ReadM σ τ α) (ctx : Ctx σ τ) (host : Host σ) : Prop :=
  ∀ sys console, program ctx sys console = program { ctx with host := host } sys console

@[inherit_doc ReadM.Alike]
def CliM.Alike (program : CliM σ τ α) (ctx : Ctx σ τ) (host : Host σ) : Prop :=
  ∀ process, program ctx process = program { ctx with host := host } process

/-! ## Rules -/

section Rules

variable {ctx : Ctx σ τ} {host : Host σ}

/-- A value depends on no machine. -/
theorem ReadM.Alike.pure (value : α) :
    (Pure.pure value : ReadM σ τ α).Alike ctx host :=
  fun _ _ => rfl

/-- Alike steps one after the other. -/
theorem ReadM.Alike.bind
    {program : ReadM σ τ α} {next : α → ReadM σ τ β}
    (first : program.Alike ctx host) (second : ∀ value, (next value).Alike ctx host) :
    (program >>= next).Alike ctx host := by
  intro sys console
  rw [ReadM.bind_run, ReadM.bind_run, first sys console]
  exact second _ sys _

/-- A value depends on no machine. -/
theorem CliM.Alike.pure (value : α) :
    (Pure.pure value : CliM σ τ α).Alike ctx host :=
  fun _ => rfl

/-- Alike steps one after the other. -/
theorem CliM.Alike.bind
    {program : CliM σ τ α} {next : α → CliM σ τ β}
    (first : program.Alike ctx host) (second : ∀ value, (next value).Alike ctx host) :
    (program >>= next).Alike ctx host := by
  intro process
  rw [CliM.bind_run, CliM.bind_run, first process]
  exact second _ _

/-- What follows may rely on what was read in this context. -/
theorem CliM.Alike.readingOf
    {program : ReadM σ τ α} {next : α → CliM σ τ β} (kind : α → Prop)
    (first : program.Alike ctx host) (delivers : ∀ sys console, kind (program ctx sys console).1)
    (second : ∀ value, kind value → (next value).Alike ctx host) :
    (reading program >>= next).Alike ctx host := by
  intro process
  rw [CliM.bind_run, CliM.bind_run, reading_run, reading_run, ← first process.sys process.console]
  exact second _ (delivers _ _) _

/-- A choice whose condition may be used in both branches. -/
theorem CliM.Alike.iteOf
    {condition : Prop} [Decidable condition] {first second : CliM σ τ α}
    (yes : condition → first.Alike ctx host) (no : ¬ condition → second.Alike ctx host) :
    (if condition then first else second).Alike ctx host := by
  split
  · next holds => exact yes holds
  · next fails => exact no fails

/-- A choice whose condition does not matter. -/
theorem CliM.Alike.ite
    {condition : Prop} [Decidable condition] {first second : CliM σ τ α}
    (yes : first.Alike ctx host) (no : second.Alike ctx host) :
    (if condition then first else second).Alike ctx host :=
  .iteOf (fun _ => yes) fun _ => no

/-- A reading program, among the changing ones. -/
theorem ReadM.Alike.reading
    {program : ReadM σ τ α} (alike : program.Alike ctx host) :
    (Zenctl.reading program).Alike ctx host := by
  intro process
  rw [reading_run, reading_run, alike process.sys process.console]

/-- The library is the same on both hosts. -/
theorem query_alike (call : Query β) : (query call : ReadM σ τ _).Alike ctx host :=
  fun _ _ => rfl

/-- So is what a setter changes. -/
theorem update_alike (call : Update) : (update call : CliM σ τ _).Alike ctx host :=
  fun _ => rfl

/-- A list of readings. -/
theorem collect_alike
    {program : α → ReadM σ τ β} (each : ∀ item, (program item).Alike ctx host) (items : List α) :
    (collect program items).Alike ctx host := by
  induction items with
  | nil => exact .pure []
  | cons item rest inductionHypothesis =>
      exact .bind (each item) fun _ => .bind inductionHypothesis fun _ => .pure _

/-- A list of steps. -/
theorem collectCli_alike
    {program : α → CliM σ τ β} (each : ∀ item, (program item).Alike ctx host) (items : List α) :
    (collectCli program items).Alike ctx host := by
  induction items with
  | nil => exact .pure []
  | cons item rest inductionHypothesis =>
      exact .bind (each item) fun _ => .bind inductionHypothesis fun _ => .pure _

/-- An error is printed. -/
theorem cliErr_alike (json : Bool) (err : Err) :
    (reading (cliErr json err) : CliM σ τ Int).Alike ctx host := by
  refine ReadM.Alike.reading fun sys console => ?_
  cases json <;> rfl

/-- A report is printed. -/
theorem report_alike
    (json : Bool) (document : CStr) {lines : ReadM σ τ Unit} (printed : lines.Alike ctx host) :
    (reading (report json document lines) : CliM σ τ Int).Alike ctx host := by
  refine ReadM.Alike.reading ?_
  cases json with
  | false => exact .bind printed fun _ => .pure 0
  | true => exact fun _ _ => rfl

/-- The check of the user looks at the environment. -/
theorem cliRequireRoot_alike (json : Bool) :
    (cliRequireRoot json : ReadM σ τ Bool).Alike ctx host := by
  refine .bind (fun _ _ => rfl) fun env => ?_
  by_cases root : env.euid = 0
  · rw [if_pos root]
    exact .pure false
  · rw [if_neg root]
    cases json <;> exact fun _ _ => rfl

/-- A line of a dry run. -/
theorem announce_alike (json : Bool) (what : CStr) :
    (reading (announce json what) : CliM σ τ Int).Alike ctx host := by
  refine ReadM.Alike.reading fun sys console => ?_
  cases json <;> rfl

end Rules

/-! ## Saving -/

section Save

variable {paths : CStr → Prop} {ctx : Ctx σ τ} {host : Host σ}
  (agree : ctx.host.AgreeOn paths host)

/-- A getter whose failure leaves the value out. -/
theorem queryOpt_alike (call : Query β) : (queryOpt call : ReadM σ τ _).Alike ctx host := by
  refine .bind (query_alike call) fun answer => ?_
  cases answer <;> exact .pure _

/-- What is saved of the CPUs. -/
theorem saveCpu_alike : (saveCpu : ReadM σ τ _).Alike ctx host := by
  refine .bind (query_alike _) fun answer => ?_
  cases answer with
  | error err => exact .pure []
  | ok cpu =>
      exact .bind (queryOpt_alike _) fun _ => .bind (queryOpt_alike _) fun _ =>
        .bind (queryOpt_alike _) fun _ => .pure _

/-- What is saved of the memory. -/
theorem saveMemory_alike : (saveMemory : ReadM σ τ _).Alike ctx host :=
  .bind (queryOpt_alike _) fun _ => .bind (queryOpt_alike _) fun _ =>
    .bind (queryOpt_alike _) fun _ => .bind (queryOpt_alike _) fun _ => .pure _

/-- What is saved of one block device. -/
theorem saveDevice_alike (dev : CStr) : (saveDevice dev : ReadM σ τ _).Alike ctx host := by
  refine .bind (query_alike _) fun answer => ?_
  cases answer with
  | error err => exact .pure []
  | ok st => exact .bind (queryOpt_alike _) fun _ => .bind (queryOpt_alike _) fun _ => .pure _

include agree

/-- The whole document comes from the library. -/
theorem snapshot_alike (inside : paths "/sys/block") : (snapshot : ReadM σ τ _).Alike ctx host := by
  have listed : (listDir "/sys/block" : ReadM σ τ _).Alike ctx host := by
    intro sys console
    exact congrArg (·, console) (agree.listDir _ inside sys)
  have storage : (saveStorage : ReadM σ τ _).Alike ctx host := by
    refine .bind listed fun names => ?_
    cases names with
    | none => exact .pure []
    | some names => exact .bind (collect_alike saveDevice_alike _) fun _ => .pure _
  exact .bind saveCpu_alike fun _ => .bind saveMemory_alike fun _ => .bind storage fun _ => .pure _

/-- The directories are made one after the other. -/
theorem mkdirAll_alike {dirs : List CStr} (inside : ∀ dir ∈ dirs, paths dir) :
    (mkdirAll dirs : CliM σ τ Unit).Alike ctx host := by
  induction dirs with
  | nil => exact .pure ()
  | cons dir rest inductionHypothesis =>
      have made : (mkdir dir : CliM σ τ Bool).Alike ctx host := by
        intro process
        unfold mkdir
        rw [agree.mkdir dir (inside dir List.mem_cons_self)]
      refine .bind made fun made => .ite ?_ (.pure ())
      exact inductionHypothesis fun dir member => inside dir (List.mem_cons_of_mem _ member)

/-- The file is opened and written. -/
theorem writeDocument_alike
    {path : CStr} (inside : paths path) (block : paths "/sys/block") (name : CStr) :
    (writeDocument path name : CliM σ τ _).Alike ctx host := by
  have opened : (openWrite path : CliM σ τ _).Alike ctx host := by
    intro process
    unfold openWrite
    rw [agree.openWrite path inside]
  refine .bind opened fun answer => ?_
  cases answer with
  | error reason => exact .pure _
  | ok done =>
      refine .bind (ReadM.Alike.reading fun _ _ => rfl) fun env => ?_
      refine .bind (snapshot_alike agree block).reading fun sections => .bind ?_ fun _ => .pure _
      intro process
      unfold writeOut
      rw [agree.writeOut path inside]

/-- The directories on the way, then the file. -/
theorem profileWrite_alike
    {path : CStr} (inside : paths path) (leads : ∀ dir, LeadsTo dir path → paths dir)
    (block : paths "/sys/block") (name : CStr) (json dryRun : Bool) :
    (profileWrite path name json dryRun : CliM σ τ _).Alike ctx host := by
  have written := writeDocument_alike agree inside block name
  unfold profileWrite
  refine .ite (.bind (ReadM.Alike.reading ?_) fun _ => .pure _) ?_
  · intro sys console
    cases json <;> rfl
  dsimp only
  split
  · next slash =>
    exact .bind (mkdirAll_alike agree fun dir member => leads dir (leadingDirs_leadTo slash dir member))
      fun _ => written
  · exact written

/-- A save works on the file of its name and the directories on the way. -/
theorem profileSaveCmd_alike
    {name : CStr} (inside : paths (savedFile ctx.env name))
    (leads : ∀ dir, LeadsTo dir (savedFile ctx.env name) → paths dir)
    (block : paths "/sys/block") (json dryRun : Bool) :
    (profileSaveCmd name json dryRun : CliM σ τ Int).Alike ctx host := by
  refine .ite (cliErr_alike _ _) (.ite (cliErr_alike _ _) ?_)
  refine .readingOf (· = ctx.env) (fun _ _ => rfl) (fun _ _ => rfl) ?_
  rintro _ rfl
  refine .bind (profileWrite_alike agree inside leads block name json dryRun) fun written => ?_
  cases written with
  | none => exact report_alike _ _ (.bind (fun _ _ => rfl) fun _ _ _ => rfl)
  | some err => exact cliErr_alike _ _

end Save

/-! ## Loading -/

section Load

variable {ctx : Ctx σ τ} {host : Host σ}

/-- The status of a setter. -/
theorem applied_alike (call : Update) :
    (do match ← update call with
        | .ok _ => pure 0
        | .error _ => pure (-1) : CliM σ τ Int).Alike ctx host := by
  refine .bind (update_alike call) fun answer => ?_
  cases answer <;> exact .pure _

/-- An entry for every CPU goes to the library. -/
theorem applyAllCpus_alike (call : CpuHandle → Update) :
    (applyAllCpus call : CliM σ τ Int).Alike ctx host := by
  have round : ∀ index, (applyCpu call index : CliM σ τ Int).Alike ctx host := by
    intro index
    refine .bind (query_alike _).reading fun answer => ?_
    cases answer with
    | error err => exact .pure 0
    | ok cpu => exact applied_alike _
  exact .bind (ReadM.Alike.reading fun _ _ => rfl) fun _ =>
    .bind (collectCli_alike round _) fun _ => .pure _

/-- An entry for one device goes to the library. -/
theorem applyOne_alike (json dryRun : Bool) (wouldDo : CStr) (call : Update) :
    (applyOne json dryRun wouldDo call : CliM σ τ Int).Alike ctx host :=
  .ite (announce_alike _ _) (applied_alike call)

/-- The entries of the section `cpu`. -/
theorem loadCpuKv_alike (kv : TomlKv) (json dryRun : Bool) :
    (loadCpuKv kv json dryRun : CliM σ τ Int).Alike ctx host := by
  refine .ite (.ite (.pure 0) (.ite (announce_alike _ _) (applyAllCpus_alike _))) ?_
  refine .ite (.ite (.pure 0) ?_) (.pure 0)
  cases (cliParseInt kv.value).filter (0 ≤ ·) with
  | none => exact .pure 0
  | some hz => exact .ite (announce_alike _ _) (applyAllCpus_alike _)

/-- An integer of the section `memory`. -/
theorem applyMemoryInt_alike (kv : TomlKv) (json dryRun : Bool) (call : Int → Update) :
    (applyMemoryInt kv json dryRun call : CliM σ τ Int).Alike ctx host := by
  refine .ite (.pure 0) ?_
  cases cliParseInt kv.value with
  | none => exact .pure 0
  | some v => exact applyOne_alike _ _ _ _

/-- The entries of the section `memory`. -/
theorem loadMemoryKv_alike (kv : TomlKv) (json dryRun : Bool) :
    (loadMemoryKv kv json dryRun : CliM σ τ Int).Alike ctx host := by
  refine .ite (applyMemoryInt_alike _ _ _ _) (.ite (applyMemoryInt_alike _ _ _ _)
    (.ite (applyMemoryInt_alike _ _ _ _) (.ite (.ite (.pure 0) ?_) (.pure 0))))
  cases parseThpName kv.value with
  | none => exact .pure 0
  | some mode => exact applyOne_alike _ _ _ _

/-- The entries of a `storage` section. -/
theorem loadStorageKv_alike (dev : CStr) (kv : TomlKv) (json dryRun : Bool) :
    (loadStorageKv dev kv json dryRun : CliM σ τ Int).Alike ctx host := by
  refine .bind (query_alike _).reading fun answer => ?_
  cases answer with
  | error err => exact .pure 0
  | ok st =>
      refine .ite (.ite (.pure 0) (applyOne_alike _ _ _ _)) (.ite (.ite (.pure 0) ?_) (.pure 0))
      cases cliParseInt kv.value with
      | none => exact .pure 0
      | some v => exact applyOne_alike _ _ _ _

/-- The entries of a whole file touch no file of the host. -/
theorem profileApply_alike (kvs : List TomlKv) (json dryRun : Bool) :
    (profileApply kvs json dryRun : CliM σ τ Int).Alike ctx host := by
  have round : ∀ kv, (applyKv json dryRun kv : CliM σ τ Int).Alike ctx host := fun kv =>
    .ite (.pure 0) (.ite (loadCpuKv_alike _ _ _) (.ite (loadMemoryKv_alike _ _ _)
      (.ite (loadStorageKv_alike _ _ _ _) (.pure 0))))
  exact .bind (collectCli_alike round _) fun _ => .pure _

variable {paths : CStr → Prop} (agree : ctx.host.AgreeOn paths host) {name : CStr}
  (user : paths (profilePath (userProfileDir ctx.env) name))
  (system : paths (profilePath systemProfileDir name))

include agree user system

/-- Two files are looked for. -/
theorem findProfile_alike (mode : Access) :
    (findProfile name mode : ReadM σ τ _).Alike ctx host := by
  have asked : ∀ path, paths path → (access path mode : ReadM σ τ Bool).Alike ctx host :=
    fun path inside sys console => congrArg (·, console) (agree.access path inside sys mode)
  have looked : (do
      if ← access (profilePath (userProfileDir ctx.env) name) mode then
        pure (some (profilePath (userProfileDir ctx.env) name))
      else if ← access (profilePath systemProfileDir name) mode then
        pure (some (profilePath systemProfileDir name))
      else pure none : ReadM σ τ _).Alike ctx host := by
    refine .bind (asked _ user) fun first => ?_
    cases first with
    | true => exact .pure _
    | false =>
        refine .bind (asked _ system) fun second => ?_
        cases second <;> exact .pure _
  exact fun sys console => looked sys console

omit agree in
/-- Both places a profile is looked for are among the paths. -/
theorem findProfile_inside (mode : Access) (sys : σ) (console : Console τ) :
    ∀ path ∈ (findProfile name mode ctx sys console).1, paths path := by
  intro path found
  have places := findProfile_delivers name mode ctx sys console rfl path found
  simp only [List.mem_cons, List.not_mem_nil, or_false] at places
  rcases places with rfl | rfl
  · exact user
  · exact system

omit user system in
/-- One file is read. -/
theorem loadFrom_alike
    {path : CStr} (inside : paths path) (name : CStr) (json dryRun : Bool) :
    (loadFrom path name json dryRun : CliM σ τ Int).Alike ctx host := by
  have parsed : (tomlParseFile path : ReadM σ τ _).Alike ctx host := by
    have read : (readFile path : ReadM σ τ _).Alike ctx host := by
      intro sys console
      exact congrArg (·, console) (agree.readFile path inside sys)
    refine .bind read fun content => ?_
    cases content <;> exact .pure _
  refine .bind parsed.reading fun parsed => ?_
  cases parsed with
  | error err => exact cliErr_alike _ _
  | ok kvs =>
      refine .bind (profileApply_alike kvs json dryRun) fun rc => .ite ?_ ?_
      · exact report_alike _ _ (.bind (fun _ _ => rfl) fun _ =>
          .bind (fun _ _ => rfl) fun _ _ _ => rfl)
      · refine .bind (ReadM.Alike.reading fun sys console => ?_) fun _ => .pure rc
        cases json <;> rfl

/-- A load works on the two files of its name. -/
theorem profileLoadCmd_alike (json dryRun : Bool) :
    (profileLoadCmd name json dryRun : CliM σ τ Int).Alike ctx host := by
  refine .ite (cliErr_alike _ _) ?_
  refine .readingOf (fun found => ∀ path ∈ found, paths path)
    (findProfile_alike agree user system .read) (findProfile_inside user system .read) ?_
  intro found inside
  cases found with
  | none => exact cliErr_alike _ _
  | some path =>
      have loaded := loadFrom_alike agree (inside path rfl) name json dryRun
      exact .ite loaded (.bind (cliRequireRoot_alike json).reading fun stopped =>
        .ite (.pure (-1)) loaded)

/-- So does a delete. -/
theorem profileDeleteCmd_alike (json : Bool) :
    (profileDeleteCmd name json : CliM σ τ Int).Alike ctx host := by
  refine .ite (cliErr_alike _ _) ?_
  refine .readingOf (fun found => ∀ path ∈ found, paths path)
    (findProfile_alike agree user system .write) (findProfile_inside user system .write) ?_
  intro found inside
  cases found with
  | none => exact cliErr_alike _ _
  | some path =>
      have removed : (unlink path : CliM σ τ _).Alike ctx host := by
        intro process
        unfold unlink
        rw [agree.unlink path (inside path rfl)]
      refine .bind removed fun answer => ?_
      cases answer with
      | error reason => exact cliErr_alike _ _
      | ok done => exact report_alike _ _ (.bind (fun _ _ => rfl) fun _ _ _ => rfl)

end Load

end Zenctl
