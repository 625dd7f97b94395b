import Zenctl.ReplyRules
import Zenctl.ProfileListing
import Zenctl.ProfileRestore

namespace Zenctl

open CString Condition Json

/-!
# When `zenctl profile` prints a reply

Saving, loading and deleting end in bare fields when they succeed, and a dry
run prints an announcement for every change in front of them.  Loading reports
an error when one of the setters it calls fails.
-/

variable {σ τ α β : Type}

/-! ## Changing programs that print nothing -/

/-- The program depends on the system and the library's memory only, and prints nothing. -/
structure CliM.Acts (program : CliM σ τ α) : Prop where
  silent : ∀ ctx process, (program ctx process).2.console.stdout = process.console.stdout
  value : ∀ ctx process,
    (program ctx process).1 = (program ctx (start process.sys process.console.memory)).1
  sys : ∀ ctx process,
    (program ctx process).2.sys = (program ctx (start process.sys process.console.memory)).2.sys
  memory : ∀ ctx process,
    (program ctx process).2.console.memory =
      (program ctx (start process.sys process.console.memory)).2.console.memory

namespace CliM.Acts

/-- A value. -/
theorem pure (value : α) : (pure value : CliM σ τ α).Acts :=
  ⟨fun _ _ => rfl, fun _ _ => rfl, fun _ _ => rfl, fun _ _ => rfl⟩

/-- A setter changes the system and the memory of the library. -/
theorem update (call : Update) : (update call : CliM σ τ (Except Err Unit)).Acts :=
  ⟨fun _ _ => rfl, fun _ _ => rfl, fun _ _ => rfl, fun _ _ => rfl⟩

/-- A directory is made. -/
theorem mkdir (path : CStr) : (mkdir path : CliM σ τ Bool).Acts :=
  ⟨fun _ _ => rfl, fun _ _ => rfl, fun _ _ => rfl, fun _ _ => rfl⟩

/-- A reading program that prints nothing. -/
theorem reading {program : ReadM σ τ α} (reads : program.Reads) : (reading program).Acts where
  silent ctx process := by rw [reading_run, reads]
  value ctx process := by rw [reading_run, reading_run, reads]; rfl
  sys _ _ := rfl
  memory ctx process := by rw [reading_run, reading_run, reads]; rfl

theorem bind
    {program : CliM σ τ α} {next : α → CliM σ τ β}
    (first : program.Acts) (second : ∀ value, (next value).Acts) :
    (program >>= next).Acts where
  silent ctx process := ((second _).silent ctx _).trans (first.silent ctx process)
  value ctx process := by
    simp only [CliM.bind_run]
    rw [(second _).value, first.value, first.sys, first.memory, ← (second _).value]
  sys ctx process := by
    simp only [CliM.bind_run]
    rw [(second _).sys, first.value, first.sys, first.memory, ← (second _).sys]
  memory ctx process := by
    simp only [CliM.bind_run]
    rw [(second _).memory, first.value, first.sys, first.memory, ← (second _).memory]

theorem ite
    {condition : Prop} [Decidable condition] {first second : CliM σ τ α}
    (whenTrue : condition → first.Acts) (whenFalse : ¬condition → second.Acts) :
    (if condition then first else second).Acts := by
  split
  · next holds => exact whenTrue holds
  · next fails => exact whenFalse fails

end CliM.Acts

/-- Nothing is known of its result. -/
theorem CliM.Acts.yields {program : CliM σ τ α} (acts : program.Acts) :
    program.Yields fun _ => True :=
  fun ctx _ process => ⟨acts.silent ctx process, trivial⟩

/-- What a changing program returns and leaves behind settles how it goes on. -/
def Condition.afterwards (program : CliM σ τ α) (next : α → Condition σ τ) : Condition σ τ :=
  fun ctx sys memory =>
    next (program ctx (start sys memory)).1 ctx (program ctx (start sys memory)).2.sys
      (program ctx (start sys memory)).2.console.memory

/-- The program prints nothing, and its result is of this kind exactly under this condition. -/
def CliM.Settles (program : CliM σ τ α) (kind : α → Prop) (good : Condition σ τ) : Prop :=
  ∀ ctx, ctx.Spells → ∀ process,
    (program ctx process).2.console.stdout = process.console.stdout ∧
      (kind (program ctx process).1 ↔ good ctx process.sys process.console.memory)

namespace CliM.Settles

variable {kind : α → Prop}

/-- A value is of the kind or not. -/
theorem pure {value : α} {holds : Prop} (settles : kind value ↔ holds) :
    (pure value : CliM σ τ α).Settles kind (decided holds) :=
  fun _ _ _ => ⟨rfl, settles⟩

/-- A changing program goes first. -/
theorem acts
    {program : CliM σ τ β} {next : β → CliM σ τ α} {goal : β → Condition σ τ}
    (acts : program.Acts) (second : ∀ value, (next value).Settles kind (goal value)) :
    (program >>= next).Settles kind (afterwards program goal) := by
  intro ctx speaks process
  obtain ⟨silent, settles⟩ := second (program ctx process).1 ctx speaks (program ctx process).2
  refine ⟨silent.trans (acts.silent ctx process), settles.trans ?_⟩
  rw [acts.value, acts.sys, acts.memory]
  rfl

theorem ask
    {call : Query β} {next : Except Err β → CliM σ τ α} {goal : Except Err β → Condition σ τ}
    (second : ∀ answer, (next answer).Settles kind (goal answer)) :
    (reading (query call) >>= next).Settles kind (Condition.ask call goal) :=
  fun ctx speaks _ => second _ ctx speaks _

end CliM.Settles

/-- What the front settles, the rest prints. -/
theorem CliM.Replies.settled
    {program : CliM σ τ α} {next : α → CliM σ τ β} {kind post : α → Prop} {good : Condition σ τ}
    (settles : program.Settles kind good) (yields : program.Yields post)
    (replies : ∀ value, post value → kind value → (next value).Replies always)
    (breaks : ∀ value, ¬kind value → (next value).Replies impossible) :
    (program >>= next).Replies good := by
  intro ctx speaks process
  obtain ⟨silent, settled⟩ := settles ctx speaks process
  have holds := (yields ctx speaks process).2
  by_cases known : kind (program ctx process).1
  · obtain ⟨text, printed, reply⟩ := replies _ holds known ctx speaks (program ctx process).2
    exact ⟨text, printed.trans (congrArg (· ++ text) silent),
      iff_of_true (reply.mpr trivial) (settled.mp known)⟩
  · obtain ⟨text, printed, reply⟩ := breaks _ known ctx speaks (program ctx process).2
    exact ⟨text, printed.trans (congrArg (· ++ text) silent),
      iff_of_false reply.mp fun good => known (settled.mpr good)⟩

/-! ## Announcements -/

/-- The program prints announcements only, and its result has this property. -/
def CliM.Announces (program : CliM σ τ α) (post : α → Prop) : Prop :=
  ∀ ctx, ctx.Spells → ∀ process, post (program ctx process).1 ∧ ∃ whats : List CStr,
    (program ctx process).2.console.stdout =
      process.console.stdout ++ whats.flatMap dryrunJson

/-- Announcements with bare fields behind them. -/
theorem announced_broken (whats : List CStr) (field : Field) (fields : List Field) :
    ¬IsReply (whats.flatMap dryrunJson ++ okBare (field :: fields)) := by
  cases whats with
  | nil => exact okBare_broken field fields
  | cons what others =>
      have opens : ∃ rest, others.flatMap dryrunJson ++ okBare (field :: fields) = '{' :: rest := by
        cases others <;> exact ⟨_, rfl⟩
      obtain ⟨rest, shape⟩ := opens
      rw [List.flatMap_cons, List.append_assoc, shape]
      exact dryrunJson_then_broken what rest

namespace CliM.Announces

variable {program : CliM σ τ α} {post : α → Prop}

/-- Nothing is announced. -/
theorem pure {value : α} (holds : post value) : (pure value : CliM σ τ α).Announces post :=
  fun _ _ process => ⟨holds, [], (List.append_nil process.console.stdout).symm⟩

/-- A program that prints nothing announces nothing. -/
theorem silent (yields : program.Yields post) : program.Announces post := by
  intro ctx speaks process
  obtain ⟨printed, holds⟩ := yields ctx speaks process
  exact ⟨holds, [], printed.trans (List.append_nil process.console.stdout).symm⟩

/-- One announcement. -/
theorem dryrun (what : CStr) :
    (reading (cliDryrun true what) : CliM σ τ Unit).Announces fun _ => True := by
  refine fun _ _ process => ⟨trivial, [what], ?_⟩
  rw [List.flatMap_singleton]
  rfl

theorem bind
    {next : α → CliM σ τ β} {goal : β → Prop}
    (first : program.Announces post)
    (second : ∀ value, post value → (next value).Announces goal) :
    (program >>= next).Announces goal := by
  intro ctx speaks process
  obtain ⟨holds, whats, printed⟩ := first ctx speaks process
  obtain ⟨reached, others, more⟩ := second _ holds ctx speaks (program ctx process).2
  refine ⟨reached, whats ++ others, ?_⟩
  rw [List.flatMap_append, ← List.append_assoc, ← printed]
  exact more

theorem ite
    {condition : Prop} [Decidable condition] {first second : CliM σ τ α}
    (whenTrue : condition → first.Announces post)
    (whenFalse : ¬condition → second.Announces post) :
    (if condition then first else second).Announces post := by
  split
  · next holds => exact whenTrue holds
  · next fails => exact whenFalse fails

theorem collectCli
    {round : α → CliM σ τ β} {goal : β → Prop}
    (announces : ∀ item, (round item).Announces goal) (items : List α) :
    (collectCli round items).Announces fun results => ∀ result ∈ results, goal result := by
  induction items with
  | nil => exact .pure (List.forall_mem_nil _)
  | cons item rest inductionHypothesis =>
      exact .bind (announces item) fun result here => .bind inductionHypothesis
        fun results others => .pure (List.forall_mem_cons.mpr ⟨here, others⟩)

/-- One announcement, with the status of success. -/
theorem announce (what : CStr) :
    (reading (announce true what) : CliM σ τ Int).Announces (· = 0) :=
  .bind (.dryrun what) fun _ _ => .pure rfl

/-- Bare fields behind announcements are no reply. -/
theorem thenBare
    {next : α → CliM σ τ Int} (announces : program.Announces post)
    (bare : ∀ value, post value → ∃ field fields lines,
      next value = reading (report true (okBare (field :: fields)) lines)) :
    (program >>= next).Replies impossible := by
  intro ctx speaks process
  obtain ⟨holds, whats, printed⟩ := announces ctx speaks process
  obtain ⟨field, fields, lines, shape⟩ := bare _ holds
  refine ⟨_, ?_, iff_of_false (announced_broken whats field fields) id⟩
  rw [CliM.bind_run, shape, ← List.append_assoc, ← printed]
  rfl

end CliM.Announces

/-! ## Saving -/

/-- Directories are made without a word. -/
theorem mkdirAll_acts (dirs : List CStr) : (mkdirAll dirs : CliM σ τ Unit).Acts := by
  induction dirs with
  | nil => exact .pure _
  | cons dir rest inductionHypothesis =>
      exact .bind (.mkdir dir) fun _ => .ite (fun _ => inductionHypothesis) fun _ => .pure _

/-- The directories `profile_write` creates in front of the file. -/
def makeDirs (path : CStr) : CliM σ τ Unit :=
  if '/' ∈ bounded 512 path then mkpath (beforeLast '/' (bounded 512 path)) else pure ()

/-- The file cannot be opened for writing. -/
def openFails (path : CStr) : Condition σ τ :=
  fun ctx sys _ => ∃ reason, (ctx.host.openWrite sys path).1 = .error reason

/-- The path `profile save` writes to. -/
def savedPath (env : Env) (name : CStr) : CStr :=
  profilePath (if env.euid = 0 then systemProfileDir else userProfileDir env) name

/-- `profile save`: the name is refused, or the file cannot be opened. -/
def profileSaveReplies (name : CStr) (dryRun : Bool) : Condition σ τ :=
  if name = [] then always
  else if escapesDirectory name then always
  else if dryRun then impossible
  else byEnv fun env =>
    afterwards (makeDirs (savedPath env name)) fun _ => openFails (savedPath env name)

/-- What is saved is read without a word. -/
theorem snapshot_yields :
    (snapshot : ReadM σ τ (List (CStr × List Setting))).Yields fun _ => True := by
  have device : ∀ dev, (saveDevice dev : ReadM σ τ _).Yields fun _ => True := fun dev =>
    .answer (.pure trivial) fun _ _ => .bind (.queryOpt _) fun _ _ =>
      .bind (.queryOpt _) fun _ _ => .pure trivial
  have cpu : (saveCpu : ReadM σ τ _).Yields fun _ => True :=
    .answer (.pure trivial) fun _ _ => .bind (.queryOpt _) fun _ _ =>
      .bind (.queryOpt _) fun _ _ => .bind (.queryOpt _) fun _ _ => .pure trivial
  have memory : (saveMemory : ReadM σ τ _).Yields fun _ => True :=
    .bind (.queryOpt _) fun _ _ => .bind (.queryOpt _) fun _ _ => .bind (.queryOpt _) fun _ _ =>
      .bind (.queryOpt _) fun _ _ => .pure trivial
  have storage : (saveStorage : ReadM σ τ _).Yields fun _ => True := by
    refine .bind (.listDir _) fun names _ => ?_
    cases names with
    | none => exact .pure trivial
    | some names => exact .bind (.collect fun dev _ => device dev) fun _ _ => .pure trivial
  exact .bind cpu fun _ _ => .bind memory fun _ _ => .bind storage fun _ _ => .pure trivial

/-- Whether the file opens decides how a save goes on. -/
theorem openWrite_settles
    {path : CStr} {next : Except CStr Unit → CliM σ τ α} {kind : α → Prop}
    (failed : ∀ reason, (next (.error reason)).Settles kind always)
    (opened : (next (.ok ())).Settles kind impossible) :
    (openWrite path >>= next).Settles kind (openFails path) := by
  intro ctx speaks process
  unfold openFails
  simp only [CliM.bind_run, openWrite]
  cases (ctx.host.openWrite process.sys path).1 with
  | error reason =>
      obtain ⟨silent, settles⟩ := failed reason ctx speaks _
      exact ⟨silent, iff_of_true (settles.mpr trivial) ⟨reason, rfl⟩⟩
  | ok done =>
      obtain ⟨silent, settles⟩ := opened ctx speaks _
      exact ⟨silent, iff_of_false settles.mp ok_no_error⟩

/-- Outside a dry run `profile_write` fails exactly when the file cannot be opened. -/
theorem profileWrite_settles (path name : CStr) :
    (profileWrite path name true false : CliM σ τ (Option Err)).Settles (· ≠ none)
      (afterwards (makeDirs path) fun _ => openFails path) := by
  unfold profileWrite makeDirs
  rw [if_neg Bool.false_ne_true]
  dsimp only
  split
  · exact .acts (mkdirAll_acts _) fun _ => openWrite_settles
      (fun _ => .pure (iff_true_intro (Option.some_ne_none _)))
      fun ctx speaks _ =>
        ⟨(snapshot_yields ctx speaks _ _).1, iff_of_false (fun failed => failed rfl) id⟩
  · exact openWrite_settles (fun _ => .pure (iff_true_intro (Option.some_ne_none _)))
      fun ctx speaks _ =>
        ⟨(snapshot_yields ctx speaks _ _).1, iff_of_false (fun failed => failed rfl) id⟩

/-- The reason of a failure is one of the system's messages. -/
theorem openWrite_yields (path : CStr) :
    (openWrite path : CliM σ τ (Except CStr Unit)).Yields fun opened =>
      ∀ reason, opened = .error reason → IsMessage reason :=
  fun _ speaks process => ⟨rfl, speaks.unopened process.sys path⟩

/-- The error of `profile_write` carries the reason of the system. -/
theorem profileWrite_yields (path name : CStr) :
    (profileWrite path name true false : CliM σ τ (Option Err)).Yields fun outcome =>
      ∀ err ∈ outcome, IsMessage err.message := by
  have reported : ∀ reason, IsMessage reason →
      ∀ err ∈ some (cliMakeErr Err.eio reason path), IsMessage err.message := by
    intro reason known err failed
    rw [← Option.some.inj failed]
    exact cliMakeErr_message known _ _
  unfold profileWrite
  rw [if_neg Bool.false_ne_true]
  dsimp only
  split
  · refine .bind (mkdirAll_acts _).yields fun _ _ => .bind (openWrite_yields path)
      fun opened known => ?_
    cases opened with
    | error reason => exact .pure (reported reason (known reason rfl))
    | ok done =>
        exact fun ctx speaks _ => ⟨(snapshot_yields ctx speaks _ _).1, fun _ none => nomatch none⟩
  · refine .bind (openWrite_yields path) fun opened known => ?_
    cases opened with
    | error reason => exact .pure (reported reason (known reason rfl))
    | ok done =>
        exact fun ctx speaks _ => ⟨(snapshot_yields ctx speaks _ _).1, fun _ none => nomatch none⟩

/-- A save prints bare fields when it succeeds. -/
theorem profileSaveCmd_replies (name : CStr) (dryRun : Bool) :
    (profileSaveCmd name true dryRun : CliM σ τ Int).Replies (profileSaveReplies name dryRun) := by
  refine .ite (fun unnamed => .reading (refuse_replies _ (phrase rfl) _)) fun named => ?_
  refine .ite (fun escapes => .reading (refuse_replies _ (phrase rfl) _)) fun plain => ?_
  cases dryRun with
  | true =>
      have announces : ∀ path, (profileWrite path name true true : CliM σ τ (Option Err)).Announces
          (· = none) := fun path =>
        .bind (.dryrun _) fun _ _ => .pure rfl
      change CliM.Replies _ impossible
      refine .after (.reading .getEnv) fun env _ => ?_
      refine (announces _).thenBare ?_
      rintro outcome rfl
      exact ⟨_, _, _, rfl⟩
  | false =>
      refine .env fun env => .settled (profileWrite_settles (savedPath env name) name)
        (profileWrite_yields _ _) (fun outcome known failed => ?_) fun outcome saved => ?_
      · obtain ⟨err, rfl⟩ := Option.ne_none_iff_exists'.mp failed
        exact .reading (cliErr_replies (known err rfl))
      · rw [not_not.mp saved]
        exact .reading (report_breaks (okBare_broken _ _) _)

/-! ## Loading -/

/-- One of the items fails, each in the state the earlier ones left. -/
def Condition.anyFails (round : α → CliM σ τ Int) (bad : α → Condition σ τ) :
    List α → Condition σ τ
  | [] => impossible
  | item :: rest => fun ctx sys memory =>
      bad item ctx sys memory ∨
        afterwards (round item) (fun _ => anyFails round bad rest) ctx sys memory

/-- The setter of some CPU that can be opened fails. -/
def cpusRefuse (call : CpuHandle → Update) : Condition σ τ :=
  byEnv fun env =>
    let conf := toInt32 env.nprocessorsConf
    anyFails (applyCpu call)
      (fun index => ask (.cpuOpen index) fun
        | .error _ => impossible
        | .ok cpu => refused (call cpu))
      (countUp 0 (if conf < 1 then 1 else conf))

/-- An entry of the `[cpu]` section whose setter fails. -/
def cpuKvRefused (kv : TomlKv) : Condition σ τ :=
  if kv.key = "governor" then
    if kv.isString = false then impossible
    else cpusRefuse fun cpu => .cpuSetGovernor cpu kv.value
  else if kv.key = "freq_min_hz" ∨ kv.key = "freq_max_hz" then
    if kv.isString then impossible
    else
      match (cliParseInt kv.value).filter (0 ≤ ·) with
      | none => impossible
      | some hz =>
          cpusRefuse fun cpu =>
            if kv.key = "freq_min_hz" then .cpuSetFreqMin cpu hz else .cpuSetFreqMax cpu hz
  else impossible

/-- An integer entry of the `[memory]` section whose setter fails. -/
def memoryIntRefused (kv : TomlKv) (call : Int → Update) : Condition σ τ :=
  if kv.isString then impossible
  else
    match cliParseInt kv.value with
    | none => impossible
    | some v => refused (call (toInt32 v))

/-- An entry of the `[memory]` section whose setter fails. -/
def memoryKvRefused (kv : TomlKv) : Condition σ τ :=
  if kv.key = "swappiness" then memoryIntRefused kv .memSetSwappiness
  else if kv.key = "overcommit" then memoryIntRefused kv .memSetOvercommit
  else if kv.key = "vfs_cache_pressure" then memoryIntRefused kv .memSetVfsCachePressure
  else if kv.key = "thp" then
    if kv.isString = false then impossible
    else
      match parseThpName kv.value with
      | none => impossible
      | some mode => refused (.memSetThp mode)
  else impossible

/-- An entry of a `[storage.<dev>]` section whose setter fails. -/
def storageKvRefused (dev : CStr) (kv : TomlKv) : Condition σ τ :=
  ask (.storageOpen dev) fun
    | .error _ => impossible
    | .ok st =>
        if kv.key = "scheduler" then
          if kv.isString = false then impossible else refused (.storageSetScheduler st kv.value)
        else if kv.key = "read_ahead_kb" then
          if kv.isString then impossible
          else
            match cliParseInt kv.value with
            | none => impossible
            | some v => refused (.storageSetReadAhead st v)
        else impossible

/-- An entry whose setter fails. -/
def kvRefused (kv : TomlKv) : Condition σ τ :=
  if kv.sectionPath = [] then impossible
  else if kv.sectionPath = "cpu" then cpuKvRefused kv
  else if kv.sectionPath = "memory" then memoryKvRefused kv
  else if startsWith "storage." kv.sectionPath then storageKvRefused (kv.sectionPath.drop 8) kv
  else impossible

/-- Whether the setter fails decides how the entry ends. -/
theorem update_settles
    {call : Update} {next : Except Err Unit → CliM σ τ α} {kind : α → Prop}
    (failed : ∀ err, (next (.error err)).Settles kind always)
    (done : (next (.ok ())).Settles kind impossible) :
    (update call >>= next).Settles kind (refused call) := by
  intro ctx speaks process
  unfold refused
  simp only [CliM.bind_run, update]
  cases (ctx.lib.update call process.sys process.console.memory).1 with
  | error err =>
      obtain ⟨silent, settles⟩ := failed err ctx speaks
        ⟨_, { process.console with memory := _ }, process.steps ++ [.update call]⟩
      exact ⟨silent, iff_of_true (settles.mpr trivial) ⟨err, rfl⟩⟩
  | ok answer =>
      obtain ⟨silent, settles⟩ := done ctx speaks
        ⟨_, { process.console with memory := _ }, process.steps ++ [.update call]⟩
      exact ⟨silent, iff_of_false settles.mp ok_no_error⟩

/-- A load step that fails exactly under this condition, and prints nothing. -/
structure LoadStep (program : CliM σ τ Int) (bad : Condition σ τ) : Prop where
  acts : program.Acts
  settles : program.Settles (· ≠ 0) bad

namespace LoadStep

/-- An entry that is passed over. -/
theorem skip : LoadStep (pure 0 : CliM σ τ Int) impossible :=
  ⟨.pure 0, .pure (iff_false_intro fun failed => failed rfl)⟩

theorem ite
    {condition : Prop} [Decidable condition] {first second : CliM σ τ Int}
    {bad other : Condition σ τ}
    (whenTrue : condition → LoadStep first bad)
    (whenFalse : ¬condition → LoadStep second other) :
    LoadStep (if condition then first else second) (if condition then bad else other) := by
  split
  · next holds => exact whenTrue holds
  · next fails => exact whenFalse fails

theorem env
    {next : Env → CliM σ τ Int} {goal : Env → Condition σ τ}
    (second : ∀ env, LoadStep (next env) (goal env)) :
    LoadStep (reading getEnv >>= next) (byEnv goal) :=
  ⟨.bind (.reading .getEnv) fun env => (second env).acts,
    fun ctx speaks process => (second ctx.env).settles ctx speaks process⟩

theorem ask
    {call : Query β} {next : Except Err β → CliM σ τ Int} {goal : Except Err β → Condition σ τ}
    (second : ∀ answer, LoadStep (next answer) (goal answer)) :
    LoadStep (reading (query call) >>= next) (Condition.ask call goal) :=
  ⟨.bind (.reading (.query call)) fun answer => (second answer).acts,
    .ask fun answer => (second answer).settles⟩

/-- A setter whose failure is mapped to `-1`. -/
theorem setter
    {call : Update} {next : Except Err Unit → CliM σ τ Int}
    (failed : ∀ err, next (.error err) = pure (-1)) (done : next (.ok ()) = pure 0) :
    LoadStep (update call >>= next) (refused call) := by
  refine ⟨.bind (.update call) fun answer => ?_, update_settles (fun err => ?_) ?_⟩
  · cases answer with
    | error err => exact failed err ▸ .pure (-1)
    | ok _ => exact done ▸ .pure 0
  · exact failed err ▸ .pure (iff_true_intro (by decide))
  · exact done ▸ .pure (iff_false_intro fun failed => failed rfl)

/-- Some item fails, each in the state the earlier ones left. -/
theorem all
    {round : α → CliM σ τ Int} {bad : α → Condition σ τ}
    (step : ∀ item, LoadStep (round item) (bad item)) (items : List α) :
    LoadStep (do return allOrMinusOne (← collectCli round items)) (anyFails round bad items) := by
  have collected : (collectCli round items).Acts ∧
      (collectCli round items).Settles (fun results => ∃ result ∈ results, result ≠ 0)
        (anyFails round bad items) := by
    induction items with
    | nil => exact ⟨.pure [], .pure (by simp)⟩
    | cons item rest inductionHypothesis =>
        obtain ⟨acts, settles⟩ := inductionHypothesis
        refine ⟨.bind (step item).acts fun _ => .bind acts fun _ => .pure _,
          fun ctx speaks process => ?_⟩
        obtain ⟨silent, here⟩ := (step item).settles ctx speaks process
        obtain ⟨silentRest, later⟩ := settles ctx speaks (round item ctx process).2
        refine ⟨silentRest.trans silent, ?_⟩
        rw [(step item).acts.sys, (step item).acts.memory] at later
        exact List.exists_mem_cons_iff .. |>.trans (or_congr here later)
  refine ⟨.bind collected.1 fun _ => .pure _, fun ctx speaks process => ?_⟩
  obtain ⟨silent, settles⟩ := collected.2 ctx speaks process
  refine ⟨silent, Iff.trans ?_ settles⟩
  simp only [CliM.bind_run, CliM.pure_run, ne_eq, allOrMinusOne_zero, not_forall, exists_prop]

end LoadStep

/-- A CPU that cannot be opened is passed over. -/
theorem applyAllCpus_step (call : CpuHandle → Update) :
    LoadStep (applyAllCpus call : CliM σ τ Int) (cpusRefuse call) := by
  refine .env fun env => .all (fun index => .ask fun answer => ?_) _
  cases answer with
  | error err => exact .skip
  | ok cpu =>
      dsimp only
      exact .setter (fun _ => rfl) rfl

/-- One device. -/
theorem applyOne_step (wouldDo : CStr) (call : Update) :
    LoadStep (applyOne true false wouldDo call : CliM σ τ Int) (refused call) := by
  unfold applyOne
  rw [if_neg Bool.false_ne_true]
  exact .setter (fun _ => rfl) rfl

/-- The entries of the section `cpu`. -/
theorem loadCpuKv_step (kv : TomlKv) :
    LoadStep (loadCpuKv kv true false : CliM σ τ Int) (cpuKvRefused kv) := by
  refine .ite (fun governor => ?_) fun other => ?_
  · refine .ite (fun noString => .skip) fun string => ?_
    rw [if_neg Bool.false_ne_true]
    exact applyAllCpus_step _
  · refine .ite (fun frequency => ?_) fun unknown => .skip
    refine .ite (fun noInteger => .skip) fun integer => ?_
    cases (cliParseInt kv.value).filter (0 ≤ ·) with
    | none => exact .skip
    | some hz =>
        dsimp only
        rw [if_neg Bool.false_ne_true]
        exact applyAllCpus_step _

/-- A text that is no integer is passed over. -/
theorem applyMemoryInt_step (kv : TomlKv) (call : Int → Update) :
    LoadStep (applyMemoryInt kv true false call : CliM σ τ Int) (memoryIntRefused kv call) := by
  refine .ite (fun noInteger => .skip) fun integer => ?_
  cases cliParseInt kv.value with
  | none => exact .skip
  | some v => exact applyOne_step _ _

/-- The entries of the section `memory`. -/
theorem loadMemoryKv_step (kv : TomlKv) :
    LoadStep (loadMemoryKv kv true false : CliM σ τ Int) (memoryKvRefused kv) := by
  refine .ite (fun swappiness => applyMemoryInt_step kv _) fun other => ?_
  refine .ite (fun overcommit => applyMemoryInt_step kv _) fun other => ?_
  refine .ite (fun cachePressure => applyMemoryInt_step kv _) fun other => ?_
  refine .ite (fun thp => ?_) fun unknown => .skip
  refine .ite (fun noString => .skip) fun string => ?_
  cases parseThpName kv.value with
  | none => exact .skip
  | some mode => exact applyOne_step _ _

/-- A device that cannot be opened is passed over. -/
theorem loadStorageKv_step (dev : CStr) (kv : TomlKv) :
    LoadStep (loadStorageKv dev kv true false : CliM σ τ Int) (storageKvRefused dev kv) := by
  refine .ask fun answer => ?_
  cases answer with
  | error err => exact .skip
  | ok st =>
      refine .ite (fun scheduler => ?_) fun other => ?_
      · exact .ite (fun noString => .skip) fun string => applyOne_step _ _
      refine .ite (fun readAhead => ?_) fun unknown => .skip
      refine .ite (fun noInteger => .skip) fun integer => ?_
      cases cliParseInt kv.value with
      | none => exact .skip
      | some v => exact applyOne_step _ _

/-- An entry of another section is passed over. -/
theorem applyKv_step (kv : TomlKv) :
    LoadStep (applyKv true false kv : CliM σ τ Int) (kvRefused kv) := by
  refine .ite (fun profile => .skip) fun other => ?_
  refine .ite (fun cpu => loadCpuKv_step kv) fun other => ?_
  refine .ite (fun memory => loadMemoryKv_step kv) fun other => ?_
  exact .ite (fun storage => loadStorageKv_step _ kv) fun unknown => .skip

/-- In a dry run every entry is announced or skipped. -/
theorem applyKv_announces (kv : TomlKv) :
    (applyKv true true kv : CliM σ τ Int).Announces (· = 0) := by
  have skip : (pure 0 : CliM σ τ Int).Announces (· = 0) := .pure rfl
  have memory : ∀ call, (applyMemoryInt kv true true call : CliM σ τ Int).Announces (· = 0) := by
    intro call
    refine .ite (fun noInteger => skip) fun integer => ?_
    cases cliParseInt kv.value with
    | none => exact skip
    | some v => exact .announce _
  refine .ite (fun profile => skip) fun other => ?_
  refine .ite (fun cpu => ?_) fun other => ?_
  · refine .ite (fun governor => ?_) fun other => ?_
    · exact .ite (fun noString => skip) fun string => .announce _
    refine .ite (fun frequency => ?_) fun unknown => skip
    refine .ite (fun noInteger => skip) fun integer => ?_
    cases (cliParseInt kv.value).filter (0 ≤ ·) with
    | none => exact skip
    | some hz => exact .announce _
  refine .ite (fun inMemory => ?_) fun other => ?_
  · refine .ite (fun swappiness => memory _) fun other => ?_
    refine .ite (fun overcommit => memory _) fun other => ?_
    refine .ite (fun cachePressure => memory _) fun other => ?_
    refine .ite (fun thp => ?_) fun unknown => skip
    refine .ite (fun noString => skip) fun string => ?_
    cases parseThpName kv.value with
    | none => exact skip
    | some mode => exact .announce _
  refine .ite (fun storage => ?_) fun unknown => skip
  · refine .bind (.silent (.reading (.query _))) fun answer _ => ?_
    cases answer with
    | error err => exact skip
    | ok st =>
        refine .ite (fun scheduler => ?_) fun other => ?_
        · exact .ite (fun noString => skip) fun string => .announce _
        refine .ite (fun readAhead => ?_) fun unknown => skip
        refine .ite (fun noInteger => skip) fun integer => ?_
        cases cliParseInt kv.value with
        | none => exact skip
        | some v => exact .announce _

/-- Parsing the file or applying an entry fails; a dry run ends in bare fields. -/
def loadFromReplies (path : CStr) (dryRun : Bool) : Condition σ τ :=
  learn (tomlParseFile path) fun
    | .error _ => always
    | .ok kvs => if dryRun then impossible else anyFails (applyKv true false) kvRefused kvs

/-- The file is read without a word. -/
theorem tomlParseFile_reads (path : CStr) : (tomlParseFile path : ReadM σ τ _).Reads := by
  refine .bind (.readFile path) fun content => ?_
  cases content <;> exact .pure _

/-- The reason of a failure is one of the system's messages. -/
theorem tomlParseFile_yields (path : CStr) :
    (tomlParseFile path : ReadM σ τ _).Yields
      (Answers (fun err => IsMessage err.message) fun _ => True) :=
  .file (fun _ known => .pure (cliMakeErr_message known _ _)) fun _ => .pure trivial

/-- The error of a load is printed once, behind all its entries. -/
theorem loadFrom_replies (path name : CStr) (dryRun : Bool) :
    (loadFrom path name true dryRun : CliM σ τ Int).Replies (loadFromReplies path dryRun) := by
  refine .learnWith (tomlParseFile_reads path) (tomlParseFile_yields path) fun answer known => ?_
  cases answer with
  | error err => exact .reading (cliErr_replies known)
  | ok kvs =>
      cases dryRun with
      | true =>
          have announces : (profileApply kvs true true : CliM σ τ Int).Announces (· = 0) :=
            .bind (.collectCli applyKv_announces kvs) fun results zero =>
              .pure ((allOrMinusOne_zero results).mpr zero)
          refine announces.thenBare ?_
          rintro rc rfl
          exact ⟨_, _, _, rfl⟩
      | false =>
          have applies : LoadStep (profileApply kvs true false : CliM σ τ Int) _ :=
            .all applyKv_step kvs
          refine .settled applies.settles applies.acts.yields (fun rc _ failed => ?_)
            fun rc done => ?_
          · rw [if_neg failed]
            exact .before (.reading (.prints (fun _ _ _ => rfl)
              (iff_true_intro (outJsonError_replies _ (phrase rfl))))) fun _ => .pure trivial
          · rw [if_pos (not_not.mp done)]
            exact .reading (report_breaks (okBare_broken _ _) _)

/-- `profile load`: the profile is not found, or not read, or not applied without a failure. -/
def profileLoadReplies (name : CStr) (dryRun : Bool) : Condition σ τ :=
  if name = [] then always
  else
    learn (findProfile name .read) fun
      | none => always
      | some path =>
          if dryRun then loadFromReplies path dryRun else orUser (loadFromReplies path dryRun)

/-- A profile is looked for without a word. -/
theorem findProfile_reads (name : CStr) (mode : Access) :
    (findProfile name mode : ReadM σ τ (Option CStr)).Reads :=
  .bind .getEnv fun _ => .bind (.access _ _) fun _ => .ite (fun _ => .pure _) fun _ =>
    .bind (.access _ _) fun _ => .ite (fun _ => .pure _) fun _ => .pure _

/-- Nothing is known of the path that is found. -/
theorem findProfile_yields (name : CStr) (mode : Access) :
    (findProfile name mode : ReadM σ τ (Option CStr)).Yields fun _ => True :=
  fun ctx _ sys console => by rw [findProfile_reads name mode ctx sys console]; trivial

/-- A load prints bare fields when it succeeds. -/
theorem profileLoadCmd_replies (name : CStr) (dryRun : Bool) :
    (profileLoadCmd name true dryRun : CliM σ τ Int).Replies (profileLoadReplies name dryRun) := by
  refine .ite (fun unnamed => .reading (refuse_replies _ (phrase rfl) _)) fun named => ?_
  refine .learnWith (findProfile_reads name .read) (findProfile_yields name .read) fun found _ => ?_
  cases found with
  | none => exact .reading (refuse_replies _ (phrase rfl) _)
  | some path =>
      refine .ite (fun dry => loadFrom_replies _ _ _) fun applied => ?_
      exact asRoot_replies (loadFrom_replies _ _ _)

/-! ## Listing and deleting -/

/--
`profile list`: dropping the repeated names does not end the process, and the
names are valid UTF-8.
-/
def profileListReplies : Condition σ τ :=
  fun ctx sys _ =>
    RepeatsLargestOnly (listedStems ctx sys) ∧ ∀ stem ∈ listedStems ctx sys, IsUtf8 stem

/-- The names are the only data of the list. -/
theorem profileListCmd_replies :
    (profileListCmd true : ReadM σ τ Int).Replies profileListReplies := by
  intro ctx _ sys console
  have sorted := sortNames_pairwise (listedStems ctx sys)
  have same := sortNames_perm (listedStems ctx sys)
  rw [profileListCmd_run, profileListReplies, repeatsLargestOnly_sorted]
  by_cases nodup : (sortNames (listedStems ctx sys)).dropLast.Nodup
  · obtain ⟨listed, compacted, -, -, -, members⟩ := listed_of_nodup sorted nodup
    rw [compacted]
    refine ⟨_, rfl, (names_reply_iff listed).trans ?_⟩
    simp only [members, same.mem_iff, nodup, true_and]
  · rw [dedup_of_repeat sorted nodup]
    exact ⟨[], (List.append_nil console.stdout).symm,
      iff_of_false nothing_broken fun both => nodup both.1⟩

/-- The file cannot be deleted. -/
def unlinkFails (path : CStr) : Condition σ τ :=
  fun ctx sys _ => ∃ reason, (ctx.host.unlink sys path).1 = .error reason

/-- `profile delete`: the profile is not found, or cannot be deleted. -/
def profileDeleteReplies (name : CStr) : Condition σ τ :=
  if name = [] then always
  else
    learn (findProfile name .write) fun
      | none => always
      | some path => unlinkFails path

/-- A delete prints bare fields when it succeeds. -/
theorem profileDeleteCmd_replies (name : CStr) :
    (profileDeleteCmd name true : CliM σ τ Int).Replies (profileDeleteReplies name) := by
  refine .ite (fun unnamed => .reading (refuse_replies _ (phrase rfl) _)) fun named => ?_
  refine .learnWith (findProfile_reads name .write) (findProfile_yields name .write)
    fun found _ => ?_
  cases found with
  | none => exact .reading (refuse_replies _ (phrase rfl) _)
  | some path =>
      intro ctx speaks process
      unfold unlinkFails
      simp only [CliM.bind_run, unlink]
      cases answer : (ctx.host.unlink process.sys path).1 with
      | error reason =>
          have known := speaks.undeleted process.sys path reason answer
          obtain ⟨text, printed, reply⟩ :=
            refuse_replies (σ := σ) (τ := τ) Err.eio known path ctx speaks process.sys
              process.console
          exact ⟨text, printed, iff_of_true (reply.mpr trivial) ⟨reason, rfl⟩⟩
      | ok done =>
          exact ⟨_, rfl, iff_of_false (okBare_broken _ _) ok_no_error⟩

/-- When `zenctl profile` prints a reply. -/
def profileReplies (args : List CStr) (dryRun : Bool) : Condition σ τ :=
  match args with
  | [] => impossible
  | sub :: rest =>
      if sub = "list" then profileListReplies
      else
        match rest with
        | [] => impossible
        | name :: _ =>
            if sub = "save" then profileSaveReplies name dryRun
            else if sub = "load" then profileLoadReplies name dryRun
            else if sub = "delete" then profileDeleteReplies name
            else impossible

/-- The four verbs of `profile`. -/
theorem cmdProfile_replies (args : List CStr) (dryRun : Bool) :
    (cmdProfile args true dryRun : CliM σ τ Int).Replies (profileReplies args dryRun) := by
  cases args with
  | nil => exact .reading (cliUsage_replies _)
  | cons sub rest =>
      refine .ite (fun list => .reading profileListCmd_replies) fun other => ?_
      cases rest with
      | nil => exact .reading (cliUsage_replies _)
      | cons name others =>
          refine .ite (fun save => profileSaveCmd_replies _ _) fun other => ?_
          refine .ite (fun load => profileLoadCmd_replies _ _) fun other => ?_
          refine .ite (fun delete => profileDeleteCmd_replies _) fun unknown => ?_
          exact .reading (cliUsage_replies _)

end Zenctl
