import Zenctl.Atomicity
import Zenctl.Registers
import Zenctl.Settings

namespace Zenctl

open CString LabelledRuns Registers

/-!
# Sessions

Commands run one after the other, each in a process of its own, on one machine.
The abstract machine is a bank of registers, one for each file, that takes the
assignments of the setters that succeeded; the files follow it.
-/

variable {σ τ : Type}

/-- One command: the process it is started in, and its arguments. -/
structure Invocation (τ : Type) where
  env : Env
  argv : List CStr
  memory : τ

/-- One command of a session. -/
def Invocation.run (command : Invocation τ) (lib : Library σ τ) (host : Host σ) (sys : σ) :
    Int × Process σ τ :=
  main command.argv ⟨lib, host, command.env⟩ (start sys command.memory)

/-- The machine after these commands, one after the other. -/
def session (lib : Library σ τ) (host : Host σ) : List (Invocation τ) → σ → σ
  | [], sys => sys
  | command :: rest, sys => session lib host rest (command.run lib host sys).2.sys

/-- The steps these commands take, in order. -/
def sessionSteps (lib : Library σ τ) (host : Host σ) : List (Invocation τ) → σ → List Step
  | [], _ => []
  | command :: rest, sys =>
      (command.run lib host sys).2.steps ++
        sessionSteps lib host rest (command.run lib host sys).2.sys

/-- Every command exits with status zero. -/
def Succeeds (lib : Library σ τ) (host : Host σ) : List (Invocation τ) → σ → Prop
  | [], _ => True
  | command :: rest, sys =>
      (command.run lib host sys).1 = 0 ∧ Succeeds lib host rest (command.run lib host sys).2.sys

instance Succeeds.decidable (lib : Library σ τ) (host : Host σ) :
    (commands : List (Invocation τ)) → (sys : σ) → Decidable (Succeeds lib host commands sys)
  | [], _ => .isTrue trivial
  | command :: rest, sys =>
      @instDecidableAnd _ _ _ (Succeeds.decidable lib host rest (command.run lib host sys).2.sys)

/-- A session is a run of actions; in one that succeeds every setter did. -/
theorem session_leads
    (lib : Library σ τ) (host : Host σ) (commands : List (Invocation τ)) (sys : σ) :
    ∃ actions, Runs (Acts lib host) sys actions (session lib host commands sys) ∧
      (sessionSteps lib host commands sys).filter Step.changesState =
        actions.map Action.step ∧
      (Succeeds lib host commands sys → ∀ attempt ∈ attempts actions, attempt.2 = true) := by
  induction commands generalizing sys with
  | nil =>
      exact ⟨[], .nil _, rfl, fun _ => List.forall_mem_nil _⟩
  | cons command rest inductionHypothesis =>
      obtain ⟨first, leads, accounts⟩ :=
        runMain_leads ⟨lib, host, command.env⟩ command.argv sys command.memory
      obtain ⟨others, run, steps, honest⟩ :=
        inductionHypothesis (command.run lib host sys).2.sys
      refine ⟨first ++ others, leads.run.append run, ?_, fun succeeds => ?_⟩
      · rw [sessionSteps, List.filter_append, steps, List.map_append]
        exact congrArg (· ++ others.map Action.step) leads.recorded
      · rw [attempts_append]
        exact List.forall_mem_append.mpr ⟨accounts.honest succeeds.1, honest succeeds.2⟩

/-! ## Files and registers -/

/-- The assignment of a setter that succeeded, as a text for a file; the empty text is not written. -/
def made (os : Os σ) (attempt : Update × Bool) : Option (CStr × Option CStr) :=
  if attempt.2 then
    (attempt.1.assignment.filter fun assignment => assignment.text ≠ []).map fun assignment =>
      (assignment.file os, some assignment.text)
  else none

theorem made_of_written
    {os : Os σ} {call : Update} {assignment : FileAssignment}
    (shape : call.assignment = some assignment) (written : assignment.text ≠ []) :
    made os (call, true) = some (assignment.file os, some assignment.text) := by
  simp [made, shape, written]

/-- What was assigned, was written by a setter with an assignment. -/
theorem assignment_of_made
    {os : Os σ} {attempt : Update × Bool} {entry : CStr × Option CStr}
    (wrote : made os attempt = some entry) :
    ∃ assignment, attempt.1.assignment = some assignment ∧ assignment.text ≠ [] ∧
      entry = (assignment.file os, some assignment.text) := by
  unfold made at wrote
  split at wrote
  · obtain ⟨assignment, kept, rfl⟩ := Option.map_eq_some_iff.mp wrote
    obtain ⟨shape, written⟩ := Option.filter_eq_some_iff.mp kept
    exact ⟨assignment, shape, of_decide_eq_true written, rfl⟩
  · cases wrote

/-- The file a setter with an assignment writes. -/
def Update.file (call : Update) (os : Os σ) : Option CStr :=
  call.assignment.map (·.file os)

/-- Whatever becomes of the setter, this view of the system stays. -/
def Update.Keeps {α : Type} (call : Update) (os : Os σ) (view : σ → α) : Prop :=
  ∀ sys proc, view (call.program os sys proc).2.1 = view sys

/-- A write changes no other file, and makes or removes none. -/
def Os.WritesApart (os : Os σ) : Prop :=
  ∀ sys path text, SameFilesBut os path sys (os.writeFile sys path text).2

/-- What the command line does with a profile does not touch other files. -/
structure Host.KeepsOthers (host : Host σ) (os : Os σ) : Prop where
  mkdir : ∀ sys path file, path ≠ file →
    os.openRead (host.mkdir sys path).2 file = os.openRead sys file
  openWrite : ∀ sys path file, path ≠ file →
    os.openRead (host.openWrite sys path).2 file = os.openRead sys file
  writeOut : ∀ sys path text file, path ≠ file →
    os.openRead (host.writeOut sys path text) file = os.openRead sys file
  unlink : ∀ sys path file, path ≠ file →
    os.openRead (host.unlink sys path).2 file = os.openRead sys file

/-- The path a step on a profile names. -/
def Step.profilePath : Step → Option CStr
  | .mkdir path | .openWrite path | .writeOut path _ | .unlink path => some path
  | .update _ | .prompt .. => none

/-- The file shows what the register holds; an empty register stands for what it showed at first. -/
def Os.Follows (os : Os σ) (display : Display) (first sys : σ) (file : CStr) : Option CStr → Prop
  | some text => os.Displays display sys file text
  | none => os.openRead sys file = os.openRead first file

theorem Os.Follows.of_same
    {os : Os σ} {display : Display} {first sys later : σ} {file : CStr} {register : Option CStr}
    (follows : os.Follows display first sys file register)
    (same : os.openRead later file = os.openRead sys file) :
    os.Follows display first later file register := by
  cases register with
  | none =>
      exact same.trans follows
  | some text =>
      obtain ⟨bytes, shown, contents⟩ := follows
      exact ⟨bytes, shown, same.trans contents⟩

theorem succeeded_answer {outcome : Outcome Unit} {err : Err} :
    succeeded (outcome.answer err) = true ↔ outcome = .value () := by
  cases outcome <;> simp [Outcome.answer, succeeded]

/-- A call that succeeded has made its write; any other made none, or one that was refused. -/
theorem update_writes
    (os : Os σ) {call : Update} {assignment : FileAssignment}
    (plain : call.assignment = some assignment)
    (sys : σ) (proc : Proc) :
    let answer := (libzenctl os).update call sys proc
    let wrote := os.writeFile sys (assignment.file os) assignment.text
    (succeeded answer.1 = true ∧ call.Admits ∧ wrote.1 = .done ∧ answer.2.1 = wrote.2) ∨
      (succeeded answer.1 = false ∧
        (answer.2.1 = sys ∨ (wrote.1 ≠ .done ∧ answer.2.1 = wrote.2))) := by
  intro answer wrote
  rcases call.assigns os plain sys { proc with err := Err.zero } with
    ⟨value, admitted, done, later⟩ | ⟨noValue, kept⟩
  · exact .inl ⟨succeeded_answer.mpr value, admitted, done, later⟩
  · have failed : succeeded answer.1 = false :=
      Bool.eq_false_iff.mpr fun success => noValue (succeeded_answer.mp success)
    exact .inr ⟨failed, kept⟩

/-- What one action makes of the registers. -/
def settle (os : Os σ) (bank : CStr → Option CStr) : Action → CStr → Option CStr
  | .set call succeeded =>
      match made os (call, succeeded) with
      | some (file, text) => Function.update bank file text
      | none => bank
  | .host _ => bank

theorem foldl_settle (os : Os σ) (bank : CStr → Option CStr) (actions : List Action) :
    actions.foldl (settle os) bank =
      assignAll bank ((attempts actions).filterMap (made os)) := by
  induction actions generalizing bank with
  | nil =>
      rfl
  | cons action rest inductionHypothesis =>
      rw [List.foldl_cons, inductionHypothesis]
      cases action with
      | host step =>
          rfl
      | set call succeeded =>
          have shape : attempts (.set call succeeded :: rest) = (call, succeeded) :: attempts rest :=
            rfl
          rw [shape, List.filterMap_cons, settle]
          cases made os (call, succeeded) with
          | none => rfl
          | some entry => rfl

/-- A setter settles no other register than that of its file. -/
theorem settle_other
    {os : Os σ} {bank : CStr → Option CStr} {call : Update} {file : CStr} {success : Bool}
    (other : call.file os ≠ some file) :
    settle os bank (.set call success) file = bank file := by
  cases wrote : made os (call, success) with
  | none => rw [settle, wrote]
  | some entry =>
      obtain ⟨assignment, shape, -, rfl⟩ := assignment_of_made wrote
      have different : file ≠ assignment.file os := by
        rintro rfl
        refine other ?_
        rw [Update.file, shape, Option.map_some]
      rw [settle, wrote]
      exact Function.update_of_ne different _ _

/-- Where writes stay apart, a setter with a file of its own keeps the others. -/
theorem Update.keeps_other
    {os : Os σ} (writesApart : os.WritesApart) {call : Update}
    (assigns : call.assignment.isSome = true) {file : CStr} (other : call.file os ≠ some file) :
    call.Keeps os (os.openRead · file) := by
  intro sys proc
  obtain ⟨assignment, shape⟩ := Option.isSome_iff_exists.mp assigns
  have different : file ≠ assignment.file os := by
    rintro rfl
    refine other ?_
    rw [Update.file, shape, Option.map_some]
  exact (call.assigns os shape).keeps (os.openRead · file)
    ((writesApart sys (assignment.file os) assignment.text).1 file different) proc

/-- One setter, and the register beside the file. -/
theorem setter_follows
    {os : Os σ} {host : Host σ} {call : Update} {success : Bool} {first before after : σ}
    {bank : CStr → Option CStr} {file : CStr} {display : Display}
    (acts : Acts (libzenctl os) host (.set call success) before after)
    (other : call.file os ≠ some file → call.Keeps os (os.openRead · file))
    (stores : os.Stores display file)
    (follows : os.Follows display first before file (bank file)) :
    os.Follows display first after file (settle os bank (.set call success) file) := by
  by_cases here : call.file os = some file
  · obtain ⟨assignment, shape, rfl⟩ := Option.map_eq_some_iff.mp here
    cases acts with
    | set call sys memory =>
        rcases update_writes os shape before memory with
          ⟨success, -, done, later⟩ | ⟨failed, kept⟩
        · by_cases empty : assignment.text = []
          · -- nothing is written, and the register stays
            simp only [settle, made, success, if_true, shape, Option.filter_some, empty, ne_eq,
              not_true_eq_false, decide_false, Bool.false_eq_true, if_false, Option.map_none]
            refine follows.of_same ?_
            rw [later, empty]
            exact stores.empty before
          · rw [settle, success, made_of_written shape empty]
            simp only [Function.update_self]
            rw [later]
            exact stores.accepted before assignment.text empty done
        · simp only [settle, made, failed, Bool.false_eq_true, if_false]
          rcases kept with same | ⟨refused, later⟩
          · exact follows.of_same (by rw [same])
          · exact follows.of_same (by rw [later, stores.refused before _ refused])
  · rw [settle_other here]
    cases acts with
    | set call sys memory => exact follows.of_same (other here before _)

/-- What is done with a profile elsewhere leaves the file alone. -/
theorem host_keeps
    {os : Os σ} {host : Host σ} {lib : Library σ τ} {step : Step} {before after : σ} {file : CStr}
    (acts : Acts lib host (.host step) before after)
    (keeps : host.KeepsOthers os)
    (apart : step.profilePath ≠ some file) :
    os.openRead after file = os.openRead before file := by
  cases acts with
  | mkdir path => exact keeps.mkdir _ path file (apart ∘ congrArg some)
  | openWrite path => exact keeps.openWrite _ path file (apart ∘ congrArg some)
  | writeOut path text => exact keeps.writeOut _ path text file (apart ∘ congrArg some)
  | unlink path => exact keeps.unlink _ path file (apart ∘ congrArg some)

/-- The file follows its register over a whole run. -/
theorem settings_follow
    {os : Os σ} {host : Host σ} {actions : List Action} {first last : σ} {file : CStr}
    {display : Display}
    (run : Runs (Acts (libzenctl os) host) first actions last)
    (others : ∀ attempt ∈ attempts actions, attempt.1.file os ≠ some file →
      attempt.1.Keeps os (os.openRead · file))
    (stores : os.Stores display file)
    (keeps : ∀ step, .host step ∈ actions → ∀ before after,
      Acts (libzenctl os) host (.host step) before after →
        os.openRead after file = os.openRead before file) :
    os.Follows display first last file
      (assignAll (fun _ => none) ((attempts actions).filterMap (made os)) file) := by
  rw [← foldl_settle]
  refine run.refines
    (fun sys (bank : CStr → Option CStr) => os.Follows display first sys file (bank file))
    (fun action member before after bank acts follows => ?_) rfl
  cases action with
  | set call success =>
      have asked : (call, success) ∈ attempts actions :=
        List.mem_filterMap.mpr ⟨.set call success, member, rfl⟩
      exact setter_follows acts (others _ asked) stores follows
  | host step => exact follows.of_same (keeps step member before after acts)

/-! ## Every outcome, logged -/

theorem apart_of_steps
    {steps : List Step} {actions : List Action} {file : CStr}
    (recorded : steps.filter Step.changesState = actions.map Action.step)
    (apart : ∀ step ∈ steps, step.profilePath ≠ some file) :
    ∀ action ∈ actions, action.step.profilePath ≠ some file := by
  intro action member
  have taken : action.step ∈ steps.filter Step.changesState := by
    rw [recorded]
    exact List.mem_map_of_mem member
  exact apart _ (List.mem_of_mem_filter taken)

/-- The setters among the steps. -/
def setters (steps : List Step) : List Update :=
  steps.filterMap fun
    | .update call => some call
    | _ => none

theorem setters_filter (steps : List Step) :
    setters (steps.filter Step.changesState) = setters steps := by
  induction steps with
  | nil =>
      rfl
  | cons step rest inductionHypothesis =>
      unfold setters at *
      cases step with
      | update call =>
          rw [List.filter_cons_of_pos rfl, List.filterMap_cons, List.filterMap_cons,
            inductionHypothesis]
      | mkdir | openWrite | writeOut | unlink | prompt =>
          rw [List.filter_cons]
          split <;> simpa [List.filterMap_cons] using inductionHypothesis

@[simp] theorem setters_updates (calls : List Update) : setters (calls.map .update) = calls := by
  unfold setters
  rw [List.filterMap_map]
  exact List.filterMap_some

/-- What the steps say of the setters is what the actions do. -/
theorem setters_actions
    {lib : Library σ τ} {host : Host σ} {actions : List Action} {first last : σ}
    (run : Runs (Acts lib host) first actions last) :
    setters (actions.map Action.step) = (attempts actions).map Prod.fst := by
  induction run with
  | nil state =>
      rfl
  | cons taken rest inductionHypothesis =>
      unfold setters attempts at *
      cases taken with
      | set call sys memory =>
          simpa [Action.step] using inductionHypothesis
      | mkdir | openWrite | writeOut | unlink =>
          simpa [Action.step] using inductionHypothesis

theorem map_true_of_succeeded
    {log : List (Update × Bool)} (honest : ∀ attempt ∈ log, attempt.2 = true) :
    log = (log.map Prod.fst).map fun call => (call, true) := by
  rw [List.map_map]
  refine (List.map_id log).symm.trans (List.map_congr_left fun attempt member => ?_)
  exact Prod.ext rfl (honest attempt member)

/-- In a session that succeeds the setters are those of the steps, and all succeeded. -/
theorem session_succeeds
    {lib : Library σ τ} {host : Host σ} {commands : List (Invocation τ)} {sys : σ}
    (succeeds : Succeeds lib host commands sys) :
    ∃ actions, Runs (Acts lib host) sys actions (session lib host commands sys) ∧
      (sessionSteps lib host commands sys).filter Step.changesState =
        actions.map Action.step ∧
      attempts actions =
        (setters (sessionSteps lib host commands sys)).map fun call => (call, true) := by
  obtain ⟨actions, run, recorded, honest⟩ := session_leads lib host commands sys
  refine ⟨actions, run, recorded, ?_⟩
  rw [← setters_filter, recorded, setters_actions run]
  exact map_true_of_succeeded (honest succeeds)

/-- A setter that succeeded was called with a value it admits. -/
theorem admitted_of_succeeded
    {os : Os σ} {host : Host σ} {actions : List Action} {first last : σ}
    (run : Runs (Acts (libzenctl os) host) first actions last)
    {call : Update} {assignment : FileAssignment} (shape : call.assignment = some assignment)
    (succeeds : (call, true) ∈ attempts actions) :
    call.Admits := by
  induction run with
  | nil state =>
      cases succeeds
  | cons taken rest inductionHypothesis =>
      rename_i action labels before middle last
      have split : attempts (action :: labels) = attempts [action] ++ attempts labels :=
        attempts_append [action] labels
      rw [split, List.mem_append] at succeeds
      rcases succeeds with here | later
      · cases taken with
        | set other sys memory =>
            obtain ⟨rfl, success⟩ := Prod.mk.inj (List.mem_singleton.mp here)
            rcases update_writes os shape before memory with ⟨-, admitted, -⟩ | ⟨failed, -⟩
            · exact admitted
            · rw [failed] at success
              cases success
        | mkdir | openWrite | writeOut | unlink => cases here
      · exact inductionHypothesis later

theorem libzenctl_query_ok
    {os : Os σ} {sys : σ} {proc : Proc} {β : Type} {call : Query β} {value : β}
    (answers : call.program.Answers os sys (some value)) (memory : proc.allocations = []) :
    ((libzenctl os).query call sys proc).1 = .ok value := by
  obtain ⟨later, run, -⟩ := answers { proc with err := Err.zero } memory
  simp [libzenctl, run, Outcome.ofOption, Outcome.answer]

theorem attributeOs_written
    {files : CStr → Option (List Char)} {path text : CStr} (written : text ≠ [])
    (done : (attributeOs.writeFile files path text).1 = .done) :
    (attributeOs.writeFile files path text).2 = Function.update files path (some text) := by
  have present : (files path).isSome = true := by
    by_contra absent
    simp only [attributeOs, absent, if_false] at done
    cases done
  simp only [attributeOs, present, written, if_true, if_false]

theorem attributeOs_stores (path : CStr) : attributeOs.StoresVerbatim path where
  accepted files text written done := by
    rw [attributeOs_written written done]
    refine ⟨⟨[], .inl rfl, by simp [attributeOs, memoryOs]⟩, ?_, fun _ _ => rfl⟩
    intro other different
    simp [attributeOs, memoryOs, Function.update_of_ne different]
  refused files text refused := by
    have kept := attributeOs_refusesCleanly.writeFile files path text refused
    rw [kept]
    exact ⟨rfl, rfl⟩

theorem attributeOs_empty (files : CStr → Option (List Char)) (path : CStr) :
    (attributeOs.writeFile files path []).2 = files := by
  simp only [attributeOs]
  split
  · rfl
  · rfl

theorem attributeOs_shows (path : CStr) : attributeOs.Stores verbatim path :=
  (attributeOs_stores path).stores fun files =>
    congrArg (attributeOs.openRead · path) (attributeOs_empty files path)

theorem attributeHost_keepsOthers : attributeHost.KeepsOthers attributeOs where
  mkdir _ _ _ _ := rfl
  openWrite _ _ _ different := by
    simp [attributeOs, memoryOs, attributeHost, Function.update_of_ne different.symm]
  writeOut _ _ _ _ different := by
    simp [attributeOs, memoryOs, attributeHost, Function.update_of_ne different.symm]
  unlink _ _ _ different := by
    simp [attributeOs, memoryOs, attributeHost, Function.update_of_ne different.symm]

theorem attributeOs_writesApart : attributeOs.WritesApart := by
  intro files path text
  by_cases empty : text = []
  · rw [empty, attributeOs_empty]
    exact ⟨fun _ _ => rfl, fun _ _ => rfl⟩
  · by_cases done : (attributeOs.writeFile files path text).1 = .done
    · exact ((attributeOs_stores path).accepted files text empty done).2
    · rw [attributeOs_refusesCleanly.writeFile files path text done]
      exact ⟨fun _ _ => rfl, fun _ _ => rfl⟩

theorem attributeOs_untouched
    (files : CStr → Option (List Char)) {path file text : CStr} (different : file ≠ path) :
    (attributeOs.writeFile files path text).2 file = files file := by
  simp only [attributeOs]
  split
  · split
    · rfl
    · exact Function.update_of_ne different _ _
  · rfl

/-- A setter with a file of its own keeps the files of the command line. -/
theorem attributeOs_keepsFile
    {call : Update} {assignment : FileAssignment} {file : CStr}
    (shape : call.assignment = some assignment) (different : file ≠ assignment.file attributeOs) :
    call.Keeps attributeOs (attributeHost.readFile · file) := by
  intro files proc
  refine (call.assigns attributeOs shape).keeps (attributeHost.readFile · file) ?_ proc
  simp only [attributeHost]
  rw [attributeOs_untouched files different]

/-- The files of two tunables, and the sleep states. -/
def tunables : CStr → Option (List Char) := fun path =>
  if path = "/proc/sys/vm/swappiness".toList then some "60\n".toList
  else if path = "/proc/sys/vm/overcommit_memory".toList then some "0\n".toList
  else if path = "/sys/power/state".toList then some "freeze mem\n".toList
  else none

/--
The swappiness is set twice, the other tunable in between and afterwards; in between
the machine is suspended, and the file of that setter is not decided by its argument alone.
-/
def tuning : List (Invocation Proc) :=
  [["mem", "set", "swappiness", "10"], ["mem", "set", "overcommit", "1"],
    ["power", "suspend", "mem", "--confirm"], ["mem", "set", "swappiness", "30"],
    ["mem", "set", "overcommit", "2"]].map
    fun argv => ⟨smallEnv 0, argv.map String.toList, freshProc⟩

/-- Suspending writes to one file at most. -/
theorem suspend_keeps
    {α : Type} {os : Os σ} {view : σ → α}
    (kept : ∀ sys text,
      view (os.writeFile sys (resolvePath os.sysfsRoot "/sys/power/state".toList) text).2 = view sys)
    (state : SleepState) :
    (Update.powerSuspend state).Keeps os view := by
  intro sys proc
  change view (zenctlPowerSuspend state os sys proc).2.1 = view sys
  unfold zenctlPowerSuspend
  rw [SetM.bind_run, getting_run]
  rcases readStringAlloc "/sys/power/state" os sys proc with ⟨available | _ | _, later⟩
  · dsimp only
    rw [SetM.ite_run]
    split
    · rw [(writeFileString_run os sys later _ _).1]
      exact kept sys _
    · rfl
  · rfl
  · rfl

theorem tuning_keeps :
    ∀ call ∈ ([.memSetSwappiness 10, .memSetOvercommit 1, .powerSuspend .mem, .memSetSwappiness 30,
        .memSetOvercommit 2, .memSetSwappiness 300] : List Update),
      call.file attributeOs ≠ some "/proc/sys/vm/swappiness".toList →
        call.Keeps attributeOs (attributeOs.openRead · "/proc/sys/vm/swappiness".toList) := by
  intro call member other
  by_cases assigns : call.assignment.isSome = true
  · exact Update.keeps_other attributeOs_writesApart assigns other
  · have suspends : call = .powerSuspend .mem := by
      revert call
      decide
    rw [suspends]
    exact suspend_keeps (fun files text => (attributeOs_writesApart files _ text).1 _ (by decide)) _

end Zenctl
