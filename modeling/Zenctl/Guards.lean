import Zenctl.Main
import Zenctl.ProgramLogic

namespace Zenctl

open CString ProgramLogic

/-!
# What a command may do, and when

Every handler checks the dry-run flag, the privilege and the confirmation by
hand.  A `Guards` value says which of its steps are permitted; `Obeys` says that
a program takes permitted steps only.  One lemma for each handler then says
once what that handler can do.
-/

variable {σ τ α β : Type}

/-- The setters whose effect cannot be undone by setting the old value again. -/
def Update.destructive : Update → Bool
  | .cpuSetOnline _ false => true
  | .cpuSetSmtActive false => true
  | .powerSuspend _ => true
  | .fwEfiSet .. => true
  | .fwEfiDelete .. => true
  | .usbSetAuthorized _ false => true
  | _ => false

def Step.destructive : Step → Bool
  | .update call => call.destructive
  | _ => false

/-- A confirmation prompt was answered with yes. -/
def Prompted (steps : List Step) : Prop :=
  ∃ what, Step.prompt what true ∈ steps

/-- The circumstances of a command that decide which steps it may take. -/
structure Guards where
  dryRun : Bool
  confirm : Bool
  privileged : Prop
  /-- The command deletes a profile, which does not look at the dry-run flag. -/
  deletes : Prop
  /-- The command writes an EFI variable, which does not ask for confirmation. -/
  writesEfi : Prop

/-- May this step be taken after the earlier ones? -/
structure Guards.Permits (g : Guards) (earlier : List Step) (step : Step) : Prop where
  applied : step.changesState = true → g.dryRun = false ∨ g.deletes
  privileged : step.changesState = true → g.privileged
  confirmed : step.destructive = true → g.confirm = true ∨ Prompted earlier ∨ g.writesEfi

/-- One move of a running command. -/
inductive Move (g : Guards) : Process σ τ → Process σ τ → Prop
  /-- It prints, or the library changes its own memory. -/
  | console (process : Process σ τ) (console : Console τ) :
      Move g process { process with console := console }
  /-- It asks for confirmation. -/
  | ask (process : Process σ τ) (console : Console τ) (what : CStr) (answer : Bool) :
      Move g process ⟨process.sys, console, process.steps ++ [.prompt what answer]⟩
  /-- It takes a permitted step that may change the system. -/
  | act (process : Process σ τ) (sys : σ) (console : Console τ) (step : Step)
      (changes : step.changesState = true)
      (permitted : g.Permits process.steps step) :
      Move g process ⟨sys, console, process.steps ++ [step]⟩

/-- The program takes permitted steps only. -/
def Obeys (g : Guards) (ctx : Ctx σ τ) (program : CliM σ τ α) : Prop :=
  Follows (Move g) (program ctx)

variable {g : Guards} {ctx : Ctx σ τ}

/-! ## Composition -/

theorem Obeys.ofMoves
    {program : CliM σ τ α}
    (moves : Moves (Move g) (fun _ => True) (program ctx) (fun _ _ => True)) :
    Obeys g ctx program :=
  moves

theorem Obeys.pure (value : α) : Obeys g ctx (pure value : CliM σ τ α) :=
  Follows.value value

theorem Obeys.bind
    {program : CliM σ τ α} {next : α → CliM σ τ β}
    (first : Obeys g ctx program)
    (second : ∀ value, Obeys g ctx (next value)) :
    Obeys g ctx (program >>= next) :=
  Follows.seq first second

theorem Obeys.reading (program : ReadM σ τ α) : Obeys g ctx (reading program) :=
  Follows.of_reaches fun process => .single (.console process _)

theorem Obeys.ite
    {condition : Prop} [Decidable condition] {first second : CliM σ τ α}
    (whenTrue : condition → Obeys g ctx first)
    (whenFalse : ¬condition → Obeys g ctx second) :
    Obeys g ctx (if condition then first else second) := by
  split
  · next holds => exact whenTrue holds
  · next fails => exact whenFalse fails

theorem Obeys.prompt (what : CStr) : Obeys g ctx (prompt what : CliM σ τ Bool) :=
  Follows.of_reaches fun process => .single (.ask process _ what _)

theorem Obeys.update
    {call : Update}
    (permitted : ∀ earlier, g.Permits earlier (.update call)) :
    Obeys g ctx (update call : CliM σ τ (Except Err Unit)) :=
  Follows.of_reaches fun process => .single (.act process _ _ _ rfl (permitted _))

theorem Obeys.mkdir
    {path : CStr}
    (permitted : ∀ earlier, g.Permits earlier (.mkdir path)) :
    Obeys g ctx (mkdir path : CliM σ τ Bool) :=
  Follows.of_reaches fun process => .single (.act process _ _ _ rfl (permitted _))

theorem Obeys.openWrite
    {path : CStr}
    (permitted : ∀ earlier, g.Permits earlier (.openWrite path)) :
    Obeys g ctx (openWrite path : CliM σ τ (Except CStr Unit)) :=
  Follows.of_reaches fun process => .single (.act process _ _ _ rfl (permitted _))

theorem Obeys.writeOut
    {path text : CStr}
    (permitted : ∀ earlier, g.Permits earlier (.writeOut path text)) :
    Obeys g ctx (writeOut path text : CliM σ τ Unit) :=
  Follows.of_reaches fun process => .single (.act process _ _ _ rfl (permitted _))

theorem Obeys.unlink
    {path : CStr}
    (permitted : ∀ earlier, g.Permits earlier (.unlink path)) :
    Obeys g ctx (unlink path : CliM σ τ (Except CStr Unit)) :=
  Follows.of_reaches fun process => .single (.act process _ _ _ rfl (permitted _))

/-- Sequencing with what is known between the two programs. -/
theorem bind_moves
    {pre : Process σ τ → Prop} {mid : α → Process σ τ → Prop} {post : β → Process σ τ → Prop}
    {program : CliM σ τ α} {next : α → CliM σ τ β}
    (first : Moves (Move g) pre (program ctx) mid)
    (second : ∀ value, Moves (Move g) (mid value) (next value ctx) post) :
    Moves (Move g) pre ((program >>= next) ctx) post :=
  Moves.seq first second

/-- Reading keeps what is known of the steps taken so far. -/
theorem reading_moves (known : List Step → Prop) (program : ReadM σ τ α) :
    Moves (Move g) (fun process => known process.steps) (Zenctl.reading program ctx)
      (fun _ process => known process.steps) :=
  fun process holds => ⟨(Obeys.reading program).reaches process, holds⟩

/-- A setter that is permitted by what is known of the steps taken so far. -/
theorem update_moves
    {known : List Step → Prop} {call : Update}
    (permitted : ∀ earlier, known earlier → g.Permits earlier (.update call)) :
    Moves (Move g) (fun process => known process.steps) (Zenctl.update call ctx)
      (fun _ (_ : Process σ τ) => True) :=
  fun process holds => ⟨.single (.act process _ _ _ rfl (permitted _ holds)), trivial⟩

theorem Obeys.collectCli
    {program : α → CliM σ τ β}
    (each : ∀ item, Obeys g ctx (program item)) (items : List α) :
    Obeys g ctx (collectCli program items) := by
  induction items with
  | nil =>
      exact .pure _
  | cons item rest inductionHypothesis =>
      exact .bind (each item) fun _ => .bind inductionHypothesis fun _ => .pure _

/-- A step that is not destructive needs the flag and the privilege only. -/
theorem Guards.Permits.ofPlain
    {step : Step}
    (applied : g.dryRun = false)
    (privileged : g.privileged)
    (plain : step.destructive = false)
    (earlier : List Step) :
    g.Permits earlier step where
  applied _ := .inl applied
  privileged _ := privileged
  confirmed destructive := by simp [plain] at destructive

/-- Under `--confirm` the flag and the privilege are enough for every setter. -/
theorem Guards.Permits.ofConfirmed
    {call : Update}
    (applied : g.dryRun = false)
    (privileged : g.privileged)
    (confirmed : g.confirm = true)
    (earlier : List Step) :
    g.Permits earlier (.update call) where
  applied _ := .inl applied
  privileged _ := privileged
  confirmed _ := .inl confirmed

/-! ## Shared shapes -/

theorem setOr_obeys
    {call : Update}
    {json : Bool} {fallback document : CStr} {lines : ReadM σ τ Unit}
    (permitted : ∀ earlier, g.Permits earlier (.update call)) :
    Obeys g ctx (setOr json call fallback document lines) := by
  refine .bind (.update permitted) fun answer => ?_
  cases answer with
  | error err =>
      exact .reading _
  | ok done =>
      exact .reading _

theorem setOrErr_obeys
    {call : Update}
    {json : Bool} {document : CStr} {lines : ReadM σ τ Unit}
    (permitted : ∀ earlier, g.Permits earlier (.update call)) :
    Obeys g ctx (setOrErr json call document lines) := by
  refine .bind (.update permitted) fun answer => ?_
  cases answer with
  | error err =>
      exact .reading _
  | ok done =>
      exact .reading _

theorem openOrErr_obeys
    {json : Bool} {call : Query β} {next : β → CliM σ τ Int}
    (each : ∀ handle, Obeys g ctx (next handle)) :
    Obeys g ctx (openOrErr json call next) := by
  refine .bind (.reading _) fun answer => ?_
  cases answer with
  | error err =>
      exact .reading _
  | ok handle =>
      exact each handle

theorem cliRequireRoot_root
    (root : ctx.env.euid = 0) (sys : σ) (console : Console τ) (json : Bool) :
    cliRequireRoot json ctx sys console = (false, console) := by
  simp only [cliRequireRoot, ReadM.bind_run, getEnv, root, ↓reduceIte, ReadM.pure_run]

theorem cliRequireRoot_other
    (other : ctx.env.euid ≠ 0) (sys : σ) (console : Console τ) (json : Bool) :
    (cliRequireRoot json ctx sys console).1 = true := by
  simp only [cliRequireRoot, ReadM.bind_run, getEnv, ReadM.ite_run, other, ↓reduceIte,
    ReadM.pure_run]
  cases json <;> rfl

theorem asRoot_root
    (root : ctx.env.euid = 0) (json : Bool) (next : CliM σ τ Int) (process : Process σ τ) :
    asRoot json next ctx process = next ctx process := by
  simp only [asRoot, CliM.bind_run, reading_run, cliRequireRoot_root root, Bool.false_eq_true,
    ↓reduceIte]

theorem asRoot_other
    (other : ctx.env.euid ≠ 0) (json : Bool) (next : CliM σ τ Int) (process : Process σ τ) :
    (asRoot json next ctx process).2 = (reading (cliRequireRoot json) ctx process).2 := by
  simp only [asRoot, CliM.bind_run, reading_run, cliRequireRoot_other other, ↓reduceIte,
    CliM.pure_run]

/-- Behind `cli_require_root` the effective user is root. -/
theorem asRoot_obeys
    {json : Bool} {next : CliM σ τ Int}
    (behind : ctx.env.euid = 0 → Obeys g ctx next) :
    Obeys g ctx (asRoot json next) := by
  refine Follows.of_reaches fun process => ?_
  by_cases root : ctx.env.euid = 0
  · rw [asRoot_root root]
    exact (behind root).reaches process
  · rw [asRoot_other root]
    exact (Obeys.reading _).reaches process

theorem writeDevice_obeys
    {H : Type} {openCall : Query H} {noOpen wouldDo fallback : CStr} {json : Bool}
    {announced done : List Field} {lines : ReadM σ τ Unit} {call : H → Update}
    (permitted : g.dryRun = false → ∀ handle earlier, g.Permits earlier (.update (call handle))) :
    Obeys g ctx (writeDevice openCall noOpen json g.dryRun announced done wouldDo call fallback
      lines) := by
  refine .ite (fun _ => .reading _) fun applied => ?_
  refine .bind (.reading _) fun answer => ?_
  cases answer with
  | error err =>
      exact .reading _
  | ok handle =>
      exact setOr_obeys (permitted (by simpa using applied) handle)

end Zenctl
