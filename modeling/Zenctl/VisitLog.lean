import Zenctl.Libzenctl
import Zenctl.Main

namespace Zenctl

open CString

/-!
# What a command asks the library about

A library can keep a log of the entities its getters are called for.  What a
command goes over is then read off the log; the rules follow the loops.
-/

variable {σ τ α β : Type}

/-- A thing with a number. -/
inductive Entity where
  | node (n : Int)
  | cooling (zone : CStr) (n : Int)
  | cpu (n : Int)
  | sensor (hwmon s : Int)
  deriving Repr, DecidableEq

/-- The entity a getter is called for. -/
def Query.entity : {β : Type} → Query β → List Entity
  | _, .memNumaGetNode n => [.node n]
  | _, .thermalGetCooling tz n => [.cooling tz.zoneName n]
  | _, .cpuOpen n => [.cpu n]
  | _, .thermalHwmonGetTemp hwmon s => [.sensor hwmon s]
  | _, _ => []

/-- The same library, with a log of these entities beside its memory. -/
def Library.logged (lib : Library σ τ) : Library σ (τ × List Entity) where
  query call sys memory :=
    let answer := lib.query call sys memory.1
    (answer.1, answer.2, memory.2 ++ call.entity)
  update call sys memory :=
    let answer := lib.update call sys memory.1
    (answer.1, answer.2.1, answer.2.2, memory.2)

/-- A command's surroundings, with the logged library. -/
def Ctx.logged (ctx : Ctx σ τ) : Ctx σ (τ × List Entity) :=
  ⟨ctx.lib.logged, ctx.host, ctx.env⟩

/-- On this system the program goes over these entities in this order. -/
def ReadM.Visits (program : ReadM σ (τ × List Entity) α) (ctx : Ctx σ τ) (sys : σ)
    (seen : List Entity) : Prop :=
  ∀ console, (program ctx.logged sys console).2.memory.2 = console.memory.2 ++ seen

/-- So does a program that may change the system. -/
def CliM.Visits (program : CliM σ (τ × List Entity) α) (ctx : Ctx σ τ) (seen : List Entity) :
    Prop :=
  ∀ process, (program ctx.logged process).2.console.memory.2 = process.console.memory.2 ++ seen

namespace ReadM.Visits

variable {ctx : Ctx σ τ} {sys : σ} {seen more : List Entity}

/-- A step that leaves the library alone. -/
theorem still
    {program : ReadM σ (τ × List Entity) α}
    (kept : ∀ console, (program ctx.logged sys console).2.memory = console.memory) :
    program.Visits ctx sys [] := by
  intro console
  rw [kept console, List.append_nil]

theorem pure (value : α) :
    (Pure.pure value : ReadM σ (τ × List Entity) α).Visits ctx sys [] :=
  still fun _ => rfl

theorem put (text : CStr) :
    (Zenctl.put text : ReadM σ (τ × List Entity) Unit).Visits ctx sys [] :=
  still fun _ => rfl

theorem outTableRow (cells : List CStr) :
    (Zenctl.outTableRow cells : ReadM σ (τ × List Entity) Unit).Visits ctx sys [] :=
  still fun _ => rfl

theorem outTable (cells : List CStr) :
    (Zenctl.outTable cells : ReadM σ (τ × List Entity) Unit).Visits ctx sys [] :=
  still fun _ => rfl

theorem outKv (label value : CStr) :
    (Zenctl.outKv label value : ReadM σ (τ × List Entity) Unit).Visits ctx sys [] :=
  still fun _ => rfl

theorem query (call : Query β) :
    (Zenctl.query call : ReadM σ (τ × List Entity) (Except Err β)).Visits ctx sys call.entity :=
  fun _ => rfl

theorem bind
    {program : ReadM σ (τ × List Entity) α} {next : α → ReadM σ (τ × List Entity) β}
    (first : program.Visits ctx sys seen)
    (rest : ∀ value, (next value).Visits ctx sys more) :
    (program >>= next).Visits ctx sys (seen ++ more) := by
  intro console
  rw [ReadM.bind_run, rest _ _, first console, List.append_assoc]

/-- A getter, and what is done with either of its answers. -/
theorem asks
    {call : Query β} {next : Except Err β → ReadM σ (τ × List Entity) α}
    (refused : ∀ err, (next (.error err)).Visits ctx sys more)
    (answered : ∀ value, (next (.ok value)).Visits ctx sys more) :
    (Zenctl.query call >>= next).Visits ctx sys (call.entity ++ more) := by
  refine .bind (.query call) fun answer => ?_
  cases answer with
  | error err => exact refused err
  | ok value => exact answered value

/-- A getter that is about no entity. -/
theorem asksOther
    {call : Query β} {next : Except Err β → ReadM σ (τ × List Entity) α}
    (other : call.entity = [])
    (refused : ∀ err, (next (.error err)).Visits ctx sys seen)
    (answered : ∀ value, (next (.ok value)).Visits ctx sys seen) :
    (Zenctl.query call >>= next).Visits ctx sys seen := by
  have visits : (Zenctl.query call >>= next).Visits ctx sys (call.entity ++ seen) :=
    asks refused answered
  rwa [other] at visits

/-- A getter of which it is known whether it answers. -/
theorem asksWhen
    {call : Query β} {next : Except Err β → ReadM σ (τ × List Entity) α} {answers : Bool}
    (known : ∀ memory, (ctx.lib.query call sys memory).1.isOk = answers)
    (refused : answers = false → ∀ err, (next (.error err)).Visits ctx sys more)
    (answered : answers = true → ∀ value, (next (.ok value)).Visits ctx sys more) :
    (Zenctl.query call >>= next).Visits ctx sys (call.entity ++ more) := by
  intro console
  have either := known console.memory.1
  rw [ReadM.bind_run, ← List.append_assoc]
  have answer : (Zenctl.query call ctx.logged sys console).1 =
      (ctx.lib.query call sys console.memory.1).1 := rfl
  rw [answer]
  cases result : (ctx.lib.query call sys console.memory.1).1 with
  | error err =>
      rw [result] at either
      exact refused either.symm err _
  | ok value =>
      rw [result] at either
      exact answered either.symm value _

/-- A step with a known result that leaves the library alone. -/
theorem knowing
    {program : ReadM σ (τ × List Entity) α} {next : α → ReadM σ (τ × List Entity) β} {value : α}
    (known : ∀ console, program ctx.logged sys console = (value, console))
    (rest : (next value).Visits ctx sys seen) :
    (program >>= next).Visits ctx sys seen := by
  intro console
  rw [ReadM.bind_run, known console]
  exact rest console

/-- A getter whose answer is known. -/
theorem asksFor
    {call : Query β} {next : Except Err β → ReadM σ (τ × List Entity) α} {answer : Except Err β}
    (known : ∀ memory, (ctx.lib.query call sys memory).1 = answer)
    (rest : (next answer).Visits ctx sys more) :
    (Zenctl.query call >>= next).Visits ctx sys (call.entity ++ more) := by
  intro console
  have result : (Zenctl.query call ctx.logged sys console).1 = answer := known console.memory.1
  rw [ReadM.bind_run, result, rest, ← List.append_assoc]
  rfl

/-- A step before which nothing is visited. -/
theorem after
    {program : ReadM σ (τ × List Entity) α} {next : α → ReadM σ (τ × List Entity) β}
    (first : program.Visits ctx sys [])
    (rest : ∀ value, (next value).Visits ctx sys seen) :
    (program >>= next).Visits ctx sys seen :=
  List.nil_append seen ▸ first.bind rest

/-- A step after which nothing is visited. -/
theorem before
    {program : ReadM σ (τ × List Entity) α} {next : α → ReadM σ (τ × List Entity) β}
    (first : program.Visits ctx sys seen)
    (rest : ∀ value, (next value).Visits ctx sys []) :
    (program >>= next).Visits ctx sys seen :=
  List.append_nil seen ▸ first.bind rest

theorem ite
    {condition : Prop} [Decidable condition] {first second : ReadM σ (τ × List Entity) α}
    (yes : condition → first.Visits ctx sys seen)
    (no : ¬condition → second.Visits ctx sys seen) :
    (if condition then first else second).Visits ctx sys seen := by
  by_cases holds : condition
  · rw [if_pos holds]
    exact yes holds
  · rw [if_neg holds]
    exact no holds

theorem report
    {json : Bool} {document : CStr} {lines : ReadM σ (τ × List Entity) Unit}
    (printed : lines.Visits ctx sys []) :
    (Zenctl.report json document lines).Visits ctx sys [] :=
  .ite (fun _ => .after (.put document) fun _ => .pure 0) fun _ => .after printed fun _ => .pure 0

theorem failWith (json : Bool) (err : Option Err) (fallback : CStr) :
    (Zenctl.failWith json err fallback : ReadM σ (τ × List Entity) Int).Visits ctx sys [] := by
  refine still fun console => ?_
  cases json with
  | false => rfl
  | true => rfl

/-- A loop goes over what its rounds go over. -/
theorem forEach
    {program : α → ReadM σ (τ × List Entity) Unit} {entities : α → List Entity}
    (round : ∀ item, (program item).Visits ctx sys (entities item)) (items : List α) :
    (Zenctl.forEach program items).Visits ctx sys (items.flatMap entities) := by
  induction items with
  | nil => exact .pure ()
  | cons item rest inductionHypothesis =>
      rw [List.flatMap_cons]
      exact .bind (round item) fun _ => inductionHypothesis

theorem collect
    {program : α → ReadM σ (τ × List Entity) β} {entities : α → List Entity}
    (round : ∀ item, (program item).Visits ctx sys (entities item)) (items : List α) :
    (Zenctl.collect program items).Visits ctx sys (items.flatMap entities) := by
  induction items with
  | nil => exact .pure []
  | cons item rest inductionHypothesis =>
      rw [List.flatMap_cons]
      exact .bind (round item) fun _ => .before inductionHypothesis fun _ => .pure _

/-- A listing is an array or a table. -/
theorem listing
    {json : Bool} {item : α → ReadM σ (τ × List Entity) β}
    {row : α → ReadM σ (τ × List Entity) Unit} {entities : α → List Entity}
    {items : List α} {document : List β → CStr} {header : ReadM σ (τ × List Entity) Unit}
    (status : Int)
    (headed : header.Visits ctx sys [])
    (itemRound : ∀ i, (item i).Visits ctx sys (entities i))
    (rowRound : ∀ i, (row i).Visits ctx sys (entities i)) :
    (if json = true then do
        let found ← Zenctl.collect item items
        Zenctl.put (document found)
        Pure.pure status
      else do
        header
        Zenctl.forEach row items
        Pure.pure status).Visits ctx sys (items.flatMap entities) :=
  .ite (fun _ => .before (.collect itemRound items) fun _ => .after (.put _) fun _ => .pure _)
    fun _ => .after headed fun _ => .before (.forEach rowRound items) fun _ => .pure _

end ReadM.Visits

namespace CliM.Visits

variable {ctx : Ctx σ τ} {seen more : List Entity}

theorem pure (value : α) :
    (Pure.pure value : CliM σ (τ × List Entity) α).Visits ctx [] :=
  fun process => (List.append_nil process.console.memory.2).symm

theorem update (call : Update) :
    (Zenctl.update call : CliM σ (τ × List Entity) (Except Err Unit)).Visits ctx [] :=
  fun process => (List.append_nil process.console.memory.2).symm

theorem reading
    {program : ReadM σ (τ × List Entity) α}
    (reads : ∀ sys, program.Visits ctx sys seen) :
    (Zenctl.reading program).Visits ctx seen :=
  fun process => reads process.sys process.console

theorem bind
    {program : CliM σ (τ × List Entity) α} {next : α → CliM σ (τ × List Entity) β}
    (first : program.Visits ctx seen)
    (rest : ∀ value, (next value).Visits ctx more) :
    (program >>= next).Visits ctx (seen ++ more) := by
  intro process
  rw [CliM.bind_run, rest _ _, first process, List.append_assoc]

/-- A step before which nothing is visited. -/
theorem after
    {program : CliM σ (τ × List Entity) α} {next : α → CliM σ (τ × List Entity) β}
    (first : program.Visits ctx [])
    (rest : ∀ value, (next value).Visits ctx seen) :
    (program >>= next).Visits ctx seen :=
  List.nil_append seen ▸ first.bind rest

/-- A step after which nothing is visited. -/
theorem before
    {program : CliM σ (τ × List Entity) α} {next : α → CliM σ (τ × List Entity) β}
    (first : program.Visits ctx seen)
    (rest : ∀ value, (next value).Visits ctx []) :
    (program >>= next).Visits ctx seen :=
  List.append_nil seen ▸ first.bind rest

/-- A reading step with a known result that leaves the library alone. -/
theorem knowing
    {program : ReadM σ (τ × List Entity) α} {next : α → CliM σ (τ × List Entity) β} {value : α}
    (known : ∀ sys console, program ctx.logged sys console = (value, console))
    (rest : (next value).Visits ctx seen) :
    (Zenctl.reading program >>= next).Visits ctx seen := by
  intro process
  rw [CliM.bind_run, reading_run, known]
  exact rest process

theorem collectCli
    {program : α → CliM σ (τ × List Entity) β} {entities : α → List Entity}
    (round : ∀ item, (program item).Visits ctx (entities item)) (items : List α) :
    (Zenctl.collectCli program items).Visits ctx (items.flatMap entities) := by
  induction items with
  | nil => exact .pure []
  | cons item rest inductionHypothesis =>
      rw [List.flatMap_cons]
      exact .bind (round item) fun _ => .before inductionHypothesis fun _ => .pure _

end CliM.Visits

end Zenctl
