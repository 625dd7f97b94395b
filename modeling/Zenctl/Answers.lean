import Zenctl.SilentFailures

namespace Zenctl

open CString

/-!
# What getters answer

A getter that reads a few files and directories goes by their contents alone,
except that an allocation may fail.  `FailsOr` says what is delivered if
anything is; `Answers` says what is delivered when there is memory.
-/

variable {σ α β : Type}

/-! ## Programs that fail or deliver -/

/-- The program fails, or delivers such a value; it always returns. -/
def GetM.FailsOr (program : GetM σ α) (os : Os σ) (sys : σ) (good : α → Prop) : Prop :=
  ∀ proc, (∃ later, program os sys proc = (.failed, later)) ∨
    ∃ value later, program os sys proc = (.value value, later) ∧ good value

/-- The program fails and leaves the system as it was, or ends in such a state. -/
def SetM.FailsOr (program : SetM σ α) (os : Os σ) (sys : σ) (reached : σ → Prop) : Prop :=
  ∀ proc, (∃ later, program os sys proc = (.failed, sys, later)) ∨
    reached (program os sys proc).2.1

section Rules

variable {os : Os σ} {sys : σ}

theorem GetM.FailsOr.pure {good : α → Prop} {value : α} (holds : good value) :
    (Pure.pure value : GetM σ α).FailsOr os sys good :=
  fun proc => .inr ⟨value, proc, rfl, holds⟩

theorem GetM.FailsOr.fail {good : α → Prop} :
    (Zenctl.fail : GetM σ α).FailsOr os sys good :=
  fun proc => .inl ⟨proc, rfl⟩

theorem GetM.FailsOr.raise {good : α → Prop} (code : Int) (message context : CStr) :
    (Zenctl.raise code message context : GetM σ α).FailsOr os sys good :=
  fun _ => .inl ⟨_, rfl⟩

theorem GetM.FailsOr.bind
    {program : GetM σ α} {next : α → GetM σ β} {middle : α → Prop} {good : β → Prop}
    (first : program.FailsOr os sys middle)
    (rest : ∀ value, middle value → (next value).FailsOr os sys good) :
    (program >>= next).FailsOr os sys good := by
  intro proc
  rcases first proc with ⟨later, failed⟩ | ⟨value, later, run, holds⟩
  · exact .inl ⟨later, GetM.bind_failed failed⟩
  · rw [GetM.bind_value run]
    exact rest value holds later

theorem GetM.FailsOr.mono
    {program : GetM σ α} {good wider : α → Prop}
    (ends : program.FailsOr os sys good)
    (covers : ∀ value, good value → wider value) :
    program.FailsOr os sys wider := by
  intro proc
  rcases ends proc with failed | ⟨value, later, run, holds⟩
  · exact .inl failed
  · exact .inr ⟨value, later, run, covers value holds⟩

theorem GetM.FailsOr.ite
    {condition : Prop} [Decidable condition] {first second : GetM σ α} {good : α → Prop}
    (yes : condition → first.FailsOr os sys good)
    (no : ¬condition → second.FailsOr os sys good) :
    (if condition then first else second).FailsOr os sys good := by
  by_cases holds : condition
  · rw [if_pos holds]
    exact yes holds
  · rw [if_neg holds]
    exact no holds

theorem GetM.FailsOr.failed
    {program : GetM σ α} (ends : program.FailsOr os sys fun _ => False) (proc : Proc) :
    (program os sys proc).1 = .failed := by
  rcases ends proc with ⟨later, run⟩ | ⟨_, _, _, impossible⟩
  · rw [run]
  · exact impossible.elim

theorem sysCallOr_failsOr
    (call : Os σ → σ → Except Errno α) (message : Option CStr) (context : CStr) :
    (sysCallOr call message context).FailsOr os sys fun value => call os sys = .ok value := by
  intro proc
  unfold sysCallOr
  cases answer : call os sys with
  | error e =>
      rw [GetM.bind_value (sysCall_error answer)]
      exact .inl ⟨_, rfl⟩
  | ok value =>
      rw [GetM.bind_value (sysCall_ok answer)]
      exact .inr ⟨value, proc, rfl, rfl⟩

theorem allocateOr_failsOr (message context : CStr) :
    (allocateOr message context).FailsOr os sys fun _ => True := by
  intro proc
  rw [allocateOr_run]
  split
  · exact .inl ⟨_, rfl⟩
  · exact .inr ⟨_, _, rfl, trivial⟩

/-- On the side, such a program delivers one thing or another. -/
theorem GetM.FailsOr.quietly
    {program : GetM σ α} {good : α → Prop} (ends : program.FailsOr os sys good) (proc : Proc) :
    ∃ result later, Zenctl.quietly program os sys proc = (.value result, later) := by
  rcases ends proc with ⟨later, failed⟩ | ⟨value, later, run, -⟩
  · exact ⟨none, _, quietly_failed failed⟩
  · exact ⟨some value, _, quietly_value run⟩

theorem readFileString_failsOr (path : CStr) (size : Nat) :
    (readFileString path size).FailsOr os sys fun text => textOf os sys path size = some text := by
  intro proc
  have read := readFileString_text os sys proc path size
  cases found : textOf os sys path size with
  | none =>
      rw [found] at read
      obtain ⟨errno, err, failed⟩ := read
      exact .inl ⟨_, failed⟩
  | some text =>
      rw [found] at read
      exact .inr ⟨text, proc, read, rfl⟩

theorem quietly_readFileString (path : CStr) (size : Nat) (proc : Proc) :
    ∃ result later, quietly (readFileString path size) os sys proc = (.value result, later) :=
  (readFileString_failsOr path size).quietly proc

theorem quietly_readStringAlloc (path : CStr) (proc : Proc) :
    ∃ result later, quietly (readStringAlloc path) os sys proc = (.value result, later) := by
  have reads : (readStringAlloc path).FailsOr os sys fun _ => True :=
    .bind (readFileString_failsOr path 4096) fun _ _ =>
      .bind (allocateOr_failsOr _ _) fun _ _ => .pure trivial
  exact reads.quietly proc

theorem SetM.FailsOr.mono
    {program : SetM σ α} {reached wider : σ → Prop}
    (ends : program.FailsOr os sys reached)
    (covers : ∀ sys, reached sys → wider sys) :
    program.FailsOr os sys wider := by
  intro proc
  rcases ends proc with failed | holds
  · exact .inl failed
  · exact .inr (covers _ holds)

theorem SetM.FailsOr.raise {reached : σ → Prop} (code : Int) (message context : CStr) :
    (getting (Zenctl.raise code message context) : SetM σ α).FailsOr os sys reached :=
  fun _ => .inl ⟨_, rfl⟩

/-- What is read first decides how it goes on. -/
theorem SetM.FailsOr.after
    {program : GetM σ α} {next : α → SetM σ β} {middle : α → Prop} {reached : σ → Prop}
    (first : program.FailsOr os sys middle)
    (rest : ∀ value, middle value → (next value).FailsOr os sys reached) :
    (getting program >>= next).FailsOr os sys reached := by
  intro proc
  rcases first proc with ⟨later, failed⟩ | ⟨value, later, run, holds⟩
  · exact .inl ⟨later, SetM.bind_getting_failed failed⟩
  · rw [SetM.bind_getting_value run]
    exact rest value holds later

theorem SetM.FailsOr.ite
    {condition : Prop} [Decidable condition] {first second : SetM σ α} {reached : σ → Prop}
    (yes : condition → first.FailsOr os sys reached)
    (no : ¬condition → second.FailsOr os sys reached) :
    (if condition then first else second).FailsOr os sys reached := by
  by_cases holds : condition
  · rw [if_pos holds]
    exact yes holds
  · rw [if_neg holds]
    exact no holds

end Rules

/-! ## What a number file says -/

/-- The number in a file, if there is one to read. -/
def fileInt (os : Os σ) (sys : σ) (path : CStr) : Option Int :=
  match textOf os sys path 64 with
  | none => none
  | some text =>
      match strtoll text with
      | some parsed => if parsed.outOfRange then none else some parsed.value
      | none => none

theorem readFileI64_int (os : Os σ) (sys : σ) (path : CStr) (proc : Proc) :
    match fileInt os sys path with
    | some value => ∃ later, readFileI64 path os sys proc = (.value value, later) ∧
        later.err = proc.err ∧ later.allocations = proc.allocations
    | none => ∃ later, readFileI64 path os sys proc = (.failed, later) ∧
        later.allocations = proc.allocations := by
  have read := readFileString_text os sys proc path 64
  unfold fileInt readFileI64
  cases found : textOf os sys path 64 with
  | none =>
      rw [found] at read
      obtain ⟨errno, err, failed⟩ := read
      exact ⟨_, GetM.bind_failed failed, rfl⟩
  | some text =>
      rw [found] at read
      dsimp only at read ⊢
      rw [GetM.bind_value read]
      cases strtoll text with
      | none => exact ⟨_, rfl, rfl⟩
      | some parsed =>
          dsimp only
          cases outside : parsed.outOfRange with
          | true =>
              simp only [if_true]
              exact ⟨_, rfl, rfl⟩
          | false =>
              simp only [Bool.false_eq_true, if_false]
              exact ⟨_, rfl, rfl, rfl⟩

theorem readFileI64_failsOr (os : Os σ) (sys : σ) (path : CStr) :
    (readFileI64 path).FailsOr os sys fun value => fileInt os sys path = some value := by
  intro proc
  have read := readFileI64_int os sys path proc
  cases found : fileInt os sys path with
  | none =>
      rw [found] at read
      obtain ⟨later, failed, -⟩ := read
      exact .inl ⟨later, failed⟩
  | some value =>
      rw [found] at read
      obtain ⟨later, run, -⟩ := read
      exact .inr ⟨value, later, run, rfl⟩

theorem quietly_readFileI64 (os : Os σ) (sys : σ) (path : CStr) (proc : Proc) :
    ∃ later, quietly (readFileI64 path) os sys proc = (.value (fileInt os sys path), later) ∧
      later.allocations = proc.allocations := by
  have read := readFileI64_int os sys path proc
  cases found : fileInt os sys path with
  | none =>
      rw [found] at read
      obtain ⟨later, failed, kept⟩ := read
      exact ⟨_, quietly_failed failed, kept⟩
  | some value =>
      rw [found] at read
      obtain ⟨later, run, -, kept⟩ := read
      exact ⟨_, quietly_value run, kept⟩

/-! ## With memory -/

/-- The outcome with a value, or a failure. -/
def Outcome.ofOption : Option α → Outcome α
  | some result => .value result
  | none => .failed

/-- With memory, the program delivers the answer, and fails when there is none. -/
def GetM.Answers (program : GetM σ α) (os : Os σ) (sys : σ) (answer : Option α) : Prop :=
  ∀ proc, proc.allocations = [] → ∃ later,
    program os sys proc = (.ofOption answer, later) ∧ later.allocations = []

namespace GetM.Answers

variable {os : Os σ} {sys : σ}

theorem pure (value : α) :
    (Pure.pure value : GetM σ α).Answers os sys (some value) :=
  fun proc memory => ⟨proc, rfl, memory⟩

theorem raise (code : Int) (message context : CStr) :
    (Zenctl.raise code message context : GetM σ α).Answers os sys none :=
  fun _ memory => ⟨_, rfl, memory⟩

theorem bind
    {program : GetM σ α} {next : α → GetM σ β} {first : Option α} {rest : α → Option β}
    (asked : program.Answers os sys first)
    (goesOn : ∀ value, first = some value → (next value).Answers os sys (rest value)) :
    (program >>= next).Answers os sys (first.bind rest) := by
  intro proc memory
  obtain ⟨later, run, remembers⟩ := asked proc memory
  cases first with
  | none => exact ⟨later, GetM.bind_failed run, remembers⟩
  | some value =>
      obtain ⟨final, continued, kept⟩ := goesOn value rfl later remembers
      exact ⟨final, (GetM.bind_value run).trans continued, kept⟩

/-- A step that always delivers. -/
theorem after
    {program : GetM σ α} {next : α → GetM σ β} {value : α} {answer : Option β}
    (asked : program.Answers os sys (some value))
    (goesOn : (next value).Answers os sys answer) :
    (program >>= next).Answers os sys answer := by
  intro proc memory
  obtain ⟨later, run, remembers⟩ := asked proc memory
  obtain ⟨final, continued, kept⟩ := goesOn later remembers
  exact ⟨final, (GetM.bind_value run).trans continued, kept⟩

theorem ite
    {condition : Prop} [Decidable condition] {first second : GetM σ α} {yes no : Option α}
    (holds : first.Answers os sys yes)
    (fails : second.Answers os sys no) :
    (if condition then first else second).Answers os sys (if condition then yes else no) := by
  split
  · exact holds
  · exact fails

/-- The outcome is decided by the answer. -/
theorem outcome
    {program : GetM σ α} {answer : Option α}
    (asked : program.Answers os sys answer)
    {proc : Proc} (memory : proc.allocations = []) :
    (program os sys proc).1 = .ofOption answer := by
  obtain ⟨later, run, -⟩ := asked proc memory
  rw [run]

theorem fail : (Zenctl.fail : GetM σ α).Answers os sys none :=
  fun proc memory => ⟨proc, rfl, memory⟩

/-- A caller that looks at the failure has an answer either way. -/
theorem attempt
    {program : GetM σ α} {answer : Option α}
    (asked : program.Answers os sys answer) :
    (Zenctl.attempt program).Answers os sys (some answer) := by
  intro proc memory
  obtain ⟨later, run, remembers⟩ := asked proc memory
  unfold Zenctl.attempt
  rw [run]
  cases answer with
  | none => exact ⟨later, rfl, remembers⟩
  | some value => exact ⟨later, rfl, remembers⟩

/-- On the side, a failure is an answer too. -/
theorem quietly
    {program : GetM σ α} {answer : Option α}
    (asked : program.Answers os sys answer) :
    (Zenctl.quietly program).Answers os sys (some answer) := by
  intro proc memory
  obtain ⟨later, run, remembers⟩ := asked proc memory
  cases answer with
  | none => exact ⟨_, quietly_failed run, remembers⟩
  | some value => exact ⟨_, quietly_value run, remembers⟩

end GetM.Answers

section Answering

variable {os : Os σ} {sys : σ}

theorem allocate_answers :
    (allocate : GetM σ Bool).Answers os sys (some true) :=
  fun proc memory => ⟨proc, allocate_run memory, memory⟩

theorem allocateOr_answers (message context : CStr) :
    (allocateOr message context).Answers os sys (some ()) :=
  fun proc memory => ⟨proc, allocateOr_plenty memory message context, memory⟩

theorem growArray_answers (first capacity used : Nat) (message context : CStr) :
    ∃ room, (growArray first capacity used message context).Answers os sys (some room) := by
  unfold growArray
  split
  · exact ⟨_, .after (allocateOr_answers message context) (.pure _)⟩
  · exact ⟨capacity, .pure capacity⟩

theorem sysCall_answers (call : Os σ → σ → Except Errno α) :
    (sysCall call).Answers os sys (some (call os sys).toOption) := by
  intro proc memory
  cases answer : call os sys with
  | error e => exact ⟨_, sysCall_error answer, memory⟩
  | ok value => exact ⟨proc, sysCall_ok answer, memory⟩

theorem sysCallOr_answers
    (call : Os σ → σ → Except Errno α) (message : Option CStr) (context : CStr) :
    (sysCallOr call message context).Answers os sys (call os sys).toOption := by
  intro proc memory
  unfold sysCallOr
  cases answer : call os sys with
  | error e => exact ⟨_, GetM.bind_value (sysCall_error answer), memory⟩
  | ok value => exact ⟨proc, GetM.bind_value (sysCall_ok answer), memory⟩

theorem readFileString_answers (path : CStr) (size : Nat) :
    (readFileString path size).Answers os sys (textOf os sys path size) := by
  intro proc memory
  have read := readFileString_text os sys proc path size
  cases found : textOf os sys path size with
  | none =>
      rw [found] at read
      obtain ⟨errno, err, failed⟩ := read
      exact ⟨_, failed, memory⟩
  | some text =>
      rw [found] at read
      exact ⟨proc, read, memory⟩

theorem readFileI64_answers (path : CStr) :
    (readFileI64 path).Answers os sys (fileInt os sys path) := by
  intro proc memory
  have read := readFileI64_int os sys path proc
  cases found : fileInt os sys path with
  | none =>
      rw [found] at read
      obtain ⟨later, failed, kept⟩ := read
      exact ⟨later, failed, kept.trans memory⟩
  | some value =>
      rw [found] at read
      obtain ⟨later, run, -, kept⟩ := read
      exact ⟨later, run, kept.trans memory⟩

/-- The text a program copies, trailing white space removed. -/
theorem readStringAlloc_answers (path : CStr) :
    (readStringAlloc path).Answers os sys
      ((textOf os sys path 4096).map fun text => text.rdropWhile isSpace) := by
  rw [Option.map_eq_bind]
  exact .bind (readFileString_answers path 4096) fun _ _ =>
    .after (allocateOr_answers _ _) (.pure _)

end Answering

/-! ## One value, or no memory for it -/

/-- With memory the program delivers this value; it never delivers another one. -/
def GetM.Delivers (program : GetM σ α) (os : Os σ) (sys : σ) (value : α) : Prop :=
  program.Answers os sys (some value) ∧ program.FailsOr os sys (· = value)

namespace GetM.Delivers

variable {os : Os σ} {sys : σ}

theorem of_run
    {program : GetM σ α} {value : α} (run : ∀ proc, program os sys proc = (.value value, proc)) :
    program.Delivers os sys value :=
  ⟨fun proc memory => ⟨proc, run proc, memory⟩, fun proc => .inr ⟨value, proc, run proc, rfl⟩⟩

theorem allocateOr (message context : CStr) :
    (Zenctl.allocateOr message context).Delivers os sys () :=
  ⟨allocateOr_answers message context, (allocateOr_failsOr message context).mono fun _ _ => rfl⟩

theorem after
    {program : GetM σ α} {next : α → GetM σ β} {first : α} {second : β}
    (asked : program.Delivers os sys first)
    (goesOn : (next first).Delivers os sys second) :
    (program >>= next).Delivers os sys second := by
  refine ⟨asked.1.after goesOn.1, asked.2.bind ?_⟩
  rintro _ rfl
  exact goesOn.2

end GetM.Delivers

end Zenctl
