import Zenctl.LibFirmware

namespace Zenctl

open CString

/-!
# The immutable flag of an EFI variable

Setting a variable clears the flag that protects its file, writes, and puts the
flag back.  The inode flags of the file are followed through every exit.
-/

variable {σ α β : Type}

/-! ## How a program ends -/

/-- The outcome of a run and the system it leaves satisfy a condition. -/
def SetM.Ends (program : SetM σ α) (os : Os σ) (sys : σ) (proc : Proc)
    (post : Outcome α → σ → Prop) : Prop :=
  post (program os sys proc).1 (program os sys proc).2.1

section Rules

variable {os : Os σ} {sys : σ} {proc : Proc} {post : Outcome β → σ → Prop}

/-- A getter in front of a program changes nothing, and may end it. -/
theorem SetM.Ends.getting
    {program : GetM σ α} {next : α → SetM σ β}
    (failed : post .failed sys)
    (blocked : post .blocked sys)
    (goesOn : ∀ result later, program os sys proc = (.value result, later) →
      (next result).Ends os sys later post) :
    (Zenctl.getting program >>= next).Ends os sys proc post := by
  unfold Ends
  rw [SetM.bind_run, getting_run]
  cases run : program os sys proc with
  | mk outcome later =>
      cases outcome with
      | value result => exact goesOn result later run
      | failed => exact failed
      | blocked => exact blocked

theorem SetM.Ends.stops
    {program : SetM σ α} {next : α → SetM σ β} {changed : σ} {later : Proc}
    (run : program os sys proc = (.failed, changed, later))
    (failed : post .failed changed) :
    (program >>= next).Ends os sys proc post := by
  unfold Ends
  rw [SetM.bind_failed run]
  exact failed

/-- A condition on the system that holds between two programs, whatever the first returns. -/
theorem SetM.Ends.seq
    {program : SetM σ α} {next : α → SetM σ β} (middle : σ → Prop)
    (first : middle (program os sys proc).2.1)
    (failed : ∀ changed, middle changed → post .failed changed)
    (blocked : ∀ changed, middle changed → post .blocked changed)
    (second : ∀ result changed later, middle changed → (next result).Ends os changed later post) :
    (program >>= next).Ends os sys proc post := by
  unfold Ends at second ⊢
  rw [SetM.bind_run]
  cases run : program os sys proc with
  | mk outcome rest =>
      rw [run] at first
      cases outcome with
      | value result => exact second result rest.1 rest.2 first
      | failed => exact failed rest.1 first
      | blocked => exact blocked rest.1 first

/-- An attempt goes on from what it did to the system, also when it failed. -/
theorem SetM.Ends.attempt
    {program : SetM σ α} {next : Option α → SetM σ β} (middle : σ → Prop)
    (first : middle (program os sys proc).2.1)
    (blocked : (program os sys proc).1 = .blocked → post .blocked (program os sys proc).2.1)
    (second : ∀ result changed later, middle changed → (next result).Ends os changed later post) :
    (attemptSet program >>= next).Ends os sys proc post := by
  unfold Ends at second ⊢
  rw [SetM.bind_run]
  unfold attemptSet
  cases run : program os sys proc with
  | mk outcome rest =>
      rw [run] at first blocked
      cases outcome with
      | value result => exact second (some result) rest.1 rest.2 first
      | failed => exact second none rest.1 rest.2 first
      | blocked => exact blocked rfl

theorem SetM.Ends.after
    {program : SetM σ α} {next : α → SetM σ β} {result : α} {changed : σ} {later : Proc}
    (run : program os sys proc = (.value result, changed, later))
    (ends : (next result).Ends os changed later post) :
    (program >>= next).Ends os sys proc post := by
  unfold Ends at ends ⊢
  rw [SetM.bind_value run]
  exact ends

theorem quietlySet_system (program : SetM σ α) :
    (quietlySet program os sys proc).2.1 = (program os sys proc).2.1 := by
  unfold quietlySet attemptSet
  dsimp only
  split <;> simp_all

end Rules

/-! ## Flag words -/

/-- The inode flags of a file that is there. -/
def flagWord (os : Os σ) (sys : σ) (path : CStr) : Option Nat :=
  match os.getFlags sys path with
  | .done flags => some flags
  | .openFailed _ | .ioctlFailed _ => none

/-- The file keeps its flags, or is gone. -/
def SameFlags (os : Os σ) (path : CStr) (before after : σ) : Prop :=
  flagWord os after path = flagWord os before path ∨ flagWord os after path = none

/--
A file whose flag calls succeed as long as it is there.  Writing to it, with
whatever outcome, and a call of `unlink` leave its flags alone or remove it.
-/
structure Os.KeepsFlags (os : Os σ) (path : CStr) : Prop where
  supported : ∀ sys e, os.getFlags sys path ≠ .ioctlFailed e
  sets : ∀ sys flags, flagWord os sys path ≠ none →
    (os.setFlags sys path flags).1 = .done () ∧
      flagWord os (os.setFlags sys path flags).2 path = some flags
  writes : ∀ sys data, flagWord os sys path ≠ none →
    SameFlags os path sys (os.writeBinary sys path data).2
  unlinks : ∀ sys, SameFlags os path sys (os.unlink sys path).2

theorem flagWord_some
    {os : Os σ} {sys : σ} {path : CStr} {flags : Nat}
    (word : flagWord os sys path = some flags) :
    os.getFlags sys path = .done flags := by
  unfold flagWord at word
  cases answer : os.getFlags sys path with
  | done found =>
      rw [answer] at word
      cases word
      rfl
  | openFailed e | ioctlFailed e =>
      rw [answer] at word
      cases word

theorem SameFlags.trans
    {os : Os σ} {path : CStr} {before middle after : σ}
    (first : SameFlags os path before middle)
    (second : SameFlags os path middle after) :
    SameFlags os path before after := by
  rcases second with same | gone
  · rcases first with same' | gone'
    · exact .inl (same.trans same')
    · exact .inr (same.trans gone')
  · exact .inr gone

/-- Bit 4 taken off and put back. -/
theorem isImmutable_iff (flags : Nat) :
    isImmutable flags = true ↔ flags / 16 % 2 = 1 := by
  simp [isImmutable, Nat.testBit_eq_decide_div_mod_eq]

section Protocol

variable {os : Os σ} {path : CStr} {sys : σ} {proc : Proc} {flags : Nat}

/-! ## Probing -/

theorem fsGetFlags_done
    (word : flagWord os sys path = some flags) :
    fsGetFlags path os sys proc = (.value (some flags), proc) := by
  unfold fsGetFlags
  rw [flagWord_some word]

/-- A file without flags cannot be opened. -/
theorem fsGetFlags_gone
    (keeps : os.KeepsFlags path)
    (word : flagWord os sys path = none)
    (proc : Proc) :
    (fsGetFlags path os sys proc).1 = .failed := by
  unfold fsGetFlags
  unfold flagWord at word
  cases answer : os.getFlags sys path with
  | done found =>
      rw [answer] at word
      cases word
  | openFailed e =>
      rfl
  | ioctlFailed e =>
      exact absurd answer (keeps.supported sys e)

/-! ## Clearing -/

/-- The flag is cleared if it was set, and the token says so. -/
theorem efiMaybeClearImmutable_run
    (keeps : os.KeepsFlags path)
    (word : flagWord os sys path = some flags)
    (proc : Proc) :
    ∃ changed, efiMaybeClearImmutable path os sys proc =
        (.value (isImmutable flags), changed, proc) ∧
      flagWord os changed path = some (if isImmutable flags then flags - 16 else flags) := by
  cases immutable : isImmutable flags with
  | false =>
      refine ⟨sys, ?_, word⟩
      refine (SetM.bind_getting_value (fsGetFlags_done word)).trans ?_
      simp only [immutable, Bool.false_eq_true, ↓reduceIte]
      rfl
  | true =>
      obtain ⟨answer, cleared⟩ := keeps.sets sys (flags - 16) (by rw [word]; nofun)
      refine ⟨(os.setFlags sys path (flags - 16)).2, ?_, cleared⟩
      refine (SetM.bind_getting_value (fsGetFlags_done word)).trans ?_
      simp only [immutable, ↓reduceIte]
      refine (SetM.bind_value (show fsSetFlags path (flags - 16) os sys proc =
        (.value (), (os.setFlags sys path (flags - 16)).2, proc) by
          simp only [fsSetFlags, answer])).trans rfl

/-! ## Restoring -/

/-- A file whose flag was cleared has it again, unless it is gone. -/
theorem efiMaybeRestoreImmutable_run
    (keeps : os.KeepsFlags path)
    (word : flagWord os sys path = some flags ∨ flagWord os sys path = none)
    (cleared : isImmutable flags = false)
    (proc : Proc) :
    flagWord os (efiMaybeRestoreImmutable path os sys proc).2.1 path = some (flags + 16) ∨
      flagWord os (efiMaybeRestoreImmutable path os sys proc).2.1 path = none := by
  rcases word with word | gone
  · left
    obtain ⟨answer, restored⟩ := keeps.sets sys (flags + 16) (by rw [word]; nofun)
    have run : efiMaybeRestoreImmutable path os sys proc =
        (.value (), (os.setFlags sys path (flags + 16)).2, proc) := by
      refine (SetM.bind_getting_value (fsGetFlags_done word)).trans ?_
      simp only [cleared, Bool.false_eq_true, ↓reduceIte, fsSetFlags, answer]
    rw [run]
    exact restored
  · right
    have failed := fsGetFlags_gone keeps gone proc
    unfold efiMaybeRestoreImmutable
    rw [SetM.bind_run, getting_run]
    generalize fsGetFlags path os sys proc = probe at failed
    obtain ⟨outcome, later⟩ := probe
    cases failed
    exact gone

/-- The last step of both functions, from what the write left behind. -/
theorem restoreAfter_ends
    (keeps : os.KeepsFlags path)
    (initial : flagWord os sys path = some flags)
    {changed : σ}
    (word : flagWord os changed path =
      some (if isImmutable flags then flags - 16 else flags) ∨ flagWord os changed path = none)
    (result : Option Unit) :
    (restoreAfter path (isImmutable flags) result).Ends os changed proc fun _ final =>
      SameFlags os path sys final := by
  have finishes : ∀ state later, SameFlags os path sys state →
      SetM.Ends (restoreAfter.finish result : SetM σ Unit) os state later fun _ final =>
        SameFlags os path sys final := by
    intro state later same
    cases result <;> exact same
  unfold restoreAfter
  cases immutable : isImmutable flags with
  | false =>
      rw [immutable] at word
      rw [if_neg (by decide)]
      exact finishes changed proc (word.imp_left (Eq.trans · initial.symm))
  | true =>
      rw [immutable, if_pos rfl] at word
      have bit := (isImmutable_iff flags).mp immutable
      have cleared : isImmutable (flags - 16) = false := by
        rw [Bool.eq_false_iff, Ne, isImmutable_iff]
        omega
      have restored := efiMaybeRestoreImmutable_run keeps word cleared proc
      rw [Nat.sub_add_cancel (show 16 ≤ flags by omega)] at restored
      have same : SameFlags os path sys (efiMaybeRestoreImmutable path os changed proc).2.1 :=
        restored.imp_left (Eq.trans · initial.symm)
      rw [if_pos rfl]
      exact .seq (SameFlags os path sys) (by rwa [quietlySet_system])
        (fun _ same => same) (fun _ same => same)
        fun _ state after same => finishes state after same

/-! ## Writing and erasing -/

theorem writeBinaryFile_run (os : Os σ) (path : CStr) (data : List Char) (sys : σ) (proc : Proc) :
    (writeBinaryFile path data os sys proc).2.1 = (os.writeBinary sys path data).2 ∧
      (writeBinaryFile path data os sys proc).1 ≠ .blocked := by
  unfold writeBinaryFile
  rw [SetM.bind_value (show writeBinaryFile.answer path data os sys proc =
    (.value (os.writeBinary sys path data).1, (os.writeBinary sys path data).2, proc) from rfl)]
  cases (os.writeBinary sys path data).1 <;> exact ⟨rfl, nofun⟩

/-- Writing the marker and unlinking leave the flags alone or remove the file. -/
theorem eraseVariable_keeps
    (keeps : os.KeepsFlags path)
    (word : flagWord os sys path ≠ none)
    (proc : Proc) :
    SameFlags os path sys (eraseVariable path os sys proc).2.1 := by
  show SetM.Ends (eraseVariable path) os sys proc fun _ final => SameFlags os path sys final
  have written : SameFlags os path sys (writeBinaryFile path (attributeBytes 0) os sys proc).2.1 := by
    rw [(writeBinaryFile_run ..).1]
    exact keeps.writes sys _ word
  refine .seq (SameFlags os path sys) written (fun _ same => same) (fun _ same => same)
    fun _ state later same => ?_
  refine .getting same same fun present after _ => ?_
  cases present with
  | false =>
      exact same
  | true =>
      have removed : SameFlags os path sys (os.unlink state path).2 :=
        same.trans (keeps.unlinks state)
      show SameFlags os path sys (eraseVariable.unlinkVariable path os state after).2.1
      unfold eraseVariable.unlinkVariable
      dsimp only
      split <;> exact removed

/-! ## Setting and deleting -/

/-- The file of a variable. -/
def efiVariablePath (name guid : CStr) : CStr :=
  joinPath efivarsBase (efiFilename name guid)

/-- Nothing but the program itself decides where the path of a variable leads. -/
theorem efiPath_value
    {name guid caller : CStr} {later : Proc} {found : CStr}
    (run : efiPath name guid caller os sys proc = (.value found, later)) :
    found = efiVariablePath name guid := by
  obtain ⟨_, _, -, joined⟩ := GetM.value_of_bind run
  obtain ⟨_, _, -, returned⟩ := GetM.value_of_bind joined
  cases returned
  rfl

end Protocol

section Operations

variable {os : Os σ} {name guid : CStr} (keeps : os.KeepsFlags (efiVariablePath name guid))
  {sys : σ} (proc : Proc) {flags : Nat}
  (initial : flagWord os sys (efiVariablePath name guid) = some flags)

include keeps initial

/-- After a set, the flags are as they were. -/
theorem zenctlFwEfiSet_flags (attributes : Nat) (data : List Char) :
    (zenctlFwEfiSet name guid attributes data).Ends os sys proc fun _ final =>
      SameFlags os (efiVariablePath name guid) sys final := by
  have same : SameFlags os (efiVariablePath name guid) sys sys := .inl rfl
  unfold zenctlFwEfiSet
  split
  · refine .getting same same fun _ _ _ => ?_
    refine .getting same same fun path _ found => ?_
    cases efiPath_value found
    refine .getting same same fun _ after _ => ?_
    obtain ⟨changed, cleared, word⟩ := efiMaybeClearImmutable_run keeps initial after
    have written := (keeps.writes changed (attributeBytes attributes ++ data)
      (by rw [word]; nofun)).imp_left (Eq.trans · word)
    have ran := writeBinaryFile_run os (efiVariablePath name guid)
      (attributeBytes attributes ++ data) changed after
    refine .after cleared (.attempt (fun state =>
      flagWord os state (efiVariablePath name guid) =
          some (if isImmutable flags then flags - 16 else flags) ∨
        flagWord os state (efiVariablePath name guid) = none) ?_ ?_ ?_)
    · rwa [ran.1]
    · exact fun blocked => absurd blocked ran.2
    · exact fun result state later word => restoreAfter_ends keeps initial word result
  · exact same

/-- After a delete that failed, the flags are as they were. -/
theorem zenctlFwEfiDelete_flags :
    (zenctlFwEfiDelete name guid).Ends os sys proc fun outcome final =>
      outcome = .failed → SameFlags os (efiVariablePath name guid) sys final := by
  have same : SameFlags os (efiVariablePath name guid) sys sys := .inl rfl
  unfold zenctlFwEfiDelete
  split
  · refine .getting (fun _ => same) nofun fun _ _ _ => ?_
    refine .getting (fun _ => same) nofun fun path after found => ?_
    cases efiPath_value found
    obtain ⟨changed, cleared, word⟩ := efiMaybeClearImmutable_run keeps initial after
    have there : flagWord os changed (efiVariablePath name guid) ≠ none := by
      rw [word]
      nofun
    have erased := (eraseVariable_keeps keeps there after).imp_left (Eq.trans · word)
    refine .after cleared (.attempt (fun state =>
      flagWord os state (efiVariablePath name guid) =
          some (if isImmutable flags then flags - 16 else flags) ∨
        flagWord os state (efiVariablePath name guid) = none) erased (fun _ => nofun) ?_)
    intro result state later word
    cases result with
    | some _ => exact nofun
    | none => exact fun _ => restoreAfter_ends keeps initial word none
  · exact fun _ => same

end Operations

/-! ## When the flag cannot be cleared -/

/-- The flags of the file cannot be read, and not because it has none. -/
def ProbeFails (os : Os σ) (sys : σ) (path : CStr) : Prop :=
  ∀ proc, (fsGetFlags path os sys proc).1 = .failed

/-- The file is immutable, and the flag cannot be taken off. -/
def ClearFails (os : Os σ) (sys : σ) (path : CStr) : Prop :=
  ∃ flags, flagWord os sys path = some flags ∧ isImmutable flags = true ∧
    ∀ proc, (fsSetFlags path (flags - 16) os sys proc).1 = .failed

/-- At most one flag call was made, nothing else. -/
def Unwritten (os : Os σ) (path : CStr) (before after : σ) : Prop :=
  after = before ∨ ∃ flags, after = (os.setFlags before path flags).2

theorem fsSetFlags_system
    (os : Os σ) (path : CStr) (flags : Nat) (sys : σ) (proc : Proc) :
    (fsSetFlags path flags os sys proc).2.1 = (os.setFlags sys path flags).2 := by
  unfold fsSetFlags
  dsimp only
  split <;> rfl

section Failures

variable {os : Os σ} {path : CStr} {sys : σ}

theorem efiMaybeClearImmutable_fails
    (fails : ProbeFails os sys path ∨ ClearFails os sys path) (proc : Proc) :
    ∃ changed later, efiMaybeClearImmutable path os sys proc = (.failed, changed, later) ∧
      Unwritten os path sys changed := by
  rcases fails with probe | ⟨flags, word, immutable, fails⟩
  · have failed := probe proc
    refine ⟨sys, (fsGetFlags path os sys proc).2, ?_, .inl rfl⟩
    exact SetM.bind_getting_failed (Prod.ext failed rfl)
  · have failed := fails proc
    refine ⟨(os.setFlags sys path (flags - 16)).2, (fsSetFlags path (flags - 16) os sys proc).2.2,
      ?_, .inr ⟨flags - 16, rfl⟩⟩
    refine (SetM.bind_getting_value (fsGetFlags_done word)).trans ?_
    simp only [immutable, ↓reduceIte]
    refine SetM.bind_failed ?_
    rw [← fsSetFlags_system os path (flags - 16) sys proc, ← failed]

variable {name guid : CStr}
  (fails : ProbeFails os sys (efiVariablePath name guid) ∨
    ClearFails os sys (efiVariablePath name guid))
  (proc : Proc)

include fails

theorem zenctlFwEfiSet_unwritten (attributes : Nat) (data : List Char) :
    (zenctlFwEfiSet name guid attributes data).Ends os sys proc fun _ final =>
      Unwritten os (efiVariablePath name guid) sys final := by
  have same : Unwritten os (efiVariablePath name guid) sys sys := .inl rfl
  unfold zenctlFwEfiSet
  split
  · refine .getting same same fun _ _ _ => ?_
    refine .getting same same fun path _ found => ?_
    cases efiPath_value found
    refine .getting same same fun _ after _ => ?_
    obtain ⟨changed, later, failed, untouched⟩ := efiMaybeClearImmutable_fails fails after
    exact .stops failed untouched
  · exact same

theorem zenctlFwEfiDelete_unwritten :
    (zenctlFwEfiDelete name guid).Ends os sys proc fun _ final =>
      Unwritten os (efiVariablePath name guid) sys final := by
  have same : Unwritten os (efiVariablePath name guid) sys sys := .inl rfl
  unfold zenctlFwEfiDelete
  split
  · refine .getting same same fun _ _ _ => ?_
    refine .getting same same fun path after found => ?_
    cases efiPath_value found
    obtain ⟨changed, later, failed, untouched⟩ := efiMaybeClearImmutable_fails fails after
    exact .stops failed untouched
  · exact same

end Failures

/--
A set, and a delete that fails, leave the flags of an existing variable as they
were, whatever becomes of the write.  When the flags cannot be read or the
immutable flag cannot be cleared, nothing is written at all.
-/
theorem efiFlags_kept (os : Os σ) (name guid : CStr) (sys : σ) (proc : Proc) :
    (∀ flags, os.KeepsFlags (efiVariablePath name guid) →
      flagWord os sys (efiVariablePath name guid) = some flags →
        (∀ attributes data, (zenctlFwEfiSet name guid attributes data).Ends os sys proc
          fun _ final => SameFlags os (efiVariablePath name guid) sys final) ∧
        (zenctlFwEfiDelete name guid).Ends os sys proc fun outcome final =>
          outcome = .failed → SameFlags os (efiVariablePath name guid) sys final) ∧
    (ProbeFails os sys (efiVariablePath name guid) ∨
      ClearFails os sys (efiVariablePath name guid) →
        (∀ attributes data, (zenctlFwEfiSet name guid attributes data).Ends os sys proc
          fun _ final => Unwritten os (efiVariablePath name guid) sys final) ∧
        (zenctlFwEfiDelete name guid).Ends os sys proc fun _ final =>
          Unwritten os (efiVariablePath name guid) sys final) :=
  ⟨fun _ keeps initial =>
      ⟨zenctlFwEfiSet_flags keeps proc initial, zenctlFwEfiDelete_flags keeps proc initial⟩,
    fun fails => ⟨zenctlFwEfiSet_unwritten fails proc, zenctlFwEfiDelete_unwritten fails proc⟩⟩

end Zenctl
