import Zenctl.EfiVariables

namespace Zenctl

open CString

/-!
# Redirection

Which file each step of the library works on when `ZENCTL_SYSFS_PREFIX` is set.
A step works on a file if it cannot tell two machines apart that agree on it.
-/

variable {σ α β : Type}

/-! ## Machines that agree on a file -/

/-- Every call on the path has the same answer and the same effect. -/
structure Os.AgreeAt (path : CStr) (os other : Os σ) : Prop where
  sysfsRoot : os.sysfsRoot = other.sysfsRoot
  strerror : os.strerror = other.strerror
  openRead : ∀ sys, os.openRead sys path = other.openRead sys path
  writeFile : ∀ sys text, os.writeFile sys path text = other.writeFile sys path text
  access : ∀ sys mode, os.access sys path mode = other.access sys path mode
  listDir : ∀ sys, os.listDir sys path = other.listDir sys path
  readlink : ∀ sys, os.readlink sys path = other.readlink sys path
  writeBinary : ∀ sys data, os.writeBinary sys path data = other.writeBinary sys path data
  isEfivarfs : ∀ sys, os.isEfivarfs sys path = other.isEfivarfs sys path
  isFile : ∀ sys, os.isFile sys path = other.isFile sys path
  isDir : ∀ sys, os.isDir sys path = other.isDir sys path
  getFlags : ∀ sys, os.getFlags sys path = other.getFlags sys path
  setFlags : ∀ sys flags, os.setFlags sys path flags = other.setFlags sys path flags
  unlink : ∀ sys, os.unlink sys path = other.unlink sys path

/-- The program cannot tell the two machines apart. -/
def GetM.Alike (program : GetM σ α) (os other : Os σ) : Prop :=
  ∀ sys proc, program os sys proc = program other sys proc

def SetM.Alike (program : SetM σ α) (os other : Os σ) : Prop :=
  ∀ sys proc, program os sys proc = program other sys proc

section Rules

variable {os other : Os σ}

theorem GetM.Alike.pure (result : α) :
    (Pure.pure result : GetM σ α).Alike os other := by
  intro sys proc
  rfl

theorem GetM.Alike.bind
    {program : GetM σ α} {next : α → GetM σ β}
    (first : program.Alike os other)
    (second : ∀ result, (next result).Alike os other) :
    (program >>= next).Alike os other := by
  intro sys proc
  rw [GetM.bind_run, GetM.bind_run, first sys proc]
  cases program other sys proc with
  | mk outcome later =>
      cases outcome with
      | value result => exact second result sys later
      | failed => rfl
      | blocked => rfl

theorem SetM.Alike.bind
    {program : SetM σ α} {next : α → SetM σ β}
    (first : program.Alike os other)
    (second : ∀ result, (next result).Alike os other) :
    (program >>= next).Alike os other := by
  intro sys proc
  rw [SetM.bind_run, SetM.bind_run, first sys proc]
  cases program other sys proc with
  | mk outcome rest =>
      cases outcome with
      | value result => exact second result rest.1 rest.2
      | failed => rfl
      | blocked => rfl

theorem GetM.Alike.getting
    {program : GetM σ α} (alike : program.Alike os other) :
    (Zenctl.getting program).Alike os other := by
  intro sys proc
  rw [getting_run, getting_run, alike sys proc]

theorem raise_alike (code : Int) (message context : CStr) :
    (raise code message context : GetM σ α).Alike os other := by
  intro sys proc
  rfl

theorem setErrno_alike (e : Int) :
    (setErrno e : GetM σ Unit).Alike os other := by
  intro sys proc
  rfl

theorem allocateOr_alike (message context : CStr) :
    (allocateOr message context : GetM σ Unit).Alike os other := by
  refine .bind (fun sys proc => rfl) ?_
  intro there
  cases there with
  | false => exact raise_alike _ _ _
  | true => exact .pure _

theorem sysCall_alike
    {call : Os σ → σ → Except Errno α}
    (same : ∀ sys, call os sys = call other sys) :
    (sysCall call).Alike os other := by
  intro sys proc
  unfold sysCall
  rw [same sys]

/-! ## Reports -/

variable (texts : os.strerror = other.strerror)

include texts

theorem raiseErrno_alike (message : Option CStr) (context : CStr) :
    (raiseErrno message context : GetM σ α).Alike os other := by
  refine .bind (fun sys proc => rfl) fun e => ?_
  refine .bind (fun sys proc => ?_) fun text => raise_alike _ _ _
  unfold strerror
  rw [texts]

theorem raiseFirmware_alike (e : Errno) (context : CStr) :
    (raiseFirmware e context : GetM σ α).Alike os other := by
  refine .bind (setErrno_alike _) fun _ => ?_
  refine .bind (fun sys proc => ?_) fun text => raise_alike _ _ _
  unfold strerror
  rw [texts]

theorem sysCallOr_alike
    {call : Os σ → σ → Except Errno α}
    (same : ∀ sys, call os sys = call other sys)
    (message : Option CStr) (context : CStr) :
    (sysCallOr call message context).Alike os other := by
  refine .bind (sysCall_alike same) ?_
  intro answer
  cases answer with
  | some result => exact .pure _
  | none => exact raiseErrno_alike texts _ _

end Rules

/-! ## Steps -/

/-- The steps that take a path. -/
inductive FileStep where
  /-- `zenctl__read_file_string`, `zenctl__read_file_i64` and `zenctl__read_file_binary`. -/
  | readFileString (path : CStr) (size : Nat)
  | readFileI64 (path : CStr)
  | readFileBinary (path : CStr)
  /-- `zenctl__write_file_string` and `zenctl__write_file_i64`. -/
  | writeFileString (path value : CStr)
  | writeFileI64 (path : CStr) (value : Int)
  /-- The `statfs` of `efivars_mounted`. -/
  | efivarsMounted
  /-- `write_binary`, `fs_get_flags`, `fs_set_flags`, `stat` and `unlink` of an EFI variable. -/
  | writeBinary (path : CStr) (data : List Char)
  | fsGetFlags (path : CStr)
  | fsSetFlags (path : CStr) (flags : Nat)
  | askIsFile (path : CStr)
  | unlinkVariable (path : CStr)
  /-- `fopen`, `opendir`, `stat`, `access` and `readlink` by themselves. -/
  | openPath (path : CStr)
  | listDir (path : CStr)
  | askIsDir (path : CStr)
  | access (path : CStr) (mode : Access)
  | readlink (path : CStr)
  deriving Repr, DecidableEq

namespace FileStep

/-- The kernel path the step is asked for. -/
def path : FileStep → CStr
  | readFileString path _ | readFileI64 path | readFileBinary path | writeFileString path _
  | writeFileI64 path _ | writeBinary path _ | fsGetFlags path | fsSetFlags path _
  | askIsFile path | unlinkVariable path | openPath path | listDir path | askIsDir path
  | access path _ | readlink path => path
  | efivarsMounted => efivarsBase

/-- Does the step pass its path through `zenctl__resolve_path` or `fw_resolve_path`? -/
def resolves : FileStep → Bool
  | readFileString _ _ | readFileI64 _ | readFileBinary _ | writeFileString _ _
  | writeFileI64 _ _ | efivarsMounted => true
  | writeBinary _ _ | fsGetFlags _ | fsSetFlags _ _ | askIsFile _ | unlinkVariable _
  | openPath _ | listDir _ | askIsDir _ | access _ _ | readlink _ => false

def Result : FileStep → Type
  | readFileString _ _ => CStr
  | readFileI64 _ => Int
  | readFileBinary _ => List Char
  | writeFileString _ _ | writeFileI64 _ _ | efivarsMounted | writeBinary _ _ | fsSetFlags _ _
  | unlinkVariable _ => Unit
  | fsGetFlags _ => Option Nat
  | askIsFile _ | askIsDir _ => Bool
  | openPath _ => OpenFile
  | listDir _ => Option (List CStr)
  | access _ _ => Option Unit
  | readlink _ => Option CStr

def run : (step : FileStep) → SetM σ step.Result
  | readFileString path size => getting (Zenctl.readFileString path size)
  | readFileI64 path => getting (Zenctl.readFileI64 path)
  | readFileBinary path => getting (Zenctl.readFileBinary path)
  | writeFileString path value => Zenctl.writeFileString path value
  | writeFileI64 path value => Zenctl.writeFileI64 path value
  | efivarsMounted => getting Zenctl.efivarsMounted
  | writeBinary path data => writeBinaryFile path data
  | fsGetFlags path => getting (Zenctl.fsGetFlags path)
  | fsSetFlags path flags => Zenctl.fsSetFlags path flags
  | askIsFile path => getting (eraseVariable.askIsFile path)
  | unlinkVariable path => eraseVariable.unlinkVariable path
  | openPath path => getting (Zenctl.openPath path)
  | listDir path => getting (sysCall fun os sys => os.listDir sys path)
  | askIsDir path => getting (Zenctl.askIsDir path)
  | access path mode => getting (sysCall fun os sys => os.access sys path mode)
  | readlink path => getting (sysCall fun os sys => os.readlink sys path)

/-- With this prefix the step works on this file and on no other. -/
def WorksOn (step : FileStep) (sysfsRoot : Option CStr) (file : CStr) : Prop :=
  ∀ (σ : Type) (os other : Os σ), os.sysfsRoot = sysfsRoot → os.AgreeAt file other →
    step.run.Alike os other

/-- The file the step works on. -/
def opened (step : FileStep) (sysfsRoot : Option CStr) : CStr :=
  if step.resolves then resolvePath sysfsRoot step.path else step.path

/-! ## One file -/

section Alike

variable {os other : Os σ} {path : CStr}

theorem openResolved_alike
    (agree : os.AgreeAt (resolvePath os.sysfsRoot path) other) :
    (openResolved path).Alike os other := by
  refine sysCallOr_alike agree.strerror ?_ _ _
  intro sys
  rw [← agree.sysfsRoot]
  exact agree.openRead sys

theorem readFileString_alike
    (agree : os.AgreeAt (resolvePath os.sysfsRoot path) other) (size : Nat) :
    (Zenctl.readFileString path size).Alike os other := by
  refine .bind (openResolved_alike agree) ?_
  intro file
  cases file.readError with
  | none => exact .pure _
  | some e =>
      dsimp only
      split
      · exact .bind (setErrno_alike _) fun _ => raise_alike _ _ _
      · exact .pure _

theorem readFileI64_alike
    (agree : os.AgreeAt (resolvePath os.sysfsRoot path) other) :
    (Zenctl.readFileI64 path).Alike os other := by
  refine .bind (readFileString_alike agree 64) fun text => ?_
  refine .bind (setErrno_alike 0) fun _ => ?_
  cases strtoll text with
  | none => exact raise_alike _ _ _
  | some parsed =>
      dsimp only
      split
      · exact .bind (setErrno_alike _) fun _ => raise_alike _ _ _
      · exact .pure _

theorem growBuffer_alike (path : CStr) (length rounds : Nat) :
    ∀ capacity, (growBuffer path length rounds capacity : GetM σ Unit).Alike os other := by
  induction rounds with
  | zero =>
      intro capacity
      exact .pure _
  | succ rounds inductionHypothesis =>
      intro capacity
      unfold growBuffer
      split
      · exact .pure _
      · exact .bind (allocateOr_alike _ _) fun _ => inductionHypothesis _

theorem readFileBinary_alike
    (agree : os.AgreeAt (resolvePath os.sysfsRoot path) other) :
    (Zenctl.readFileBinary path).Alike os other := by
  refine .bind (openResolved_alike agree) fun file => ?_
  refine .bind (allocateOr_alike _ _) fun _ => ?_
  refine .bind (growBuffer_alike _ _ _ _) fun _ => ?_
  cases file.readError with
  | none => exact .bind (fun sys proc => rfl) fun _ => .pure _
  | some e => exact .bind (setErrno_alike _) fun _ => raise_alike _ _ _

theorem writeFileString_alike
    (agree : os.AgreeAt (resolvePath os.sysfsRoot path) other) (value : CStr) :
    (Zenctl.writeFileString path value).Alike os other := by
  have written : (writeResolved path value).Alike os other := by
    intro sys proc
    unfold writeResolved
    rw [← agree.sysfsRoot, agree.writeFile sys value]
  refine .bind written ?_
  intro answer
  cases answer with
  | done =>
      intro sys proc
      rfl
  | openFailed e =>
      exact (GetM.Alike.bind (setErrno_alike _) fun _ =>
        raiseErrno_alike agree.strerror _ _).getting
  | writeFailed e =>
      exact (GetM.Alike.bind (setErrno_alike _) fun _ => raise_alike _ _ _).getting
  | closeFailed e =>
      exact (GetM.Alike.bind (setErrno_alike _) fun _ => raise_alike _ _ _).getting

theorem efivarsMounted_alike
    (agree : os.AgreeAt (resolvePath os.sysfsRoot efivarsBase) other) :
    Zenctl.efivarsMounted.Alike os other := by
  intro sys proc
  unfold Zenctl.efivarsMounted
  rw [← agree.sysfsRoot, agree.isEfivarfs sys]
  cases other.isEfivarfs sys (resolvePath os.sysfsRoot efivarsBase) with
  | error e => exact raiseFirmware_alike agree.strerror _ _ sys proc
  | ok mounted => cases mounted <;> rfl

variable (agree : os.AgreeAt path other)

include agree

theorem writeBinaryFile_alike (data : List Char) :
    (writeBinaryFile path data).Alike os other := by
  have written : SetM.Alike (writeBinaryFile.answer path data) os other := by
    intro sys proc
    unfold writeBinaryFile.answer
    rw [agree.writeBinary sys data]
  refine .bind written ?_
  intro answer
  cases answer with
  | done =>
      intro sys proc
      rfl
  | openFailed e | writeFailed e | closeFailed e =>
      exact (raiseFirmware_alike agree.strerror _ _).getting

theorem fsGetFlags_alike :
    (Zenctl.fsGetFlags path).Alike os other := by
  intro sys proc
  unfold Zenctl.fsGetFlags
  rw [agree.getFlags sys]
  cases other.getFlags sys path with
  | done flags => rfl
  | openFailed e => exact raiseFirmware_alike agree.strerror _ _ sys proc
  | ioctlFailed e =>
      dsimp only
      split
      · rfl
      · exact raiseFirmware_alike agree.strerror _ _ sys proc

theorem fsSetFlags_alike (flags : Nat) :
    (Zenctl.fsSetFlags path flags).Alike os other := by
  intro sys proc
  unfold Zenctl.fsSetFlags
  rw [agree.setFlags sys flags]
  dsimp only
  cases (other.setFlags sys path flags).1 with
  | done _ => rfl
  | openFailed e | ioctlFailed e =>
      exact (raiseFirmware_alike agree.strerror _ _).getting _ proc

theorem unlinkVariable_alike :
    SetM.Alike (eraseVariable.unlinkVariable path) os other := by
  intro sys proc
  unfold eraseVariable.unlinkVariable
  rw [agree.unlink sys]
  dsimp only
  cases (other.unlink sys path).1 with
  | ok _ => rfl
  | error e => exact (raiseFirmware_alike agree.strerror _ _).getting _ proc

end Alike

theorem worksOn_opened (step : FileStep) (sysfsRoot : Option CStr) :
    step.WorksOn sysfsRoot (step.opened sysfsRoot) := by
  intro σ os other root agree
  subst root
  cases step with
  | readFileString path size => exact (readFileString_alike agree size).getting
  | readFileI64 path => exact (readFileI64_alike agree).getting
  | readFileBinary path => exact (readFileBinary_alike agree).getting
  | writeFileString path value => exact writeFileString_alike agree value
  | writeFileI64 path value => exact writeFileString_alike agree _
  | efivarsMounted => exact (efivarsMounted_alike agree).getting
  | writeBinary path data => exact writeBinaryFile_alike agree data
  | fsGetFlags path => exact (fsGetFlags_alike agree).getting
  | fsSetFlags path flags => exact fsSetFlags_alike agree flags
  | askIsFile path =>
      refine GetM.Alike.getting fun sys proc => ?_
      exact congrArg (fun found => (Outcome.value found, proc)) (agree.isFile sys)
  | unlinkVariable path => exact unlinkVariable_alike agree
  | openPath path => exact (sysCallOr_alike agree.strerror agree.openRead _ _).getting
  | listDir path => exact (sysCall_alike agree.listDir).getting
  | askIsDir path =>
      refine GetM.Alike.getting fun sys proc => ?_
      exact congrArg (fun found => (Outcome.value found, proc)) (agree.isDir sys)
  | access path mode => exact (sysCall_alike (agree.access · mode)).getting
  | readlink path => exact (sysCall_alike agree.readlink).getting

/-! ## No other file -/

/-- A machine without files, on which one path may be locked. -/
def lockedOs (sysfsRoot locked : Option CStr) : Os Unit :=
  { bareOs with
    sysfsRoot := sysfsRoot
    openRead := fun _ path => .error (refusal path)
    writeFile := fun _ path _ => (.openFailed (refusal path), ())
    access := fun _ path _ => .error (refusal path)
    listDir := fun _ path => .error (refusal path)
    readlink := fun _ path => .error (refusal path)
    writeBinary := fun _ path _ => (.openFailed (refusal path), ())
    isEfivarfs := fun _ path => .error (refusal path)
    isFile := fun _ path => some path = locked
    isDir := fun _ path => some path = locked
    getFlags := fun _ path => .openFailed (refusal path)
    setFlags := fun _ path _ => (.openFailed (refusal path), ())
    unlink := fun _ path => (.error (refusal path), ()) }
where
  refusal (path : CStr) : Errno :=
    if some path = locked then Errno.eperm else Errno.enoent

theorem lockedOs_agree
    (sysfsRoot : Option CStr) {file locked : CStr} (apart : file ≠ locked) :
    (lockedOs sysfsRoot (some locked)).AgreeAt file (lockedOs sysfsRoot none) := by
  have free : lockedOs.refusal (some locked) file = lockedOs.refusal none file := by
    unfold lockedOs.refusal
    rw [if_neg (by simpa using apart), if_neg (by simp)]
  constructor <;> intros <;> simp [lockedOs, free, apart]

/-- A step fails on that machine with the refusal of its file, or says whether it is locked. -/
theorem run_locked (step : FileStep) (sysfsRoot : Option CStr) :
    (∀ locked, (step.run (lockedOs sysfsRoot locked) () freshProc).2.2.errno =
        (lockedOs.refusal locked (step.opened sysfsRoot)).1) ∨
      ∃ answer : Bool → Outcome step.Result × Unit × Proc, answer.Injective ∧
        ∀ locked, step.run (lockedOs sysfsRoot locked) () freshProc =
          answer (some (step.opened sysfsRoot) = locked) := by
  have answers : Function.Injective fun found : Bool =>
      ((.value found, (), freshProc) : Outcome Bool × Unit × Proc) := by
    intro first second same
    cases same
    rfl
  cases step with
  | askIsFile path | askIsDir path =>
      exact .inr ⟨_, answers, fun _ => rfl⟩
  | _ =>
      left
      intro locked
      rfl

theorem opened_of_worksOn
    {step : FileStep} {sysfsRoot : Option CStr} {file : CStr}
    (works : step.WorksOn sysfsRoot file) :
    file = step.opened sysfsRoot := by
  by_contra apart
  have same := works Unit (lockedOs sysfsRoot (some (step.opened sysfsRoot)))
    (lockedOs sysfsRoot none) rfl (lockedOs_agree sysfsRoot apart) () freshProc
  rcases step.run_locked sysfsRoot with fails | ⟨answer, injective, asks⟩
  · have codes := congrArg (·.2.2.errno) same
    rw [fails, fails] at codes
    unfold lockedOs.refusal at codes
    rw [if_pos rfl, if_neg nofun] at codes
    revert codes
    decide
  · rw [asks, asks] at same
    have found := injective same
    simp at found

/-- A step works on the file its path leads to, and on that file alone. -/
theorem worksOn_iff (step : FileStep) (sysfsRoot : Option CStr) (file : CStr) :
    step.WorksOn sysfsRoot file ↔ file = step.opened sysfsRoot := by
  constructor
  · exact opened_of_worksOn
  · rintro rfl
    exact worksOn_opened step sysfsRoot

/-! ## Prefixed paths -/

end FileStep

/-- The path under the prefix, if there is one. -/
def prefixed (sysfsRoot : Option CStr) (path : CStr) : CStr :=
  sysfsRoot.getD [] ++ path

/-- A path below `/sys` or `/proc`. -/
def isKernelPath (path : CStr) : Bool :=
  startsWith "/sys/" path || startsWith "/proc/" path

theorem resolvePath_prefixed_iff
    {sysfsRoot : Option CStr} {path : CStr} (kernel : isKernelPath path = true) :
    prefixed sysfsRoot path = resolvePath sysfsRoot path ↔
      sysfsRoot.getD [] = [] ∨ (prefixed sysfsRoot path).length < 4096 := by
  cases sysfsRoot with
  | none =>
      simp [prefixed, resolvePath]
  | some root =>
      by_cases empty : root = []
      · simp [prefixed, resolvePath, empty]
      · unfold isKernelPath at kernel
        simp only [prefixed, resolvePath, Option.getD_some, empty, ↓reduceIte, kernel, false_or]
        split
        · next long =>
            constructor
            · intro same
              exact absurd (List.append_left_eq_self.mp same) empty
            · intro fits
              omega
        · next short =>
            exact iff_of_true rfl (by omega)

/--
A step works on the prefixed path exactly when there is no prefix, or it is a step
that resolves its path and the prefixed path fits the buffer.
-/
theorem redirected_iff
    (step : FileStep) (sysfsRoot : Option CStr)
    (kernel : isKernelPath step.path = true) :
    step.WorksOn sysfsRoot (prefixed sysfsRoot step.path) ↔
      sysfsRoot.getD [] = [] ∨
        (step.resolves = true ∧ (prefixed sysfsRoot step.path).length < 4096) := by
  rw [step.worksOn_iff, FileStep.opened]
  cases resolves : step.resolves with
  | true =>
      rw [if_pos rfl, resolvePath_prefixed_iff kernel]
      simp
  | false =>
      rw [if_neg (by decide), prefixed, List.append_left_eq_self]
      simp

theorem redirected_swappiness :
    isKernelPath (FileStep.readFileI64 "/proc/sys/vm/swappiness").path = true ∧
      (FileStep.readFileI64 "/proc/sys/vm/swappiness").WorksOn (some "/tmp/mock")
        "/tmp/mock/proc/sys/vm/swappiness" := by
  have kernel : isKernelPath (FileStep.readFileI64 "/proc/sys/vm/swappiness").path = true := by
    decide
  exact ⟨kernel, (redirected_iff _ (some "/tmp/mock") kernel).mpr (.inr ⟨rfl, by decide⟩)⟩

/-- With a prefix set, the write of an EFI variable still goes to the kernel's own file. -/
theorem efiWrite_unredirected :
    (FileStep.writeBinary (efiVariablePath "Timeout" globalGuid) ['x']).WorksOn
        (some "/tmp/mock") (efiVariablePath "Timeout" globalGuid) ∧
      ¬ (FileStep.writeBinary (efiVariablePath "Timeout" globalGuid) ['x']).WorksOn
        (some "/tmp/mock") (prefixed (some "/tmp/mock") (efiVariablePath "Timeout" globalGuid)) := by
  constructor
  · rw [FileStep.worksOn_iff]
    rfl
  · rw [FileStep.worksOn_iff]
    decide

end Zenctl
