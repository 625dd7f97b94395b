import Zenctl.EfiStore
import Zenctl.Libzenctl
import Zenctl.RelationalLogic

namespace Zenctl

open CString RelationalLogic

/-!
# EFI variables over whole histories

Any sequence of gets, sets and deletes behaves like operations on a partial map
from file names to attributes, data and flags: the library gives the answers
the map gives, call by call, and leaves the files the map has.  What a write
makes of a variable is up to the firmware, which may store or append the data,
remove the variable, or refuse.
-/

variable {σ : Type}

/-! ## The calls and the map -/

/-- An attribute word has 32 bits. -/
def AttributeWord : Type := { word : Nat // word < 4294967296 }

inductive EfiCall where
  | get (name guid : CStr)
  | set (name guid : CStr) (attributes : AttributeWord) (data : List Char)
  | delete (name guid : CStr)

/-- What the caller sees, apart from the error record. -/
inductive EfiAnswer where
  | data (bytes : List Char)
  | done
  | refused
  deriving Repr, DecidableEq

/-- The variables by their file names. -/
abbrev EfiMap : Type := CStr → Option VarFile

/-- What is in the files, apart from their flags. -/
def EfiMap.contents (vars : EfiMap) (name : CStr) : Option (List Char) :=
  (vars name).map (·.bytes)

/-- What the firmware makes of a write to a variable. -/
inductive Verdict where
  | stored
  | appended
  | removed
  | refused
  deriving Repr, DecidableEq

/-- The contents a write leaves, and those before it were these. -/
def Verdict.leaves (verdict : Verdict) (attributes : Nat) (data before : List Char) :
    Option (List Char) :=
  match verdict with
  | .stored => some (attributeBytes attributes ++ data)
  | .appended => some (before ++ data)
  | .removed => none
  | .refused => some before

/-- The firmware judges attributes and data for a variable by the contents of all. -/
abbrev Firmware : Type := (CStr → Option (List Char)) → CStr → Nat → List Char → Verdict

/-- The file of a variable, where name and GUID pass the checks. -/
def variableAt (vars : EfiMap) (name guid : CStr) : Option VarFile :=
  if efiNameValid name && efiGuidValid guid then vars (efiFilename name guid) else none

/-- The map after a write of attributes and data to a file that is there. -/
def EfiMap.write (firmware : Firmware) (vars : EfiMap) (name : CStr) (f : VarFile)
    (attributes : Nat) (data : List Char) : EfiMap :=
  Function.update vars name
    (((firmware vars.contents name attributes data).leaves attributes data f.bytes).map
      fun bytes => { f with bytes := bytes })

/--
What a call makes of the map.  A variable has to be there to be set, and keeps
its flags; one with less than an attribute word in its file cannot be read.  A
delete writes zero attributes without data, and removes what the firmware left.
-/
def EfiCall.onMap (firmware : Firmware) (call : EfiCall) (vars : EfiMap) : EfiAnswer × EfiMap :=
  match call with
  | .get name guid =>
      match variableAt vars name guid with
      | some f => (if f.bytes.length < 4 then .refused else .data (f.bytes.drop 4), vars)
      | none => (.refused, vars)
  | .set name guid attributes data =>
      match variableAt vars name guid with
      | some f =>
          (if firmware vars.contents (efiFilename name guid) attributes.1 data = .refused then
              .refused
            else .done,
            vars.write firmware (efiFilename name guid) f attributes.1 data)
      | none => (.refused, vars)
  | .delete name guid =>
      match variableAt vars name guid with
      | some _ =>
          if firmware vars.contents (efiFilename name guid) 0 [] = .refused then (.refused, vars)
          else (.done, Function.update vars (efiFilename name guid) none)
      | none => (.refused, vars)

def EfiAnswer.ofUpdate : Except Err Unit → EfiAnswer
  | .ok _ => .done
  | .error _ => .refused

def EfiAnswer.ofQuery : Except Err (List Char) → EfiAnswer
  | .ok bytes => .data bytes
  | .error _ => .refused

/-- A call of the library, on the machine and the memory of the process. -/
def EfiCall.run (os : Os σ) (call : EfiCall) (state : σ × Proc) : EfiAnswer × (σ × Proc) :=
  match call with
  | .get name guid =>
      let result := (libzenctl os).query (.fwEfiGet name guid) state.1 state.2
      (.ofQuery result.1, state.1, result.2)
  | .set name guid attributes data =>
      let result := (libzenctl os).update (.fwEfiSet name guid attributes.1 data) state.1 state.2
      (.ofUpdate result.1, result.2)
  | .delete name guid =>
      let result := (libzenctl os).update (.fwEfiDelete name guid) state.1 state.2
      (.ofUpdate result.1, result.2)

/-! ## The kernel -/

/--
An `efivarfs` on top of such a firmware.  A write to a file that is not
immutable changes that file alone, and as the firmware says; a file the firmware
left can be unlinked.
-/
structure EfiKernel (os : Os σ) (firmware : Firmware) (file : σ → CStr → Option VarFile) : Prop
    extends EfiFiles os file where
  writes : ∀ sys name attributes data f, file sys name = some f → isImmutable f.flags = false →
    attributes < 4294967296 →
    ((os.writeBinary sys (joinPath efivarsBase name) (attributeBytes attributes ++ data)).1 = .done ↔
        firmware (EfiMap.contents (file sys)) name attributes data ≠ .refused) ∧
      file (os.writeBinary sys (joinPath efivarsBase name) (attributeBytes attributes ++ data)).2 =
        EfiMap.write firmware (file sys) name f attributes data
  sees : ∀ sys name, os.isFile sys (joinPath efivarsBase name) = (file sys name).isSome
  unlinks : ∀ sys name f, file sys name = some f → isImmutable f.flags = false →
    (os.unlink sys (joinPath efivarsBase name)).1 = .ok () ∧
      file (os.unlink sys (joinPath efivarsBase name)).2 = Function.update (file sys) name none

theorem EfiMap.contents_reflagged
    {vars : EfiMap} {name : CStr} {f : VarFile} (present : vars name = some f) (flags : Nat) :
    EfiMap.contents (Function.update vars name (some { f with flags := flags })) =
      vars.contents := by
  funext other
  unfold EfiMap.contents
  by_cases same : other = name
  · rw [same, Function.update_self, present]
    rfl
  · rw [Function.update_of_ne same]

/-- What the firmware refuses changes nothing. -/
theorem EfiMap.write_refused
    {firmware : Firmware} {vars : EfiMap} {name : CStr} {f : VarFile} {attributes : Nat}
    {data : List Char}
    (present : vars name = some f)
    (refused : firmware vars.contents name attributes data = .refused) :
    vars.write firmware name f attributes data = vars := by
  unfold EfiMap.write
  rw [refused, ← Function.update_eq_self name vars, Function.update_idem, present]
  rfl

/-- Reading delivers what is behind the attribute word. -/
def readOutcome : Option VarFile → Outcome (List Char)
  | some f => if f.bytes.length < 4 then .failed else .value (f.bytes.drop 4)
  | none => .failed

/-- The call ends so: with this outcome, on such a machine, and with memory left. -/
def Concludes (program : SetM σ Unit) (os : Os σ) (file : σ → CStr → Option VarFile) (sys : σ)
    (outcome : Outcome Unit) (left : EfiMap) : Prop :=
  ∀ proc : Proc, proc.allocations = [] → ∃ later after,
    program os sys proc = (outcome, later, after) ∧ file later = left ∧ after.allocations = []

theorem efiPath_run
    (os : Os σ) (sys : σ) (name guid caller : CStr) {proc : Proc}
    (memory : proc.allocations = []) :
    efiPath name guid caller os sys proc =
      (.value (joinPath efivarsBase (efiFilename name guid)), proc) := by
  refine (GetM.bind_value (allocateOr_plenty memory _ _)).trans ?_
  exact (GetM.bind_value (allocateOr_plenty memory _ _)).trans rfl

section Calls

variable {os : Os σ} {firmware : Firmware} {file : σ → CStr → Option VarFile}
  (kernel : EfiKernel os firmware file) {sys : σ} {name guid : CStr}

include kernel

theorem EfiKernel.mounted_run (proc : Proc) :
    efivarsMounted os sys proc = (.value (), proc) := by
  refine efivarsMounted_run ?_
  rw [resolvePath_direct kernel.direct, kernel.mounted]

/-- The flags of a variable that is not there cannot be probed. -/
theorem EfiKernel.clear_absent
    (absent : file sys (efiFilename name guid) = none) {proc : Proc}
    (memory : proc.allocations = []) :
    ∃ after, efiMaybeClearImmutable (joinPath efivarsBase (efiFilename name guid)) os sys proc =
      (.failed, sys, after) ∧ after.allocations = [] := by
  have probe : fsGetFlags (joinPath efivarsBase (efiFilename name guid)) os sys proc =
      raiseFirmware Errno.enoent (joinPath efivarsBase (efiFilename name guid)) os sys proc := by
    simp only [fsGetFlags, kernel.probes, absent]
  exact ⟨_, SetM.bind_getting_failed probe, memory⟩

theorem EfiKernel.set_absent
    (attributes : Nat) (data : List Char)
    (absent : variableAt (file sys) name guid = none) :
    Concludes (zenctlFwEfiSet name guid attributes data) os file sys .failed (file sys) := by
  intro proc memory
  unfold zenctlFwEfiSet variableAt at *
  split
  · next valid =>
    rw [if_pos valid] at absent
    obtain ⟨after, cleared, remembers⟩ := kernel.clear_absent absent memory
    refine ⟨sys, after, ?_, rfl, remembers⟩
    refine (SetM.bind_getting_value (kernel.mounted_run proc)).trans ?_
    refine (SetM.bind_getting_value (efiPath_run os sys name guid _ memory)).trans ?_
    refine (SetM.bind_getting_value (allocateOr_plenty memory _ _)).trans ?_
    exact SetM.bind_failed cleared
  · exact ⟨sys, _, rfl, rfl, memory⟩

theorem EfiKernel.delete_absent
    (absent : variableAt (file sys) name guid = none) :
    Concludes (zenctlFwEfiDelete name guid) os file sys .failed (file sys) := by
  intro proc memory
  unfold zenctlFwEfiDelete variableAt at *
  split
  · next valid =>
    rw [if_pos valid] at absent
    obtain ⟨after, cleared, remembers⟩ := kernel.clear_absent absent memory
    refine ⟨sys, after, ?_, rfl, remembers⟩
    refine (SetM.bind_getting_value (kernel.mounted_run proc)).trans ?_
    refine (SetM.bind_getting_value (efiPath_run os sys name guid _ memory)).trans ?_
    exact SetM.bind_failed cleared
  · exact ⟨sys, _, rfl, rfl, memory⟩

/-- A write to a writable file ends as the firmware judges, and leaves what it says. -/
theorem EfiKernel.write_run
    {entry : CStr} {f : VarFile} (present : file sys entry = some f)
    (writable : isImmutable f.flags = false)
    {attributes : Nat} (small : attributes < 4294967296) (data : List Char) (proc : Proc) :
    ∃ later after,
      writeBinaryFile (joinPath efivarsBase entry) (attributeBytes attributes ++ data) os sys proc =
        (if firmware (EfiMap.contents (file sys)) entry attributes data = .refused then .failed
          else .value (), later, after) ∧
      file later = EfiMap.write firmware (file sys) entry f attributes data ∧
      after.allocations = proc.allocations := by
  obtain ⟨judged, written⟩ := kernel.writes sys entry attributes data f present writable small
  have answered : writeBinaryFile.answer (joinPath efivarsBase entry)
      (attributeBytes attributes ++ data) os sys proc =
      (.value (os.writeBinary sys (joinPath efivarsBase entry)
          (attributeBytes attributes ++ data)).1,
        (os.writeBinary sys (joinPath efivarsBase entry) (attributeBytes attributes ++ data)).2,
        proc) := rfl
  unfold writeBinaryFile
  rw [SetM.bind_value answered]
  cases answer : (os.writeBinary sys (joinPath efivarsBase entry)
      (attributeBytes attributes ++ data)).1 with
  | done =>
      rw [if_neg (judged.mp answer)]
      exact ⟨_, _, rfl, written, rfl⟩
  | openFailed e | writeFailed e | closeFailed e =>
      have refused : firmware (EfiMap.contents (file sys)) entry attributes data = .refused := by
        by_contra other
        cases answer.symm.trans (judged.mpr other)
      rw [if_pos refused]
      exact ⟨_, _, rfl, written, rfl⟩

/-- The flag is put back on a file that is left, and a file that is gone is not missed. -/
theorem EfiKernel.restore_left
    {entry : CStr} (wasCleared : Bool) (result : Option Unit)
    (writable : ∀ f, file sys entry = some f → isImmutable f.flags = false) (proc : Proc) :
    ∃ changed after, restoreAfter (joinPath efivarsBase entry) wasCleared result os sys proc =
        (result.elim .failed .value, changed, after) ∧
      file changed = Function.update (file sys) entry ((file sys entry).map fun f =>
        { f with flags := if wasCleared then f.flags + 16 else f.flags }) ∧
      after.allocations = proc.allocations := by
  cases there : file sys entry with
  | some f =>
      obtain ⟨changed, run, contents⟩ :=
        kernel.toEfiFiles.restore_run there wasCleared result (writable f there) proc
      exact ⟨changed, proc, run, contents, rfl⟩
  | none =>
      have same : Function.update (file sys) entry none = file sys := by
        rw [← there, Function.update_eq_self]
      cases wasCleared with
      | false =>
          exact ⟨sys, proc, by cases result <;> rfl, same.symm, rfl⟩
      | true =>
          have probe : fsGetFlags (joinPath efivarsBase entry) os sys proc =
              raiseFirmware Errno.enoent (joinPath efivarsBase entry) os sys proc := by
            simp only [fsGetFlags, kernel.probes, there]
          obtain ⟨after, run, kept⟩ : ∃ after,
              efiMaybeRestoreImmutable (joinPath efivarsBase entry) os sys proc =
                (.failed, sys, after) ∧ after.allocations = proc.allocations :=
            ⟨_, SetM.bind_getting_failed probe, rfl⟩
          exact ⟨sys, { after with err := proc.err },
            (SetM.bind_value (quietlySet_failed run)).trans (by cases result <;> rfl), same.symm,
            kept⟩

/-- Clearing the flag leaves a file that can be written, and every contents as it was. -/
theorem EfiKernel.clear_present
    {entry : CStr} {f : VarFile} (present : file sys entry = some f) (proc : Proc) :
    ∃ cleared, efiMaybeClearImmutable (joinPath efivarsBase entry) os sys proc =
        (.value (isImmutable f.flags), cleared, proc) ∧
      file cleared = Function.update (file sys) entry
        (some { f with flags := clearedFlags f.flags }) ∧
      file cleared entry = some { f with flags := clearedFlags f.flags } ∧
      EfiMap.contents (file cleared) = EfiMap.contents (file sys) := by
  obtain ⟨cleared, clearRun, clearFile⟩ := kernel.toEfiFiles.clear_run present proc
  refine ⟨cleared, clearRun, clearFile, ?_, ?_⟩
  · rw [clearFile, Function.update_self]
  · rw [clearFile, EfiMap.contents_reflagged present]

/-- The flag is cleared for the write, and the file has its old flags in the end. -/
theorem EfiKernel.set_present
    {attributes : Nat} (small : attributes < 4294967296) (data : List Char)
    {f : VarFile} (present : variableAt (file sys) name guid = some f) :
    Concludes (zenctlFwEfiSet name guid attributes data) os file sys
      (if firmware (EfiMap.contents (file sys)) (efiFilename name guid) attributes data = .refused
        then .failed
        else .value ())
      (EfiMap.write firmware (file sys) (efiFilename name guid) f attributes data) := by
  intro proc memory
  unfold variableAt at present
  split at present
  · next valid =>
    obtain ⟨cleared, clearRun, clearFile, there, sameContents⟩ := kernel.clear_present present proc
    obtain ⟨written, after, writeRun, writeFile, kept⟩ :=
      kernel.write_run there (clearedFlags_mutable f.flags) small data proc
    rw [sameContents] at writeRun
    have attempt : attemptSet (writeBinaryFile (joinPath efivarsBase (efiFilename name guid))
        (attributeBytes attributes ++ data)) os cleared proc =
        (.value (if firmware (EfiMap.contents (file sys)) (efiFilename name guid) attributes data =
          .refused then none else some ()), written, after) := by
      by_cases refused : firmware (EfiMap.contents (file sys)) (efiFilename name guid) attributes
          data = .refused
      · rw [if_pos refused] at writeRun ⊢
        exact attemptSet_failed writeRun
      · rw [if_neg refused] at writeRun ⊢
        exact attemptSet_value writeRun
    have left : file written (efiFilename name guid) =
        ((firmware (EfiMap.contents (file sys)) (efiFilename name guid) attributes data).leaves
          attributes data f.bytes).map fun bytes => ⟨bytes, clearedFlags f.flags⟩ := by
      rw [writeFile, EfiMap.write, Function.update_self, sameContents]
    obtain ⟨restored, final, restoreRun, restoreFile, remembers⟩ :=
      kernel.restore_left (isImmutable f.flags) (if firmware (EfiMap.contents (file sys))
        (efiFilename name guid) attributes data = .refused then none else some ()) (by
          intro g found
          obtain ⟨bytes, -, rfl⟩ := Option.map_eq_some_iff.mp (left.symm.trans found)
          exact clearedFlags_mutable f.flags) after
    refine ⟨restored, final, ?_, ?_, by rw [remembers, kept, memory]⟩
    · unfold zenctlFwEfiSet
      rw [if_pos valid]
      refine (SetM.bind_getting_value (kernel.mounted_run proc)).trans ?_
      refine (SetM.bind_getting_value (efiPath_run os sys name guid _ memory)).trans ?_
      refine (SetM.bind_getting_value (allocateOr_plenty memory _ _)).trans ?_
      refine (SetM.bind_value clearRun).trans ?_
      refine (SetM.bind_value attempt).trans (restoreRun.trans ?_)
      split <;> rfl
    · rw [restoreFile, left, writeFile, EfiMap.write, Function.update_idem, clearFile,
        Function.update_idem, Option.map_map, EfiMap.write]
      congr 2
      funext bytes
      simp only [Function.comp_apply, clearedFlags_restored]
  · cases present

/-- Zero attributes are written to a writable variable, and what is left of it is unlinked. -/
theorem EfiKernel.erase_run
    {entry : CStr} {f : VarFile} (present : file sys entry = some f)
    (writable : isImmutable f.flags = false) (proc : Proc) :
    ∃ later after, eraseVariable (joinPath efivarsBase entry) os sys proc =
        (if firmware (EfiMap.contents (file sys)) entry 0 [] = .refused then .failed else .value (),
          later, after) ∧
      file later = (if firmware (EfiMap.contents (file sys)) entry 0 [] = .refused then file sys
        else Function.update (file sys) entry none) ∧
      after.allocations = proc.allocations := by
  obtain ⟨written, after, write, writeFile, kept⟩ :=
    kernel.write_run present writable (by decide : 0 < 4294967296) [] proc
  rw [List.append_nil] at write
  unfold eraseVariable
  by_cases refused : firmware (EfiMap.contents (file sys)) entry 0 [] = .refused
  · rw [if_pos refused] at write ⊢
    rw [if_pos refused]
    exact ⟨written, after, SetM.bind_failed write,
      writeFile.trans (EfiMap.write_refused present refused), kept⟩
  · rw [if_neg refused] at write ⊢
    rw [if_neg refused]
    have sees := kernel.sees written entry
    have asked : eraseVariable.askIsFile (joinPath efivarsBase entry) os written after =
        (.value (file written entry).isSome, after) := by
      rw [eraseVariable.askIsFile, sees]
    rw [SetM.bind_value write, SetM.bind_getting_value asked]
    have others : Function.update (file written) entry none =
        Function.update (file sys) entry none := by
      rw [writeFile, EfiMap.write, Function.update_idem]
    cases there : file written entry with
    | none =>
        refine ⟨written, after, rfl, ?_, kept⟩
        rw [← others, ← there, Function.update_eq_self]
    | some g =>
        have sameFlags : isImmutable g.flags = false := by
          rw [writeFile, EfiMap.write, Function.update_self] at there
          obtain ⟨bytes, -, rfl⟩ := Option.map_eq_some_iff.mp there
          exact writable
        obtain ⟨removed, unlinked⟩ := kernel.unlinks written entry g there sameFlags
        refine ⟨(os.unlink written (joinPath efivarsBase entry)).2, after, ?_,
          unlinked.trans others, kept⟩
        simp only [Option.isSome_some, ↓reduceIte, eraseVariable.unlinkVariable, removed]

theorem EfiKernel.delete_present
    {f : VarFile} (present : variableAt (file sys) name guid = some f) :
    Concludes (zenctlFwEfiDelete name guid) os file sys
      (if firmware (EfiMap.contents (file sys)) (efiFilename name guid) 0 [] = .refused then .failed
        else .value ())
      (if firmware (EfiMap.contents (file sys)) (efiFilename name guid) 0 [] = .refused then
          file sys
        else Function.update (file sys) (efiFilename name guid) none) := by
  intro proc memory
  unfold variableAt at present
  split at present
  · next valid =>
    obtain ⟨cleared, clearRun, clearFile, there, sameContents⟩ := kernel.clear_present present proc
    obtain ⟨later, after, erased, contents, kept⟩ :=
      kernel.erase_run there (clearedFlags_mutable f.flags) proc
    rw [sameContents] at erased contents
    have start : zenctlFwEfiDelete name guid os sys proc =
        (attemptSet (eraseVariable (joinPath efivarsBase (efiFilename name guid))) >>= fun erased =>
          erased.elim (restoreAfter (joinPath efivarsBase (efiFilename name guid))
            (isImmutable f.flags) none) fun _ => pure ()) os cleared proc := by
      unfold zenctlFwEfiDelete
      rw [if_pos valid]
      refine (SetM.bind_getting_value (kernel.mounted_run proc)).trans ?_
      refine (SetM.bind_getting_value (efiPath_run os sys name guid _ memory)).trans ?_
      refine (SetM.bind_value clearRun).trans ?_
      refine congrArg (fun rest => (attemptSet _ >>= rest) os cleared proc) (funext fun erased => ?_)
      cases erased <;> rfl
    by_cases refused : firmware (EfiMap.contents (file sys)) (efiFilename name guid) 0 [] = .refused
    · -- the file is as before the write, and gets its flag back
      rw [if_pos refused] at erased contents ⊢
      rw [if_pos refused]
      obtain ⟨restored, run, restoreFile⟩ := kernel.toEfiFiles.restore_run
        ((congrFun contents _).trans there) (isImmutable f.flags) none
        (clearedFlags_mutable f.flags) after
      refine ⟨restored, after, start.trans ((SetM.bind_value (attemptSet_failed erased)).trans run),
        ?_, kept.trans memory⟩
      rw [restoreFile, contents, clearFile, Function.update_idem, clearedFlags_restored, ← present,
        Function.update_eq_self]
    · rw [if_neg refused] at erased contents ⊢
      rw [if_neg refused]
      refine ⟨later, after, start.trans ((SetM.bind_value (attemptSet_value erased)).trans rfl), ?_,
        kept.trans memory⟩
      rw [contents, clearFile, Function.update_idem]
  · cases present

theorem EfiKernel.get_run
    (sys : σ) (name guid : CStr) {proc : Proc} (memory : proc.allocations = []) :
    ∃ after, zenctlFwEfiGet name guid os sys proc =
        (readOutcome (variableAt (file sys) name guid), after) ∧
      after.allocations = [] := by
  have mounted : os.isEfivarfs sys (resolvePath os.sysfsRoot efivarsBase) = .ok true := by
    rw [resolvePath_direct kernel.direct, kernel.mounted]
  unfold variableAt
  split
  · next valid =>
    obtain ⟨nameValid, guidValid⟩ := Bool.and_eq_true_iff.mp valid
    have contents : readable os sys (efiVariablePath name guid) =
        (file sys (efiFilename name guid)).map (·.bytes) := kernel.readable_file name guid
    cases present : file sys (efiFilename name guid) with
    | none =>
        rw [present] at contents
        obtain ⟨after, unread, remembers⟩ := readFileBinary_none memory contents
        refine ⟨after, ?_, remembers⟩
        unfold zenctlFwEfiGet
        rw [if_pos valid]
        refine (GetM.bind_value (kernel.mounted_run proc)).trans ?_
        refine (GetM.bind_value (efiPath_run os sys name guid _ memory)).trans ?_
        exact GetM.bind_failed unread
    | some f =>
        rw [present] at contents
        have run := zenctlFwEfiGet_run memory mounted nameValid guidValid contents
        rw [readOutcome, run]
        split
        · exact ⟨_, rfl, memory⟩
        · exact ⟨proc, rfl, memory⟩
  · next invalid =>
    have refused : zenctlFwEfiGet name guid os sys proc =
        raise Err.einval "invalid name/guid/out" "zenctl_fw_efi_get" os sys proc := by
      unfold zenctlFwEfiGet
      rw [if_neg invalid]
    exact ⟨_, refused, memory⟩

end Calls


/-! ## Histories -/

/-- The files are those of the map, and there is memory left. -/
def Mirrors (file : σ → CStr → Option VarFile) (state : σ × Proc) (vars : EfiMap) : Prop :=
  file state.1 = vars ∧ state.2.allocations = []

/-- A setter that concludes so has its answer and leaves the map. -/
theorem Concludes.mirrors
    (call : Update)
    {os : Os σ} {file : σ → CStr → Option VarFile} {sys : σ} {proc : Proc}
    {outcome : Outcome Unit} {left : EfiMap}
    (concludes : Concludes call.program os file sys outcome left)
    (memory : proc.allocations = []) :
    EfiAnswer.ofUpdate ((libzenctl os).update call sys proc).1 =
        EfiAnswer.ofUpdate (outcome.answer Err.zero) ∧
      Mirrors file ((libzenctl os).update call sys proc).2 left := by
  obtain ⟨later, after, run, contents, remembers⟩ :=
    concludes { proc with err := Err.zero } memory
  refine ⟨?_, ?_, ?_⟩
  · simp only [libzenctl, run]
    cases outcome <;> rfl
  · simp only [libzenctl, run, contents]
  · simp only [libzenctl, run, remembers]

/-- One call answers as the map does. -/
theorem EfiCall.run_refines
    {os : Os σ} {firmware : Firmware} {file : σ → CStr → Option VarFile}
    (kernel : EfiKernel os firmware file) (call : EfiCall) :
    Relates (Mirrors file) (call.run os) (call.onMap firmware) (SameResult (Mirrors file)) := by
  rintro ⟨sys, proc⟩ _ ⟨rfl, memory⟩
  unfold EfiCall.run EfiCall.onMap
  cases call with
  | get name guid =>
      have cleared : ({ proc with err := Err.zero } : Proc).allocations = [] := memory
      obtain ⟨after, run, remembers⟩ :=
        kernel.get_run sys name guid cleared
      have answered : (libzenctl os).query (.fwEfiGet name guid) sys proc =
          ((readOutcome (variableAt (file sys) name guid)).answer after.err, after) :=
        congrArg (fun result => (result.1.answer result.2.err, result.2)) run
      dsimp only
      rw [answered]
      cases variableAt (file sys) name guid with
      | none => exact ⟨rfl, rfl, remembers⟩
      | some f =>
          simp only [readOutcome]
          split
          · exact ⟨rfl, rfl, remembers⟩
          · exact ⟨rfl, rfl, remembers⟩
  | set name guid attributes data =>
      dsimp only
      cases present : variableAt (file sys) name guid with
      | none =>
          exact Concludes.mirrors (.fwEfiSet ..)
            (kernel.set_absent attributes.1 data present) memory
      | some f =>
          obtain ⟨answered, mirrors⟩ := Concludes.mirrors (.fwEfiSet ..)
            (kernel.set_present attributes.2 data present) memory
          refine ⟨answered.trans ?_, mirrors⟩
          split <;> rfl
  | delete name guid =>
      dsimp only
      cases present : variableAt (file sys) name guid with
      | none =>
          exact Concludes.mirrors (.fwEfiDelete ..) (kernel.delete_absent present) memory
      | some f =>
          have deleted := Concludes.mirrors (.fwEfiDelete ..) (kernel.delete_present present) memory
          dsimp only at deleted ⊢
          split
          · next refused =>
            rw [if_pos refused, if_pos refused] at deleted
            exact deleted
          · next accepted =>
            rw [if_neg accepted, if_neg accepted] at deleted
            exact deleted

/-- Remove a file. -/
def VarDir.remove (dir : VarDir) (name : CStr) : VarDir where
  names := dir.names.filter (· ≠ name)
  file := Function.update dir.file name none
  directory :=
    ⟨dir.directory.unique.filter _, fun other member =>
      dir.directory.short other (List.mem_of_mem_filter member)⟩
  complete other := by
    by_cases same : other = name
    · simp [same]
    · simp [same, dir.complete]

/-- Leave these contents of a file, or none. -/
def VarDir.leave (dir : VarDir) (name : CStr) (short : name.length ≤ 255) (flags : Nat) :
    Option (List Char) → VarDir
  | some bytes => dir.put name short ⟨bytes, flags⟩
  | none => dir.remove name

theorem VarDir.leave_file
    (dir : VarDir) (name : CStr) (short : name.length ≤ 255) (flags : Nat)
    (left : Option (List Char)) :
    (dir.leave name short flags left).file =
      Function.update dir.file name (left.map fun bytes => ⟨bytes, flags⟩) := by
  cases left <;> rfl

/-- A write the firmware judges; immutable files are not given to it. -/
def VarDir.judge (firmware : Firmware) (dir : VarDir) (name : CStr) (bytes : List Char) :
    Written × VarDir :=
  match present : dir.file name with
  | some f =>
      if isImmutable f.flags then (.openFailed Errno.eperm, dir)
      else
        let verdict := firmware (EfiMap.contents dir.file) name (efiAttributes bytes) (bytes.drop 4)
        (if verdict = .refused then .writeFailed Errno.einval else .done,
          dir.leave name (short present) f.flags
            (verdict.leaves (efiAttributes bytes) (bytes.drop 4) f.bytes))
  | none => (.openFailed Errno.enoent, dir)

/-- The store in memory on top of a firmware, whose writable files can be unlinked. -/
def removingOs (firmware : Firmware) : Os VarDir :=
  { varDirOs with
    isFile := fun dir path => (dir.file (VarDir.nameOf path)).isSome
    writeBinary := fun dir path data => dir.judge firmware (VarDir.nameOf path) data
    unlink := fun dir path => (.ok (), dir.remove (VarDir.nameOf path)) }

theorem removingOs_kernel (firmware : Firmware) :
    EfiKernel (removingOs firmware) firmware VarDir.file where
  direct := varDirOs_store.direct
  mounted := varDirOs_store.mounted
  lists := varDirOs_store.lists
  opens := varDirOs_store.opens
  probes := varDirOs_store.probes
  flags := varDirOs_store.flags
  writes dir name attributes data f present writable small := by
    have word := efiAttributes_attributeBytes small data
    have rest : (attributeBytes attributes ++ data).drop 4 = data :=
      List.drop_left' (attributeBytes_length attributes)
    simp only [removingOs, VarDir.nameOf_path, VarDir.judge]
    split
    · next g found =>
        cases present.symm.trans found
        rw [if_neg (by rw [writable]; decide), word, rest]
        refine ⟨?_, VarDir.leave_file ..⟩
        dsimp only
        split <;> simp_all
    · next absent =>
        cases present.symm.trans absent
  sees dir name := by
    simp only [removingOs, VarDir.nameOf_path]
  unlinks dir name f _ _ := by
    simp only [removingOs, VarDir.nameOf_path]
    exact ⟨trivial, rfl⟩

/--
A firmware that appends on request, removes a variable set to nothing, and
refuses more than two bytes.
-/
def smallFirmware : Firmware :=
  fun _ _ attributes data =>
    if attributes / 64 % 2 = 1 then .appended
    else if attributes = 0 ∨ data = [] then .removed
    else if 2 < data.length then .refused
    else .stored

/-- One immutable variable beside another. -/
def bootVarDir : VarDir :=
  timeoutVarDir.put (efiFilename "Lang" globalGuid) (by decide)
    ⟨['\x07', '\x00', '\x00', '\x00', 'e', 'n'], 16⟩

/--
One variable is set and read, keeps its value when a set is refused, grows, and
is removed by a set without data; then it is missed and not created again.  The
other keeps its value until it is deleted.
-/
def bootHistory : List EfiCall :=
  [.set "Timeout" globalGuid ⟨7, by decide⟩ ['y'], .get "Timeout" globalGuid,
    .set "Timeout" globalGuid ⟨7, by decide⟩ ['l', 'o', 'n', 'g'],
    .set "Timeout" globalGuid ⟨71, by decide⟩ ['z'], .get "Timeout" globalGuid,
    .set "Timeout" globalGuid ⟨7, by decide⟩ [], .get "Timeout" globalGuid,
    .set "Timeout" globalGuid ⟨7, by decide⟩ ['y'], .get "Lang" globalGuid,
    .delete "Lang" globalGuid, .get "Lang" globalGuid]

end Zenctl
