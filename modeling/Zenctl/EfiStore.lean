import Zenctl.EfiVariables
import Mathlib.Logic.Function.Basic

namespace Zenctl

open CString

/-!
# `efivarfs` as a store of variables

Each variable is a file of attributes and data with inode flags of its own.
What a set leaves in the store is read back by the getter and by enumeration,
provided the file was there before.
-/

variable {σ : Type}

/-! ## The store -/

/-- A file of `efivarfs`: the attribute word and the data, and the inode flags. -/
structure VarFile where
  bytes : List Char
  flags : Nat
  deriving Repr, DecidableEq

/-- A kernel that lists, opens and probes these files, and changes the flags of any. -/
structure EfiFiles (os : Os σ) (file : σ → CStr → Option VarFile) : Prop where
  direct : os.sysfsRoot = none ∨ os.sysfsRoot = some []
  mounted : ∀ sys, os.isEfivarfs sys efivarsBase = .ok true
  lists : ∀ sys, ∃ names, os.listDir sys efivarsBase = .ok names ∧ Directory names ∧
    ∀ name, name ∈ names ↔ file sys name ≠ none
  opens : ∀ sys name, os.openRead sys (joinPath efivarsBase name) =
    match file sys name with
    | some f => .ok ⟨f.bytes, none⟩
    | none => .error Errno.enoent
  probes : ∀ sys name, os.getFlags sys (joinPath efivarsBase name) =
    match file sys name with
    | some f => .done f.flags
    | none => .openFailed Errno.enoent
  flags : ∀ sys name f word, file sys name = some f →
    (os.setFlags sys (joinPath efivarsBase name) word).1 = .done () ∧
      file (os.setFlags sys (joinPath efivarsBase name) word).2 =
        Function.update (file sys) name (some { f with flags := word })

/--
A kernel whose `efivarfs` keeps these files.  An immutable file cannot be
written; a write of attributes and data replaces the contents of any other, or
creates it with flags of the kernel's choice.
-/
structure EfiStore (os : Os σ) (file : σ → CStr → Option VarFile) : Prop
    extends EfiFiles os file where
  writes : ∀ sys name attributes data, name.length ≤ 255 → 0 < attributes →
    attributes < 4294967296 → data ≠ [] →
    (∀ f, file sys name = some f → isImmutable f.flags = false) →
    (os.writeBinary sys (joinPath efivarsBase name) (attributeBytes attributes ++ data)).1 = .done ∧
      ∃ flags, (∀ f, file sys name = some f → flags = f.flags) ∧
        file (os.writeBinary sys (joinPath efivarsBase name) (attributeBytes attributes ++ data)).2 =
          Function.update (file sys) name (some ⟨attributeBytes attributes ++ data, flags⟩)

/-! ## The attribute word -/

theorem attributeBytes_length (attributes : Nat) :
    (attributeBytes attributes).length = 4 := rfl

theorem byteChar_toNat
    {n : Nat} (small : n < 256) :
    (Char.ofNat n).toNat = n := by
  have valid : n.isValidChar := .inl (by omega)
  rw [Char.ofNat, dif_pos valid]
  rfl

/-- The attribute word is read back from its four bytes. -/
theorem efiAttributes_attributeBytes
    {attributes : Nat} (small : attributes < 4294967296) (data : List Char) :
    efiAttributes (attributeBytes attributes ++ data) = attributes := by
  show (Char.ofNat (attributes / 2 ^ 0 % 256)).toNat +
    256 * (Char.ofNat (attributes / 2 ^ 8 % 256)).toNat +
    65536 * (Char.ofNat (attributes / 2 ^ 16 % 256)).toNat +
    16777216 * (Char.ofNat (attributes / 2 ^ 24 % 256)).toNat = attributes
  rw [byteChar_toNat (by omega), byteChar_toNat (by omega), byteChar_toNat (by omega),
    byteChar_toNat (by omega)]
  omega

/-! ## Paths and names -/

theorem resolvePath_direct
    {sysfsRoot : Option CStr} (direct : sysfsRoot = none ∨ sysfsRoot = some []) (path : CStr) :
    resolvePath sysfsRoot path = path := by
  rcases direct with rfl | rfl <;> rfl

theorem efiFilename_short
    {name guid : CStr}
    (nameValid : efiNameValid name = true)
    (guidValid : efiGuidValid guid = true) :
    (efiFilename name guid).length ≤ 255 := by
  have guidLength := efiGuidValid_length guidValid
  simp only [efiNameValid, Bool.and_eq_true, decide_eq_true_eq] at nameValid
  simp only [efiFilename, List.length_append, List.length_cons, guidLength]
  omega

/-! ## Setting -/

/-- The flags without the immutable one. -/
def clearedFlags (flags : Nat) : Nat :=
  if isImmutable flags then flags - 16 else flags

theorem clearedFlags_mutable (flags : Nat) :
    isImmutable (clearedFlags flags) = false := by
  unfold clearedFlags
  cases immutable : isImmutable flags with
  | false => exact immutable
  | true =>
      have bit := (isImmutable_iff flags).mp immutable
      rw [if_pos rfl, Bool.eq_false_iff, Ne, isImmutable_iff]
      omega

/-- The immutable flag is put back where it was. -/
theorem clearedFlags_restored (flags : Nat) :
    (if isImmutable flags then clearedFlags flags + 16 else clearedFlags flags) = flags := by
  unfold clearedFlags
  cases immutable : isImmutable flags with
  | false => rfl
  | true =>
      have bit := (isImmutable_iff flags).mp immutable
      simp only [↓reduceIte]
      omega

section Set

variable {os : Os σ} {file : σ → CStr → Option VarFile} (store : EfiFiles os file)
  {sys : σ} {proc : Proc}

include store

theorem EfiFiles.readable_file (name guid : CStr) :
    readable os sys (efiVariablePath name guid) =
      (file sys (efiFilename name guid)).map (·.bytes) := by
  unfold readable efiVariablePath
  rw [resolvePath_direct store.direct, store.opens]
  cases file sys (efiFilename name guid) <;> rfl

theorem EfiFiles.lists_names (sys : σ) :
    ∃ names, Lists os sys names ∧ Directory names ∧ ∀ name, name ∈ names ↔ file sys name ≠ none := by
  obtain ⟨names, listed, directory, complete⟩ := store.lists sys
  exact ⟨names, ⟨by rw [resolvePath_direct store.direct, store.mounted], listed⟩, directory,
    complete⟩

/-- A missing file cannot be probed, so the set gives up before its write. -/
theorem EfiFiles.set_absent
    {name guid : CStr}
    (absent : file sys (efiFilename name guid) = none) (attributes : Nat) (data : List Char) :
    (zenctlFwEfiSet name guid attributes data os sys proc).1 ≠ .value () := by
  have probe : ProbeFails os sys (efiVariablePath name guid) := by
    intro later
    unfold fsGetFlags efiVariablePath
    rw [store.probes, absent]
    rfl
  show SetM.Ends (zenctlFwEfiSet name guid attributes data) os sys proc
    fun outcome _ => outcome ≠ .value ()
  unfold zenctlFwEfiSet
  split
  · refine .getting nofun nofun fun _ _ _ => ?_
    refine .getting nofun nofun fun path _ found => ?_
    cases efiPath_value found
    refine .getting nofun nofun fun _ after _ => ?_
    obtain ⟨changed, later, failed, -⟩ := efiMaybeClearImmutable_fails (.inl probe) after
    exact .stops failed nofun
  · exact nofun

variable {entry : CStr} {f : VarFile} (present : file sys entry = some f)

include present

/-- The file is writable afterwards, and the token says whether its flag was cleared. -/
theorem EfiFiles.clear_run (proc : Proc) :
    ∃ changed, efiMaybeClearImmutable (joinPath efivarsBase entry) os sys proc =
        (.value (isImmutable f.flags), changed, proc) ∧
      file changed = Function.update (file sys) entry
        (some { f with flags := clearedFlags f.flags }) := by
  have word : flagWord os sys (joinPath efivarsBase entry) = some f.flags := by
    unfold flagWord
    rw [store.probes, present]
  unfold clearedFlags
  cases immutable : isImmutable f.flags with
  | false =>
      refine ⟨sys, (SetM.bind_getting_value (fsGetFlags_done word)).trans ?_, ?_⟩
      · simp only [immutable, Bool.false_eq_true, ↓reduceIte]
        rfl
      · simp [← present]
  | true =>
      obtain ⟨answer, cleared⟩ := store.flags sys entry f (f.flags - 16) present
      refine ⟨(os.setFlags sys (joinPath efivarsBase entry) (f.flags - 16)).2,
        (SetM.bind_getting_value (fsGetFlags_done word)).trans ?_, by simpa using cleared⟩
      simp only [immutable, ↓reduceIte]
      refine (SetM.bind_value (show fsSetFlags (joinPath efivarsBase entry) (f.flags - 16) os sys
        proc = (.value (), (os.setFlags sys (joinPath efivarsBase entry) (f.flags - 16)).2, proc) by
          simp only [fsSetFlags, answer])).trans rfl

/-- The flag is put back if it was cleared, and the result of the write is passed on. -/
theorem EfiFiles.restore_run
    (wasCleared : Bool) (result : Option Unit)
    (writable : isImmutable f.flags = false)
    (proc : Proc) :
    ∃ changed, restoreAfter (joinPath efivarsBase entry) wasCleared result os sys proc =
        (result.elim .failed .value, changed, proc) ∧
      file changed = Function.update (file sys) entry
        (some { f with flags := if wasCleared then f.flags + 16 else f.flags }) := by
  cases wasCleared with
  | false =>
      refine ⟨sys, by cases result <;> rfl, ?_⟩
      simp [← present]
  | true =>
      have word : flagWord os sys (joinPath efivarsBase entry) = some f.flags := by
        unfold flagWord
        rw [store.probes, present]
      obtain ⟨answer, restored⟩ := store.flags sys entry f (f.flags + 16) present
      have run : efiMaybeRestoreImmutable (joinPath efivarsBase entry) os sys proc =
          (.value (), (os.setFlags sys (joinPath efivarsBase entry) (f.flags + 16)).2, proc) := by
        refine (SetM.bind_getting_value (fsGetFlags_done word)).trans ?_
        simp only [writable, Bool.false_eq_true, ↓reduceIte, fsSetFlags, answer]
      have quiet : quietlySet (efiMaybeRestoreImmutable (joinPath efivarsBase entry)) os sys proc =
          (.value (some ()), (os.setFlags sys (joinPath efivarsBase entry) (f.flags + 16)).2,
            proc) :=
        quietlySet_value run
      exact ⟨_, (SetM.bind_value quiet).trans (by cases result <;> rfl), by simpa using restored⟩

end Set

/-- What a set promises: the value and its attributes can be read, and nothing else changed. -/
structure EfiRoundTrip (os : Os σ) (file : σ → CStr → Option VarFile) (name guid : CStr)
    (attributes : Nat) (data : List Char) (sys : σ) (proc : Proc) : Prop where
  set : (zenctlFwEfiSet name guid attributes data os sys proc).1 = .value ()
  get : (zenctlFwEfiGet name guid os
    (zenctlFwEfiSet name guid attributes data os sys proc).2.1
    (zenctlFwEfiSet name guid attributes data os sys proc).2.2).1 = .value data
  enumerated : ∃ vars, (zenctlFwEfiEnumerate os
      (zenctlFwEfiSet name guid attributes data os sys proc).2.1
      (zenctlFwEfiSet name guid attributes data os sys proc).2.2).1 = .value vars ∧
    (vars.filter fun v => v.name = name ∧ v.guid = guid) =
      [⟨name, guid, attributes, data.length⟩]
  others : ∀ other, other ≠ efiFilename name guid →
    file (zenctlFwEfiSet name guid attributes data os sys proc).2.1 other = file sys other

section RoundTrip

variable {os : Os σ} {file : σ → CStr → Option VarFile} (store : EfiStore os file)
  {name guid : CStr} (nameValid : efiNameValid name = true) (guidValid : efiGuidValid guid = true)
  {attributes : Nat} (positive : 0 < attributes) (small : attributes < 4294967296)
  {data : List Char} (nonempty : data ≠ [])
  {sys : σ} {proc : Proc} (memory : proc.allocations = [])

include store nameValid guidValid positive small nonempty memory

/-- A variable that was there holds the new contents and its old flags. -/
theorem EfiStore.set_present
    {f : VarFile} (present : file sys (efiFilename name guid) = some f) :
    ∃ changed, zenctlFwEfiSet name guid attributes data os sys proc = (.value (), changed, proc) ∧
      file changed = Function.update (file sys) (efiFilename name guid)
        (some ⟨attributeBytes attributes ++ data, f.flags⟩) := by
  have path : efiPath name guid "zenctl_fw_efi_set" os sys proc =
      (.value (joinPath efivarsBase (efiFilename name guid)), proc) := by
    refine (GetM.bind_value (allocateOr_plenty memory _ _)).trans ?_
    exact (GetM.bind_value (allocateOr_plenty memory _ _)).trans rfl
  have mounted : os.isEfivarfs sys (resolvePath os.sysfsRoot efivarsBase) = .ok true := by
    rw [resolvePath_direct store.direct, store.mounted]
  obtain ⟨cleared, clearRun, clearFile⟩ := store.clear_run present proc
  have writable := clearedFlags_mutable f.flags
  have clearedFile : file cleared (efiFilename name guid) =
      some { f with flags := clearedFlags f.flags } := by
    rw [clearFile, Function.update_self]
  obtain ⟨answer, flags, kept, writeFile⟩ := store.writes cleared (efiFilename name guid) attributes
    data (efiFilename_short nameValid guidValid) positive small nonempty (by
      intro g found
      rw [clearedFile] at found
      cases found
      exact writable)
  cases kept _ clearedFile
  have writeRun : attemptSet (writeBinaryFile (joinPath efivarsBase (efiFilename name guid))
      (attributeBytes attributes ++ data)) os cleared proc =
      (.value (some ()), (os.writeBinary cleared (joinPath efivarsBase (efiFilename name guid))
        (attributeBytes attributes ++ data)).2, proc) := by
    refine attemptSet_value ?_
    unfold writeBinaryFile
    rw [SetM.bind_value (show writeBinaryFile.answer
      (joinPath efivarsBase (efiFilename name guid)) (attributeBytes attributes ++ data) os cleared
      proc = (.value .done, (os.writeBinary cleared (joinPath efivarsBase (efiFilename name guid))
        (attributeBytes attributes ++ data)).2, proc) by
      simp only [writeBinaryFile.answer, answer])]
    rfl
  have written : file (os.writeBinary cleared (joinPath efivarsBase (efiFilename name guid))
      (attributeBytes attributes ++ data)).2 (efiFilename name guid) =
      some ⟨attributeBytes attributes ++ data, clearedFlags f.flags⟩ := by
    rw [writeFile, Function.update_self]
  obtain ⟨restored, restoreRun, restoreFile⟩ := store.restore_run written
    (isImmutable f.flags) (some ()) writable proc
  refine ⟨restored, ?_, ?_⟩
  · unfold zenctlFwEfiSet
    rw [nameValid, guidValid, Bool.and_self, if_pos rfl]
    refine (SetM.bind_getting_value (efivarsMounted_run mounted)).trans ?_
    refine (SetM.bind_getting_value path).trans ?_
    refine (SetM.bind_getting_value (allocateOr_plenty memory _ _)).trans ?_
    refine (SetM.bind_value clearRun).trans ?_
    exact (SetM.bind_value writeRun).trans restoreRun
  · rw [restoreFile, writeFile, clearFile, Function.update_idem, Function.update_idem,
      clearedFlags_restored]

/--
A set of a variable is followed by reads of just what was set, all else
unchanged, exactly when the variable was there before.
-/
theorem efiSet_roundTrip_iff :
    EfiRoundTrip os file name guid attributes data sys proc ↔
      file sys (efiFilename name guid) ≠ none := by
  constructor
  · intro roundTrip absent
    exact store.set_absent absent attributes data roundTrip.set
  · intro there
    obtain ⟨f, present⟩ := Option.ne_none_iff_exists'.mp there
    obtain ⟨changed, run, contents⟩ := store.set_present nameValid guidValid positive small
      nonempty memory present
    obtain ⟨names, lists, directory, complete⟩ := store.lists_names changed
    have read : readable os changed (efiVariablePath name guid) =
        some (attributeBytes attributes ++ data) := by
      rw [store.readable_file, contents, Function.update_self]
      rfl
    have member : efiFilename name guid ∈ names := by
      rw [complete, contents, Function.update_self]
      nofun
    obtain ⟨later, enumerated⟩ := zenctlFwEfiEnumerate_run memory lists
    have long : ¬ (attributeBytes attributes ++ data).length < 4 := by
      rw [List.length_append, attributeBytes_length]
      omega
    refine ⟨by rw [run], ?_, ⟨names.filterMap (efiVarOf os changed), ?_, ?_⟩, ?_⟩
    · rw [run]
      dsimp only
      rw [zenctlFwEfiGet_run memory lists.mounted nameValid guidValid read, if_neg long]
      rfl
    · rw [run]
      dsimp only
      rw [enumerated]
    · rw [efiVars_count directory guidValid member read, efiAttributes_attributeBytes small,
        List.length_append, attributeBytes_length, Nat.add_sub_cancel_left]
    · intro other different
      rw [run]
      dsimp only
      rw [contents, Function.update_of_ne different]

end RoundTrip

/-! ## A store in memory -/

/-- The files of an `efivarfs`, with their names in directory order. -/
structure VarDir where
  names : List CStr
  file : CStr → Option VarFile
  directory : Directory names
  complete : ∀ name, name ∈ names ↔ file name ≠ none

namespace VarDir

/-- Replace a file, or create it in front of the others. -/
def put (dir : VarDir) (name : CStr) (short : name.length ≤ 255) (f : VarFile) : VarDir where
  names := if name ∈ dir.names then dir.names else name :: dir.names
  file := Function.update dir.file name (some f)
  directory := by
    split
    · exact dir.directory
    · next absent =>
        exact ⟨List.nodup_cons.mpr ⟨absent, dir.directory.unique⟩,
          List.forall_mem_cons.mpr ⟨short, dir.directory.short⟩⟩
  complete other := by
    by_cases same : other = name
    · subst same
      rw [Function.update_self]
      split <;> simp_all
    · rw [Function.update_of_ne same, ← dir.complete]
      split <;> simp [same]

theorem put_file (dir : VarDir) (name : CStr) (short : name.length ≤ 255) (f : VarFile) :
    (dir.put name short f).file = Function.update dir.file name (some f) :=
  rfl

/-- A file that is there has a name that fits. -/
theorem short
    {dir : VarDir} {name : CStr} {f : VarFile} (present : dir.file name = some f) :
    name.length ≤ 255 :=
  dir.directory.short name ((dir.complete name).mpr (by rw [present]; nofun))

/-- The file name in a path of `efivarfs`. -/
def nameOf (path : CStr) : CStr :=
  path.drop (efivarsBase.length + 1)

def setFlags (dir : VarDir) (name : CStr) (word : Nat) : FlagCall Unit × VarDir :=
  match present : dir.file name with
  | some f => (.done (), dir.put name (short present) { f with flags := word })
  | none => (.openFailed Errno.enoent, dir)

/-- Immutable files are refused; a new file is immutable. -/
def write (dir : VarDir) (name : CStr) (data : List Char) : Written × VarDir :=
  match present : dir.file name with
  | some f =>
      if isImmutable f.flags then (.openFailed Errno.eperm, dir)
      else (.done, dir.put name (short present) { f with bytes := data })
  | none =>
      if fits : name.length ≤ 255 then (.done, dir.put name fits ⟨data, 16⟩)
      else (.openFailed Errno.einval, dir)

end VarDir

def varDirOs : Os VarDir :=
  { bareOs with
    isEfivarfs := fun _ _ => .ok true
    listDir := fun dir _ => .ok dir.names
    openRead := fun dir path =>
      match dir.file (VarDir.nameOf path) with
      | some f => .ok ⟨f.bytes, none⟩
      | none => .error Errno.enoent
    getFlags := fun dir path =>
      match dir.file (VarDir.nameOf path) with
      | some f => .done f.flags
      | none => .openFailed Errno.enoent
    setFlags := fun dir path word => dir.setFlags (VarDir.nameOf path) word
    writeBinary := fun dir path data => dir.write (VarDir.nameOf path) data }

theorem VarDir.nameOf_path (name : CStr) :
    nameOf (joinPath efivarsBase name) = name := by
  rw [joinPath_eq (by decide) (by decide)]
  simp [nameOf, List.drop_append]

theorem varDirOs_store :
    EfiStore varDirOs VarDir.file where
  direct := .inl rfl
  mounted _ := rfl
  lists dir := ⟨dir.names, rfl, dir.directory, dir.complete⟩
  opens dir name := by
    simp only [varDirOs, VarDir.nameOf_path]
  probes dir name := by
    simp only [varDirOs, VarDir.nameOf_path]
  flags dir name f word present := by
    simp only [varDirOs, VarDir.nameOf_path, VarDir.setFlags]
    split
    · next g found =>
        cases present.symm.trans found
        exact ⟨rfl, rfl⟩
    · next absent =>
        cases present.symm.trans absent
  writes dir name attributes data fits _ _ _ writable := by
    simp only [varDirOs, VarDir.nameOf_path, VarDir.write]
    split
    · next f found =>
        rw [if_neg (by rw [writable f found]; decide)]
        refine ⟨rfl, f.flags, ?_, rfl⟩
        intro g other
        cases found.symm.trans other
        rfl
    · next absent =>
        rw [dif_pos fits]
        refine ⟨rfl, 16, ?_, rfl⟩
        intro g other
        cases absent.symm.trans other

/-- The flag calls of that store succeed, and no write touches the flags. -/
theorem varDirOs_keepsFlags (name guid : CStr) :
    varDirOs.KeepsFlags (efiVariablePath name guid) := by
  have word : ∀ dir : VarDir, flagWord varDirOs dir (efiVariablePath name guid) =
      (dir.file (efiFilename name guid)).map (·.flags) := by
    intro dir
    simp only [flagWord, varDirOs, efiVariablePath, VarDir.nameOf_path]
    cases dir.file (efiFilename name guid) <;> rfl
  refine ⟨?_, ?_, ?_, fun _ => .inl rfl⟩
  · intro dir e
    simp only [varDirOs]
    split <;> nofun
  · intro dir flags there
    rw [word] at there
    have exist : dir.file (efiFilename name guid) ≠ none := by
      intro absent
      exact there (by rw [absent]; rfl)
    obtain ⟨f, present⟩ := Option.ne_none_iff_exists'.mp exist
    obtain ⟨answer, stored⟩ := varDirOs_store.flags dir (efiFilename name guid) f flags present
    refine ⟨answer, ?_⟩
    rw [word]
    unfold efiVariablePath
    rw [stored, Function.update_self]
    rfl
  · intro dir data there
    rw [word] at there
    left
    rw [word, word]
    simp only [varDirOs, efiVariablePath, VarDir.write]
    split
    · next g found =>
        rw [VarDir.nameOf_path] at found
        split
        · rfl
        · dsimp only
          rw [VarDir.put_file, VarDir.nameOf_path, Function.update_self, found]
          rfl
    · next absent =>
        rw [VarDir.nameOf_path] at absent
        exact absurd (by rw [absent]; rfl) there

/-- A directory without variables. -/
def emptyVarDir : VarDir where
  names := []
  file _ := none
  directory := ⟨List.nodup_nil, nofun⟩
  complete _ := by simp

/-- One immutable variable of one byte. -/
def timeoutVarDir : VarDir :=
  emptyVarDir.put (efiFilename "Timeout" globalGuid) (by decide)
    ⟨['\x07', '\x00', '\x00', '\x00', 'x'], 16⟩

theorem efiSet_roundTrip_timeout :
    EfiRoundTrip varDirOs VarDir.file "Timeout" globalGuid 7 ['y'] timeoutVarDir freshProc :=
  (efiSet_roundTrip_iff varDirOs_store (by decide) (by decide) (by decide) (by decide)
    (by decide) rfl).mpr (by
      rw [timeoutVarDir, VarDir.put_file, Function.update_self]
      nofun)

/-- The immutable variable is immutable again after it was set. -/
theorem efiFlags_kept_timeout :
    flagWord varDirOs timeoutVarDir (efiVariablePath "Timeout" globalGuid) = some 16 ∧
      ∀ attributes data, (zenctlFwEfiSet "Timeout" globalGuid attributes data).Ends varDirOs
        timeoutVarDir freshProc fun _ final =>
          SameFlags varDirOs (efiVariablePath "Timeout" globalGuid) timeoutVarDir final := by
  have word : flagWord varDirOs timeoutVarDir (efiVariablePath "Timeout" globalGuid) = some 16 := by
    rfl
  exact ⟨word, (((efiFlags_kept varDirOs "Timeout" globalGuid timeoutVarDir freshProc).1 16
    (varDirOs_keepsFlags _ _) word)).1⟩

/-- A variable that does not exist yet is not created. -/
theorem efiSet_creates_nothing :
    (zenctlFwEfiSet "Timeout" globalGuid 7 ['y'] varDirOs emptyVarDir freshProc).1 = .failed ∧
      ¬ EfiRoundTrip varDirOs VarDir.file "Timeout" globalGuid 7 ['y'] emptyVarDir freshProc := by
  have failed : (zenctlFwEfiSet "Timeout" globalGuid 7 ['y'] varDirOs emptyVarDir freshProc).1 =
      .failed := rfl
  refine ⟨failed, fun roundTrip => ?_⟩
  have returned := roundTrip.set
  rw [failed] at returned
  cases returned

end Zenctl
