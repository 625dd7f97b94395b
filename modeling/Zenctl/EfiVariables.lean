import Zenctl.EfiFlags

namespace Zenctl

open CString

/-!
# Enumerating and reading EFI variables

Enumeration cuts the GUID off the end of a file name; reading puts name and
GUID together again.  With memory left, what either delivers is decided by the
directory and the files alone.
-/

variable {σ : Type}

/-! ## File names -/

/-- The name and the GUID of an entry are found again from its end. -/
theorem efiParseEntry_iff (entry name guid : CStr) :
    efiParseEntry entry = some (name, guid) ↔
      entry = efiFilename name guid ∧ efiGuidValid guid = true := by
  unfold efiParseEntry
  constructor
  · intro parsed
    split_ifs at parsed with short dash valid
    cases parsed
    refine ⟨?_, valid⟩
    have here : entry[entry.length - 37]? = some '-' := not_not.mp dash
    have split := List.take_append_drop (entry.length - 37) entry
    have inside : entry.length - 37 < entry.length := by omega
    have tail : entry.drop (entry.length - 37) = '-' :: entry.drop (entry.length - 36) := by
      rw [List.drop_eq_getElem_cons inside, ← Option.some.inj
        ((List.getElem?_eq_getElem inside).symm.trans here).symm]
      congr 2
      omega
    unfold efiFilename
    rw [← tail, split]
  · rintro ⟨rfl, valid⟩
    have length : guid.length = 36 := by
      simp only [efiGuidValid, Bool.and_eq_true, decide_eq_true_eq] at valid
      exact valid.1
    have total : (efiFilename name guid).length = name.length + 37 := by
      simp only [efiFilename, List.length_append, List.length_cons, length]
    have last : (efiFilename name guid).drop (name.length + 1) = guid := by
      simp [efiFilename, List.drop_append]
    have dash : (efiFilename name guid)[name.length]? = some '-' := by
      simp [efiFilename]
    rw [total, if_neg (by omega), show name.length + 37 - 37 = name.length by omega,
      show name.length + 37 - 36 = name.length + 1 by omega, if_neg (not_not.mpr dash), last,
      if_pos valid]
    simp [efiFilename]

theorem efiGuidValid_length
    {guid : CStr} (valid : efiGuidValid guid = true) :
    guid.length = 36 := by
  simp only [efiGuidValid, Bool.and_eq_true, decide_eq_true_eq] at valid
  exact valid.1

/--
On this entry parsing is exact: it finds a name and a GUID when there are any, a
name of at least one character and a valid GUID, and no others.
-/
structure ParsesExactly (entry : CStr) : Prop where
  sound : ∀ {name guid}, efiParseEntry entry = some (name, guid) →
    name ≠ [] ∧ efiGuidValid guid = true ∧ efiFilename name guid = entry
  complete : ∀ {name guid}, name ≠ [] → efiGuidValid guid = true →
    entry = efiFilename name guid → efiParseEntry entry = some (name, guid)

/--
Parsing is exact on every entry but a dash with a valid GUID behind it, which
passes the length test without a name; it undoes `efi_filename` for every name.
-/
theorem efiParseEntry_exactly
    (entry : CStr) :
    (ParsesExactly entry ↔ ¬ ∃ guid, efiGuidValid guid = true ∧ entry = '-' :: guid) ∧
    ∀ name guid, efiGuidValid guid = true →
      efiParseEntry (efiFilename name guid) = some (name, guid) := by
  have parses : ∀ name guid, efiGuidValid guid = true →
      efiParseEntry (efiFilename name guid) = some (name, guid) :=
    fun name guid valid => (efiParseEntry_iff _ _ _).mpr ⟨rfl, valid⟩
  refine ⟨⟨?_, ?_⟩, parses⟩
  · rintro exactly ⟨guid, valid, rfl⟩
    exact (exactly.sound (parses [] guid valid)).1 rfl
  · intro named
    constructor
    · intro name guid parsed
      obtain ⟨shape, valid⟩ := (efiParseEntry_iff _ _ _).mp parsed
      refine ⟨?_, valid, shape.symm⟩
      rintro rfl
      exact named ⟨guid, valid, shape⟩
    · rintro name guid _ valid rfl
      exact parses name guid valid

/-- An entry of 37 characters is taken for a variable with an empty name. -/
theorem namelessEntry_parsed :
    ¬ ParsesExactly "-8be4df61-93ca-11d2-aa0d-00e098032b8c" := by
  intro exactly
  have parsed : efiParseEntry "-8be4df61-93ca-11d2-aa0d-00e098032b8c" =
      some ([], "8be4df61-93ca-11d2-aa0d-00e098032b8c".toList) := by
    decide
  exact (exactly.sound parsed).1 rfl

/-! ## Reading with memory left -/

/-- The contents of the file behind a path, when it can be read to its end. -/
def readable (os : Os σ) (sys : σ) (path : CStr) : Option (List Char) :=
  match os.openRead sys (resolvePath os.sysfsRoot path) with
  | .ok file => if file.readError = none then some file.bytes else none
  | .error _ => none

section Memory

variable {os : Os σ} {sys : σ} {proc : Proc}

theorem growBuffer_run
    (memory : proc.allocations = []) (path : CStr) (length rounds capacity : Nat) :
    growBuffer path length rounds capacity os sys proc = (.value (), proc) := by
  induction rounds generalizing capacity with
  | zero =>
      rfl
  | succ rounds inductionHypothesis =>
      unfold growBuffer
      split
      · rfl
      · exact (GetM.bind_value (allocateOr_plenty memory _ _)).trans (inductionHypothesis _)

/-- Up to its last steps the read goes by the file alone. -/
theorem readFileBinary_opened
    (memory : proc.allocations = [])
    {path : CStr} {file : OpenFile}
    (answer : os.openRead sys (resolvePath os.sysfsRoot path) = .ok file) :
    readFileBinary path os sys proc =
      (match file.readError with
        | some e => do
            setErrno e.1
            raise (errnoToCode e.1) "read error" path
        | none => do
            let _ ← allocate
            pure file.bytes : GetM σ (List Char)) os sys proc := by
  refine (GetM.bind_value (openResolved_ok answer proc)).trans ?_
  refine (GetM.bind_value (allocateOr_plenty memory _ _)).trans ?_
  exact GetM.bind_value (growBuffer_run memory _ _ _ _)

theorem readFileBinary_some
    (memory : proc.allocations = [])
    {path : CStr} {bytes : List Char}
    (contents : readable os sys path = some bytes) :
    readFileBinary path os sys proc = (.value bytes, proc) := by
  unfold readable at contents
  split at contents
  · next file answer =>
      obtain ⟨read, readError⟩ := file
      cases readError with
      | some e =>
          cases contents
      | none =>
          cases contents
          rw [readFileBinary_opened memory answer]
          exact (GetM.bind_value (allocate_run memory)).trans rfl
  · cases contents

theorem readFileBinary_none
    (memory : proc.allocations = [])
    {path : CStr}
    (contents : readable os sys path = none) :
    ∃ later, readFileBinary path os sys proc = (.failed, later) ∧ later.allocations = [] := by
  unfold readable at contents
  split at contents
  · next file answer =>
      obtain ⟨read, readError⟩ := file
      cases readError with
      | some e =>
          exact ⟨_, readFileBinary_opened memory answer, memory⟩
      | none =>
          cases contents
  · next e answer =>
      have failed : openResolved path os sys proc =
          raiseErrno none path os sys { proc with errno := e.1 } :=
        (GetM.bind_value (sysCall_error answer)).trans rfl
      exact ⟨_, GetM.bind_failed (failed.trans rfl), memory⟩

/-- Reading on the side: nothing but `errno` is left of it. -/
theorem quietly_readFileBinary
    (os : Os σ) (sys : σ) (memory : proc.allocations = []) (path : CStr) :
    ∃ later, quietly (readFileBinary path) os sys proc = (.value (readable os sys path), later) ∧
      later.allocations = [] := by
  rcases Option.eq_none_or_eq_some (readable os sys path) with unreadable | ⟨bytes, contents⟩
  · obtain ⟨later, failed, remembers⟩ := readFileBinary_none memory unreadable
    refine ⟨{ later with err := proc.err }, ?_, remembers⟩
    unfold quietly attempt
    rw [failed, unreadable]
  · refine ⟨proc, ?_, memory⟩
    unfold quietly attempt
    rw [readFileBinary_some memory contents, contents]

/-- A copied directory lacks the two dot entries. -/
theorem copyNames_run
    (os : Os σ) (sys : σ) (memory : proc.allocations = []) (message dir : CStr) (names : List CStr) :
    ∀ capacity copied, copyNames message dir capacity copied names os sys proc =
      (.value (copied ++ names.filter fun name => ¬ (name = ".".toList ∨ name = "..".toList)),
        proc) := by
  induction names with
  | nil =>
      intro capacity copied
      simp [copyNames]
  | cons name rest inductionHypothesis =>
      intro capacity copied
      rw [copyNames]
      by_cases dots : name = ".".toList ∨ name = "..".toList
      · rw [if_pos dots, inductionHypothesis]
        simp only [List.filter_cons, dots, not_true_eq_false, decide_false, Bool.false_eq_true,
          ↓reduceIte]
      · rw [if_neg dots]
        refine (GetM.bind_value (allocateOr_plenty memory _ _)).trans ?_
        have goes : ∀ size, copyNames message dir size (copied ++ [name]) rest os sys proc =
            (.value (copied ++ (name :: rest).filter
              fun name => ¬ (name = ".".toList ∨ name = "..".toList)), proc) := by
          intro size
          rw [inductionHypothesis]
          simp only [List.filter_cons, dots, not_false_eq_true, decide_true, ↓reduceIte,
            List.append_assoc, List.singleton_append]
        split
        · exact (GetM.bind_value (allocateOr_plenty memory _ _)).trans (goes _)
        · exact goes _

/-! ## Enumerating -/

/-- What enumeration makes of an entry of the directory. -/
def efiVarOf (os : Os σ) (sys : σ) (entry : CStr) : Option EfiVar :=
  match efiParseEntry entry with
  | none => none
  | some (name, guid) =>
      (readable os sys (joinPath efivarsBase entry)).map fun raw =>
        ⟨bounded 256 name, bounded 37 guid, efiAttributes raw, raw.length - 4⟩

theorem allocateMany_run
    (memory : proc.allocations = []) (count : Nat) :
    allocateMany count os sys proc = (.value true, proc) := by
  induction count with
  | zero =>
      rfl
  | succ count inductionHypothesis =>
      exact (GetM.bind_value (allocate_run memory)).trans inductionHypothesis

theorem collectEfiVars_run
    (os : Os σ) (sys : σ) (entries : List CStr) :
    ∀ capacity found proc, proc.allocations = [] →
      ∃ later, collectEfiVars capacity found entries os sys proc =
          (.value (found ++ entries.filterMap (efiVarOf os sys)), later) ∧
        later.allocations = [] := by
  induction entries with
  | nil =>
      intro capacity found proc memory
      exact ⟨proc, by simp [collectEfiVars], memory⟩
  | cons entry rest inductionHypothesis =>
      intro capacity found proc memory
      unfold collectEfiVars
      rw [List.filterMap_cons]
      unfold efiVarOf
      cases parsed : efiParseEntry entry with
      | none =>
          exact inductionHypothesis capacity found proc memory
      | some parts =>
          obtain ⟨name, guid⟩ := parts
          obtain ⟨after, read, remembers⟩ := quietly_readFileBinary os sys memory
            (joinPath efivarsBase entry)
          dsimp only
          rw [GetM.bind_value (allocateMany_run memory 3), if_pos rfl, GetM.bind_value read]
          cases contents : readable os sys (joinPath efivarsBase entry) with
          | none =>
              exact inductionHypothesis capacity found after remembers
          | some raw =>
              have adds : ∀ size, ∃ later,
                  collectEfiVars size (found ++ [⟨bounded 256 name, bounded 37 guid,
                    efiAttributes raw, raw.length - 4⟩]) rest os sys after =
                    (.value (found ++ ⟨bounded 256 name, bounded 37 guid, efiAttributes raw,
                      raw.length - 4⟩ :: rest.filterMap (efiVarOf os sys)), later) ∧
                    later.allocations = [] := by
                intro size
                have rest := inductionHypothesis size (found ++ [⟨bounded 256 name,
                  bounded 37 guid, efiAttributes raw, raw.length - 4⟩]) after remembers
                rwa [← List.append_cons] at rest
              dsimp only [Option.map_some]
              split
              · rw [GetM.bind_value (allocate_run remembers), if_pos rfl]
                exact adds _
              · exact adds _

/-- A directory that lists. -/
structure Lists (os : Os σ) (sys : σ) (names : List CStr) : Prop where
  mounted : os.isEfivarfs sys (resolvePath os.sysfsRoot efivarsBase) = .ok true
  listed : os.listDir sys efivarsBase = .ok names

theorem efivarsMounted_run
    (mounted : os.isEfivarfs sys (resolvePath os.sysfsRoot efivarsBase) = .ok true) :
    efivarsMounted os sys proc = (.value (), proc) := by
  unfold efivarsMounted
  rw [mounted]

theorem firmwareListDir_run
    (memory : proc.allocations = [])
    {dir : CStr} {names : List CStr} (listed : os.listDir sys dir = .ok names) :
    firmwareListDir dir os sys proc =
      (.value (names.filter fun name => ¬ (name = ".".toList ∨ name = "..".toList)), proc) := by
  refine (GetM.bind_value (show firmwareListDir.listed dir os sys proc =
    (.value names, proc) by simp only [firmwareListDir.listed, listed])).trans ?_
  refine (GetM.bind_value (allocateOr_plenty memory _ _)).trans ?_
  exact copyNames_run os sys memory "oom" dir names 16 []

/-- Enumeration delivers the readable variables of the directory in its order. -/
theorem zenctlFwEfiEnumerate_run
    (memory : proc.allocations = [])
    {names : List CStr} (lists : Lists os sys names) :
    ∃ later, zenctlFwEfiEnumerate os sys proc =
      (.value (names.filterMap (efiVarOf os sys)), later) := by
  obtain ⟨later, collected, -⟩ := collectEfiVars_run os sys
    (names.filter fun name => ¬ (name = ".".toList ∨ name = "..".toList)) 16 [] proc memory
  refine ⟨later, ?_⟩
  refine (GetM.bind_value (efivarsMounted_run lists.mounted)).trans ?_
  refine (GetM.bind_value (firmwareListDir_run memory lists.listed)).trans ?_
  refine (GetM.bind_value (allocateOr_plenty memory _ _)).trans ?_
  rw [collected, List.nil_append, List.filterMap_filter]
  -- the dot entries are too short to be variables
  congr 3
  funext name
  by_cases dots : name = ".".toList ∨ name = "..".toList
  · rw [if_neg (by rw [decide_eq_true_eq]; exact not_not.mpr dots)]
    rcases dots with rfl | rfl <;> rfl
  · rw [if_pos (by rw [decide_eq_true_eq]; exact dots)]

/-! ## Getting -/

/-- With a good name and GUID, reading delivers what is behind the attributes. -/
theorem zenctlFwEfiGet_run
    (memory : proc.allocations = [])
    (mounted : os.isEfivarfs sys (resolvePath os.sysfsRoot efivarsBase) = .ok true)
    {name guid : CStr}
    (nameValid : efiNameValid name = true)
    (guidValid : efiGuidValid guid = true)
    {raw : List Char}
    (contents : readable os sys (efiVariablePath name guid) = some raw) :
    zenctlFwEfiGet name guid os sys proc =
      if raw.length < 4 then
        raise Err.eio "efivar file shorter than attribute prefix" "zenctl_fw_efi_get" os sys proc
      else (.value (raw.drop 4), proc) := by
  have path : efiPath name guid "zenctl_fw_efi_get" os sys proc =
      (.value (efiVariablePath name guid), proc) := by
    refine (GetM.bind_value (allocateOr_plenty memory _ _)).trans ?_
    exact (GetM.bind_value (allocateOr_plenty memory _ _)).trans rfl
  unfold zenctlFwEfiGet
  rw [nameValid, guidValid, Bool.and_self, if_pos rfl]
  refine (GetM.bind_value (efivarsMounted_run mounted)).trans ?_
  refine (GetM.bind_value path).trans ?_
  refine (GetM.bind_value (readFileBinary_some memory contents)).trans ?_
  rw [GetM.ite_run]
  split
  · rfl
  · exact (GetM.bind_value (allocateOr_plenty memory _ _)).trans rfl

theorem zenctlFwEfiGet_invalid
    {name guid : CStr}
    (invalid : efiNameValid name = false) :
    zenctlFwEfiGet name guid os sys proc =
      raise Err.einval "invalid name/guid/out" "zenctl_fw_efi_get" os sys proc := by
  unfold zenctlFwEfiGet
  rw [invalid, Bool.false_and, if_neg (by decide)]

end Memory

/-! ## The two sides together -/

/-- What a directory can list: every name once, none longer than `NAME_MAX`. -/
structure Directory (names : List CStr) : Prop where
  unique : names.Nodup
  short : ∀ name ∈ names, name.length ≤ 255

/-- An enumerated variable names its file, and was read from it. -/
theorem efiVarOf_some
    {os : Os σ} {sys : σ} {entry : CStr} {v : EfiVar}
    (short : entry.length ≤ 255)
    (found : efiVarOf os sys entry = some v) :
    entry = efiFilename v.name v.guid ∧ efiGuidValid v.guid = true ∧
      ∃ raw, readable os sys (efiVariablePath v.name v.guid) = some raw ∧
        v.attributes = efiAttributes raw ∧ v.dataSize = raw.length - 4 := by
  unfold efiVarOf at found
  cases parsed : efiParseEntry entry with
  | none =>
      rw [parsed] at found
      cases found
  | some parts =>
      obtain ⟨name, guid⟩ := parts
      obtain ⟨rfl, valid⟩ := (efiParseEntry_iff entry name guid).mp parsed
      rw [parsed] at found
      obtain ⟨raw, contents, rfl⟩ := Option.map_eq_some_iff.mp found
      have guidLength := efiGuidValid_length valid
      simp only [efiFilename, List.length_append, List.length_cons, guidLength] at short
      rw [bounded_eq_self (by omega : name.length < 256),
        bounded_eq_self (by omega : guid.length < 37)]
      exact ⟨rfl, valid, raw, contents, rfl, rfl⟩

/-- A readable file of the form name, dash, GUID is enumerated under them. -/
theorem efiVarOf_file
    {os : Os σ} {sys : σ} {name guid : CStr} {raw : List Char}
    (short : (efiFilename name guid).length ≤ 255)
    (valid : efiGuidValid guid = true)
    (contents : readable os sys (efiVariablePath name guid) = some raw) :
    efiVarOf os sys (efiFilename name guid) =
      some ⟨name, guid, efiAttributes raw, raw.length - 4⟩ := by
  have guidLength := efiGuidValid_length valid
  simp only [efiFilename, List.length_append, List.length_cons, guidLength] at short
  unfold efiVariablePath at contents
  unfold efiVarOf
  rw [(efiParseEntry_iff _ name guid).mpr ⟨rfl, valid⟩]
  dsimp only
  rw [contents, bounded_eq_self (by omega : name.length < 256),
    bounded_eq_self (by omega : guid.length < 37)]
  rfl

/-- Each readable variable is enumerated once. -/
theorem efiVars_count
    {os : Os σ} {sys : σ} {names : List CStr} {name guid : CStr} {raw : List Char}
    (directory : Directory names)
    (valid : efiGuidValid guid = true)
    (member : efiFilename name guid ∈ names)
    (contents : readable os sys (efiVariablePath name guid) = some raw) :
    (names.filterMap (efiVarOf os sys)).filter (fun v => v.name = name ∧ v.guid = guid) =
      [⟨name, guid, efiAttributes raw, raw.length - 4⟩] := by
  obtain ⟨before, after, rfl⟩ := List.append_of_mem member
  have unique := directory.unique
  rw [List.nodup_append] at unique
  have here := efiVarOf_file (directory.short _ member) valid contents
  have elsewhere : ∀ others : List CStr, (∀ other ∈ others, other.length ≤ 255) →
      efiFilename name guid ∉ others →
      (others.filterMap (efiVarOf os sys)).filter (fun v => v.name = name ∧ v.guid = guid) = [] := by
    intro others short absent
    rw [List.filter_eq_nil_iff]
    intro v enumerated named
    obtain ⟨entry, entryMember, found⟩ := List.mem_filterMap.mp enumerated
    obtain ⟨rfl, -, -⟩ := efiVarOf_some (short entry entryMember) found
    obtain ⟨rfl, rfl⟩ : v.name = name ∧ v.guid = guid := by simpa using named
    exact absent entryMember
  have inFront : efiFilename name guid ∉ before := fun old =>
    unique.2.2 _ old _ List.mem_cons_self rfl
  have behind : efiFilename name guid ∉ after := (List.nodup_cons.mp unique.2.1).1
  rw [List.filterMap_append, List.filterMap_cons, here, List.filter_append, List.filter_cons,
    elsewhere before (fun other old => directory.short other (List.mem_append_left _ old)) inFront,
    elsewhere after (fun other new => directory.short other
      (List.mem_append_right _ (List.mem_cons_of_mem _ new))) behind]
  simp

/--
Whatever the directory lists: a variable whose name passes the check of the
reader is read from the very file it was enumerated from, with the size
enumerated; any other name with bytes in it is refused.  Each readable file of
the form name, dash, GUID is enumerated exactly once.
-/
theorem efiEnumerate_get_agree
    {os : Os σ} {sys : σ} {proc : Proc} (memory : proc.allocations = [])
    {names : List CStr} (lists : Lists os sys names) (directory : Directory names) :
    ∃ vars later, zenctlFwEfiEnumerate os sys proc = (.value vars, later) ∧
      (∀ v ∈ vars, efiFilename v.name v.guid ∈ names ∧
        (efiNameValid v.name = true →
          ∃ raw, readable os sys (efiVariablePath v.name v.guid) = some raw ∧
            v.attributes = efiAttributes raw ∧
            zenctlFwEfiGet v.name v.guid os sys proc =
              (if raw.length < 4 then
                raise Err.eio "efivar file shorter than attribute prefix" "zenctl_fw_efi_get"
                  os sys proc
              else (.value (raw.drop 4), proc)) ∧
            (4 ≤ raw.length → (raw.drop 4).length = v.dataSize)) ∧
        (v.name ≠ [] → efiNameValid v.name = false →
          zenctlFwEfiGet v.name v.guid os sys proc =
            raise Err.einval "invalid name/guid/out" "zenctl_fw_efi_get" os sys proc)) ∧
      ∀ name guid, name ≠ [] → efiGuidValid guid = true → efiFilename name guid ∈ names →
        readable os sys (efiVariablePath name guid) ≠ none →
          (vars.filter fun v => v.name = name ∧ v.guid = guid).length = 1 := by
  obtain ⟨later, run⟩ := zenctlFwEfiEnumerate_run memory lists
  refine ⟨_, later, run, ?_, ?_⟩
  · intro v enumerated
    obtain ⟨entry, member, found⟩ := List.mem_filterMap.mp enumerated
    obtain ⟨rfl, guidValid, raw, contents, attributes, size⟩ :=
      efiVarOf_some (directory.short entry member) found
    refine ⟨member, fun nameValid => ?_, fun _ invalid => zenctlFwEfiGet_invalid invalid⟩
    refine ⟨raw, contents, attributes, ?_, fun _ => ?_⟩
    · exact zenctlFwEfiGet_run memory lists.mounted nameValid guidValid contents
    · rw [List.length_drop, size]
  · intro name guid _ valid member present
    obtain ⟨raw, contents⟩ := Option.ne_none_iff_exists'.mp present
    rw [efiVars_count directory valid member contents]
    rfl

/-! ## Small directories -/

def globalGuid : CStr := "8be4df61-93ca-11d2-aa0d-00e098032b8c"

/-- An `efivarfs` with one variable of this name, whose value is one byte. -/
def oneVariableOs (name : CStr) : Os Unit :=
  { bareOs with
    isEfivarfs := fun _ _ => .ok true
    listDir := fun _ _ => .ok [efiFilename name globalGuid]
    openRead := fun _ _ => .ok ⟨['\x07', '\x00', '\x00', '\x00', 'x'], none⟩ }

/-- The variables `Timeout` and `Boot-Next`, and a file that is none. -/
def variableFiles : List CStr :=
  [efiFilename "Timeout" globalGuid, "README", efiFilename "Boot-Next" globalGuid]

/-- An `efivarfs` with these files, where `Boot-Next` has two bytes. -/
def twoVariablesOs : Os Unit :=
  { bareOs with
    isEfivarfs := fun _ _ => .ok true
    listDir := fun _ _ => .ok variableFiles
    openRead := fun _ path =>
      if path = efiVariablePath "Boot-Next" globalGuid then
        .ok ⟨['\x03', '\x00', '\x00', '\x00', 'y', 'z'], none⟩
      else .ok ⟨['\x07', '\x00', '\x00', '\x00', 'x'], none⟩ }

theorem efiEnumerate_get_agree_timeout :
    (zenctlFwEfiEnumerate twoVariablesOs () freshProc).1 =
        .value [⟨"Timeout", globalGuid, 7, 1⟩, ⟨"Boot-Next", globalGuid, 3, 2⟩] ∧
      zenctlFwEfiGet "Timeout" globalGuid twoVariablesOs () freshProc =
        (.value ['x'], freshProc) ∧
      zenctlFwEfiGet "Boot-Next" globalGuid twoVariablesOs () freshProc =
        raise Err.einval "invalid name/guid/out" "zenctl_fw_efi_get" twoVariablesOs () freshProc := by
  have enumerated : (zenctlFwEfiEnumerate twoVariablesOs () freshProc).1 =
      .value [⟨"Timeout", globalGuid, 7, 1⟩, ⟨"Boot-Next", globalGuid, 3, 2⟩] := rfl
  have memory : freshProc.allocations = [] := rfl
  have lists : Lists twoVariablesOs () variableFiles := ⟨rfl, rfl⟩
  obtain ⟨vars, later, run, agree, -⟩ := efiEnumerate_get_agree memory lists
    ⟨by decide, by decide⟩
  refine ⟨enumerated, ?_⟩
  rw [run] at enumerated
  cases enumerated
  obtain ⟨-, reads, -⟩ := agree ⟨"Timeout", globalGuid, 7, 1⟩ (by simp)
  obtain ⟨-, -, refuses⟩ := agree ⟨"Boot-Next", globalGuid, 3, 2⟩ (by simp)
  obtain ⟨raw, contents, -, get, -⟩ := reads (by decide)
  have read : readable twoVariablesOs () (efiVariablePath "Timeout" globalGuid) =
      some ['\x07', '\x00', '\x00', '\x00', 'x'] := rfl
  cases read.symm.trans contents
  exact ⟨get, refuses (by decide) (by decide)⟩

/-- A name with a dash in it is enumerated and cannot be read. -/
theorem efiEnumerate_get_dash :
    (zenctlFwEfiEnumerate (oneVariableOs "Boot-Next") () freshProc).1 =
        .value [⟨"Boot-Next", globalGuid, 7, 1⟩] ∧
      (zenctlFwEfiGet "Boot-Next" globalGuid (oneVariableOs "Boot-Next") () freshProc).1 =
        .failed := by
  constructor
  · rfl
  · rfl

end Zenctl
