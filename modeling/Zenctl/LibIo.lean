import Zenctl.System
import Mathlib.Data.List.DropRight

namespace Zenctl

open CString

/-!
# `io.c`

The helpers every domain reads and writes the kernel's files through, and what
they deliver.
-/

variable {σ : Type}

/-- `zenctl__resolve_path` with the 4096 byte buffer of its callers. -/
def resolvePath (sysfsRoot : Option CStr) (path : CStr) : CStr :=
  match sysfsRoot with
  | none => path
  | some root =>
      if root = [] then path
      else if startsWith "/sys/" path || startsWith "/proc/" path then
        -- a path that does not fit is used as it is
        if 4096 ≤ (root ++ path).length then path else root ++ path
      else path

/-- A trailing carriage return or newline. -/
def isCrLf (c : Char) : Bool :=
  c = '\n' || c = '\r'

/-- What a buffer of `size` bytes holds of a file, trailing CR and LF removed. -/
def bufferText (size : Nat) (bytes : List Char) : CStr :=
  ofBuffer ((bytes.take (size - 1)).rdropWhile isCrLf)

/-- The file behind a path, opened for reading. -/
def openResolved (path : CStr) : GetM σ OpenFile :=
  sysCallOr (fun os sys => os.openRead sys (resolvePath os.sysfsRoot path)) none path

/-- `fopen(path, "r")` on a path the library does not redirect. -/
def openPath (path : CStr) : GetM σ OpenFile :=
  sysCallOr (fun os sys => os.openRead sys path) none path

/-- The lines a loop `while (fgets(line, size, f))` sees; it ends at a read error. -/
def OpenFile.lines (file : OpenFile) (size : Nat) : List CStr :=
  let buffers := fgets size file.bytes
  let whole := match file.readError with
    | none => buffers
    | some _ => buffers.filter fun line => line.getLast? = some '\n' || line.length = size - 1
  whole.map ofBuffer

/-- `zenctl__read_file_string` for a buffer of some size; a read error counts inside it only. -/
def readFileString (path : CStr) (size : Nat) : GetM σ CStr := do
  let file ← openResolved path
  match file.readError with
  | some e =>
      if file.bytes.length < size - 1 then do
        setErrno e.1
        raise (errnoToCode e.1) "read error" path
      else pure (bufferText size file.bytes)
  | none => pure (bufferText size file.bytes)

/-- `zenctl__read_file_i64`. -/
def readFileI64 (path : CStr) : GetM σ Int := do
  let text ← readFileString path 64
  setErrno 0
  match strtoll text with
  | some parsed =>
      if parsed.outOfRange then do
        setErrno Errno.erange.1
        raise Err.einval "not a base-10 integer" path
      else pure parsed.value
  | none => raise Err.einval "not a base-10 integer" path

/-- `fopen(path, "w")`, `fwrite`, `fclose` on the resolved path. -/
def writeResolved (path value : CStr) : SetM σ Written :=
  fun os sys proc =>
    let answer := os.writeFile sys (resolvePath os.sysfsRoot path) value
    (.value answer.1, answer.2, proc)

/-- `zenctl__write_file_string`. -/
def writeFileString (path value : CStr) : SetM σ Unit := do
  match ← writeResolved path value with
  | .done => pure ()
  | .openFailed e =>
      getting do
        setErrno e.1
        raiseErrno none path
  | .writeFailed e | .closeFailed e =>
      getting do
        setErrno e.1
        raise (errnoToCode e.1) "write error" path

/-- `zenctl__write_file_i64`. -/
def writeFileI64 (path : CStr) (value : Int) : SetM σ Unit :=
  writeFileString path (showInt value)

/-- Double the buffer until the file and one more byte fit. -/
def growBuffer (path : CStr) (length : Nat) : Nat → Nat → GetM σ Unit
  | 0, _ => pure ()
  | rounds + 1, capacity =>
      if length < capacity then pure ()
      else do
        allocateOr "realloc failed" path
        growBuffer path length rounds (capacity * 2)

/-- `zenctl__read_file_binary`; the last, shrinking `realloc` may fail. -/
def readFileBinary (path : CStr) : GetM σ (List Char) := do
  let file ← openResolved path
  allocateOr "malloc failed" path
  growBuffer path file.bytes.length file.bytes.length 256
  match file.readError with
  | some e => do
      setErrno e.1
      raise (errnoToCode e.1) "read error" path
  | none => do
      let _ ← allocate
      pure file.bytes

/-! ## What is read -/

/-- A text of a kernel file: at most 255 bytes, none of them NUL. -/
abbrev KernelText := { text : CStr // '\x00' ∉ text ∧ text.length ≤ 255 }

/-- An `int64_t`. -/
abbrev Int64Value := { value : Int // int64Min ≤ value ∧ value ≤ int64Max }

theorem ofBuffer_noNul (bytes : List Char) :
    '\x00' ∉ ofBuffer bytes := by
  intro member
  simpa using List.mem_takeWhile_imp member

theorem readFileString_returns (path : CStr) (size : Nat) :
    (readFileString path size : GetM σ CStr).Returns fun text =>
      '\x00' ∉ text ∧ text.length ≤ size - 1 := by
  have inBuffer : ∀ bytes : List Char,
      '\x00' ∉ bufferText size bytes ∧ (bufferText size bytes).length ≤ size - 1 := by
    intro bytes
    refine ⟨ofBuffer_noNul _, ?_⟩
    have read := (List.takeWhile_prefix (· ≠ '\x00')
      (l := (bytes.take (size - 1)).rdropWhile isCrLf)).length_le
    have stripped := (List.rdropWhile_prefix isCrLf (l := bytes.take (size - 1))).length_le
    simp only [List.length_take] at stripped
    unfold bufferText ofBuffer
    omega
  refine .bind (.any _) fun file _ => ?_
  split
  · split
    · exact .bind (.any _) fun _ _ => .raise _ _ _
    · exact .pure (inBuffer _)
  · exact .pure (inBuffer _)

theorem readFileI64_returns (path : CStr) :
    (readFileI64 path : GetM σ Int).Returns fun value => int64Min ≤ value ∧ value ≤ int64Max := by
  refine .bind (.any _) fun text _ => .bind (.any _) fun _ _ => ?_
  split
  · next parsed read =>
      split
      · exact .bind (.any _) fun _ _ => .raise _ _ _
      · exact .pure (strtoll_bounds read)
  · exact .raise _ _ _

/-! ## Where a path leads -/

theorem startsWith_append (lead rest : CStr) :
    startsWith lead (lead ++ rest) = true := by
  simp [startsWith]

/-- Short kernel paths stay apart when they are redirected. -/
theorem resolvePath_injective
    (sysfsRoot : Option CStr)
    {first second : CStr}
    (firstSys : startsWith "/sys/" first = true)
    (secondSys : startsWith "/sys/" second = true)
    (firstShort : first.length < 256)
    (secondShort : second.length < 256)
    (same : resolvePath sysfsRoot first = resolvePath sysfsRoot second) :
    first = second := by
  cases sysfsRoot with
  | none =>
      simpa [resolvePath] using same
  | some root =>
      by_cases empty : root = []
      · simpa [resolvePath, empty] using same
      · simp only [resolvePath, empty, ↓reduceIte, firstSys, secondSys, Bool.true_or,
          List.length_append] at same
        -- when one path is redirected and the other is not, the root alone is longer
        split at same <;> split at same
        · exact same
        · have lengths := congrArg List.length same
          simp only [List.length_append] at lengths
          omega
        · have lengths := congrArg List.length same
          simp only [List.length_append] at lengths
          omega
        · exact List.append_cancel_left same

/-! ## Integers in files -/

/-- The file behind a path holds these bytes. -/
def Holds (os : Os σ) (sys : σ) (path : CStr) (bytes : List Char) : Prop :=
  os.openRead sys (resolvePath os.sysfsRoot path) = .ok ⟨bytes, none⟩

/-- The file behind a path holds the text of an integer. -/
def HoldsInt (os : Os σ) (sys : σ) (path : CStr) (value : Int) : Prop :=
  ∃ bytes parsed, Holds os sys path bytes ∧ strtoll (bufferText 64 bytes) = some parsed ∧
    parsed.outOfRange = false ∧ parsed.value = value

theorem openResolved_ok
    {os : Os σ} {sys : σ} {path : CStr} {file : OpenFile}
    (answer : os.openRead sys (resolvePath os.sysfsRoot path) = .ok file)
    (proc : Proc) :
    openResolved path os sys proc = (.value file, proc) :=
  (GetM.bind_value (sysCall_ok answer)).trans rfl

theorem openResolved_holds
    {os : Os σ} {sys : σ} {path : CStr} {bytes : List Char}
    (held : Holds os sys path bytes)
    (proc : Proc) :
    openResolved path os sys proc = (.value ⟨bytes, none⟩, proc) :=
  openResolved_ok held proc

theorem readFileString_holds
    {os : Os σ} {sys : σ} {path : CStr} {bytes : List Char}
    (held : Holds os sys path bytes)
    (size : Nat)
    (proc : Proc) :
    readFileString path size os sys proc = (.value (bufferText size bytes), proc) := by
  simp only [readFileString, GetM.bind_run, openResolved_holds held proc]
  rfl

theorem readFileI64_holds
    {os : Os σ} {sys : σ} {path : CStr} {value : Int}
    (held : HoldsInt os sys path value)
    (proc : Proc) :
    readFileI64 path os sys proc = (.value value, { proc with errno := 0 }) := by
  obtain ⟨bytes, parsed, contents, read, fits, rfl⟩ := held
  simp only [readFileI64, GetM.bind_run, readFileString_holds contents, setErrno, read, fits]
  rfl

/-- The printed form of a 64-bit integer is short. -/
theorem showInt_length
    {value : Int}
    (low : int64Min ≤ value)
    (high : value ≤ int64Max) :
    (showInt value).length ≤ 20 := by
  have digits : ∀ n : Nat, n < 10 ^ 19 → (showNat n).length ≤ 19 := by
    intro n small
    unfold showNat
    split
    · decide
    · simpa using (Nat.digits_length_le_iff (by decide) n).mpr small
  unfold int64Min at low
  unfold int64Max at high
  cases value with
  | ofNat n =>
      have := digits n (by simp only [Int.ofNat_eq_natCast] at high; omega)
      simp only [showInt]
      omega
  | negSucc n =>
      have := digits (n + 1) (by simp only [Int.negSucc_eq] at low; omega)
      simp only [showInt, List.length_cons]
      omega

/-- A printed integer has no NUL, no carriage return and no newline. -/
theorem showInt_plain
    (value : Int) :
    ∀ c ∈ showInt value, c ≠ '\x00' ∧ isCrLf c = false := by
  have digitsPlain : ∀ c, isDigit c = true → c ≠ '\x00' ∧ isCrLf c = false := by
    intro c digit
    refine ⟨?_, ?_⟩
    · rintro rfl
      exact absurd digit (by decide)
    · have plain := (digit_plain digit).1
      simp only [isSpace, Bool.or_eq_false_iff] at plain
      simp [isCrLf, plain.1.1.1.2, plain.2]
  cases value with
  | ofNat n =>
      exact fun c member => digitsPlain c ((showNat_digits n).2 c member)
  | negSucc n =>
      intro c member
      simp only [showInt, List.mem_cons] at member
      rcases member with rfl | member
      · decide
      · exact digitsPlain c ((showNat_digits (n + 1)).2 c member)

/-- The buffer a printed integer is read back into holds just that text. -/
theorem bufferText_showInt
    {value : Int}
    (low : int64Min ≤ value)
    (high : value ≤ int64Max)
    {newline : List Char}
    (ending : newline = [] ∨ newline = ['\n']) :
    bufferText 64 (showInt value ++ newline) = showInt value := by
  have plain := showInt_plain value
  have short := showInt_length low high
  have fits : (showInt value ++ newline).take 63 = showInt value ++ newline := by
    apply List.take_of_length_le
    rcases ending with rfl | rfl <;> simp <;> omega
  have stripped : (showInt value ++ newline).rdropWhile isCrLf = showInt value := by
    have bare : (showInt value).rdropWhile isCrLf = showInt value := by
      rw [List.rdropWhile_eq_self_iff]
      intro nonempty
      simp [(plain _ (List.getLast_mem nonempty)).2]
    rcases ending with rfl | rfl
    · rw [List.append_nil, bare]
    · rw [List.rdropWhile_concat_pos _ _ _ (by decide), bare]
  rw [bufferText, show 64 - 1 = 63 from rfl, fits, stripped, ofBuffer, List.takeWhile_eq_self_iff]
  intro c member
  simp [(plain c member).1]

/-- A file that holds a printed integer is read back as that integer. -/
theorem HoldsInt.of_printed
    {os : Os σ} {sys : σ} {path : CStr} {value : Int}
    (low : int64Min ≤ value)
    (high : value ≤ int64Max)
    {newline : List Char}
    (ending : newline = [] ∨ newline = ['\n'])
    (held : Holds os sys path (showInt value ++ newline)) :
    HoldsInt os sys path value :=
  ⟨_, _, held, by rw [bufferText_showInt low high ending, strtoll_showInt low high], rfl, rfl⟩

/-- The same answer to the open call holds the same integer. -/
theorem HoldsInt.of_same
    {os : Os σ} {sys later : σ} {path : CStr} {value : Int}
    (held : HoldsInt os sys path value)
    (same : os.openRead later (resolvePath os.sysfsRoot path) =
      os.openRead sys (resolvePath os.sysfsRoot path)) :
    HoldsInt os later path value := by
  obtain ⟨bytes, parsed, contents, rest⟩ := held
  exact ⟨bytes, parsed, same.trans contents, rest⟩

/-! ## A kernel that stores what is written -/

/-- Every file but the one named reads as before. -/
def SameFilesBut (os : Os σ) (path : CStr) (sys later : σ) : Prop :=
  (∀ other, other ≠ path → os.openRead later other = os.openRead sys other) ∧
    ∀ other mode, os.access later other mode = os.access sys other mode

/--
An attribute file that keeps an accepted write verbatim, up to the newline the
kernel prints after it, and that a refused write does not change.  The empty text
leads to no write at all, so nothing is said about it.
-/
structure Os.StoresVerbatim (os : Os σ) (path : CStr) : Prop where
  accepted : ∀ sys text, text ≠ [] → (os.writeFile sys path text).1 = .done →
    (∃ newline, (newline = [] ∨ newline = ['\n']) ∧
      os.openRead (os.writeFile sys path text).2 path = .ok ⟨text ++ newline, none⟩) ∧
    SameFilesBut os path sys (os.writeFile sys path text).2
  refused : ∀ sys text, (os.writeFile sys path text).1 ≠ .done →
    os.openRead (os.writeFile sys path text).2 = os.openRead sys ∧
      os.access (os.writeFile sys path text).2 = os.access sys

/-- What `zenctl__write_file_string` returns is decided by the write alone. -/
theorem writeFileString_run
    (os : Os σ) (sys : σ) (proc : Proc) (path value : CStr) :
    (writeFileString path value os sys proc).2.1 =
        (os.writeFile sys (resolvePath os.sysfsRoot path) value).2 ∧
      ((os.writeFile sys (resolvePath os.sysfsRoot path) value).1 = .done →
        (writeFileString path value os sys proc).1 = .value () ∧
          (writeFileString path value os sys proc).2.2 = proc) ∧
      ((os.writeFile sys (resolvePath os.sysfsRoot path) value).1 ≠ .done →
        (writeFileString path value os sys proc).1 = .failed) := by
  cases answer : (os.writeFile sys (resolvePath os.sysfsRoot path) value).1 with
  | done =>
      simp [writeFileString, SetM.bind_run, writeResolved, answer]
  | openFailed e | writeFailed e | closeFailed e =>
      simp only [writeFileString, SetM.bind_run, writeResolved, answer]
      exact ⟨rfl, nofun, fun _ => rfl⟩

end Zenctl
