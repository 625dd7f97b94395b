import Zenctl.LibIo

namespace Zenctl

open CString

/-!
# Reading back what was written

The domains read a setting after they set it through the four text helpers of
`io.c`.  The file in between is the kernel's: it keeps the text of a write that
succeeded, and an attribute file puts a newline after it.  The empty text leads
to no write: opening the file has emptied it when it is a regular one, and has
done nothing when it is an attribute.
-/

variable {σ : Type}

/-- After a successful write the file holds its text; the kernel may end it with a newline. -/
def Os.Keeps (os : Os σ) (file text : CStr) : Prop :=
  ∀ sys, (os.writeFile sys file text).1 = .done →
    ∃ newline, (newline = [] ∨ newline = ['\n']) ∧
      os.openRead (os.writeFile sys file text).2 file = .ok ⟨text ++ newline, none⟩

/-- The file holds what is written to it. -/
def Os.KeepsText (os : Os σ) (file : CStr) : Prop :=
  ∀ text, text ≠ [] → os.Keeps file text

/-- `zenctl__read_file_string`, its check of the buffer size included. -/
def readFileStringInto (path : CStr) (bufsize : Nat) : GetM σ CStr :=
  if bufsize = 0 then raise Err.einval "NULL path or buf" "zenctl__read_file_string"
  else readFileString path bufsize

/-! ## The file after a write -/

theorem writeFileString_holds
    {os : Os σ} {sys later : σ} {path text : CStr} {proc after : Proc}
    (keeps : os.Keeps (resolvePath os.sysfsRoot path) text)
    (wrote : writeFileString path text os sys proc = (.value (), later, after)) :
    ∃ newline, (newline = [] ∨ newline = ['\n']) ∧ Holds os later path (text ++ newline) := by
  obtain ⟨changed, _, refused⟩ := writeFileString_run os sys proc path text
  have done : (os.writeFile sys (resolvePath os.sysfsRoot path) text).1 = .done := by
    by_contra failed
    have answer := refused failed
    rw [wrote] at answer
    cases answer
  obtain ⟨newline, ending, contents⟩ := keeps sys done
  refine ⟨newline, ending, ?_⟩
  rw [wrote] at changed
  rw [Holds, show later = _ from changed]
  exact contents

/-! ## The text in the buffer -/

/-- The kernel's newline is stripped with the text's own. -/
theorem bufferText_written
    {text newline : CStr}
    (noNul : '\x00' ∉ text)
    (ending : newline = [] ∨ newline = ['\n'])
    (size : Nat) :
    bufferText size (text ++ newline) = (text.take (size - 1)).rdropWhile isCrLf := by
  have strips : ∀ c ∈ newline.take (size - 1 - text.length), isCrLf c = true := by
    intro c member
    have inNewline := List.mem_of_mem_take member
    rcases ending with rfl | rfl
    · simp at inNewline
    · simp only [List.mem_singleton] at inNewline
      subst c
      rfl
  unfold bufferText
  rw [List.take_append, rdropWhile_tail strips]
  apply ofBuffer_eq_self
  intro member
  have inPrefix := (List.rdropWhile_prefix isCrLf _).subset member
  exact noNul (List.mem_of_mem_take inPrefix)

/-- Nothing is lost of a text that fits and has no carriage return or newline at its end. -/
theorem stripped_eq_self_iff
    {size : Nat} (room : 0 < size) (text : CStr) :
    (text.take (size - 1)).rdropWhile isCrLf = text ↔
      text.length < size ∧ ∀ last ∈ text.getLast?, isCrLf last = false := by
  have solid : text.rdropWhile isCrLf = text ↔ ∀ last ∈ text.getLast?, isCrLf last = false := by
    rw [List.rdropWhile_eq_self_iff]
    constructor
    · intro keeps last member
      obtain ⟨nonempty, rfl⟩ := List.mem_getLast?_eq_getLast member
      simpa using keeps nonempty
    · intro keeps nonempty
      simp [keeps _ (List.getLast?_eq_some_getLast nonempty)]
  constructor
  · intro same
    have stripped := (List.rdropWhile_prefix isCrLf (l := text.take (size - 1))).length_le
    rw [same, List.length_take] at stripped
    rw [List.take_of_length_le (by omega)] at same
    exact ⟨by omega, solid.mp same⟩
  · rintro ⟨short, plain⟩
    rw [List.take_of_length_le (by omega)]
    exact solid.mpr plain

/-! ## What is read back -/

theorem readFileI64_written
    {os : Os σ} {sys later : σ} {path : CStr} {proc after : Proc}
    (keeps : os.KeepsText (resolvePath os.sysfsRoot path))
    (value : Int64Value)
    (wrote : writeFileI64 path value.1 os sys proc = (.value (), later, after))
    (next : Proc) :
    (readFileI64 path os later next).1 = .value value.1 := by
  have kept := keeps (showInt value.1) (showInt_ne_nil value.1)
  obtain ⟨newline, ending, held⟩ := writeFileString_holds kept wrote
  rw [readFileI64_holds (.of_printed value.2.1 value.2.2 ending held)]

theorem readFileStringInto_written
    {os : Os σ} {sys later : σ} {path text : CStr} {proc after : Proc}
    (keeps : os.Keeps (resolvePath os.sysfsRoot path) text)
    (noNul : '\x00' ∉ text)
    (wrote : writeFileString path text os sys proc = (.value (), later, after))
    (bufsize : Nat) (next : Proc) :
    (readFileStringInto path bufsize os later next).1 =
      if bufsize = 0 then .failed
      else .value ((text.take (bufsize - 1)).rdropWhile isCrLf) := by
  obtain ⟨newline, ending, held⟩ := writeFileString_holds keeps wrote
  unfold readFileStringInto
  split
  · rfl
  · rw [readFileString_holds held, bufferText_written noNul ending]

/--
What the helpers read from a file they wrote: an `int64_t` comes back as it was,
and a text without what does not fit the buffer and without the carriage returns
and newlines at its end, so exactly the short texts with none there come back as
they were.  The empty text is one of them where the file keeps it.
-/
theorem read_after_write
    {os : Os σ} {path : CStr}
    (keeps : os.KeepsText (resolvePath os.sysfsRoot path)) :
    (∀ (value : Int64Value) sys proc later after,
      writeFileI64 path value.1 os sys proc = (.value (), later, after) →
        ∀ next, (readFileI64 path os later next).1 = .value value.1) ∧
    ∀ text sys proc later after, '\x00' ∉ text →
      (text = [] → os.Keeps (resolvePath os.sysfsRoot path) text) →
      writeFileString path text os sys proc = (.value (), later, after) →
        ∀ bufsize next,
          ((readFileStringInto path bufsize os later next).1 =
            if bufsize = 0 then .failed
            else .value ((text.take (bufsize - 1)).rdropWhile isCrLf)) ∧
          ((readFileStringInto path bufsize os later next).1 = .value text ↔
            text.length < bufsize ∧ ∀ last ∈ text.getLast?, isCrLf last = false) := by
  refine ⟨fun value _ _ _ _ wrote next => readFileI64_written keeps value wrote next, ?_⟩
  intro text sys proc later after noNul empty wrote bufsize next
  have kept : os.Keeps (resolvePath os.sysfsRoot path) text := by
    by_cases nothing : text = []
    · exact empty nothing
    · exact keeps text nothing
  have read := readFileStringInto_written kept noNul wrote bufsize next
  refine ⟨read, ?_⟩
  rw [read]
  by_cases noRoom : bufsize = 0
  · simp [noRoom]
  · rw [if_neg noRoom, Outcome.value.injEq]
    exact stripped_eq_self_iff (by omega) text

/-- A machine with a single attribute; the empty text leaves it as it is. -/
def oneFileOs : Os (List Char) :=
  { bareOs with
    openRead := fun file _ => .ok ⟨file, none⟩
    writeFile := fun file _ text => (.done, if text = [] then file else text ++ ['\n']) }

/-- The smallest value, and a text that loses its ending in a buffer of six bytes. -/
theorem read_after_write_small :
    (readFileI64 "/f" oneFileOs "-9223372036854775808\n".toList freshProc).1 =
        .value (-9223372036854775808) ∧
      (readFileStringInto "/f" 6 oneFileOs "abc\r\ndef\n".toList freshProc).1 =
        .value "abc".toList := by
  have keeps : oneFileOs.KeepsText (resolvePath oneFileOs.sysfsRoot "/f") := by
    intro text written file _
    refine ⟨['\n'], .inr rfl, ?_⟩
    dsimp only [oneFileOs]
    rw [if_neg written]
  have result := read_after_write keeps
  refine ⟨result.1 ⟨-9223372036854775808, by decide⟩ [] freshProc _ freshProc (by rfl) freshProc, ?_⟩
  exact (result.2 "abc\r\ndef".toList [] freshProc _ freshProc (by decide)
    (fun nothing => nomatch nothing) (by rfl) 6 freshProc).1

end Zenctl
