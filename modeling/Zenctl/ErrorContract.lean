import Zenctl.Libzenctl

namespace Zenctl

open CString

/-!
# Reported failures

A call that fails has put one of the `ZENCTL_ERR_*` codes into the caller's
error record.  The rules below follow that through the programs of the library;
the few calls that can fail without a word are described after them.
-/

variable {σ α β : Type}

/-! ## Rules -/

/-- The program does not fail and leaves the error record alone. -/
def GetM.Quiet (program : GetM σ α) : Prop :=
  ∀ os sys proc, (program os sys proc).1 ≠ .failed ∧ (program os sys proc).2.err = proc.err

section Reading

/-- Nothing to report where nothing fails. -/
theorem GetM.Quiet.reports
    {program : GetM σ α} (quiet : program.Quiet) :
    program.Reports := by
  intro os sys proc sound
  obtain ⟨returns, kept⟩ := quiet os sys proc
  refine ⟨?_, fun failed => absurd failed returns⟩
  unfold Proc.Sound
  rwa [kept]

/-- A value is handed on without a word. -/
theorem GetM.Quiet.pure (value : α) :
    (Pure.pure value : GetM σ α).Quiet :=
  fun _ _ _ => ⟨nofun, rfl⟩

/-- Quiet steps one after the other. -/
theorem GetM.Quiet.bind
    {program : GetM σ α} {next : α → GetM σ β}
    (first : program.Quiet) (second : ∀ value, (next value).Quiet) :
    (program >>= next).Quiet := by
  intro os sys proc
  rw [GetM.bind_run]
  obtain ⟨returns, kept⟩ := first os sys proc
  rcases run : program os sys proc with ⟨value | _ | _, later⟩
  · rw [run] at kept
    obtain ⟨returnsLater, keptLater⟩ := second value os sys later
    exact ⟨returnsLater, keptLater.trans kept⟩
  · rw [run] at returns
    exact absurd rfl returns
  · rw [run] at kept
    exact ⟨nofun, kept⟩

/-- A choice between quiet programs. -/
theorem GetM.Quiet.ite
    {condition : Prop} [Decidable condition] {first second : GetM σ α}
    (yes : first.Quiet) (no : second.Quiet) :
    (if condition then first else second).Quiet := by
  split
  · exact yes
  · exact no

/-- Looking at the record. -/
theorem getErr_quiet : (getErr : GetM σ Err).Quiet :=
  fun _ _ _ => ⟨nofun, rfl⟩

/-- Looking at `errno`. -/
theorem getErrno_quiet : (getErrno : GetM σ Int).Quiet :=
  fun _ _ _ => ⟨nofun, rfl⟩

/-- `errno` is not the record. -/
theorem setErrno_quiet (e : Int) : (setErrno e : GetM σ Unit).Quiet :=
  fun _ _ _ => ⟨nofun, rfl⟩

/-- The text of an error number. -/
theorem strerror_quiet (e : Int) : (strerror e : GetM σ CStr).Quiet :=
  fun _ _ _ => ⟨nofun, rfl⟩

/-- A call that never returns reports nothing either. -/
theorem block_quiet : (block : GetM σ α).Quiet :=
  fun _ _ _ => ⟨nofun, rfl⟩

/-- A failed system call sets `errno`; the caller must see to the record. -/
theorem sysCall_quiet (call : Os σ → σ → Except Errno α) :
    (sysCall call).Quiet := by
  intro os sys proc
  unfold sysCall
  cases call os sys with
  | ok result => exact ⟨nofun, rfl⟩
  | error e => exact ⟨nofun, rfl⟩

/-- `malloc` returns `NULL`; again the caller must see to the record. -/
theorem allocate_quiet : (allocate : GetM σ Bool).Quiet := by
  intro os sys proc
  unfold allocate
  split
  · exact ⟨nofun, rfl⟩
  · exact ⟨nofun, rfl⟩
  · exact ⟨nofun, rfl⟩

/-- With `NULL` for `err` nothing can be reported. -/
theorem quietly_quiet (program : GetM σ α) : (quietly program).Quiet := by
  intro os sys proc
  unfold quietly attempt
  rcases program os sys proc with ⟨value | _ | _, later⟩
  · exact ⟨nofun, rfl⟩
  · exact ⟨nofun, rfl⟩
  · exact ⟨nofun, rfl⟩

/-- A value is no failure. -/
theorem GetM.Reports.pure (value : α) :
    (Pure.pure value : GetM σ α).Reports :=
  (GetM.Quiet.pure value).reports

/-- The failure of the whole is that of one of its steps. -/
theorem GetM.Reports.bind
    {program : GetM σ α} {next : α → GetM σ β}
    (first : program.Reports) (second : ∀ value, (next value).Reports) :
    (program >>= next).Reports := by
  intro os sys proc sound
  rw [GetM.bind_run]
  obtain ⟨soundLater, reported⟩ := first os sys proc sound
  rcases run : program os sys proc with ⟨value | _ | _, later⟩
  · rw [run] at soundLater
    exact second value os sys later soundLater
  · rw [run] at soundLater reported
    exact ⟨soundLater, fun _ => reported rfl⟩
  · rw [run] at soundLater
    exact ⟨soundLater, nofun⟩

/-- A choice between reporting programs. -/
theorem GetM.Reports.ite
    {condition : Prop} [Decidable condition] {first second : GetM σ α}
    (yes : first.Reports) (no : second.Reports) :
    (if condition then first else second).Reports := by
  split
  · exact yes
  · exact no

/-- `zenctl_err_set` with one of the codes 1 to 8. -/
theorem GetM.Reports.raise
    {code : Int} (low : 1 ≤ code) (high : code ≤ 8) (message context : CStr) :
    (Zenctl.raise code message context : GetM σ α).Reports :=
  fun _ _ _ _ => ⟨⟨Int.le_trans (by decide) low, high⟩, fun _ => ⟨low, high⟩⟩

/-- The same of a program started where something is known of the process. -/
def GetM.ReportsFrom (start : Proc → Prop) (program : GetM σ α) : Prop :=
  ∀ os sys proc, proc.Sound → start proc →
    (program os sys proc).2.Sound ∧
      ((program os sys proc).1 = .failed → (program os sys proc).2.Reported)

/-- What reports from any process reports from this one. -/
theorem GetM.Reports.from
    {program : GetM σ α} (reports : program.Reports) (start : Proc → Prop) :
    program.ReportsFrom start :=
  fun os sys proc sound _ => reports os sys proc sound

/-- A choice, both sides of which start from the same knowledge. -/
theorem GetM.ReportsFrom.ite
    {start : Proc → Prop} {condition : Prop} [Decidable condition] {first second : GetM σ α}
    (yes : first.ReportsFrom start) (no : second.ReportsFrom start) :
    (if condition then first else second).ReportsFrom start := by
  split
  · exact yes
  · exact no

/-- After a look at `errno` its value is known. -/
theorem GetM.ReportsFrom.getErrno
    {start : Proc → Prop} {next : Int → GetM σ α}
    (goesOn : ∀ e, (next e).ReportsFrom fun proc => start proc ∧ proc.errno = e) :
    (Zenctl.getErrno >>= next).ReportsFrom start :=
  fun os sys proc sound started => goesOn proc.errno os sys proc sound ⟨started, rfl⟩

/-- `errno` zero is the one that is reported as no error. -/
theorem raiseErrno_from (message : Option CStr) (context : CStr) :
    (raiseErrno message context : GetM σ α).ReportsFrom (·.errno ≠ 0) := by
  intro os sys proc _ nonzero
  obtain ⟨low, high, zero⟩ := errnoToCode_bounds proc.errno
  have positive : 1 ≤ errnoToCode proc.errno := by
    have nonzero : errnoToCode proc.errno ≠ 0 := fun ok => nonzero (zero.mp ok)
    omega
  exact GetM.Reports.raise positive high _ context os sys proc ‹_›

/-- A record that holds an error is left alone, an empty one is filled. -/
theorem reports_unless_filled
    {program : GetM σ α} (reports : program.Reports) :
    (getErr >>= fun err => if err.code = Err.ok then program else fail : GetM σ α).Reports := by
  intro os sys proc sound
  change ((if proc.err.code = Err.ok then program else fail) os sys proc).2.Sound ∧
    (((if proc.err.code = Err.ok then program else fail) os sys proc).1 = .failed →
      ((if proc.err.code = Err.ok then program else fail) os sys proc).2.Reported)
  by_cases empty : proc.err.code = Err.ok
  · rw [if_pos empty]
    exact reports os sys proc sound
  · rw [if_neg empty]
    have filled : proc.err.code ≠ 0 := empty
    refine ⟨sound, fun _ => ⟨?_, sound.2⟩⟩
    have nonneg : 0 ≤ proc.err.code := sound.1
    change 1 ≤ proc.err.code
    omega

/-- A caught failure is none, but it may have filled the record. -/
theorem GetM.Reports.attempt
    {program : GetM σ α} (reports : program.Reports) :
    (Zenctl.attempt program).Reports := by
  intro os sys proc sound
  obtain ⟨soundLater, _⟩ := reports os sys proc sound
  unfold Zenctl.attempt
  rcases run : program os sys proc with ⟨value | _ | _, later⟩
  · rw [run] at soundLater
    exact ⟨soundLater, nofun⟩
  · rw [run] at soundLater
    exact ⟨soundLater, nofun⟩
  · rw [run] at soundLater
    exact ⟨soundLater, nofun⟩

/--
A function that returns `-1` with `errno` set, here `none`.  It is silent where
it leaves `errno` at zero.
-/
def GetM.SetsErrno (program : GetM σ (Option α)) (silent : Os σ → σ → Proc → Prop) : Prop :=
  program.Quiet ∧ ∀ os sys proc,
    (program os sys proc).1 = .value none ∧ (program os sys proc).2.errno = 0 ↔ silent os sys proc

/-- No silent failure. -/
def never : Os σ → σ → Proc → Prop := fun _ _ _ => False

/-- A failed system call never leaves `errno` at zero. -/
theorem sysCall_setsErrno (call : Os σ → σ → Except Errno α) :
    (sysCall call).SetsErrno never := by
  refine ⟨sysCall_quiet call, fun os sys proc => iff_false_intro ?_⟩
  unfold sysCall
  cases call os sys with
  | ok result => exact fun silent => nomatch silent.1
  | error e => exact fun silent => absurd silent.2 (Int.ne_of_gt e.2)

/-- The answer of such a function decides how the caller goes on. -/
theorem GetM.SetsErrno.reports
    {program : GetM σ (Option α)} (sets : program.SetsErrno never)
    {next : Option α → GetM σ β} (found : ∀ value, (next (some value)).Reports)
    (missed : (next none).ReportsFrom (·.errno ≠ 0)) :
    (program >>= next).Reports := by
  intro os sys proc sound
  obtain ⟨returns, kept⟩ := sets.1 os sys proc
  have loud := sets.2 os sys proc
  rw [GetM.bind_run]
  rcases run : program os sys proc with ⟨(_ | value) | _ | _, later⟩
  · rw [run] at kept loud
    have soundLater : later.Sound := by
      unfold Proc.Sound
      rwa [kept]
    exact missed os sys later soundLater fun zero => loud.mp ⟨rfl, zero⟩
  · rw [run] at kept
    have soundLater : later.Sound := by
      unfold Proc.Sound
      rwa [kept]
    exact found value os sys later soundLater
  · rw [run] at returns
    exact absurd rfl returns
  · rw [run] at kept
    refine ⟨?_, nofun⟩
    unfold Proc.Sound
    rwa [kept]

end Reading

section Changing

/-- A reading program, among the changing ones. -/
theorem SetM.Reports.getting
    {program : GetM σ α} (reports : program.Reports) :
    (Zenctl.getting program).Reports :=
  fun os sys proc sound => reports os sys proc sound

/-- A value is no failure. -/
theorem SetM.Reports.pure (value : α) :
    (Pure.pure value : SetM σ α).Reports :=
  fun _ _ _ sound => ⟨sound, nofun⟩

/-- The failure of the whole is that of one of its steps. -/
theorem SetM.Reports.bind
    {program : SetM σ α} {next : α → SetM σ β}
    (first : program.Reports) (second : ∀ value, (next value).Reports) :
    (program >>= next).Reports := by
  intro os sys proc sound
  rw [SetM.bind_run]
  obtain ⟨soundLater, reported⟩ := first os sys proc sound
  rcases run : program os sys proc with ⟨value | _ | _, changed, later⟩
  · rw [run] at soundLater
    exact second value os changed later soundLater
  · rw [run] at soundLater reported
    exact ⟨soundLater, fun _ => reported rfl⟩
  · rw [run] at soundLater
    exact ⟨soundLater, nofun⟩

/-- A reading program goes first. -/
theorem SetM.Reports.after
    {program : GetM σ α} {next : α → SetM σ β}
    (first : program.Reports) (second : ∀ value, (next value).Reports) :
    (Zenctl.getting program >>= next).Reports :=
  .bind (.getting first) second

/-- A choice between reporting programs. -/
theorem SetM.Reports.ite
    {condition : Prop} [Decidable condition] {first second : SetM σ α}
    (yes : first.Reports) (no : second.Reports) :
    (if condition then first else second).Reports := by
  split
  · exact yes
  · exact no

/-- A program that does not fail and leaves the error record alone. -/
theorem SetM.Reports.quiet
    {program : SetM σ α}
    (quiet : ∀ os sys proc,
      (program os sys proc).1 ≠ .failed ∧ (program os sys proc).2.2.err = proc.err) :
    program.Reports := by
  intro os sys proc sound
  obtain ⟨returns, kept⟩ := quiet os sys proc
  refine ⟨?_, fun failed => absurd failed returns⟩
  unfold Proc.Sound
  rwa [kept]

/-- A setter called with `NULL` for `err`. -/
theorem quietlySet_reports (program : SetM σ α) :
    (quietlySet program).Reports := by
  refine .quiet fun os sys proc => ?_
  unfold quietlySet attemptSet
  rcases program os sys proc with ⟨value | _ | _, changed, later⟩
  · exact ⟨nofun, rfl⟩
  · exact ⟨nofun, rfl⟩
  · exact ⟨nofun, rfl⟩

@[inherit_doc GetM.ReportsFrom]
def SetM.ReportsFrom (start : Proc → Prop) (program : SetM σ α) : Prop :=
  ∀ os sys proc, proc.Sound → start proc →
    (program os sys proc).2.2.Sound ∧
      ((program os sys proc).1 = .failed → (program os sys proc).2.2.Reported)

/-- A reading program, among the changing ones. -/
theorem SetM.ReportsFrom.getting
    {start : Proc → Prop} {program : GetM σ α} (reports : program.ReportsFrom start) :
    (Zenctl.getting program).ReportsFrom start :=
  fun os sys proc sound started => reports os sys proc sound started

/-- A look at `errno` takes nothing from what is known. -/
theorem SetM.ReportsFrom.getErrno
    {start : Proc → Prop} {next : Int → SetM σ α}
    (goesOn : ∀ e, (next e).ReportsFrom start) :
    (Zenctl.getting Zenctl.getErrno >>= next).ReportsFrom start :=
  fun os sys proc sound started => goesOn proc.errno os sys proc sound started

/-- The second side needs none of what is known at the start. -/
theorem SetM.ReportsFrom.ite
    {start : Proc → Prop} {condition : Prop} [Decidable condition] {first second : SetM σ α}
    (yes : first.ReportsFrom start) (no : second.Reports) :
    (if condition then first else second).ReportsFrom start := by
  split
  · exact yes
  · exact fun os sys proc sound _ => no os sys proc sound

/-- A changing system call that fails sets `errno`. -/
theorem sysSet_reports
    {call : Os σ → σ → Except Errno α × σ} {next : Option α → SetM σ β}
    (found : ∀ value, (next (some value)).Reports)
    (missed : (next none).ReportsFrom (·.errno ≠ 0)) :
    (sysSet call >>= next).Reports := by
  intro os sys proc sound
  rw [SetM.bind_run]
  unfold sysSet
  rcases call os sys with ⟨e | value, changed⟩
  · exact missed os changed { proc with errno := e.1 } sound (Int.ne_of_gt e.2)
  · exact found value os changed proc sound

end Changing

/-! ## `io.c` -/

section Io

/-- `zenctl_err_set(err, zenctl_errno_to_code(e), ..)` for an `errno` that was set. -/
theorem raiseOf_errno (e : Errno) (message context : CStr) :
    (raise (errnoToCode e.1) message context : GetM σ α).Reports :=
  .raise (errnoToCode_errno e).1 (errnoToCode_errno e).2 message context

/-- `if (call < 0) return zenctl_err_set_errno(..)`. -/
theorem sysCallOr_reports
    (call : Os σ → σ → Except Errno α) (message : Option CStr) (context : CStr) :
    (sysCallOr call message context).Reports :=
  (sysCall_setsErrno call).reports (fun value => .pure value) (raiseErrno_from message context)

/-- `if (!p) return zenctl_err_set(err, ZENCTL_ERR_ENOMEM, ..)`. -/
theorem allocateOr_reports (message context : CStr) :
    (allocateOr message context : GetM σ Unit).Reports :=
  .bind allocate_quiet.reports fun _ =>
    .ite (.pure ()) (.raise (by decide) (by decide) message context)

/-- Both the open and the read are followed by a report. -/
theorem readFileString_reports (path : CStr) (size : Nat) :
    (readFileString path size : GetM σ CStr).Reports := by
  refine .bind (sysCallOr_reports _ _ _) fun file => ?_
  split
  · exact .ite (.bind (setErrno_quiet _).reports fun _ => raiseOf_errno _ _ _) (.pure _)
  · exact .pure _

/-- A text that is no number, or one out of range, is reported too. -/
theorem readFileI64_reports (path : CStr) :
    (readFileI64 path : GetM σ Int).Reports := by
  refine .bind (readFileString_reports _ _) fun text => .bind (setErrno_quiet _).reports fun _ => ?_
  split
  · exact .ite (.bind (setErrno_quiet _).reports fun _ => .raise (by decide) (by decide) _ _) (.pure _)
  · exact .raise (by decide) (by decide) _ _

/-- Each of the three calls of a write has its own report. -/
theorem writeFileString_reports (path value : CStr) :
    (writeFileString path value : SetM σ Unit).Reports := by
  refine .bind (.quiet fun _ _ _ => ⟨nofun, rfl⟩) fun written => ?_
  cases written with
  | done => exact .pure ()
  | openFailed e =>
      refine .getting fun os sys proc sound => ?_
      exact raiseErrno_from none path os sys { proc with errno := e.1 } sound (Int.ne_of_gt e.2)
  | writeFailed e =>
      exact .getting (.bind (setErrno_quiet _).reports fun _ => raiseOf_errno e _ _)
  | closeFailed e =>
      exact .getting (.bind (setErrno_quiet _).reports fun _ => raiseOf_errno e _ _)

/-- A `realloc` that fails ends the loop with a report. -/
theorem growBuffer_reports (path : CStr) (length rounds capacity : Nat) :
    (growBuffer path length rounds capacity : GetM σ Unit).Reports := by
  induction rounds generalizing capacity with
  | zero => exact .pure ()
  | succ rounds inductionHypothesis =>
      exact .ite (.pure ()) (.bind (allocateOr_reports _ _) fun _ => inductionHypothesis _)

/-- The last `realloc` only shrinks the buffer, and its failure is no error. -/
theorem readFileBinary_reports (path : CStr) :
    (readFileBinary path : GetM σ (List Char)).Reports := by
  refine .bind (sysCallOr_reports _ _ _) fun file => .bind (allocateOr_reports _ _) fun _ =>
    .bind (growBuffer_reports _ _ _ _) fun _ => ?_
  split
  · exact .bind (setErrno_quiet _).reports fun _ => raiseOf_errno _ _ _
  · exact .bind allocate_quiet.reports fun _ => .pure _

/-- A file delivered as a copy of its text. -/
theorem readCopy_reports (path : CStr) (size : Nat) :
    (readCopy path size : GetM σ CStr).Reports :=
  .bind (readFileString_reports _ _) fun _ => .bind (allocateOr_reports _ _) fun _ => .pure _

/-- The same, without the white space at the end. -/
theorem readStringAlloc_reports (path : CStr) :
    (readStringAlloc path : GetM σ CStr).Reports :=
  .bind (readFileString_reports _ _) fun _ => .bind (allocateOr_reports _ _) fun _ => .pure _

/-- An integer handed on as something else. -/
theorem readInt_reports (path : CStr) (deliver : Int → α) :
    (readFileI64 path >>= fun v => pure (deliver v) : GetM σ α).Reports :=
  .bind (readFileI64_reports path) fun _ => .pure _

end Io

/-! ## CPU and memory -/

section CpuAndMemory

/-- A CPU without a directory is reported by `stat`. -/
theorem cpuOpen_reports (index : Int) :
    (zenctlCpuOpen index : GetM σ CpuHandle).Reports :=
  .ite (.raise (by decide) (by decide) _ _)
    (.bind (sysCallOr_reports _ _ _) fun _ => .bind (allocateOr_reports _ _) fun _ => .pure _)

/-- A governor that cannot be read. -/
theorem cpuGetGovernor_reports (cpu : CpuHandle) :
    (zenctlCpuGetGovernor cpu : GetM σ CStr).Reports :=
  .bind (readFileString_reports _ _) fun _ => .bind (allocateOr_reports _ _) fun _ => .pure _

/-- An unlisted governor is refused before it is written. -/
theorem cpuSetGovernor_reports (cpu : CpuHandle) (governor : CStr) :
    (zenctlCpuSetGovernor cpu governor : SetM σ Unit).Reports :=
  .ite (.getting (.raise (by decide) (by decide) _ _))
    (.after (readFileString_reports _ _) fun _ =>
      .ite (writeFileString_reports _ _) (.getting (.raise (by decide) (by decide) _ _)))

/-- The limits are read first, and a frequency outside them is refused. -/
theorem checkHardwareRange_reports (cpu : CpuHandle) (hz : Int) (caller : CStr) :
    (checkHardwareRange cpu hz caller : GetM σ Int).Reports :=
  .ite (.raise (by decide) (by decide) _ _)
    (.bind (readFileI64_reports _) fun _ => .bind (readFileI64_reports _) fun _ =>
      .ite (.raise (by decide) (by decide) _ _)
        (.ite (.raise (by decide) (by decide) _ _) (.pure _)))

/-- The minimum may not pass the maximum. -/
theorem cpuSetFreqMin_reports (cpu : CpuHandle) (hz : Int) :
    (zenctlCpuSetFreqMin cpu hz : SetM σ Unit).Reports :=
  .after (checkHardwareRange_reports _ _ _) fun _ => .after (readFileI64_reports _) fun _ =>
    .ite (.getting (.raise (by decide) (by decide) _ _)) (writeFileString_reports _ _)

/-- The maximum may not fall below the minimum. -/
theorem cpuSetFreqMax_reports (cpu : CpuHandle) (hz : Int) :
    (zenctlCpuSetFreqMax cpu hz : SetM σ Unit).Reports :=
  .after (checkHardwareRange_reports _ _ _) fun _ => .after (readFileI64_reports _) fun _ =>
    .ite (.getting (.raise (by decide) (by decide) _ _)) (writeFileString_reports _ _)

/-- Any text is a state of the switch. -/
theorem readSwitch_reports (path : CStr) :
    (readSwitch path : GetM σ Bool).Reports :=
  .bind (readFileString_reports _ _) fun _ => .pure _

/-- A `/proc/meminfo` without the line is reported. -/
theorem memGetHugepageSize_reports :
    (zenctlMemGetHugepageSize : GetM σ Int).Reports :=
  .bind (sysCallOr_reports _ _ _) fun _ =>
    .ite (.raise (by decide) (by decide) _ _) (.pure _)

/-- A page size of zero or less is refused. -/
theorem hugepagesPath_reports (sizeKb : Int) (attr : CStr) :
    (hugepagesPath sizeKb attr : GetM σ CStr).Reports :=
  .ite (.raise (by decide) (by decide) _ _) (.pure _)

/-- Brackets that are missing, or around an unknown word. -/
theorem memGetThp_reports :
    (zenctlMemGetThp : GetM σ ThpMode).Reports := by
  refine .bind (readFileString_reports _ _) fun text => ?_
  split
  · exact .raise (by decide) (by decide) _ _
  · exact .ite (.pure _) (.ite (.pure _) (.ite (.pure _) (.raise (by decide) (by decide) _ _)))

/-- A kernel without NUMA has no such directory, and that is no error. -/
theorem memNumaNodeCount_reports :
    (zenctlMemNumaNodeCount : GetM σ Int).Reports :=
  (sysCall_setsErrno _).reports (fun _ => .pure _)
    (.getErrno fun _ => .ite ((GetM.Reports.pure _).from _) fun os sys proc sound started =>
      raiseErrno_from none nodeDir os sys proc sound started.1)

/-- The list of CPUs may be missing; the directory and its `meminfo` may not. -/
theorem memNumaGetNode_reports (nodeId : Int) :
    (zenctlMemNumaGetNode nodeId : GetM σ NumaNode).Reports :=
  .ite (.raise (by decide) (by decide) _ _)
    (.bind (sysCallOr_reports _ _ _) fun _ => .bind (sysCallOr_reports _ _ _) fun _ =>
      .bind (quietly_quiet _).reports fun _ => .pure _)

/-- A number that is checked and then written. -/
theorem checkedWrite_reports
    {condition : Prop} [Decidable condition] {code : Int} (low : 1 ≤ code) (high : code ≤ 8)
    (message context path value : CStr) :
    (if condition then getting (raise code message context)
      else writeFileString path value : SetM σ Unit).Reports :=
  .ite (.getting (.raise low high _ _)) (writeFileString_reports _ _)

end CpuAndMemory

/-! ## Storage, network and PCI -/

section Devices

/-- The name is checked before the directory is looked for. -/
theorem storageOpen_reports (name : CStr) :
    (zenctlStorageOpen name : GetM σ StorageHandle).Reports :=
  .bind (.ite (.raise (by decide) (by decide) _ _) (.ite (.raise (by decide) (by decide) _ _)
      (.ite (.raise (by decide) (by decide) _ _) (.pure ())))) fun _ =>
    .bind (sysCallOr_reports _ _ _) fun _ => .bind (allocateOr_reports _ _) fun _ => .pure _

/-- No brackets, or none that close. -/
theorem storageGetScheduler_reports (st : StorageHandle) :
    (zenctlStorageGetScheduler st : GetM σ CStr).Reports := by
  refine .bind (readFileString_reports _ _) fun text => ?_
  split
  · exact .raise (by decide) (by decide) _ _
  · exact .ite (.bind (allocateOr_reports _ _) fun _ => .pure _)
      (.raise (by decide) (by decide) _ _)

/-- A name that is empty, too long, or more than one word is refused. -/
theorem storageSetScheduler_reports (st : StorageHandle) (scheduler : CStr) :
    (zenctlStorageSetScheduler st scheduler : SetM σ Unit).Reports :=
  .ite (.getting (.raise (by decide) (by decide) _ _))
    (checkedWrite_reports (by decide) (by decide) _ _ _ _)

/-- An integer that must lie between two bounds. -/
theorem readRanged_reports (path : CStr) (low high : Int) (message : CStr) :
    (readRanged path low high message : GetM σ Int).Reports :=
  .bind (readFileI64_reports _) fun _ => .ite (.raise (by decide) (by decide) _ _) (.pure _)

/-- The second file is read only when the first cannot be. -/
theorem storageGetCacheType_reports (st : StorageHandle) :
    (zenctlStorageGetCacheType st : GetM σ CacheType).Reports := by
  refine .bind (quietly_quiet _).reports fun text => ?_
  cases text with
  | some text =>
      dsimp only
      split
      · exact .pure _
      · exact .raise (by decide) (by decide) _ _
  | none =>
      refine .bind (readFileString_reports _ _) fun text => ?_
      split
      · exact .pure _
      · exact .raise (by decide) (by decide) _ _

/-- Only the failure of the second file counts. -/
theorem storageSetCacheType_reports (st : StorageHandle) (type : CacheType) :
    (zenctlStorageSetCacheType st type : SetM σ Unit).Reports := by
  refine .bind (quietlySet_reports _) fun written => ?_
  cases written with
  | some _ => exact .pure ()
  | none => exact writeFileString_reports _ _

/-- `on` and `auto` are written, everything else is refused. -/
theorem writePowerControl_reports (path mode caller : CStr) :
    (writePowerControl path mode caller : SetM σ Unit).Reports :=
  checkedWrite_reports (by decide) (by decide) _ _ _ _

/-- A handle without a socket still opens. -/
theorem netOpen_reports (iface : CStr) :
    (zenctlNetOpen iface : GetM σ NetHandle).Reports := by
  refine .bind (.ite (.raise (by decide) (by decide) _ _) (.ite (.raise (by decide) (by decide) _ _)
      (.ite (.raise (by decide) (by decide) _ _) (.pure ())))) fun _ =>
    .bind (sysCallOr_reports _ _ _) fun _ => .bind (allocateOr_reports _ _) fun _ =>
    .bind (sysCall_quiet _).reports fun socket => ?_
  cases socket with
  | some _ => exact .pure _
  | none =>
      -- the record is filled although the call succeeds
      refine .bind getErrno_quiet.reports fun e => .bind (strerror_quiet _).reports fun text =>
        .bind (fun _ _ _ _ => ⟨?_, nofun⟩) fun _ => .pure _
      change 0 ≤ (if e = Errno.eacces.1 then Err.eperm else Err.eio) ∧
        (if e = Errno.eacces.1 then Err.eperm else Err.eio) ≤ 8
      split <;> decide

/-- Whatever `errno` is, one of the codes is chosen. -/
theorem ethtoolFailed_reports :
    (ethtoolFailed : GetM σ α).Reports := by
  refine .bind getErrno_quiet.reports fun e => .bind (strerror_quiet _).reports fun text => ?_
  have known : 1 ≤ ethtoolCode e ∧ ethtoolCode e ≤ 8 := by
    unfold ethtoolCode
    split_ifs <;> decide
  exact .raise known.1 known.2 _ _

/-- No socket, or an `ioctl` that fails. -/
theorem netEthtoolGet_reports (net : NetHandle) (call : Os σ → σ → Except Errno α) :
    (netEthtoolGet net call).Reports := by
  refine .ite (.bind (sysCall_quiet _).reports fun answer => ?_) (.raise (by decide) (by decide) _ _)
  cases answer with
  | some result => exact .pure result
  | none => exact ethtoolFailed_reports

/-- No socket, or an `ioctl` that fails. -/
theorem netEthtoolSet_reports (net : NetHandle) (call : Os σ → σ → Except Errno Unit × σ) :
    (netEthtoolSet net call).Reports :=
  .ite (sysSet_reports (fun _ => .pure ()) (.getting (ethtoolFailed_reports.from _)))
    (.getting (.raise (by decide) (by decide) _ _))

/-- One field of the answered ring parameters. -/
theorem getRing_reports (net : NetHandle) (field : RingParams → Nat) :
    (getRing net field : GetM σ Int).Reports :=
  .bind (netEthtoolGet_reports net _) fun _ => .pure _

/-- The parameters are asked for before they are set. -/
theorem setRing_reports
    (net : NetHandle) (size : Int) (change : RingParams → RingParams) (caller : CStr) :
    (setRing net size change caller : SetM σ Unit).Reports :=
  .ite (.getting (.raise (by decide) (by decide) _ _))
    (.after (netEthtoolGet_reports net _) fun _ => netEthtoolSet_reports net _)

/-- An interrupt number that is negative or too large is refused. -/
theorem netIrqPath_reports (net : NetHandle) (suffix : CStr) :
    (netIrqPath net suffix : GetM σ CStr).Reports :=
  .bind (readRanged_reports _ _ _ _) fun _ => .pure _

/-- The mask is checked before the interrupt is looked for. -/
theorem netSetIrqAffinity_reports (net : NetHandle) (mask : CStr) :
    (zenctlNetSetIrqAffinity net mask : SetM σ Unit).Reports :=
  .ite (.getting (.raise (by decide) (by decide) _ _))
    (.ite (.getting (.raise (by decide) (by decide) _ _))
      (.after (netIrqPath_reports _ _) fun _ => writeFileString_reports _ _))

/-- The address is checked before the directory is looked for. -/
theorem pcieOpen_reports (addr : CStr) :
    (zenctlPcieOpen addr : GetM σ PcieHandle).Reports :=
  .bind (.ite (.raise (by decide) (by decide) _ _) (.ite (.raise (by decide) (by decide) _ _)
      (.ite (.pure ()) (.raise (by decide) (by decide) _ _)))) fun _ =>
    .bind (sysCallOr_reports _ _ _) fun _ => .bind (allocateOr_reports _ _) fun _ => .pure _

/-- An identifier that is no hexadecimal number. -/
theorem readPciId_reports (path : CStr) :
    (readPciId path : GetM σ Int).Reports := by
  refine .bind (.bind (readFileString_reports _ _) fun text =>
    .bind (setErrno_quiet _).reports fun _ => ?_) fun _ => .pure _
  split
  · exact .ite (.bind (setErrno_quiet _).reports fun _ => .raise (by decide) (by decide) _ _) (.pure _)
  · exact .raise (by decide) (by decide) _ _

/-- One of the four policies, or an error. -/
theorem pcieSetAspmPolicy_reports (policy : CStr) :
    (zenctlPcieSetAspmPolicy policy : SetM σ Unit).Reports :=
  .ite (.getting (.raise (by decide) (by decide) _ _))
    (.ite (writeFileString_reports _ _) (.getting (.raise (by decide) (by decide) _ _)))

/-- A link that is missing, and one that ends in no number. -/
theorem pcieGetIommuGroup_reports (p : PcieHandle) :
    (zenctlPcieGetIommuGroup p : GetM σ Int).Reports := by
  refine (sysCall_setsErrno _).reports (fun target => ?_) (.getErrno fun e => .ite
    ((GetM.Reports.raise (by decide) (by decide) _ _).from _) fun os sys proc sound started =>
      raiseErrno_from none _ os sys proc sound started.1)
  refine .ite (.raise (by decide) (by decide) _ _) ?_
  split
  · exact .ite (.raise (by decide) (by decide) _ _)
      (.ite (.raise (by decide) (by decide) _ _) (.pure _))
  · exact .raise (by decide) (by decide) _ _

end Devices

/-! ## Thermal zones and GPUs -/

section Sensors

/-- The link is read, then copied. -/
theorem readlinkBasename_reports (link : CStr) :
    (readlinkBasename link : GetM σ CStr).Reports :=
  .bind (sysCallOr_reports _ _ _) fun _ => .bind (allocateOr_reports _ _) fun _ => .pure _

/-- A count is not negative, so the branch that returns without a report is dead. -/
theorem countDirEntries_reports (dir start : CStr) :
    (countDirEntries dir start >>= fun n => if n < 0 then fail else pure n : GetM σ Int).Reports := by
  intro os sys proc sound
  obtain ⟨soundLater, reported⟩ := sysCallOr_reports (fun os sys => os.listDir sys dir) none dir os
    sys proc sound
  rw [GetM.bind_run]
  unfold countDirEntries
  rw [GetM.bind_run]
  rcases run : sysCallOr (fun os sys => os.listDir sys dir) none dir os sys proc with
    ⟨names | _ | _, later⟩
  · rw [run] at soundLater
    have counted : ¬((names.filter (isNumbered start)).length : Int) < 0 := by omega
    change ((if ((names.filter (isNumbered start)).length : Int) < 0 then fail
      else pure _ : GetM σ Int) os sys later).2.Sound ∧ _
    rw [if_neg counted]
    refine ⟨soundLater, fun failed => ?_⟩
    dsimp only [GetM.pure_run] at failed
    rw [if_neg counted] at failed
    cases failed
  · rw [run] at soundLater reported
    exact ⟨soundLater, fun _ => reported rfl⟩
  · rw [run] at soundLater
    exact ⟨soundLater, nofun⟩

/-- A type that cannot be read leaves its own report. -/
theorem thermalOpen_reports (zone : CStr) :
    (zenctlThermalOpen zone : GetM σ ThermalHandle).Reports := by
  refine .ite (.bind (readFileString_reports _ _).attempt fun found => ?_)
    (.raise (by decide) (by decide) _ _)
  cases found with
  | none => exact reports_unless_filled (.raise (by decide) (by decide) _ _)
  | some _ =>
      exact .bind (allocateOr_reports _ _) fun _ => .bind allocate_quiet.reports fun _ =>
        .bind allocate_quiet.reports fun _ => .ite (.pure _) (.raise (by decide) (by decide) _ _)

/-- The loop either finds a missing trip point or does not end. -/
theorem countTrips_quiet (tz : ThermalHandle) (rounds : Nat) (count : Int) :
    (countTrips tz rounds count : GetM σ Int).Quiet := by
  induction rounds generalizing count with
  | zero => exact block_quiet
  | succ rounds inductionHypothesis =>
      refine .bind (sysCall_quiet _) fun present => ?_
      cases present with
      | some _ => exact inductionHypothesis _
      | none => exact .pure _

/-- The record is cleared first, and a missing file is then no error. -/
theorem readHysteresis_reports (path : CStr) :
    (readHysteresis path : GetM σ Int).Reports := by
  intro os sys proc sound
  have clean : ({ proc with err := Err.zero } : Proc).Sound :=
    ⟨show (0 : Int) ≤ 0 by decide, show (0 : Int) ≤ 8 by decide⟩
  obtain ⟨soundLater, reported⟩ := readFileI64_reports path os sys { proc with err := Err.zero } clean
  unfold readHysteresis
  rcases run : readFileI64 path os sys { proc with err := Err.zero } with ⟨h | _ | _, later⟩
  · exact ⟨sound, nofun⟩
  · rw [run] at soundLater reported
    dsimp only
    split
    · exact ⟨sound, nofun⟩
    · exact ⟨soundLater, fun _ => reported rfl⟩
  · rw [run] at soundLater
    exact ⟨soundLater, nofun⟩

/-- The type may be missing, and the hysteresis may be missing but not unreadable. -/
theorem thermalGetTrip_reports (tz : ThermalHandle) (index : Int) :
    (zenctlThermalGetTrip tz index : GetM σ Trip).Reports :=
  .ite (.raise (by decide) (by decide) _ _)
    (.bind (readFileI64_reports _) fun _ => .bind (quietly_quiet _).reports fun _ =>
      .bind (readHysteresis_reports _) fun _ => .pure _)

/-- A link that names no cooling device. -/
theorem zoneCdevIndex_reports (tz : ThermalHandle) (index : Int) :
    (zoneCdevIndex tz index : GetM σ Int).Reports :=
  .bind (readlinkBasename_reports _) fun _ => .ite (.raise (by decide) (by decide) _ _) (.pure _)

/-- Only the maximum must be readable. -/
theorem thermalGetCooling_reports (tz : ThermalHandle) (index : Int) :
    (zenctlThermalGetCooling tz index : GetM σ Cooling).Reports :=
  .ite (.raise (by decide) (by decide) _ _)
    (.bind (zoneCdevIndex_reports _ _) fun _ => .bind (quietly_quiet _).reports fun _ =>
      .bind (quietly_quiet _).reports fun _ => .bind (quietly_quiet _).reports fun _ =>
        .ite (.raise (by decide) (by decide) _ _) (.pure _))

/-- The maximum is a bound only where it can be read. -/
theorem thermalSetCoolingState_reports (tz : ThermalHandle) (index state : Int) :
    (zenctlThermalSetCoolingState tz index state : SetM σ Unit).Reports := by
  refine .ite (.getting (.raise (by decide) (by decide) _ _))
    (.after (zoneCdevIndex_reports _ _) fun number => .after (quietly_quiet _).reports fun max => ?_)
  cases max with
  | some max => exact checkedWrite_reports (by decide) (by decide) _ _ _ _
  | none => exact writeFileString_reports _ _

/-- Only the temperature must be readable. -/
theorem hwmonGetTemp_reports (hwmon sensor : Int) :
    (zenctlThermalHwmonGetTemp hwmon sensor : GetM σ HwmonTemp).Reports :=
  .ite (.raise (by decide) (by decide) _ _)
    (.bind (readFileI64_reports _) fun _ => .bind (quietly_quiet _).reports fun _ =>
      .bind (quietly_quiet _).reports fun _ => .bind (quietly_quiet _).reports fun _ =>
        .bind (quietly_quiet _).reports fun _ => .pure _)

/-- NVML is there or it is not. -/
theorem nvmlInit_quiet : (nvmlInit : GetM σ Bool).Quiet := by
  intro os sys proc
  unfold nvmlInit
  split
  · exact ⟨nofun, rfl⟩
  · split
    · exact ⟨nofun, rfl⟩
    · exact ⟨nofun, rfl⟩

/-- NVML answers or it does not. -/
theorem nvmlRead_quiet (index : Int) (read : Nvml σ → σ → Nat → Option Nat) :
    (nvmlRead index read).Quiet := by
  refine .bind nvmlInit_quiet fun _ => .ite (fun os sys proc => ?_) (.pure _)
  unfold nvmlGet
  split
  · exact ⟨nofun, rfl⟩
  · exact ⟨nofun, rfl⟩

/-- A card without a `hwmon` directory. -/
theorem gpuFindHwmon_reports (devicePath : CStr) :
    (gpuFindHwmon devicePath : GetM σ CStr).Reports := by
  refine .bind (.bind (sysCallOr_reports _ _ _) fun names => ?_) fun _ =>
    .bind (allocateOr_reports _ _) fun _ => .pure _
  split
  · exact .bind (allocateOr_reports _ _) fun _ => .pure _
  · exact reports_unless_filled (.raise (by decide) (by decide) _ _)

/-- A copy without memory is `NULL`. -/
theorem copyOrNull_quiet (text : CStr) : (copyOrNull text : GetM σ (Option CStr)).Quiet :=
  .bind allocate_quiet fun _ => .ite (.pure _) (.pure _)

/-- The vendor must be readable, the driver need not be. -/
theorem gpuOpenPath_reports (drmPath : CStr) :
    (zenctlGpuOpenPath drmPath : GetM σ GpuHandle).Reports := by
  refine .bind (.bind (allocateOr_reports _ _) fun _ => .ite (.pure _) (.pure _)) fun sysfs =>
    .bind (readFileString_reports _ _) fun vendorText => .bind (allocateOr_reports _ _) fun _ =>
    .bind (allocateOr_reports _ _) fun _ => .bind (quietly_quiet _).reports fun linked => ?_
  cases linked with
  | some driver =>
      exact .bind (.pure _) fun _ => .bind (copyOrNull_quiet _).reports fun _ => .pure _
  | none =>
      exact .bind (copyOrNull_quiet _).reports fun _ =>
        .bind (copyOrNull_quiet _).reports fun _ => .pure _

/-- The path found when the card was opened, or another search. -/
theorem gpuHwmon_reports (g : GpuHandle) :
    (gpuHwmon g : GetM σ CStr).Reports := by
  unfold gpuHwmon
  split
  · exact .pure _
  · exact gpuFindHwmon_reports _

/-- A call for another driver than the one of the card. -/
theorem gpuDriverCheck_reports (g : GpuHandle) (driver caller : CStr) :
    (gpuDriverCheck g driver caller : GetM σ Unit).Reports := by
  unfold gpuDriverCheck
  split
  · exact .raise (by decide) (by decide) _ _
  · exact .ite (.pure ()) (.raise (by decide) (by decide) _ _)

/-- What is asked of NVML is answered or not. -/
theorem nvmlRead_bind_reports
    {device : Int} {nvml : Nvml σ → σ → Nat → Option Nat} {next : Option Nat → GetM σ α}
    (known : ∀ value, (next (some value)).Reports) (unknown : (next none).Reports) :
    (nvmlRead device nvml >>= next).Reports := by
  refine .bind (nvmlRead_quiet _ _).reports fun answer => ?_
  cases answer with
  | some value => exact known value
  | none => exact unknown

/-- Without NVML the error of the attribute is the caller's. -/
theorem hwmonOrNvml_reports
    {g : GpuHandle} {read : CStr → GetM σ Int} (reads : ∀ path, (read path).Reports)
    (nvml : Nvml σ → σ → Nat → Option Nat) (convert : Nat → Int) (caller : CStr) :
    (hwmonOrNvml g read nvml convert caller).Reports := by
  have silent : (nvmlUnavailable caller : GetM σ Int).Reports :=
    .raise (by decide) (by decide) _ _
  refine .bind (quietly_quiet _).reports fun hw => ?_
  cases hw with
  | some path =>
      refine .bind (quietly_quiet _).reports fun first => ?_
      cases first with
      | some value => exact .pure value
      | none => exact .ite (nvmlRead_bind_reports (fun _ => .pure _) silent) (reads path)
  | none =>
      refine .bind (.pure none) fun first => ?_
      cases first with
      | some value => exact .pure value
      | none =>
          exact .ite (nvmlRead_bind_reports (fun _ => .pure _) silent)
            (.raise (by decide) (by decide) _ _)

/-- The average may be missing, then the input is read. -/
theorem readHwmonPower_reports (hw : CStr) :
    (readHwmonPower hw : GetM σ Int).Reports := by
  refine .bind (quietly_quiet _).reports fun average => ?_
  cases average with
  | some value => exact .pure value
  | none => exact readFileI64_reports _

/-- The writers of an attribute of the card's `hwmon`. -/
theorem hwmonWrite_reports (g : GpuHandle) (key value : CStr) :
    (getting (gpuHwmon g) >>= fun hw => writeFileString (hwmonAttr hw key) value :
      SetM σ Unit).Reports :=
  .after (gpuHwmon_reports g) fun _ => writeFileString_reports _ _

/-- No line of the table is marked as the current one. -/
theorem amdgpuGetPowerProfile_reports (g : GpuHandle) :
    (zenctlGpuAmdgpuGetPowerProfile g : GetM σ CStr).Reports := by
  refine .bind (gpuDriverCheck_reports _ _ _) fun _ => .bind (sysCallOr_reports _ _ _) fun file => ?_
  split
  · exact .bind allocate_quiet.reports fun _ => .ite (.pure _) (.raise (by decide) (by decide) _ _)
  · exact .raise (by decide) (by decide) _ _

/-- A profile that the table does not list is refused. -/
theorem amdgpuSetPowerProfile_reports (g : GpuHandle) (profile : CStr) :
    (zenctlGpuAmdgpuSetPowerProfile g profile : SetM σ Unit).Reports :=
  .after (gpuDriverCheck_reports _ _ _) fun _ => .after (sysCallOr_reports _ _ _) fun _ =>
    .ite (.getting (.raise (by decide) (by decide) _ _))
      (.after (quietly_quiet _).reports fun _ =>
        checkedWrite_reports (by decide) (by decide) _ _ _ _)

/-- A card of another vendor. -/
theorem nvidiaCheck_reports (g : GpuHandle) :
    (gpuNvidiaCheck g : GetM σ Unit).Reports :=
  .ite (.pure ()) (.raise (by decide) (by decide) _ _)

/-- What NVML does not answer is an error. -/
theorem nvidiaGet_reports
    (g : GpuHandle) (read : Nvml σ → σ → Nat → Option Nat) (caller : CStr) :
    (nvidiaGet g read caller).Reports := by
  refine .bind (nvidiaCheck_reports g) fun _ => .bind (nvmlRead_quiet _ _).reports fun answer => ?_
  cases answer with
  | some value => exact .pure _
  | none => exact .raise (by decide) (by decide) _ _

/-- NVML takes the limit or it does not. -/
theorem nvmlSetPowerLimit_reports (index mw : Int) :
    (nvmlSetPowerLimit index mw : SetM σ Bool).Reports := by
  refine .quiet fun os sys proc => ?_
  unfold nvmlSetPowerLimit
  split
  · exact ⟨nofun, rfl⟩
  · split
    · exact ⟨nofun, rfl⟩
    · exact ⟨nofun, rfl⟩

/-- A limit that NVML does not take is an error. -/
theorem nvidiaSetPowerLimit_reports (g : GpuHandle) (mw : Int) :
    (zenctlGpuNvidiaSetPowerLimit g mw : SetM σ Unit).Reports :=
  .ite (.getting (.raise (by decide) (by decide) _ _))
    (.after (nvidiaCheck_reports g) fun _ => .after nvmlInit_quiet.reports fun _ =>
      .ite (.bind (nvmlSetPowerLimit_reports _ _) fun _ =>
          .ite (.pure ()) (.getting (.raise (by decide) (by decide) _ _)))
        (.getting (.raise (by decide) (by decide) _ _)))

/-- Neither of the two names exists. -/
theorem i915ResolveAttr_reports (g : GpuHandle) (newName oldName : CStr) :
    (i915ResolveAttr g newName oldName : GetM σ CStr).Reports := by
  refine .bind (sysCall_quiet _).reports fun modern => ?_
  cases modern with
  | some _ => exact .pure _
  | none =>
      refine .bind (sysCall_quiet _).reports fun legacy => ?_
      cases legacy with
      | some _ => exact .pure _
      | none => exact .raise (by decide) (by decide) _ _

/-- The driver is checked, the name resolved, the file read. -/
theorem i915ReadAttr_reports (g : GpuHandle) (newName oldName : CStr) :
    (i915ReadAttr g newName oldName : GetM σ Int).Reports :=
  .bind (gpuDriverCheck_reports _ _ _) fun _ => .bind (i915ResolveAttr_reports _ _ _) fun _ =>
    readFileI64_reports _

/-- A frequency in the unit of the library. -/
theorem i915GetFreq_reports (g : GpuHandle) (newName oldName : CStr) :
    (i915GetFreq g newName oldName : GetM σ Int).Reports :=
  .bind (i915ReadAttr_reports g newName oldName) fun _ => .pure _

/-- A frequency that is not positive is refused. -/
theorem i915SetFreq_reports (g : GpuHandle) (newName oldName : CStr) (mhz : Int) (caller : CStr) :
    (i915SetFreq g newName oldName mhz caller : SetM σ Unit).Reports :=
  .ite (.getting (.raise (by decide) (by decide) _ _))
    (.after (gpuDriverCheck_reports _ _ _) fun _ => .after (i915ResolveAttr_reports _ _ _) fun _ =>
      writeFileString_reports _ _)

/-- A switch that cannot be written is refused before it is tried. -/
theorem i915SetRc6_reports (g : GpuHandle) (on : Bool) :
    (zenctlGpuI915SetRc6 g on : SetM σ Unit).Reports := by
  refine .after (gpuDriverCheck_reports _ _ _) fun _ => .after (i915ResolveAttr_reports _ _ _) fun _ =>
    .after (sysCall_quiet _).reports fun writable => ?_
  cases writable with
  | some _ => exact writeFileString_reports _ _
  | none => exact .getting (.raise (by decide) (by decide) _ _)

end Sensors

/-! ## Power, USB and Bluetooth -/

section Buses

/-- A state that the kernel does not list is refused. -/
theorem powerSuspend_reports (state : SleepState) :
    (zenctlPowerSuspend state : SetM σ Unit).Reports :=
  .after (readStringAlloc_reports _) fun _ =>
    .ite (writeFileString_reports _ _) (.getting (.raise (by decide) (by decide) _ _))

/-- The chosen word is copied. -/
theorem powerGetMemSleepMode_reports :
    (zenctlPowerGetMemSleepMode : GetM σ CStr).Reports :=
  .bind (readStringAlloc_reports _) fun _ => .bind (allocateOr_reports _ _) fun _ => .pure _

/-- The array is doubled when it is full. -/
theorem growArray_reports (first capacity used : Nat) (message context : CStr) :
    (growArray first capacity used message context : GetM σ Nat).Reports :=
  .ite (.bind (allocateOr_reports _ _) fun _ => .pure _) (.pure _)

/-- Every line of the table is copied, and each copy can fail. -/
theorem collectWakeups_reports (lines : List CStr) (capacity : Nat) (found : List CStr) :
    (collectWakeups capacity found lines : GetM σ (List CStr)).Reports := by
  induction lines generalizing capacity found with
  | nil => exact .pure _
  | cons line rest inductionHypothesis =>
      unfold collectWakeups
      split
      · exact inductionHypothesis _ _
      · exact .bind (growArray_reports _ _ _ _ _) fun _ => .bind (allocateOr_reports _ _) fun _ =>
          inductionHypothesis _ _

/-- A name that the table does not list is refused. -/
theorem powerSetWakeup_reports (device : CStr) (enabled : Bool) :
    (zenctlPowerSetWakeup device enabled : SetM σ Unit).Reports := by
  refine .ite (.getting (.raise (by decide) (by decide) _ _))
    (.ite (.getting (.raise (by decide) (by decide) _ _))
      (.after (readFileString_reports _ _) fun table => ?_))
  split
  · exact .getting (.raise (by decide) (by decide) _ _)
  · exact .ite (.pure ()) (writeFileString_reports _ _)

/-- Every name of the directory is copied, and each copy can fail. -/
theorem copyNames_reports (message dir : CStr) (names : List CStr) (capacity : Nat)
    (copied : List CStr) :
    (copyNames message dir capacity copied names : GetM σ (List CStr)).Reports := by
  induction names generalizing capacity copied with
  | nil => exact .pure _
  | cons name rest inductionHypothesis =>
      exact .ite (inductionHypothesis _ _)
        (.bind (allocateOr_reports _ _) fun _ =>
          .ite (.bind (allocateOr_reports _ _) fun _ => inductionHypothesis _ _)
            (inductionHypothesis _ _))

/-- The directory is read, then copied. -/
theorem utilListDir_reports (dir : CStr) :
    (utilListDir dir : GetM σ (List CStr)).Reports :=
  .bind (sysCallOr_reports _ _ _) fun _ => .bind (allocateOr_reports _ _) fun _ =>
    copyNames_reports _ _ _ _ _

/-- The names are handed over, only the array grows. -/
theorem stealNames_reports (keep : CStr → Bool) (caller : CStr) (names : List CStr)
    (capacity : Nat) (kept : List CStr) :
    (stealNames keep caller capacity kept names : GetM σ (List CStr)).Reports := by
  induction names generalizing capacity kept with
  | nil => exact .pure _
  | cons name rest inductionHypothesis =>
      exact .ite
        (.ite (.bind (allocateOr_reports _ _) fun _ => inductionHypothesis _ _)
          (inductionHypothesis _ _))
        (inductionHypothesis _ _)

/-- The list of a directory, filtered and sorted. -/
theorem enumerateSorted_reports (dir : CStr) (keep : CStr → Bool) (caller : CStr) :
    (enumerateSorted dir keep caller : GetM σ (List CStr)).Reports :=
  .bind (utilListDir_reports _) fun _ => .bind (allocateOr_reports _ _) fun _ =>
    .bind (stealNames_reports _ _ _ _ _) fun _ => .pure _

/-- A switch whose attribute cannot be read does not match. -/
theorem rfkillMatches_quiet (base key : CStr) (size : Nat) (want : Option CStr) :
    (rfkillMatches base key size want : GetM σ Bool).Quiet := by
  cases want with
  | none => exact .pure _
  | some want =>
      exact .bind allocate_quiet fun _ => .ite (.bind (quietly_quiet _) fun _ => .pure _) (.pure _)

/-- The search looks at one switch after the other. -/
theorem rfkillScan_quiet (wantName wantType : Option CStr) (entries : List CStr) :
    (rfkillScan wantName wantType entries : GetM σ Int).Quiet := by
  induction entries with
  | nil => exact .pure _
  | cons entry rest inductionHypothesis =>
      unfold rfkillScan
      split
      · exact inductionHypothesis
      · exact .bind (rfkillMatches_quiet _ _ _ _) fun _ =>
          .ite (.bind (rfkillMatches_quiet _ _ _ _) fun _ => .ite (.pure _) inductionHypothesis)
            inductionHypothesis

/-- No switch that matches. -/
theorem rfkillFind_reports (wantName wantType : Option CStr) :
    (zenctlRfkillFind wantName wantType : GetM σ Int).Reports :=
  .bind (utilListDir_reports _) fun _ => .bind (rfkillScan_quiet _ _ _).reports fun _ =>
    .ite (.raise (by decide) (by decide) _ _) (.pure _)

/-- The soft state of one switch. -/
theorem rfkillGetSoft_reports (index : Int) :
    (zenctlRfkillGetSoft index : GetM σ Bool).Reports :=
  .bind (readFileString_reports _ _) fun _ => .pure _

/-- Bus and device number stay as they are when they cannot be read. -/
theorem readBusDevNums_quiet (u : UsbHandle) :
    (readBusDevNums u : GetM σ UsbHandle).Quiet :=
  .bind allocate_quiet fun _ => .ite
    (.bind (.bind (quietly_quiet _) fun _ => .pure _) fun _ => .bind allocate_quiet fun _ =>
      .ite (.bind (.bind (quietly_quiet _) fun _ => .pure _) fun _ => .pure _) (.pure _))
    (.pure _)

/-- The name is checked before the directory is looked for. -/
theorem usbOpen_reports (dev : CStr) :
    (zenctlUsbOpen dev : GetM σ UsbHandle).Reports :=
  .ite (.bind (allocateOr_reports _ _) fun _ => .bind (allocateOr_reports _ _) fun _ =>
      .bind (allocateOr_reports _ _) fun _ => .bind (sysCallOr_reports _ _ _) fun _ =>
        (readBusDevNums_quiet _).reports)
    (.raise (by decide) (by decide) _ _)

/-- The path of an attribute needs memory. -/
theorem usbAttrPath_reports (u : UsbHandle) (attr context : CStr) :
    (usbAttrPath u attr context : GetM σ CStr).Reports :=
  .bind (allocateOr_reports _ _) fun _ => .pure _

/-- An attribute as a text of its own. -/
theorem readAttrStr_reports (u : UsbHandle) (attr : CStr) :
    (readAttrStr u attr : GetM σ CStr).Reports :=
  .bind (usbAttrPath_reports _ _ _) fun _ => .bind (readFileString_reports _ _) fun _ =>
    .bind (allocateOr_reports _ _) fun _ => .pure _

/-- Any text is a hexadecimal number. -/
theorem readAttrHex_reports (u : UsbHandle) (attr : CStr) :
    (readAttrHex u attr : GetM σ Int).Reports :=
  .bind (usbAttrPath_reports _ _ _) fun _ => .bind (readFileString_reports _ _) fun _ => .pure _

/-- An attribute read into a small buffer and interpreted. -/
theorem readAttrText_reports (u : UsbHandle) (attr context : CStr) (size : Nat)
    (deliver : CStr → α) :
    (readAttrText u attr context size >>= fun text => pure (deliver text) : GetM σ α).Reports :=
  .bind (.bind (usbAttrPath_reports _ _ _) fun _ => readFileString_reports _ _) fun _ => .pure _

/-- An attribute is written with its report. -/
theorem writeAttrStr_reports (u : UsbHandle) (attr value : CStr) :
    (writeAttrStr u attr value : SetM σ Unit).Reports :=
  .after (usbAttrPath_reports _ _ _) fun _ => writeFileString_reports _ _

/-- A device without numbers, a node that does not open, an `ioctl` that fails. -/
theorem usbReset_reports (u : UsbHandle) :
    (zenctlUsbReset u : SetM σ Unit).Reports :=
  .after (.ite (readBusDevNums_quiet u).reports (.pure u)) fun _ =>
    .ite (.getting (.raise (by decide) (by decide) _ _))
      (.after (sysCallOr_reports _ _ _) fun _ =>
        sysSet_reports (fun _ => .pure ()) (.getting (raiseErrno_from none _)))

/-- The way adapters and wireless devices are opened. -/
theorem openNumbered_reports (base start name invalid caller : CStr) :
    (openNumbered base start name invalid caller : GetM σ (CStr × Int)).Reports :=
  .ite (.bind (allocateOr_reports _ _) fun _ => .bind (allocateOr_reports _ _) fun _ =>
      .bind (allocateOr_reports _ _) fun _ => .bind (sysCallOr_reports _ _ _) fun _ => .pure _)
    (.raise (by decide) (by decide) _ _)

/-- The switch of the adapter is searched for, then read. -/
theorem btGetRfkillBlocked_reports (bt : BtHandle) :
    (zenctlBtGetRfkillBlocked bt : GetM σ Bool).Reports :=
  .bind (rfkillFind_reports _ _) fun _ => rfkillGetSoft_reports _

/-- The switch of the adapter is searched for, then written. -/
theorem btSetRfkillBlocked_reports (bt : BtHandle) (blocked : Bool) :
    (zenctlBtSetRfkillBlocked bt blocked : SetM σ Unit).Reports :=
  .after (rfkillFind_reports _ _) fun _ => writeFileString_reports _ _

/-- An index out of range sets `errno` itself. -/
theorem btMgmtGetPowered_setsErrno (index : Int) :
    (btMgmtGetPowered index : GetM σ (Option Bool)).SetsErrno never := by
  refine ⟨.ite (.bind (setErrno_quiet _) fun _ => .pure _)
    (.bind (sysCall_quiet _) fun _ => .pure _), fun os sys proc => iff_false_intro ?_⟩
  rintro ⟨missed, zero⟩
  unfold btMgmtGetPowered at missed zero
  by_cases outside : index < 0 ∨ 65535 < index
  · rw [if_pos outside] at zero
    exact absurd zero (by decide : Errno.einval.1 ≠ 0)
  · rw [if_neg outside, GetM.bind_run] at missed zero
    have loud := ((sysCall_setsErrno fun os sys => os.hciInfo sys index.toNat).2 os sys proc)
    rcases run : sysCall (fun os sys => os.hciInfo sys index.toNat) os sys proc with
      ⟨(_ | info) | _ | _, later⟩
    · rw [run] at zero loud
      exact loud.mp ⟨rfl, zero⟩
    · rw [run] at missed
      cases missed
    · rw [run] at missed
      cases missed
    · rw [run] at missed
      cases missed

/-- Both ways of asking end with a report. -/
theorem btGetPowered_reports (bt : BtHandle) :
    (zenctlBtGetPowered bt : GetM σ Bool).Reports := by
  have byRfkill : (btPoweredByRfkill bt : GetM σ Bool).Reports :=
    .bind (btGetRfkillBlocked_reports bt) fun _ => .pure _
  refine .bind (sysCall_quiet _).reports fun socket => ?_
  cases socket with
  | none => exact byRfkill
  | some _ =>
      refine (btMgmtGetPowered_setsErrno bt.index).reports (fun up => .pure up) (.getErrno fun e =>
        .ite (fun os sys proc sound started => ?_) (byRfkill.from _))
      exact raiseErrno_from none _ os sys proc sound started.1

/-- The same of `bt_mgmt_set_powered`, which answers with a flag. -/
theorem btMgmtSetPowered_errno
    (index : Int) (on : Bool) (os : Os σ) (sys : σ) (proc : Proc) :
    ∃ flag changed errno,
      btMgmtSetPowered index on os sys proc = (.value flag, changed, { proc with errno := errno }) ∧
        (flag = false → errno ≠ 0) := by
  unfold btMgmtSetPowered
  split
  · exact ⟨_, _, _, rfl, fun _ => by decide⟩
  · rw [SetM.bind_run]
    unfold sysSet
    rcases answer : os.hciPower sys index.toNat on with ⟨e | _, changed⟩
    · dsimp only
      rw [answer]
      exact ⟨_, _, e.1, rfl, fun _ => Int.ne_of_gt e.2⟩
    · dsimp only
      rw [answer]
      exact ⟨true, changed, proc.errno, rfl, nofun⟩

/-- Both ways of setting end with a report. -/
theorem btSetPowered_reports (bt : BtHandle) (on : Bool) :
    (zenctlBtSetPowered bt on : SetM σ Unit).Reports := by
  refine .after (sysCall_quiet _).reports fun socket => ?_
  cases socket with
  | none => exact btSetRfkillBlocked_reports _ _
  | some _ =>
      intro os sys proc sound
      obtain ⟨flag, changed, errno, run, loud⟩ := btMgmtSetPowered_errno bt.index on os sys proc
      dsimp only
      rw [SetM.bind_value run]
      cases flag with
      | true => exact ⟨sound, nofun⟩
      | false =>
          have rest : (getting getErrno >>= fun e =>
              if e ≠ Errno.eperm.1 ∧ e ≠ Errno.eacces.1 then
                getting (raiseErrno none "bt_mgmt_set_powered")
              else zenctlBtSetRfkillBlocked bt !on : SetM σ Unit).ReportsFrom (·.errno ≠ 0) :=
            .getErrno fun _ => .ite (.getting (raiseErrno_from none _))
              (btSetRfkillBlocked_reports _ _)
          exact rest os changed { proc with errno := errno } sound (loud rfl)

/-- Whatever `errno` is, one of the codes is chosen. -/
theorem btGetAddress_reports (bt : BtHandle) :
    (zenctlBtGetAddress bt : GetM σ CStr).Reports := by
  refine .ite (.raise (by decide) (by decide) _ _) ((sysCall_setsErrno _).reports (fun _ => ?_) ?_)
  · exact .bind (sysCallOr_reports _ _ _) fun _ => .ite (.raise (by decide) (by decide) _ _)
      (.bind (allocateOr_reports _ _) fun _ => .pure _)
  · refine .getErrno fun e => fun os sys proc sound started => ?_
    have known : 1 ≤ hciSocketCode e ∧ hciSocketCode e ≤ 8 := by
      obtain ⟨low, high, zero⟩ := errnoToCode_bounds e
      have nonzero : errnoToCode e ≠ 0 := fun ok => started.1 (started.2.trans (zero.mp ok))
      unfold hciSocketCode
      split
      · decide
      · omega
    exact GetM.Reports.raise known.1 known.2 _ _ os sys proc sound

end Buses

/-! ## Firmware -/

section Firmware

/-- `set_errno_str` chooses one of the codes for every `errno`. -/
theorem raiseFirmware_reports (e : Errno) (context : CStr) :
    (raiseFirmware e context : GetM σ α).Reports := by
  have known : 1 ≤ firmwareCode e.1 ∧ firmwareCode e.1 ≤ 8 := by
    have nonzero : e.1 ≠ 0 := Int.ne_of_gt e.2
    unfold firmwareCode
    rw [if_neg nonzero]
    split_ifs <;> decide
  exact .bind (setErrno_quiet _).reports fun _ => .bind (strerror_quiet _).reports fun _ =>
    .raise known.1 known.2 _ _

/-- A text file of the firmware. -/
theorem readText_reports (path : CStr) :
    (readText path : GetM σ CStr).Reports :=
  .bind (readFileString_reports _ _) fun _ => .bind (allocateOr_reports _ _) fun _ => .pure _

/-- Each of the three calls of a write has its own report. -/
theorem writeBinaryFile_reports (path : CStr) (data : List Char) :
    (writeBinaryFile path data : SetM σ Unit).Reports := by
  refine .bind (.quiet fun _ _ _ => ⟨nofun, rfl⟩) fun written => ?_
  cases written with
  | done => exact .pure ()
  | openFailed e => exact .getting (raiseFirmware_reports e path)
  | writeFailed e => exact .getting (raiseFirmware_reports e path)
  | closeFailed e => exact .getting (raiseFirmware_reports e path)

/-- The directory is read, then copied. -/
theorem firmwareListDir_reports (dir : CStr) :
    (firmwareListDir dir : GetM σ (List CStr)).Reports := by
  refine .bind (fun os sys proc sound => ?_) fun names => .bind (allocateOr_reports _ _) fun _ =>
    copyNames_reports _ _ _ _ _
  unfold firmwareListDir.listed
  split
  · exact ⟨sound, nofun⟩
  · exact raiseFirmware_reports _ _ os sys proc sound

/-- A joined path needs memory. -/
theorem joinOr_reports (dir name context : CStr) :
    (joinOr dir name context : GetM σ CStr).Reports :=
  .bind (allocateOr_reports _ _) fun _ => .pure _

/-- Several allocations, of which none is reported. -/
theorem allocateMany_quiet (count : Nat) :
    (allocateMany count : GetM σ Bool).Quiet := by
  induction count with
  | zero => exact .pure _
  | succ count inductionHypothesis =>
      exact .bind allocate_quiet fun _ => .ite inductionHypothesis (.pure _)

/-- A path is a directory or it is not. -/
theorem askIsDir_quiet (path : CStr) : (askIsDir path : GetM σ Bool).Quiet :=
  fun _ _ _ => ⟨nofun, rfl⟩

/-- The name of the field is checked first. -/
theorem fwDmiGet_reports (field : CStr) :
    (zenctlFwDmiGet field : GetM σ CStr).Reports :=
  .ite (.bind (joinOr_reports _ _ _) fun _ => readText_reports _)
    (.raise (by decide) (by decide) _ _)

/-- A mount table without the file system. -/
theorem efivarsMounted_reports :
    (efivarsMounted : GetM σ Unit).Reports := by
  intro os sys proc sound
  unfold efivarsMounted
  split
  · exact raiseFirmware_reports _ _ os sys proc sound
  · exact ⟨sound, nofun⟩
  · exact GetM.Reports.raise (by decide) (by decide) _ _ os sys proc sound

/-- An entry that cannot be read is left out. -/
theorem collectEfiVars_quiet (entries : List CStr) (capacity : Nat) (found : List EfiVar) :
    (collectEfiVars capacity found entries : GetM σ (List EfiVar)).Quiet := by
  induction entries generalizing capacity found with
  | nil => exact .pure _
  | cons entry rest inductionHypothesis =>
      unfold collectEfiVars
      split
      · exact inductionHypothesis _ _
      · refine .bind (allocateMany_quiet _) fun _ => .ite (.bind (quietly_quiet _) fun raw => ?_)
          (inductionHypothesis _ _)
        cases raw with
        | none => exact inductionHypothesis _ _
        | some raw =>
            exact .ite (.bind allocate_quiet fun _ => .ite (inductionHypothesis _ _)
              (inductionHypothesis _ _)) (inductionHypothesis _ _)

/-- The list of the variables. -/
theorem fwEfiEnumerate_reports :
    (zenctlFwEfiEnumerate : GetM σ (List EfiVar)).Reports :=
  .bind efivarsMounted_reports fun _ => .bind (firmwareListDir_reports _) fun _ =>
    .bind (allocateOr_reports _ _) fun _ => (collectEfiVars_quiet _ _ _).reports

/-- The path of a variable needs memory. -/
theorem efiPath_reports (name guid caller : CStr) :
    (efiPath name guid caller : GetM σ CStr).Reports :=
  .bind (allocateOr_reports _ _) fun _ => joinOr_reports _ _ _

/-- A variable shorter than its attribute word is an error. -/
theorem fwEfiGet_reports (name guid : CStr) :
    (zenctlFwEfiGet name guid : GetM σ (List Char)).Reports :=
  .ite (.bind efivarsMounted_reports fun _ => .bind (efiPath_reports _ _ _) fun _ =>
      .bind (readFileBinary_reports _) fun _ => .ite (.raise (by decide) (by decide) _ _)
        (.bind (allocateOr_reports _ _) fun _ => .pure _))
    (.raise (by decide) (by decide) _ _)

/-- A file system without flags is no error. -/
theorem fsGetFlags_reports (path : CStr) :
    (fsGetFlags path : GetM σ (Option Nat)).Reports := by
  intro os sys proc sound
  unfold fsGetFlags
  split
  · exact ⟨sound, nofun⟩
  · exact raiseFirmware_reports _ _ os sys proc sound
  · split
    · exact ⟨sound, nofun⟩
    · exact raiseFirmware_reports _ _ os sys proc sound

/-- A file system without flags is an error here. -/
theorem fsSetFlags_reports (path : CStr) (flags : Nat) :
    (fsSetFlags path flags : SetM σ Unit).Reports := by
  intro os sys proc sound
  unfold fsSetFlags
  dsimp only
  split
  · exact ⟨sound, nofun⟩
  · exact raiseFirmware_reports _ _ os (os.setFlags sys path flags).2 proc sound
  · exact raiseFirmware_reports _ _ os (os.setFlags sys path flags).2 proc sound

/-- A flag that cannot be cleared stops the call. -/
theorem efiMaybeClearImmutable_reports (path : CStr) :
    (efiMaybeClearImmutable path : SetM σ Bool).Reports := by
  refine .after (fsGetFlags_reports path) fun flags => ?_
  cases flags with
  | none => exact .pure _
  | some flags => exact .ite (.bind (fsSetFlags_reports _ _) fun _ => .pure _) (.pure _)

/-- The write has filled the record when it failed, and the restoring step leaves that alone. -/
theorem attemptRestore_reports
    {program : SetM σ Unit} (reports : program.Reports) {next : Option Unit → SetM σ Unit}
    (done : (next (some ())).Reports)
    (failed : (next none).ReportsFrom (·.Reported)) :
    (attemptSet program >>= next).Reports := by
  intro os sys proc sound
  obtain ⟨soundLater, reported⟩ := reports os sys proc sound
  rw [SetM.bind_run]
  unfold attemptSet
  rcases run : program os sys proc with ⟨value | _ | _, changed, later⟩
  · rw [run] at soundLater
    exact done os changed later soundLater
  · rw [run] at reported
    exact failed os changed later (reported rfl).sound (reported rfl)
  · rw [run] at soundLater
    exact ⟨soundLater, nofun⟩

/-- The flag is put back without a report of its own. -/
theorem restoreAfter_from (path : CStr) (wasCleared : Bool) :
    (restoreAfter path wasCleared none : SetM σ Unit).ReportsFrom (·.Reported) := by
  intro os sys proc sound reported
  cases wasCleared with
  | false => exact ⟨sound, fun _ => reported⟩
  | true =>
      change ((quietlySet (efiMaybeRestoreImmutable path) >>= fun _ => getting fail : SetM σ Unit) os
        sys proc).2.2.Sound ∧ (_ → ((quietlySet (efiMaybeRestoreImmutable path) >>= fun _ =>
          getting fail : SetM σ Unit) os sys proc).2.2.Reported)
      rw [SetM.bind_run]
      unfold quietlySet attemptSet
      rcases efiMaybeRestoreImmutable path os sys proc with ⟨value | _ | _, changed, later⟩
      · exact ⟨sound, fun _ => reported⟩
      · exact ⟨sound, fun _ => reported⟩
      · exact ⟨sound, fun _ => reported⟩

/-- A flag that cannot be put back is no error. -/
theorem restoreAfter_done_reports (path : CStr) (wasCleared : Bool) :
    (restoreAfter path wasCleared (some ()) : SetM σ Unit).Reports :=
  .ite (.bind (quietlySet_reports _) fun _ => .pure ()) (.pure ())

/-- The flag is put back whether the write succeeded or not. -/
theorem fwEfiSet_reports (name guid : CStr) (attributes : Nat) (data : List Char) :
    (zenctlFwEfiSet name guid attributes data : SetM σ Unit).Reports :=
  .ite (.after efivarsMounted_reports fun _ => .after (efiPath_reports _ _ _) fun _ =>
      .after (allocateOr_reports _ _) fun _ => .bind (efiMaybeClearImmutable_reports _) fun _ =>
        attemptRestore_reports (writeBinaryFile_reports _ _) (restoreAfter_done_reports _ _)
          (restoreAfter_from _ _))
    (.getting (.raise (by decide) (by decide) _ _))

/-- The empty payload is written, then the file is removed. -/
theorem eraseVariable_reports (path : CStr) :
    (eraseVariable path : SetM σ Unit).Reports := by
  refine .bind (writeBinaryFile_reports _ _) fun _ => .after (fun _ _ _ sound => ⟨sound, nofun⟩)
    fun _ => .ite (fun os sys proc sound => ?_) (.pure ())
  unfold eraseVariable.unlinkVariable
  dsimp only
  split
  · exact ⟨sound, nofun⟩
  · exact raiseFirmware_reports _ _ os (os.unlink sys path).2 proc sound

/-- The flag is put back only when the erasing failed. -/
theorem fwEfiDelete_reports (name guid : CStr) :
    (zenctlFwEfiDelete name guid : SetM σ Unit).Reports :=
  .ite (.after efivarsMounted_reports fun _ => .after (efiPath_reports _ _ _) fun _ =>
      .bind (efiMaybeClearImmutable_reports _) fun _ =>
        attemptRestore_reports (eraseVariable_reports _) (.pure ()) (restoreAfter_from _ _))
    (.getting (.raise (by decide) (by decide) _ _))

/-- The entries that pass the check, in an array that grows. -/
theorem collectEntries_reports
    {check : CStr → GetM σ Bool} (checks : ∀ entry, (check entry).Quiet) (caller : CStr)
    (entries : List CStr) (capacity : Nat) (kept : List CStr) :
    (collectEntries check caller capacity kept entries).Reports := by
  induction entries generalizing capacity kept with
  | nil => exact .pure _
  | cons entry rest inductionHypothesis =>
      exact .bind (checks entry).reports fun _ => .ite
        (.ite (.bind (allocateOr_reports _ _) fun _ => inductionHypothesis _ _)
          (inductionHypothesis _ _))
        (inductionHypothesis _ _)

/-- The tables of a directory. -/
theorem fwAcpiListTables_reports :
    (zenctlFwAcpiListTables : GetM σ (List CStr)).Reports :=
  .bind (firmwareListDir_reports _) fun _ => .bind (allocateOr_reports _ _) fun _ =>
    .bind (collectEntries_reports (fun _ => .bind allocate_quiet fun _ =>
      .ite (.bind (askIsDir_quiet _) fun _ => .pure _) (.pure _)) _ _ _ _) fun _ => .pure _

/-- The name is checked before the table is read. -/
theorem fwAcpiGetTable_reports (name : CStr) :
    (zenctlFwAcpiGetTable name : GetM σ (List Char)).Reports :=
  .ite (.raise (by decide) (by decide) _ _)
    (.ite (.bind (joinOr_reports _ _ _) fun _ => readFileBinary_reports _)
      (.raise (by decide) (by decide) _ _))

/-- The search for a directory looks at one entry after the other. -/
theorem firstVendor_quiet (entries : List CStr) :
    (firstVendor entries : GetM σ (Option CStr)).Quiet := by
  induction entries with
  | nil => exact .pure _
  | cons entry rest inductionHypothesis =>
      exact .bind allocate_quiet fun _ => .ite
        (.bind (askIsDir_quiet _) fun _ =>
          .ite (.bind allocate_quiet fun _ => .ite (.pure _) (.pure _)) inductionHypothesis)
        inductionHypothesis

/-- No vendor at all. -/
theorem fwattrFindVendor_reports :
    (fwattrFindVendor : GetM σ CStr).Reports := by
  refine .bind (firmwareListDir_reports _) fun _ => .bind (firstVendor_quiet _).reports fun vendor => ?_
  cases vendor with
  | some vendor => exact .pure vendor
  | none => exact .raise (by decide) (by decide) _ _

/-- An entry without a current value is no setting. -/
theorem isSetting_quiet (vendor entry : CStr) :
    (isSetting vendor entry : GetM σ Bool).Quiet :=
  .bind (allocateMany_quiet _) fun _ => .ite
    (.bind (askIsDir_quiet _) fun _ => .ite
      (.bind (allocateMany_quiet _) fun _ => .ite (.bind (sysCall_quiet _) fun _ => .pure _) (.pure _))
      (.pure _))
    (.pure _)

/-- The settings of a vendor. -/
theorem fwattrListSettings_reports (vendor : CStr) :
    (fwattrListSettings vendor : GetM σ (List CStr)).Reports :=
  .bind (allocateOr_reports _ _) fun _ => .bind (allocateOr_reports _ _) fun _ =>
    .bind (firmwareListDir_reports _) fun _ => .bind (allocateOr_reports _ _) fun _ =>
      .bind (collectEntries_reports (isSetting_quiet vendor) _ _ _ _) fun _ => .pure _

/-- The length of that list. -/
theorem fwBiosSettingCount_reports :
    (zenctlFwBiosSettingCount : GetM σ Int).Reports :=
  .bind fwattrFindVendor_reports fun _ => .bind (fwattrListSettings_reports _) fun _ => .pure _

/-- A field that cannot be read is empty. -/
theorem readSettingField_quiet (dir field : CStr) (size : Nat) :
    (readSettingField dir field size : GetM σ CStr).Quiet :=
  .bind allocate_quiet fun _ => .ite (.bind (quietly_quiet _) fun _ => .pure _) (.pure _)

/-- Only the list of the settings must be readable. -/
theorem fwBiosGetSetting_reports (index : Int) :
    (zenctlFwBiosGetSetting index : GetM σ BiosSetting).Reports :=
  .ite (.raise (by decide) (by decide) _ _)
    (.bind fwattrFindVendor_reports fun _ => .bind (fwattrListSettings_reports _) fun _ =>
      .ite (.raise (by decide) (by decide) _ _)
        (.bind (allocateOr_reports _ _) fun _ => .bind (allocateOr_reports _ _) fun _ =>
          .bind (allocateOr_reports _ _) fun _ => .bind (readSettingField_quiet _ _ _).reports fun _ =>
            .bind (readSettingField_quiet _ _ _).reports fun _ =>
              .bind (readSettingField_quiet _ _ _).reports fun _ =>
                .bind (readSettingField_quiet _ _ _).reports fun _ => .pure _))

/-- A role without a password file has no path. -/
theorem passwordPath_quiet (authDir role : CStr) :
    (passwordPath authDir role : GetM σ (Option CStr)).Quiet :=
  .bind allocate_quiet fun _ => .ite
    (.bind (askIsDir_quiet _) fun _ =>
      .ite (.bind allocate_quiet fun _ => .ite (.pure _) (.pure _)) (.pure _))
    (.pure _)

/-- A password that is not taken is tried on the next role. -/
theorem unlockRoles_reports (authDir password : CStr) (roles : List CStr) :
    (unlockRoles authDir password roles : SetM σ Unit).Reports := by
  induction roles with
  | nil => exact .pure ()
  | cons role rest inductionHypothesis =>
      refine .after (passwordPath_quiet _ _).reports fun path => ?_
      cases path with
      | none => exact inductionHypothesis
      | some path =>
          refine .bind (quietlySet_reports _) fun taken => ?_
          cases taken with
          | some _ => exact .pure ()
          | none => exact inductionHypothesis

/-- Every role is cleared, whatever comes of it. -/
theorem clearRoles_reports (authDir : CStr) (roles : List CStr) :
    (clearRoles authDir roles : SetM σ Unit).Reports := by
  induction roles with
  | nil => exact .pure ()
  | cons role rest inductionHypothesis =>
      refine .after (passwordPath_quiet _ _).reports fun path => ?_
      cases path with
      | none => exact inductionHypothesis
      | some path => exact .bind (quietlySet_reports _) fun _ => inductionHypothesis

/-- Without a list of roles nothing is unlocked. -/
theorem unlockBios_reports (vendor password : CStr) :
    (unlockBios vendor password : SetM σ Unit).Reports := by
  refine .after (allocateOr_reports _ _) fun _ => .after (allocateOr_reports _ _) fun _ =>
    .after (quietly_quiet _).reports fun roles => ?_
  cases roles with
  | some roles => exact unlockRoles_reports _ _ roles
  | none => exact .pure ()

/-- The clearing after the write never fails. -/
theorem clearPasswords_reports :
    (clearPasswords : SetM σ Unit).Reports := by
  refine .after (quietly_quiet _).reports fun vendor => ?_
  cases vendor with
  | none => exact .pure ()
  | some vendor =>
      refine .after (allocateMany_quiet _).reports fun _ => .ite
        (.after (quietly_quiet _).reports fun roles => ?_) (.pure ())
      cases roles with
      | some roles => exact clearRoles_reports _ roles
      | none => exact .pure ()

/-- The path of a value needs memory four times. -/
theorem settingValuePathOr_reports (vendor name : CStr) :
    (settingValuePathOr vendor name : GetM σ CStr).Reports :=
  .bind (allocateOr_reports _ _) fun _ => .bind (allocateOr_reports _ _) fun _ =>
    .bind (allocateOr_reports _ _) fun _ => .bind (allocateOr_reports _ _) fun _ => .pure _

/-- Only the write of the value itself decides. -/
theorem fwBiosSetSetting_reports (name value : CStr) (password : Option CStr) :
    (zenctlFwBiosSetSetting name value password : SetM σ Unit).Reports :=
  .ite (.getting (.raise (by decide) (by decide) _ _))
    (.ite (.getting (.raise (by decide) (by decide) _ _))
      (.after fwattrFindVendor_reports fun _ => .ite
        (.after (settingValuePathOr_reports _ _) fun _ => writeFileString_reports _ _)
        (.bind (unlockBios_reports _ _) fun _ => .after (settingValuePathOr_reports _ _) fun _ =>
          .bind (writeFileString_reports _ _) fun _ => clearPasswords_reports)))

end Firmware

end Zenctl
