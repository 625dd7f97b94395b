import Zenctl.ErrorContract
import Zenctl.WirelessExchange

namespace Zenctl

open CString Netlink

/-!
# Failures without a report

Four places can fail and leave the error record empty: the context, the power
supplies of a type nobody has, an empty `stat` file and the family lookup of
`nl80211.c`.  For every call of the interface it is said exactly when.
-/

variable {σ α β : Type}

/-! ## Rules -/

/-- Started with an empty error record, the program fails and leaves it empty just here. -/
def GetM.SilentIff (program : GetM σ α) (silent : Os σ → σ → Proc → Prop) : Prop :=
  ∀ os sys proc, proc.err.code = Err.ok →
    (program os sys proc).2.Sound ∧
      ((program os sys proc).1 = .failed ∧ (program os sys proc).2.err.code = Err.ok ↔
        silent os sys proc)

@[inherit_doc GetM.SilentIff]
def SetM.SilentIff (program : SetM σ α) (silent : Os σ → σ → Proc → Prop) : Prop :=
  ∀ os sys proc, proc.err.code = Err.ok →
    (program os sys proc).2.2.Sound ∧
      ((program os sys proc).1 = .failed ∧ (program os sys proc).2.2.err.code = Err.ok ↔
        silent os sys proc)

theorem Proc.sound_of_ok
    {proc : Proc} (empty : proc.err.code = Err.ok) :
    proc.Sound := by
  unfold Proc.Sound
  rw [empty]
  decide

theorem Proc.Reported.not_ok
    {proc : Proc} (reported : proc.Reported) :
    proc.err.code ≠ Err.ok := by
  intro empty
  have low := reported.1
  rw [empty] at low
  exact absurd low (by decide)

section Rules

variable {silent : Os σ → σ → Proc → Prop}

theorem GetM.Reports.silentIff
    {program : GetM σ α} (reports : program.Reports) :
    program.SilentIff never := by
  intro os sys proc empty
  obtain ⟨sound, reported⟩ := reports os sys proc (Proc.sound_of_ok empty)
  exact ⟨sound, iff_false_intro fun silent => (reported silent.1).not_ok silent.2⟩

theorem SetM.Reports.silentIff
    {program : SetM σ α} (reports : program.Reports) :
    program.SilentIff never := by
  intro os sys proc empty
  obtain ⟨sound, reported⟩ := reports os sys proc (Proc.sound_of_ok empty)
  exact ⟨sound, iff_false_intro fun silent => (reported silent.1).not_ok silent.2⟩

/-- What comes after a program that may fail silently reports its own failures. -/
theorem GetM.SilentIff.bind
    {program : GetM σ α} {next : α → GetM σ β}
    (first : program.SilentIff silent) (second : ∀ value, (next value).Reports) :
    (program >>= next).SilentIff silent := by
  intro os sys proc empty
  obtain ⟨sound, silently⟩ := first os sys proc empty
  rw [GetM.bind_run]
  rcases run : program os sys proc with ⟨value | _ | _, later⟩
  · rw [run] at sound silently
    obtain ⟨soundLater, reported⟩ := second value os sys later sound
    refine ⟨soundLater, iff_of_false (fun both => (reported both.1).not_ok both.2) fun holds => ?_⟩
    exact nomatch (silently.mpr holds).1
  · rw [run] at sound silently
    refine ⟨sound, ⟨fun both => silently.mp ⟨rfl, both.2⟩, fun holds => ⟨rfl, ?_⟩⟩⟩
    exact (silently.mpr holds).2
  · rw [run] at sound silently
    refine ⟨sound, iff_of_false (fun both => nomatch both.1) fun holds => ?_⟩
    exact nomatch (silently.mpr holds).1

/-- A reading program goes first. -/
theorem GetM.SilentIff.before
    {program : GetM σ α} {next : α → SetM σ β}
    (first : program.SilentIff silent) (second : ∀ value, (next value).Reports) :
    (getting program >>= next).SilentIff silent := by
  intro os sys proc empty
  obtain ⟨sound, silently⟩ := first os sys proc empty
  rcases run : program os sys proc with ⟨value | _ | _, later⟩
  · rw [SetM.bind_getting_value run]
    rw [run] at sound silently
    obtain ⟨soundLater, reported⟩ := second value os sys later sound
    refine ⟨soundLater, iff_of_false (fun both => (reported both.1).not_ok both.2) fun holds => ?_⟩
    exact nomatch (silently.mpr holds).1
  · rw [SetM.bind_getting_failed run]
    rw [run] at sound silently
    refine ⟨sound, ⟨fun both => silently.mp ⟨rfl, both.2⟩, fun holds => ⟨rfl, ?_⟩⟩⟩
    exact (silently.mpr holds).2
  · rw [SetM.bind_getting_blocked run]
    rw [run] at sound silently
    refine ⟨sound, iff_of_false (fun both => nomatch both.1) fun holds => ?_⟩
    exact nomatch (silently.mpr holds).1

/-- A check that reports comes first. -/
theorem GetM.SilentIff.unless
    {condition : Prop} [Decidable condition] {first second : GetM σ α}
    (refused : first.Reports) (goesOn : second.SilentIff silent) :
    (if condition then first else second).SilentIff fun os sys proc =>
      ¬condition ∧ silent os sys proc := by
  intro os sys proc empty
  by_cases holds : condition
  · rw [if_pos holds]
    obtain ⟨sound, loud⟩ := refused.silentIff os sys proc empty
    exact ⟨sound, iff_of_false loud.mp fun silently => silently.1 holds⟩
  · rw [if_neg holds]
    obtain ⟨sound, silently⟩ := goesOn os sys proc empty
    exact ⟨sound, silently.trans (and_iff_right holds).symm⟩

@[inherit_doc GetM.SilentIff.unless]
theorem SetM.SilentIff.unless
    {condition : Prop} [Decidable condition] {first second : SetM σ α}
    (refused : first.Reports) (goesOn : second.SilentIff silent) :
    (if condition then first else second).SilentIff fun os sys proc =>
      ¬condition ∧ silent os sys proc := by
  intro os sys proc empty
  by_cases holds : condition
  · rw [if_pos holds]
    obtain ⟨sound, loud⟩ := refused.silentIff os sys proc empty
    exact ⟨sound, iff_of_false loud.mp fun silently => silently.1 holds⟩
  · rw [if_neg holds]
    obtain ⟨sound, silently⟩ := goesOn os sys proc empty
    exact ⟨sound, silently.trans (and_iff_right holds).symm⟩

end Rules

/-- A failing system call is reported. -/
theorem sysCallOr_error
    (call : Os σ → σ → Except Errno α) {os : Os σ} {sys : σ} {e : Errno}
    (answer : call os sys = .error e) (message : Option CStr) (context : CStr) (proc : Proc) :
    ∃ later, sysCallOr call message context os sys proc = (.failed, later) ∧ later.Reported := by
  obtain ⟨low, high⟩ := errnoToCode_errno e
  exact ⟨_, GetM.bind_value (sysCall_error answer), low, high⟩

/-- `errno` decides whether there is something to report. -/
theorem raiseErrno_run
    (message : Option CStr) (context : CStr) (os : Os σ) (sys : σ) (proc : Proc) :
    ∃ later, (raiseErrno message context : GetM σ α) os sys proc = (.failed, later) ∧
      later.Sound ∧ (later.err.code = Err.ok ↔ proc.errno = 0) := by
  obtain ⟨low, high, zero⟩ := errnoToCode_bounds proc.errno
  exact ⟨_, rfl, ⟨low, high⟩, zero⟩

/-! ## The context -/

theorem ctxNew_silentIff :
    (zenctlCtxNew : GetM σ Unit).SilentIff fun _ _ proc => proc.allocations.head? = some false := by
  intro os sys proc empty
  unfold zenctlCtxNew
  rw [GetM.bind_run]
  unfold allocate
  dsimp only
  rcases proc.allocations with _ | ⟨_ | _, rest⟩
  · exact ⟨Proc.sound_of_ok empty, iff_of_false (fun both => nomatch both.1) nofun⟩
  · exact ⟨Proc.sound_of_ok empty, iff_of_true ⟨rfl, empty⟩ rfl⟩
  · exact ⟨Proc.sound_of_ok empty, iff_of_false (fun both => nomatch both.1) nofun⟩

/-! ## Power supplies -/

/-- What `zenctl__read_file_string` makes of the file behind a path. -/
def textOf (os : Os σ) (sys : σ) (path : CStr) (size : Nat) : Option CStr :=
  match os.openRead sys (resolvePath os.sysfsRoot path) with
  | .error _ => none
  | .ok file =>
      if file.readError.isSome && file.bytes.length < size - 1 then none
      else some (bufferText size file.bytes)

theorem readFileString_text
    (os : Os σ) (sys : σ) (proc : Proc) (path : CStr) (size : Nat) :
    match textOf os sys path size with
    | some text => readFileString path size os sys proc = (.value text, proc)
    | none => ∃ errno err, readFileString path size os sys proc =
        (.failed, { proc with errno := errno, err := err }) := by
  unfold textOf readFileString
  rw [GetM.bind_run]
  unfold openResolved sysCallOr
  rw [GetM.bind_run]
  rcases answer : os.openRead sys (resolvePath os.sysfsRoot path) with e | file
  · rw [sysCall_error answer]
    exact ⟨_, _, rfl⟩
  · rw [sysCall_ok answer]
    dsimp only [GetM.pure_run]
    cases file.readError with
    | none => rfl
    | some e =>
        by_cases short : file.bytes.length < size - 1
        · simp only [short, Option.isSome_some, decide_true, Bool.and_self, if_true]
          exact ⟨_, _, rfl⟩
        · simp only [short, Option.isSome_some, decide_false, Bool.and_false, if_false,
            Bool.false_eq_true]
          rfl

theorem allocateOr_run
    (os : Os σ) (sys : σ) (proc : Proc) (message context : CStr) :
    allocateOr message context os sys proc =
      if proc.allocations.head? = some false then
        (.failed, { proc with
          errno := Errno.enomem.1, allocations := proc.allocations.tail,
          err := errRecord Err.nomem message context })
      else (.value (), { proc with allocations := proc.allocations.tail }) := by
  unfold allocateOr
  rw [GetM.bind_run]
  unfold allocate
  rcases proc with ⟨errno, err, _ | ⟨_ | _, rest⟩, nvml, family⟩
  · rfl
  · rfl
  · rfl

/-- It fails with a report or leaves the error record alone. -/
theorem allocateOr_cases
    (os : Os σ) (sys : σ) (proc : Proc) (message context : CStr) :
    (∃ later, allocateOr message context os sys proc = (.failed, later) ∧ later.Reported) ∨
      ∃ later, allocateOr message context os sys proc = (.value (), later) ∧ later.err = proc.err := by
  rw [allocateOr_run]
  split
  · exact .inl ⟨_, rfl, show (1 : Int) ≤ Err.nomem by decide, show Err.nomem ≤ (8 : Int) by decide⟩
  · exact .inr ⟨_, rfl, rfl⟩

theorem growArray_cases
    (os : Os σ) (sys : σ) (proc : Proc) (first capacity used : Nat) (message context : CStr) :
    (∃ later, growArray first capacity used message context os sys proc = (.failed, later) ∧
        later.Reported) ∨
      ∃ room later, growArray first capacity used message context os sys proc =
        (.value room, later) ∧ later.err = proc.err := by
  unfold growArray
  split
  · rcases allocateOr_cases os sys proc message context with ⟨later, run, reported⟩ | ⟨later, run, kept⟩
    · exact .inl ⟨later, GetM.bind_failed run, reported⟩
    · exact .inr ⟨_, later, GetM.bind_value run, kept⟩
  · exact .inr ⟨capacity, proc, rfl, rfl⟩

/-- Among these entries none is seen to have the type; a copy without memory is not seen. -/
def NoneOfType (typeOf : CStr → Option CStr) (want : CStr) : List CStr → List Bool → Prop
  | [], _ => True
  | name :: rest, memory =>
      if name.head? = some '.' then NoneOfType typeOf want rest memory
      else
        match typeOf name with
        | none => NoneOfType typeOf want rest memory
        | some type =>
            (memory.head? = some false ∨ type ≠ want) ∧ NoneOfType typeOf want rest memory.tail

/-- The type of a power supply. -/
def supplyType (os : Os σ) (sys : σ) (name : CStr) : Option CStr :=
  (textOf os sys (supplyPath name "type") 4096).map fun text => text.rdropWhile isSpace

/-- Reading the type of one supply. -/
theorem quietly_supplyType
    (os : Os σ) (sys : σ) (proc : Proc) (name : CStr) :
    ∃ errno, quietly (readStringAlloc (supplyPath name "type")) os sys proc =
      match supplyType os sys name with
      | none => (.value none, { proc with errno := errno })
      | some type =>
          (.value (if proc.allocations.head? = some false then none else some type),
            { proc with errno := errno, allocations := proc.allocations.tail }) := by
  have read := readFileString_text os sys proc (supplyPath name "type") 4096
  unfold supplyType
  cases found : textOf os sys (supplyPath name "type") 4096 with
  | none =>
      rw [found] at read
      obtain ⟨errno, err, read⟩ := read
      exact ⟨errno, quietly_failed (GetM.bind_failed read)⟩
  | some text =>
      rw [found] at read
      dsimp only at read
      dsimp only [Option.map_some]
      have copied := allocateOr_run os sys proc "strdup failed" "read_string_alloc"
      by_cases full : proc.allocations.head? = some false
      · rw [if_pos full] at copied ⊢
        have failed : readStringAlloc (supplyPath name "type") os sys proc = _ :=
          (GetM.bind_value read).trans (GetM.bind_failed copied)
        exact ⟨_, quietly_failed failed⟩
      · rw [if_neg full] at copied ⊢
        have value : readStringAlloc (supplyPath name "type") os sys proc = _ :=
          (GetM.bind_value read).trans (GetM.bind_value copied)
        exact ⟨_, quietly_value value⟩

/--
The directory loop either fails for want of memory, and reports that, or comes
back with the error record as it was and with nothing just when nothing is seen.
-/
theorem collectSupplies_cases
    (os : Os σ) (sys : σ) (want : CStr) (names : List CStr) (capacity : Nat) (found : List CStr)
    (proc : Proc) :
    (∃ later, collectSupplies want capacity found names os sys proc = (.failed, later) ∧
        later.Reported ∧ ¬(found = [] ∧ NoneOfType (supplyType os sys) want names proc.allocations)) ∨
      ∃ list later, collectSupplies want capacity found names os sys proc = (.value list, later) ∧
        later.err = proc.err ∧
          (list = [] ↔ found = [] ∧ NoneOfType (supplyType os sys) want names proc.allocations) := by
  induction names generalizing capacity found proc with
  | nil => exact .inr ⟨found, proc, rfl, rfl, (and_iff_left trivial).symm⟩
  | cons name rest inductionHypothesis =>
      unfold NoneOfType
      by_cases hidden : name.head? = some '.'
      · rw [collectSupplies, if_pos hidden, if_pos hidden]
        exact inductionHypothesis capacity found proc
      · rw [collectSupplies, if_neg hidden, if_neg hidden]
        obtain ⟨errno, run⟩ := quietly_supplyType os sys proc name
        cases typed : supplyType os sys name with
        | none =>
            rw [typed] at run
            rw [GetM.bind_value run]
            exact inductionHypothesis capacity found { proc with errno := errno }
        | some type =>
            rw [typed] at run
            dsimp only at run ⊢
            rw [GetM.bind_value run]
            by_cases full : proc.allocations.head? = some false
            · rw [if_pos full]
              simp only [full, true_or, true_and]
              exact inductionHypothesis capacity found _
            · rw [if_neg full]
              simp only [full, false_or]
              by_cases same : type = want
              · -- a supply of the type is seen, so the list cannot stay empty
                have seen : ∀ rest : Prop, ¬(found = [] ∧ type ≠ want ∧ rest) := fun _ both =>
                  both.2.1 same
                rw [if_pos same]
                rcases growArray_cases os sys { proc with
                    errno := errno, allocations := proc.allocations.tail } 8 capacity found.length
                    "realloc failed" "list_supplies_by_type" with
                  ⟨later, grown, reported⟩ | ⟨room, later, grown, kept⟩
                · exact .inl ⟨later, GetM.bind_failed grown, reported, seen _⟩
                rw [GetM.bind_value grown]
                rcases allocateOr_cases os sys later "strdup failed" "list_supplies_by_type" with
                  ⟨final, copied, reported⟩ | ⟨final, copied, keptCopy⟩
                · exact .inl ⟨final, GetM.bind_failed copied, reported, seen _⟩
                rw [GetM.bind_value copied]
                rcases inductionHypothesis room (found ++ [name]) final with
                  ⟨last, failed, reported, _⟩ | ⟨list, last, value, keptLast, empty⟩
                · exact .inl ⟨last, failed, reported, seen _⟩
                · refine .inr ⟨list, last, value, keptLast.trans (keptCopy.trans kept), ?_⟩
                  refine iff_of_false (fun none => ?_) (seen _)
                  exact List.append_ne_nil_of_right_ne_nil found (List.cons_ne_nil name [])
                    (empty.mp none).1
              · rw [if_neg same]
                simp only [ne_eq, same, not_false_eq_true, true_and]
                exact inductionHypothesis capacity found _

/-- No supply of the type is seen in a directory that can be listed. -/
def NoSupply (want : CStr) (os : Os σ) (sys : σ) (proc : Proc) : Prop :=
  ∃ names, os.listDir sys powerSupplyDir = .ok names ∧
    NoneOfType (supplyType os sys) want names proc.allocations

theorem listSuppliesByType_silentIff (want : CStr) :
    (listSuppliesByType want : GetM σ (List CStr)).SilentIff (NoSupply want) := by
  intro os sys proc empty
  unfold listSuppliesByType NoSupply
  cases listed : os.listDir sys powerSupplyDir with
  | error e =>
      obtain ⟨later, run, reported⟩ := sysCallOr_error
        (fun os sys => os.listDir sys powerSupplyDir) listed none powerSupplyDir proc
      rw [GetM.bind_failed run]
      refine ⟨reported.sound, iff_of_false (fun both => reported.not_ok both.2) ?_⟩
      rintro ⟨_, ⟨⟩, _⟩
  | ok names =>
      have run : sysCallOr (fun os sys => os.listDir sys powerSupplyDir) none powerSupplyDir os sys
          proc = (.value names, proc) := GetM.bind_value (sysCall_ok listed)
      rw [GetM.bind_value run]
      rcases collectSupplies_cases os sys want names 0 [] proc with
        ⟨later, failed, reported, seen⟩ | ⟨list, later, value, kept, unseen⟩
      · rw [GetM.bind_failed failed]
        refine ⟨reported.sound, iff_of_false (fun both => reported.not_ok both.2) ?_⟩
        rintro ⟨_, ⟨⟩, none⟩
        exact seen ⟨rfl, none⟩
      · rw [GetM.bind_value value]
        have emptyLater : later.err.code = Err.ok := by rw [kept, empty]
        by_cases nothing : list = []
        · rw [if_pos nothing]
          exact ⟨Proc.sound_of_ok emptyLater,
            iff_of_true ⟨rfl, emptyLater⟩ ⟨names, rfl, (unseen.mp nothing).2⟩⟩
        · rw [if_neg nothing]
          refine ⟨Proc.sound_of_ok emptyLater, iff_of_false (fun both => nomatch both.1) ?_⟩
          rintro ⟨_, ⟨⟩, none⟩
          exact nothing (unseen.mpr ⟨rfl, none⟩)

theorem nthBatteryName_silentIff (index : Int) :
    (nthBatteryName index : GetM σ CStr).SilentIff (NoSupply "Battery") :=
  (listSuppliesByType_silentIff "Battery").bind fun _ => .ite (.raise (by decide) (by decide) _ _)
    (.bind (allocateOr_reports _ _) fun _ => .pure _)

theorem readSupplyInt64_reports (name key : CStr) (unset : Int) :
    (readSupplyInt64 name key unset : GetM σ Int).Reports :=
  .bind (quietly_quiet _).reports fun _ => .pure _

theorem readSupplyString_reports (name key : CStr) (size : Nat) :
    (readSupplyString name key size : GetM σ CStr).Reports :=
  .bind (quietly_quiet _).reports fun _ => .pure _

theorem batteryCount_silentIff :
    (zenctlPowerBatteryCount : GetM σ Int).SilentIff (NoSupply "Battery") :=
  (listSuppliesByType_silentIff "Battery").bind fun _ => .pure _

theorem batteryGet_silentIff (index : Int) :
    (zenctlPowerBatteryGet index : GetM σ Battery).SilentIff fun os sys proc =>
      ¬index < 0 ∧ NoSupply "Battery" os sys proc :=
  .unless (.raise (by decide) (by decide) _ _) <| (nthBatteryName_silentIff index).bind fun _ =>
    .bind (readSupplyString_reports _ _ _) fun _ => .bind (readSupplyString_reports _ _ _) fun _ =>
    .bind (readSupplyInt64_reports _ _ _) fun _ => .bind (readSupplyInt64_reports _ _ _) fun _ =>
    .bind (readSupplyInt64_reports _ _ _) fun _ => .bind (readSupplyInt64_reports _ _ _) fun _ =>
    .bind (readSupplyInt64_reports _ _ _) fun _ => .bind (readSupplyInt64_reports _ _ _) fun _ =>
    .bind (readSupplyInt64_reports _ _ _) fun _ => .pure _

theorem getChargeThreshold_silentIff (index : Int) (key unsupported caller : CStr) :
    (getChargeThreshold index key unsupported caller : GetM σ Int).SilentIff fun os sys proc =>
      ¬index < 0 ∧ NoSupply "Battery" os sys proc := by
  refine .unless (.raise (by decide) (by decide) _ _) <| (nthBatteryName_silentIff index).bind
    fun name => .bind (readFileI64_reports _).attempt fun value => ?_
  cases value with
  | none => exact reports_unless_filled (.raise (by decide) (by decide) _ _)
  | some v => exact .ite (.raise (by decide) (by decide) _ _) (.pure _)

theorem setChargeThreshold_silentIff (index percent : Int) (key caller : CStr) :
    (setChargeThreshold index percent key caller : SetM σ Unit).SilentIff fun os sys proc =>
      ¬(index < 0 ∨ percent < 0 ∨ 100 < percent) ∧ NoSupply "Battery" os sys proc :=
  .unless (.getting (.raise (by decide) (by decide) _ _))
    ((nthBatteryName_silentIff index).before fun _ => writeFileString_reports _ _)

theorem anyOnline_reports (names : List CStr) :
    (anyOnline names : GetM σ Bool).Reports := by
  induction names with
  | nil => exact .pure _
  | cons name rest inductionHypothesis =>
      exact .bind (quietly_quiet _).reports fun _ => .ite (.pure _) inductionHypothesis

theorem acOnline_silentIff :
    (zenctlPowerAcOnline : GetM σ Bool).SilentIff (NoSupply "Mains") :=
  (listSuppliesByType_silentIff "Mains").bind anyOnline_reports

/-! ## Disk statistics -/

/-- A `stat` file without a line, read without an error while `errno` is zero. -/
def EmptyStat (st : StorageHandle) (os : Os σ) (sys : σ) (proc : Proc) : Prop :=
  proc.errno = 0 ∧ ∃ file, os.openRead sys (storagePath st "/stat") = .ok file ∧
    file.lines 1024 = [] ∧ file.readError = none

theorem readStatLine_silentIff (st : StorageHandle) :
    (readStatLine (storagePath st "/stat") : GetM σ CStr).SilentIff (EmptyStat st) := by
  intro os sys proc empty
  unfold readStatLine EmptyStat openPath
  cases opened : os.openRead sys (storagePath st "/stat") with
  | error e =>
      obtain ⟨later, run, reported⟩ := sysCallOr_error
        (fun os sys => os.openRead sys (storagePath st "/stat")) opened none (storagePath st "/stat")
        proc
      rw [GetM.bind_failed run]
      refine ⟨reported.sound, iff_of_false (fun both => reported.not_ok both.2) ?_⟩
      rintro ⟨_, _, ⟨⟩, _⟩
  | ok file =>
      have run : sysCallOr (fun os sys => os.openRead sys (storagePath st "/stat")) none
          (storagePath st "/stat") os sys proc = (.value file, proc) :=
        GetM.bind_value (sysCall_ok opened)
      rw [GetM.bind_value run]
      cases lines : file.lines 1024 with
      | cons line rest =>
          refine ⟨Proc.sound_of_ok empty, iff_of_false (fun both => nomatch both.1) ?_⟩
          rintro ⟨_, _, ⟨⟩, none, _⟩
          rw [lines] at none
          cases none
      | nil =>
          cases broken : file.readError with
          | some e =>
              obtain ⟨low, high⟩ := errnoToCode_errno e
              have reported : ({ proc with
                  errno := e.1
                  err := errRecord (errnoToCode e.1) "cannot read stat file"
                    (storagePath st "/stat") } : Proc).Reported := ⟨low, high⟩
              refine ⟨reported.sound, iff_of_false (fun both => reported.not_ok both.2) ?_⟩
              rintro ⟨_, _, ⟨⟩, _, whole⟩
              rw [broken] at whole
              cases whole
          | none =>
              obtain ⟨later, raised, sound, zero⟩ := raiseErrno_run (some "cannot read stat file".toList)
                (storagePath st "/stat") os sys proc
              dsimp only
              rw [raised]
              exact ⟨sound, ⟨fun both => ⟨zero.mp both.2, file, rfl, lines, broken⟩,
                fun silent => ⟨rfl, zero.mpr silent.1⟩⟩⟩

theorem getIoStats_silentIff (st : StorageHandle) :
    (zenctlStorageGetIoStats st : GetM σ IoStats).SilentIff (EmptyStat st) :=
  (readStatLine_silentIff st).bind fun _ => .ite (.raise (by decide) (by decide) _ _) (.pure _)

/-! ## `nl80211.c` -/

/-- A walk that was stopped was stopped by one of the messages. -/
theorem walk_stopped
    {d : Datagram} {visit : β → Nat → Visit α β} {rounds : Nat} {state : β} {offset remaining : Nat}
    {result : α} (stopped : d.walk visit rounds state offset remaining = .inl result) :
    ∃ state offset, visit state offset = .stop result := by
  induction rounds generalizing state offset remaining with
  | zero => cases stopped
  | succ rounds inductionHypothesis =>
      unfold Datagram.walk at stopped
      split at stopped
      · cases stopped
      · split at stopped
        · cases stopped
        · cases visited : visit state offset with
          | stop found =>
              rw [visited] at stopped
              cases stopped
              exact ⟨state, offset, visited⟩
          | skip next =>
              rw [visited] at stopped
              exact inductionHypothesis stopped

/-- A query that is refused has an error. -/
theorem answer_nonzero
    {d : Datagram} {read : Datagram → Nat → Except Errno α} {e : Int}
    (refused : d.messages (visitAnswer d read) false = .inl (.refused e)) :
    e ≠ 0 := by
  obtain ⟨multi, offset, stops⟩ := walk_stopped refused
  unfold visitAnswer at stops
  split at stops
  · split at stops
    · cases stops
    · cases stops
      assumption
  · split at stops
    · cases stops
    · split at stops
      · cases stops
      · cases stops

/-- The family lookup leaves `errno` alone or sets it to an error. -/
theorem familyOf_nonzero
    {d : Datagram} {e : Int} (refused : familyOf d = .error (some e)) :
    e ≠ 0 := by
  unfold familyOf at refused
  cases walked : d.messages (visitFamily d) none with
  | inr skipped =>
      rw [walked] at refused
      cases refused
      decide
  | inl result =>
      rw [walked] at refused
      cases refused
      obtain ⟨skipped, offset, stops⟩ := walk_stopped walked
      unfold visitFamily at stops
      split at stops
      · split at stops
        · cases skipped with
          | none => cases stops
          | some skipped =>
              cases stops
              exact Int.ne_of_gt skipped.2
        · cases stops
          assumption
      · split at stops
        · cases stops
        · cases stops

section SettingErrno

theorem GetM.SetsErrno.found (value : α) :
    (pure (some value) : GetM σ (Option α)).SetsErrno never :=
  ⟨.pure _, fun _ _ _ => iff_false_intro fun silent => nomatch silent.1⟩

theorem GetM.SetsErrno.refuse
    {e : Int} (nonzero : e ≠ 0) :
    (setErrno e >>= fun _ => pure none : GetM σ (Option α)).SetsErrno never :=
  ⟨.bind (setErrno_quiet e) fun _ => .pure _, fun _ _ _ =>
    iff_false_intro fun silent => nonzero silent.2⟩

theorem GetM.SetsErrno.block :
    (Zenctl.block : GetM σ (Option α)).SetsErrno never :=
  ⟨block_quiet, fun _ _ _ => iff_false_intro fun silent => nomatch silent.1⟩

theorem GetM.SetsErrno.ite
    {condition : Prop} [Decidable condition] {first second : GetM σ (Option α)}
    (yes : first.SetsErrno never) (no : second.SetsErrno never) :
    (if condition then first else second).SetsErrno never := by
  split
  · exact yes
  · exact no

/-- A first function that returns `-1` ends the second one, with its `errno`. -/
theorem GetM.SetsErrno.bind
    {silent : Os σ → σ → Proc → Prop} {program : GetM σ (Option α)}
    {next : Option α → GetM σ (Option β)} (first : program.SetsErrno silent)
    (second : ∀ value, (next (some value)).SetsErrno never) (stops : next none = pure none) :
    (program >>= next).SetsErrno silent := by
  refine ⟨.bind first.1 fun value => ?_, fun os sys proc => ?_⟩
  · cases value with
    | none =>
        rw [stops]
        exact .pure _
    | some value => exact (second value).1
  · have silently := first.2 os sys proc
    have returns := (first.1 os sys proc).1
    rw [GetM.bind_run]
    rcases run : program os sys proc with ⟨(_ | value) | _ | _, later⟩
    · rw [run] at silently
      dsimp only
      rw [stops]
      exact ⟨fun both => silently.mp ⟨rfl, both.2⟩, fun holds => ⟨rfl, (silently.mpr holds).2⟩⟩
    · rw [run] at silently
      refine iff_of_false ((second value).2 os sys later).mp fun holds => ?_
      cases (silently.mpr holds).1
    · rw [run] at returns
      exact absurd rfl returns
    · rw [run] at silently
      refine iff_of_false (fun both => nomatch both.1) fun holds => ?_
      cases (silently.mpr holds).1

theorem GetM.SetsErrno.after
    {program : GetM σ α} {next : α → GetM σ (Option β)} (first : program.Quiet)
    (second : ∀ value, (next value).SetsErrno never) :
    (program >>= next).SetsErrno never := by
  refine ⟨.bind first fun value => (second value).1, fun os sys proc => iff_false_intro ?_⟩
  rw [GetM.bind_run]
  rcases program os sys proc with ⟨value | _ | _, later⟩
  · exact ((second value).2 os sys later).mp
  · exact fun both => nomatch both.1
  · exact fun both => nomatch both.1

/-- An allocation that fails sets `errno`. -/
theorem GetM.SetsErrno.allocate
    {next : GetM σ (Option α)} (sets : next.SetsErrno never) :
    (Zenctl.allocate >>= fun there => if there then next else pure none).SetsErrno never := by
  refine ⟨.bind allocate_quiet fun _ => .ite sets.1 (.pure _), fun os sys proc => iff_false_intro ?_⟩
  rw [GetM.bind_run]
  unfold Zenctl.allocate
  rcases proc.allocations with _ | ⟨_ | _, rest⟩
  · exact (sets.2 os sys _).mp
  · exact fun both => absurd both.2 (by decide : Errno.enomem.1 ≠ 0)
  · exact (sets.2 os sys _).mp

theorem checkSent_quiet (request : Bytes) (sent : Except Errno Nat) :
    (checkSent request sent : GetM σ Bool).Quiet := by
  unfold checkSent
  split
  · exact .bind (setErrno_quiet _) fun _ => .pure _
  · exact .ite (.pure _) (.bind (setErrno_quiet _) fun _ => .pure _)

theorem checkSent_part
    {request : Bytes} {sent : Except Errno Nat} (part : sent ≠ .ok request.length)
    (os : Os σ) (sys : σ) (proc : Proc) :
    ∃ errno, checkSent request sent os sys proc = (.value false, { proc with errno := errno }) ∧
      errno ≠ 0 := by
  unfold checkSent
  split
  · rename_i e
    exact ⟨e.1, rfl, Int.ne_of_gt e.2⟩
  · rw [if_neg fun same => part (congrArg Except.ok same)]
    exact ⟨_, rfl, by decide⟩

/-- A request that is not sent as a whole sets `errno`. -/
theorem checkSent_then
    {next : GetM σ (Option α)} (sets : next.SetsErrno never) (request : Bytes)
    (sent : Except Errno Nat) :
    (checkSent request sent >>= fun whole => if whole then next else pure none).SetsErrno never := by
  refine ⟨.bind (checkSent_quiet _ _) fun _ => .ite sets.1 (.pure _), fun os sys proc =>
    iff_false_intro ?_⟩
  unfold checkSent
  split
  · rename_i e
    exact fun both => absurd both.2 (Int.ne_of_gt e.2)
  · split
    · exact (sets.2 os sys proc).mp
    · exact fun both => absurd both.2 (by decide : Errno.eio.1 ≠ 0)

theorem recvAll_setsErrno (replies : List (Except Errno Datagram)) :
    (recvAll replies : GetM σ _).SetsErrno never := by
  refine .allocate ?_
  split
  · exact .block
  · rename_i e _
    exact .refuse (Int.ne_of_gt e.2)
  · exact .found _

theorem buildOr_setsErrno (valid : Bool) (request : Option Bytes) :
    (buildOr valid request : GetM σ (Option Bytes)).SetsErrno never := by
  refine .ite ?_ (.refuse (by decide))
  cases request with
  | none => exact .refuse (by decide)
  | some bytes => exact .found bytes

theorem queryLoop_setsErrno
    (read : Datagram → Nat → Except Errno α) (replies : List (Except Errno Datagram)) :
    (queryLoop read replies : GetM σ (Option α)).SetsErrno never := by
  induction replies with
  | nil => exact .allocate .block
  | cons reply rest inductionHypothesis =>
      refine .bind (recvAll_setsErrno [reply]) (fun received => ?_) rfl
      obtain ⟨d, _⟩ := received
      dsimp only
      split
      · exact .found _
      · rename_i e refused
        exact .refuse (answer_nonzero refused)
      · exact inductionHypothesis
      · exact .refuse (by decide)
      · exact .refuse (by decide)

theorem doQuery_setsErrno (request : Bytes) (read : Datagram → Nat → Except Errno α) :
    (doQuery request read : GetM σ (Option α)).SetsErrno never :=
  .bind (sysCall_setsErrno _) (fun _ => .after (fun _ _ _ => ⟨nofun, rfl⟩) fun _ =>
    checkSent_then (queryLoop_setsErrno _ _) _ _) rfl

/-- The request of the family lookup. -/
def getfamilyRequest : Bytes :=
  (buildRequest 128 genlIdCtrl ctrlCmdGetfamily
    [(ctrlAttrFamilyName, cstrBytes "nl80211" ++ [0])]).getD []

/--
The family is not known yet, and the first datagram of the reply to its lookup
ends with an acknowledgement before any message was skipped.
-/
def FamilySilent (os : Os σ) (sys : σ) (proc : Proc) : Prop :=
  proc.errno = 0 ∧ proc.familyId = none ∧ proc.allocations.head? ≠ some false ∧
    os.netlinkSocket sys = .ok () ∧
    (os.netlinkGet sys getfamilyRequest).sent = .ok getfamilyRequest.length ∧
    ∃ d later, (os.netlinkGet sys getfamilyRequest).replies = .ok d :: later ∧
      familyOf d = .error none

theorem recvAll_run
    (replies : List (Except Errno Datagram)) (os : Os σ) (sys : σ) (proc : Proc) :
    recvAll replies os sys proc =
      if proc.allocations.head? = some false then
        (.value none, { proc with errno := Errno.enomem.1, allocations := proc.allocations.tail })
      else
        match replies with
        | [] => (.blocked, { proc with allocations := proc.allocations.tail })
        | .error e :: _ =>
            (.value none, { proc with errno := e.1, allocations := proc.allocations.tail })
        | .ok d :: rest =>
            (.value (some (d, rest)), { proc with allocations := proc.allocations.tail }) := by
  unfold recvAll
  rw [GetM.bind_run]
  unfold allocate
  rcases proc with ⟨errno, err, _ | ⟨_ | _, memory⟩, nvml, family⟩
  · rcases replies with _ | ⟨_ | _, _⟩
    · rfl
    · rfl
    · rfl
  · rfl
  · rcases replies with _ | ⟨_ | _, _⟩
    · rfl
    · rfl
    · rfl

/-- What the lookup makes of the reply, exactly. -/
theorem receiveFamily_setsErrno (replies : List (Except Errno Datagram)) :
    (recvAll replies >>= fun received =>
      match received with
      | none => pure none
      | some (d, _) =>
          match familyOf d with
          | .ok id => do
              getFamilyId.cacheFamily id
              pure (some id)
          | .error (some e) => do
              setErrno e
              pure none
          | .error none => pure none : GetM σ (Option Int)).SetsErrno fun _ _ proc =>
        proc.errno = 0 ∧ proc.allocations.head? ≠ some false ∧
          ∃ d later, replies = .ok d :: later ∧ familyOf d = .error none := by
  refine ⟨.bind (recvAll_setsErrno _).1 fun received => ?_, fun os sys proc => ?_⟩
  · rcases received with _ | ⟨d, _⟩
    · exact .pure _
    · dsimp only
      split
      · exact .bind (fun _ _ _ => ⟨nofun, rfl⟩) fun _ => .pure _
      · exact .bind (setErrno_quiet _) fun _ => .pure _
      · exact .pure _
  · rw [GetM.bind_run, recvAll_run]
    by_cases full : proc.allocations.head? = some false
    · rw [if_pos full]
      exact iff_of_false (fun both => absurd both.2 (by decide : Errno.enomem.1 ≠ 0))
        fun silent => silent.2.1 full
    rw [if_neg full]
    rcases replies with _ | ⟨e | d, later⟩
    · refine iff_of_false (fun both => nomatch both.1) ?_
      rintro ⟨_, _, _, _, ⟨⟩, _⟩
    · refine iff_of_false (fun both => absurd both.2 (Int.ne_of_gt e.2)) ?_
      rintro ⟨_, _, _, _, ⟨⟩, _⟩
    · dsimp only
      rcases looked : familyOf d with (_ | e) | id
      · exact ⟨fun both => ⟨both.2, full, d, later, rfl, looked⟩, fun silent => ⟨rfl, silent.1⟩⟩
      · refine iff_of_false (fun both => familyOf_nonzero looked both.2) ?_
        rintro ⟨_, _, _, _, ⟨⟩, silent⟩
        rw [looked] at silent
        cases silent
      · refine iff_of_false (fun both => nomatch both.1) ?_
        rintro ⟨_, _, _, _, ⟨⟩, silent⟩
        rw [looked] at silent
        cases silent

theorem getFamilyId_setsErrno :
    (getFamilyId : GetM σ (Option Int)).SetsErrno FamilySilent := by
  have built : buildRequest 128 genlIdCtrl ctrlCmdGetfamily
      [(ctrlAttrFamilyName, cstrBytes "nl80211" ++ [0])] = some getfamilyRequest := rfl
  have receives := @receiveFamily_setsErrno σ
  constructor
  · refine .bind (fun _ _ _ => ⟨nofun, rfl⟩) fun cached => ?_
    cases cached with
    | some id => exact .pure _
    | none =>
        refine .bind (buildOr_setsErrno _ _).1 fun request => ?_
        cases request with
        | none => exact .pure _
        | some request =>
            refine .bind (sysCall_quiet _) fun socket => ?_
            cases socket with
            | none => exact .pure _
            | some _ =>
                exact .bind (fun _ _ _ => ⟨nofun, rfl⟩) fun exchange =>
                  .bind (checkSent_quiet _ _) fun _ => .ite (receives _).1 (.pure _)
  · intro os sys proc
    unfold FamilySilent getFamilyId
    cases family : proc.familyId with
    | some id =>
        have cached : getFamilyId.cachedFamily os sys proc = (.value (some id), proc) := by
          rw [← family]
          rfl
        rw [GetM.bind_value cached]
        refine iff_of_false (fun both => nomatch both.1) ?_
        rintro ⟨_, ⟨⟩, _⟩
    | none =>
        have cached : getFamilyId.cachedFamily os sys proc = (.value none, proc) := by
          rw [← family]
          rfl
        have builds : buildGetfamily 128 os sys proc = (.value (some getfamilyRequest), proc) := by
          unfold buildGetfamily
          rw [built]
          rfl
        rw [GetM.bind_value cached]
        dsimp only
        rw [GetM.bind_value builds]
        dsimp only
        cases socket : os.netlinkSocket sys with
        | error e =>
            rw [GetM.bind_value (sysCall_error socket)]
            refine iff_of_false (fun both => absurd both.2 (Int.ne_of_gt e.2)) ?_
            rintro ⟨_, _, _, ⟨⟩, _⟩
        | ok _ =>
            have asked : doQuery.exchangeGet getfamilyRequest os sys proc =
                (.value (os.netlinkGet sys getfamilyRequest), proc) := rfl
            rw [GetM.bind_value (sysCall_ok socket)]
            dsimp only
            rw [GetM.bind_value asked]
            by_cases whole : (os.netlinkGet sys getfamilyRequest).sent = .ok getfamilyRequest.length
            · rw [GetM.bind_value (checkSent_whole whole), if_pos rfl]
              have received := (receives (os.netlinkGet sys getfamilyRequest).replies).2 os sys proc
              exact received.trans ⟨fun silent => ⟨silent.1, rfl, silent.2.1, rfl, whole, silent.2.2⟩,
                fun silent => ⟨silent.1, silent.2.2.1, silent.2.2.2.2.2⟩⟩
            · refine iff_of_false ?_ fun silent => whole silent.2.2.2.2.1
              obtain ⟨errno, refused, nonzero⟩ := checkSent_part whole os sys proc
              rw [GetM.bind_value refused]
              exact fun both => nonzero both.2

theorem familyQuery_setsErrno
    {build : Int → GetM σ (Option Bytes)} (builds : ∀ family, (build family).SetsErrno never)
    (read : Datagram → Nat → Except Errno α) :
    (familyQuery build read).SetsErrno FamilySilent :=
  .bind getFamilyId_setsErrno (fun family =>
    .bind (builds family) (fun request => doQuery_setsErrno request read) rfl) rfl

/-- `raiseErrno` after such a function is silent just where the function is. -/
theorem orErrno_silentIff
    {silent : Os σ → σ → Proc → Prop} {program : GetM σ (Option α)}
    (sets : program.SetsErrno silent) (caller : CStr) :
    (orErrno program caller).SilentIff silent := by
  intro os sys proc empty
  obtain ⟨returns, kept⟩ := sets.1 os sys proc
  have silently := sets.2 os sys proc
  unfold orErrno
  rw [GetM.bind_run]
  rcases run : program os sys proc with ⟨(_ | value) | _ | _, later⟩
  · rw [run] at silently
    obtain ⟨final, raised, sound, zero⟩ := raiseErrno_run none caller os sys later
    dsimp only
    rw [raised]
    exact ⟨sound, ⟨fun both => silently.mp ⟨rfl, zero.mp both.2⟩,
      fun holds => ⟨rfl, zero.mpr (silently.mpr holds).2⟩⟩⟩
  · rw [run] at silently kept
    refine ⟨Proc.sound_of_ok ((congrArg Err.code kept).trans empty), ?_⟩
    exact iff_of_false (fun both => nomatch both.1) fun holds => nomatch (silently.mpr holds).1
  · rw [run] at returns
    exact absurd rfl returns
  · rw [run] at silently kept
    refine ⟨Proc.sound_of_ok ((congrArg Err.code kept).trans empty), ?_⟩
    exact iff_of_false (fun both => nomatch both.1) fun holds => nomatch (silently.mpr holds).1

theorem getRegdomain_silentIff (wl : WirelessHandle) :
    (zenctlWirelessGetRegdomain wl : GetM σ CStr).SilentIff FamilySilent :=
  (orErrno_silentIff (familyQuery_setsErrno (fun _ => buildOr_setsErrno _ _) _) _).bind fun _ =>
    .bind (allocateOr_reports _ _) fun _ => .pure _

/-- An argument that is refused with `errno` set. -/
theorem GetM.SetsErrno.unless
    {silent : Os σ → σ → Proc → Prop} {condition : Prop} [Decidable condition]
    {first second : GetM σ (Option α)} (refused : first.SetsErrno never)
    (goesOn : second.SetsErrno silent) :
    (if condition then first else second).SetsErrno fun os sys proc =>
      ¬condition ∧ silent os sys proc := by
  by_cases holds : condition
  · rw [if_pos holds]
    exact ⟨refused.1, fun os sys proc => iff_of_false (refused.2 os sys proc).mp fun both =>
      both.1 holds⟩
  · rw [if_neg holds]
    exact ⟨goesOn.1, fun os sys proc => (goesOn.2 os sys proc).trans (and_iff_right holds).symm⟩

theorem getTxpower_silentIff (wl : WirelessHandle) :
    (zenctlWirelessGetTxpower wl : GetM σ Int).SilentIff fun os sys proc =>
      ¬wl.index < 0 ∧ FamilySilent os sys proc :=
  orErrno_silentIff (.unless (.refuse (by decide))
    (familyQuery_setsErrno (fun _ => buildOr_setsErrno _ _) _)) _

/-- The same of a function that changes the system. -/
def SetM.SetsErrno (program : SetM σ (Option Unit)) (silent : Os σ → σ → Proc → Prop) : Prop :=
  ∀ os sys proc,
    (program os sys proc).1 ≠ .failed ∧ (program os sys proc).2.2.err = proc.err ∧
      ((program os sys proc).1 = .value none ∧ (program os sys proc).2.2.errno = 0 ↔
        silent os sys proc)

theorem SetM.SetsErrno.getting
    {silent : Os σ → σ → Proc → Prop} {program : GetM σ (Option Unit)}
    (sets : program.SetsErrno silent) :
    (Zenctl.getting program).SetsErrno silent :=
  fun os sys proc => ⟨(sets.1 os sys proc).1, (sets.1 os sys proc).2, sets.2 os sys proc⟩

theorem SetM.SetsErrno.bind
    {silent : Os σ → σ → Proc → Prop} {program : GetM σ (Option α)}
    {next : Option α → SetM σ (Option Unit)} (first : program.SetsErrno silent)
    (second : ∀ value, (next (some value)).SetsErrno never) (stops : next none = pure none) :
    (Zenctl.getting program >>= next).SetsErrno silent := by
  intro os sys proc
  obtain ⟨returns, kept⟩ := first.1 os sys proc
  have silently := first.2 os sys proc
  rcases run : program os sys proc with ⟨(_ | value) | _ | _, later⟩
  · rw [SetM.bind_getting_value run, stops]
    rw [run] at silently kept
    exact ⟨nofun, kept, ⟨fun both => silently.mp ⟨rfl, both.2⟩,
      fun holds => ⟨rfl, (silently.mpr holds).2⟩⟩⟩
  · rw [SetM.bind_getting_value run]
    rw [run] at silently kept
    obtain ⟨returnsLater, keptLater, loud⟩ := second value os sys later
    exact ⟨returnsLater, keptLater.trans kept,
      iff_of_false loud.mp fun holds => nomatch (silently.mpr holds).1⟩
  · rw [run] at returns
    exact absurd rfl returns
  · rw [SetM.bind_getting_blocked run]
    rw [run] at silently kept
    exact ⟨nofun, kept, iff_of_false (fun both => nomatch both.1) fun holds =>
      nomatch (silently.mpr holds).1⟩

theorem SetM.SetsErrno.unless
    {silent : Os σ → σ → Proc → Prop} {condition : Prop} [Decidable condition]
    {first second : SetM σ (Option Unit)} (refused : first.SetsErrno never)
    (goesOn : second.SetsErrno silent) :
    (if condition then first else second).SetsErrno fun os sys proc =>
      ¬condition ∧ silent os sys proc := by
  intro os sys proc
  by_cases holds : condition
  · rw [if_pos holds]
    obtain ⟨returns, kept, loud⟩ := refused os sys proc
    exact ⟨returns, kept, iff_of_false loud.mp fun both => both.1 holds⟩
  · rw [if_neg holds]
    obtain ⟨returns, kept, silently⟩ := goesOn os sys proc
    exact ⟨returns, kept, silently.trans (and_iff_right holds).symm⟩

theorem SetM.SetsErrno.found :
    (pure (some ()) : SetM σ (Option Unit)).SetsErrno never :=
  fun _ _ _ => ⟨nofun, rfl, iff_false_intro fun silent => nomatch silent.1⟩

theorem doAck_setsErrno (request : Bytes) :
    (doAck request : SetM σ (Option Unit)).SetsErrno never := by
  refine .bind (sysCall_setsErrno _) (fun _ os sys proc => ?_) rfl
  have asked : doAck.exchangeSet request os sys proc =
      (.value (os.netlinkSet sys request).1, (os.netlinkSet sys request).2, proc) := rfl
  dsimp only
  rw [SetM.bind_value asked]
  by_cases whole : (os.netlinkSet sys request).1.sent = .ok request.length
  · rw [SetM.bind_getting_value (checkSent_whole whole), if_pos rfl]
    refine SetM.SetsErrno.bind (recvAll_setsErrno _) (fun received => ?_) rfl os _ proc
    obtain ⟨d, _⟩ := received
    dsimp only
    split
    · exact .found
    · rename_i refused
      exact .getting (.refuse refused)
  · obtain ⟨errno, refused, nonzero⟩ := checkSent_part whole os (os.netlinkSet sys request).2 proc
    rw [SetM.bind_getting_value refused]
    exact ⟨nofun, rfl, iff_false_intro fun silent => nonzero silent.2⟩

theorem familyCommand_setsErrno
    {build : Int → GetM σ (Option Bytes)} (builds : ∀ family, (build family).SetsErrno never) :
    (familyCommand build).SetsErrno FamilySilent :=
  .bind getFamilyId_setsErrno (fun family =>
    .bind (builds family) (fun request => doAck_setsErrno request) rfl) rfl

theorem orErrnoSet_silentIff
    {silent : Os σ → σ → Proc → Prop} {program : SetM σ (Option Unit)}
    (sets : program.SetsErrno silent) (caller : CStr) :
    (orErrnoSet program caller).SilentIff silent := by
  intro os sys proc empty
  obtain ⟨returns, kept, silently⟩ := sets os sys proc
  unfold orErrnoSet
  rw [SetM.bind_run]
  rcases run : program os sys proc with ⟨(_ | value) | _ | _, changed, later⟩
  · rw [run] at silently
    obtain ⟨final, raised, sound, zero⟩ := raiseErrno_run none caller os changed later
    dsimp only [getting_run]
    rw [raised]
    exact ⟨sound, ⟨fun both => silently.mp ⟨rfl, zero.mp both.2⟩,
      fun holds => ⟨rfl, zero.mpr (silently.mpr holds).2⟩⟩⟩
  · rw [run] at silently kept
    refine ⟨Proc.sound_of_ok ((congrArg Err.code kept).trans empty), ?_⟩
    exact iff_of_false (fun both => nomatch both.1) fun holds => nomatch (silently.mpr holds).1
  · rw [run] at returns
    exact absurd rfl returns
  · rw [run] at silently kept
    refine ⟨Proc.sound_of_ok ((congrArg Err.code kept).trans empty), ?_⟩
    exact iff_of_false (fun both => nomatch both.1) fun holds => nomatch (silently.mpr holds).1

theorem setRegdomain_silentIff (wl : WirelessHandle) (country : CStr) :
    (zenctlWirelessSetRegdomain wl country : SetM σ Unit).SilentIff fun os sys proc =>
      ¬(country.length ≠ 2 ∨ country.all isAlpha = false) ∧ ¬country.length ≠ 2 ∧
        FamilySilent os sys proc :=
  .unless (.getting (.raise (by decide) (by decide) _ _))
    (orErrnoSet_silentIff (.unless (.getting (.refuse (by decide)))
      (familyCommand_setsErrno fun _ => buildOr_setsErrno _ _)) _)

theorem setTxpower_silentIff (wl : WirelessHandle) (mBm : Int) :
    (zenctlWirelessSetTxpower wl mBm : SetM σ Unit).SilentIff fun os sys proc =>
      ¬wl.index < 0 ∧ FamilySilent os sys proc := by
  refine orErrnoSet_silentIff (.unless (.getting (.refuse (by decide)))
    (familyCommand_setsErrno fun family => ?_)) _
  split
  · exact buildOr_setsErrno _ _
  · exact buildOr_setsErrno _ _

/-- The interface of a phy, when every link and file up to it can be read. -/
def interfaceOf (os : Os σ) (sys : σ) (phy : CStr) : List CStr → Option Int
  | [] => none
  | name :: rest =>
      if name.head? = some '.' ∨ 200 < name.length then interfaceOf os sys phy rest
      else
        let dir := "/sys/class/net/".toList ++ name
        match os.readlink sys (bounded 256 (dir ++ "/phy80211".toList)) with
        | .error _ => none
        | .ok target =>
            if baseName (ofBuffer (target.take 511)) ≠ phy then interfaceOf os sys phy rest
            else
              match os.openRead sys (bounded 256 (dir ++ "/ifindex".toList)) with
              | .error _ => none
              | .ok file => some (parseIfindex file)

/-- `errno` is still zero behind the scan just when nothing failed on its way. -/
theorem scanInterfaces_errno
    (os : Os σ) (sys : σ) (phy : CStr) (names : List CStr) (proc : Proc) :
    ∃ ifindex errno, scanInterfaces phy names os sys proc =
      (.value ifindex, { proc with errno := errno }) ∧
        ∀ i, 0 < i → (ifindex = i ∧ errno = 0 ↔
          proc.errno = 0 ∧ interfaceOf os sys phy names = some i) := by
  induction names generalizing proc with
  | nil =>
      refine ⟨-1, proc.errno, rfl, fun i positive => iff_of_false (fun both => ?_) nofun⟩
      rw [← both.1] at positive
      exact absurd positive (by decide)
  | cons name rest inductionHypothesis =>
      -- a call that failed leaves an `errno` that stays
      have spoilt : ∀ e : Errno, ∃ ifindex errno,
          scanInterfaces phy rest os sys { proc with errno := e.1 } =
            (.value ifindex, { proc with errno := errno }) ∧
              ∀ i, 0 < i → (ifindex = i ∧ errno = 0 ↔ proc.errno = 0 ∧ none = some i) := by
        intro e
        obtain ⟨ifindex, errno, run, zero⟩ := inductionHypothesis { proc with errno := e.1 }
        refine ⟨ifindex, errno, run, fun i positive => iff_of_false (fun both => ?_) nofun⟩
        exact absurd ((zero i positive).mp both).1 (Int.ne_of_gt e.2)
      unfold scanInterfaces interfaceOf
      split
      · exact inductionHypothesis proc
      · dsimp only
        cases linked : os.readlink sys
            (bounded 256 ("/sys/class/net/".toList ++ name ++ "/phy80211".toList)) with
        | error e =>
            rw [GetM.bind_value (sysCall_error linked)]
            exact spoilt e
        | ok target =>
            rw [GetM.bind_value (sysCall_ok linked)]
            dsimp only
            split
            · exact inductionHypothesis proc
            · cases opened : os.openRead sys
                  (bounded 256 ("/sys/class/net/".toList ++ name ++ "/ifindex".toList)) with
              | error e =>
                  rw [GetM.bind_value (sysCall_error opened)]
                  exact spoilt e
              | ok file =>
                  rw [GetM.bind_value (sysCall_ok opened)]
                  refine ⟨parseIfindex file, proc.errno, rfl, fun i _ => ?_⟩
                  exact ⟨fun both => ⟨both.2, congrArg some both.1⟩,
                    fun both => ⟨Option.some.inj both.2, both.1⟩⟩

/-- The interface of the phy is found without a failing call, and the lookup of the family is silent. -/
def PowerSaveSilent (phy : CStr) (os : Os σ) (sys : σ) (proc : Proc) : Prop :=
  FamilySilent os sys proc ∧ ∃ names ifindex, os.listDir sys "/sys/class/net".toList = .ok names ∧
    0 < ifindex ∧ interfaceOf os sys phy names = some ifindex

theorem setPowerSave_silentIff (wl : WirelessHandle) (on : Bool) :
    (zenctlWirelessSetPowerSave wl on : SetM σ Unit).SilentIff (PowerSaveSilent wl.phy) := by
  intro os sys proc empty
  unfold zenctlWirelessSetPowerSave
  have scanned : ∃ ifindex errno, phyToIfindex wl.phy os sys proc =
      (.value ifindex, { proc with errno := errno }) ∧ ∀ i, 0 < i → (ifindex = i ∧ errno = 0 ↔
        proc.errno = 0 ∧ ∃ names, os.listDir sys "/sys/class/net".toList = .ok names ∧
          interfaceOf os sys wl.phy names = some i) := by
    unfold phyToIfindex
    cases listed : os.listDir sys "/sys/class/net".toList with
    | error e =>
        rw [GetM.bind_value (sysCall_error listed)]
        refine ⟨-1, e.1, rfl, fun i _ => iff_of_false (fun both => ?_) ?_⟩
        · exact absurd both.2 (Int.ne_of_gt e.2)
        · rintro ⟨_, _, ⟨⟩, _⟩
    | ok names =>
        rw [GetM.bind_value (sysCall_ok listed)]
        obtain ⟨ifindex, errno, run, zero⟩ := scanInterfaces_errno os sys wl.phy names proc
        refine ⟨ifindex, errno, run, fun i positive => (zero i positive).trans
          (and_congr_right fun _ => ⟨fun found => ⟨names, rfl, found⟩, ?_⟩)⟩
        rintro ⟨_, ⟨⟩, found⟩
        exact found
  obtain ⟨ifindex, errno, run, zero⟩ := scanned
  rw [SetM.bind_getting_value run]
  have commands : (if ifindex < 0 then getting (raise Err.enoent
      "no wireless interface bound to this phy" "zenctl_wireless_set_power_save") else
        orErrnoSet (nl80211SetPowerSave ifindex on) "zenctl_wireless_set_power_save" :
          SetM σ Unit).SilentIff fun os sys proc =>
            ¬ifindex < 0 ∧ ¬ifindex ≤ 0 ∧ FamilySilent os sys proc :=
    .unless (.getting (.raise (by decide) (by decide) _ _))
      (orErrnoSet_silentIff (.unless (.getting (.refuse (by decide)))
        (familyCommand_setsErrno fun _ => buildOr_setsErrno _ _)) _)
  obtain ⟨sound, silently⟩ := commands os sys { proc with errno := errno } empty
  refine ⟨sound, silently.trans ⟨?_, ?_⟩⟩
  · rintro ⟨_, positive, quiet, rest⟩
    obtain ⟨initial, names, listed, found⟩ := (zero ifindex (not_le.mp positive)).mp ⟨rfl, quiet⟩
    exact ⟨⟨initial, rest⟩, names, ifindex, listed, not_le.mp positive, found⟩
  · rintro ⟨⟨initial, rest⟩, names, i, listed, positive, found⟩
    obtain ⟨rfl, quiet⟩ := (zero i positive).mpr ⟨initial, names, listed, found⟩
    exact ⟨not_lt.mpr positive.le, not_le.mpr positive, quiet, rest⟩

end SettingErrno

end Zenctl
