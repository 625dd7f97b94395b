import Zenctl.TomlReader
import Zenctl.Profile
import Zenctl.Libzenctl

namespace Zenctl

open CString

/-!
# Profiles read back

`Captured` is what `profile save` can read of a machine.  A profile that holds
it is parsed into the entries that were written exactly when its texts are
plain.
-/

/-! ## What `profile save` captures -/

/-- A name `profile save` accepts. -/
structure SaveName where
  text : CStr
  cString : '\x00' ∉ text
  accepted : text ≠ [] ∧ escapesDirectory text = false

/-- A device name `zenctl_storage_open` accepts. -/
structure DeviceName where
  text : CStr
  cString : '\x00' ∉ text
  accepted : text ≠ [] ∧ text.length < 256 ∧ storageBadName text = false

/-- The readings of the `[cpu]` section; a getter that fails leaves none. -/
structure CapturedCpu where
  governor : Option KernelText
  freqMin : Option Int64Value
  freqMax : Option Int64Value

structure CapturedMemory where
  swappiness : Option Int64Value
  thp : Option ThpMode
  overcommit : Option Int64Value
  vfsCachePressure : Option Int64Value

structure CapturedDevice where
  name : DeviceName
  scheduler : Option KernelText
  readAhead : Option Int64Value

/-- Everything `profile_write` puts below the preamble. -/
structure Captured where
  cpu : Option CapturedCpu
  memory : CapturedMemory
  devices : List CapturedDevice

def CapturedCpu.settings (c : CapturedCpu) : List Setting :=
  savedString "governor" (c.governor.map (·.1)) ++ savedInt "freq_min_hz" (c.freqMin.map (·.1)) ++
    savedInt "freq_max_hz" (c.freqMax.map (·.1))

def CapturedMemory.settings (m : CapturedMemory) : List Setting :=
  savedInt "swappiness" (m.swappiness.map (·.1)) ++ savedString "thp" (m.thp.map thpName) ++
    savedInt "overcommit" (m.overcommit.map (·.1)) ++
    savedInt "vfs_cache_pressure" (m.vfsCachePressure.map (·.1))

def CapturedDevice.settings (d : CapturedDevice) : List Setting :=
  savedString "scheduler" (d.scheduler.map (·.1)) ++
    savedInt "read_ahead_kb" (d.readAhead.map (·.1))

def CapturedDevice.sectionPath (d : CapturedDevice) : CStr :=
  "storage.".toList ++ d.name.text

def Captured.sections (c : Captured) : List (CStr × List Setting) :=
  c.cpu.toList.map (fun cpu => ("cpu".toList, cpu.settings)) ++
    [("memory".toList, c.memory.settings)] ++
    c.devices.map fun d => (d.sectionPath, d.settings)

@[simp] theorem mem_savedString {key : CStr} {value : Option CStr} {s : Setting} :
    s ∈ savedString key value ↔ ∃ v ∈ value, s = ⟨key, v, true⟩ := by
  cases value <;> simp [savedString]

@[simp] theorem mem_savedInt {key : CStr} {value : Option Int} {s : Setting} :
    s ∈ savedInt key value ↔ ∃ v ∈ value, s = ⟨key, showInt v, false⟩ := by
  cases value <;> simp [savedInt]

theorem valueText_showInt (value : Int64Value) :
    ValueText (showInt value.1) := by
  refine ⟨fun member => ?_, (showInt_length value.2.1 value.2.2).trans (by decide)⟩
  exact (numeral_plain ((showInt_numeral value.1).2 _ member)).2.2.2.2.1 rfl

theorem CapturedCpu.settings_printed
    (c : CapturedCpu) :
    ∀ s ∈ c.settings, s.Printed := by
  intro s member
  simp only [settings, List.mem_append, mem_savedString, mem_savedInt, Option.mem_map] at member
  rcases member with (⟨_, ⟨g, -, rfl⟩, rfl⟩ | ⟨v, -, rfl⟩) | ⟨v, -, rfl⟩
  · exact Setting.printed_string (by decide) g.2.1
  · exact Setting.printed_int (by decide) v
  · exact Setting.printed_int (by decide) v

theorem CapturedMemory.settings_printed
    (m : CapturedMemory) :
    ∀ s ∈ m.settings, s.Printed := by
  intro s member
  simp only [settings, List.mem_append, mem_savedString, mem_savedInt, Option.mem_map] at member
  rcases member with ((⟨v, -, rfl⟩ | ⟨_, ⟨mode, -, rfl⟩, rfl⟩) | ⟨v, -, rfl⟩) | ⟨v, -, rfl⟩
  · exact Setting.printed_int (by decide) v
  · exact Setting.printed_string (by decide) (by cases mode <;> decide)
  · exact Setting.printed_int (by decide) v
  · exact Setting.printed_int (by decide) v

theorem CapturedDevice.settings_printed
    (d : CapturedDevice) :
    ∀ s ∈ d.settings, s.Printed := by
  intro s member
  simp only [settings, List.mem_append, mem_savedString, mem_savedInt, Option.mem_map] at member
  rcases member with ⟨_, ⟨t, -, rfl⟩, rfl⟩ | ⟨v, -, rfl⟩
  · exact Setting.printed_string (by decide) t.2.1
  · exact Setting.printed_int (by decide) v

theorem Captured.sections_printed
    (c : Captured) :
    ∀ s ∈ c.sections, PrintedSection s := by
  intro s member
  simp only [sections, List.mem_append, List.mem_map, List.mem_singleton] at member
  rcases member with (⟨cpu, -, rfl⟩ | rfl) | ⟨d, -, rfl⟩
  · exact ⟨show '\x00' ∉ "cpu".toList by decide, show "cpu".toList.head? ≠ some '[' by decide,
      cpu.settings_printed⟩
  · exact ⟨show '\x00' ∉ "memory".toList by decide,
      show "memory".toList.head? ≠ some '[' by decide, c.memory.settings_printed⟩
  · have noNul : '\x00' ∉ "storage.".toList ++ d.name.text := by
      simp only [List.mem_append, d.name.cString, or_false]
      decide
    exact ⟨noNul, nofun, d.settings_printed⟩

/-- What a device must be called to be saved: no bracket, and short enough for the section. -/
def CapturedDevice.Plain (d : CapturedDevice) : Prop :=
  (∀ s ∈ d.scheduler, '\n' ∉ s.1) ∧
    (d.scheduler.isSome ∨ d.readAhead.isSome → ']' ∉ d.name.text ∧ d.name.text.length ≤ 119)

/-- No reading has a newline in it, and the devices that have readings are plainly named. -/
def Captured.Plain (c : Captured) : Prop :=
  (∀ cpu ∈ c.cpu, ∀ g ∈ cpu.governor, '\n' ∉ g.1) ∧ ∀ d ∈ c.devices, d.Plain

theorem entries_representable_iff
    (path : CStr) (settings : List Setting) :
    (∀ kv ∈ settings.map (Setting.entry path), kv.Representable) ↔
      (settings ≠ [] → SectionText path) ∧ ∀ s ∈ settings, ValueText s.value := by
  simp only [List.forall_mem_map, TomlKv.Representable, Setting.entry]
  constructor
  · intro fits
    refine ⟨fun nonempty => ?_, fun s member => (fits s member).2⟩
    obtain ⟨first, others, rfl⟩ := List.exists_cons_of_ne_nil nonempty
    exact (fits first (by simp)).1
  · rintro ⟨inSection, values⟩ s member
    exact ⟨inSection (List.ne_nil_of_mem member), values s member⟩

theorem CapturedCpu.values_iff
    (c : CapturedCpu) :
    (∀ s ∈ c.settings, ValueText s.value) ↔ ∀ g ∈ c.governor, '\n' ∉ g.1 := by
  constructor
  · intro fits g present
    have printed : ⟨"governor".toList, g.1, true⟩ ∈ c.settings := by
      simp [settings, Option.mem_def.mp present]
    exact (fits _ printed).1
  · intro plain s member
    simp only [settings, List.mem_append, mem_savedString, mem_savedInt, Option.mem_map] at member
    rcases member with (⟨_, ⟨g, present, rfl⟩, rfl⟩ | ⟨_, ⟨v, -, rfl⟩, rfl⟩) |
      ⟨_, ⟨v, -, rfl⟩, rfl⟩
    · exact ⟨plain g present, g.2.2.trans (by decide)⟩
    · exact valueText_showInt v
    · exact valueText_showInt v

theorem CapturedMemory.values
    (m : CapturedMemory) :
    ∀ s ∈ m.settings, ValueText s.value := by
  intro s member
  simp only [settings, List.mem_append, mem_savedString, mem_savedInt, Option.mem_map] at member
  rcases member with ((⟨_, ⟨v, -, rfl⟩, rfl⟩ | ⟨_, ⟨mode, -, rfl⟩, rfl⟩) | ⟨_, ⟨v, -, rfl⟩, rfl⟩) |
    ⟨_, ⟨v, -, rfl⟩, rfl⟩
  · exact valueText_showInt v
  · cases mode <;> exact ⟨by decide, by decide⟩
  · exact valueText_showInt v
  · exact valueText_showInt v

theorem CapturedDevice.values_iff
    (d : CapturedDevice) :
    (∀ s ∈ d.settings, ValueText s.value) ↔ ∀ s ∈ d.scheduler, '\n' ∉ s.1 := by
  constructor
  · intro fits t present
    have printed : ⟨"scheduler".toList, t.1, true⟩ ∈ d.settings := by
      simp [settings, Option.mem_def.mp present]
    exact (fits _ printed).1
  · intro plain s member
    simp only [settings, List.mem_append, mem_savedString, mem_savedInt, Option.mem_map] at member
    rcases member with ⟨_, ⟨t, present, rfl⟩, rfl⟩ | ⟨_, ⟨v, -, rfl⟩, rfl⟩
    · exact ⟨plain t present, t.2.2.trans (by decide)⟩
    · exact valueText_showInt v

theorem CapturedDevice.settings_ne_nil
    (d : CapturedDevice) :
    d.settings ≠ [] ↔ (d.scheduler.isSome ∨ d.readAhead.isSome) := by
  unfold settings
  cases d.scheduler <;> cases d.readAhead <;> simp [savedString, savedInt]

theorem sectionText_append
    {lead text : CStr}
    (plainLead : SectionText lead)
    (oneLine : '\n' ∉ text) :
    SectionText (lead ++ text) ↔ ']' ∉ text ∧ text.length ≤ 127 - lead.length := by
  have short := plainLead.2.2
  simp only [SectionText, List.mem_append, List.length_append, oneLine, plainLead.1,
    plainLead.2.1, or_false, false_or, not_false_iff, true_and]
  refine and_congr_right fun _ => ?_
  omega

/-- The section path of a device leaves 119 bytes for its name. -/
theorem CapturedDevice.sectionPath_iff
    (d : CapturedDevice) :
    SectionText d.sectionPath ↔ ']' ∉ d.name.text ∧ d.name.text.length ≤ 119 :=
  sectionText_append ⟨by decide, by decide, by decide⟩
    (storageBadName_false d.name.accepted.2.2).2.2

theorem CapturedDevice.representable_iff
    (d : CapturedDevice) :
    (∀ kv ∈ d.settings.map (Setting.entry d.sectionPath), kv.Representable) ↔ d.Plain := by
  rw [entries_representable_iff, d.settings_ne_nil, d.sectionPath_iff, d.values_iff]
  exact and_comm

/-- The written entries are representable exactly when name and readings are plain. -/
theorem Captured.representable_iff
    (name : SaveName) (now : Int64Value) (c : Captured) :
    (∀ kv ∈ writtenEntries name.text now.1 c.sections, kv.Representable) ↔
      ValueText name.text ∧ c.Plain := by
  have noSection : SectionText [] := ⟨List.not_mem_nil, List.not_mem_nil, by decide⟩
  have preambleFits : (∀ kv ∈ (preamble name.text now.1).map (Setting.entry []),
      kv.Representable) ↔ ValueText name.text := by
    rw [entries_representable_iff]
    simp only [preamble, List.forall_mem_cons, List.not_mem_nil, false_implies, implies_true,
      and_true]
    constructor
    · exact fun fits => fits.2.2.1
    · exact fun fits => ⟨fun _ => noSection, valueText_showInt ⟨1, by decide⟩, fits,
        valueText_showInt now⟩
  have cpuFits : (∀ cpu ∈ c.cpu, ∀ kv ∈ cpu.settings.map (Setting.entry "cpu"),
      kv.Representable) ↔ ∀ cpu ∈ c.cpu, ∀ g ∈ cpu.governor, '\n' ∉ g.1 := by
    refine forall₂_congr fun cpu _ => ?_
    rw [entries_representable_iff, cpu.values_iff]
    exact and_iff_right fun _ => ⟨by decide, by decide, by decide⟩
  have memoryFits : ∀ kv ∈ c.memory.settings.map (Setting.entry "memory"), kv.Representable :=
    (entries_representable_iff _ _).mpr
      ⟨fun _ => ⟨by decide, by decide, by decide⟩, c.memory.values⟩
  have devicesFit : (∀ d ∈ c.devices, ∀ kv ∈ d.settings.map (Setting.entry d.sectionPath),
      kv.Representable) ↔ ∀ d ∈ c.devices, d.Plain :=
    forall₂_congr fun d _ => d.representable_iff
  rw [Plain, ← cpuFits, ← devicesFit, ← preambleFits]
  simp only [writtenEntries, sections, List.flatMap_append, List.flatMap_map, List.mem_append,
    List.flatMap_cons, List.flatMap_nil, List.append_nil, or_imp, forall_and, List.mem_flatMap,
    forall_exists_index, and_imp]
  constructor
  · rintro ⟨first, ⟨cpu, -⟩, devices⟩
    exact ⟨first, fun x present kv => cpu kv x (by simpa using present),
      fun d present kv => devices kv d present⟩
  · rintro ⟨first, cpu, devices⟩
    exact ⟨first, ⟨fun kv x present => cpu x (by simpa using present) kv, memoryFits⟩,
      fun kv d present => devices d present kv⟩

/-! ## Getters deliver what can be captured -/

section Captures

variable {σ : Type}

theorem getGovernor_returns (cpu : CpuHandle) :
    (zenctlCpuGetGovernor cpu : GetM σ CStr).Returns fun text =>
      '\x00' ∉ text ∧ text.length ≤ 255 :=
  .bind (readFileString_returns _ _) fun _ read => .bind (.any _) fun _ _ => .pure read

theorem getFreq_returns (cpu : CpuHandle) (file : CStr) :
    (getFreq cpu file : GetM σ Int).Returns fun hz => int64Min ≤ hz ∧ hz ≤ int64Max :=
  .bind (.any _) fun _ _ => .pure (toInt64_bounds _)

theorem getTunable_returns (path : CStr) :
    (getTunable path : GetM σ Int).Returns fun value => int64Min ≤ value ∧ value ≤ int64Max := by
  refine .bind (.any _) fun v _ => .pure ?_
  have low := Int.le_bmod (x := v) (m := 4294967296) (by decide)
  have high := Int.bmod_lt (x := v) (m := 4294967296) (by decide)
  unfold toInt32 int64Min int64Max
  omega

theorem getScheduler_returns (st : StorageHandle) :
    (zenctlStorageGetScheduler st : GetM σ CStr).Returns fun text =>
      '\x00' ∉ text ∧ text.length ≤ 255 := by
  refine .bind (readFileString_returns _ _) fun text read => ?_
  split
  · exact .raise _ _ _
  · next start found =>
      -- the name between the brackets is a part of the text
      have sub : start.Sublist text := by
        unfold afterChar at found
        split at found
        · cases found
          exact (List.tail_sublist _).trans (List.dropWhile_sublist _)
        · cases found
      have inside := (List.takeWhile_sublist (· ≠ ']')).trans sub
      split
      · exact .bind (.any _) fun _ _ => .pure
          ⟨fun member => read.1 (inside.subset member), inside.length_le.trans read.2⟩
      · exact .raise _ _ _

theorem storageOpen_returns (name : CStr) :
    (zenctlStorageOpen name : GetM σ StorageHandle).Returns fun _ =>
      name ≠ [] ∧ name.length < 256 ∧ storageBadName name = false := by
  have validated : (storageValidateDev name : GetM σ Unit).Returns fun _ =>
      name ≠ [] ∧ name.length < 256 ∧ storageBadName name = false := by
    unfold storageValidateDev
    split
    · exact .raise _ _ _
    · next nonempty =>
        split
        · exact .raise _ _ _
        · next short =>
            split
            · exact .raise _ _ _
            · next plain =>
                exact .pure ⟨nonempty, by omega, by simpa using plain⟩
  exact .bind validated fun _ accepted => .bind (.any _) fun _ _ => .bind (.any _) fun _ _ =>
    .pure accepted

variable {τ α β : Type}

/-- Whatever the system state, the reading program delivers a result of this kind. -/
def ReadM.Delivers (ctx : Ctx σ τ) (program : ReadM σ τ α) (kind : α → Prop) : Prop :=
  ∀ sys console, kind (program ctx sys console).1

theorem ReadM.Delivers.bind
    {ctx : Ctx σ τ} {program : ReadM σ τ α} {next : α → ReadM σ τ β}
    {middle : α → Prop} {kind : β → Prop}
    (first : program.Delivers ctx middle)
    (second : ∀ value, middle value → (next value).Delivers ctx kind) :
    (program >>= next).Delivers ctx kind :=
  fun sys console => second _ (first sys console) sys _

theorem ReadM.Delivers.pure
    {ctx : Ctx σ τ} {kind : α → Prop} {value : α} (holds : kind value) :
    (Pure.pure value : ReadM σ τ α).Delivers ctx kind :=
  fun _ _ => holds

theorem ReadM.Delivers.collect
    {ctx : Ctx σ τ} {program : α → ReadM σ τ β} {items : List α} {kind : β → Prop}
    (each : ∀ item ∈ items, (program item).Delivers ctx kind) :
    (Zenctl.collect program items).Delivers ctx fun results => ∀ result ∈ results, kind result := by
  induction items with
  | nil =>
      exact .pure nofun
  | cons item items inductionHypothesis =>
      refine .bind (each item (by simp)) fun result here => ?_
      refine .bind (inductionHypothesis fun i member => each i (List.mem_cons_of_mem _ member))
        fun results later => .pure ?_
      exact List.forall_mem_cons.mpr ⟨here, later⟩

variable {os : Os σ} {ctx : Ctx σ Proc}

/-- A getter through the command line, on a machine with the library over `os`. -/
theorem query_run
    (library : ctx.lib = libzenctl os) (call : Query β) (sys : σ) (console : Console Proc) :
    query call ctx sys console =
      ((call.program os sys { console.memory with err := Err.zero }).1.answer
          (call.program os sys { console.memory with err := Err.zero }).2.err,
        { console with
          memory := (call.program os sys { console.memory with err := Err.zero }).2 }) := by
  simp only [query, library, libzenctl]

/-- What the command line is handed is what the program of the call returned. -/
theorem query_delivers
    (library : ctx.lib = libzenctl os)
    {call : Query β} {kind : β → Prop}
    (returns : (call.program : GetM σ β).Returns kind) :
    (query call).Delivers ctx fun answer => ∀ value, answer = .ok value → kind value := by
  intro sys console value answered
  simp only [query_run library, Outcome.answer] at answered
  split at answered
  · next result run =>
      injection answered with same
      exact same ▸ returns os sys _ _ run
  · cases answered
  · cases answered

theorem queryOpt_delivers
    (library : ctx.lib = libzenctl os)
    {call : Query β} {kind : β → Prop}
    (returns : (call.program : GetM σ β).Returns kind) :
    (queryOpt call).Delivers ctx fun answer =>
      ∃ value : Option { result : β // kind result }, answer = value.map (·.1) := by
  refine .bind (query_delivers library returns) fun answer holds => ?_
  cases answer with
  | ok value =>
      exact .pure ⟨some ⟨value, holds value rfl⟩, rfl⟩
  | error err =>
      exact .pure ⟨none, rfl⟩

theorem saveCpu_captured (library : ctx.lib = libzenctl os) :
    saveCpu.Delivers ctx fun sections =>
      ∃ cpu : Option CapturedCpu, sections =
        cpu.toList.map fun cpu => ("cpu".toList, cpu.settings) := by
  refine .bind (fun _ _ => trivial) fun answer (_ : True) => ?_
  cases answer with
  | error err =>
      exact .pure ⟨none, rfl⟩
  | ok cpu =>
      refine .bind (queryOpt_delivers library (getGovernor_returns cpu)) ?_
      rintro _ ⟨governor, rfl⟩
      refine .bind (queryOpt_delivers library (getFreq_returns cpu _)) ?_
      rintro _ ⟨freqMin, rfl⟩
      refine .bind (queryOpt_delivers library (getFreq_returns cpu _)) ?_
      rintro _ ⟨freqMax, rfl⟩
      exact .pure ⟨some ⟨governor, freqMin, freqMax⟩, rfl⟩

theorem saveMemory_captured (library : ctx.lib = libzenctl os) :
    saveMemory.Delivers ctx fun sections =>
      ∃ memory : CapturedMemory, sections = [("memory".toList, memory.settings)] := by
  refine .bind (queryOpt_delivers library (getTunable_returns _)) ?_
  rintro _ ⟨swappiness, rfl⟩
  refine .bind (queryOpt_delivers library (.any _)) ?_
  rintro _ ⟨thp, rfl⟩
  refine .bind (queryOpt_delivers library (getTunable_returns _)) ?_
  rintro _ ⟨overcommit, rfl⟩
  refine .bind (queryOpt_delivers library (getTunable_returns _)) ?_
  rintro _ ⟨pressure, rfl⟩
  exact .pure ⟨⟨swappiness, thp.map (·.1), overcommit, pressure⟩, rfl⟩

/-- One device has a section of its own, or none when it cannot be opened. -/
theorem saveDevice_captured
    (library : ctx.lib = libzenctl os)
    {dev : CStr} (cString : '\x00' ∉ dev) :
    (saveDevice dev).Delivers ctx fun sections =>
      ∃ device : Option CapturedDevice, sections =
        device.toList.map fun d => (d.sectionPath, d.settings) := by
  refine .bind (query_delivers library (storageOpen_returns dev)) fun answer accepted => ?_
  cases answer with
  | error err =>
      exact .pure ⟨none, rfl⟩
  | ok st =>
      refine .bind (queryOpt_delivers library (getScheduler_returns st)) ?_
      rintro _ ⟨scheduler, rfl⟩
      refine .bind (queryOpt_delivers library (readFileI64_returns _)) ?_
      rintro _ ⟨readAhead, rfl⟩
      exact .pure ⟨some ⟨⟨dev, cString, accepted st rfl⟩, scheduler, readAhead⟩, rfl⟩

theorem saveStorage_captured
    (library : ctx.lib = libzenctl os)
    (entries : ∀ sys path names, ctx.host.listDir sys path = some names →
      ∀ name ∈ names, '\x00' ∉ name) :
    saveStorage.Delivers ctx fun sections =>
      ∃ devices : List CapturedDevice, sections =
        devices.map fun d => (d.sectionPath, d.settings) := by
  have listed : (listDir "/sys/block").Delivers ctx fun answer =>
      ∀ names, answer = some names → ∀ name ∈ names, '\x00' ∉ name :=
    fun sys _ => entries sys "/sys/block"
  refine .bind listed fun answer cStrings => ?_
  cases answer with
  | none =>
      exact .pure ⟨[], rfl⟩
  | some names =>
      refine .bind (.collect fun name member => saveDevice_captured library
        (cStrings names rfl name (List.mem_of_mem_filter member))) fun results each => .pure ?_
      clear cStrings
      induction results with
      | nil =>
          exact ⟨[], rfl⟩
      | cons result results inductionHypothesis =>
          obtain ⟨device, rfl⟩ := each result (by simp)
          obtain ⟨devices, rest⟩ := inductionHypothesis fun r member =>
            each r (List.mem_cons_of_mem _ member)
          exact ⟨device.toList ++ devices, by simp [rest]⟩

/-- Whatever the machine is like, the sections of a saved profile are captured readings. -/
theorem snapshot_captured
    (library : ctx.lib = libzenctl os)
    (entries : ∀ sys path names, ctx.host.listDir sys path = some names →
      ∀ name ∈ names, '\x00' ∉ name) :
    snapshot.Delivers ctx fun sections => ∃ c : Captured, sections = c.sections := by
  refine .bind (saveCpu_captured library) ?_
  rintro _ ⟨cpu, rfl⟩
  refine .bind (saveMemory_captured library) ?_
  rintro _ ⟨memory, rfl⟩
  refine .bind (saveStorage_captured library entries) ?_
  rintro _ ⟨devices, rfl⟩
  exact .pure ⟨⟨cpu, memory, devices⟩, rfl⟩

end Captures

/-! ## The round trip -/

/--
The parser delivers exactly the entries that were written, and none of them in
a section is owed to the profile's name.
-/
def Captured.ReadsBack (name : SaveName) (now : Int64Value) (c : Captured) : Prop :=
  tomlParse (profileText name.text now.1 c.sections) =
      writtenEntries name.text now.1 c.sections ∧
    (tomlParse (profileText name.text now.1 c.sections)).filter (·.sectionPath ≠ []) =
      c.sections.flatMap fun s => s.2.map (Setting.entry s.1)

theorem Captured.sections_named
    (c : Captured) :
    ∀ s ∈ c.sections, s.1 ≠ [] := by
  intro s member
  simp only [sections, List.mem_append, List.mem_map, List.mem_singleton] at member
  rcases member with (⟨cpu, -, rfl⟩ | rfl) | ⟨d, -, rfl⟩
  · exact show "cpu".toList ≠ [] by decide
  · exact show "memory".toList ≠ [] by decide
  · exact List.append_ne_nil_of_left_ne_nil (show "storage.".toList ≠ [] by decide) _

/-- The preamble is outside every section, and all the rest is in one. -/
theorem writtenEntries_filter
    (name : CStr) (now : Int) (c : Captured) :
    (writtenEntries name now c.sections).filter (·.sectionPath ≠ []) =
      c.sections.flatMap fun s => s.2.map (Setting.entry s.1) := by
  have outside : ((preamble name now).map (Setting.entry [])).filter (·.sectionPath ≠ []) = [] := by
    simp [preamble, Setting.entry]
  have inside : (c.sections.flatMap fun s => s.2.map (Setting.entry s.1)).filter
      (·.sectionPath ≠ []) = c.sections.flatMap fun s => s.2.map (Setting.entry s.1) := by
    rw [List.filter_eq_self]
    intro kv member
    obtain ⟨s, inSections, inEntries⟩ := List.mem_flatMap.mp member
    obtain ⟨setting, -, rfl⟩ := List.mem_map.mp inEntries
    exact decide_eq_true (c.sections_named s inSections)
  rw [writtenEntries, List.filter_append, outside, inside, List.nil_append]

/--
A saved profile is read back as it was written exactly when its name has no
newline and at most 511 bytes, no governor or scheduler text has a newline, and
every device that has a reading has a name of at most 119 bytes without a
closing bracket.
-/
theorem profile_readsBack_iff
    (name : SaveName) (now : Int64Value) (c : Captured) :
    c.ReadsBack name now ↔ ValueText name.text ∧ c.Plain := by
  rw [← Captured.representable_iff name now c,
    ← tomlParse_profileText_iff name.cString c.sections_printed]
  refine ⟨And.left, fun same => ⟨same, ?_⟩⟩
  rw [same]
  exact writtenEntries_filter name.text now.1 c

/-- A name with a closing quote and a section of its own. -/
def forgedName : SaveName where
  text := "a\"\n[cpu]\ngovernor = \"powersave"
  cString := by decide
  accepted := by decide

/-- A machine nothing could be read from. -/
def nothingCaptured : Captured :=
  ⟨none, ⟨none, none, none, none⟩, []⟩

/-- The forged section is read back as a `[cpu]` setting. -/
theorem profile_name_forges :
    ⟨"cpu", "governor", "powersave", true⟩ ∈
        tomlParse (profileText forgedName.text 0 nothingCaptured.sections) ∧
      ¬ nothingCaptured.ReadsBack forgedName ⟨0, by decide⟩ := by
  have read : tomlParse (profileText forgedName.text 0 nothingCaptured.sections) =
      [⟨[], "schema_version", "1", false⟩, ⟨[], "name", "a", true⟩,
        ⟨"cpu", "governor", "powersave", true⟩, ⟨"cpu", "created_at", "0", false⟩] := by
    decide +kernel
  refine ⟨by rw [read]; simp, fun readsBack => ?_⟩
  have same := readsBack.1.symm.trans read
  exact absurd (congrArg List.length same) (by decide)

end Zenctl
