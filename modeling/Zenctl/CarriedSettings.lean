import Zenctl.LoadedSettings

namespace Zenctl

open CString

/-!
# What a profile carries over

A saved document, loaded again, calls a setter for every value that was saved,
on every CPU and device that is there when it is loaded, and no other.  Two of
these setters that write one file write one text.
-/

variable {σ β : Type}

/-! ## The setters of a saved document -/

/--
A setter with a value that a getter delivered when the profile was saved; the
CPU or device is one that is there when the profile is loaded.
-/
inductive Carried (os : Os σ) (host : Host σ) (saving loading : σ) (env : Env) : Update → Prop
  | governor {first cpu : CpuHandle} {value : CStr}
      (opened : (Query.cpuOpen 0).asked os saving = some first)
      (read : (Query.cpuGetGovernor first).asked os saving = some value)
      (there : cpu ∈ openCpus os loading env) :
      Carried os host saving loading env (.cpuSetGovernor cpu value)
  | freqMin {first cpu : CpuHandle} {value : Int}
      (opened : (Query.cpuOpen 0).asked os saving = some first)
      (read : (Query.cpuGetFreqMin first).asked os saving = some value) (nonneg : 0 ≤ value)
      (there : cpu ∈ openCpus os loading env) :
      Carried os host saving loading env (.cpuSetFreqMin cpu value)
  | freqMax {first cpu : CpuHandle} {value : Int}
      (opened : (Query.cpuOpen 0).asked os saving = some first)
      (read : (Query.cpuGetFreqMax first).asked os saving = some value) (nonneg : 0 ≤ value)
      (there : cpu ∈ openCpus os loading env) :
      Carried os host saving loading env (.cpuSetFreqMax cpu value)
  | swappiness {value : Int} (read : Query.memGetSwappiness.asked os saving = some value) :
      Carried os host saving loading env (.memSetSwappiness value)
  | thp {mode : ThpMode} (read : Query.memGetThp.asked os saving = some mode) :
      Carried os host saving loading env (.memSetThp mode)
  | overcommit {value : Int} (read : Query.memGetOvercommit.asked os saving = some value) :
      Carried os host saving loading env (.memSetOvercommit value)
  | vfsCachePressure {value : Int}
      (read : Query.memGetVfsCachePressure.asked os saving = some value) :
      Carried os host saving loading env (.memSetVfsCachePressure value)
  | scheduler {name value : CStr} {st now : StorageHandle}
      (listed : name ∈ ((host.listDir saving "/sys/block".toList).getD []).filter savedBlock)
      (opened : (Query.storageOpen name).asked os saving = some st)
      (read : (Query.storageGetScheduler st).asked os saving = some value)
      (there : (Query.storageOpen name).asked os loading = some now) :
      Carried os host saving loading env (.storageSetScheduler now value)
  | readAhead {name : CStr} {value : Int} {st now : StorageHandle}
      (listed : name ∈ ((host.listDir saving "/sys/block".toList).getD []).filter savedBlock)
      (opened : (Query.storageOpen name).asked os saving = some st)
      (read : (Query.storageGetReadAhead st).asked os saving = some value)
      (there : (Query.storageOpen name).asked os loading = some now) :
      Carried os host saving loading env (.storageSetReadAhead now value)

theorem GetM.Returns.asked
    {os : Os σ} {sys : σ} {call : Query β} (kind : β → Prop) {value : β}
    (asked : call.asked os sys = some value)
    (returns : (call.program : GetM σ β).Returns kind) :
    kind value := by
  unfold Query.asked at asked
  split at asked
  · next found =>
    exact returns os sys freshProc value (found.trans (congrArg _ (Option.some.inj asked)))
  · cases asked

theorem getTunable_int32 (path : CStr) :
    (getTunable path : GetM σ Int).Returns fun value => intMin ≤ value ∧ value ≤ intMax := by
  refine .bind (.any _) fun v _ => .pure ?_
  have low := Int.le_bmod (x := v) (m := 4294967296) (by decide)
  have high := Int.bmod_lt (x := v) (m := 4294967296) (by decide)
  unfold toInt32 intMin intMax
  omega

theorem toInt32_of_int32 {value : Int} (int32 : intMin ≤ value ∧ value ≤ intMax) :
    toInt32 value = value := by
  unfold intMin intMax at int32
  exact Int.bmod_eq_of_le (by omega) (by omega)

/-- The entries of the saved sections. -/
def savedKvs (os : Os σ) (sys : σ) (host : Host σ) : List TomlKv :=
  (savedSections os sys host).flatMap fun s => s.2.map (Setting.entry s.1)

section Entries

variable {os : Os σ} {host : Host σ} {saving loading : σ} {env : Env}

theorem number_showInt
    {sectionPath key : CStr} {value : Int} (low : int64Min ≤ value) (high : value ≤ int64Max) :
    (Setting.entry sectionPath ⟨key, showInt value, false⟩).number = some value :=
  cliParseInt_showInt ⟨value, low, high⟩

theorem entryCalls_governor (value : CStr) :
    entryCalls os loading env (Setting.entry "cpu" ⟨"governor", value, true⟩) =
      (openCpus os loading env).map (.cpuSetGovernor · value) :=
  List.append_nil _

/-- The two limits; a negative one is skipped. -/
theorem entryCalls_limit
    {key : CStr} {set : CpuHandle → Int → Update} {value : Int}
    (asks : ∀ kv : TomlKv, kv.sectionPath = "cpu" → kv.key = key →
      entryCalls os loading env kv = (kv.number.filter (0 ≤ ·)).toList.flatMap fun hz =>
        (openCpus os loading env).map (set · hz))
    (int64 : int64Min ≤ value ∧ value ≤ int64Max) :
    entryCalls os loading env (Setting.entry "cpu" ⟨key, showInt value, false⟩) =
      if 0 ≤ value then (openCpus os loading env).map (set · value) else [] := by
  rw [asks _ rfl rfl, number_showInt int64.1 int64.2]
  split
  · next nonneg => rw [Option.filter_some, if_pos (decide_eq_true nonneg)]; exact List.append_nil _
  · next negative => rw [Option.filter_some, if_neg (by simpa using negative)]; rfl

theorem asks_freqMin (kv : TomlKv) (inCpu : kv.sectionPath = "cpu") (key : kv.key = "freq_min_hz") :
    entryCalls os loading env kv = (kv.number.filter (0 ≤ ·)).toList.flatMap fun hz =>
      (openCpus os loading env).map (.cpuSetFreqMin · hz) := by
  unfold entryCalls cpuCall
  rw [inCpu, key]
  cases kv.number.filter (0 ≤ ·) <;> rfl

theorem asks_freqMax (kv : TomlKv) (inCpu : kv.sectionPath = "cpu") (key : kv.key = "freq_max_hz") :
    entryCalls os loading env kv = (kv.number.filter (0 ≤ ·)).toList.flatMap fun hz =>
      (openCpus os loading env).map (.cpuSetFreqMax · hz) := by
  unfold entryCalls cpuCall
  rw [inCpu, key]
  cases kv.number.filter (0 ≤ ·) <;> rfl

/-- The three tunables, printed as integers and cast to `int` when they are read. -/
theorem entryCalls_tunable
    {key : CStr} {set : Int → Update} {value : Int}
    (asks : ∀ kv : TomlKv, kv.sectionPath = "memory" → kv.key = key →
      entryCalls os loading env kv = (kv.number.map fun v => set (toInt32 v)).toList)
    (int32 : intMin ≤ value ∧ value ≤ intMax) :
    entryCalls os loading env (Setting.entry "memory" ⟨key, showInt value, false⟩) =
      [set value] := by
  have low : int64Min ≤ value := by unfold int64Min intMin at *; omega
  have high : value ≤ int64Max := by unfold int64Max intMax at *; omega
  rw [asks _ rfl rfl, number_showInt low high, Option.map_some, toInt32_of_int32 int32]
  rfl

theorem asks_swappiness
    (kv : TomlKv) (inMemory : kv.sectionPath = "memory") (key : kv.key = "swappiness") :
    entryCalls os loading env kv = (kv.number.map fun v => .memSetSwappiness (toInt32 v)).toList := by
  unfold entryCalls memoryCall
  rw [inMemory, key]
  rfl

theorem asks_overcommit
    (kv : TomlKv) (inMemory : kv.sectionPath = "memory") (key : kv.key = "overcommit") :
    entryCalls os loading env kv = (kv.number.map fun v => .memSetOvercommit (toInt32 v)).toList := by
  unfold entryCalls memoryCall
  rw [inMemory, key]
  rfl

theorem asks_vfsCachePressure
    (kv : TomlKv) (inMemory : kv.sectionPath = "memory") (key : kv.key = "vfs_cache_pressure") :
    entryCalls os loading env kv =
      (kv.number.map fun v => .memSetVfsCachePressure (toInt32 v)).toList := by
  unfold entryCalls memoryCall
  rw [inMemory, key]
  rfl

theorem entryCalls_thp (mode : ThpMode) :
    entryCalls os loading env (Setting.entry "memory" ⟨"thp", thpName mode, true⟩) =
      [.memSetThp mode] := by
  cases mode <;> rfl

theorem entryCalls_scheduler (name value : CStr) :
    entryCalls os loading env
        (Setting.entry ("storage.".toList ++ name) ⟨"scheduler", value, true⟩) =
      ((Query.storageOpen name).asked os loading).toList.map (.storageSetScheduler · value) := by
  change ((Query.storageOpen name).asked os loading).toList.flatMap _ = _
  cases (Query.storageOpen name).asked os loading <;> rfl

theorem entryCalls_readAhead
    (name : CStr) {value : Int} (low : int64Min ≤ value) (high : value ≤ int64Max) :
    entryCalls os loading env
        (Setting.entry ("storage.".toList ++ name) ⟨"read_ahead_kb", showInt value, false⟩) =
      ((Query.storageOpen name).asked os loading).toList.map (.storageSetReadAhead · value) := by
  change ((Query.storageOpen name).asked os loading).toList.flatMap _ = _
  cases (Query.storageOpen name).asked os loading with
  | none => rfl
  | some st =>
      have asks : deviceCall (Setting.entry ("storage.".toList ++ name)
          ⟨"read_ahead_kb", showInt value, false⟩) st = some (.storageSetReadAhead st value) :=
        congrArg (Option.map (Update.storageSetReadAhead st)) (number_showInt low high)
      rw [Option.toList_some, List.flatMap_singleton, asks]
      rfl

theorem mem_savedCpuSections {s : CStr × List Setting} :
    s ∈ savedCpuSections os saving ↔ ∃ cpu, (Query.cpuOpen 0).asked os saving = some cpu ∧
      s = ("cpu".toList, cpuSettings os saving cpu) := by
  simp only [savedCpuSections, List.mem_map, Option.mem_toList, eq_comm]

theorem mem_savedDeviceSections {name : CStr} {s : CStr × List Setting} :
    s ∈ savedDeviceSections os saving name ↔
      ∃ st, (Query.storageOpen name).asked os saving = some st ∧
        s = ("storage.".toList ++ name, deviceSettings os saving st) := by
  simp only [savedDeviceSections, List.mem_map, Option.mem_toList, eq_comm]

theorem mem_savedSections {s : CStr × List Setting} :
    s ∈ savedSections os saving host ↔
      (∃ cpu, (Query.cpuOpen 0).asked os saving = some cpu ∧
        s = ("cpu".toList, cpuSettings os saving cpu)) ∨
      s = ("memory".toList, memorySettings os saving) ∨
      ∃ name ∈ ((host.listDir saving "/sys/block".toList).getD []).filter savedBlock,
        ∃ st, (Query.storageOpen name).asked os saving = some st ∧
          s = ("storage.".toList ++ name, deviceSettings os saving st) := by
  simp only [savedSections, List.mem_append, mem_savedCpuSections, List.mem_singleton,
    List.mem_flatMap, mem_savedDeviceSections, or_assoc]

theorem getFreqMin_int64
    {cpu : CpuHandle} {value : Int} (read : (Query.cpuGetFreqMin cpu).asked os saving = some value) :
    int64Min ≤ value ∧ value ≤ int64Max :=
  GetM.Returns.asked (fun hz => int64Min ≤ hz ∧ hz ≤ int64Max) read (getFreq_returns cpu _)

theorem getFreqMax_int64
    {cpu : CpuHandle} {value : Int} (read : (Query.cpuGetFreqMax cpu).asked os saving = some value) :
    int64Min ≤ value ∧ value ≤ int64Max :=
  GetM.Returns.asked (fun hz => int64Min ≤ hz ∧ hz ≤ int64Max) read (getFreq_returns cpu _)

theorem getReadAhead_int64
    {st : StorageHandle} {value : Int}
    (read : (Query.storageGetReadAhead st).asked os saving = some value) :
    int64Min ≤ value ∧ value ≤ int64Max :=
  GetM.Returns.asked (fun kb => int64Min ≤ kb ∧ kb ≤ int64Max) read (readFileI64_returns _)

theorem getTunable_asked
    {call : Query Int} {path : CStr} {value : Int}
    (program : (call.program : GetM σ Int) = getTunable path)
    (read : call.asked os saving = some value) :
    intMin ≤ value ∧ value ≤ intMax :=
  GetM.Returns.asked (fun value => intMin ≤ value ∧ value ≤ intMax) read
    (program ▸ getTunable_int32 path)

/-- Only what is carried over is asked for by a saved document. -/
theorem carried_of_saved
    {call : Update} (member : call ∈ (savedKvs os saving host).flatMap (entryCalls os loading env)) :
    Carried os host saving loading env call := by
  obtain ⟨kv, inKvs, asked⟩ := List.mem_flatMap.mp member
  obtain ⟨s, inSections, inEntries⟩ := List.mem_flatMap.mp inKvs
  obtain ⟨setting, inSettings, rfl⟩ := List.mem_map.mp inEntries
  rcases mem_savedSections.mp inSections with
    ⟨first, opened, rfl⟩ | rfl | ⟨name, listed, st, opened, rfl⟩
  · simp only [cpuSettings, List.mem_append, mem_savedString, mem_savedInt] at inSettings
    rcases inSettings with (⟨value, read, rfl⟩ | ⟨value, read, rfl⟩) | ⟨value, read, rfl⟩
    · rw [entryCalls_governor] at asked
      obtain ⟨cpu, there, rfl⟩ := List.mem_map.mp asked
      exact .governor opened read there
    · rw [entryCalls_limit asks_freqMin (getFreqMin_int64 read)] at asked
      split_ifs at asked with nonneg
      · obtain ⟨cpu, there, rfl⟩ := List.mem_map.mp asked
        exact .freqMin opened read nonneg there
      · cases asked
    · rw [entryCalls_limit asks_freqMax (getFreqMax_int64 read)] at asked
      split_ifs at asked with nonneg
      · obtain ⟨cpu, there, rfl⟩ := List.mem_map.mp asked
        exact .freqMax opened read nonneg there
      · cases asked
  · simp only [memorySettings, List.mem_append, mem_savedString, mem_savedInt,
      Option.mem_map] at inSettings
    rcases inSettings with ((⟨value, read, rfl⟩ | ⟨_, ⟨mode, read, rfl⟩, rfl⟩) |
      ⟨value, read, rfl⟩) | ⟨value, read, rfl⟩
    · rw [entryCalls_tunable asks_swappiness (getTunable_asked rfl read)] at asked
      exact List.mem_singleton.mp asked ▸ .swappiness read
    · rw [entryCalls_thp] at asked
      exact List.mem_singleton.mp asked ▸ .thp read
    · rw [entryCalls_tunable asks_overcommit (getTunable_asked rfl read)] at asked
      exact List.mem_singleton.mp asked ▸ .overcommit read
    · rw [entryCalls_tunable asks_vfsCachePressure (getTunable_asked rfl read)] at asked
      exact List.mem_singleton.mp asked ▸ .vfsCachePressure read
  · simp only [deviceSettings, List.mem_append, mem_savedString, mem_savedInt] at inSettings
    rcases inSettings with ⟨value, read, rfl⟩ | ⟨value, read, rfl⟩
    · rw [entryCalls_scheduler] at asked
      obtain ⟨now, there, rfl⟩ := List.mem_map.mp asked
      exact .scheduler listed opened read (Option.mem_toList.mp there)
    · rw [entryCalls_readAhead name (getReadAhead_int64 read).1 (getReadAhead_int64 read).2]
        at asked
      obtain ⟨now, there, rfl⟩ := List.mem_map.mp asked
      exact .readAhead listed opened read (Option.mem_toList.mp there)

/-- An entry of a saved section is an entry of the document. -/
theorem mem_savedCalls
    {s : CStr × List Setting} {setting : Setting} {call : Update}
    (inSections : s ∈ savedSections os saving host) (inSettings : setting ∈ s.2)
    (asked : call ∈ entryCalls os loading env (setting.entry s.1)) :
    call ∈ (savedKvs os saving host).flatMap (entryCalls os loading env) :=
  List.mem_flatMap.mpr ⟨_, List.mem_flatMap.mpr ⟨s, inSections, List.mem_map_of_mem inSettings⟩,
    asked⟩

/-- Everything carried over is asked for. -/
theorem saved_of_carried
    {call : Update} (carried : Carried os host saving loading env call) :
    call ∈ (savedKvs os saving host).flatMap (entryCalls os loading env) := by
  cases carried with
  | governor opened read there =>
      refine mem_savedCalls (mem_savedSections.mpr (.inl ⟨_, opened, rfl⟩)) ?_
        (entryCalls_governor _ ▸ List.mem_map_of_mem there)
      simp only [cpuSettings, List.mem_append, mem_savedString, mem_savedInt]
      exact .inl (.inl ⟨_, read, rfl⟩)
  | freqMin opened read nonneg there =>
      have asked := @entryCalls_limit _ os loading env _ _ _ asks_freqMin (getFreqMin_int64 read)
      rw [if_pos nonneg] at asked
      refine mem_savedCalls (mem_savedSections.mpr (.inl ⟨_, opened, rfl⟩)) ?_
        (asked ▸ List.mem_map_of_mem there)
      simp only [cpuSettings, List.mem_append, mem_savedString, mem_savedInt]
      exact .inl (.inr ⟨_, read, rfl⟩)
  | freqMax opened read nonneg there =>
      have asked := @entryCalls_limit _ os loading env _ _ _ asks_freqMax (getFreqMax_int64 read)
      rw [if_pos nonneg] at asked
      refine mem_savedCalls (mem_savedSections.mpr (.inl ⟨_, opened, rfl⟩)) ?_
        (asked ▸ List.mem_map_of_mem there)
      simp only [cpuSettings, List.mem_append, mem_savedString, mem_savedInt]
      exact .inr ⟨_, read, rfl⟩
  | swappiness read =>
      refine mem_savedCalls (mem_savedSections.mpr (.inr (.inl rfl))) ?_
        (entryCalls_tunable asks_swappiness (getTunable_asked rfl read) ▸ List.mem_singleton_self _)
      simp only [memorySettings, List.mem_append, mem_savedString, mem_savedInt]
      exact .inl (.inl (.inl ⟨_, read, rfl⟩))
  | thp read =>
      refine mem_savedCalls (mem_savedSections.mpr (.inr (.inl rfl))) ?_
        (entryCalls_thp _ ▸ List.mem_singleton_self _)
      simp only [memorySettings, List.mem_append, mem_savedString, mem_savedInt]
      exact .inl (.inl (.inr ⟨_, Option.mem_map_of_mem _ read, rfl⟩))
  | overcommit read =>
      refine mem_savedCalls (mem_savedSections.mpr (.inr (.inl rfl))) ?_
        (entryCalls_tunable asks_overcommit (getTunable_asked rfl read) ▸ List.mem_singleton_self _)
      simp only [memorySettings, List.mem_append, mem_savedString, mem_savedInt]
      exact .inl (.inr ⟨_, read, rfl⟩)
  | vfsCachePressure read =>
      refine mem_savedCalls (mem_savedSections.mpr (.inr (.inl rfl))) ?_
        (entryCalls_tunable asks_vfsCachePressure (getTunable_asked rfl read) ▸
          List.mem_singleton_self _)
      simp only [memorySettings, List.mem_append, mem_savedString, mem_savedInt]
      exact .inr ⟨_, read, rfl⟩
  | scheduler listed opened read there =>
      refine mem_savedCalls
        (mem_savedSections.mpr (.inr (.inr ⟨_, listed, _, opened, rfl⟩))) ?_
        (entryCalls_scheduler _ _ ▸ List.mem_map_of_mem (Option.mem_toList.mpr there))
      simp only [deviceSettings, List.mem_append, mem_savedString, mem_savedInt]
      exact .inl ⟨_, read, rfl⟩
  | readAhead listed opened read there =>
      refine mem_savedCalls
        (mem_savedSections.mpr (.inr (.inr ⟨_, listed, _, opened, rfl⟩))) ?_
        (entryCalls_readAhead _ (getReadAhead_int64 read).1 (getReadAhead_int64 read).2 ▸
          List.mem_map_of_mem (Option.mem_toList.mpr there))
      simp only [deviceSettings, List.mem_append, mem_savedString, mem_savedInt]
      exact .inr ⟨_, read, rfl⟩

end Entries

/-! ## One file, one text -/

/-- Redirected or not, the files behind two short device paths are different files. -/
theorem resolvePath_device_injective
    (sysfsRoot : Option CStr) {first second : CStr}
    (firstDevice : IsDevicePath first) (secondDevice : IsDevicePath second)
    (firstShort : first.length < 512) (secondShort : second.length < 512)
    (same : resolvePath sysfsRoot first = resolvePath sysfsRoot second) :
    first = second := by
  cases sysfsRoot with
  | none => simpa [resolvePath] using same
  | some root =>
      by_cases empty : root = []
      · simpa [resolvePath, empty] using same
      · have kernel : ∀ path, IsDevicePath path →
            (startsWith "/sys/" path || startsWith "/proc/" path) = true := fun path device =>
          Bool.or_eq_true_iff.mpr device
        simp only [resolvePath, empty, ↓reduceIte, kernel first firstDevice,
          kernel second secondDevice, List.length_append] at same
        -- when one path is redirected and the other is not, the root alone is longer
        split at same <;> split at same
        · exact same
        · have lengths := congrArg List.length same
          simp only [List.length_append] at lengths
          omega
        · have lengths := congrArg List.length same
          simp only [List.length_append] at lengths
          omega
        · exact List.append_cancel_left same

/-- Three characters of a path that tell the settings of a profile apart. -/
def pathTag (path : CStr) : Option Char × Option Char × Option Char :=
  (path[5]?, path.reverse.head?, path.reverse[5]?)

/-- The tag of the file a setter writes. -/
def Update.tag : Update → Option Char × Option Char × Option Char
  | .cpuSetGovernor .. => (some 'd', some 'r', some 'v')
  | .cpuSetFreqMin .. => (some 'd', some 'q', some 'n')
  | .cpuSetFreqMax .. => (some 'd', some 'q', some 'x')
  | .memSetSwappiness .. => (some '/', some 's', some 'p')
  | .memSetThp .. => (some 'k', some 'd', some 'n')
  | .memSetOvercommit .. => (some '/', some 'y', some 'm')
  | .memSetVfsCachePressure .. => (some '/', some 'e', some 'e')
  | .storageSetScheduler .. => (some 'b', some 'r', some 'e')
  | .storageSetReadAhead .. => (some 'b', some 'b', some 'e')
  | _ => (none, none, none)

theorem cpuOpen_named (index : Int) :
    (zenctlCpuOpen index : GetM σ CpuHandle).Returns fun cpu => cpu = ⟨index⟩ := by
  unfold zenctlCpuOpen
  split
  · exact .raise _ _ _
  · exact .bind (.any _) fun _ _ => .bind (.any _) fun _ _ => .pure rfl

theorem storageOpen_named (name : CStr) :
    (zenctlStorageOpen name : GetM σ StorageHandle).Returns fun st => st.devName = bounded 256 name :=
  .bind (.any _) fun _ _ => .bind (.any _) fun _ _ => .bind (.any _) fun _ _ => .pure rfl

theorem openCpus_int32
    {os : Os σ} {sys : σ} {env : Env} {cpu : CpuHandle} (there : cpu ∈ openCpus os sys env) :
    cpu.Int32 := by
  obtain ⟨index, inside, asked⟩ := List.mem_filterMap.mp there
  have bounds := configuredCpus_bounds env
  rw [mem_countUp] at inside
  have named := GetM.Returns.asked (fun cpu : CpuHandle => cpu = ⟨index⟩) asked (cpuOpen_named index)
  rw [named]
  exact ⟨inside.1, show index ≤ 2147483647 by omega⟩

/-- A device that was opened has the name it was opened by. -/
theorem opened_named
    {os : Os σ} {sys : σ} {name : CStr} {st : StorageHandle}
    (opened : (Query.storageOpen name).asked os sys = some st) :
    st.devName = name ∧ name.length < 256 := by
  have short := GetM.Returns.asked
    (fun _ => name ≠ [] ∧ name.length < 256 ∧ storageBadName name = false) opened
    (storageOpen_returns name)
  have named := GetM.Returns.asked (fun st : StorageHandle => st.devName = bounded 256 name) opened
    (storageOpen_named name)
  exact ⟨named.trans (bounded_eq_self short.2.1), short.2.1⟩

theorem opened_short
    {os : Os σ} {sys : σ} {name : CStr} {st : StorageHandle}
    (opened : (Query.storageOpen name).asked os sys = some st) :
    st.devName.length < 256 := by
  obtain ⟨named, short⟩ := opened_named opened
  rwa [named]

theorem storagePath_eq
    {st : StorageHandle} (short : st.devName.length < 256) {suffix : CStr}
    (shortSuffix : suffix.length < 200) :
    storagePath st suffix = "/sys/block/".toList ++ (st.devName ++ suffix) := by
  have lead : "/sys/block/".toList.length = 11 := rfl
  unfold storagePath
  rw [List.append_assoc, bounded_eq_self]
  simp only [List.length_append, lead]
  omega

/-- Devices that are opened as one file are one device. -/
theorem opened_same
    {os : Os σ} {sys : σ} {name name' : CStr} {st st' : StorageHandle}
    (opened : (Query.storageOpen name).asked os sys = some st)
    (opened' : (Query.storageOpen name').asked os sys = some st')
    {suffix : CStr} (shortSuffix : suffix.length < 200)
    (same : storagePath st suffix = storagePath st' suffix) :
    name = name' := by
  rw [storagePath_eq (opened_short opened) shortSuffix,
    storagePath_eq (opened_short opened') shortSuffix] at same
  have devices := List.append_cancel_right (List.append_cancel_left same)
  rwa [(opened_named opened).1, (opened_named opened').1] at devices

/-- The tag is at the ends of the path, whatever stands in the middle. -/
theorem pathTag_ends
    (lead middle suffix : CStr) (long : 5 < lead.length) (longSuffix : 5 < suffix.length) :
    pathTag (lead ++ (middle ++ suffix)) =
      (lead[5]?, suffix.reverse.head?, suffix.reverse[5]?) := by
  have nonempty : suffix.reverse ≠ [] := by
    intro empty
    simp [List.reverse_eq_nil_iff.mp empty] at longSuffix
  unfold pathTag
  rw [List.getElem?_append_left long, List.reverse_append, List.reverse_append, List.append_assoc,
    List.head?_append_of_ne_nil _ nonempty, List.getElem?_append_left (by simpa using longSuffix)]

theorem cpuPath_tag
    {cpu : CpuHandle} (int32 : cpu.Int32) {suffix : CStr} (short : suffix.length ≤ 40)
    (long : 5 < suffix.length) :
    pathTag (cpuPath cpu suffix) = (some 'd', suffix.reverse.head?, suffix.reverse[5]?) := by
  rw [cpuPath_eq int32 short, List.append_assoc, ← List.singleton_append, ← List.append_assoc]
  rw [List.append_assoc, ← List.append_assoc (showInt _)]
  exact pathTag_ends _ _ _ (by decide) long

/-- The handle of a setter, if it has one, was opened. -/
def Update.Opened : Update → Prop
  | .cpuSetGovernor cpu _ | .cpuSetFreqMin cpu _ | .cpuSetFreqMax cpu _ => cpu.Int32
  | .storageSetScheduler st _ | .storageSetReadAhead st _ => st.devName.length < 256
  | _ => True

theorem Update.InProfile.tag_eq
    {call : Update} (inProfile : call.InProfile) (opened : call.Opened) {assignment : FileAssignment}
    (shape : call.assignment = some assignment) :
    pathTag assignment.path = call.tag := by
  cases inProfile <;> cases shape
  case governor cpu governor => exact cpuPath_tag opened (by decide) (by decide)
  case freqMin cpu hz => exact cpuPath_tag opened (by decide) (by decide)
  case freqMax cpu hz => exact cpuPath_tag opened (by decide) (by decide)
  case swappiness => rfl
  case thp => rfl
  case overcommit => rfl
  case vfsCachePressure => rfl
  case scheduler st name | readAhead st kb =>
    dsimp only
    rw [storagePath_eq opened (by decide)]
    exact pathTag_ends _ _ _ (by decide) (by decide)

/-- What a profile's setter lets through is written. -/
theorem Update.InProfile.written
    {call : Update} (inProfile : call.InProfile) {assignment : FileAssignment}
    (shape : call.assignment = some assignment) (admitted : call.Admits) :
    assignment.text ≠ [] := by
  cases inProfile <;> cases shape
  case governor | scheduler => exact admitted
  case thp mode => cases mode <;> exact List.cons_ne_nil _ _
  all_goals exact showInt_ne_nil _

theorem Update.InProfile.device
    {call : Update} (inProfile : call.InProfile) {assignment : FileAssignment}
    (shape : call.assignment = some assignment) :
    IsDevicePath assignment.path ∧ assignment.path.length < 512 := by
  have cut : ∀ {size : Nat} {text : CStr}, 0 < size → size ≤ 512 →
      (bounded size text).length < 512 := fun _ small =>
    lt_of_le_of_lt (List.length_take_le _ _) (by omega)
  cases inProfile <;> cases shape
  case governor | freqMin | freqMax => exact ⟨.inl rfl, cut (by decide) (by decide)⟩
  case swappiness | overcommit | vfsCachePressure =>
    exact ⟨.inr rfl, Nat.le_of_ble_eq_true rfl⟩
  case thp => exact ⟨.inl rfl, Nat.le_of_ble_eq_true rfl⟩
  case scheduler st name | readAhead st kb =>
    exact ⟨storagePath_device st _, cut (by decide) (by decide)⟩

section OneText

variable {os : Os σ} {host : Host σ} {saving loading : σ} {env : Env} {call other : Update}

theorem Carried.inProfile (carried : Carried os host saving loading env call) :
    call.InProfile := by
  cases carried <;> constructor

theorem Carried.opened (carried : Carried os host saving loading env call) : call.Opened := by
  cases carried with
  | governor opened read there => exact openCpus_int32 there
  | freqMin opened read nonneg there => exact openCpus_int32 there
  | freqMax opened read nonneg there => exact openCpus_int32 there
  | swappiness | thp | overcommit | vfsCachePressure => trivial
  | scheduler listed opened read there => exact opened_short there
  | readAhead listed opened read there => exact opened_short there

theorem Carried.assigns (carried : Carried os host saving loading env call) :
    call.assignment.isSome = true :=
  carried.inProfile.assigns

theorem Carried.reads (carried : Carried os host saving loading env call) :
    call.reading.isSome = true := by
  cases carried <;> rfl

/-- What was read is in range; only the end of a governor's name is in question. -/
theorem Carried.inRange
    (carried : Carried os host saving loading env call)
    (solid : ∀ cpu governor, call = .cpuSetGovernor cpu governor →
      ∀ last ∈ governor.getLast?, isSpace last = false) :
    call.InRange := by
  cases carried with
  | @governor first cpu value opened read there =>
      have kept := GetM.Returns.asked (fun text : CStr => '\x00' ∉ text ∧ text.length ≤ 255) read
        (getGovernor_returns first)
      exact ⟨Nat.lt_succ_of_le kept.2, kept.1, solid cpu value rfl⟩
  | freqMin opened read nonneg there => exact getFreqMin_int64 read
  | freqMax opened read nonneg there => exact getFreqMax_int64 read
  | vfsCachePressure read => exact getTunable_asked rfl read
  | readAhead listed opened read there => exact getReadAhead_int64 read
  | swappiness | thp | overcommit | scheduler => trivial

/-- Two values carried over to one file are one text. -/
theorem Carried.oneText
    (first : Carried os host saving loading env call)
    (second : Carried os host saving loading env other)
    {assignment : FileAssignment} (shape : call.assignment = some assignment)
    {assignment' : FileAssignment} (shape' : other.assignment = some assignment')
    (sameFile : assignment.file os = assignment'.file os) :
    assignment.text = assignment'.text := by
  obtain ⟨device, short⟩ := first.inProfile.device shape
  obtain ⟨device', short'⟩ := second.inProfile.device shape'
  have path := resolvePath_device_injective _ device device' short short' sameFile
  have tags : call.tag = other.tag := by
    rw [← first.inProfile.tag_eq first.opened shape, ← second.inProfile.tag_eq second.opened shape',
      path]
  cases first with
  | governor opened read there =>
      cases second with
      | governor opened' read' there' =>
          cases shape
          cases shape'
          cases opened.symm.trans opened'
          exact Option.some.inj (read.symm.trans read')
      | _ => simp [Update.tag] at tags
  | freqMin opened read nonneg there =>
      cases second with
      | freqMin opened' read' nonneg' there' =>
          cases shape
          cases shape'
          cases opened.symm.trans opened'
          rw [Option.some.inj (read.symm.trans read')]
      | _ => simp [Update.tag] at tags
  | freqMax opened read nonneg there =>
      cases second with
      | freqMax opened' read' nonneg' there' =>
          cases shape
          cases shape'
          cases opened.symm.trans opened'
          rw [Option.some.inj (read.symm.trans read')]
      | _ => simp [Update.tag] at tags
  | swappiness read =>
      cases second with
      | swappiness read' =>
          cases shape
          cases shape'
          rw [Option.some.inj (read.symm.trans read')]
      | _ => simp [Update.tag] at tags
  | thp read =>
      cases second with
      | thp read' =>
          cases shape
          cases shape'
          rw [Option.some.inj (read.symm.trans read')]
      | _ => simp [Update.tag] at tags
  | overcommit read =>
      cases second with
      | overcommit read' =>
          cases shape
          cases shape'
          rw [Option.some.inj (read.symm.trans read')]
      | _ => simp [Update.tag] at tags
  | vfsCachePressure read =>
      cases second with
      | vfsCachePressure read' =>
          cases shape
          cases shape'
          rw [Option.some.inj (read.symm.trans read')]
      | _ => simp [Update.tag] at tags
  | scheduler listed opened read there =>
      cases second with
      | scheduler listed' opened' read' there' =>
          cases shape
          cases shape'
          obtain rfl := opened_same there there' (by decide) path
          cases opened.symm.trans opened'
          exact Option.some.inj (read.symm.trans read')
      | _ => simp [Update.tag] at tags
  | readAhead listed opened read there =>
      cases second with
      | readAhead listed' opened' read' there' =>
          cases shape
          cases shape'
          obtain rfl := opened_same there there' (by decide) path
          cases opened.symm.trans opened'
          rw [Option.some.inj (read.symm.trans read')]
      | _ => simp [Update.tag] at tags

end OneText

end Zenctl
