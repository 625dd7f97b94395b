import Zenctl.DocumentHeaders
import Zenctl.CpuSelection

namespace Zenctl

open CString

/-!
# Entries of a profile and the settings they load

An entry is loaded as an assignment when `profile_apply` attempts exactly what
the assignment says.  The `load_*_kv` functions know a few keys, each with one
kind of value, and skip every other entry without a word.
-/

section Values

variable {σ τ : Type}

/-- `profile_apply` on an entry of a section it knows. -/
def loadKv (target : Option Target) (kv : TomlKv) (json dryRun : Bool) : CliM σ τ Int :=
  match target with
  | none => pure 0
  | some .cpu => loadCpuKv kv json dryRun
  | some .memory => loadMemoryKv kv json dryRun
  | some (.storage dev) => loadStorageKv dev kv json dryRun

theorem applyKv_eq
    (kv : TomlKv) (json dryRun : Bool) :
    (applyKv json dryRun kv : CliM σ τ Int) =
      loadKv (sectionTarget kv.sectionPath) kv json dryRun := by
  unfold applyKv sectionTarget
  split
  · next top =>
      rw [top]
      rfl
  · split
    · rfl
    · split
      · rfl
      · split <;> rfl

/-- What is left of an assignment that sets nothing: a device is still looked up. -/
def Assignment.idle (target : Option Target) : CliM σ τ Int :=
  match target with
  | some (.storage dev) => do
      match ← reading (query (.storageOpen dev)) with
      | .error _ => pure 0
      | .ok _ => pure 0
  | _ => pure 0

theorem Assignment.attempt_idle
    {a : Assignment} (nothing : a.isSetting = false) (json dryRun : Bool) :
    (a.attempt json dryRun : CliM σ τ Int) = idle a.target := by
  obtain ⟨target, key, value⟩ := a
  match target with
  | none =>
      rfl
  | some .cpu =>
      have unset : cpuSetting key value = none := by simpa [isSetting] using nothing
      simp only [attempt, unset]
      rfl
  | some .memory =>
      have unset : memorySetting key value = none := by simpa [isSetting] using nothing
      simp only [attempt, unset]
      rfl
  | some (.storage dev) =>
      have unset : storageSetting dev key value = none := by simpa [isSetting] using nothing
      simp only [attempt, unset]
      rfl

/-- The keys of the schema, with the kind of their value. -/
def schemaKeys : Target → Bool → List CStr
  | .cpu, true => ["governor"]
  | .cpu, false => ["freq_min_hz", "freq_max_hz"]
  | .memory, true => ["thp"]
  | .memory, false => ["swappiness", "overcommit", "vfs_cache_pressure"]
  | .storage _, true => ["scheduler"]
  | .storage _, false => ["read_ahead_kb"]

/-- An entry that is no key of the schema with its kind of value is not loaded. -/
theorem loadKv_idle
    {target : Option Target} {kv : TomlKv}
    (unknown : ∀ t ∈ target, kv.key ∉ schemaKeys t kv.isString)
    (json dryRun : Bool) :
    (loadKv target kv json dryRun : CliM σ τ Int) = Assignment.idle target := by
  obtain ⟨sectionPath, key, value, isString⟩ := kv
  match target with
  | none =>
      rfl
  | some .cpu =>
      have absent := unknown .cpu rfl
      simp only [loadKv, loadCpuKv]
      cases isString with
      | true =>
          have other : key ≠ "governor".toList := List.ne_of_not_mem_cons absent
          rw [if_neg other]
          split <;> rfl
      | false =>
          have noLimit : ¬ (key = "freq_min_hz".toList ∨ key = "freq_max_hz".toList) := by
            rintro (rfl | rfl)
            · exact absent List.mem_cons_self
            · exact absent (List.mem_cons_of_mem _ List.mem_cons_self)
          rw [if_neg noLimit]
          split <;> rfl
  | some .memory =>
      have absent := unknown .memory rfl
      simp only [loadKv, loadMemoryKv, applyMemoryInt]
      cases isString with
      | true =>
          have other : key ≠ "thp".toList := List.ne_of_not_mem_cons absent
          rw [if_neg other]
          split
          · rfl
          · split
            · rfl
            · split <;> rfl
      | false =>
          rw [if_neg (List.ne_of_not_mem_cons absent),
            if_neg (List.ne_of_not_mem_cons (List.not_mem_of_not_mem_cons absent)),
            if_neg (List.ne_of_not_mem_cons
              (List.not_mem_of_not_mem_cons (List.not_mem_of_not_mem_cons absent)))]
          split <;> rfl
  | some (.storage dev) =>
      have absent := unknown (.storage dev) rfl
      refine congrArg (reading (query (.storageOpen dev)) >>= ·) (funext fun answer => ?_)
      cases answer with
      | error _ =>
          rfl
      | ok st =>
          cases isString with
          | true =>
              refine (if_neg (List.ne_of_not_mem_cons absent)).trans ?_
              split <;> rfl
          | false =>
              simp only [if_neg (show key ≠ "read_ahead_kb".toList from
                List.ne_of_not_mem_cons absent)]
              split <;> rfl

/-- A text of the schema that is read as it is written is loaded as it is assigned. -/
theorem loadKv_string
    {target : Option Target} {sectionPath key text : CStr}
    (setting : (Assignment.mk target key (.string text)).isSetting = true)
    (json dryRun : Bool) :
    (loadKv target ⟨sectionPath, key, text, true⟩ json dryRun : CliM σ τ Int) =
      (Assignment.mk target key (.string text)).attempt json dryRun := by
  match target with
  | none =>
      cases setting
  | some .cpu =>
      simp only [Assignment.isSetting, cpuSetting] at setting
      split at setting
      · next governor =>
          subst governor
          rfl
      · cases setting
  | some .memory =>
      simp only [Assignment.isSetting, memorySetting] at setting
      split at setting
      · next thp =>
          subst thp
          simp only [Option.isSome_map] at setting
          obtain ⟨mode, parsed⟩ := Option.isSome_iff_exists.mp setting
          simp only [loadKv, Assignment.attempt, memorySetting, parsed]
          simp [loadMemoryKv, parsed]
      · cases setting
  | some (.storage dev) =>
      simp only [Assignment.isSetting, storageSetting] at setting
      split at setting
      · next scheduler =>
          subst scheduler
          rfl
      · cases setting

theorem loadCpuKv_limit
    {sectionPath key value : CStr} {n : Int} {call : CpuHandle → Update}
    (named : key = "freq_min_hz" ∧ call = (fun cpu => .cpuSetFreqMin cpu n) ∨
      key = "freq_max_hz" ∧ call = fun cpu => .cpuSetFreqMax cpu n)
    (parsed : cliParseInt value = some n) (frequency : 0 ≤ n)
    (json dryRun : Bool) :
    (loadCpuKv ⟨sectionPath, key, value, false⟩ json dryRun : CliM σ τ Int) =
      if dryRun then
        reading (announce json (bounded 128 ("cpu[all]: ".toList ++ key ++ '=' :: showInt n)))
      else applyAllCpus call := by
  have other : key ≠ "governor" := by
    rcases named with ⟨rfl, -⟩ | ⟨rfl, -⟩ <;> decide
  have limit : key = "freq_min_hz".toList ∨ key = "freq_max_hz".toList := by
    rcases named with ⟨rfl, -⟩ | ⟨rfl, -⟩
    · exact .inl rfl
    · exact .inr rfl
  have kept : (cliParseInt value).filter (0 ≤ ·) = some n := by
    rw [parsed, Option.filter_some, if_pos (by simpa using frequency)]
  have chosen : (fun cpu => if key = "freq_min_hz".toList then Update.cpuSetFreqMin cpu n
      else .cpuSetFreqMax cpu n) = call := by
    rcases named with ⟨rfl, rfl⟩ | ⟨rfl, rfl⟩
    · exact funext fun cpu => if_pos rfl
    · exact funext fun cpu => if_neg (by decide)
  unfold loadCpuKv
  rw [if_neg other, if_pos limit, if_neg Bool.false_ne_true, kept, ← chosen]

theorem applyMemoryInt_parsed
    {sectionPath key value : CStr} {n : Int}
    (parsed : cliParseInt value = some n) (tunable : toInt32 n = n)
    (json dryRun : Bool) (call : Int → Update) :
    (applyMemoryInt ⟨sectionPath, key, value, false⟩ json dryRun call : CliM σ τ Int) =
      applyOne json dryRun (bounded 64 ("memory: ".toList ++ key ++ '=' :: showInt n)) (call n) := by
  unfold applyMemoryInt
  rw [if_neg Bool.false_ne_true, parsed]
  dsimp only
  rw [tunable]

theorem Assignment.attempt_cpu
    {key wouldDo : CStr} {value : Meaning} {call : CpuHandle → Update}
    (set : cpuSetting key value = some (wouldDo, call)) (json dryRun : Bool) :
    (attempt ⟨some .cpu, key, value⟩ json dryRun : CliM σ τ Int) =
      if dryRun then reading (announce json (bounded 128 wouldDo)) else applyAllCpus call := by
  simp only [attempt, set]

theorem Assignment.attempt_memory
    {key wouldDo : CStr} {value : Meaning} {call : Update}
    (set : memorySetting key value = some (wouldDo, call)) (json dryRun : Bool) :
    (attempt ⟨some .memory, key, value⟩ json dryRun : CliM σ τ Int) =
      applyOne json dryRun (bounded 64 wouldDo) call := by
  simp only [attempt, set]

theorem Assignment.attempt_storage
    {dev key wouldDo : CStr} {value : Meaning} {call : StorageHandle → Update}
    (set : storageSetting dev key value = some (wouldDo, call)) (json dryRun : Bool) :
    (attempt ⟨some (.storage dev), key, value⟩ json dryRun : CliM σ τ Int) =
      reading (query (.storageOpen dev)) >>= fun
        | .error _ => pure 0
        | .ok st => applyOne json dryRun (bounded 128 wouldDo) (call st) := by
  refine congrArg (reading (query (.storageOpen dev)) >>= ·) (funext fun answer => ?_)
  cases answer with
  | error _ =>
      rfl
  | ok st =>
      dsimp only
      rw [set]

theorem loadStorageKv_readAhead
    {sectionPath key value : CStr} {n : Int}
    (named : key = "read_ahead_kb") (parsed : cliParseInt value = some n)
    (dev : CStr) (json dryRun : Bool) :
    (loadStorageKv dev ⟨sectionPath, key, value, false⟩ json dryRun : CliM σ τ Int) =
      reading (query (.storageOpen dev)) >>= fun
        | .error _ => pure 0
        | .ok st =>
            applyOne json dryRun
              (bounded 128 ("storage.".toList ++ dev ++ ": read_ahead_kb=".toList ++ showInt n))
              (.storageSetReadAhead st n) := by
  have other : key ≠ "scheduler" := by
    rw [named]
    decide
  refine congrArg (reading (query (.storageOpen dev)) >>= ·) (funext fun answer => ?_)
  cases answer with
  | error _ =>
      rfl
  | ok st =>
      dsimp only
      rw [if_neg other, if_pos named, if_neg Bool.false_ne_true, parsed]

/-- A number of the schema that is read as it is written is loaded as it is assigned. -/
theorem loadKv_integer
    {target : Option Target} {sectionPath key value : CStr} {n : Int}
    (setting : (Assignment.mk target key (.integer n)).isSetting = true)
    (parsed : cliParseInt value = some n)
    (frequency : target = some .cpu → 0 ≤ n)
    (tunable : target = some .memory → toInt32 n = n)
    (json dryRun : Bool) :
    (loadKv target ⟨sectionPath, key, value, false⟩ json dryRun : CliM σ τ Int) =
      (Assignment.mk target key (.integer n)).attempt json dryRun := by
  match target with
  | none =>
      cases setting
  | some .cpu =>
      have known : key ∈ schemaKeys .cpu false := by
        by_contra absent
        have least : key ≠ "freq_min_hz".toList := List.ne_of_not_mem_cons absent
        have most : key ≠ "freq_max_hz".toList :=
          List.ne_of_not_mem_cons (List.not_mem_of_not_mem_cons absent)
        simp only [Assignment.isSetting, cpuSetting, if_neg least, if_neg most] at setting
        cases setting
      rcases List.mem_cons.mp known with rfl | later
      · exact (loadCpuKv_limit (.inl ⟨rfl, rfl⟩) parsed (frequency rfl) json dryRun).trans
          (Assignment.attempt_cpu (cpuSetting_freqMin n) json dryRun).symm
      · cases List.mem_singleton.mp later
        exact (loadCpuKv_limit (.inr ⟨rfl, rfl⟩) parsed (frequency rfl) json dryRun).trans
          (Assignment.attempt_cpu (cpuSetting_freqMax n) json dryRun).symm
  | some .memory =>
      have known : key ∈ schemaKeys .memory false := by
        by_contra absent
        have first : key ≠ "swappiness".toList := List.ne_of_not_mem_cons absent
        have second : key ≠ "overcommit".toList :=
          List.ne_of_not_mem_cons (List.not_mem_of_not_mem_cons absent)
        have third : key ≠ "vfs_cache_pressure".toList := List.ne_of_not_mem_cons
          (List.not_mem_of_not_mem_cons (List.not_mem_of_not_mem_cons absent))
        simp only [Assignment.isSetting, memorySetting, if_neg first, if_neg second,
          if_neg third] at setting
        cases setting
      have read := fun call => @applyMemoryInt_parsed σ τ sectionPath key value n parsed (tunable rfl)
        json dryRun call
      rcases List.mem_cons.mp known with rfl | later
      · exact ((loadMemoryKv_swappiness rfl).trans (read _)).trans
          (Assignment.attempt_memory (memorySetting_swappiness n) json dryRun).symm
      rcases List.mem_cons.mp later with rfl | last
      · exact ((loadMemoryKv_overcommit rfl).trans (read _)).trans
          (Assignment.attempt_memory (memorySetting_overcommit n) json dryRun).symm
      · cases List.mem_singleton.mp last
        exact ((loadMemoryKv_vfsCachePressure rfl).trans (read _)).trans
          (Assignment.attempt_memory (memorySetting_vfsCachePressure n) json dryRun).symm
  | some (.storage dev) =>
      simp only [Assignment.isSetting, storageSetting] at setting
      split at setting
      · next readAhead =>
          subst readAhead
          exact (loadStorageKv_readAhead rfl parsed dev json dryRun).trans
            (Assignment.attempt_storage (storageSetting_readAhead dev n) json dryRun).symm
      · cases setting

end Values

/-! ## Keys of the schema -/

def Meaning.isString : Meaning → Bool
  | string _ => true
  | integer _ => false

theorem cpuSetting_isSome
    {key : CStr} {value : Meaning} :
    (cpuSetting key value).isSome = true ↔ key ∈ schemaKeys .cpu value.isString := by
  cases value with
  | string text =>
      change _ ↔ key ∈ ["governor".toList]
      rw [List.mem_singleton, cpuSetting]
      split
      · next known => exact iff_of_true rfl known
      · next other => exact iff_of_false Bool.false_ne_true other
  | integer n =>
      change _ ↔ key ∈ ["freq_min_hz".toList, "freq_max_hz".toList]
      rw [List.mem_pair, cpuSetting]
      split
      · next least => exact iff_of_true rfl (.inl least)
      · next notLeast =>
          split
          · next most => exact iff_of_true rfl (.inr most)
          · next notMost => exact iff_of_false Bool.false_ne_true (not_or.mpr ⟨notLeast, notMost⟩)

/-- A mode of transparent huge pages must be one of the three. -/
def Meaning.IsMode (value : Meaning) : Prop :=
  ∀ text, value = .string text → (parseThpName text).isSome = true

theorem memorySetting_isSome
    {key : CStr} {value : Meaning} :
    (memorySetting key value).isSome = true ↔
      key ∈ schemaKeys .memory value.isString ∧ value.IsMode := by
  cases value with
  | string text =>
      have mode : (Meaning.string text).IsMode ↔ (parseThpName text).isSome = true :=
        ⟨fun every => every text rfl, by rintro some _ ⟨⟩; exact some⟩
      change _ ↔ key ∈ ["thp".toList] ∧ _
      rw [List.mem_singleton, memorySetting, mode]
      split
      · next thp => rw [Option.isSome_map, and_iff_right thp]
      · next other => exact iff_of_false Bool.false_ne_true fun both => other both.1
  | integer n =>
      have mode : (Meaning.integer n).IsMode := by
        rintro text ⟨⟩
      change _ ↔ key ∈ ["swappiness".toList, "overcommit".toList, "vfs_cache_pressure".toList] ∧ _
      rw [and_iff_left mode, List.mem_cons, List.mem_pair, memorySetting]
      split
      · next first => exact iff_of_true rfl (.inl first)
      · next notFirst =>
          split
          · next second => exact iff_of_true rfl (.inr (.inl second))
          · next notSecond =>
              split
              · next third => exact iff_of_true rfl (.inr (.inr third))
              · next notThird =>
                  exact iff_of_false Bool.false_ne_true
                    (not_or.mpr ⟨notFirst, not_or.mpr ⟨notSecond, notThird⟩⟩)

theorem storageSetting_isSome
    {dev key : CStr} {value : Meaning} :
    (storageSetting dev key value).isSome = true ↔
      key ∈ schemaKeys (.storage dev) value.isString := by
  cases value with
  | string text =>
      change _ ↔ key ∈ ["scheduler".toList]
      rw [List.mem_singleton, storageSetting]
      split
      · next known => exact iff_of_true rfl known
      · next other => exact iff_of_false Bool.false_ne_true other
  | integer n =>
      change _ ↔ key ∈ ["read_ahead_kb".toList]
      rw [List.mem_singleton, storageSetting]
      split
      · next known => exact iff_of_true rfl known
      · next other => exact iff_of_false Bool.false_ne_true other

theorem Assignment.isSetting_iff
    {t : Target} {key : CStr} {value : Meaning} :
    isSetting ⟨some t, key, value⟩ = true ↔
      key ∈ schemaKeys t value.isString ∧ (t = .memory → value.IsMode) := by
  cases t with
  | cpu =>
      exact cpuSetting_isSome.trans (and_iff_left nofun).symm
  | memory =>
      exact memorySetting_isSome.trans
        (and_congr_right fun _ => ⟨fun mode _ => mode, fun every => every rfl⟩)
  | storage dev =>
      exact storageSetting_isSome.trans (and_iff_left nofun).symm

/-- Shorter than the buffer of a key, and not quoted. -/
def isPlainKey (key : CStr) : Bool :=
  key.length + 1 < 128 && key.head? ≠ some '"'

theorem schemaKeys_plain
    (t : Target) (isString : Bool) :
    (schemaKeys t isString).all isPlainKey = true := by
  match t, isString with
  | .cpu, true => decide
  | .cpu, false => decide
  | .memory, true => decide
  | .memory, false => decide
  | .storage _, true => exact show ["scheduler".toList].all isPlainKey = true by decide
  | .storage _, false => exact show ["read_ahead_kb".toList].all isPlainKey = true by decide

theorem schemaKeys_short
    {t : Target} {isString : Bool} {key : CStr} (known : key ∈ schemaKeys t isString) :
    key.length + 1 < 128 ∧ key.head? ≠ some '"' := by
  have plain := List.all_eq_true.mp (schemaKeys_plain t isString) key known
  simpa [isPlainKey] using plain

/-- What the buffer keeps of a key is a key of the schema only if the key is. -/
theorem schemaKeys_bounded
    {t : Target} {isString : Bool} {key : CStr} (known : bounded 128 key ∈ schemaKeys t isString) :
    bounded 128 key = key := by
  exact ((bounded_eq_iff (schemaKeys_short known).1).mp rfl).symm

theorem parseThpName_short
    {text : CStr} {mode : ThpMode} (parsed : parseThpName text = some mode) :
    text ∈ ["always".toList, "madvise".toList, "never".toList] := by
  by_contra absent
  have first : text ≠ "always".toList := List.ne_of_not_mem_cons absent
  have second : text ≠ "madvise".toList :=
    List.ne_of_not_mem_cons (List.not_mem_of_not_mem_cons absent)
  have third : text ≠ "never".toList := List.ne_of_not_mem_cons
    (List.not_mem_of_not_mem_cons (List.not_mem_of_not_mem_cons absent))
  rw [parseThpName, if_neg first, if_neg second, if_neg third] at parsed
  cases parsed

/-- A text that is no mode does not become one by what the parser reads on or cuts off. -/
theorem parseThpName_read
    {text more : CStr}
    (noMode : parseThpName text = none)
    (quote : more = [] ∨ more.head? = some '"') :
    parseThpName (bounded 512 (text ++ more)) = none := by
  cases parsed : parseThpName (bounded 512 (text ++ more)) with
  | none =>
      rfl
  | some mode =>
      have known := parseThpName_short parsed
      have plain : ∀ name ∈ ["always".toList, "madvise".toList, "never".toList],
          name.length + 1 < 512 ∧ '"' ∉ name := by decide
      obtain ⟨short, noQuote⟩ := plain _ known
      have whole := (bounded_eq_iff short).mp rfl
      rw [← whole] at parsed noQuote
      rcases quote with rfl | quote
      · rw [List.append_nil, noMode] at parsed
        cases parsed
      · have inMore : '"' ∈ more := List.mem_of_mem_head? quote
        exact absurd (List.mem_append_right text inMore) noQuote

/-! ## Settings -/

/-- The value is written the way the parser reads it back. -/
def DocValue.Plain (target : Option Target) (comment : Option CommentText) : DocValue → Prop
  | .string text => text.1.length ≤ 511 ∧ ∀ c ∈ comment, '"' ∉ c.1
  | .integer n =>
      '_' ∉ n.digits ∧ comment = none ∧ (target = some .cpu → 0 ≤ n.value) ∧
        (target = some .memory → -2147483648 ≤ n.value ∧ n.value ≤ int32Max)

/-- A setting of the schema has a bare key and a plainly written value. -/
def DocSetting.Plain (target : Option Target) (comment : Option CommentText)
    (s : DocSetting) : Prop :=
  (Assignment.mk target s.key.name s.value.meaning).isSetting = true →
    s.key.isBare = true ∧ s.value.Plain target comment

instance (target : Option Target) (comment : Option CommentText) :
    (value : DocValue) → Decidable (value.Plain target comment)
  | .string text =>
      inferInstanceAs (Decidable (text.1.length ≤ 511 ∧ ∀ c ∈ comment, '"' ∉ c.1))
  | .integer n =>
      inferInstanceAs (Decidable ('_' ∉ n.digits ∧ comment = none ∧
        (target = some .cpu → 0 ≤ n.value) ∧
        (target = some .memory → -2147483648 ≤ n.value ∧ n.value ≤ int32Max)))

instance (target : Option Target) (comment : Option CommentText) (s : DocSetting) :
    Decidable (s.Plain target comment) :=
  inferInstanceAs (Decidable (_ → _ ∧ _))

/-- The entry is loaded as the assignment says, whatever the system. -/
def LoadedAs (kv : TomlKv) (a : Assignment) : Prop :=
  ∀ (σ τ : Type) (json dryRun : Bool),
    (applyKv json dryRun kv : CliM σ τ Int) = a.attempt json dryRun

theorem loadedAs_idle
    {kv : TomlKv} {key : CStr} {value : Meaning}
    (nothing : (Assignment.mk (sectionTarget kv.sectionPath) key value).isSetting = false)
    (unknown : ∀ t ∈ sectionTarget kv.sectionPath, kv.key ∉ schemaKeys t kv.isString) :
    LoadedAs kv ⟨sectionTarget kv.sectionPath, key, value⟩ := by
  intro σ τ json dryRun
  rw [applyKv_eq, Assignment.attempt_idle nothing, loadKv_idle unknown]

/-- A mode that is none of the three is not loaded. -/
theorem loadedAs_noMode
    {kv : TomlKv} {key text : CStr}
    (memory : sectionTarget kv.sectionPath = some .memory)
    (thp : kv.key = "thp") (quoted : kv.isString = true)
    (noMode : parseThpName kv.value = none)
    (nothing : (Assignment.mk (some .memory) key (.string text)).isSetting = false) :
    LoadedAs kv ⟨some .memory, key, .string text⟩ := by
  intro σ τ json dryRun
  have notFirst : kv.key ≠ "swappiness" := by rw [thp]; decide
  have notSecond : kv.key ≠ "overcommit" := by rw [thp]; decide
  have notThird : kv.key ≠ "vfs_cache_pressure" := by rw [thp]; decide
  rw [applyKv_eq, memory, Assignment.attempt_idle nothing, loadKv]
  dsimp only
  rw [loadMemoryKv, if_neg notFirst, if_neg notSecond, if_neg notThird, if_pos thp, quoted,
    if_neg (by decide), noMode]
  rfl

theorem string_loadedAs
    {sectionPath key text more : CStr}
    (quote : more = [] ∨ more.head? = some '"')
    (plain : (Assignment.mk (sectionTarget sectionPath) key (.string text)).isSetting = true →
      more = [] ∧ text.length ≤ 511) :
    LoadedAs ⟨sectionPath, bounded 128 key, bounded 512 (text ++ more), true⟩
      ⟨sectionTarget sectionPath, key, .string text⟩ := by
  cases setting : (Assignment.mk (sectionTarget sectionPath) key (.string text)).isSetting with
  | true =>
      obtain ⟨rfl, fits⟩ := plain setting
      cases target : sectionTarget sectionPath with
      | none =>
          rw [target] at setting
          cases setting
      | some t =>
          rw [target] at setting
          have known := (Assignment.isSetting_iff.mp setting).1
          intro σ τ json dryRun
          rw [applyKv_eq, target, List.append_nil,
            bounded_eq_self (by have := (schemaKeys_short known).1; omega),
            bounded_eq_self (by omega)]
          exact loadKv_string setting json dryRun
  | false =>
      by_cases known : ∃ t ∈ sectionTarget sectionPath, bounded 128 key ∈ schemaKeys t true
      · obtain ⟨t, target, known⟩ := known
        have whole := schemaKeys_bounded known
        rw [Option.mem_def.mp target] at setting ⊢
        rw [whole] at known
        -- only a mode can be wrong although its key is known
        have notSetting := Assignment.isSetting_iff.not.mp (Bool.eq_false_iff.mp setting)
        have wrong : t = .memory ∧ ¬ (Meaning.string text).IsMode := by
          by_contra right
          refine notSetting ⟨known, fun memory => ?_⟩
          by_contra noMode
          exact right ⟨memory, noMode⟩
        obtain ⟨rfl, noMode⟩ := wrong
        have unparsed : parseThpName text = none := by
          by_contra some
          refine noMode ?_
          rintro _ ⟨⟩
          exact Option.isSome_iff_ne_none.mpr some
        exact loadedAs_noMode (Option.mem_def.mp target)
          (whole.trans (List.mem_singleton.mp known)) rfl (parseThpName_read unparsed quote) setting
      · refine loadedAs_idle setting fun t target member => known ⟨t, target, member⟩

theorem integer_loadedAs
    {sectionPath key value : CStr} {n : Int}
    (plain : (Assignment.mk (sectionTarget sectionPath) key (.integer n)).isSetting = true →
      cliParseInt value = some n ∧ (sectionTarget sectionPath = some .cpu → 0 ≤ n) ∧
        (sectionTarget sectionPath = some .memory → toInt32 n = n)) :
    LoadedAs ⟨sectionPath, bounded 128 key, value, false⟩
      ⟨sectionTarget sectionPath, key, .integer n⟩ := by
  cases setting : (Assignment.mk (sectionTarget sectionPath) key (.integer n)).isSetting with
  | true =>
      obtain ⟨parsed, frequency, tunable⟩ := plain setting
      cases target : sectionTarget sectionPath with
      | none =>
          rw [target] at setting
          cases setting
      | some t =>
          rw [target] at setting frequency tunable
          have known := (Assignment.isSetting_iff.mp setting).1
          intro σ τ json dryRun
          rw [applyKv_eq, target, bounded_eq_self (by have := (schemaKeys_short known).1; omega)]
          exact loadKv_integer setting parsed frequency tunable json dryRun
  | false =>
      refine loadedAs_idle setting fun t target member => ?_
      have known : key ∈ schemaKeys t false := schemaKeys_bounded member ▸ member
      rw [Option.mem_def.mp target] at setting
      exact Bool.eq_false_iff.mp setting (Assignment.isSetting_iff.mpr ⟨known, fun _ => nofun⟩)

end Zenctl
