import Zenctl.CpuSelection
import Zenctl.LibIo

namespace Zenctl

open CString

/-!
# Capability queries

`core.c` maps a few keys to the files behind them and asks whether these can be
written.  Keys of the form `cpu.N.attr` are taken apart by `sscanf`.
-/

variable {σ : Type}

/-! ## `core.c` -/

inductive Cap where
  | unavailable | available | readonly
  deriving Repr, DecidableEq

/-- `sscanf(key, "cpu.%d.%63s", &idx, attr)`. -/
def scanCpuKey (key : CStr) : Option (Int × CStr) := do
  let rest ← scanText "cpu." key
  let (idx, rest) ← scanInt rest
  let rest ← scanText "." rest
  let attr ← scanWord 63 rest
  pure (toInt32 idx, attr)

/-- A file of a CPU, in the 256 byte buffer. -/
def cpuKeyPath (idx : Int) (file : CStr) : CStr :=
  bounded 256 ("/sys/devices/system/cpu/cpu".toList ++ showInt idx ++ file)

def keyToPath (key : CStr) : Option CStr :=
  if startsWith "cpu." key then
    match scanCpuKey key with
    | none => none
    | some (idx, attr) =>
        if idx < 0 then none
        else if attr = "governor" then some (cpuKeyPath idx "/cpufreq/scaling_governor")
        else if attr = "freq_min" then some (cpuKeyPath idx "/cpufreq/scaling_min_freq")
        else if attr = "freq_max" then some (cpuKeyPath idx "/cpufreq/scaling_max_freq")
        else if attr = "online" then some (cpuKeyPath idx "/online")
        else none
  else if key = "mem.swappiness" then some "/proc/sys/vm/swappiness"
  else if key = "mem.nr_hugepages" then some "/proc/sys/vm/nr_hugepages"
  else if key = "mem.overcommit" then some "/proc/sys/vm/overcommit_memory"
  else if key = "mem.vfs_cache_pressure" then some "/proc/sys/vm/vfs_cache_pressure"
  else if key = "mem.thp" then some "/sys/kernel/mm/transparent_hugepage/enabled"
  else none

def zenctlQueryCap (key : CStr) : GetM σ Cap :=
  if key = [] then pure .unavailable
  else
    match keyToPath key with
    | none => pure .unavailable
    | some path => do
        match ← sysCall (fun os sys => os.access sys path .present) with
        | none => pure .unavailable
        | some _ =>
            match ← sysCall (fun os sys => os.access sys path .write) with
            | none => pure .readonly
            | some _ => pure .available

/-! ## The documented keys -/

inductive MemKey where
  | swappiness | nrHugepages | overcommit | vfsCachePressure | thp
  deriving Repr, DecidableEq

namespace MemKey

def text : MemKey → CStr
  | .swappiness => "mem.swappiness"
  | .nrHugepages => "mem.nr_hugepages"
  | .overcommit => "mem.overcommit"
  | .vfsCachePressure => "mem.vfs_cache_pressure"
  | .thp => "mem.thp"

def path : MemKey → CStr
  | .swappiness => "/proc/sys/vm/swappiness"
  | .nrHugepages => "/proc/sys/vm/nr_hugepages"
  | .overcommit => "/proc/sys/vm/overcommit_memory"
  | .vfsCachePressure => "/proc/sys/vm/vfs_cache_pressure"
  | .thp => "/sys/kernel/mm/transparent_hugepage/enabled"

theorem not_cpu (key : MemKey) : startsWith "cpu." key.text = false := by
  cases key <;> decide

end MemKey

inductive CpuAttr where
  | governor | freqMin | freqMax | online
  deriving Repr, DecidableEq

namespace CpuAttr

def text : CpuAttr → CStr
  | .governor => "governor"
  | .freqMin => "freq_min"
  | .freqMax => "freq_max"
  | .online => "online"

def file : CpuAttr → CStr
  | .governor => "/cpufreq/scaling_governor"
  | .freqMin => "/cpufreq/scaling_min_freq"
  | .freqMax => "/cpufreq/scaling_max_freq"
  | .online => "/online"

/-- The attribute of a CPU. -/
def path (attr : CpuAttr) (index : Int) : CStr :=
  "/sys/devices/system/cpu/cpu".toList ++ (showInt index ++ attr.file)

theorem text_plain (attr : CpuAttr) :
    attr.text ≠ [] ∧ attr.text.length < 63 ∧ ∀ c ∈ attr.text, isSpace c = false := by
  cases attr <;> exact ⟨by decide, by decide, every_of_all (by decide)⟩

theorem text_injective {first second : CpuAttr} (same : first.text = second.text) :
    first = second := by
  revert same
  cases first <;> cases second <;> decide

end CpuAttr

/-- A key of the table; a CPU is named by its index in canonical decimal. -/
inductive CapKey where
  | mem (key : MemKey)
  | cpu (index : Nat) (attr : CpuAttr)
  deriving Repr, DecidableEq

namespace CapKey

def text : CapKey → CStr
  | mem key => key.text
  | cpu index attr => "cpu.".toList ++ (showNat index ++ '.' :: attr.text)

def path : CapKey → CStr
  | mem key => key.path
  | cpu index attr => attr.path index

/-- The CPU is there: some file in its directory is. -/
def CpuThere (os : Os σ) (sys : σ) (index : Nat) : Prop :=
  ∃ file, os.access sys
    ("/sys/devices/system/cpu/cpu".toList ++ (showNat index ++ '/' :: file)) .present = .ok ()

def Exists (os : Os σ) (sys : σ) : CapKey → Prop
  | mem _ => True
  | cpu index _ => CpuThere os sys index

end CapKey

/--
The answer is as documented: only a key of the table is anything but
unavailable, it is the file of that key that is asked for, and the key is
available if that file can be written.
-/
structure AnsweredByTable (key : CStr) (os : Os σ) (sys : σ) : Prop where
  known : ∀ proc cap, (zenctlQueryCap key os sys proc).1 = .value cap → cap ≠ .unavailable →
    ∃ entry : CapKey, entry.text = key ∧ entry.Exists os sys ∧
      keyToPath key = some entry.path ∧
      (cap = .available ↔ os.access sys entry.path .write = .ok ())
  unknown : (∀ entry : CapKey, entry.Exists os sys → entry.text ≠ key) → ∀ proc,
    (zenctlQueryCap key os sys proc).1 = .value .unavailable

/-! ## What `sscanf` takes for a key -/

/--
White space may stand before the number and before the attribute, the number
may have a sign and leading zeros, and anything may follow white space.
-/
structure CpuKeySpelling where
  lead : CStr
  leadBlank : ∀ c ∈ lead, isSpace c = true
  number : CStr
  value : Int
  decimal : Decimal number value
  gap : CStr
  gapBlank : ∀ c ∈ gap, isSpace c = true
  attr : CpuAttr
  tail : CStr
  ends : ∀ c others, tail = c :: others → isSpace c = true

namespace CpuKeySpelling

def text (s : CpuKeySpelling) : CStr :=
  "cpu.".toList ++
    (s.lead ++ (s.number ++ '.' :: (s.gap ++ (s.attr.text ++ s.tail))))

/-- What the clamped number becomes as an `int`. -/
def index (s : CpuKeySpelling) : Int :=
  toInt32 (clamp s.value []).value

/-- Nothing but the index of an `int` CPU in canonical decimal and the attribute. -/
def Canonical (s : CpuKeySpelling) : Prop :=
  s.lead = [] ∧ s.gap = [] ∧ s.tail = [] ∧
    ∃ n : Nat, s.number = showNat n ∧ (n : Int) ≤ int32Max

/-- The index names a CPU that has the attribute. -/
def Opens (s : CpuKeySpelling) (os : Os σ) (sys : σ) : Prop :=
  0 ≤ s.index ∧ os.access sys (s.attr.path s.index) .present = .ok ()

end CpuKeySpelling

/-! ## The scanner -/

/-- An attribute is read from behind white space, up to white space or the end. -/
theorem scanWord_eq_some_iff {rest : CStr} (attr : CpuAttr) :
    scanWord 63 rest = some attr.text ↔
      ∃ gap tail, rest = gap ++ (attr.text ++ tail) ∧ (∀ c ∈ gap, isSpace c = true) ∧
        ∀ c others, tail = c :: others → isSpace c = true := by
  obtain ⟨nonempty, short, plain⟩ := attr.text_plain
  constructor
  · intro scanned
    unfold scanWord scanBlank at scanned
    dsimp only at scanned
    split at scanned
    · cases scanned
    have word : (rest.dropWhile isSpace).takeWhile (fun c => !isSpace c) = attr.text :=
      (@bounded_eq_iff 64 _ _ (by omega)).mp (Option.some.inj scanned)
    refine ⟨rest.takeWhile isSpace, (rest.dropWhile isSpace).dropWhile fun c => !isSpace c,
      ?_, fun c member => List.mem_takeWhile_imp member, ?_⟩
    · rw [← word, List.takeWhile_append_dropWhile, List.takeWhile_append_dropWhile]
    · intro c others tail
      have stops := List.head?_dropWhile_not (fun c => !isSpace c) (rest.dropWhile isSpace)
      rw [tail] at stops
      simpa using stops
  · rintro ⟨gap, tail, rfl, blank, ends⟩
    have word : (attr.text ++ tail).takeWhile (fun c => !isSpace c) = attr.text := by
      rw [List.takeWhile_append_of_pos fun c member => by simp [plain c member]]
      cases tail with
      | nil => exact List.append_nil _
      | cons c others =>
          rw [List.takeWhile_cons_of_neg (by simp [ends c others rfl]), List.append_nil]
    have begins : (attr.text ++ tail).dropWhile isSpace = attr.text ++ tail := by
      obtain ⟨c, others, split⟩ := List.exists_cons_of_ne_nil nonempty
      rw [split, List.cons_append, List.dropWhile_cons_of_neg]
      simp [plain c (by rw [split]; exact .head _)]
    unfold scanWord scanBlank
    rw [List.dropWhile_append_of_pos blank, begins, word, List.take_of_length_le short.le]
    exact if_neg nonempty

/-- The value does not depend on what follows. -/
theorem clamp_value_alone (n : Int) (rest : CStr) :
    (clamp n rest).value = (clamp n []).value := by
  unfold clamp
  split
  · rfl
  · split <;> rfl

/-- `sscanf` takes the loose spellings apart. -/
theorem scanCpuKey_iff {key : CStr} {index : Int} (attr : CpuAttr) :
    scanCpuKey key = some (index, attr.text) ↔
      ∃ s : CpuKeySpelling, s.text = key ∧ s.index = index ∧ s.attr = attr := by
  unfold scanCpuKey
  constructor
  · intro scanned
    obtain ⟨rest, afterCpu, scanned⟩ := Option.bind_eq_some_iff.mp scanned
    obtain ⟨⟨value, afterNumber⟩, number, scanned⟩ := Option.bind_eq_some_iff.mp scanned
    obtain ⟨afterDot, dot, scanned⟩ := Option.bind_eq_some_iff.mp scanned
    obtain ⟨word, read, same⟩ := Option.bind_eq_some_iff.mp scanned
    obtain ⟨rfl, rfl⟩ := Prod.mk.inj (Option.some.inj same)
    obtain ⟨parsed, found, pair⟩ := Option.map_eq_some_iff.mp number
    obtain ⟨rfl, rfl⟩ := Prod.mk.inj pair
    obtain ⟨lead, digits, n, split, blank, decimal, clamped⟩ := strtoll_split found
    obtain ⟨gap, tail, shape, gapBlank, ends⟩ := (scanWord_eq_some_iff attr).mp read
    refine ⟨⟨lead, blank, digits, n, decimal, gap, gapBlank, attr, tail, ends⟩, ?_, ?_, rfl⟩
    · rw [scanText_eq_some_iff.mp afterCpu, split, scanText_eq_some_iff.mp dot, shape]
      rfl
    · rw [clamped, clamp_value_alone]
      rfl
  · rintro ⟨s, rfl, rfl, rfl⟩
    have dotStops : ∀ c others, '.' :: (s.gap ++ (s.attr.text ++ s.tail)) = c :: others →
        isDigit c = false := by
      rintro c others same
      obtain ⟨rfl, -⟩ := List.cons.inj same
      decide
    have number := s.decimal.strtoll_append s.leadBlank dotStops
    have dot : scanText "." ('.' :: (s.gap ++ (s.attr.text ++ s.tail))) =
        some (s.gap ++ (s.attr.text ++ s.tail)) := scanText_eq_some_iff.mpr rfl
    have word : scanWord 63 (s.gap ++ (s.attr.text ++ s.tail)) = some s.attr.text :=
      (scanWord_eq_some_iff s.attr).mpr ⟨s.gap, s.tail, rfl, s.gapBlank, s.ends⟩
    have start : scanText "cpu." s.text =
        some (s.lead ++ (s.number ++ '.' :: (s.gap ++ (s.attr.text ++ s.tail)))) :=
      scanText_eq_some_iff.mpr rfl
    have read : scanInt (s.lead ++ (s.number ++ '.' :: (s.gap ++ (s.attr.text ++ s.tail)))) =
        some ((clamp s.value []).value, '.' :: (s.gap ++ (s.attr.text ++ s.tail))) := by
      rw [scanInt, number, Option.map_some, clamp_value_alone, clamp_rest]
    refine Option.bind_eq_some_iff.mpr ⟨_, start, Option.bind_eq_some_iff.mpr ⟨_, read, ?_⟩⟩
    exact Option.bind_eq_some_iff.mpr ⟨_, dot, Option.bind_eq_some_iff.mpr ⟨_, word, rfl⟩⟩

/-! ## The paths -/

/-- The index of a spelling is an `int`. -/
theorem CpuKeySpelling.index_fits (s : CpuKeySpelling) :
    s.index ≤ int32Max ∧ int64Min ≤ s.index ∧ s.index ≤ int64Max := by
  unfold index int32Max int64Min int64Max
  rcases NumberSite.toInt32_cases (clamp s.value []).value with ⟨low, cast⟩ | ⟨high, cast⟩ <;>
    rw [cast] <;>
    omega

/-- The path of a CPU file is not cut. -/
theorem cpuKeyPath_eq
    {index : Int} (low : int64Min ≤ index) (high : index ≤ int64Max) (attr : CpuAttr) :
    cpuKeyPath index attr.file = attr.path index := by
  have printed := showInt_length low high
  have short : attr.file.length ≤ 40 := by cases attr <;> decide
  have lead : "/sys/devices/system/cpu/cpu".toList.length = 27 := by decide
  unfold cpuKeyPath CpuAttr.path
  rw [List.append_assoc, bounded_eq_self]
  rw [List.length_append, List.length_append]
  omega

/-- Which file an attribute stands for. -/
theorem attr_chosen {index : Int} {word path : CStr} :
    (if word = "governor" then some (cpuKeyPath index "/cpufreq/scaling_governor")
      else if word = "freq_min" then some (cpuKeyPath index "/cpufreq/scaling_min_freq")
      else if word = "freq_max" then some (cpuKeyPath index "/cpufreq/scaling_max_freq")
      else if word = "online" then some (cpuKeyPath index "/online")
      else none) = some path ↔
      ∃ attr : CpuAttr, attr.text = word ∧ cpuKeyPath index attr.file = path := by
  constructor
  · intro chosen
    split_ifs at chosen with governor low high online
    · exact ⟨.governor, governor.symm, Option.some.inj chosen⟩
    · exact ⟨.freqMin, low.symm, Option.some.inj chosen⟩
    · exact ⟨.freqMax, high.symm, Option.some.inj chosen⟩
    · exact ⟨.online, online.symm, Option.some.inj chosen⟩
  · rintro ⟨attr, rfl, rfl⟩
    cases attr with
    | governor => exact if_pos rfl
    | freqMin => exact (if_neg (by decide)).trans (if_pos rfl)
    | freqMax => exact (if_neg (by decide)).trans ((if_neg (by decide)).trans (if_pos rfl))
    | online =>
        exact (if_neg (by decide)).trans
          ((if_neg (by decide)).trans ((if_neg (by decide)).trans (if_pos rfl)))

/-- Which file a key stands for. -/
theorem keyToPath_iff {key path : CStr} :
    keyToPath key = some path ↔
      (∃ mem : MemKey, mem.text = key ∧ mem.path = path) ∨
        ∃ s : CpuKeySpelling, s.text = key ∧ 0 ≤ s.index ∧ s.attr.path s.index = path := by
  have spelled : ∀ s : CpuKeySpelling, startsWith "cpu." s.text = true := fun s =>
    startsWith_append _ _
  unfold keyToPath
  by_cases cpu : startsWith "cpu." key = true
  · rw [if_pos cpu]
    constructor
    · intro found
      refine .inr ?_
      cases scanned : scanCpuKey key with
      | none =>
          rw [scanned] at found
          cases found
      | some pair =>
          obtain ⟨index, word⟩ := pair
          rw [scanned] at found
          dsimp only at found
          split at found
          · cases found
          next nonneg =>
          obtain ⟨attr, rfl, same⟩ := attr_chosen.mp found
          obtain ⟨s, text, rfl, rfl⟩ := (scanCpuKey_iff attr).mp scanned
          obtain ⟨-, low, high⟩ := s.index_fits
          exact ⟨s, text, not_lt.mp nonneg, (cpuKeyPath_eq low high s.attr).symm.trans same⟩
    · rintro (⟨mem, rfl, -⟩ | ⟨s, rfl, nonneg, rfl⟩)
      · rw [mem.not_cpu] at cpu
        cases cpu
      · obtain ⟨-, low, high⟩ := s.index_fits
        rw [(scanCpuKey_iff s.attr).mpr ⟨s, rfl, rfl, rfl⟩]
        dsimp only
        rw [if_neg (not_lt.mpr nonneg), ← cpuKeyPath_eq low high]
        exact attr_chosen.mpr ⟨s.attr, rfl, rfl⟩
  · rw [if_neg cpu]
    constructor
    · intro found
      refine .inl ?_
      split_ifs at found with a b c d e
      · exact ⟨.swappiness, a.symm, Option.some.inj found⟩
      · exact ⟨.nrHugepages, b.symm, Option.some.inj found⟩
      · exact ⟨.overcommit, c.symm, Option.some.inj found⟩
      · exact ⟨.vfsCachePressure, d.symm, Option.some.inj found⟩
      · exact ⟨.thp, e.symm, Option.some.inj found⟩
    · rintro (⟨mem, rfl, rfl⟩ | ⟨s, rfl, -⟩)
      · cases mem <;> rfl
      · exact absurd (spelled s) cpu

/-! ## Canonical spellings -/

/-- Digits without a sign denote their value. -/
theorem Decimal.value_eq
    {digits : CStr} {value : Int} (decimal : Decimal digits value)
    (all : ∀ c ∈ digits, isDigit c = true) :
    value = digitsValue digits := by
  cases decimal with
  | unsigned => rfl
  | plus => exact absurd (all '+' (.head _)) (by decide)
  | minus => exact absurd (all '-' (.head _)) (by decide)

/-- A group of digits ends at the dot. -/
theorem digits_dot
    {first second rest more : CStr}
    (firstDigits : ∀ c ∈ first, isDigit c = true)
    (secondDigits : ∀ c ∈ second, isDigit c = true)
    (same : first ++ '.' :: rest = second ++ '.' :: more) :
    first = second ∧ rest = more := by
  have group : ∀ {digits more : CStr}, (∀ c ∈ digits, isDigit c = true) →
      (digits ++ '.' :: more).takeWhile isDigit = digits := by
    intro digits more all
    rw [List.takeWhile_append_of_pos all, List.takeWhile_cons_of_neg (by decide), List.append_nil]
  have equal := congrArg (List.takeWhile isDigit) same
  rw [group firstDigits, group secondDigits] at equal
  subst equal
  exact ⟨rfl, (List.cons.inj (List.append_cancel_left same)).2⟩

/-- A natural number is printed like no other integer. -/
theorem showInt_showNat
    {n : Nat} {value : Int} (same : showInt n = showInt value) :
    value = n := by
  have printed : showNat n = showInt value := same
  cases value with
  | ofNat k =>
      have equal := congrArg digitsValue (show showNat n = showNat k from printed)
      rw [digitsValue_showNat, digitsValue_showNat] at equal
      rw [equal]
      rfl
  | negSucc k =>
      have sign : '-' ∈ showNat n := by
        rw [printed]
        exact .head _
      exact absurd ((showNat_digits n).2 _ sign) (by decide)

namespace CpuKeySpelling

/-- A canonical spelling is a key of the table, for the CPU it is read as. -/
theorem Canonical.entry {s : CpuKeySpelling} (canonical : s.Canonical) :
    ∃ n : Nat, (CapKey.cpu n s.attr).text = s.text ∧ s.index = n := by
  obtain ⟨noLead, noGap, noTail, n, printed, fits⟩ := canonical
  refine ⟨n, ?_, ?_⟩
  · rw [text, noLead, noGap, noTail, printed]
    simp [CapKey.text]
  · have value : s.value = n := by
      rw [s.decimal.value_eq (by rw [printed]; exact (showNat_digits n).2), printed,
        digitsValue_showNat]
    have low : (0 : Int) ≤ n := Int.natCast_nonneg n
    have high : (n : Int) ≤ int64Max := fits.trans (by decide)
    rw [index, value, clamp_nonneg low, min_eq_left high, toInt32_fits (by omega) fits]

/-- Only a canonical spelling is also a key of the table, for the same file. -/
theorem canonical_of_entry
    {s : CpuKeySpelling} {n : Nat} {attr : CpuAttr}
    (same : (CapKey.cpu n attr).text = s.text)
    (file : attr.path n = s.attr.path s.index) :
    s.Canonical := by
  have body : showNat n ++ '.' :: attr.text =
      s.lead ++ (s.number ++ '.' :: (s.gap ++ (s.attr.text ++ s.tail))) :=
    List.append_cancel_left same
  obtain ⟨nonempty, digits⟩ := showNat_digits n
  obtain ⟨-, -, namePlain⟩ := attr.text_plain
  obtain ⟨first, others, begins⟩ := List.exists_cons_of_ne_nil nonempty
  have firstDigit : isDigit first = true := digits first (by rw [begins]; exact .head _)
  have noLead : s.lead = [] := by
    cases lead : s.lead with
    | nil => rfl
    | cons c rest =>
        rw [begins, lead] at body
        obtain ⟨rfl, -⟩ := List.cons.inj body
        have blank := s.leadBlank first (by rw [lead]; exact .head _)
        rw [(digit_plain firstDigit).1] at blank
        cases blank
  rw [noLead, List.nil_append] at body
  have unsigned : ∀ c ∈ s.number, isDigit c = true := by
    have decimal := s.decimal
    generalize s.number = number at decimal body
    generalize s.value = value at decimal
    cases decimal with
    | unsigned _ _ all => exact all
    | plus | minus =>
        rw [begins] at body
        obtain ⟨rfl, -⟩ := List.cons.inj body
        exact absurd firstDigit (by decide)
  obtain ⟨printed, rest⟩ := digits_dot digits unsigned body
  have noGap : s.gap = [] := by
    cases gap : s.gap with
    | nil => rfl
    | cons c more =>
        have blank := s.gapBlank c (by rw [gap]; exact .head _)
        rw [namePlain c (by rw [rest, gap]; exact .head _)] at blank
        cases blank
  rw [noGap, List.nil_append] at rest
  have noTail : s.tail = [] := by
    cases tail : s.tail with
    | nil => rfl
    | cons c more =>
        have blank := s.ends c more tail
        rw [namePlain c (by rw [rest, tail]; simp)] at blank
        cases blank
  rw [noTail, List.append_nil] at rest
  -- the file tells the index that was read
  have index : s.index = n := by
    rw [← CpuAttr.text_injective rest] at file
    exact showInt_showNat (List.append_cancel_right (List.append_cancel_left file))
  exact ⟨noLead, noGap, noTail, n, printed.symm, index ▸ s.index_fits.1⟩

end CpuKeySpelling

/-! ## The answers -/

theorem zenctlQueryCap_run (key : CStr) (os : Os σ) (sys : σ) (proc : Proc) :
    (zenctlQueryCap key os sys proc).1 = .value
      (match keyToPath key with
        | none => .unavailable
        | some path =>
            match os.access sys path .present with
            | .error _ => .unavailable
            | .ok _ =>
                match os.access sys path .write with
                | .error _ => .readonly
                | .ok _ => .available) := by
  unfold zenctlQueryCap
  split
  · next empty =>
      subst empty
      rfl
  cases keyToPath key with
  | none => rfl
  | some path =>
      dsimp only
      cases present : os.access sys path .present with
      | error e =>
          rw [GetM.bind_value (sysCall_error present)]
          rfl
      | ok _ =>
          rw [GetM.bind_value (sysCall_ok present)]
          dsimp only
          cases writable : os.access sys path .write with
          | error e =>
              rw [GetM.bind_value (sysCall_error writable)]
              rfl
          | ok _ =>
              rw [GetM.bind_value (sysCall_ok writable)]
              rfl

/-- Anything but unavailable says that the file of the key is there. -/
theorem present_of_answer
    {key : CStr} {os : Os σ} {sys : σ} {proc : Proc} {cap : Cap}
    (answered : (zenctlQueryCap key os sys proc).1 = .value cap)
    (there : cap ≠ .unavailable) :
    ∃ path, keyToPath key = some path ∧ os.access sys path .present = .ok () ∧
      (cap = .available ↔ os.access sys path .write = .ok ()) := by
  rw [zenctlQueryCap_run] at answered
  injection answered with same
  subst same
  cases found : keyToPath key with
  | none => exact absurd (by rw [found]) there
  | some path =>
      rw [found] at there
      dsimp only at there ⊢
      cases present : os.access sys path .present with
      | error e => exact absurd (by rw [present]) there
      | ok _ =>
          refine ⟨path, rfl, present, ?_⟩
          dsimp only
          cases writable : os.access sys path .write with
          | error e => exact iff_of_false nofun nofun
          | ok _ => exact iff_of_true rfl rfl

/-- A file that is there is answered for. -/
theorem answer_of_present
    {key path : CStr} {os : Os σ} {sys : σ}
    (found : keyToPath key = some path)
    (present : os.access sys path .present = .ok ())
    (proc : Proc) :
    ∃ cap, (zenctlQueryCap key os sys proc).1 = .value cap ∧ cap ≠ .unavailable := by
  have run := zenctlQueryCap_run key os sys proc
  rw [found] at run
  dsimp only at run
  rw [present] at run
  cases writable : os.access sys path .write with
  | error e =>
      rw [writable] at run
      exact ⟨.readonly, run, nofun⟩
  | ok _ =>
      rw [writable] at run
      exact ⟨.available, run, nofun⟩

/-- The answer is as documented unless a loose spelling opens a file of some CPU. -/
theorem answeredByTable_iff (key : CStr) (os : Os σ) (sys : σ) :
    AnsweredByTable key os sys ↔
      ∀ s : CpuKeySpelling, s.text = key → s.Canonical ∨ ¬s.Opens os sys := by
  constructor
  · rintro answered s rfl
    refine or_iff_not_imp_right.mpr fun opens => ?_
    obtain ⟨nonneg, present⟩ := not_not.mp opens
    have path : keyToPath s.text = some (s.attr.path s.index) :=
      keyToPath_iff.mpr (.inr ⟨s, rfl, nonneg, rfl⟩)
    obtain ⟨cap, delivered, notUnavailable⟩ := answer_of_present path present freshProc
    obtain ⟨entry, text, -, found, -⟩ := answered.known freshProc cap delivered notUnavailable
    have file : entry.path = s.attr.path s.index := Option.some.inj (found.symm.trans path)
    cases entry with
    | mem mem =>
        have other := mem.not_cpu
        rw [show mem.text = s.text from text, CpuKeySpelling.text, startsWith_append] at other
        cases other
    | cpu n attr => exact s.canonical_of_entry text file
  · intro canonical
    have known : ∀ proc cap, (zenctlQueryCap key os sys proc).1 = .value cap →
        cap ≠ .unavailable → ∃ entry : CapKey, entry.text = key ∧ entry.Exists os sys ∧
          keyToPath key = some entry.path ∧
          (cap = .available ↔ os.access sys entry.path .write = .ok ()) := by
      intro proc cap answered there
      obtain ⟨path, found, present, writable⟩ := present_of_answer answered there
      rcases keyToPath_iff.mp found with ⟨mem, same, rfl⟩ | ⟨s, same, nonneg, rfl⟩
      · exact ⟨.mem mem, same, trivial, found, writable⟩
      · have spelled := (canonical s same).resolve_right (not_not.mpr ⟨nonneg, present⟩)
        obtain ⟨n, text, index⟩ := spelled.entry
        rw [index] at present found writable
        refine ⟨.cpu n s.attr, text.trans same, ⟨s.attr.file.tail, ?_⟩, found, writable⟩
        have below : '/' :: s.attr.file.tail = s.attr.file := by cases s.attr <;> rfl
        rw [below]
        exact present
    refine ⟨known, fun unknown proc => ?_⟩
    obtain ⟨cap, run⟩ : ∃ cap, (zenctlQueryCap key os sys proc).1 = .value cap :=
      ⟨_, zenctlQueryCap_run key os sys proc⟩
    by_cases none : cap = .unavailable
    · rw [run, none]
    · obtain ⟨entry, text, there, -⟩ := known proc cap run none
      exact absurd text (unknown entry there)

/-- CPU 7 can be taken offline. -/
def hotplugOs : Os Unit :=
  { (bareOs : Os Unit) with
    access := fun _ path _ =>
      if path = "/sys/devices/system/cpu/cpu7/online".toList then .ok ()
      else .error Errno.enoent }

/-- A leading zero, white space and a trailing word: none of these keys is in the table. -/
theorem looseKeys_available :
    (zenctlQueryCap "cpu.07.online" hotplugOs () freshProc).1 = .value .available ∧
      (zenctlQueryCap "cpu. +7.online junk" hotplugOs () freshProc).1 = .value .available ∧
      (zenctlQueryCap "cpu.4294967303.online" hotplugOs () freshProc).1 = .value .available ∧
      ¬AnsweredByTable "cpu.07.online".toList hotplugOs () := by
  have padded :
      (zenctlQueryCap "cpu.07.online" hotplugOs () freshProc).1 = .value .available := by rfl
  refine ⟨padded, by rfl, by rfl, fun answered => ?_⟩
  obtain ⟨entry, text, -⟩ := answered.known freshProc .available padded nofun
  cases entry with
  | mem mem =>
      revert text
      cases mem <;> decide
  | cpu n attr =>
      have split : "cpu.07.online".toList = "cpu.".toList ++ ("07".toList ++ '.' :: "online".toList) :=
        rfl
      have body := List.append_cancel_left ((show _ = _ from text).trans split)
      obtain ⟨printed, -⟩ := digits_dot (showNat_digits n).2 (List.all_eq_true.mp rfl) body
      have value := congrArg digitsValue printed
      rw [digitsValue_showNat] at value
      subst value
      exact absurd printed (by decide)

end Zenctl
