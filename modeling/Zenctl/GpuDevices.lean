import Zenctl.Answers
import Zenctl.CpuSelection
import Zenctl.Redirection
import Mathlib.Data.Nat.Nth

namespace Zenctl

open CString

/-!
# Which device NVML is asked about

NVML counts the NVIDIA GPUs from zero.  The library hands it the number of the
DRM card, which counts the other cards as well.
-/

variable {σ : Type}

/-! ## Cards -/

/-- The DRM cards of a machine and the vendor of each. -/
structure DrmCards where
  numbers : Finset Nat
  vendor : Nat → CStr

namespace DrmCards

/-- The NVIDIA GPUs. -/
def nvidia (cards : DrmCards) : Finset Nat :=
  cards.numbers.filter fun n => cards.vendor n = "NVIDIA".toList

/-- The place of a card among the NVIDIA GPUs. -/
def rank (cards : DrmCards) (n : Nat) : Nat :=
  Nat.count (· ∈ cards.nvidia) n

/--
All smaller numbers belong to NVIDIA GPUs.  Of a number that is no `int` it is
what the cast leaves of it that must count the NVIDIA GPUs before the card.
-/
def Aligned (cards : DrmCards) (n : Nat) : Prop :=
  if (n : Int) ≤ int32Max then ∀ k < n, k ∈ cards.nvidia
  else toInt32 (min (n : Int) int64Max) = cards.rank n

end DrmCards

/-- A machine with these cards, whose NVML numbers the NVIDIA GPUs in their order. -/
structure NvmlMachine (σ : Type) (cards : DrmCards) where
  os : Os σ
  /-- The NVML device of a card. -/
  device : Nat → Nat
  distinct : ∀ n ∈ cards.nvidia, ∀ other ∈ cards.nvidia, device n = device other → n = other
  counted : ∀ sys, os.nvml.count sys = some cards.nvidia.card
  numbered : ∀ sys, ∀ n ∈ cards.nvidia, os.nvml.device sys (cards.rank n) = some (device n)

/-- A handle of the NVIDIA card with this number. -/
structure NvidiaHandle (n : Nat) where
  handle : GpuHandle
  cardIndex : handle.cardIndex = atoi (showNat n)
  nvidia : gpuIsNvidia handle = true

/-! ## Accesses -/

/-- The calls that go to NVML, some of them after `hwmon`. -/
inductive NvmlAccess where
  | temp
  | fanPwm
  | power
  | freq
  | utilization
  | powerLimit
  | setPowerLimit (mw : Int)
  deriving Repr, DecidableEq

def NvmlAccess.call (access : NvmlAccess) (g : GpuHandle) : SetM σ Int :=
  match access with
  | temp => getting (zenctlGpuGetTemp g)
  | fanPwm => getting (zenctlGpuGetFanPwm g)
  | power => getting (zenctlGpuGetPower g)
  | freq => getting (zenctlGpuGetFreq g)
  | utilization => getting (zenctlGpuNvidiaGetUtilization g)
  | powerLimit => getting (zenctlGpuNvidiaGetPowerLimit g)
  | setPowerLimit mw => do
      zenctlGpuNvidiaSetPowerLimit g mw
      pure 0

/-- The same machine with this one NVML device. -/
def Os.onlyDevice (os : Os σ) (device : Nat) : Os σ :=
  { os with
    nvml :=
      { os.nvml with
        count := fun _ => some 1
        device := fun _ index => if index = 0 then some device else none } }

/-- The call goes as if there were no other NVML device. -/
def NvmlAccess.Addresses (access : NvmlAccess) (os : Os σ) (g : GpuHandle) (device : Nat) : Prop :=
  ∀ sys proc, access.call g os sys proc =
    access.call { g with cardIndex := 0 } (os.onlyDevice device) sys proc

/-- Whatever the machine, every access through a handle of the card is to the card's device. -/
def DrmCards.OwnDevice (cards : DrmCards) (n : Nat) : Prop :=
  ∀ {σ : Type} (m : NvmlMachine σ cards) (g : NvidiaHandle n) (access : NvmlAccess),
    access.Addresses m.os g.handle (m.device n)

theorem nvmlDevice_only (os : Os σ) (sys : σ) (device : Nat) :
    nvmlDevice (os.onlyDevice device) sys 0 = some device := rfl

section Addressing

variable {os : Os σ} {device : Nat} {index : Int}

/-- The files are the same. -/
theorem onlyDevice_agree (os : Os σ) (device : Nat) (path : CStr) :
    os.AgreeAt path (os.onlyDevice device) := by
  constructor <;> intros <;> rfl

theorem readFileI64_only (path : CStr) :
    (readFileI64 path).Alike os (os.onlyDevice device) :=
  FileStep.readFileI64_alike (onlyDevice_agree os device _)

theorem quietly_only
    {α : Type} {program : GetM σ α} (alike : program.Alike os (os.onlyDevice device)) :
    (quietly program).Alike os (os.onlyDevice device) := by
  intro sys proc
  unfold quietly attempt
  rw [alike]

theorem gpuHwmon_only (g : GpuHandle) :
    (gpuHwmon g).Alike os (os.onlyDevice device) := by
  unfold gpuHwmon
  cases g.hwmonPath with
  | some path => exact .pure _
  | none =>
      have texts := (onlyDevice_agree os device []).strerror
      refine .bind (.bind (sysCallOr_alike texts (fun _ => rfl) _ _) fun names => ?_) fun name =>
        .bind (allocateOr_alike _ _) fun _ => .pure _
      split
      · exact .bind (allocateOr_alike _ _) fun _ => .pure _
      · refine .bind (fun _ _ => rfl) fun err => ?_
        split
        · exact raise_alike _ _ _
        · exact fun _ _ => rfl

/-- Two programs that run alike on two machines, step by step. -/
theorem bind_only
    {α β : Type} {first first' : GetM σ α} {next next' : α → GetM σ β} {sys : σ} {proc : Proc}
    (same : first os sys proc = first' (os.onlyDevice device) sys proc)
    (goesOn : ∀ value later,
      next value os sys later = next' value (os.onlyDevice device) sys later) :
    (first >>= next) os sys proc = (first' >>= next') (os.onlyDevice device) sys proc := by
  rw [GetM.bind_run, GetM.bind_run, same]
  rcases first' (os.onlyDevice device) sys proc with ⟨value | _ | _, later⟩
  · exact goesOn value later
  · rfl
  · rfl

theorem bindSet_only
    {α β : Type} {first first' : SetM σ α} {next next' : α → SetM σ β} {sys : σ} {proc : Proc}
    (same : first os sys proc = first' (os.onlyDevice device) sys proc)
    (goesOn : ∀ value changed later,
      next value os changed later = next' value (os.onlyDevice device) changed later) :
    (first >>= next) os sys proc = (first' >>= next') (os.onlyDevice device) sys proc := by
  rw [SetM.bind_run, SetM.bind_run, same]
  rcases first' (os.onlyDevice device) sys proc with ⟨value | _ | _, changed, later⟩
  · exact goesOn value changed later
  · rfl
  · rfl

/-- A number read by the right index is read from the device. -/
theorem nvmlRead_only
    (found : ∀ sys, nvmlDevice os sys index = some device)
    {read : Nvml σ → σ → Nat → Option Nat}
    (same : read (os.onlyDevice device).nvml = read os.nvml) (sys : σ) (proc : Proc) :
    nvmlRead index read os sys proc = nvmlRead 0 read (os.onlyDevice device) sys proc := by
  refine bind_only rfl fun started later => ?_
  cases started with
  | false => rfl
  | true =>
      change nvmlGet index read os sys later = nvmlGet 0 read (os.onlyDevice device) sys later
      unfold nvmlGet
      rw [found, nvmlDevice_only, same]

/-- The same getter behind another read of NVML. -/
theorem hwmonOrNvml_only
    {g : GpuHandle} (found : ∀ sys, nvmlDevice os sys g.cardIndex = some device)
    {read : CStr → GetM σ Int} (readAlike : ∀ path, (read path).Alike os (os.onlyDevice device))
    {nvml : Nvml σ → σ → Nat → Option Nat}
    (same : nvml (os.onlyDevice device).nvml = nvml os.nvml)
    (convert : Nat → Int) (caller : CStr) (sys : σ) (proc : Proc) :
    hwmonOrNvml g read nvml convert caller os sys proc =
      hwmonOrNvml { g with cardIndex := 0 } read nvml convert caller (os.onlyDevice device) sys
        proc := by
  have asked : ∀ {next : Option Nat → GetM σ Int},
      (∀ answer last, next answer os sys last = next answer (os.onlyDevice device) sys last) →
        ∀ later, (nvmlRead g.cardIndex nvml >>= next) os sys later =
          (nvmlRead 0 nvml >>= next) (os.onlyDevice device) sys later :=
    fun alike later => bind_only (nvmlRead_only found same sys later) alike
  refine bind_only (quietly_only (gpuHwmon_only g) sys proc) fun hw later => ?_
  by_cases nvidia : gpuIsNvidia g = true
  · have nvidia' : gpuIsNvidia { g with cardIndex := 0 } = true := nvidia
    rw [if_pos nvidia, if_pos nvidia']
    cases hw with
    | none =>
        refine bind_only rfl fun first last => ?_
        cases first with
        | some value => rfl
        | none =>
            refine asked (fun answer final => ?_) last
            cases answer <;> rfl
    | some path =>
        refine bind_only (quietly_only (readAlike path) sys later) fun first last => ?_
        cases first with
        | some value => rfl
        | none =>
            refine asked (fun answer final => ?_) last
            cases answer <;> rfl
  · have nvidia' : ¬gpuIsNvidia { g with cardIndex := 0 } = true := nvidia
    rw [if_neg nvidia, if_neg nvidia']
    cases hw with
    | none =>
        refine bind_only rfl fun first last => ?_
        cases first <;> rfl
    | some path =>
        refine bind_only (quietly_only (readAlike path) sys later) fun first last => ?_
        cases first with
        | some value => rfl
        | none => exact readAlike path sys last

theorem gpuNvidiaCheck_only (g : GpuHandle) :
    (gpuNvidiaCheck g).Alike os (os.onlyDevice device) := by
  unfold gpuNvidiaCheck
  split
  · exact .pure _
  · exact raise_alike _ _ _

theorem nvidiaGet_only
    {g : GpuHandle} (found : ∀ sys, nvmlDevice os sys g.cardIndex = some device)
    {read : Nvml σ → σ → Nat → Option Nat}
    (same : read (os.onlyDevice device).nvml = read os.nvml)
    (caller : CStr) (sys : σ) (proc : Proc) :
    nvidiaGet g read caller os sys proc =
      nvidiaGet { g with cardIndex := 0 } read caller (os.onlyDevice device) sys proc := by
  refine bind_only (gpuNvidiaCheck_only g sys proc) fun _ later => ?_
  refine bind_only (nvmlRead_only found same sys later) fun value last => ?_
  cases value <;> rfl

theorem nvidiaSetPowerLimit_only
    {g : GpuHandle} (found : ∀ sys, nvmlDevice os sys g.cardIndex = some device)
    (mw : Int) (sys : σ) (proc : Proc) :
    zenctlGpuNvidiaSetPowerLimit g mw os sys proc =
      zenctlGpuNvidiaSetPowerLimit { g with cardIndex := 0 } mw (os.onlyDevice device) sys proc := by
  unfold zenctlGpuNvidiaSetPowerLimit
  split
  · rfl
  · refine bindSet_only ((gpuNvidiaCheck_only g).getting sys proc) fun _ changed later => ?_
    refine bindSet_only rfl fun started changed later => ?_
    cases started with
    | false => rfl
    | true =>
        have limited : nvmlSetPowerLimit g.cardIndex mw os changed later =
            nvmlSetPowerLimit 0 mw (os.onlyDevice device) changed later := by
          unfold nvmlSetPowerLimit
          rw [found, nvmlDevice_only]
          rfl
        refine bindSet_only limited fun set changed later => ?_
        cases set <;> rfl

/-- With the right index every access is to the device. -/
theorem addresses_of_found
    {g : GpuHandle} (found : ∀ sys, nvmlDevice os sys g.cardIndex = some device)
    (access : NvmlAccess) :
    access.Addresses os g device := by
  intro sys proc
  have mapped : ∀ path (convert : Int → Int), GetM.Alike (do
      let v ← readFileI64 path
      pure (convert v)) os (os.onlyDevice device) := fun path convert =>
    .bind (readFileI64_only path) fun _ => .pure _
  have power : ∀ path, (readHwmonPower path).Alike os (os.onlyDevice device) := by
    intro path
    refine .bind (quietly_only (readFileI64_only _)) fun average => ?_
    cases average with
    | some value => exact .pure _
    | none => exact readFileI64_only _
  have read : ∀ {program program' : GetM σ Int},
      program os sys proc = program' (os.onlyDevice device) sys proc →
        (getting program : SetM σ Int) os sys proc =
          (getting program' : SetM σ Int) (os.onlyDevice device) sys proc := by
    intro program program' same
    rw [getting_run, getting_run, same]
  cases access with
  | temp => exact read (hwmonOrNvml_only found (fun _ => readFileI64_only _) rfl _ _ sys proc)
  | fanPwm => exact read (hwmonOrNvml_only found (fun _ => mapped _ _) rfl _ _ sys proc)
  | power => exact read (hwmonOrNvml_only found power rfl _ _ sys proc)
  | freq => exact read (hwmonOrNvml_only found (fun _ => mapped _ _) rfl _ _ sys proc)
  | utilization => exact read (nvidiaGet_only found rfl _ sys proc)
  | powerLimit => exact read (nvidiaGet_only found rfl _ sys proc)
  | setPowerLimit mw =>
      have set := nvidiaSetPowerLimit_only found mw sys proc
      change (zenctlGpuNvidiaSetPowerLimit g mw >>= fun _ => pure 0 : SetM σ Int) os sys proc =
        (zenctlGpuNvidiaSetPowerLimit { g with cardIndex := 0 } mw >>= fun _ => pure 0 : SetM σ Int)
          (os.onlyDevice device) sys proc
      rw [SetM.bind_run, SetM.bind_run, set]
      rfl

end Addressing

/-! ## The right index -/

/-- What is made of a card's number. -/
theorem atoi_showNat (n : Nat) :
    atoi (showNat n) = toInt32 (min (n : Int) int64Max) := by
  obtain ⟨nonempty, digits⟩ := showNat_digits n
  have decimal := Decimal.unsigned (showNat n) nonempty digits
  rw [digitsValue_showNat] at decimal
  unfold atoi
  rw [decimal.strtoll_eq]
  have low : int64Min = -9223372036854775808 := rfl
  refine congrArg toInt32 ?_
  rcases NumberSite.clamp_cases (n : Int) with ⟨below, _⟩ | ⟨above, clamped⟩ | ⟨_, fits, clamped⟩
  · omega
  · rw [clamped, min_eq_right above.le]
  · rw [clamped, min_eq_left fits]

/-- What an NVIDIA handle delivers is decided by the read. -/
theorem nvidiaGet_run
    {os : Os σ} {sys : σ} {proc later : Proc} {g : GpuHandle}
    {read : Nvml σ → σ → Nat → Option Nat} {found : Option Nat}
    (nvidia : gpuIsNvidia g = true)
    (got : nvmlRead g.cardIndex read os sys proc = (.value found, later))
    (caller : CStr) :
    (nvidiaGet g read caller os sys proc).1 = .ofOption (found.map fun value => toInt32 value) := by
  have checked : gpuNvidiaCheck g os sys proc = (.value (), proc) := by
    rw [gpuNvidiaCheck, if_pos nvidia]
    rfl
  unfold nvidiaGet
  rw [GetM.bind_value checked, GetM.bind_value got]
  cases found <;> rfl

/-- The directory of a card. -/
def cardPath (n : Nat) : CStr :=
  "/sys/class/drm/card".toList ++ showNat n

theorem baseName_cardPath (n : Nat) :
    baseName (cardPath n) = "card".toList ++ showNat n := by
  have noSlash : ∀ c ∈ "card".toList ++ showNat n, decide (c ≠ '/') = true := by
    intro c member
    refine decide_eq_true ?_
    rintro rfl
    rcases List.mem_append.mp member with letter | digit
    · exact absurd letter (by decide)
    · exact absurd ((showNat_digits n).2 _ digit) (by decide)
  unfold baseName List.rtakeWhile
  rw [show cardPath n = "/sys/class/drm/".toList ++ ("card".toList ++ showNat n) from rfl,
    List.reverse_append, List.takeWhile_append_of_pos fun c member =>
      noSlash c (List.mem_reverse.mp member)]
  rw [show ("/sys/class/drm/".toList).reverse.takeWhile (fun c => decide (c ≠ '/')) = [] from rfl,
    List.append_nil, List.reverse_reverse]

/-- A card that is opened by its directory has its number in the handle. -/
theorem gpuOpenPath_cardIndex
    {os : Os σ} {sys : σ} {proc : Proc} {n : Nat} {g : GpuHandle}
    (short : (cardPath n).length < 8192)
    (opened : (zenctlGpuOpenPath (cardPath n) os sys proc).1 = .value g) :
    g.cardIndex = atoi (showNat n) := by
  have whole : bounded 8192 (cardPath n) = cardPath n := bounded_eq_self short
  have resolved : (resolveSysfsPath (cardPath n) : GetM σ CStr).Returns (· = cardPath n) := by
    have starts : startsWith "/sys/class/drm/" (cardPath n) = true :=
      startsWith_append "/sys/class/drm/" ("card".toList ++ showNat n)
    refine .bind (.any _) fun _ _ => ?_
    rw [if_pos starts, whole]
    exact .pure rfl
  have returns : (zenctlGpuOpenPath (cardPath n) : GetM σ GpuHandle).Returns
      fun g => g.cardIndex = atoi (showNat n) := by
    refine .bind resolved fun sysfs same => ?_
    subst same
    refine .bind (.any _) fun vendor _ => .bind (.any _) fun _ _ => .bind (.any _) fun _ _ =>
      .bind (.any _) fun linked _ => ?_
    have index : (if startsWith "card" (baseName (cardPath n)) then
        atoi ((baseName (cardPath n)).drop 4) else 0) = atoi (showNat n) := by
      rw [baseName_cardPath, if_pos (startsWith_append "card" (showNat n))]
      rfl
    cases linked with
    | some driver => exact .bind (.any _) fun _ _ => .bind (.any _) fun _ _ => .pure index
    | none => exact .bind (.any _) fun _ _ => .bind (.any _) fun _ _ => .pure index
  exact returns os sys proc g opened

namespace DrmCards

variable {cards : DrmCards} {n : Nat}

theorem aligned_iff :
    cards.Aligned n ↔ atoi (showNat n) = cards.rank n := by
  rw [atoi_showNat, Aligned]
  split
  · next fits =>
      have limit : int64Max = 9223372036854775807 := rfl
      have limit32 : int32Max = 2147483647 := rfl
      rw [min_eq_left (by omega), toInt32_fits (by omega) fits, Int.natCast_inj, rank, eq_comm]
      exact Nat.count_iff_forall.symm
  · exact Iff.rfl

theorem rank_lt (member : n ∈ cards.nvidia) :
    cards.rank n < cards.nvidia.card := by
  rw [rank, Nat.count_eq_card_filter_range]
  refine Finset.card_lt_card (Finset.ssubset_iff_of_subset ?_ |>.mpr ⟨n, member, ?_⟩)
  · exact fun k inside => (Finset.mem_filter.mp inside).2
  · exact fun inside => absurd (Finset.mem_range.mp (Finset.mem_filter.mp inside).1) (lt_irrefl n)

/-- A machine that has a number of just this card. -/
theorem not_ownDevice
    (wrong : atoi (showNat n) ≠ cards.rank n) :
    ¬cards.OwnDevice n := by
  intro own
  let nvml : Nvml Unit :=
    { noNvml with
      loads := fun _ => true
      resolves := fun _ => true
      starts := fun _ => true
      count := fun _ => some cards.nvidia.card
      device := fun _ index => some (Nat.nth (· ∈ cards.nvidia) index)
      utilization := fun _ device => if device = n then some 1 else none }
  let m : NvmlMachine Unit cards :=
    { os := { bareOs with nvml := nvml }
      device := id
      distinct := fun _ _ _ _ same => same
      counted := fun _ => rfl
      numbered := fun _ _ here => congrArg some (Nat.nth_count here) }
  let g : NvidiaHandle n := ⟨⟨atoi (showNat n), [], [], none, some "NVIDIA", none⟩, rfl, rfl⟩
  have missed : (nvmlDevice m.os () (atoi (showNat n))).bind (nvml.utilization ()) = none := by
    change (if 0 ≤ atoi (showNat n) ∧ atoi (showNat n) < cards.nvidia.card then
      some (Nat.nth (· ∈ cards.nvidia) (atoi (showNat n)).toNat) else none).bind _ = none
    split
    · next inside =>
        refine if_neg fun same => wrong ?_
        -- the card in that place would be the card itself
        have all : ∀ finite : (Set.ofPred (· ∈ cards.nvidia)).Finite,
            (atoi (showNat n)).toNat < finite.toFinset.card := by
          intro finite
          have whole : finite.toFinset = cards.nvidia := by
            ext k
            exact finite.mem_toFinset
          rw [whole]
          omega
        have place := Nat.count_nth all
        rw [show Nat.nth (· ∈ cards.nvidia) (atoi (showNat n)).toNat = n from same] at place
        rw [rank, place, Int.toNat_of_nonneg inside.1]
    · rfl
  have started : ∀ (os : Os Unit) (index : Int), os.nvml.loads () = true →
      os.nvml.resolves () = true → os.nvml.starts () = true →
        nvmlRead index Nvml.utilization os () freshProc =
          (.value ((nvmlDevice os () index).bind (os.nvml.utilization ())),
            { freshProc with nvmlInitialized := true }) := by
    intro os index loads resolves starts
    have init : nvmlInit os () freshProc =
        (.value true, { freshProc with nvmlInitialized := true }) := by
      unfold nvmlInit
      rw [loads, resolves, starts]
      rfl
    exact GetM.bind_value init
  have failed := nvidiaGet_run g.nvidia (started m.os g.handle.cardIndex rfl rfl rfl)
    "zenctl_gpu_nvidia_get_utilization"
  have answered := @nvidiaGet_run Unit _ _ _ _ { g.handle with cardIndex := 0 } _ _ g.nvidia
    (started (m.os.onlyDevice n) 0 rfl rfl rfl) "zenctl_gpu_nvidia_get_utilization"
  have reads := congrArg Prod.fst (own m g .utilization () freshProc)
  change (nvidiaGet g.handle Nvml.utilization _ m.os () freshProc).1 =
    (nvidiaGet { g.handle with cardIndex := 0 } Nvml.utilization _ (m.os.onlyDevice n) ()
      freshProc).1 at reads
  have value : (m.os.onlyDevice n).nvml.utilization () n = some 1 := if_pos rfl
  rw [failed, answered, nvmlDevice_only, Option.bind_some, value] at reads
  rw [show (nvmlDevice m.os () g.handle.cardIndex).bind (m.os.nvml.utilization ()) = none from missed]
    at reads
  cases reads

theorem ownDevice_iff (member : n ∈ cards.nvidia) :
    cards.OwnDevice n ↔ cards.Aligned n := by
  rw [aligned_iff]
  constructor
  · intro own
    by_contra wrong
    exact not_ownDevice wrong own
  · intro right σ m g access
    refine addresses_of_found (fun sys => ?_) access
    have inside := rank_lt member
    unfold nvmlDevice
    rw [m.counted, g.cardIndex, right, Option.bind_eq_bind, Option.bind_some, Int.toNat_natCast,
      if_pos ⟨by omega, by omega⟩]
    exact m.numbered sys n member

end DrmCards

/-- Two NVIDIA cards, and nothing else. -/
def nvidiaPair : DrmCards :=
  ⟨{0, 1}, fun _ => "NVIDIA"⟩

theorem nvidiaPair_second : nvidiaPair.OwnDevice 1 :=
  (DrmCards.ownDevice_iff (by decide)).mpr (DrmCards.aligned_iff.mpr (by decide))

/-- An integrated GPU at zero and an NVIDIA card. -/
def hybridCards : DrmCards :=
  ⟨{0, 1}, fun n => if n = 0 then "Intel" else "NVIDIA"⟩

/-- The NVIDIA card of such a machine is looked for in the second place. -/
theorem hybridCards_missed :
    ¬∀ (cards : DrmCards) (n : Nat), n ∈ cards.nvidia → cards.OwnDevice n := by
  intro own
  exact DrmCards.not_ownDevice (by decide) (own hybridCards 1 (by decide))

end Zenctl
