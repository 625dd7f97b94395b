import Zenctl.BatteryIndex
import Zenctl.CpuSelection

namespace Zenctl

open CString

/-!
# The numbers of one battery

A number that no file has is to be left unset.  Capacity and cycle count pass
through a variable that starts at zero and are cast to `int`; the others are
read in place.
-/

variable {σ : Type}

/-- The numbers of a battery. -/
inductive BatteryField where
  | capacity
  | cycleCount
  | chargeFull
  | chargeFullDesign
  | chargeNow
  | currentNow
  | voltageNow
  deriving Repr, DecidableEq

namespace BatteryField

def key : BatteryField → CStr
  | capacity => "capacity"
  | cycleCount => "cycle_count"
  | chargeFull => "charge_full"
  | chargeFullDesign => "charge_full_design"
  | chargeNow => "charge_now"
  | currentNow => "current_now"
  | voltageNow => "voltage_now"

/-- The value before anything is read. -/
def unset : BatteryField → Int
  | currentNow | voltageNow => 0
  | _ => -1

/-- What the field is there for: a percentage and a count are not negative and are an `int`. -/
def Fits : BatteryField → Int → Prop
  | capacity, v | cycleCount, v => 0 ≤ v ∧ v ≤ int32Max
  | _, v => int64Min ≤ v ∧ v ≤ int64Max

instance (field : BatteryField) (v : Int) : Decidable (field.Fits v) := by
  cases field <;> exact inferInstanceAs (Decidable (_ ∧ _))

def of (battery : Battery) : BatteryField → Int
  | capacity => battery.capacity
  | cycleCount => battery.cycleCount
  | chargeFull => battery.chargeFull
  | chargeFullDesign => battery.chargeFullDesign
  | chargeNow => battery.chargeNow
  | currentNow => battery.currentNow
  | voltageNow => battery.voltageNow

/-- The integer of the file where there is one that fits, and otherwise the unset value. -/
def expected (field : BatteryField) (os : Os σ) (sys : σ) (name : CStr) : Int :=
  match fileInt os sys (supplyPath name field.key) with
  | some v => if field.Fits v then v else field.unset
  | none => field.unset

/-- What the call puts there. -/
def filled (field : BatteryField) (os : Os σ) (sys : σ) (name : CStr) : Int :=
  match field with
  | capacity | cycleCount => nonnegativeOr (-1) (supplyInt os sys name field.key 0)
  | _ => supplyInt os sys name field.key field.unset

end BatteryField

/-! ## What is filled in -/

section Filled

variable {os : Os σ} {sys : σ} {proc : Proc}

theorem readSupplyInt64_run (name key : CStr) (unset : Int) (proc : Proc) :
    ∃ later, readSupplyInt64 name key unset os sys proc =
      (.value (supplyInt os sys name key unset), later) := by
  obtain ⟨later, run, _⟩ := quietly_readFileI64 os sys (supplyPath name key) proc
  exact ⟨later, GetM.bind_value run⟩

theorem readSupplyString_run (name key : CStr) (size : Nat) (proc : Proc) :
    ∃ text later, readSupplyString name key size os sys proc = (.value text, later) := by
  obtain ⟨found, later, run⟩ := @quietly_readStringAlloc σ os sys (supplyPath name key) proc
  exact ⟨_, later, GetM.bind_value run⟩

/-- A number that is taken is not negative. -/
theorem nthBatteryName_nonneg
    {index : Int} {name : CStr} {later : Proc}
    (named : nthBatteryName index os sys proc = (.value name, later)) :
    0 ≤ index := by
  by_contra negative
  obtain ⟨list, middle, -, run⟩ := GetM.value_of_bind named
  rw [if_pos (.inl (not_le.mp negative))] at run
  cases run

/-- Once the battery is found the call succeeds, whatever can be read and whatever memory there is. -/
theorem batteryGet_filled
    {index : Int} {name : CStr} {middle : Proc}
    (named : nthBatteryName index os sys proc = (.value name, middle)) :
    ∃ battery later, zenctlPowerBatteryGet index os sys proc = (.value battery, later) ∧
      ∀ field : BatteryField, field.of battery = field.filled os sys name := by
  obtain ⟨status, first, statusRun⟩ := @readSupplyString_run σ os sys name "status" 32 middle
  obtain ⟨technology, second, technologyRun⟩ :=
    @readSupplyString_run σ os sys name "technology" 32 first
  have number := @readSupplyInt64_run σ os sys name
  obtain ⟨third, capacityRun⟩ := number "capacity" 0 second
  obtain ⟨fourth, cycleRun⟩ := number "cycle_count" 0 third
  obtain ⟨fifth, fullRun⟩ := number "charge_full" (-1) fourth
  obtain ⟨sixth, designRun⟩ := number "charge_full_design" (-1) fifth
  obtain ⟨seventh, chargeRun⟩ := number "charge_now" (-1) sixth
  obtain ⟨eighth, currentRun⟩ := number "current_now" 0 seventh
  obtain ⟨ninth, voltageRun⟩ := number "voltage_now" 0 eighth
  have nonneg := nthBatteryName_nonneg named
  refine ⟨{ batteryAt os sys name with status := status, technology := technology }, ninth, ?_, ?_⟩
  · rw [zenctlPowerBatteryGet, if_neg (by omega)]
    exact (GetM.bind_value named).trans <| (GetM.bind_value statusRun).trans <|
      (GetM.bind_value technologyRun).trans <| (GetM.bind_value capacityRun).trans <|
      (GetM.bind_value cycleRun).trans <| (GetM.bind_value fullRun).trans <|
      (GetM.bind_value designRun).trans <| (GetM.bind_value chargeRun).trans <|
      (GetM.bind_value currentRun).trans <| GetM.bind_value voltageRun
  · intro field
    cases field <;> rfl

end Filled

/-! ## When it is what the files say -/

/-- Both files can be read, and neither number is cast to another one than `-1`. -/
def IntFilesFit (os : Os σ) (sys : σ) (name : CStr) : Prop :=
  ∀ key, key = "capacity".toList ∨ key = "cycle_count".toList →
    ∃ v, fileInt os sys (supplyPath name key) = some v ∧ (v ≤ int32Max ∨ toInt32 v = -1)

theorem fileInt_bounds
    {os : Os σ} {sys : σ} {path : CStr} {v : Int} (read : fileInt os sys path = some v) :
    int64Min ≤ v ∧ v ≤ int64Max := by
  unfold fileInt at read
  split at read
  · cases read
  · split at read
    · next parsed parsing =>
        split at read
        · cases read
        · cases read
          exact strtoll_bounds parsing
    · cases read

/-- A number read in place is what the file says. -/
theorem supplyInt_expected
    (os : Os σ) (sys : σ) (name : CStr) {field : BatteryField}
    (wide : ∀ v, field.Fits v ↔ int64Min ≤ v ∧ v ≤ int64Max) :
    supplyInt os sys name field.key field.unset = field.expected os sys name := by
  unfold supplyInt BatteryField.expected
  cases read : fileInt os sys (supplyPath name field.key) with
  | none => rfl
  | some v =>
      exact (if_pos ((wide v).mpr (fileInt_bounds read))).symm

/-- A number that starts at zero and is cast is what the file says just in these cases. -/
theorem nonnegativeOr_expected
    {os : Os σ} {sys : σ} {name : CStr} {field : BatteryField}
    (narrow : ∀ v, field.Fits v ↔ 0 ≤ v ∧ v ≤ int32Max) (unset : field.unset = -1) :
    nonnegativeOr (-1) (supplyInt os sys name field.key 0) = field.expected os sys name ↔
      ∃ v, fileInt os sys (supplyPath name field.key) = some v ∧
        (v ≤ int32Max ∨ toInt32 v = -1) := by
  have limit : int32Max = 2147483647 := rfl
  unfold supplyInt BatteryField.expected
  cases read : fileInt os sys (supplyPath name field.key) with
  | none =>
      rw [unset]
      exact iff_of_false (show ¬(0 : Int) = -1 by decide) nofun
  | some v =>
      have given : (∃ w, some v = some w ∧ (w ≤ int32Max ∨ toInt32 w = -1)) ↔
          v ≤ int32Max ∨ toInt32 v = -1 := by
        constructor
        · rintro ⟨w, same, known⟩
          cases same
          exact known
        · exact fun known => ⟨v, rfl, known⟩
      rw [given, unset, Option.getD_some, nonnegativeOr]
      dsimp only
      by_cases negative : v < 0
      · rw [if_neg (by omega), if_neg fun fits => absurd ((narrow v).mp fits).1 (by omega)]
        exact iff_of_true rfl (.inl (by omega))
      · rw [if_pos (by omega)]
        by_cases small : v ≤ int32Max
        · rw [if_pos ((narrow v).mpr ⟨by omega, small⟩), toInt32_fits (by omega) small]
          exact iff_of_true rfl (.inl small)
        · rw [if_neg fun fits => small ((narrow v).mp fits).2]
          exact ⟨.inr, fun known => known.resolve_left small⟩

theorem batteryGet_expected_iff
    (os : Os σ) (sys : σ) (proc : Proc) {index : Int} {name : CStr} {middle : Proc}
    (named : nthBatteryName index os sys proc = (.value name, middle)) :
    ∃ battery later, zenctlPowerBatteryGet index os sys proc = (.value battery, later) ∧
      ((∀ field : BatteryField, field.of battery = field.expected os sys name) ↔
        IntFilesFit os sys name) := by
  obtain ⟨battery, later, run, filled⟩ := batteryGet_filled named
  refine ⟨battery, later, run, ?_⟩
  have capacity := @nonnegativeOr_expected σ os sys name .capacity (fun _ => Iff.rfl) rfl
  have cycleCount := @nonnegativeOr_expected σ os sys name .cycleCount (fun _ => Iff.rfl) rfl
  constructor
  · rintro expected key (rfl | rfl)
    · exact capacity.mp ((filled .capacity).symm.trans (expected .capacity))
    · exact cycleCount.mp ((filled .cycleCount).symm.trans (expected .cycleCount))
  · intro fit field
    rw [filled field]
    cases field with
    | capacity => exact capacity.mpr (fit _ (.inl rfl))
    | cycleCount => exact cycleCount.mpr (fit _ (.inr rfl))
    | chargeFull | chargeFullDesign | chargeNow | currentNow | voltageNow =>
        exact supplyInt_expected os sys name fun _ => Iff.rfl

/-- A battery whose capacity and cycle count can be read, and nothing else. -/
def countedBattery : Os Unit :=
  { bareOs with
    listDir := fun _ _ => .ok ["BAT0".toList]
    openRead := fun _ path =>
      if path = supplyPath "BAT0" "type" then .ok ⟨"Battery\n".toList, none⟩
      else if path = supplyPath "BAT0" "capacity" then .ok ⟨"72\n".toList, none⟩
      else if path = supplyPath "BAT0" "cycle_count" then .ok ⟨"42\n".toList, none⟩
      else .error Errno.enoent }

theorem countedBattery_expected :
    ∃ battery later, zenctlPowerBatteryGet 0 countedBattery () freshProc = (.value battery, later) ∧
      ∀ field : BatteryField, field.of battery = field.expected countedBattery () "BAT0" := by
  have named : nthBatteryName 0 countedBattery () freshProc =
      (.value "BAT0".toList, { freshProc with errno := 0 }) := by decide +kernel
  obtain ⟨battery, later, run, exactly⟩ := batteryGet_expected_iff countedBattery () freshProc named
  refine ⟨battery, later, run, exactly.mpr ?_⟩
  rintro key (rfl | rfl)
  · exact ⟨72, by decide +kernel, by decide⟩
  · exact ⟨42, by decide +kernel, by decide⟩

/-- A battery that reports no number has a capacity of 0 %. -/
theorem laptop_capacity :
    ¬∀ (os : Os Unit) (proc middle later : Proc) (index : Int) (name : CStr) (battery : Battery),
      nthBatteryName index os () proc = (.value name, middle) →
        zenctlPowerBatteryGet index os () proc = (.value battery, later) →
          ∀ field : BatteryField, field.of battery = field.expected os () name := by
  intro expected
  have named : nthBatteryName 0 (laptop.withSupplies ["BAT0"]) () freshProc =
      (.value "BAT0".toList, freshProc) := by decide +kernel
  obtain ⟨battery, later, run, filled⟩ := batteryGet_filled named
  have capacity := (filled .capacity).symm.trans
    (expected _ _ _ _ _ _ _ named run .capacity)
  revert capacity
  decide +kernel

end Zenctl
