import Zenctl.RecordedCalls

namespace Zenctl

open CString

/-!
# The numbers of the batteries

A battery is asked for by its number among the sorted names, so the order in
which the directory is read has no part in it.
-/

variable {σ : Type}

/-! ## One set of batteries, read twice -/

/-- An entry of the directory whose `type` file says `Battery`. -/
def isBattery (base : Os σ) (sys : σ) (name : CStr) : Bool :=
  name.head? ≠ some '.' && supplyType base sys name = some "Battery".toList

/-- Two listings of the directory with the same batteries in some order, and at least one. -/
structure TwoListings (base : Os σ) (sys : σ) where
  first : List CStr
  second : List CStr
  distinct : first.Nodup
  same : (first.filter (isBattery base sys)).Perm (second.filter (isBattery base sys))
  nonempty : ∃ name ∈ first, isBattery base sys name = true

/-- The machine with this listing of the directory. -/
def Os.withSupplies (base : Os σ) (names : List CStr) : Os σ :=
  { base with
    listDir := fun sys dir => if dir = powerSupplyDir then .ok names else base.listDir sys dir }

theorem Os.withSupplies_lists (base : Os σ) (sys : σ) (names : List CStr) :
    (base.withSupplies names).listDir sys powerSupplyDir = .ok names := by
  have opened : (if powerSupplyDir = powerSupplyDir then .ok names
      else base.listDir sys powerSupplyDir) = .ok names := if_pos rfl
  exact opened

/-! ## What belongs to a battery -/

def supplyInt (base : Os σ) (sys : σ) (name key : CStr) (unset : Int) : Int :=
  (fileInt base sys (supplyPath name key)).getD unset

def supplyText (base : Os σ) (sys : σ) (name key : CStr) (size : Nat) : CStr :=
  bounded size (((textOf base sys (supplyPath name key) 4096).map
    fun text => text.rdropWhile isSpace).getD [])

/-- A battery, as its files have it. -/
def batteryAt (base : Os σ) (sys : σ) (name : CStr) : Battery :=
  { name := bounded 64 name
    status := supplyText base sys name "status" 32
    capacity := nonnegativeOr (-1) (supplyInt base sys name "capacity" 0)
    chargeFull := supplyInt base sys name "charge_full" (-1)
    chargeFullDesign := supplyInt base sys name "charge_full_design" (-1)
    chargeNow := supplyInt base sys name "charge_now" (-1)
    currentNow := supplyInt base sys name "current_now" 0
    voltageNow := supplyInt base sys name "voltage_now" 0
    cycleCount := nonnegativeOr (-1) (supplyInt base sys name "cycle_count" 0)
    technology := supplyText base sys name "technology" 32 }

/-- The threshold in a file of the battery, when there is one in range. -/
def thresholdAt (base : Os σ) (sys : σ) (name key : CStr) : Option Int :=
  (fileInt base sys (supplyPath name key)).filter fun v => 0 ≤ v ∧ v ≤ 100

/-- The one call that sets a threshold of the battery. -/
def thresholdCall (base : Os σ) (name key : CStr) (percent : Int) : SetCall :=
  .wrote (resolvePath base.sysfsRoot (supplyPath name key)) (showInt percent)

/-- With memory, the calls with this index act on the battery of this name. -/
structure ActsOnBattery (base : Os σ) (sys : σ) (names : List CStr) (index : Int) (name : CStr) :
    Prop where
  get : ∀ proc, proc.allocations = [] →
    (zenctlPowerBatteryGet index (base.withSupplies names) sys proc).1 =
      .value (batteryAt base sys name)
  getStart : ∀ proc, proc.allocations = [] →
    (zenctlPowerBatteryGetChargeStart index (base.withSupplies names) sys proc).1 =
      .ofOption (thresholdAt base sys name "charge_control_start_threshold")
  getEnd : ∀ proc, proc.allocations = [] →
    (zenctlPowerBatteryGetChargeEnd index (base.withSupplies names) sys proc).1 =
      .ofOption (thresholdAt base sys name "charge_control_end_threshold")
  setStart : ∀ percent, 0 ≤ percent → percent ≤ 100 → ∀ proc, proc.allocations = [] →
    (zenctlPowerBatterySetChargeStart index percent (base.withSupplies names).recorded
      (sys, []) proc).2.1.2 = [thresholdCall base name "charge_control_start_threshold" percent]
  setEnd : ∀ percent, 0 ≤ percent → percent ≤ 100 → ∀ proc, proc.allocations = [] →
    (zenctlPowerBatterySetChargeEnd index percent (base.withSupplies names).recorded
      (sys, []) proc).2.1.2 = [thresholdCall base name "charge_control_end_threshold" percent]

/-- Whatever the memory, the calls with this index fail, and none of them writes. -/
structure Rejected (base : Os σ) (sys : σ) (names : List CStr) (index : Int) : Prop where
  get : ∀ proc, (zenctlPowerBatteryGet index (base.withSupplies names) sys proc).1 = .failed
  getStart : ∀ proc,
    (zenctlPowerBatteryGetChargeStart index (base.withSupplies names) sys proc).1 = .failed
  getEnd : ∀ proc,
    (zenctlPowerBatteryGetChargeEnd index (base.withSupplies names) sys proc).1 = .failed
  setStart : ∀ percent proc, ∃ later,
    zenctlPowerBatterySetChargeStart index percent (base.withSupplies names).recorded (sys, [])
      proc = (.failed, (sys, []), later)
  setEnd : ∀ percent proc, ∃ later,
    zenctlPowerBatterySetChargeEnd index percent (base.withSupplies names).recorded (sys, [])
      proc = (.failed, (sys, []), later)

/-- The numbers stand for the batteries in the order of their names, for both listings. -/
structure BatteryIndexStable (base : Os σ) (sys : σ) (listings : TwoListings base sys)
    (batteries : List CStr) : Prop where
  /-- Each battery is there once, and smaller names come first. -/
  increasing : batteries.Pairwise fun a b => strcmpLe a b = true ∧ a ≠ b
  complete : ∀ name, name ∈ batteries ↔ name ∈ listings.first ∧ isBattery base sys name = true
  count : ∀ names, names = listings.first ∨ names = listings.second →
    ∀ proc, proc.allocations = [] →
      (zenctlPowerBatteryCount (base.withSupplies names) sys proc).1 =
        .value (batteries.length : Int)
  acts : ∀ names, names = listings.first ∨ names = listings.second →
    ∀ (i : Nat) name, batteries[i]? = some name → ActsOnBattery base sys names i name
  rejects : ∀ names, names = listings.first ∨ names = listings.second →
    ∀ index : Int, index < 0 ∨ (batteries.length : Int) ≤ index →
      Rejected base sys names index

/-! ## The list of batteries -/

/-- The batteries of a listing in the order of their numbers. -/
def batteries (base : Os σ) (sys : σ) (names : List CStr) : List CStr :=
  sortNames (names.filter (isBattery base sys))

/-- The battery of an index. -/
def batteryName (base : Os σ) (sys : σ) (names : List CStr) (index : Int) : Option CStr :=
  if index < 0 then none else (batteries base sys names)[index.toNat]?

theorem batteryName_beyond
    {os : Os σ} {sys : σ} {names : List CStr} {index : Int}
    (beyond : index < 0 ∨ ((batteries os sys names).length : Int) ≤ index) :
    batteryName os sys names index = none := by
  unfold batteryName
  split
  · rfl
  · exact List.getElem?_eq_none (by omega)

theorem nonneg_of_batteryName
    {os : Os σ} {sys : σ} {names : List CStr} {index : Int} {name : CStr}
    (found : batteryName os sys names index = some name) :
    ¬index < 0 := by
  intro negative
  rw [batteryName, if_pos negative] at found
  cases found

section Listing

variable {os : Os σ} {sys : σ} {names : List CStr}

theorem supplyType_answers (name : CStr) :
    (quietly (readStringAlloc (supplyPath name "type"))).Answers os sys
      (some (supplyType os sys name)) :=
  (readStringAlloc_answers (supplyPath name "type")).quietly

theorem isBattery_hidden {name : CStr} (hidden : name.head? = some '.') :
    isBattery os sys name = false := by
  rw [isBattery, Bool.and_eq_false_iff]
  exact .inl (decide_eq_false (not_not.mpr hidden))

theorem isBattery_visible {name : CStr} (visible : ¬name.head? = some '.') :
    isBattery os sys name = decide (supplyType os sys name = some "Battery".toList) := by
  rw [isBattery, decide_eq_true visible, Bool.true_and]

/-- The loop collects the batteries of the listing. -/
theorem collectSupplies_answers (capacity : Nat) (found : List CStr) :
    (collectSupplies "Battery" capacity found names).Answers os sys
      (some (found ++ names.filter (isBattery os sys))) := by
  induction names generalizing capacity found with
  | nil =>
      rw [List.filter_nil, List.append_nil]
      exact .pure found
  | cons name rest inductionHypothesis =>
      rw [collectSupplies]
      by_cases hidden : name.head? = some '.'
      · rw [if_pos hidden, List.filter_cons_of_neg (by rw [isBattery_hidden hidden]; decide)]
        exact inductionHypothesis capacity found
      · have visible := @isBattery_visible _ os sys name hidden
        rw [if_neg hidden]
        refine .after (supplyType_answers name) ?_
        cases typed : supplyType os sys name with
        | none =>
            rw [List.filter_cons_of_neg (by rw [visible, typed]; decide)]
            exact inductionHypothesis capacity found
        | some type =>
            by_cases wanted : type = "Battery".toList
            · obtain ⟨room, grown⟩ := @growArray_answers _ os sys 8 capacity found.length
                "realloc failed" "list_supplies_by_type"
              rw [List.filter_cons_of_pos (by rw [visible, typed, wanted]; decide),
                List.append_cons found name (rest.filter _)]
              dsimp only
              rw [if_pos wanted]
              refine .after grown (.after (allocateOr_answers _ _) ?_)
              exact inductionHypothesis room (found ++ [name])
            · have other : ¬isBattery os sys name = true := by
                rw [visible, typed, decide_eq_true_eq]
                exact fun same => wanted (Option.some.inj same)
              rw [List.filter_cons_of_neg other]
              dsimp only
              rw [if_neg wanted]
              exact inductionHypothesis capacity found

/-- A type is seen as it is, or not at all. -/
theorem supplyType_failsOr (name : CStr) :
    (quietly (readStringAlloc (supplyPath name "type"))).FailsOr os sys fun seen =>
      ∀ type, seen = some type → supplyType os sys name = some type := by
  intro proc
  obtain ⟨errno, run⟩ := quietly_supplyType os sys proc name
  cases typed : supplyType os sys name with
  | none =>
      rw [typed] at run
      exact .inr ⟨none, _, run, nofun⟩
  | some type =>
      rw [typed] at run
      refine .inr ⟨_, _, run, fun other seen => ?_⟩
      split at seen
      · cases seen
      · exact seen

theorem growArray_failsOr (first capacity used : Nat) (message context : CStr) :
    (growArray first capacity used message context).FailsOr os sys fun _ => True := by
  unfold growArray
  exact .ite (fun _ => .bind (allocateOr_failsOr _ _) fun _ _ => .pure trivial)
    fun _ => .pure trivial

/-- Without memory it collects fewer. -/
theorem collectSupplies_failsOr (capacity : Nat) (found : List CStr) :
    (collectSupplies "Battery" capacity found names).FailsOr os sys fun list =>
      list.length ≤ found.length + (names.filter (isBattery os sys)).length := by
  induction names generalizing capacity found with
  | nil =>
      exact .pure (Nat.le_refl _)
  | cons name rest inductionHypothesis =>
      have skipped : (collectSupplies "Battery" capacity found rest).FailsOr os sys
          fun list => list.length ≤
            found.length + ((name :: rest).filter (isBattery os sys)).length := by
        refine (inductionHypothesis capacity found).mono fun list bounded => ?_
        have longer := ((List.sublist_cons_self name rest).filter (isBattery os sys)).length_le
        omega
      rw [collectSupplies]
      by_cases hidden : name.head? = some '.'
      · rw [if_pos hidden]
        exact skipped
      · rw [if_neg hidden]
        refine .bind (supplyType_failsOr name) fun seen faithful => ?_
        cases seen with
        | none => exact skipped
        | some type =>
            refine .ite (fun wanted => ?taken) fun _ => skipped
            have battery : isBattery os sys name = true := by
              rw [isBattery_visible hidden, faithful type rfl, wanted, decide_eq_true_eq]
            rw [List.filter_cons_of_pos battery, List.length_cons]
            refine .bind (growArray_failsOr _ _ _ _ _) fun room _ =>
              .bind (allocateOr_failsOr _ _) fun _ _ => ?_
            refine (inductionHypothesis room (found ++ [name])).mono fun list bounded => ?_
            rw [List.length_append, List.length_singleton] at bounded
            omega

theorem readSupplyInt64_answers (name key : CStr) (unset : Int) :
    (readSupplyInt64 name key unset).Answers os sys (some (supplyInt os sys name key unset)) :=
  .after (readFileI64_answers _).quietly (.pure _)

theorem readSupplyString_answers (name key : CStr) (size : Nat) :
    (readSupplyString name key size).Answers os sys (some (supplyText os sys name key size)) :=
  .after (readStringAlloc_answers _).quietly (.pure _)

/-! ## The battery of a number -/

variable (listed : os.listDir sys powerSupplyDir = .ok names)

include listed

theorem listSuppliesByType_answers :
    (listSuppliesByType "Battery").Answers os sys
      (if names.filter (isBattery os sys) = [] then none
      else some (names.filter (isBattery os sys))) := by
  have entries := @sysCallOr_answers _ _ os sys (fun os sys => os.listDir sys powerSupplyDir) none
    powerSupplyDir
  rw [listed] at entries
  refine .after entries (.after (collectSupplies_answers 0 []) ?_)
  rw [List.nil_append]
  exact .ite .fail (.pure _)

/-- Without memory the list is shorter. -/
theorem listSuppliesByType_failsOr :
    (listSuppliesByType "Battery").FailsOr os sys fun list =>
      list.length ≤ (batteries os sys names).length := by
  refine .bind (sysCallOr_failsOr _ _ _) fun entries opened => ?_
  cases listed.symm.trans opened
  refine .bind (collectSupplies_failsOr 0 []) fun list bounded => ?_
  refine .ite (fun _ => .fail) fun _ => .pure ?_
  rw [List.length_nil, Nat.zero_add] at bounded
  exact bounded.trans (sortNames_perm _).length_eq.ge

theorem nthBatteryName_answers (index : Int) :
    (nthBatteryName index).Answers os sys (batteryName os sys names index) := by
  have length : (batteries os sys names).length = (names.filter (isBattery os sys)).length :=
    (sortNames_perm _).length_eq
  -- an empty list is a failure of its own, and has no battery either
  have answer : batteryName os sys names index =
      (if names.filter (isBattery os sys) = [] then none
        else some (names.filter (isBattery os sys))).bind fun _ =>
          batteryName os sys names index := by
    split
    · rename_i empty
      rw [empty, List.length_nil] at length
      exact batteryName_beyond (by omega)
    · rfl
  rw [answer]
  refine .bind (listSuppliesByType_answers listed) fun list found => ?_
  split at found
  · cases found
  · cases found
    by_cases outside : index < 0 ∨ ((names.filter (isBattery os sys)).length : Int) ≤ index
    · rw [if_pos outside, batteryName_beyond (by omega)]
      exact .raise _ _ _
    · have inside : index.toNat < (batteries os sys names).length := by omega
      have named : batteryName os sys names index =
          some (((ExchangeSort.sort strcmpLe (names.filter (isBattery os sys)))[index.toNat]?).getD
            []) := by
        rw [exchangeSort_eq, batteryName, if_neg (by omega), List.getElem?_eq_getElem inside]
        exact congrArg some (congrArg (·.getD []) (List.getElem?_eq_getElem inside)).symm
      rw [if_neg outside, named]
      exact .after (allocateOr_answers _ _) (.pure _)

/-- Beyond the batteries there is no name, whatever the memory. -/
theorem nthBatteryName_beyond
    {index : Int}
    (beyond : index < 0 ∨ ((batteries os sys names).length : Int) ≤ index) :
    (nthBatteryName index).FailsOr os sys fun _ => False := by
  refine .bind (listSuppliesByType_failsOr listed) fun list bounded => ?_
  rw [if_pos (by omega)]
  exact .raise _ _ _

theorem batteryCount_answers (nonempty : names.filter (isBattery os sys) ≠ []) :
    zenctlPowerBatteryCount.Answers os sys (some ((batteries os sys names).length : Int)) := by
  have list := listSuppliesByType_answers listed
  rw [if_neg nonempty] at list
  have length : (batteries os sys names).length = (names.filter (isBattery os sys)).length :=
    (sortNames_perm _).length_eq
  rw [length]
  exact .after list (.pure _)

/-! ## The calls with an index -/

theorem batteryGet_answers
    {index : Int} {name : CStr}
    (found : batteryName os sys names index = some name) :
    (zenctlPowerBatteryGet index).Answers os sys (some (batteryAt os sys name)) := by
  have named := nthBatteryName_answers listed index
  rw [found] at named
  unfold zenctlPowerBatteryGet
  rw [if_neg (nonneg_of_batteryName found)]
  refine .after named ?_
  refine .after (readSupplyString_answers _ _ _) (.after (readSupplyString_answers _ _ _) ?_)
  refine .after (readSupplyInt64_answers _ _ _) (.after (readSupplyInt64_answers _ _ _)
    (.after (readSupplyInt64_answers _ _ _) (.after (readSupplyInt64_answers _ _ _) ?_)))
  exact .after (readSupplyInt64_answers _ _ _) (.after (readSupplyInt64_answers _ _ _)
    (.after (readSupplyInt64_answers _ _ _) (.pure _)))

theorem getChargeThreshold_answers
    {index : Int} {name : CStr}
    (found : batteryName os sys names index = some name)
    (key unsupported caller : CStr) :
    (getChargeThreshold index key unsupported caller).Answers os sys
      (thresholdAt os sys name key) := by
  have named := nthBatteryName_answers listed index
  rw [found] at named
  unfold getChargeThreshold thresholdAt
  rw [if_neg (nonneg_of_batteryName found)]
  refine .after named (.after (readFileI64_answers _).attempt ?_)
  cases fileInt os sys (supplyPath name key) with
  | none =>
      intro proc memory
      dsimp only
      rw [GetM.bind_value (rfl : getErr os sys proc = (.value proc.err, proc))]
      split
      · exact ⟨_, rfl, memory⟩
      · exact ⟨_, rfl, memory⟩
  | some v =>
      dsimp only
      by_cases outside : v < 0 ∨ 100 < v
      · have refused : decide (0 ≤ v ∧ v ≤ 100) = false := decide_eq_false (by omega)
        rw [if_pos outside, Option.filter_some, refused, if_neg Bool.false_ne_true]
        exact .raise _ _ _
      · have taken : decide (0 ≤ v ∧ v ≤ 100) = true := decide_eq_true (by omega)
        rw [if_neg outside, Option.filter_some, taken, if_pos rfl]
        exact .pure v

/-- With the percentage in range, the threshold of the battery is written and nothing else. -/
theorem setChargeThreshold_writes
    {index : Int} {name : CStr}
    (found : batteryName os sys names index = some name)
    {percent : Int} (low : 0 ≤ percent) (high : percent ≤ 100)
    (key caller : CStr) {proc : Proc} (memory : proc.allocations = []) :
    (setChargeThreshold index percent key caller os.recorded (sys, []) proc).2.1.2 =
      [thresholdCall os name key percent] := by
  have recorded : os.recorded.listDir (sys, []) powerSupplyDir = .ok names := listed
  have named : (nthBatteryName index).Answers os.recorded (sys, [])
      (batteryName os sys names index) := nthBatteryName_answers recorded index
  obtain ⟨later, run, -⟩ := named proc memory
  have nonneg := nonneg_of_batteryName found
  rw [found] at run
  have written : setChargeThreshold index percent key caller os.recorded (sys, []) proc =
      writeFileString (supplyPath name key) (showInt percent) os.recorded (sys, []) later := by
    unfold setChargeThreshold
    rw [if_neg (by omega)]
    exact SetM.bind_getting_value run
  rw [written, (writeFileString_run os.recorded (sys, []) later _ _).1]
  rfl

/-! ## Any other index -/

theorem getChargeThreshold_beyond
    {index : Int}
    (beyond : index < 0 ∨ ((batteries os sys names).length : Int) ≤ index)
    (key unsupported caller : CStr) :
    (getChargeThreshold index key unsupported caller).FailsOr os sys fun _ => False :=
  .ite (fun _ => .raise _ _ _) fun _ =>
    .bind (nthBatteryName_beyond listed beyond) fun _ impossible => impossible.elim

theorem batteryGet_beyond
    {index : Int}
    (beyond : index < 0 ∨ ((batteries os sys names).length : Int) ≤ index) :
    (zenctlPowerBatteryGet index).FailsOr os sys fun _ => False :=
  .ite (fun _ => .raise _ _ _) fun _ =>
    .bind (nthBatteryName_beyond listed beyond) fun _ impossible => impossible.elim

theorem setChargeThreshold_beyond
    {index : Int}
    (beyond : index < 0 ∨ ((batteries os sys names).length : Int) ≤ index)
    (percent : Int) (key caller : CStr) :
    (setChargeThreshold index percent key caller).FailsOr os sys fun _ => False :=
  .ite (fun _ => .raise _ _ _) fun _ =>
    .after (nthBatteryName_beyond listed beyond) fun _ impossible => impossible.elim

end Listing

/-! ## Both listings -/

theorem actsOn_battery
    {base : Os σ} {sys : σ} {names : List CStr} {index : Int} {name : CStr}
    (found : batteryName base sys names index = some name) :
    ActsOnBattery base sys names index name := by
  have listed : (base.withSupplies names).listDir sys powerSupplyDir = .ok names :=
    base.withSupplies_lists sys names
  constructor
  case get =>
    intro proc memory
    exact (batteryGet_answers listed found).outcome memory
  case getStart =>
    intro proc memory
    exact (getChargeThreshold_answers listed found _ _ _).outcome memory
  case getEnd =>
    intro proc memory
    exact (getChargeThreshold_answers listed found _ _ _).outcome memory
  case setStart =>
    intro percent low high proc memory
    exact setChargeThreshold_writes listed found low high _ _ memory
  case setEnd =>
    intro percent low high proc memory
    exact setChargeThreshold_writes listed found low high _ _ memory

theorem rejected_beyond
    {base : Os σ} {sys : σ} {names : List CStr} {index : Int}
    (beyond : index < 0 ∨ ((batteries base sys names).length : Int) ≤ index) :
    Rejected base sys names index := by
  have listed : (base.withSupplies names).listDir sys powerSupplyDir = .ok names :=
    base.withSupplies_lists sys names
  have recorded : (base.withSupplies names).recorded.listDir (sys, []) powerSupplyDir = .ok names :=
    listed
  constructor
  case get =>
    exact fun proc => (batteryGet_beyond listed beyond).failed proc
  case getStart =>
    exact fun proc => (getChargeThreshold_beyond listed beyond _ _ _).failed proc
  case getEnd =>
    exact fun proc => (getChargeThreshold_beyond listed beyond _ _ _).failed proc
  case setStart =>
    exact fun percent proc =>
      (setChargeThreshold_beyond recorded beyond percent _ _ proc).elim id False.elim
  case setEnd =>
    exact fun percent proc =>
      (setChargeThreshold_beyond recorded beyond percent _ _ proc).elim id False.elim

theorem battery_index_stable
    (base : Os σ) (sys : σ) (listings : TwoListings base sys) :
    BatteryIndexStable base sys listings (batteries base sys listings.first) := by
  have same : ∀ names, names = listings.first ∨ names = listings.second →
      batteries base sys listings.first = batteries base sys names := by
    rintro names (rfl | rfl)
    · rfl
    · exact sortNames_eq_of_perm listings.same
  constructor
  case increasing =>
    have distinct : (batteries base sys listings.first).Nodup :=
      (sortNames_perm _).nodup_iff.mpr (listings.distinct.filter _)
    exact (sortNames_pairwise _).and distinct
  case complete =>
    intro name
    exact (sortNames_perm _).mem_iff.trans List.mem_filter
  case count =>
    intro names either proc memory
    have listed : (base.withSupplies names).listDir sys powerSupplyDir = .ok names :=
      base.withSupplies_lists sys names
    have nonempty : names.filter (isBattery base sys) ≠ [] := by
      obtain ⟨name, member, battery⟩ := listings.nonempty
      have here := List.mem_filter.mpr ⟨member, battery⟩
      rcases either with rfl | rfl
      · exact List.ne_nil_of_mem here
      · exact List.ne_nil_of_mem (listings.same.mem_iff.mp here)
    rw [same names either]
    exact (batteryCount_answers listed nonempty).outcome memory
  case acts =>
    intro names either i name at_i
    rw [same names either] at at_i
    have found : batteryName base sys names i = some name := by
      rw [batteryName, if_neg (by omega), Int.toNat_natCast]
      exact at_i
    exact actsOn_battery found
  case rejects =>
    intro names either index beyond
    rw [same names either] at beyond
    exact rejected_beyond beyond

/-- Two batteries and an adapter. -/
def laptop : Os σ :=
  { bareOs with
    openRead := fun _ path =>
      if path = supplyPath "AC" "type" then .ok ⟨"Mains\n".toList, none⟩
      else .ok ⟨"Battery\n".toList, none⟩ }

def swappedBatteries : TwoListings (laptop : Os Unit) () where
  first := [".".toList, "BAT1".toList, "AC".toList, "BAT0".toList]
  second := ["BAT0".toList, "BAT1".toList]
  distinct := by decide
  same := by
    have first : [".".toList, "BAT1".toList, "AC".toList, "BAT0".toList].filter
        (isBattery (laptop : Os Unit) ()) = ["BAT1".toList, "BAT0".toList] := by decide +kernel
    have second : ["BAT0".toList, "BAT1".toList].filter (isBattery (laptop : Os Unit) ()) =
        ["BAT0".toList, "BAT1".toList] := by decide +kernel
    rw [first, second]
    exact .swap _ _ _
  nonempty := ⟨"BAT1".toList, by decide, by decide +kernel⟩

/-- Whichever is read first, `BAT0` has the smaller number. -/
theorem swappedBatteries_stable :
    BatteryIndexStable laptop () swappedBatteries ["BAT0".toList, "BAT1".toList] := by
  have numbered : batteries (laptop : Os Unit) () swappedBatteries.first =
      ["BAT0".toList, "BAT1".toList] := by decide +kernel
  have stable := battery_index_stable laptop () swappedBatteries
  rwa [numbered] at stable

end Zenctl
