import Zenctl.BiosPassword
import Zenctl.RecordedCalls

namespace Zenctl

open CString

/-!
# The numbers of the BIOS settings

Settings are asked for by number.  The settings of a vendor are sorted, so
their numbers do not depend on the order a directory is read in; the vendor is
the first directory of that order.
-/

variable {σ : Type}

/-! ## One tree, read twice -/

/-- The names in a directory differ, and none is empty. -/
structure BiosTree extends FirmwareTree where
  distinct : ∀ dir names, entries dir = .ok names → names.Nodup
  named : ∀ dir names, entries dir = .ok names → [] ∉ names

/-- Two listings of a directory: the same names in some order, or the same error. -/
def SameEntries : Except Errno (List CStr) → Except Errno (List CStr) → Prop
  | .ok first, .ok second => first.Perm second
  | .error e, .error e' => e = e'
  | _, _ => False

/-- A tree, with the orders its directories are read in on two occasions. -/
structure TwoOrders where
  first : BiosTree
  second : BiosTree
  entries : ∀ dir, SameEntries (first.entries dir) (second.entries dir)
  isDir : second.isDir = first.isDir

/-- A machine with these directories. -/
def FirmwareTree.machine (tree : FirmwareTree) (base : Os σ) : Os σ :=
  { base with
    listDir := fun _ dir => tree.entries dir
    isDir := fun _ path => tree.isDir path }

/-! ## The settings of a vendor -/

/-- A directory with a `type` file in it. -/
def hasType (base : Os σ) (sys : σ) (tree : FirmwareTree) (vendor name : CStr) : Bool :=
  tree.isDir (joinPath (vendorPath vendor "attributes") name) &&
    (base.access sys (joinPath (joinPath (vendorPath vendor "attributes") name) "type")
      .present).toOption.isSome

/-- One text field of a setting, as its file has it. -/
def fieldText (base : Os σ) (sys : σ) (dir field : CStr) (size : Nat) : CStr :=
  bounded size ((textOf base sys (joinPath dir field) 8192).getD [])

/-- A setting, as its files have it. -/
def settingAt (base : Os σ) (sys : σ) (vendor name : CStr) : BiosSetting :=
  let dir := joinPath (vendorPath vendor "attributes") name
  ⟨bounded 128 name, fieldText base sys dir "type" 32, fieldText base sys dir "current_value" 256,
    fieldText base sys dir "default_value" 256, fieldText base sys dir "display_name" 256⟩

/-- The call writes the value of the setting, or the password file of a role, of this vendor. -/
def SetCall.UnderVendor (sysfsRoot : Option CStr) (vendor name : CStr) : SetCall → Prop
  | wrote path _ => path = resolvePath sysfsRoot (settingValuePath vendor name) ∨
      ∃ role, path = resolvePath sysfsRoot (rolePath vendor role)
  | _ => False

/--
With memory, what a setting's number stands for does not depend on the order:
the calls concern one vendor, the one that the first order gives.
-/
structure BiosIndexStable (base : Os σ) (sys : σ) (orders : TwoOrders) : Prop where
  count : ∀ proc, proc.allocations = [] →
    (zenctlFwBiosSettingCount (orders.second.machine base) sys proc).1 =
      (zenctlFwBiosSettingCount (orders.first.machine base) sys proc).1
  setting : ∀ index proc, proc.allocations = [] →
    (zenctlFwBiosGetSetting index (orders.second.machine base) sys proc).1 =
      (zenctlFwBiosGetSetting index (orders.first.machine base) sys proc).1
  /-- Every setting of the vendor has one number. -/
  covers : ∀ vendor, orders.first.vendor = some vendor → ∀ n proc, proc.allocations = [] →
    (zenctlFwBiosSettingCount (orders.first.machine base) sys proc).1 = .value n →
      ∃ names : List CStr, (names.length : Int) = n ∧ names.Nodup ∧
        (∀ name, name ∈ names ↔
          name ∈ orders.first.listed (vendorPath vendor "attributes") ∧
            hasType base sys orders.first.toFirmwareTree vendor name = true) ∧
        ∀ (i : Nat) name, names[i]? = some name → ∀ proc, proc.allocations = [] →
          (zenctlFwBiosGetSetting i (orders.first.machine base) sys proc).1 =
            .value (settingAt base sys vendor name)
  writes : ∀ vendor, orders.first.vendor = some vendor →
    ∀ tree, tree = orders.first ∨ tree = orders.second →
      ∀ name value password proc, proc.allocations = [] →
        ∀ call ∈ (zenctlFwBiosSetSetting name value password (tree.machine base).recorded (sys, [])
          proc).2.1.2, call.UnderVendor base.sysfsRoot vendor name

/-! ## What the calls answer -/

namespace FirmwareTree

/-- The names of a directory, when it can be listed. -/
def listing (tree : FirmwareTree) (dir : CStr) : Option (List CStr) :=
  (tree.entries dir).toOption.map fun names =>
    names.filter fun name => ¬ (name = ".".toList ∨ name = "..".toList)

theorem listed_eq (tree : FirmwareTree) (dir : CStr) :
    tree.listed dir = (tree.listing dir).getD [] := by
  unfold listed listing
  cases tree.entries dir <;> rfl

/-- The settings of a vendor in the order of their numbers. -/
def settings (base : Os σ) (sys : σ) (tree : FirmwareTree) (vendor : CStr) : Option (List CStr) :=
  (tree.listing (vendorPath vendor "attributes")).map fun names =>
    sortNames (names.filter (hasType base sys tree vendor))

end FirmwareTree

section Answers

variable {os : Os σ} {tree : FirmwareTree} {sys : σ}

theorem askIsDir_answers (path : CStr) :
    (askIsDir path).Answers os sys (some (os.isDir sys path)) :=
  fun proc memory => ⟨proc, rfl, memory⟩

theorem firmwareListDir_answers (shows : os.Shows tree) (dir : CStr) :
    (firmwareListDir dir).Answers os sys (tree.listing dir) := by
  intro proc memory
  unfold FirmwareTree.listing
  rw [← shows.entries sys dir]
  cases listed : os.listDir sys dir with
  | ok names => exact ⟨proc, firmwareListDir_run memory listed, memory⟩
  | error e =>
      have failed : firmwareListDir.listed dir os sys proc =
          (raiseFirmware e dir : GetM σ (List CStr)) os sys proc := by
        simp only [firmwareListDir.listed, listed]
      exact ⟨_, GetM.bind_failed (failed.trans rfl), memory⟩

theorem fwattrFindVendor_answers (shows : os.Shows tree) :
    fwattrFindVendor.Answers os sys tree.vendor := by
  have first : ∀ entries, (firstVendor entries).Answers os sys
      (some (entries.find? fun entry => tree.isDir (joinPath fwattrBase entry))) :=
    fun entries proc memory => ⟨proc, firstVendor_run memory shows entries, memory⟩
  have vendor : tree.vendor = (tree.listing fwattrBase).bind fun entries =>
      entries.find? fun entry => tree.isDir (joinPath fwattrBase entry) := by
    rw [FirmwareTree.vendor, FirmwareTree.listed_eq]
    cases tree.listing fwattrBase <;> rfl
  rw [vendor]
  refine .bind (firmwareListDir_answers shows fwattrBase) fun entries _ => .after (first entries) ?_
  cases entries.find? fun entry => tree.isDir (joinPath fwattrBase entry) with
  | some found => exact .pure found
  | none => exact .raise _ _ _

theorem allocateMany_answers (count : Nat) :
    (allocateMany count).Answers os sys (some true) := by
  induction count with
  | zero => exact .pure true
  | succ count inductionHypothesis => exact .after allocate_answers inductionHypothesis

theorem isSetting_answers (shows : os.Shows tree) (vendor name : CStr) :
    (isSetting vendor name).Answers os sys (some (hasType os sys tree vendor name)) := by
  unfold isSetting hasType
  refine .after (allocateMany_answers 3) (.after (askIsDir_answers _) ?_)
  rw [shows.isDir]
  cases tree.isDir (joinPath (vendorPath vendor "attributes") name) with
  | false => exact .pure false
  | true =>
      exact .after (allocateMany_answers 4) (.after (sysCall_answers _) (.pure _))

/-- The array gets the entries that pass the check. -/
theorem collectEntries_answers
    {check : CStr → GetM σ Bool} {keep : CStr → Bool}
    (asked : ∀ entry, (check entry).Answers os sys (some (keep entry)))
    (caller : CStr) (entries : List CStr) (capacity : Nat) (kept : List CStr) :
    (collectEntries check caller capacity kept entries).Answers os sys
      (some (kept ++ entries.filter keep)) := by
  induction entries generalizing capacity kept with
  | nil =>
      rw [List.filter_nil, List.append_nil]
      exact .pure kept
  | cons entry rest inductionHypothesis =>
      refine .after (asked entry) ?_
      cases passes : keep entry with
      | false =>
          rw [List.filter_cons_of_neg (by rw [passes]; decide)]
          exact inductionHypothesis capacity kept
      | true =>
          have longer := inductionHypothesis
          rw [List.filter_cons_of_pos passes, List.append_cons kept entry (rest.filter keep),
            if_pos rfl]
          split
          · exact .after (allocateOr_answers _ _) (longer (capacity * 2) (kept ++ [entry]))
          · exact longer capacity (kept ++ [entry])

theorem fwattrListSettings_answers (shows : os.Shows tree) (vendor : CStr) :
    (fwattrListSettings vendor).Answers os sys (tree.settings os sys vendor) := by
  unfold FirmwareTree.settings
  rw [Option.map_eq_bind]
  refine .after (allocateOr_answers _ _) (.after (allocateOr_answers _ _) ?_)
  refine .bind (firmwareListDir_answers shows _) fun names _ => ?_
  refine .after (allocateOr_answers _ _) ?_
  refine .after (collectEntries_answers (isSetting_answers shows vendor) _ names 8 []) ?_
  exact .pure _

theorem settingCount_answers (shows : os.Shows tree) :
    zenctlFwBiosSettingCount.Answers os sys
      (tree.vendor.bind fun vendor =>
        (tree.settings os sys vendor).bind fun names => some (names.length : Int)) :=
  .bind (fwattrFindVendor_answers shows) fun vendor _ =>
    .bind (fwattrListSettings_answers shows vendor) fun _ _ => .pure _

theorem readSettingField_answers (dir field : CStr) (size : Nat) :
    (readSettingField dir field size).Answers os sys (some (fieldText os sys dir field size)) := by
  have text : (readText (joinPath dir field)).Answers os sys
      (textOf os sys (joinPath dir field) 8192) := by
    have copied : (readText (joinPath dir field)).Answers os sys
        ((textOf os sys (joinPath dir field) 8192).bind some) :=
      .bind (readFileString_answers _ _) fun text _ =>
        .after (allocateOr_answers _ _) (.pure text)
    rwa [Option.bind_fun_some] at copied
  refine .after allocate_answers ?_
  exact .after text.quietly (.pure _)

/-- The setting of a number, when there is one. -/
theorem getSetting_answers (shows : os.Shows tree) (index : Int) :
    (zenctlFwBiosGetSetting index).Answers os sys
      (if index < 0 then none
      else tree.vendor.bind fun vendor =>
        (tree.settings os sys vendor).bind fun names =>
          names[index.toNat]?.map (settingAt os sys vendor)) := by
  unfold zenctlFwBiosGetSetting
  split
  · exact .raise _ _ _
  · rename_i nonneg
    refine .bind (fwattrFindVendor_answers shows) fun vendor _ => ?_
    refine .bind (fwattrListSettings_answers shows vendor) fun names _ => ?_
    by_cases beyond : (names.length : Int) ≤ index
    · rw [if_pos beyond, List.getElem?_eq_none (by omega)]
      exact .raise _ _ _
    · have inside : index.toNat < names.length := by omega
      rw [if_neg beyond, List.getElem?_eq_getElem inside]
      refine .after (allocateOr_answers _ _) (.after (allocateOr_answers _ _)
        (.after (allocateOr_answers _ _) ?_))
      refine .after (readSettingField_answers _ _ _) (.after (readSettingField_answers _ _ _)
        (.after (readSettingField_answers _ _ _) (.after (readSettingField_answers _ _ _) ?_)))
      exact .pure _

end Answers

/-! ## What the calls write -/

section Writes

variable {os : Os σ} {tree : FirmwareTree} {vendor : CStr}

theorem passwordPath_answers {os : Os σ} {sys : σ} (authDir role : CStr) :
    (passwordPath authDir role).Answers os sys
      (some (if os.isDir sys (joinPath authDir role) then
        some (joinPath (joinPath authDir role) "current_password") else none)) :=
  fun proc memory => ⟨proc, passwordPath_run os sys memory authDir role, memory⟩

variable (shows : os.recorded.Shows tree) (name : CStr)

include shows

theorem passwordPath_role (role : CStr) (sys : σ × List SetCall) :
    (passwordPath (vendorPath vendor "authentication") role).Answers os.recorded sys
      (some (if tree.isDir (joinPath (vendorPath vendor "authentication") role) then
        some (rolePath vendor role) else none)) := by
  have path := @passwordPath_answers _ os.recorded sys (vendorPath vendor "authentication") role
  rw [shows.isDir] at path
  exact path

/-- The password goes to roles of the vendor. -/
theorem unlockRoles_callsOnly (password : CStr) (roles : List CStr) :
    (unlockRoles (vendorPath vendor "authentication") password roles).CallsOnly os
      (SetCall.UnderVendor os.sysfsRoot vendor name) := by
  induction roles with
  | nil =>
      exact .pure ()
  | cons role rest inductionHypothesis =>
      refine .after (passwordPath_role shows role) fun path asked => ?_
      cases Option.some.inj asked
      cases tree.isDir (joinPath (vendorPath vendor "authentication") role) with
      | false =>
          rw [if_neg Bool.false_ne_true]
          exact inductionHypothesis
      | true =>
          rw [if_pos rfl]
          refine .bind (.quietly (.writeFileString (.inr ⟨role, rfl⟩))) fun taken => ?_
          cases taken with
          | some _ => exact .pure ()
          | none => exact inductionHypothesis

/-- So does the empty password afterwards. -/
theorem clearRoles_callsOnly (roles : List CStr) :
    (clearRoles (vendorPath vendor "authentication") roles).CallsOnly os
      (SetCall.UnderVendor os.sysfsRoot vendor name) := by
  induction roles with
  | nil =>
      exact .pure ()
  | cons role rest inductionHypothesis =>
      refine .after (passwordPath_role shows role) fun path asked => ?_
      cases Option.some.inj asked
      cases tree.isDir (joinPath (vendorPath vendor "authentication") role) with
      | false =>
          rw [if_neg Bool.false_ne_true]
          exact inductionHypothesis
      | true =>
          rw [if_pos rfl]
          exact .bind (.quietly (.writeFileString (.inr ⟨role, rfl⟩))) fun _ =>
            inductionHypothesis

theorem unlockBios_callsOnly (password : CStr) :
    (unlockBios vendor password).CallsOnly os
      (SetCall.UnderVendor os.sysfsRoot vendor name) := by
  refine .after (fun sys => allocateOr_answers _ _) fun _ _ => ?_
  refine .after (fun sys => allocateOr_answers _ _) fun _ _ => ?_
  refine .after (fun sys => (firmwareListDir_answers shows _).quietly) fun roles asked => ?_
  cases roles with
  | none => exact .pure ()
  | some roles => exact unlockRoles_callsOnly shows name password roles

variable (found : tree.vendor = some vendor)

include found

theorem clearPasswords_callsOnly :
    clearPasswords.CallsOnly os (SetCall.UnderVendor os.sysfsRoot vendor name) := by
  refine .after (fun sys => (fwattrFindVendor_answers shows).quietly) fun again asked => ?_
  cases Option.some.inj asked
  rw [found]
  refine .after (fun sys => allocateMany_answers 2) fun room asked => ?_
  cases Option.some.inj asked
  refine .after (fun sys => (firmwareListDir_answers shows _).quietly) fun roles asked => ?_
  cases roles with
  | none => exact .pure ()
  | some roles => exact clearRoles_callsOnly shows name roles

theorem setSetting_callsOnly (value : CStr) (password : Option CStr) :
    (zenctlFwBiosSetSetting name value password).CallsOnly os
      (SetCall.UnderVendor os.sysfsRoot vendor name) := by
  have path : ∀ sys, (settingValuePathOr vendor name).Answers os.recorded sys
      (some (settingValuePath vendor name)) := fun sys =>
    .after (allocateOr_answers _ _) (.after (allocateOr_answers _ _)
      (.after (allocateOr_answers _ _) (.after (allocateOr_answers _ _) (.pure _))))
  have refused : ∀ (code : Int) (message context : CStr),
      (getting (raise code message context) : SetM (σ × List SetCall) Unit).CallsOnly os
        (SetCall.UnderVendor os.sysfsRoot vendor name) :=
    fun code message context => .getting fun sys => .raise code message context
  unfold zenctlFwBiosSetSetting
  split
  · exact refused _ _ _
  · split
    · exact refused _ _ _
    · refine .after (fun sys => fwattrFindVendor_answers shows) fun chosen asked => ?_
      rw [found] at asked
      cases asked
      dsimp only
      split
      · refine .after path fun file asked => ?_
        cases asked
        exact .writeFileString (.inl rfl)
      · refine .bind (unlockBios_callsOnly shows name _) fun _ => ?_
        refine .after path fun file asked => ?_
        cases asked
        exact .bind (.writeFileString (.inl rfl)) fun _ =>
          clearPasswords_callsOnly shows name found

end Writes

/-! ## The order of a directory -/

namespace TwoOrders

variable (orders : TwoOrders)

theorem listing_perm (dir : CStr) :
    (orders.first.listing dir = none ∧ orders.second.listing dir = none) ∨
      ∃ first second, orders.first.listing dir = some first ∧
        orders.second.listing dir = some second ∧ first.Perm second := by
  have same := orders.entries dir
  unfold FirmwareTree.listing
  cases one : orders.first.entries dir with
  | error e =>
      cases other : orders.second.entries dir with
      | error e' => exact .inl ⟨rfl, rfl⟩
      | ok names =>
          rw [one, other] at same
          exact same.elim
  | ok names =>
      cases other : orders.second.entries dir with
      | error e =>
          rw [one, other] at same
          exact same.elim
      | ok others =>
          rw [one, other] at same
          exact .inr ⟨_, _, rfl, rfl, same.filter _⟩

/-- The numbers of a vendor's settings do not depend on the order. -/
theorem settings_eq (base : Os σ) (sys : σ) (vendor : CStr) :
    orders.second.settings base sys vendor = orders.first.settings base sys vendor := by
  have types : hasType base sys orders.second.toFirmwareTree vendor =
      hasType base sys orders.first.toFirmwareTree vendor := by
    funext name
    unfold hasType
    rw [orders.isDir]
  unfold FirmwareTree.settings
  rw [types]
  rcases orders.listing_perm (vendorPath vendor "attributes") with ⟨one, other⟩ |
    ⟨first, second, one, other, same⟩
  · rw [one, other]
  · rw [one, other]
    exact congrArg some (sortNames_eq_of_perm (same.symm.filter _))

/-- Whether there is a vendor does not depend on it either. -/
theorem vendor_none : orders.first.vendor = none ↔ orders.second.vendor = none := by
  have members : ∀ entry, entry ∈ orders.first.listed fwattrBase ↔
      entry ∈ orders.second.listed fwattrBase := by
    intro entry
    rw [FirmwareTree.listed_eq, FirmwareTree.listed_eq]
    rcases orders.listing_perm fwattrBase with ⟨one, other⟩ | ⟨first, second, one, other, same⟩
    · rw [one, other]
    · rw [one, other]
      exact same.mem_iff
  unfold FirmwareTree.vendor
  rw [List.find?_eq_none, List.find?_eq_none, orders.isDir]
  exact forall_congr' fun entry => by rw [members entry]

end TwoOrders

theorem machine_shows (tree : FirmwareTree) (base : Os σ) :
    (tree.machine base).Shows tree :=
  ⟨fun _ _ => rfl, fun _ _ => rfl⟩

theorem recorded_shows (tree : FirmwareTree) (base : Os σ) :
    (tree.machine base).recorded.Shows tree :=
  ⟨fun _ _ => rfl, fun _ _ => rfl⟩

/-- Redirection keeps paths with as many slashes apart. -/
theorem resolvePath_sameSlashes
    {sysfsRoot : Option CStr} {first second : CStr}
    (slashes : first.count '/' = second.count '/')
    (opens : first.head? = some '/') (opens' : second.head? = some '/')
    (same : resolvePath sysfsRoot first = resolvePath sysfsRoot second) :
    first = second := by
  have either : ∀ path, resolvePath sysfsRoot path = path ∨
      ∃ root, root ≠ [] ∧ sysfsRoot = some root ∧ resolvePath sysfsRoot path = root ++ path := by
    intro path
    unfold resolvePath
    cases sysfsRoot with
    | none => exact .inl rfl
    | some root =>
        dsimp only
        by_cases empty : root = []
        · exact .inl (if_pos empty)
        · rw [if_neg empty]
          split
          · split
            · exact .inl rfl
            · exact .inr ⟨root, empty, rfl, rfl⟩
          · exact .inl rfl
  -- a prefix that makes up for the difference would have no slash, and start with one
  have apart : ∀ {path other root : CStr}, path.count '/' = other.count '/' → root ≠ [] →
      other.head? = some '/' → root ++ path ≠ other := by
    intro path other root counts nonempty slash equal
    obtain ⟨c, rest, rfl⟩ := List.exists_cons_of_ne_nil nonempty
    rw [← equal] at slash counts
    cases slash
    rw [List.count_append, List.count_cons_self] at counts
    omega
  rcases either first with plain | ⟨root, nonempty, is, moved⟩
  · rcases either second with plain' | ⟨root', nonempty', -, moved'⟩
    · rwa [plain, plain'] at same
    · rw [plain, moved'] at same
      exact absurd same.symm (apart slashes.symm nonempty' opens)
  · rcases either second with plain' | ⟨root', nonempty', is', moved'⟩
    · rw [moved, plain'] at same
      exact absurd same (apart slashes nonempty opens')
    · rw [moved, moved'] at same
      cases is.symm.trans is'
      exact List.append_cancel_left same

theorem joinPath_join
    {name : CStr} (named : name ≠ []) (unclosed : name.getLast? ≠ some '/') (dir rest : CStr) :
    joinPath (joinPath dir name) rest = joinPath dir name ++ '/' :: rest := by
  have last : (joinPath dir name).getLast? = name.getLast? := joinPath_getLast named
  refine joinPath_eq ?_ (last.trans_ne unclosed) rest
  intro empty
  rw [empty] at last
  exact named (List.getLast?_eq_none_iff.mp last.symm)

theorem settingValuePath_eq
    {vendor : CStr} (named : vendor ≠ []) (plain : '/' ∉ vendor) :
    settingValuePath vendor "x" =
      "/sys/class/firmware-attributes/".toList ++
        (vendor ++ "/attributes/x/current_value".toList) := by
  have start : "/sys/class/firmware-attributes/".toList = fwattrBase ++ ['/'] := by decide
  have tail : "/attributes/x/current_value".toList =
      '/' :: "attributes".toList ++ ('/' :: "x".toList ++ '/' :: "current_value".toList) := by decide
  have unclosed : vendor.getLast? ≠ some '/' := fun slash => plain (List.mem_of_getLast? slash)
  rw [settingValuePath, vendorPath, joinPath_join (by decide) (by decide),
    joinPath_join (by decide) (by decide), joinPath_join named unclosed, fwattrBase_join, start, tail]
  simp only [List.append_assoc, List.cons_append, List.nil_append]

/-- The value file of a setting names its vendor. -/
theorem vendor_of_valuePath
    {sysfsRoot : Option CStr} {vendor other : CStr}
    (named : vendor ≠ []) (plain : '/' ∉ vendor)
    (named' : other ≠ []) (plain' : '/' ∉ other)
    (same : resolvePath sysfsRoot (settingValuePath vendor "x") =
      resolvePath sysfsRoot (settingValuePath other "x")) :
    vendor = other := by
  rw [settingValuePath_eq named plain, settingValuePath_eq named' plain'] at same
  have slashes : ∀ {vendor : CStr}, '/' ∉ vendor →
      ("/sys/class/firmware-attributes/".toList ++
        (vendor ++ "/attributes/x/current_value".toList)).count '/' = 7 := by
    intro vendor plain
    rw [List.count_append, List.count_append, List.count_eq_zero_of_not_mem plain]
    decide
  have equal := resolvePath_sameSlashes ((slashes plain).trans (slashes plain').symm) rfl rfl same
  exact List.append_cancel_right (List.append_cancel_left equal)

/-- What the first directory of an order is called. -/
theorem BiosTree.vendor_name
    (tree : BiosTree) {vendor : CStr} (found : tree.vendor = some vendor) :
    vendor ≠ [] ∧ '/' ∉ vendor := by
  have member := List.mem_of_find?_eq_some found
  unfold FirmwareTree.listed at member
  cases entries : tree.entries fwattrBase with
  | error e =>
      rw [entries] at member
      cases member
  | ok names =>
      rw [entries] at member
      have entry := (List.mem_filter.mp member).1
      refine ⟨?_, tree.plain _ names entries vendor entry⟩
      rintro rfl
      exact tree.named _ names entries entry

/-! ## Where the numbers are stable -/

section Stable

variable {base : Os σ} {sys : σ} {orders : TwoOrders}

/-- Without a password the value is all that is written. -/
theorem setSetting_writes
    {tree : FirmwareTree} {vendor : CStr} (found : tree.vendor = some vendor)
    {proc : Proc} (memory : proc.allocations = []) :
    (zenctlFwBiosSetSetting "x" "1" none (tree.machine base).recorded (sys, []) proc).2.1.2 =
      [.wrote (resolvePath base.sysfsRoot (settingValuePath vendor "x")) "1"] := by
  have asked : fwattrFindVendor.Answers (tree.machine base).recorded (sys, []) tree.vendor :=
    fwattrFindVendor_answers (recorded_shows tree base)
  obtain ⟨later, looked, remembers⟩ := asked proc memory
  rw [found] at looked
  have path : settingValuePathOr vendor "x" (tree.machine base).recorded (sys, []) later =
      (.value (settingValuePath vendor "x"), later) := by
    refine (GetM.bind_value (allocateOr_plenty remembers _ _)).trans ?_
    refine (GetM.bind_value (allocateOr_plenty remembers _ _)).trans ?_
    refine (GetM.bind_value (allocateOr_plenty remembers _ _)).trans ?_
    exact GetM.bind_value (allocateOr_plenty remembers _ _)
  have run : zenctlFwBiosSetSetting "x" "1" none (tree.machine base).recorded (sys, []) proc =
      writeFileString (settingValuePath vendor "x") "1" (tree.machine base).recorded (sys, [])
        later :=
    (SetM.bind_getting_value looked).trans (SetM.bind_getting_value path)
  rw [run, (writeFileString_run (tree.machine base).recorded (sys, []) later _ _).1]
  rfl

theorem vendor_of_stable (stable : BiosIndexStable base sys orders) :
    orders.first.vendor = orders.second.vendor := by
  cases chosen : orders.first.vendor with
  | none => exact (orders.vendor_none.mp chosen).symm
  | some vendor =>
      cases other : orders.second.vendor with
      | none =>
          rw [orders.vendor_none.mpr other] at chosen
          cases chosen
      | some second =>
          have logged := @setSetting_writes _ base sys orders.second.toFirmwareTree _ other
            freshProc rfl
          have under := stable.writes vendor chosen orders.second (.inr rfl) "x" "1" none
            freshProc rfl
          rw [logged] at under
          rcases under _ (List.mem_singleton.mpr rfl) with value | ⟨role, password⟩
          · have names := orders.first.vendor_name chosen
            have names' := orders.second.vendor_name other
            rw [vendor_of_valuePath names'.1 names'.2 names.1 names.2 value]
          · exact absurd ⟨vendor, role, password⟩ (valueFile_not_role base.sysfsRoot second "x")

theorem count_answer (tree : FirmwareTree) {proc : Proc} (memory : proc.allocations = []) :
    (zenctlFwBiosSettingCount (tree.machine base) sys proc).1 =
      .ofOption (tree.vendor.bind fun vendor =>
        (tree.settings base sys vendor).bind fun names => some (names.length : Int)) :=
  (settingCount_answers (machine_shows tree base)).outcome memory

theorem setting_answer
    (tree : FirmwareTree) (index : Int) {proc : Proc} (memory : proc.allocations = []) :
    (zenctlFwBiosGetSetting index (tree.machine base) sys proc).1 =
      .ofOption (if index < 0 then none
        else tree.vendor.bind fun vendor =>
          (tree.settings base sys vendor).bind fun names =>
            names[index.toNat]?.map (settingAt base sys vendor)) :=
  (getSetting_answers (machine_shows tree base) index).outcome memory

/-- The sorted settings are all there are, each once. -/
theorem settings_complete
    {tree : BiosTree} {vendor : CStr} {names : List CStr}
    (listed : tree.settings base sys vendor = some names) :
    names.Nodup ∧ ∀ name, name ∈ names ↔
      name ∈ tree.listed (vendorPath vendor "attributes") ∧
        hasType base sys tree.toFirmwareTree vendor name = true := by
  unfold FirmwareTree.settings at listed
  rw [FirmwareTree.listed_eq]
  obtain ⟨entries, found, rfl⟩ := Option.map_eq_some_iff.mp listed
  have sorted := sortNames_perm (entries.filter (hasType base sys tree.toFirmwareTree vendor))
  have distinct : entries.Nodup := by
    unfold FirmwareTree.listing at found
    obtain ⟨all, opened, rfl⟩ := Option.map_eq_some_iff.mp found
    cases whole : tree.entries (vendorPath vendor "attributes") with
    | error e =>
        rw [whole] at opened
        cases opened
    | ok names =>
        rw [whole] at opened
        cases opened
        exact (tree.distinct _ _ whole).filter _
  refine ⟨sorted.nodup_iff.mpr (distinct.filter _), fun name => ?_⟩
  rw [sorted.mem_iff, List.mem_filter, found]
  rfl

theorem stable_of_vendor (same : orders.first.vendor = orders.second.vendor) :
    BiosIndexStable base sys orders := by
  have settings := orders.settings_eq base sys
  constructor
  case count =>
    intro proc memory
    rw [count_answer orders.first.toFirmwareTree memory,
      count_answer orders.second.toFirmwareTree memory, same]
    simp only [settings]
  case setting =>
    intro index proc memory
    rw [setting_answer orders.first.toFirmwareTree index memory,
      setting_answer orders.second.toFirmwareTree index memory, same]
    simp only [settings]
  case covers =>
    intro vendor chosen n proc memory counted
    rw [count_answer orders.first.toFirmwareTree memory, chosen, Option.bind_some] at counted
    cases listed : orders.first.settings base sys vendor with
    | none =>
        rw [listed] at counted
        cases counted
    | some names =>
        rw [listed] at counted
        cases counted
        obtain ⟨distinct, complete⟩ := settings_complete listed
        refine ⟨names, rfl, distinct, complete, fun i name at_i proc memory => ?_⟩
        rw [setting_answer orders.first.toFirmwareTree i memory, if_neg (by omega), chosen,
          Option.bind_some, listed, Option.bind_some, Int.toNat_natCast, at_i]
        rfl
  case writes =>
    intro vendor chosen tree either name value password proc memory call made
    have found : tree.vendor = some vendor := by
      rcases either with rfl | rfl
      · exact chosen
      · exact same.symm.trans chosen
    obtain ⟨added, logged, under, -⟩ := setSetting_callsOnly
      (recorded_shows tree.toFirmwareTree base) name found value password (sys, []) proc memory
    rw [logged] at made
    exact under call made

end Stable

theorem biosIndexStable_iff (base : Os σ) (sys : σ) (orders : TwoOrders) :
    BiosIndexStable base sys orders ↔ orders.first.vendor = orders.second.vendor :=
  ⟨vendor_of_stable, stable_of_vendor⟩

/-- Two vendors, read in one order and in the other. -/
def twoVendors (order : List CStr) (perm : order.Perm ["dell".toList, "lenovo".toList]) :
    BiosTree where
  entries dir := if dir = fwattrBase then .ok order else .error Errno.enoent
  isDir path := path = joinPath fwattrBase "dell" || path = joinPath fwattrBase "lenovo"
  plain dir names found name member := by
    split at found
    · cases found
      have listed := perm.mem_iff.mp member
      rcases List.mem_pair.mp listed with rfl | rfl <;> decide
    · cases found
  distinct dir names found := by
    split at found
    · cases found
      exact perm.nodup_iff.mpr (by decide)
    · cases found
  named dir names found := by
    split at found
    · cases found
      exact fun empty => absurd (perm.mem_iff.mp empty) (by decide)
    · cases found

def swappedVendors : TwoOrders where
  first := twoVendors ["dell".toList, "lenovo".toList] (.refl _)
  second := twoVendors ["lenovo".toList, "dell".toList] (.swap _ _ _)
  entries dir := by
    unfold twoVendors
    dsimp only
    split
    · exact .swap _ _ _
    · rfl
  isDir := rfl

/-- With two vendors the order decides whose setting is written. -/
theorem swappedVendors_unstable :
    ¬BiosIndexStable bareOs () swappedVendors := by
  intro stable
  have written : (zenctlFwBiosSetSetting "boot" "usb" none
      (swappedVendors.second.machine bareOs).recorded ((), []) freshProc).2.1.2 =
        [.wrote "/sys/class/firmware-attributes/lenovo/attributes/boot/current_value" "usb"] := by
    decide +kernel
  have under := stable.writes "dell" (by decide +kernel) swappedVendors.second (.inr rfl) "boot"
    "usb" none freshProc rfl
  rw [written] at under
  rcases under _ (List.mem_singleton.mpr rfl) with value | ⟨role, password⟩
  · revert value
    decide
  · have path : resolvePath none (settingValuePath "lenovo" "boot") =
        "/sys/class/firmware-attributes/lenovo/attributes/boot/current_value".toList := by decide
    exact valueFile_not_role none "lenovo" "boot" ⟨"dell", role, path.trans password⟩

end Zenctl
