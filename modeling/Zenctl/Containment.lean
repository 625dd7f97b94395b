import Zenctl.PathFootprints
import Zenctl.ProfileFootprints
import Zenctl.Safety

namespace Zenctl

open CString

/-!
# Where names lead

Names of devices, settings and profiles become parts of paths, and each domain
has a check of its own.  `NameArg.Lies` says where a name is meant to lead: to
an entry of the domain's directory, and there to one of its attributes.
`NameArg.StaysWithin` is about the code: everything it does with a name, from
the call that receives it to the calls on the handle that call returned.
-/

/-! ## Meant places -/

/-- A path component that names an entry of its directory. -/
def OneComponent (component : CStr) : Prop :=
  component ≠ [] ∧ '/' ∉ component ∧ component ≠ ".".toList ∧ component ≠ "..".toList

/-- The path is the base, one component, and one of the suffixes. -/
def LiesAt (base component : CStr) (suffixes : List CStr) (path : CStr) : Prop :=
  OneComponent component ∧ ∃ suffix ∈ suffixes, path = base ++ '/' :: (component ++ suffix)

/-- A name as the code receives it. -/
inductive NameArg where
  | blockDevice (name : CStr)
  | netInterface (name : CStr)
  | pciAddress (name : CStr)
  | usbDevice (name : CStr)
  | biosSetting (name : CStr)
  | acpiTable (name : CStr)
  | efiVariable (name guid : CStr)
  | savedProfile (name : CStr)
  | loadedProfile (name : CStr)
  | deletedProfile (name : CStr)

namespace NameArg

/-- The check the code makes before it uses the name. -/
def accepted : NameArg → Bool
  | blockDevice name => name ≠ [] && name.length < 256 && !storageBadName name
  | netInterface name => name ≠ [] && name.length < 16 && !storageBadName name
  | pciAddress name => name ≠ [] && name.length < 32 && name.all isPciChar
  | usbDevice name => devPathValid name
  | biosSetting name => name ≠ [] && !decide ('/' ∈ name)
  | acpiTable name => name ≠ [] && name.all isAlnum
  | efiVariable name guid => efiNameValid name && efiGuidValid guid
  | savedProfile name => name ≠ [] && !escapesDirectory name
  | loadedProfile name => name ≠ []
  | deletedProfile name => name ≠ []

/-- Where the name is meant to lead. -/
def Lies (env : Env) : NameArg → CStr → Prop
  | blockDevice name => LiesAt "/sys/block" name ([] :: storageSuffixes)
  | netInterface name => LiesAt "/sys/class/net" name ([] :: netSuffixes)
  | pciAddress name => LiesAt "/sys/bus/pci/devices" name ([] :: pcieSuffixes)
  | usbDevice name => LiesAt usbSysfsBase name ([] :: usbAttributes.map ('/' :: ·))
  | biosSetting name => fun path =>
      ∃ vendor, '/' ∉ vendor ∧
        LiesAt (vendorPath vendor "attributes") name ["/current_value"] path
  | acpiTable name => LiesAt acpiTablesBase name [[]]
  | efiVariable name guid => LiesAt efivarsBase (efiFilename name guid) [[]]
  | savedProfile name =>
      LiesAt (if env.euid = 0 then systemProfileDir else userProfileDir env)
        (name ++ ".toml".toList) [[]]
  | loadedProfile name | deletedProfile name => fun path =>
      LiesAt (userProfileDir env) (name ++ ".toml".toList) [[]] path ∨
        LiesAt systemProfileDir (name ++ ".toml".toList) [[]] path

/--
The paths that are not made of the name: the interrupt an interface tells, the node
a USB device tells, the vendors and their roles, the directory of the variables,
and the directories on the way to the profiles with the block devices a save lists.
-/
def Beside (env : Env) : NameArg → CStr → Prop
  | netInterface _ => fun path => ∃ irq, path = irqAffinityPath irq
  | usbDevice _ => fun path => ∃ busnum devnum, path = usbNodePath busnum devnum
  | biosSetting _ => IsVendorPath
  | efiVariable _ _ => fun path => path = efivarsBase
  | savedProfile _ => fun path => path = "/sys/block".toList ∨
      LeadsTo path ((if env.euid = 0 then systemProfileDir else userProfileDir env) ++ ['/'])
  | blockDevice _ | pciAddress _ | acpiTable _ | loadedProfile _ | deletedProfile _ =>
      fun _ => False

def Inside (env : Env) (arg : NameArg) (path : CStr) : Prop :=
  arg.Lies env path ∨ arg.Beside env path

/-- What the checks leave open. -/
def Plain : NameArg → Prop
  | blockDevice name | netInterface name => name ≠ ".".toList
  | pciAddress name | biosSetting name => name ≠ ".".toList ∧ name ≠ "..".toList
  | usbDevice _ | acpiTable _ | efiVariable _ _ | savedProfile _ => True
  | loadedProfile name | deletedProfile name => '/' ∉ name

end NameArg

/-! ## What the code does with a name -/

/-- The name a reading call receives. -/
def Query.name : {β : Type} → Query β → Option NameArg
  | _, .storageOpen dev => some (.blockDevice dev)
  | _, .netOpen iface => some (.netInterface iface)
  | _, .pcieOpen addr => some (.pciAddress addr)
  | _, .usbOpen dev => some (.usbDevice dev)
  | _, .fwEfiGet name guid => some (.efiVariable name guid)
  | _, .fwAcpiGetTable name => some (.acpiTable name)
  | _, _ => none

/-- The name a setter receives. -/
def Update.name : Update → Option NameArg
  | .fwEfiSet name guid _ _ | .fwEfiDelete name guid => some (.efiVariable name guid)
  | .fwBiosSetSetting name _ _ => some (.biosSetting name)
  | _ => none

/-- On some machine the call returns this. -/
def Query.Delivers {β : Type} (call : Query β) (value : β) : Prop :=
  ∃ (σ : Type) (os : Os σ) (sys : σ) (proc : Proc), (call.program os sys proc).1 = .value value

/-- The handle is one the open call returned for the name. -/
def DeviceHandle.OpenedAs : DeviceHandle → NameArg → Prop
  | .storage st, .blockDevice name => (Query.storageOpen name).Delivers st
  | .net opened, .netInterface name => (Query.netOpen name).Delivers opened
  | .pcie p, .pciAddress name => (Query.pcieOpen name).Delivers p
  | .usb u, .usbDevice name => (Query.usbOpen name).Delivers u
  | _, _ => False

namespace NameArg

/-- The call receives the name, or is made on a handle opened for it. -/
def Reaches (arg : NameArg) (name : Option NameArg) (handle : Option DeviceHandle) : Prop :=
  name = some arg ∨ ∃ device, handle = some device ∧ device.OpenedAs arg

/-- The command that receives a profile's name. -/
def command {σ τ : Type} : NameArg → Bool → Bool → CliM σ τ Int
  | savedProfile name, json, dryRun => profileSaveCmd name json dryRun
  | loadedProfile name, json, dryRun => profileLoadCmd name json dryRun
  | deletedProfile name, json, _ => profileDeleteCmd name json
  | _, _, _ => pure 0

/-- Whatever the code does with the name, it works on these paths only. -/
structure StaysWithin (arg : NameArg) (env : Env) (paths : CStr → Prop) : Prop where
  query : ∀ {β : Type} (call : Query β), arg.Reaches call.name call.handle → call.Within paths
  update : ∀ call : Update, arg.Reaches call.name call.handle → call.Within paths
  command : ∀ {σ τ : Type} (ctx : Ctx σ τ) (host : Host σ), ctx.env = env →
    ctx.host.AgreeOn paths host → ∀ json dryRun, (arg.command json dryRun).Alike ctx host

end NameArg

/-! ## The checks the code makes -/

section Checks

variable {σ : Type} (os : Os σ) (sys : σ) (proc : Proc) (name : CStr)

/-- Three refusals in a row let through what none of them is about. -/
theorem refusals_accept
    {empty long : Prop} [Decidable empty] [Decidable long] {bad : Bool}
    (first second third : CStr) (caller : CStr) :
    ((if empty then raise Err.einval first caller
      else if long then raise Err.einval second caller
      else if bad then raise Err.einval third caller
      else pure () : GetM σ Unit) os sys proc).1 = .value () ↔ ¬ empty ∧ ¬ long ∧ bad = false := by
  by_cases isEmpty : empty
  · rw [if_pos isEmpty]
    exact ⟨nofun, fun accepted => absurd isEmpty accepted.1⟩
  · by_cases isLong : long
    · rw [if_neg isEmpty, if_pos isLong]
      exact ⟨nofun, fun accepted => absurd isLong accepted.2.1⟩
    · rw [if_neg isEmpty, if_neg isLong]
      cases bad with
      | false =>
          exact ⟨fun _ => ⟨isEmpty, isLong, rfl⟩, fun _ => rfl⟩
      | true =>
          exact ⟨nofun, fun accepted => absurd accepted.2.2 (by decide)⟩

theorem storageValidateDev_accepts :
    (storageValidateDev name os sys proc).1 = .value () ↔
      (NameArg.blockDevice name).accepted = true := by
  refine (refusals_accept os sys proc _ _ _ _).trans ?_
  simp [NameArg.accepted, and_assoc]

theorem netValidateIface_accepts :
    (netValidateIface name os sys proc).1 = .value () ↔
      (NameArg.netInterface name).accepted = true := by
  refine (refusals_accept os sys proc _ _ _ _).trans ?_
  simp [NameArg.accepted, and_assoc]

theorem pcieValidateAddr_accepts :
    (pcieValidateAddr name os sys proc).1 = .value () ↔
      (NameArg.pciAddress name).accepted = true := by
  have swapped : (pcieValidateAddr name : GetM σ Unit) =
      if name = [] then raise Err.einval "PCI address is required" "zenctl_pcie_open"
      else if 32 ≤ name.length then raise Err.einval "PCI address too long" "zenctl_pcie_open"
      else if !name.all isPciChar then
        raise Err.einval "PCI address has invalid characters" "zenctl_pcie_open"
      else pure () := by
    unfold pcieValidateAddr
    cases name.all isPciChar <;> rfl
  rw [swapped]
  refine (refusals_accept os sys proc _ _ _ _).trans ?_
  simp [NameArg.accepted, and_assoc]

end Checks

/-! ## Built paths -/

/-- A directory of sysfs with a name in it and a fixed attribute below. -/
theorem bounded_path
    {base name suffix : CStr}
    (fits : base.length + name.length + suffix.length < 511) :
    bounded 512 (base ++ ['/'] ++ name ++ suffix) = base ++ '/' :: (name ++ suffix) := by
  rw [bounded_eq_self (by simp only [List.length_append, List.length_cons, List.length_nil]; omega)]
  simp

theorem getLast_append_name
    {base name : CStr} (nonempty : name ≠ []) (noSlash : '/' ∉ name) :
    (base ++ '/' :: name).getLast? ≠ some '/' := by
  obtain ⟨body, last, rfl⟩ := List.eq_nil_or_concat name |>.resolve_left nonempty
  intro slash
  rw [List.concat_eq_append, ← List.cons_append, ← List.append_assoc, List.getLast?_concat,
    Option.some.injEq] at slash
  subst slash
  simp at noSlash

/-- A name that starts or ends in something else is neither dot nor double dot. -/
theorem oneComponent_of_long
    {component : CStr} (noSlash : '/' ∉ component) (long : 3 ≤ component.length) :
    OneComponent component := by
  refine ⟨?_, noSlash, ?_, ?_⟩
  · rintro rfl
    simp at long
  · rintro rfl
    exact absurd long (by decide)
  · rintro rfl
    exact absurd long (by decide)

/-- A directory, a component and a suffix of its own, in the buffer of the paths. -/
theorem sysfs_lies
    {base name : CStr} {suffixes : List CStr} (component : OneComponent name)
    (fits : base.length + name.length < 450)
    (short : ∀ suffix ∈ suffixes, suffix.length ≤ 40) :
    ∀ suffix ∈ suffixes,
      LiesAt base name suffixes (bounded 512 (base ++ ['/'] ++ name ++ suffix)) := by
  intro suffix listed
  have := short suffix listed
  exact ⟨component, suffix, listed, bounded_path (by omega)⟩

/-! ## What an open call returns -/

theorem Query.Delivers.run
    {β : Type} {call : Query β} {value : β} (delivered : call.Delivers value) :
    ∃ (σ : Type) (os : Os σ) (sys : σ) (proc final : Proc),
      call.program os sys proc = (.value value, final) := by
  obtain ⟨σ, os, sys, proc, run⟩ := delivered
  exact ⟨σ, os, sys, proc, _, Prod.ext run rfl⟩

section Opens

variable {name : CStr}

theorem storageOpen_delivers
    {st : StorageHandle} (delivered : (Query.storageOpen name).Delivers st) :
    (NameArg.blockDevice name).accepted = true ∧ st = ⟨name⟩ := by
  obtain ⟨σ, os, sys, proc, final, run⟩ := delivered.run
  obtain ⟨_, _, checked, opening⟩ := GetM.value_of_bind run
  have isAccepted := (storageValidateDev_accepts os sys proc name).mp (congrArg Prod.fst checked)
  obtain ⟨_, _, -, allocating⟩ := GetM.value_of_bind opening
  obtain ⟨_, _, -, returned⟩ := GetM.value_of_bind allocating
  cases returned
  simp only [NameArg.accepted, Bool.and_eq_true, decide_eq_true_eq] at isAccepted
  rw [bounded_eq_self isAccepted.1.2]
  exact ⟨by simpa [NameArg.accepted] using isAccepted, rfl⟩

theorem netOpen_delivers
    {net : NetHandle} (delivered : (Query.netOpen name).Delivers net) :
    (NameArg.netInterface name).accepted = true ∧ net.iface = name := by
  obtain ⟨σ, os, sys, proc, final, run⟩ := delivered.run
  obtain ⟨_, _, checked, opening⟩ := GetM.value_of_bind run
  have isAccepted := (netValidateIface_accepts os sys proc name).mp (congrArg Prod.fst checked)
  obtain ⟨_, _, -, allocating⟩ := GetM.value_of_bind opening
  obtain ⟨_, _, -, connecting⟩ := GetM.value_of_bind allocating
  obtain ⟨socket, _, -, returned⟩ := GetM.value_of_bind connecting
  have iface : net.iface = bounded 16 name := by
    cases socket with
    | some _ =>
        cases returned
        rfl
    | none =>
        cases returned
        rfl
  simp only [NameArg.accepted, Bool.and_eq_true, decide_eq_true_eq] at isAccepted
  rw [iface, bounded_eq_self isAccepted.1.2]
  exact ⟨by simpa [NameArg.accepted] using isAccepted, rfl⟩

theorem pcieOpen_delivers
    {p : PcieHandle} (delivered : (Query.pcieOpen name).Delivers p) :
    (NameArg.pciAddress name).accepted = true ∧ p = ⟨name⟩ := by
  obtain ⟨σ, os, sys, proc, final, run⟩ := delivered.run
  obtain ⟨_, _, checked, opening⟩ := GetM.value_of_bind run
  have isAccepted := (pcieValidateAddr_accepts os sys proc name).mp (congrArg Prod.fst checked)
  obtain ⟨_, _, -, allocating⟩ := GetM.value_of_bind opening
  obtain ⟨_, _, -, returned⟩ := GetM.value_of_bind allocating
  cases returned
  simp only [NameArg.accepted, Bool.and_eq_true, decide_eq_true_eq] at isAccepted
  rw [bounded_eq_self isAccepted.1.2]
  exact ⟨by simpa [NameArg.accepted] using isAccepted, rfl⟩

theorem readBusDevNums_sysfsDir (u : UsbHandle) {σ : Type} :
    (readBusDevNums u : GetM σ UsbHandle).Returns fun found => found.sysfsDir = u.sysfsDir := by
  refine .bind (.any _) fun first _ => ?_
  cases first with
  | false => exact .pure rfl
  | true =>
      refine .bind (.any _) fun busnum _ => .bind (.any _) fun second _ => ?_
      cases second with
      | false => exact .pure rfl
      | true => exact .bind (.any _) fun devnum _ => .pure rfl

theorem usbOpen_delivers
    {u : UsbHandle} (delivered : (Query.usbOpen name).Delivers u) :
    devPathValid name = true ∧ u.sysfsDir = joinPath usbSysfsBase name := by
  obtain ⟨σ, os, sys, proc, run⟩ := delivered
  have opens : (zenctlUsbOpen name : GetM σ UsbHandle).Returns fun u =>
      devPathValid name = true ∧ u.sysfsDir = joinPath usbSysfsBase name := by
    unfold zenctlUsbOpen
    split
    · next valid =>
        refine .bind (.any _) fun _ _ => .bind (.any _) fun _ _ => .bind (.any _) fun _ _ =>
          .bind (.any _) fun _ _ => ?_
        intro os sys proc found value
        exact ⟨valid, readBusDevNums_sysfsDir _ os sys proc found value⟩
    · exact .raise _ _ _
  exact opens os sys proc u run

/-- A handle is opened for accepted names only. -/
theorem DeviceHandle.OpenedAs.accepted
    {device : DeviceHandle} {arg : NameArg} (opened : device.OpenedAs arg) :
    arg.accepted = true := by
  cases device with
  | storage st =>
      cases arg with
      | blockDevice name => exact (storageOpen_delivers opened).1
      | _ => cases opened
  | net net =>
      cases arg with
      | netInterface name => exact (netOpen_delivers opened).1
      | _ => cases opened
  | pcie p =>
      cases arg with
      | pciAddress name => exact (pcieOpen_delivers opened).1
      | _ => cases opened
  | usb u =>
      cases arg with
      | usbDevice name => exact (usbOpen_delivers opened).1
      | _ => cases opened

end Opens

/-! ## Names that are refused -/

/-- Behind a check that lets accepted names through, a refused name reaches nothing. -/
theorem GetM.Alike.refused
    {σ β : Type} {os other : Os σ} {check : GetM σ Unit} {next : Unit → GetM σ β} {arg : NameArg}
    (refused : arg.accepted = false) (blind : check.Alike os other)
    (accepts : ∀ sys proc, (check os sys proc).1 = .value () → arg.accepted = true) :
    (check >>= next).Alike os other := by
  have refuses : ∀ sys proc, (check os sys proc).1 ≠ .value () := by
    intro sys proc value
    rw [accepts sys proc value] at refused
    cases refused
  exact .bindOf blind (fun sys proc _ _ run => refuses sys proc (congrArg Prod.fst run))
    fun _ impossible => impossible.elim

namespace NameArg

/-- A name that is refused leads to no path at all. -/
theorem refused_staysWithin
    {arg : NameArg} (refused : arg.accepted = false) (env : Env) :
    arg.StaysWithin env fun _ => False := by
  have unopened : ∀ device : DeviceHandle, ¬ device.OpenedAs arg := by
    intro device opened
    rw [opened.accepted] at refused
    cases refused
  refine ⟨fun call reaches σ os other agree => ?_, fun call reaches σ os other agree => ?_,
    fun ctx host _ _ json dryRun => ?_⟩
  · rcases reaches with named | ⟨device, -, opened⟩
    · cases call with
      | storageOpen dev =>
          cases named
          exact .refused refused (storageValidateDev_alike dev) fun sys proc =>
            (storageValidateDev_accepts os sys proc dev).mp
      | netOpen iface =>
          cases named
          exact .refused refused (netValidateIface_alike iface) fun sys proc =>
            (netValidateIface_accepts os sys proc iface).mp
      | pcieOpen addr =>
          cases named
          exact .refused refused (pcieValidateAddr_alike addr) fun sys proc =>
            (pcieValidateAddr_accepts os sys proc addr).mp
      | usbOpen dev =>
          cases named
          exact .iteOf (fun valid => absurd valid (Bool.eq_false_iff.mp refused))
            fun _ => raise_alike _ _ _
      | fwEfiGet name guid =>
          cases named
          exact .iteOf (fun valid => absurd valid (Bool.eq_false_iff.mp refused))
            fun _ => raise_alike _ _ _
      | fwAcpiGetTable name =>
          cases named
          refine .iteOf (fun _ => raise_alike _ _ _) fun named => ?_
          refine .iteOf (fun plain => ?_) fun _ => raise_alike _ _ _
          simp [accepted, named, plain] at refused
      | _ => cases named
    · exact absurd opened (unopened device)
  · rcases reaches with named | ⟨device, -, opened⟩
    · cases call with
      | fwEfiSet name guid attributes data =>
          cases named
          exact .iteOf (fun valid => absurd valid (Bool.eq_false_iff.mp refused))
            fun _ => (raise_alike _ _ _).getting
      | fwEfiDelete name guid =>
          cases named
          exact .iteOf (fun valid => absurd valid (Bool.eq_false_iff.mp refused))
            fun _ => (raise_alike _ _ _).getting
      | fwBiosSetSetting name value password =>
          cases named
          refine .iteOf (fun _ => (raise_alike _ _ _).getting) fun named => ?_
          refine .iteOf (fun _ => (raise_alike _ _ _).getting) fun plain => ?_
          simp [accepted, named, plain] at refused
      | _ => cases named
    · exact absurd opened (unopened device)
  · cases arg with
    | savedProfile name =>
        refine .iteOf (fun _ => cliErr_alike _ _) fun named => ?_
        refine .iteOf (fun _ => cliErr_alike _ _) fun plain => ?_
        simp [accepted, named, plain] at refused
    | loadedProfile name | deletedProfile name =>
        refine .iteOf (fun _ => cliErr_alike _ _) fun named => ?_
        simp [accepted, named] at refused
    | _ => exact .pure 0

end NameArg

/-! ## Names that are entries -/

section Entries

variable {name : CStr}

theorem blockDevice_component
    (isAccepted : (NameArg.blockDevice name).accepted = true) (plain : name ≠ ".".toList) :
    OneComponent name ∧ name.length < 256 := by
  simp only [NameArg.accepted, Bool.and_eq_true, decide_eq_true_eq, Bool.not_eq_eq_eq_not,
    Bool.not_true] at isAccepted
  obtain ⟨⟨nonempty, short⟩, good⟩ := isAccepted
  obtain ⟨noSlash, noDots, -⟩ := storageBadName_false good
  exact ⟨⟨nonempty, noSlash, plain, fun same => noDots (same ▸ List.infix_refl _)⟩, short⟩

theorem netInterface_component
    (isAccepted : (NameArg.netInterface name).accepted = true) (plain : name ≠ ".".toList) :
    OneComponent name ∧ name.length < 16 := by
  simp only [NameArg.accepted, Bool.and_eq_true, decide_eq_true_eq, Bool.not_eq_eq_eq_not,
    Bool.not_true] at isAccepted
  obtain ⟨⟨nonempty, short⟩, good⟩ := isAccepted
  obtain ⟨noSlash, noDots, -⟩ := storageBadName_false good
  exact ⟨⟨nonempty, noSlash, plain, fun same => noDots (same ▸ List.infix_refl _)⟩, short⟩

/-- The character class leaves out the slash, but not the dot. -/
theorem pciAddress_component
    (isAccepted : (NameArg.pciAddress name).accepted = true)
    (plain : name ≠ ".".toList ∧ name ≠ "..".toList) :
    OneComponent name ∧ name.length < 32 := by
  simp only [NameArg.accepted, Bool.and_eq_true, decide_eq_true_eq] at isAccepted
  obtain ⟨⟨nonempty, short⟩, good⟩ := isAccepted
  have noSlash : '/' ∉ name := fun member => absurd (List.all_eq_true.mp good _ member) (by decide)
  exact ⟨⟨nonempty, noSlash, plain⟩, short⟩

/-- A USB path starts with a digit or with `usb`. -/
theorem devPathValid_component
    (valid : devPathValid name = true) :
    OneComponent name := by
  simp only [devPathValid, Bool.and_eq_true, Bool.or_eq_true, decide_eq_true_eq] at valid
  obtain ⟨⟨nonempty, plain⟩, start⟩ := valid
  have noSlash : '/' ∉ name := fun member =>
    absurd (List.all_eq_true.mp plain _ member) (by decide)
  refine ⟨nonempty, noSlash, ?_, ?_⟩
  · rintro rfl
    revert start
    decide
  · rintro rfl
    revert start
    decide

theorem acpiTable_component
    (isAccepted : (NameArg.acpiTable name).accepted = true) :
    OneComponent name := by
  simp only [NameArg.accepted, Bool.and_eq_true, decide_eq_true_eq] at isAccepted
  obtain ⟨nonempty, alnum⟩ := isAccepted
  have absent : ∀ c, isAlnum c = false → c ∉ name := fun c special member => by
    rw [List.all_eq_true.mp alnum c member] at special
    cases special
  refine ⟨nonempty, absent _ (by decide), ?_, ?_⟩
  · rintro rfl
    exact absent '.' (by decide) (by decide)
  · rintro rfl
    exact absent '.' (by decide) (by decide)

theorem guidFrom_noSlash
    {guid : CStr} {i : Nat} (valid : guidFrom i guid = true) :
    '/' ∉ guid := by
  induction guid generalizing i with
  | nil =>
      exact List.not_mem_nil
  | cons c rest inductionHypothesis =>
      simp only [guidFrom, Bool.and_eq_true] at valid
      obtain ⟨here, later⟩ := valid
      simp only [List.mem_cons, not_or]
      refine ⟨?_, inductionHypothesis later⟩
      rintro rfl
      split at here <;> exact absurd here (by decide)

theorem efiVariable_component
    {guid : CStr} (isAccepted : (NameArg.efiVariable name guid).accepted = true) :
    OneComponent (efiFilename name guid) := by
  simp only [NameArg.accepted, efiNameValid, efiGuidValid, Bool.and_eq_true, decide_eq_true_eq]
    at isAccepted
  obtain ⟨⟨⟨nonempty, -⟩, plain⟩, length, guidPlain⟩ := isAccepted
  have noSlash : '/' ∉ efiFilename name guid := by
    simp only [efiFilename, List.mem_append, List.mem_cons, not_or]
    refine ⟨fun member => ?_, by decide, guidFrom_noSlash guidPlain⟩
    have := List.all_eq_true.mp plain _ member
    simp at this
  have long : 3 ≤ (efiFilename name guid).length := by
    simp only [efiFilename, List.length_append, List.length_cons]
    omega
  exact oneComponent_of_long noSlash long

/-- Only a slash leads out of the directory of a profile. -/
theorem profile_component :
    OneComponent (name ++ ".toml".toList) ↔ '/' ∉ name := by
  constructor
  · intro component member
    exact component.2.1 (List.mem_append_left _ member)
  · intro noSlash
    refine oneComponent_of_long ?_ ?_
    · simp only [List.mem_append, not_or]
      exact ⟨noSlash, by decide⟩
    · have extension : ".toml".toList.length = 5 := by decide
      simp only [List.length_append, extension]
      omega

theorem profilePath_lies
    (noSlash : '/' ∉ name) (dir : CStr) :
    LiesAt dir (name ++ ".toml".toList) [[]] (profilePath dir name) :=
  ⟨profile_component.mpr noSlash, [], List.mem_cons_self, by simp [profilePath]⟩

/-- A directory on the way to a profile is one on the way to the profiles. -/
theorem leadsTo_profileDir
    (noSlash : '/' ∉ name) {dir base : CStr} (leads : LeadsTo dir (profilePath base name)) :
    LeadsTo dir (base ++ ['/']) := by
  obtain ⟨below, file⟩ := leads
  have file : (base ++ ['/']) ++ (name ++ ".toml".toList) = (dir ++ ['/']) ++ below := by
    simpa [profilePath] using file
  rcases List.append_eq_append_iff.mp file with ⟨more, longer, rest⟩ | ⟨more, shorter, -⟩
  · -- the slash behind the directory would be one of the name
    cases more using List.reverseRecOn with
    | nil => exact ⟨[], by simpa using longer.symm⟩
    | append_singleton more last =>
        have ends := congrArg List.getLast? longer
        simp only [← List.append_assoc, List.getLast?_concat, Option.some.injEq] at ends
        subst ends
        have member : '/' ∈ name ++ ".toml".toList := by
          rw [rest]
          simp
        exact absurd member (profile_component.mpr noSlash).2.1
  · exact ⟨more, by simpa using shorter⟩

end Entries

namespace NameArg

variable {name : CStr} (env : Env)

theorem blockDevice_staysWithin
    (isAccepted : (blockDevice name).accepted = true) (plain : (blockDevice name).Plain) :
    (blockDevice name).StaysWithin env ((blockDevice name).Inside env) := by
  obtain ⟨component, short⟩ := blockDevice_component isAccepted plain
  have base : "/sys/block".toList.length = 10 := by decide
  have lies := sysfs_lies component (show "/sys/block".toList.length + name.length < 450 by omega)
    (show ∀ suffix ∈ [] :: storageSuffixes, suffix.length ≤ 40 by decide)
  have inside : ∀ suffix ∈ storageSuffixes,
      (blockDevice name).Inside env (storagePath ⟨name⟩ suffix) :=
    fun suffix listed => .inl (lies suffix (List.mem_cons_of_mem _ listed))
  have dir : (blockDevice name).Inside env (bounded 512 ("/sys/block/".toList ++ name)) := by
    have here := lies [] List.mem_cons_self
    rw [List.append_nil] at here
    exact .inl here
  refine ⟨fun call reaches σ os other agree => ?_, fun call reaches σ os other agree => ?_,
    fun ctx host _ _ json dryRun => .pure 0⟩
  · rcases reaches with named | ⟨device, on, opened⟩
    · cases call with
      | storageOpen dev =>
          cases named
          exact zenctlStorageOpen_alike agree dir
      | _ => cases named
    · cases device with
      | storage st =>
          obtain rfl := (storageOpen_delivers opened).2
          exact storageQuery_alike agree inside on
      | _ => cases opened
  · rcases reaches with named | ⟨device, on, opened⟩
    · cases call <;> cases named
    · cases device with
      | storage st =>
          obtain rfl := (storageOpen_delivers opened).2
          exact storageUpdate_alike agree inside on
      | _ => cases opened

theorem netInterface_staysWithin
    (isAccepted : (netInterface name).accepted = true) (plain : (netInterface name).Plain) :
    (netInterface name).StaysWithin env ((netInterface name).Inside env) := by
  obtain ⟨component, short⟩ := netInterface_component isAccepted plain
  have base : "/sys/class/net".toList.length = 14 := by decide
  have lies := sysfs_lies component
    (show "/sys/class/net".toList.length + name.length < 450 by omega)
    (show ∀ suffix ∈ [] :: netSuffixes, suffix.length ≤ 40 by decide)
  have inside : ∀ net : NetHandle, net.iface = name → ∀ suffix ∈ netSuffixes,
      (netInterface name).Inside env (netSysfsPath net suffix) := by
    rintro net rfl suffix listed
    exact .inl (lies suffix (List.mem_cons_of_mem _ listed))
  have affinity : ∀ irq, (netInterface name).Inside env (irqAffinityPath irq) :=
    fun irq => .inr ⟨irq, rfl⟩
  have dir : (netInterface name).Inside env (bounded 512 ("/sys/class/net/".toList ++ name)) := by
    have here := lies [] List.mem_cons_self
    rw [List.append_nil] at here
    exact .inl here
  refine ⟨fun call reaches σ os other agree => ?_, fun call reaches σ os other agree => ?_,
    fun ctx host _ _ json dryRun => .pure 0⟩
  · rcases reaches with named | ⟨device, on, opened⟩
    · cases call with
      | netOpen iface =>
          cases named
          exact zenctlNetOpen_alike agree dir
      | _ => cases named
    · cases device with
      | net net => exact netQuery_alike agree (inside net (netOpen_delivers opened).2) affinity on
      | _ => cases opened
  · rcases reaches with named | ⟨device, on, opened⟩
    · cases call <;> cases named
    · cases device with
      | net net => exact netUpdate_alike agree (inside net (netOpen_delivers opened).2) affinity on
      | _ => cases opened

theorem pciAddress_staysWithin
    (isAccepted : (pciAddress name).accepted = true) (plain : (pciAddress name).Plain) :
    (pciAddress name).StaysWithin env ((pciAddress name).Inside env) := by
  obtain ⟨component, short⟩ := pciAddress_component isAccepted plain
  have base : "/sys/bus/pci/devices".toList.length = 20 := by decide
  have lies := sysfs_lies component
    (show "/sys/bus/pci/devices".toList.length + name.length < 450 by omega)
    (show ∀ suffix ∈ [] :: pcieSuffixes, suffix.length ≤ 40 by decide)
  have inside : ∀ suffix ∈ pcieSuffixes, (pciAddress name).Inside env (pcieDevPath ⟨name⟩ suffix) :=
    fun suffix listed => .inl (lies suffix (List.mem_cons_of_mem _ listed))
  have dir : (pciAddress name).Inside env
      (bounded 512 ("/sys/bus/pci/devices/".toList ++ name)) := by
    have here := lies [] List.mem_cons_self
    rw [List.append_nil] at here
    exact .inl here
  refine ⟨fun call reaches σ os other agree => ?_, fun call reaches σ os other agree => ?_,
    fun ctx host _ _ json dryRun => .pure 0⟩
  · rcases reaches with named | ⟨device, on, opened⟩
    · cases call with
      | pcieOpen addr =>
          cases named
          exact zenctlPcieOpen_alike agree dir
      | _ => cases named
    · cases device with
      | pcie p =>
          obtain rfl := (pcieOpen_delivers opened).2
          exact pcieQuery_alike agree inside on
      | _ => cases opened
  · rcases reaches with named | ⟨device, on, opened⟩
    · cases call <;> cases named
    · cases device with
      | pcie p =>
          obtain rfl := (pcieOpen_delivers opened).2
          exact pcieUpdate_alike agree inside on
      | _ => cases opened

theorem usbDevice_staysWithin
    (isAccepted : (usbDevice name).accepted = true) :
    (usbDevice name).StaysWithin env ((usbDevice name).Inside env) := by
  have component := devPathValid_component isAccepted
  have below : joinPath usbSysfsBase name = usbSysfsBase ++ '/' :: name :=
    joinPath_eq (by decide) (by decide) name
  have dir : (usbDevice name).Inside env (joinPath usbSysfsBase name) :=
    .inl ⟨component, [], List.mem_cons_self, by simpa using below⟩
  have inside : ∀ attr ∈ usbAttributes,
      (usbDevice name).Inside env (joinPath (joinPath usbSysfsBase name) attr) := by
    intro attr listed
    refine .inl ⟨component, '/' :: attr, List.mem_cons_of_mem _ (List.mem_map_of_mem listed), ?_⟩
    rw [below, joinPath_eq (by simp) (getLast_append_name component.1 component.2.1)]
    simp
  have nodes : ∀ busnum devnum, (usbDevice name).Inside env (usbNodePath busnum devnum) :=
    fun busnum devnum => .inr ⟨busnum, devnum, rfl⟩
  have onHandle : ∀ u : UsbHandle, u.sysfsDir = joinPath usbSysfsBase name →
      ∀ attr ∈ usbAttributes, (usbDevice name).Inside env (joinPath u.sysfsDir attr) := by
    intro u opened
    rwa [opened]
  refine ⟨fun call reaches σ os other agree => ?_, fun call reaches σ os other agree => ?_,
    fun ctx host _ _ json dryRun => .pure 0⟩
  · rcases reaches with named | ⟨device, on, opened⟩
    · cases call with
      | usbOpen dev =>
          cases named
          exact zenctlUsbOpen_alike agree dir inside
      | _ => cases named
    · cases device with
      | usb u => exact usbQuery_alike agree (onHandle u (usbOpen_delivers opened).2) on
      | _ => cases opened
  · rcases reaches with named | ⟨device, on, opened⟩
    · cases call <;> cases named
    · cases device with
      | usb u => exact usbUpdate_alike agree (onHandle u (usbOpen_delivers opened).2) nodes on
      | _ => cases opened

/-- Only the slash is looked for. -/
theorem biosSetting_lies
    (isAccepted : (biosSetting name).accepted = true) (plain : (biosSetting name).Plain)
    {vendor : CStr} (named : '/' ∉ vendor) :
    (biosSetting name).Lies env (settingValuePath vendor name) := by
  simp only [accepted, Bool.and_eq_true, decide_eq_true_eq, Bool.not_eq_eq_eq_not,
    Bool.not_true, decide_eq_false_iff_not] at isAccepted
  obtain ⟨nonempty, noSlash⟩ := isAccepted
  have attributes := @joinPath_getLast (joinPath fwattrBase vendor) "attributes" (by decide)
  have unclosed : (vendorPath vendor "attributes").getLast? ≠ some '/' := by
    rw [vendorPath, attributes]
    decide
  have notEmpty : vendorPath vendor "attributes" ≠ [] := by
    intro empty
    rw [← vendorPath, empty] at attributes
    exact absurd attributes (by decide)
  refine ⟨vendor, named, ⟨nonempty, noSlash, plain⟩, _, List.mem_singleton_self _, ?_⟩
  rw [settingValuePath, joinPath_eq notEmpty unclosed,
    joinPath_eq (by simp) (getLast_append_name nonempty noSlash)]
  simp only [List.append_assoc, List.cons_append]
  rfl

theorem biosSetting_staysWithin
    (isAccepted : (biosSetting name).accepted = true) (plain : (biosSetting name).Plain) :
    (biosSetting name).StaysWithin env ((biosSetting name).Inside env) := by
  refine ⟨fun call reaches σ os other agree => ?_, fun call reaches σ os other agree => ?_,
    fun ctx host _ _ json dryRun => .pure 0⟩
  · rcases reaches with named | ⟨device, on, opened⟩
    · cases call <;> cases named
    · cases device <;> cases opened
  · rcases reaches with named | ⟨device, on, opened⟩
    · cases call with
      | fwBiosSetSetting name value password =>
          cases named
          exact zenctlFwBiosSetSetting_alike agree (fun path vendors => .inr vendors)
            (fun vendor named => .inl (biosSetting_lies env isAccepted plain named)) value password
      | _ => cases named
    · cases device <;> cases opened

theorem acpiTable_staysWithin
    (isAccepted : (acpiTable name).accepted = true) :
    (acpiTable name).StaysWithin env ((acpiTable name).Inside env) := by
  have below : joinPath acpiTablesBase name = acpiTablesBase ++ '/' :: name :=
    joinPath_eq (by decide) (by decide) name
  have inside : (acpiTable name).Inside env (joinPath acpiTablesBase name) :=
    .inl ⟨acpiTable_component isAccepted, [], List.mem_cons_self, by simpa using below⟩
  refine ⟨fun call reaches σ os other agree => ?_, fun call reaches σ os other agree => ?_,
    fun ctx host _ _ json dryRun => .pure 0⟩
  · rcases reaches with named | ⟨device, on, opened⟩
    · cases call with
      | fwAcpiGetTable name =>
          cases named
          exact zenctlFwAcpiGetTable_alike agree inside
      | _ => cases named
    · cases device <;> cases opened
  · rcases reaches with named | ⟨device, on, opened⟩
    · cases call <;> cases named
    · cases device <;> cases opened

theorem efiVariable_staysWithin
    {guid : CStr} (isAccepted : (efiVariable name guid).accepted = true) :
    (efiVariable name guid).StaysWithin env ((efiVariable name guid).Inside env) := by
  have below : efiVariablePath name guid = efivarsBase ++ '/' :: efiFilename name guid :=
    joinPath_eq (by decide) (by decide) _
  have inside : (efiVariable name guid).Inside env (efiVariablePath name guid) :=
    .inl ⟨efiVariable_component isAccepted, [], List.mem_cons_self, by simpa using below⟩
  have base : (efiVariable name guid).Inside env efivarsBase := .inr rfl
  refine ⟨fun call reaches σ os other agree => ?_, fun call reaches σ os other agree => ?_,
    fun ctx host _ _ json dryRun => .pure 0⟩
  · rcases reaches with named | ⟨device, on, opened⟩
    · cases call with
      | fwEfiGet name guid =>
          cases named
          exact zenctlFwEfiGet_alike agree base inside
      | _ => cases named
    · cases device <;> cases opened
  · rcases reaches with named | ⟨device, on, opened⟩
    · cases call with
      | fwEfiSet name guid attributes data =>
          cases named
          exact zenctlFwEfiSet_alike agree base inside attributes data
      | fwEfiDelete name guid =>
          cases named
          exact zenctlFwEfiDelete_alike agree base inside
      | _ => cases named
    · cases device <;> cases opened

/-- No call of the library receives the name of a profile. -/
theorem profile_reaches
    {arg : NameArg} (profile : arg ∈ [savedProfile name, loadedProfile name, deletedProfile name]) :
    (∀ {β : Type} (call : Query β), ¬ arg.Reaches call.name call.handle) ∧
      ∀ call : Update, ¬ arg.Reaches call.name call.handle := by
  have unopened : ∀ device : DeviceHandle, ¬ device.OpenedAs arg := by
    intro device opened
    simp only [List.mem_cons, List.not_mem_nil, or_false] at profile
    rcases profile with rfl | rfl | rfl <;> cases device <;> cases opened
  simp only [List.mem_cons, List.not_mem_nil, or_false] at profile
  constructor
  · rintro β call (named | ⟨device, -, opened⟩)
    · rcases profile with rfl | rfl | rfl <;> cases call <;> cases named
    · exact unopened device opened
  · rintro call (named | ⟨device, -, opened⟩)
    · rcases profile with rfl | rfl | rfl <;> cases call <;> cases named
    · exact unopened device opened

theorem savedProfile_staysWithin
    (isAccepted : (savedProfile name).accepted = true) :
    (savedProfile name).StaysWithin env ((savedProfile name).Inside env) := by
  simp only [accepted, escapesDirectory, Bool.and_eq_true, Bool.not_eq_eq_eq_not,
    Bool.not_true, Bool.or_eq_false_iff, decide_eq_false_iff_not] at isAccepted
  have noSlash := isAccepted.2.1.1
  obtain ⟨noQuery, noUpdate⟩ := @profile_reaches name (savedProfile name) (by simp)
  refine ⟨fun call reaches => absurd reaches (noQuery call),
    fun call reaches => absurd reaches (noUpdate call), ?_⟩
  rintro σ τ ctx host rfl agree json dryRun
  exact profileSaveCmd_alike agree (.inl (profilePath_lies noSlash _))
    (fun dir leads => .inr (.inr (leadsTo_profileDir noSlash leads))) (.inr (.inl rfl)) json dryRun

theorem loadedProfile_staysWithin
    (noSlash : '/' ∉ name) :
    (loadedProfile name).StaysWithin env ((loadedProfile name).Inside env) := by
  obtain ⟨noQuery, noUpdate⟩ := @profile_reaches name (loadedProfile name) (by simp)
  refine ⟨fun call reaches => absurd reaches (noQuery call),
    fun call reaches => absurd reaches (noUpdate call), ?_⟩
  rintro σ τ ctx host rfl agree json dryRun
  exact profileLoadCmd_alike agree (.inl (.inl (profilePath_lies noSlash _)))
    (.inl (.inr (profilePath_lies noSlash _))) json dryRun

theorem deletedProfile_staysWithin
    (noSlash : '/' ∉ name) :
    (deletedProfile name).StaysWithin env ((deletedProfile name).Inside env) := by
  obtain ⟨noQuery, noUpdate⟩ := @profile_reaches name (deletedProfile name) (by simp)
  refine ⟨fun call reaches => absurd reaches (noQuery call),
    fun call reaches => absurd reaches (noUpdate call), ?_⟩
  rintro σ τ ctx host rfl agree json dryRun
  exact profileDeleteCmd_alike agree (.inl (.inl (profilePath_lies noSlash _)))
    (.inl (.inr (profilePath_lies noSlash _))) json

end NameArg

/-! ## Names that lead elsewhere -/

section Elsewhere

/-- The machine on which one file is locked agrees with the bare one on all others. -/
theorem lockedOs_agreeOn
    {paths : CStr → Prop} {file : CStr} (outside : ¬ paths file) :
    (FileStep.lockedOs none (some file)).AgreeOn paths (FileStep.lockedOs none none) := by
  have apart : ∀ path, paths path →
      (FileStep.lockedOs none (some file)).AgreeAt path (FileStep.lockedOs none none) := by
    intro path inside
    refine FileStep.lockedOs_agree none fun same => ?_
    exact outside (same ▸ inside)
  exact ⟨rfl, rfl, apart, apart, fun _ _ _ => rfl, fun _ _ _ => rfl, rfl, rfl, rfl, rfl, rfl,
    nofun⟩

/-- A call that is told by its error which file is locked does not leave that file alone. -/
theorem Query.reaches_locked
    {β : Type} {call : Query β} {file : CStr}
    (told : (call.program (FileStep.lockedOs none (some file)) () freshProc).2.errno ≠
      (call.program (FileStep.lockedOs none none) () freshProc).2.errno)
    {paths : CStr → Prop} (within : call.Within paths) :
    paths file := by
  by_contra outside
  exact told (congrArg (·.2.errno) (within Unit _ _ (lockedOs_agreeOn outside) () freshProc))

/-- One vendor, without roles, on a machine where one file may be locked. -/
def vendorOs (locked : Option CStr) : Os Unit :=
  { FileStep.lockedOs none locked with
    listDir := fun _ dir => if dir = fwattrBase then .ok ["dell"] else .error Errno.enoent
    isDir := fun _ path => path = joinPath fwattrBase "dell" }

theorem vendorOs_agreeOn
    {paths : CStr → Prop} {file : CStr} (outside : ¬ paths file) :
    (vendorOs (some file)).AgreeOn paths (vendorOs none) := by
  have apart : ∀ path, paths path → (vendorOs (some file)).AgreeAt path (vendorOs none) := by
    intro path inside
    have agree := lockedOs_agreeOn outside
    exact { agree.file path inside with
      listDir := fun _ => rfl
      isDir := fun _ => rfl }
  refine ⟨rfl, rfl, apart, apart, fun _ _ _ => rfl, fun _ _ _ => rfl, rfl, rfl, rfl, rfl, rfl, ?_⟩
  intro sys dir names found
  unfold vendorOs at found
  dsimp only at found
  split at found
  · cases found
    decide
  · cases found

theorem valuePath_notVendor
    {name : CStr} (dots : name ∈ [".".toList, "..".toList]) :
    ¬ IsVendorPath (settingValuePath "dell" name) := by
  have value : settingValuePath "dell" name =
      (fwattrBase ++ "/dell/attributes/".toList ++ name) ++ '/' :: "current_value".toList := by
    revert dots name
    decide
  have last : (settingValuePath "dell" name).getLast? = some 'e' :=
    joinPath_getLast (by decide)
  rintro (base | ⟨vendor, plain, dir | auth | ⟨role, roleless, roleDir | roleFile⟩⟩)
  · rw [base] at last
    revert last
    decide
  · rw [fwattrBase_join, value, List.append_assoc, List.append_assoc] at dir
    have slash : '/' ∈ vendor := by
      rw [← (List.cons.inj (List.append_cancel_left dir)).2]
      simp
    exact plain slash
  · have ends : (vendorPath vendor "authentication").getLast? = some 'n' :=
      joinPath_getLast (by decide)
    rw [auth, ends] at last
    revert last
    decide
  · have ends : (vendorPath vendor "authentication").getLast? = some 'n' :=
      joinPath_getLast (by decide)
    have nonempty : vendorPath vendor "authentication" ≠ [] := by
      intro empty
      rw [empty] at ends
      cases ends
    -- the directory of the role is what stands before the last slash
    rw [joinPath_eq nonempty (by rw [ends]; decide), value] at roleDir
    have before := congrArg (beforeLast '/') roleDir
    rw [beforeLast_append (by decide), beforeLast_append roleless] at before
    have apart : ∀ name ∈ [".".toList, "..".toList],
        (fwattrBase ++ "/dell/attributes/".toList ++ name).getLast? ≠ some 'n' := by
      decide
    exact apart name dots (before ▸ ends)
  · have ends : (rolePath vendor role).getLast? = some 'd' := joinPath_getLast (by decide)
    rw [roleFile, ends] at last
    revert last
    decide

/-- A library in which every call fails. -/
def silentLibrary : Library Unit Unit where
  query _ _ memory := (.error Err.zero, memory)
  update _ sys memory := (.error Err.zero, sys, memory)

/-- A host that has no profile, and one that lets every profile be read and deleted. -/
def profileHost (present : Bool) : Host Unit where
  listDir _ _ := none
  access _ _ _ := present
  readFile _ _ := .ok []
  mkdir _ _ := (true, ())
  openWrite _ _ := (.ok (), ())
  writeOut _ _ _ := ()
  unlink _ _ := (.ok (), ())

theorem profileHost_agreeOn
    {paths : CStr → Prop} (outside : ∀ path, ¬ paths path) :
    (profileHost false).AgreeOn paths (profileHost true) :=
  ⟨fun _ _ _ => rfl, fun path inside => absurd inside (outside path), fun _ _ _ => rfl,
    fun _ _ _ => rfl, fun _ _ _ => rfl, fun _ _ _ _ => rfl, fun _ _ _ => rfl⟩

end Elsewhere

namespace NameArg

/-- The address `..` leads to the directory above. -/
theorem pciAddress_leaves
    (env : Env) :
    ¬ (pciAddress "..").StaysWithin env ((pciAddress "..").Inside env) := by
  intro stays
  have inside := @Query.reaches_locked _ (.pcieOpen "..") "/sys/bus/pci/devices/.." (by decide) _
    (stays.query (.pcieOpen "..") (.inl rfl))
  obtain lies | beside := inside
  · exact lies.1.2.2.2 rfl
  · exact beside

/-- A command that tells by its status whether there is a profile looks at some file. -/
theorem StaysWithin.reachesFile
    {env : Env} {arg : NameArg} {paths : CStr → Prop} (stays : arg.StaysWithin env paths)
    (status : ∀ present, (arg.command true true
      ⟨silentLibrary, profileHost present, env⟩ (start () ())).1 = if present then 0 else -1) :
    ∃ path, paths path := by
  by_contra outside
  have same := stays.command ⟨silentLibrary, profileHost false, env⟩ _ rfl
    (profileHost_agreeOn (not_exists.mp outside)) true true (start () ())
  have codes := congrArg Prod.fst same
  rw [status, status] at codes
  cases codes

/-- A slash in the name of a profile leads past both directories. -/
theorem profile_noSlash
    {env : Env} {name path : CStr} (inside : (loadedProfile name).Inside env path) :
    '/' ∉ name := by
  obtain (lies | lies) | beside := inside
  · exact profile_component.mp lies.1
  · exact profile_component.mp lies.1
  · exact absurd beside id

theorem plain_of_staysWithin
    {env : Env} {arg : NameArg} (isAccepted : arg.accepted = true)
    (stays : arg.StaysWithin env (arg.Inside env)) :
    arg.Plain := by
  cases arg with
  | blockDevice name =>
      rintro rfl
      have inside := @Query.reaches_locked _ (.storageOpen ".") "/sys/block/." (by decide) _
        (stays.query (.storageOpen ".") (.inl rfl))
      obtain lies | beside := inside
      · exact lies.1.2.2.1 rfl
      · exact beside
  | netInterface name =>
      rintro rfl
      have inside := @Query.reaches_locked _ (.netOpen ".") "/sys/class/net/." (by decide) _
        (stays.query (.netOpen ".") (.inl rfl))
      obtain lies | ⟨irq, same⟩ := inside
      · exact lies.1.2.2.1 rfl
      · have lead : (irqAffinityPath irq).take 2 = "/p".toList := rfl
        rw [← same] at lead
        exact absurd lead (by decide)
  | pciAddress name =>
      refine ⟨?_, ?_⟩
      · rintro rfl
        have inside := @Query.reaches_locked _ (.pcieOpen ".") "/sys/bus/pci/devices/." (by decide) _
          (stays.query (.pcieOpen ".") (.inl rfl))
        obtain lies | beside := inside
        · exact lies.1.2.2.1 rfl
        · exact beside
      · rintro rfl
        exact pciAddress_leaves env stays
  | biosSetting name =>
      by_contra dotted
      have dots : name ∈ [".".toList, "..".toList] := by
        simp only [Plain, not_and_or, not_not] at dotted
        simpa using dotted
      have outside : ¬ (biosSetting name).Inside env (settingValuePath "dell" name) := by
        rintro (⟨vendor, -, component, -⟩ | vendors)
        · exact dotted component.2.2
        · exact valuePath_notVendor dots vendors
      have same := stays.update (.fwBiosSetSetting name "x" none) (.inl rfl) Unit _ _
        (vendorOs_agreeOn outside) () freshProc
      have told : ∀ name ∈ [".".toList, "..".toList],
          (zenctlFwBiosSetSetting name "x" none (vendorOs (some (settingValuePath "dell" name))) ()
            freshProc).2.2.errno ≠
          (zenctlFwBiosSetSetting name "x" none (vendorOs none) () freshProc).2.2.errno := by
        decide
      exact told name dots (congrArg (·.2.2.errno) same)
  | loadedProfile name =>
      intro slash
      have named : name ≠ [] := by simpa [accepted] using isAccepted
      have status : ∀ present, ((loadedProfile name).command true true
          ⟨silentLibrary, profileHost present, env⟩ (start () ())).1 = if present then 0 else -1 := by
        intro present
        rw [command, profileLoadCmd, if_neg named]
        cases present <;> rfl
      obtain ⟨path, inside⟩ := stays.reachesFile status
      exact profile_noSlash inside slash
  | deletedProfile name =>
      intro slash
      have named : name ≠ [] := by simpa [accepted] using isAccepted
      have status : ∀ present, ((deletedProfile name).command true true
          ⟨silentLibrary, profileHost present, env⟩ (start () ())).1 = if present then 0 else -1 := by
        intro present
        rw [command, profileDeleteCmd, if_neg named]
        cases present <;> rfl
      obtain ⟨path, inside⟩ := stays.reachesFile status
      exact profile_noSlash inside slash
  | usbDevice _ | acpiTable _ | efiVariable _ _ | savedProfile _ => trivial

end NameArg

/-! ## Containment -/

/--
A name its check refuses leads to no path at all.  Of an accepted name everything the
code opens, writes or unlinks lies in the directory of its domain, under the name as
one component and a fixed suffix, exactly when a block device or an interface is not
called `.`, a PCI address or a BIOS setting is neither `.` nor `..`, and the name of
a profile to load or delete has no slash.
-/
theorem names_contained_iff (env : Env) (arg : NameArg) :
    (arg.accepted = false → arg.StaysWithin env fun _ => False) ∧
      (arg.accepted = true → (arg.StaysWithin env (arg.Inside env) ↔ arg.Plain)) := by
  refine ⟨fun refused => NameArg.refused_staysWithin refused env, fun isAccepted =>
    ⟨NameArg.plain_of_staysWithin isAccepted, fun plain => ?_⟩⟩
  cases arg with
  | blockDevice name => exact NameArg.blockDevice_staysWithin env isAccepted plain
  | netInterface name => exact NameArg.netInterface_staysWithin env isAccepted plain
  | pciAddress name => exact NameArg.pciAddress_staysWithin env isAccepted plain
  | usbDevice name => exact NameArg.usbDevice_staysWithin env isAccepted
  | biosSetting name => exact NameArg.biosSetting_staysWithin env isAccepted plain
  | acpiTable name => exact NameArg.acpiTable_staysWithin env isAccepted
  | efiVariable name guid => exact NameArg.efiVariable_staysWithin env isAccepted
  | savedProfile name => exact NameArg.savedProfile_staysWithin env isAccepted
  | loadedProfile name => exact NameArg.loadedProfile_staysWithin env plain
  | deletedProfile name => exact NameArg.deletedProfile_staysWithin env plain

theorem names_contained_sda :
    (NameArg.blockDevice "sda").accepted = true ∧
      (NameArg.blockDevice "sda").StaysWithin (smallEnv 0) ((NameArg.blockDevice "sda").Inside
        (smallEnv 0)) := by
  have accepted : (NameArg.blockDevice "sda").accepted = true := by decide
  have plain : "sda".toList ≠ ".".toList := by decide
  exact ⟨accepted, ((names_contained_iff (smallEnv 0) (.blockDevice "sda")).2 accepted).mpr plain⟩

/--
The address `..` is accepted, and the setter of the handle opened for it writes to a file
above the directory of the devices.
-/
theorem pciAddress_escapes :
    (NameArg.pciAddress "..").accepted = true ∧
      (Query.pcieOpen "..").Delivers ⟨".."⟩ ∧
      (zenctlPcieSetPowerControl ⟨".."⟩ "on" (loggingOs twoRoles none fun _ _ => .done) []
        freshProc).2.1 = [⟨"/sys/bus/pci/devices/../power/control", "on", .done⟩] ∧
      ∀ env, ¬ (NameArg.pciAddress "..").StaysWithin env ((NameArg.pciAddress "..").Inside env) := by
  refine ⟨by decide, ⟨Unit, { bareOs with access := fun _ _ _ => .ok () }, (), freshProc, ?_⟩, ?_,
    NameArg.pciAddress_leaves⟩
  · decide
  · decide

end Zenctl
