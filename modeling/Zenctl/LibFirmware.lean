import Zenctl.LibWireless

namespace Zenctl

open CString

/-!
# `firmware.c`
-/

variable {σ : Type}

/-! ## Helpers -/

/-- The codes of `set_err_from_errno`, which differ from those of `io.c`. -/
def firmwareCode (e : Int) : Int :=
  if e = 0 then Err.ok
  else if e = Errno.eperm.1 ∨ e = Errno.eacces.1 then Err.eperm
  else if e = Errno.enoent.1 then Err.enoent
  else if e = Errno.einval.1 then Err.einval
  else if e = Errno.erange.1 ∨ e = Errno.eoverflow.1 then Err.erange
  else if e = Errno.enomem.1 then Err.nomem
  else if e = Errno.enotsup.1 then Err.enotsup
  else Err.eio

/-- `set_err_from_errno` and return. -/
def raiseFirmware {α : Type} (e : Errno) (context : CStr) : GetM σ α := do
  setErrno e.1
  let text ← strerror e.1
  raise (firmwareCode e.1) text context

/-- `read_text`. -/
def readText (path : CStr) : GetM σ CStr := do
  let text ← readFileString path 8192
  allocateOr "strdup failed" path
  pure text

/-- `write_binary`, on the path as it is. -/
def writeBinaryFile (path : CStr) (data : List Char) : SetM σ Unit := do
  match ← answer with
  | .done => pure ()
  | .openFailed e | .writeFailed e | .closeFailed e => getting (raiseFirmware e path)
where
  answer : SetM σ Written :=
    fun os sys proc =>
      let written := os.writeBinary sys path data
      (.value written.1, written.2, proc)

/-- `list_dir`. -/
def firmwareListDir (dir : CStr) : GetM σ (List CStr) := do
  let names ← listed
  allocateOr "oom" dir
  copyNames "oom" dir 16 [] names
where
  listed : GetM σ (List CStr) :=
    fun os sys proc =>
      match os.listDir sys dir with
      | .ok names => (.value names, proc)
      | .error e => raiseFirmware e dir os sys proc

/-- `path_join` where a failure is reported. -/
def joinOr (dir name context : CStr) : GetM σ CStr := do
  allocateOr "oom" context
  pure (joinPath dir name)

/-- Several allocations in a row, up to the first that fails. -/
def allocateMany : Nat → GetM σ Bool
  | 0 => pure true
  | count + 1 => do
      if ← allocate then allocateMany count else pure false

def askIsDir (path : CStr) : GetM σ Bool :=
  fun os sys proc => (.value (os.isDir sys path), proc)

/-! ## DMI -/

def dmiAllowed : List CStr :=
  ["bios_vendor", "bios_version", "bios_date", "bios_release", "ec_firmware_release",
    "sys_vendor", "product_name", "product_version", "product_sku", "product_family",
    "product_uuid", "product_serial", "board_vendor", "board_name", "board_version",
    "board_serial", "board_asset_tag", "chassis_vendor", "chassis_type", "chassis_version",
    "chassis_serial", "chassis_asset_tag", "uevent"]

def zenctlFwDmiGet (field : CStr) : GetM σ CStr :=
  if field ∈ dmiAllowed then do
    let path ← joinOr "/sys/class/dmi/id" field "zenctl_fw_dmi_get"
    readText path
  else raise Err.einval "unknown DMI field" field

/-! ## EFI variables -/

def efivarsBase : CStr := "/sys/firmware/efi/efivars"

def efivarsMounted : GetM σ Unit :=
  fun os sys proc =>
    match os.isEfivarfs sys (resolvePath os.sysfsRoot efivarsBase) with
    | .error e => raiseFirmware e efivarsBase os sys proc
    | .ok true => (.value (), proc)
    | .ok false =>
        raise Err.enotsup "efivarfs not mounted at /sys/firmware/efi/efivars" "efivars_mounted"
          os sys proc

def efiNameValid (name : CStr) : Bool :=
  name ≠ [] && name.length ≤ 200 && name.all fun c => c ≠ '/' && c ≠ '-'

/-- The four positions of the dashes. -/
def isGuidDash (i : Nat) : Bool :=
  i = 8 || i = 13 || i = 18 || i = 23

/-- Dashes at their positions and hexadecimal digits elsewhere, from position `i` on. -/
def guidFrom (i : Nat) : CStr → Bool
  | [] => true
  | c :: rest => (if isGuidDash i then c = '-' else isHexDigit c) && guidFrom (i + 1) rest

def efiGuidValid (guid : CStr) : Bool :=
  guid.length = 36 && guidFrom 0 guid

def efiFilename (name guid : CStr) : CStr :=
  name ++ '-' :: guid

/-- `efi_parse_entry`, allocations apart. -/
def efiParseEntry (entry : CStr) : Option (CStr × CStr) :=
  if entry.length < 37 then none
  else if entry[entry.length - 37]? ≠ some '-' then none
  else if efiGuidValid (entry.drop (entry.length - 36)) then
    some (entry.take (entry.length - 37), entry.drop (entry.length - 36))
  else none

/-- The attribute word at the start of a variable file. -/
def efiAttributes (raw : List Char) : Nat :=
  match raw with
  | a :: b :: c :: d :: _ => a.toNat + 256 * b.toNat + 65536 * c.toNat + 16777216 * d.toNat
  | _ => 0

/-- The loop over the directory: what cannot be read or allocated is left out. -/
def collectEfiVars (capacity : Nat) (found : List EfiVar) : List CStr → GetM σ (List EfiVar)
  | [] => pure found
  | entry :: rest =>
      match efiParseEntry entry with
      | none => collectEfiVars capacity found rest
      | some (name, guid) => do
          -- the copies of the GUID and the name, and the joined path
          if ← allocateMany 3 then do
            match ← quietly (readFileBinary (joinPath efivarsBase entry)) with
            | none => collectEfiVars capacity found rest
            | some raw =>
                let var : EfiVar :=
                  ⟨bounded 256 name, bounded 37 guid, efiAttributes raw, raw.length - 4⟩
                if capacity ≤ found.length + 1 then do
                  if ← allocate then collectEfiVars (capacity * 2) (found ++ [var]) rest
                  else collectEfiVars capacity found rest
                else collectEfiVars capacity (found ++ [var]) rest
          else collectEfiVars capacity found rest

def zenctlFwEfiEnumerate : GetM σ (List EfiVar) := do
  efivarsMounted
  let entries ← firmwareListDir efivarsBase
  allocateOr "oom" "zenctl_fw_efi_enumerate"
  collectEfiVars 16 [] entries

/-- The path of a variable: the file name and the joined path are allocated. -/
def efiPath (name guid caller : CStr) : GetM σ CStr := do
  allocateOr "oom" caller
  joinOr efivarsBase (efiFilename name guid) caller

def zenctlFwEfiGet (name guid : CStr) : GetM σ (List Char) :=
  if efiNameValid name && efiGuidValid guid then do
    efivarsMounted
    let path ← efiPath name guid "zenctl_fw_efi_get"
    let raw ← readFileBinary path
    if raw.length < 4 then
      raise Err.eio "efivar file shorter than attribute prefix" "zenctl_fw_efi_get"
    else do
      allocateOr "oom" "zenctl_fw_efi_get"
      pure (raw.drop 4)
  else raise Err.einval "invalid name/guid/out" "zenctl_fw_efi_get"

/-- `fs_get_flags`: `none` when the file system has no flags. -/
def fsGetFlags (path : CStr) : GetM σ (Option Nat) :=
  fun os sys proc =>
    match os.getFlags sys path with
    | .done flags => (.value (some flags), proc)
    | .openFailed e => raiseFirmware e path os sys proc
    | .ioctlFailed e =>
        if e = Errno.enotty ∨ e = Errno.enosys ∨ e = Errno.einval then
          (.value none, { proc with errno := e.1 })
        else raiseFirmware e "FS_IOC_GETFLAGS" os sys proc

def fsSetFlags (path : CStr) (flags : Nat) : SetM σ Unit :=
  fun os sys proc =>
    let answer := os.setFlags sys path flags
    match answer.1 with
    | .done _ => (.value (), answer.2, proc)
    | .openFailed e => getting (raiseFirmware e path) os answer.2 proc
    | .ioctlFailed e => getting (raiseFirmware e "FS_IOC_SETFLAGS") os answer.2 proc

/-- `FS_IMMUTABLE_FL` is bit 4. -/
def isImmutable (flags : Nat) : Bool :=
  flags.testBit 4

/-- Clear the immutable flag if it is set; was it? -/
def efiMaybeClearImmutable (path : CStr) : SetM σ Bool := do
  match ← getting (fsGetFlags path) with
  | none => pure false
  | some flags =>
      if isImmutable flags then do
        fsSetFlags path (flags - 16)
        pure true
      else pure false

def efiMaybeRestoreImmutable (path : CStr) : SetM σ Unit := do
  match ← getting (fsGetFlags path) with
  | none => pure ()
  | some flags => if isImmutable flags then pure () else fsSetFlags path (flags + 16)

/-- The four bytes of the attribute word, least significant first. -/
def attributeBytes (attributes : Nat) : List Char :=
  [0, 8, 16, 24].map fun shift => Char.ofNat (attributes / 2 ^ shift % 256)

/-- Restore the flag without touching the error of the write, then return its result. -/
def restoreAfter (path : CStr) (wasCleared : Bool) (result : Option Unit) : SetM σ Unit := do
  if wasCleared then do
    let _ ← quietlySet (efiMaybeRestoreImmutable path)
    finish result
  else finish result
where
  finish : Option Unit → SetM σ Unit
    | some _ => pure ()
    | none => getting fail

def zenctlFwEfiSet (name guid : CStr) (attributes : Nat) (data : List Char) : SetM σ Unit :=
  if efiNameValid name && efiGuidValid guid then do
    getting efivarsMounted
    let path ← getting (efiPath name guid "zenctl_fw_efi_set")
    getting (allocateOr "oom" "zenctl_fw_efi_set")
    let wasCleared ← efiMaybeClearImmutable path
    let result ← attemptSet (writeBinaryFile path (attributeBytes attributes ++ data))
    restoreAfter path wasCleared result
  else getting (raise Err.einval "invalid name/guid" "zenctl_fw_efi_set")

/-- Write the zero attributes, and unlink a file that is still there. -/
def eraseVariable (path : CStr) : SetM σ Unit := do
  writeBinaryFile path (attributeBytes 0)
  if ← getting (askIsFile path) then unlinkVariable else pure ()
where
  askIsFile (path : CStr) : GetM σ Bool :=
    fun os sys proc => (.value (os.isFile sys path), proc)
  unlinkVariable : SetM σ Unit :=
    fun os sys proc =>
      let answer := os.unlink sys path
      match answer.1 with
      | .ok _ => (.value (), answer.2, proc)
      | .error e => getting (raiseFirmware e "unlink efivar") os answer.2 proc

def zenctlFwEfiDelete (name guid : CStr) : SetM σ Unit :=
  if efiNameValid name && efiGuidValid guid then do
    getting efivarsMounted
    let path ← getting (efiPath name guid "zenctl_fw_efi_delete")
    let wasCleared ← efiMaybeClearImmutable path
    match ← attemptSet (eraseVariable path) with
    | some _ => pure ()
    | none => restoreAfter path wasCleared none
  else getting (raise Err.einval "invalid name/guid" "zenctl_fw_efi_delete")

/-! ## ACPI tables -/

def acpiTablesBase : CStr := "/sys/firmware/acpi/tables"

/-- Move the entries that pass a check to an array that doubles. -/
def collectEntries (check : CStr → GetM σ Bool) (caller : CStr) (capacity : Nat)
    (kept : List CStr) : List CStr → GetM σ (List CStr)
  | [] => pure kept
  | entry :: rest => do
      if ← check entry then do
        if capacity ≤ kept.length + 1 then do
          allocateOr "oom" caller
          collectEntries check caller (capacity * 2) (kept ++ [entry]) rest
        else collectEntries check caller capacity (kept ++ [entry]) rest
      else collectEntries check caller capacity kept rest

/-- Everything in the directory but its subdirectories. -/
def isAcpiTable (entry : CStr) : GetM σ Bool := do
  if ← allocate then do
    let dir ← askIsDir (joinPath acpiTablesBase entry)
    pure (!dir)
  else pure false

def zenctlFwAcpiListTables : GetM σ (List CStr) := do
  let entries ← firmwareListDir acpiTablesBase
  allocateOr "oom" "zenctl_fw_acpi_list_tables"
  let kept ← collectEntries isAcpiTable "zenctl_fw_acpi_list_tables" 8 [] entries
  pure (kept.insertionSort fun a b => strcmpLe a b)

def zenctlFwAcpiGetTable (name : CStr) : GetM σ (List Char) :=
  if name = [] then raise Err.einval "NULL argument" "zenctl_fw_acpi_get_table"
  else if name.all isAlnum then do
    let path ← joinOr acpiTablesBase name "zenctl_fw_acpi_get_table"
    readFileBinary path
  else raise Err.einval "invalid ACPI table name" name

/-! ## BIOS settings -/

def fwattrBase : CStr := "/sys/class/firmware-attributes"

/-- The first directory; `none` also when its name cannot be copied. -/
def firstVendor : List CStr → GetM σ (Option CStr)
  | [] => pure none
  | entry :: rest => do
      if ← allocate then do
        if ← askIsDir (joinPath fwattrBase entry) then do
          if ← allocate then pure (some entry) else pure none
        else firstVendor rest
      else firstVendor rest

def fwattrFindVendor : GetM σ CStr := do
  let entries ← firmwareListDir fwattrBase
  match ← firstVendor entries with
  | some vendor => pure vendor
  | none =>
      raise Err.enotsup "no /sys/class/firmware-attributes/<vendor>/ registered"
        "fwattr_find_vendor"

def vendorPath (vendor part : CStr) : CStr :=
  joinPath (joinPath fwattrBase vendor) part

/-- A directory with a `type` file in it. -/
def isSetting (vendor entry : CStr) : GetM σ Bool := do
  let path := joinPath (vendorPath vendor "attributes") entry
  if ← allocateMany 3 then do
    if ← askIsDir path then do
      if ← allocateMany 4 then do
        let found ← sysCall (fun os sys => os.access sys (joinPath path "type") .present)
        pure found.isSome
      else pure false
    else pure false
  else pure false

def fwattrListSettings (vendor : CStr) : GetM σ (List CStr) := do
  allocateOr "oom" "fwattr_list_settings"
  allocateOr "oom" "fwattr_list_settings"
  let entries ← firmwareListDir (vendorPath vendor "attributes")
  allocateOr "oom" "fwattr_list_settings"
  let kept ← collectEntries (isSetting vendor) "fwattr_list_settings" 8 [] entries
  pure (kept.insertionSort fun a b => strcmpLe a b)

def zenctlFwBiosSettingCount : GetM σ Int := do
  let vendor ← fwattrFindVendor
  let list ← fwattrListSettings vendor
  pure list.length

/-- One text field of a setting, empty when it cannot be read. -/
def readSettingField (dir field : CStr) (size : Nat) : GetM σ CStr := do
  if ← allocate then do
    let text ← quietly (readText (joinPath dir field))
    pure (bounded size (text.getD []))
  else pure []

def zenctlFwBiosGetSetting (index : Int) : GetM σ BiosSetting :=
  if index < 0 then raise Err.einval "invalid index/out" "zenctl_fw_bios_get_setting"
  else do
    let vendor ← fwattrFindVendor
    let list ← fwattrListSettings vendor
    if (list.length : Int) ≤ index then
      raise Err.erange "BIOS setting index out of range" "zenctl_fw_bios_get_setting"
    else do
      let name := (list[index.toNat]?).getD []
      allocateOr "oom" "zenctl_fw_bios_get_setting"
      allocateOr "oom" "zenctl_fw_bios_get_setting"
      allocateOr "oom" "zenctl_fw_bios_get_setting"
      let dir := joinPath (vendorPath vendor "attributes") name
      let type ← readSettingField dir "type" 32
      let currentValue ← readSettingField dir "current_value" 256
      let defaultValue ← readSettingField dir "default_value" 256
      let displayName ← readSettingField dir "display_name" 256
      pure ⟨bounded 128 name, type, currentValue, defaultValue, displayName⟩

/-- The password file of a role, when the role is a directory. -/
def passwordPath (authDir role : CStr) : GetM σ (Option CStr) := do
  if ← allocate then do
    if ← askIsDir (joinPath authDir role) then do
      if ← allocate then pure (some (joinPath (joinPath authDir role) "current_password"))
      else pure none
    else pure none
  else pure none

/-- Give the password to the first role that takes it. -/
def unlockRoles (authDir password : CStr) : List CStr → SetM σ Unit
  | [] => pure ()
  | role :: rest => do
      match ← getting (passwordPath authDir role) with
      | none => unlockRoles authDir password rest
      | some path => do
          match ← quietlySet (writeFileString path password) with
          | some _ => pure ()
          | none => unlockRoles authDir password rest

/-- Write an empty password to every role. -/
def clearRoles (authDir : CStr) : List CStr → SetM σ Unit
  | [] => pure ()
  | role :: rest => do
      match ← getting (passwordPath authDir role) with
      | none => clearRoles authDir rest
      | some path => do
          let _ ← quietlySet (writeFileString path [])
          clearRoles authDir rest

def unlockBios (vendor password : CStr) : SetM σ Unit := do
  getting (allocateOr "oom" "fwattr_set")
  getting (allocateOr "oom" "fwattr_set")
  let authDir := vendorPath vendor "authentication"
  match ← getting (quietly (firmwareListDir authDir)) with
  | some roles => unlockRoles authDir password roles
  | none => pure ()

/-- After a successful write the vendor is looked up again and its roles are cleared. -/
def clearPasswords : SetM σ Unit := do
  match ← getting (quietly fwattrFindVendor) with
  | none => pure ()
  | some vendor => do
      if ← getting (allocateMany 2) then do
        let authDir := vendorPath vendor "authentication"
        match ← getting (quietly (firmwareListDir authDir)) with
        | some roles => clearRoles authDir roles
        | none => pure ()
      else pure ()

/-- `attributes/<name>/current_value` of the vendor. -/
def settingValuePath (vendor name : CStr) : CStr :=
  joinPath (joinPath (vendorPath vendor "attributes") name) "current_value"

/-- The four joins of that path, each of which can fail. -/
def settingValuePathOr (vendor name : CStr) : GetM σ CStr := do
  allocateOr "oom" "fwattr_set"
  allocateOr "oom" "fwattr_set"
  allocateOr "oom" "fwattr_set"
  allocateOr "oom" "fwattr_set"
  pure (settingValuePath vendor name)

def zenctlFwBiosSetSetting (name value : CStr) (password : Option CStr) : SetM σ Unit :=
  if name = [] then getting (raise Err.einval "NULL argument" "zenctl_fw_bios_set_setting")
  else if '/' ∈ name then getting (raise Err.einval "invalid setting name" name)
  else do
    let vendor ← getting fwattrFindVendor
    let secret := password.getD []
    if secret = [] then do
      let path ← getting (settingValuePathOr vendor name)
      writeFileString path value
    else do
      unlockBios vendor secret
      let path ← getting (settingValuePathOr vendor name)
      writeFileString path value
      clearPasswords

end Zenctl
