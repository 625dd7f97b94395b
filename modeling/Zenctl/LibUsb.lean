import Zenctl.LibGpu

namespace Zenctl

open CString

/-!
# `usb.c`, `rfkill.c` and `bt.c`
-/

variable {σ : Type}

/-! ## Helpers -/

/-- The text of `zenctl_util_path_join`. -/
def joinPath (dir name : CStr) : CStr :=
  if dir ≠ [] ∧ dir.getLast? ≠ some '/' then dir ++ '/' :: name else dir ++ name

theorem joinPath_eq
    {dir : CStr} (nonempty : dir ≠ []) (unclosed : dir.getLast? ≠ some '/') (name : CStr) :
    joinPath dir name = dir ++ '/' :: name :=
  if_pos ⟨nonempty, unclosed⟩

theorem joinPath_getLast
    {dir name : CStr} (nonempty : name ≠ []) :
    (joinPath dir name).getLast? = name.getLast? := by
  unfold joinPath
  split
  · rw [List.getLast?_append_of_ne_nil _ (List.cons_ne_nil _ _), List.getLast?_cons_of_ne_nil nonempty]
  · rw [List.getLast?_append_of_ne_nil _ nonempty]

/-- The copies of a directory's names: one allocation for each, and room for them. -/
def copyNames (message dir : CStr) (capacity : Nat) (copied : List CStr) :
    List CStr → GetM σ (List CStr)
  | [] => pure copied
  | name :: rest =>
      if name = ".".toList ∨ name = "..".toList then copyNames message dir capacity copied rest
      else do
        allocateOr message dir
        if capacity ≤ copied.length + 1 then do
          allocateOr message dir
          copyNames message dir (capacity * 2) (copied ++ [name]) rest
        else copyNames message dir capacity (copied ++ [name]) rest

/-- `zenctl_util_list_dir`. -/
def utilListDir (dir : CStr) : GetM σ (List CStr) := do
  let names ← sysCallOr (fun os sys => os.listDir sys dir) none dir
  allocateOr "out of memory" dir
  copyNames "out of memory" dir 16 [] names

/-- The entries that pass a filter, moved to an array that doubles. -/
def stealNames (keep : CStr → Bool) (caller : CStr) (capacity : Nat) (kept : List CStr) :
    List CStr → GetM σ (List CStr)
  | [] => pure kept
  | name :: rest =>
      if keep name then do
        if capacity ≤ kept.length + 1 then do
          allocateOr "out of memory" caller
          stealNames keep caller (capacity * 2) (kept ++ [name]) rest
        else stealNames keep caller capacity (kept ++ [name]) rest
      else stealNames keep caller capacity kept rest

/-- `zenctl_usb_enumerate`, `zenctl_bt_enumerate` and `zenctl_wireless_enumerate`. -/
def enumerateSorted (dir : CStr) (keep : CStr → Bool) (caller : CStr) : GetM σ (List CStr) := do
  let entries ← utilListDir dir
  allocateOr "out of memory" caller
  let kept ← stealNames keep caller 8 [] entries
  pure (kept.insertionSort fun a b => strcmpLe a b)

/-! ## `rfkill` -/

def rfkillBase : CStr := "/sys/class/rfkill"

/-- The number of an `rfkill<N>` entry; a bare `rfkill` counts as zero. -/
def rfkillNumber (entry : CStr) : Option Int :=
  if startsWith "rfkill" entry then
    match strtoll (entry.drop 6) with
    | some parsed => if parsed.rest = [] ∧ 0 ≤ parsed.value then some parsed.value else none
    | none => if entry.drop 6 = [] then some 0 else none
  else none

/-- Does an attribute of an entry have the wanted text?  `none` wants nothing. -/
def rfkillMatches (base key : CStr) (size : Nat) : Option CStr → GetM σ Bool
  | none => pure true
  | some want => do
      if ← allocate then do
        let text ← quietly (readFileString (joinPath base key) size)
        pure (text = some want)
      else pure false

def rfkillScan (wantName wantType : Option CStr) : List CStr → GetM σ Int
  | [] => pure (-1)
  | entry :: rest =>
      match rfkillNumber entry with
      | none => rfkillScan wantName wantType rest
      | some number => do
          let base := bounded 256 (rfkillBase ++ '/' :: entry)
          if ← rfkillMatches base "type" 64 wantType then do
            if ← rfkillMatches base "name" 128 wantName then pure (toInt32 number)
            else rfkillScan wantName wantType rest
          else rfkillScan wantName wantType rest

def zenctlRfkillFind (wantName wantType : Option CStr) : GetM σ Int := do
  let names ← utilListDir rfkillBase
  let found ← rfkillScan wantName wantType names
  if found < 0 then
    raise Err.enoent "no matching rfkill device"
      (bounded 256 ("zenctl_rfkill_find(name=".toList ++ wantName.getD "*" ++
        " type=".toList ++ wantType.getD "*" ++ ")".toList))
  else pure found

def rfkillSoftPath (index : Int) : CStr :=
  bounded 128 (rfkillBase ++ "/rfkill".toList ++ showInt index ++ "/soft".toList)

def zenctlRfkillGetSoft (index : Int) : GetM σ Bool := do
  let text ← readFileString (rfkillSoftPath index) 16
  pure (atoi text ≠ 0)

def zenctlRfkillSetSoft (index : Int) (blocked : Bool) : SetM σ Unit :=
  writeSwitch (rfkillSoftPath index) blocked

/-! ## USB devices -/

def usbSysfsBase : CStr := "/sys/bus/usb/devices"

/-- `isalnum` in the C locale. -/
def isAlnum (c : Char) : Bool :=
  isAlpha c || isDigit c

def startsWithDigit (text : CStr) : Bool :=
  (text.head?.map isDigit).getD false

def devPathValid (path : CStr) : Bool :=
  path ≠ [] && path.all (fun c => isAlnum c || c = '-' || c = '.') &&
    (startsWithDigit path || (startsWith "usb" path && startsWithDigit (path.drop 3)))

/-- One of the two numbers; it stays as it was when the file cannot be read. -/
def readUsbNumber (dir key : CStr) (unset : Int) : GetM σ Int := do
  let text ← quietly (readFileString (joinPath dir key) 32)
  pure ((text.map atoi).getD unset)

/-- `read_bus_dev_nums`: it gives up where a path cannot be allocated. -/
def readBusDevNums (u : UsbHandle) : GetM σ UsbHandle := do
  if ← allocate then do
    let busnum ← readUsbNumber u.sysfsDir "busnum" u.busnum
    if ← allocate then do
      let devnum ← readUsbNumber u.sysfsDir "devnum" u.devnum
      pure { u with busnum := busnum, devnum := devnum }
    else pure { u with busnum := busnum }
  else pure u

def zenctlUsbOpen (dev : CStr) : GetM σ UsbHandle :=
  if devPathValid dev then do
    allocateOr "calloc failed" "zenctl_usb_open"
    allocateOr "strdup failed" "zenctl_usb_open"
    allocateOr "path join failed" "zenctl_usb_open"
    let dir := joinPath usbSysfsBase dev
    let _ ← sysCallOr (fun os sys => os.listDir sys dir) none dir
    readBusDevNums ⟨dev, dir, -1, -1⟩
  else
    raise Err.einval "invalid USB device path"
      (bounded 128 ("zenctl_usb_open(".toList ++ dev ++ ")".toList))

/-- The path of an attribute, allocated; the error names what the caller says. -/
def usbAttrPath (u : UsbHandle) (attr context : CStr) : GetM σ CStr := do
  allocateOr "path join failed" context
  pure (joinPath u.sysfsDir attr)

def readAttrStr (u : UsbHandle) (attr : CStr) : GetM σ CStr := do
  let path ← usbAttrPath u attr attr
  let text ← readFileString path 512
  allocateOr "strdup failed" attr
  pure text

/-- `(int)strtol(text, NULL, 16)`. -/
def parseHexInt (text : CStr) : Int :=
  match strtoIn (fun digits => (16, (skipHexMark digits).getD digits)) text with
  | some number =>
      toInt32 (clamp (if number.1 then -(number.2.1 : Int) else number.2.1) number.2.2).value
  | none => 0

def readAttrHex (u : UsbHandle) (attr : CStr) : GetM σ Int := do
  let path ← usbAttrPath u attr attr
  let text ← readFileString path 32
  pure (parseHexInt text)

def writeAttrStr (u : UsbHandle) (attr value : CStr) : SetM σ Unit := do
  let path ← getting (usbAttrPath u attr attr)
  writeFileString path value

def zenctlUsbGetVendorId (u : UsbHandle) : GetM σ Int := readAttrHex u "idVendor"
def zenctlUsbGetProductId (u : UsbHandle) : GetM σ Int := readAttrHex u "idProduct"
def zenctlUsbGetManufacturer (u : UsbHandle) : GetM σ CStr := readAttrStr u "manufacturer"
def zenctlUsbGetProduct (u : UsbHandle) : GetM σ CStr := readAttrStr u "product"
def zenctlUsbGetSpeed (u : UsbHandle) : GetM σ CStr := readAttrStr u "speed"
def zenctlUsbGetPowerControl (u : UsbHandle) : GetM σ CStr := readAttrStr u "power/control"
def zenctlUsbGetRuntimeStatus (u : UsbHandle) : GetM σ CStr :=
  readAttrStr u "power/runtime_status"

def zenctlUsbSetPowerControl (u : UsbHandle) (mode : CStr) : SetM σ Unit :=
  if mode ≠ "on".toList ∧ mode ≠ "auto".toList then
    getting (raise Err.einval "mode must be 'on' or 'auto'" "zenctl_usb_set_power_control")
  else writeAttrStr u "power/control" mode

/-- The text of an attribute read into a small buffer. -/
def readAttrText (u : UsbHandle) (attr context : CStr) (size : Nat) : GetM σ CStr := do
  let path ← usbAttrPath u attr context
  readFileString path size

def zenctlUsbGetAutosuspendDelay (u : UsbHandle) : GetM σ Int := do
  let text ← readAttrText u "power/autosuspend_delay_ms" "autosuspend_delay_ms" 32
  pure (atoi text)

def zenctlUsbSetAutosuspendDelay (u : UsbHandle) (ms : Int) : SetM σ Unit :=
  writeAttrStr u "power/autosuspend_delay_ms" (showInt ms)

def zenctlUsbGetAuthorized (u : UsbHandle) : GetM σ Bool := do
  let text ← readAttrText u "authorized" "authorized" 16
  pure (atoi text ≠ 0)

def zenctlUsbSetAuthorized (u : UsbHandle) (on : Bool) : SetM σ Unit :=
  writeAttrStr u "authorized" (if on then "1" else "0")

def zenctlUsbGetWakeup (u : UsbHandle) : GetM σ Bool := do
  let text ← readAttrText u "power/wakeup" "wakeup" 32
  pure (text = "enabled".toList)

def zenctlUsbSetWakeup (u : UsbHandle) (on : Bool) : SetM σ Unit :=
  writeAttrStr u "power/wakeup" (if on then "enabled" else "disabled")

/-- `%03d`. -/
def pad3 (n : Int) : CStr :=
  List.replicate (3 - (showInt n).length) '0' ++ showInt n

def zenctlUsbReset (u : UsbHandle) : SetM σ Unit := do
  let found ← getting (if u.busnum < 0 ∨ u.devnum < 0 then readBusDevNums u else pure u)
  if found.busnum < 0 ∨ found.devnum < 0 then
    getting (raise Err.enoent "busnum/devnum not available for device"
      (bounded 128 ("zenctl_usb_reset(".toList ++ u.devPath ++ ")".toList)))
  else do
    let node := bounded 128 ("/dev/bus/usb/".toList ++ pad3 found.busnum ++
      '/' :: pad3 found.devnum)
    getting (sysCallOr (fun os sys => os.openNode sys node) none node)
    match ← sysSet (fun os sys => os.resetNode sys node) with
    | some _ => pure ()
    | none => getting (raiseErrno none "USBDEVFS_RESET")

/-- The loop over a numeric entry: separators only between digits. -/
def usbSegments (lastWasSep : Bool) : CStr → Bool
  | [] => !lastWasSep
  | c :: rest =>
      if isDigit c then usbSegments false rest
      else if c = '-' ∨ c = '.' then !lastWasSep && usbSegments true rest
      else false

def isUsbDeviceEntry (name : CStr) : Bool :=
  if name = [] ∨ ':' ∈ name then false
  else if startsWith "usb" name && startsWithDigit (name.drop 3) then (name.drop 4).all isDigit
  else if startsWithDigit name then usbSegments false name
  else false

def zenctlUsbEnumerate : GetM σ (List CStr) :=
  enumerateSorted usbSysfsBase isUsbDeviceEntry "zenctl_usb_enumerate"

/-! ## Bluetooth adapters -/

def btSysfsBase : CStr := "/sys/class/bluetooth"

/-- The opening of a Bluetooth adapter or a wireless phy: a name with a number. -/
def openNumbered (base start name invalid caller : CStr) : GetM σ (CStr × Int) :=
  if isNumbered start name then do
    allocateOr "calloc failed" caller
    allocateOr "strdup failed" caller
    allocateOr "path join failed" caller
    let dir := joinPath base name
    let _ ← sysCallOr (fun os sys => os.listDir sys dir) none dir
    pure (dir, atoi (name.drop 3))
  else raise Err.einval invalid (bounded 128 (caller ++ '(' :: (name ++ ")".toList)))

def zenctlBtOpen (adapter : CStr) : GetM σ BtHandle := do
  let (dir, index) ← openNumbered btSysfsBase "hci" adapter "adapter must be 'hci<N>'"
    "zenctl_bt_open"
  pure ⟨adapter, dir, index⟩

def zenctlBtGetRfkillBlocked (bt : BtHandle) : GetM σ Bool := do
  let index ← zenctlRfkillFind (some bt.adapter) (some "bluetooth".toList)
  zenctlRfkillGetSoft index

def zenctlBtSetRfkillBlocked (bt : BtHandle) (blocked : Bool) : SetM σ Unit := do
  let index ← getting (zenctlRfkillFind (some bt.adapter) (some "bluetooth".toList))
  zenctlRfkillSetSoft index blocked

/-- `bt_mgmt_get_powered`, on an open socket. -/
def btMgmtGetPowered (index : Int) : GetM σ (Option Bool) :=
  if index < 0 ∨ 65535 < index then do
    setErrno Errno.einval.1
    pure none
  else do
    let info ← sysCall (fun os sys => os.hciInfo sys index.toNat)
    pure (info.map HciInfo.up)

/-- `bt_mgmt_set_powered`, on an open socket; being there already is success. -/
def btMgmtSetPowered (index : Int) (on : Bool) : SetM σ Bool :=
  if index < 0 ∨ 65535 < index then
    getting do
      setErrno Errno.einval.1
      pure false
  else do
    match ← sysSet (fun os sys => os.hciPower sys index.toNat on) with
    | some _ => pure true
    | none =>
        getting do
          pure ((← getErrno) = Errno.ealready.1)

/-- Powered as `rfkill` sees it. -/
def btPoweredByRfkill (bt : BtHandle) : GetM σ Bool := do
  let blocked ← zenctlBtGetRfkillBlocked bt
  pure (!blocked)

def zenctlBtGetPowered (bt : BtHandle) : GetM σ Bool := do
  match ← sysCall (fun os sys => os.hciSocket sys) with
  | none => btPoweredByRfkill bt
  | some _ =>
      match ← btMgmtGetPowered bt.index with
      | some up => pure up
      | none => do
          let e ← getErrno
          if e ≠ Errno.eperm.1 ∧ e ≠ Errno.eacces.1 ∧ e ≠ Errno.enoent.1 ∧ e ≠ Errno.enodev.1 then
            raiseErrno none "bt_mgmt_get_powered"
          else btPoweredByRfkill bt

def zenctlBtSetPowered (bt : BtHandle) (on : Bool) : SetM σ Unit := do
  match ← getting (sysCall (fun os sys => os.hciSocket sys)) with
  | none => zenctlBtSetRfkillBlocked bt !on
  | some _ => do
      if ← btMgmtSetPowered bt.index on then pure ()
      else do
        let e ← getting getErrno
        if e ≠ Errno.eperm.1 ∧ e ≠ Errno.eacces.1 then
          getting (raiseErrno none "bt_mgmt_set_powered")
        else zenctlBtSetRfkillBlocked bt !on

/-- `%02x`. -/
def hex2 (n : Nat) : CStr :=
  [hexDigit (n / 16 % 16), hexDigit (n % 16)]
where
  hexDigit (d : Nat) : Char :=
    if d < 10 then Char.ofNat ('0'.toNat + d) else Char.ofNat ('a'.toNat + (d - 10))

/-- The code of a socket error; a kernel without Bluetooth is reported as such. -/
def hciSocketCode (e : Int) : Int :=
  if e = Errno.eafnosupport.1 ∨ e = Errno.eprotonosupport.1 ∨ e = Errno.einval.1 then Err.enotsup
  else errnoToCode e

/-- The index is cut to the 16 bits of a device number. -/
def zenctlBtGetAddress (bt : BtHandle) : GetM σ CStr :=
  if bt.index < 0 then raise Err.einval "adapter index unknown" "zenctl_bt_get_address"
  else do
    match ← sysCall (fun os sys => os.hciSocket sys) with
    | none => do
        let e ← getErrno
        let text ← strerror e
        raise (hciSocketCode e) text "socket(AF_BLUETOOTH, BTPROTO_HCI)"
    | some _ => do
        let info ← sysCallOr (fun os sys => os.hciInfo sys (bt.index.toNat % 65536)) none
          "HCIGETDEVINFO"
        if info.address.all (· = 0) then
          raise Err.enotsup "adapter has no BD_ADDR (power it on first)"
            (bounded 128 ("zenctl_bt_get_address(".toList ++ bt.adapter ++ ")".toList))
        else do
          allocateOr "malloc failed" "zenctl_bt_get_address"
          pure (List.intercalate [':'] (info.address.reverse.map hex2))

def zenctlBtEnumerate : GetM σ (List CStr) :=
  enumerateSorted btSysfsBase (isNumbered "hci") "zenctl_bt_enumerate"

end Zenctl
