import Zenctl.LibStorage

namespace Zenctl

open CString

/-!
# `net.c` and `pcie.c`
-/

variable {σ : Type}

/-! ## Interfaces -/

def netValidateIface (iface : CStr) : GetM σ Unit :=
  if iface = [] then raise Err.einval "interface name is required" "zenctl_net_open"
  else if 16 ≤ iface.length then raise Err.einval "interface name too long" "zenctl_net_open"
  else if storageBadName iface then
    raise Err.einval "interface name has invalid characters" "zenctl_net_open"
  else pure ()

def netSysfsPath (net : NetHandle) (suffix : CStr) : CStr :=
  bounded 512 ("/sys/class/net/".toList ++ net.iface ++ suffix)

/-- Without the socket the handle is still good for the sysfs attributes. -/
def zenctlNetOpen (iface : CStr) : GetM σ NetHandle := do
  netValidateIface iface
  let path := bounded 512 ("/sys/class/net/".toList ++ iface)
  sysCallOr (fun os sys => os.access sys path .present)
    (some "interface not found".toList) path
  allocateOr "calloc failed" "zenctl_net_open"
  match ← sysCall (fun os sys => os.inetSocket sys) with
  | some _ => pure ⟨bounded 16 iface, true⟩
  | none => do
      let e ← getErrno
      let text ← strerror e
      setErr (if e = Errno.eacces.1 then Err.eperm else Err.eio) text
        "socket(AF_INET, SOCK_DGRAM)"
      pure ⟨bounded 16 iface, false⟩

/-! ## `ethtool` -/

/-- The code an `ethtool` error is reported with. -/
def ethtoolCode (e : Int) : Int :=
  if e = Errno.enotsup.1 ∨ e = Errno.enosys.1 then Err.enotsup
  else if e = Errno.enoent.1 then Err.enoent
  else if e = Errno.eacces.1 then Err.eperm
  else if e = Errno.einval.1 then Err.einval
  else Err.eio

def ethtoolFailed {α : Type} : GetM σ α := do
  let e ← getErrno
  let text ← strerror e
  raise (ethtoolCode e) text "SIOCETHTOOL"

/-- `net_ethtool_ioctl` for a command that reads. -/
def netEthtoolGet {α : Type} (net : NetHandle) (call : Os σ → σ → Except Errno α) : GetM σ α :=
  if net.hasSocket then do
    match ← sysCall call with
    | some result => pure result
    | none => ethtoolFailed
  else raise Err.eio "socket not open" "zenctl_net_ethtool_ioctl"

/-- `net_ethtool_ioctl` for a command that writes. -/
def netEthtoolSet (net : NetHandle) (call : Os σ → σ → Except Errno Unit × σ) : SetM σ Unit :=
  if net.hasSocket then do
    match ← sysSet call with
    | some _ => pure ()
    | none => getting ethtoolFailed
  else getting (raise Err.eio "socket not open" "zenctl_net_ethtool_ioctl")

def netGetRingparams (net : NetHandle) : GetM σ RingParams :=
  netEthtoolGet net fun os sys => os.getRing sys net.iface

/-- One of the ring parameters, cast to an `int`. -/
def getRing (net : NetHandle) (field : RingParams → Nat) : GetM σ Int := do
  let rp ← netGetRingparams net
  pure (toInt32 (field rp))

def zenctlNetGetRingRx (net : NetHandle) : GetM σ Int := getRing net RingParams.rxPending
def zenctlNetGetRingRxMax (net : NetHandle) : GetM σ Int := getRing net RingParams.rxMaxPending
def zenctlNetGetRingTx (net : NetHandle) : GetM σ Int := getRing net RingParams.txPending
def zenctlNetGetRingTxMax (net : NetHandle) : GetM σ Int := getRing net RingParams.txMaxPending

/-- Read the parameters, change one of them and write them all back. -/
def setRing (net : NetHandle) (size : Int) (change : RingParams → RingParams) (caller : CStr) :
    SetM σ Unit :=
  if size < 0 then getting (raise Err.einval "size must be >= 0" caller)
  else do
    let rp ← getting (netGetRingparams net)
    netEthtoolSet net fun os sys => os.setRing sys net.iface (change rp)

def zenctlNetSetRingRx (net : NetHandle) (size : Int) : SetM σ Unit :=
  setRing net size (fun rp => { rp with rxPending := size.toNat }) "zenctl_net_set_ring_rx"

def zenctlNetSetRingTx (net : NetHandle) (size : Int) : SetM σ Unit :=
  setRing net size (fun rp => { rp with txPending := size.toNat }) "zenctl_net_set_ring_tx"

/-- `zenctl_net_get_offload_*`. -/
def zenctlNetGetOffload (net : NetHandle) (flag : Offload) : GetM σ Bool := do
  let data ← netEthtoolGet net fun os sys => os.getFlag sys net.iface flag
  pure (data ≠ 0)

/-- `zenctl_net_set_offload_*`. -/
def zenctlNetSetOffload (net : NetHandle) (flag : Offload) (on : Bool) : SetM σ Unit :=
  netEthtoolSet net fun os sys => os.setFlag sys net.iface flag (if on then 1 else 0)

/-! ## Link attributes -/

/-- An integer attribute that must lie between two bounds. -/
def readRanged (path : CStr) (low high : Int) (message : CStr) : GetM σ Int := do
  let v ← readFileI64 path
  if v < low ∨ high < v then raise Err.erange message path else pure v

def intMin : Int := -2147483648

/-- An attribute that is true when it is not zero. -/
def readNonzero (path : CStr) : GetM σ Bool := do
  let v ← readFileI64 path
  pure (v ≠ 0)

def zenctlNetGetSpeed (net : NetHandle) : GetM σ Int :=
  readRanged (netSysfsPath net "/speed") intMin intMax "speed out of range"

def zenctlNetGetDuplex (net : NetHandle) : GetM σ CStr :=
  readCopy (netSysfsPath net "/duplex") 64

def zenctlNetGetLink (net : NetHandle) : GetM σ Bool :=
  readNonzero (netSysfsPath net "/carrier")

def zenctlNetGetMtu (net : NetHandle) : GetM σ Int :=
  readRanged (netSysfsPath net "/mtu") 0 intMax "mtu out of range"

def zenctlNetSetMtu (net : NetHandle) (mtu : Int) : SetM σ Unit :=
  if mtu < 0 then getting (raise Err.einval "mtu must be >= 0" "zenctl_net_set_mtu")
  else writeFileI64 (netSysfsPath net "/mtu") mtu

def zenctlNetGetIrq (net : NetHandle) : GetM σ Int :=
  readRanged (netSysfsPath net "/device/irq") 0 intMax "irq out of range"

def netIrqPath (net : NetHandle) (suffix : CStr) : GetM σ CStr := do
  let v ← readRanged (netSysfsPath net "/device/irq") 0 intMax "irq out of range"
  pure (bounded 512 ("/proc/irq/".toList ++ showInt v ++ suffix))

def zenctlNetGetIrqAffinity (net : NetHandle) : GetM σ CStr := do
  let path ← netIrqPath net "/smp_affinity"
  readCopy path 256

def zenctlNetSetIrqAffinity (net : NetHandle) (mask : CStr) : SetM σ Unit :=
  if mask = [] then
    getting (raise Err.einval "NULL net or cpumask" "zenctl_net_set_irq_affinity")
  else if '\n' ∈ mask ∨ 256 ≤ mask.length then
    getting (raise Err.einval "cpumask too long or contains newline"
      "zenctl_net_set_irq_affinity")
  else do
    let path ← getting (netIrqPath net "/smp_affinity")
    writeFileString path mask

/-! ## PCI devices -/

/-- The characters a PCI address may have: dots are among them. -/
def isPciChar (c : Char) : Bool :=
  isHexDigit c || c = ':' || c = '.'

def pcieValidateAddr (addr : CStr) : GetM σ Unit :=
  if addr = [] then raise Err.einval "PCI address is required" "zenctl_pcie_open"
  else if 32 ≤ addr.length then raise Err.einval "PCI address too long" "zenctl_pcie_open"
  else if addr.all isPciChar then pure ()
  else raise Err.einval "PCI address has invalid characters" "zenctl_pcie_open"

def pcieDevPath (p : PcieHandle) (suffix : CStr) : CStr :=
  bounded 512 ("/sys/bus/pci/devices/".toList ++ p.pciAddr ++ suffix)

def zenctlPcieOpen (addr : CStr) : GetM σ PcieHandle := do
  pcieValidateAddr addr
  let path := bounded 512 ("/sys/bus/pci/devices/".toList ++ addr)
  sysCallOr (fun os sys => os.access sys path .present)
    (some "PCI device not found".toList) path
  allocateOr "calloc failed" "zenctl_pcie_open"
  pure ⟨bounded 32 addr⟩

/-- `pcie_read_hex_i64`: the base is taken from the text. -/
def pcieReadHexI64 (path : CStr) : GetM σ Int := do
  let text ← readFileString path 64
  setErrno 0
  match strtollAuto text with
  | some parsed =>
      if parsed.outOfRange then do
        setErrno Errno.erange.1
        raise Err.einval "not a hex integer" path
      else pure parsed.value
  | none => raise Err.einval "not a hex integer" path

def zenctlPcieGetLinkSpeed (p : PcieHandle) : GetM σ CStr :=
  readCopy (pcieDevPath p "/current_link_speed") 64

def zenctlPcieGetLinkWidth (p : PcieHandle) : GetM σ Int :=
  readRanged (pcieDevPath p "/current_link_width") 0 intMax "link width out of range"

def zenctlPcieGetMaxLinkSpeed (p : PcieHandle) : GetM σ CStr :=
  readCopy (pcieDevPath p "/max_link_speed") 64

def zenctlPcieGetMaxLinkWidth (p : PcieHandle) : GetM σ Int :=
  readRanged (pcieDevPath p "/max_link_width") 0 intMax "max link width out of range"

def aspmPolicyPath : CStr := "/sys/module/pcie_aspm/parameters/policy"

def zenctlPcieGetAspmPolicy : GetM σ CStr :=
  readCopy aspmPolicyPath 256

def aspmPolicies : List CStr :=
  ["default", "performance", "powersave", "powersupersave"]

def zenctlPcieSetAspmPolicy (policy : CStr) : SetM σ Unit :=
  if policy = [] then
    getting (raise Err.einval "NULL or empty policy" "zenctl_pcie_set_aspm_policy")
  else if policy ∈ aspmPolicies then writeFileString aspmPolicyPath policy
  else
    getting (raise Err.einval "invalid ASPM policy" (bounded 128 ("policy=".toList ++ policy ++
      " (expected default|performance|powersave|powersupersave)".toList)))

def zenctlPcieGetPowerControl (p : PcieHandle) : GetM σ CStr :=
  readCopy (pcieDevPath p "/power/control") 64

def zenctlPcieSetPowerControl (p : PcieHandle) (mode : CStr) : SetM σ Unit :=
  if mode = [] then
    getting (raise Err.einval "NULL pcie or mode" "zenctl_pcie_set_power_control")
  else
    writePowerControl (pcieDevPath p "/power/control") mode "zenctl_pcie_set_power_control"

def zenctlPcieGetD3coldAllowed (p : PcieHandle) : GetM σ Bool :=
  readNonzero (pcieDevPath p "/d3cold_allowed")

def zenctlPcieSetD3coldAllowed (p : PcieHandle) (allow : Bool) : SetM σ Unit :=
  writeFileI64 (pcieDevPath p "/d3cold_allowed") (if allow then 1 else 0)

/-- `strrchr(path, '/') + 1`, or the whole path. -/
def baseName (path : CStr) : CStr :=
  path.rtakeWhile (· ≠ '/')

/-- The number at the end of the `iommu_group` link. -/
def zenctlPcieGetIommuGroup (p : PcieHandle) : GetM σ Int := do
  let path := pcieDevPath p "/iommu_group"
  match ← sysCall (fun os sys => os.readlink sys path) with
  | none => do
      let e ← getErrno
      if e = Errno.einval.1 ∨ e = Errno.enoent.1 then
        raise Err.enoent "device has no IOMMU group" path
      else raiseErrno none path
  | some target =>
      let group := baseName ((ofBuffer (target.take 511)).rdropWhile (· = '/'))
      if group = [] then raise Err.eio "cannot parse IOMMU group from symlink" path
      else
        match strtoll group with
        | some parsed =>
            if parsed.outOfRange ∨ parsed.rest ≠ [] then
              raise Err.eio "IOMMU group ID is not numeric" path
            else if parsed.value < intMin ∨ intMax < parsed.value then
              raise Err.erange "IOMMU group ID out of range" path
            else pure parsed.value
        | none => raise Err.eio "IOMMU group ID is not numeric" path

def zenctlPcieGetNumaNode (p : PcieHandle) : GetM σ Int :=
  readRanged (pcieDevPath p "/numa_node") intMin intMax "numa_node out of range"

/-- An identifier file, cast to an `int`. -/
def readPciId (path : CStr) : GetM σ Int := do
  let v ← pcieReadHexI64 path
  pure (toInt32 v)

def zenctlPcieGetVendorId (p : PcieHandle) : GetM σ Int := readPciId (pcieDevPath p "/vendor")
def zenctlPcieGetDeviceId (p : PcieHandle) : GetM σ Int := readPciId (pcieDevPath p "/device")
def zenctlPcieGetClass (p : PcieHandle) : GetM σ Int := readPciId (pcieDevPath p "/class")

end Zenctl
