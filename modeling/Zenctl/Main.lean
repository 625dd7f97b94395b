import Zenctl.CmdCpu
import Zenctl.CmdMem
import Zenctl.CmdStorage
import Zenctl.CmdThermal
import Zenctl.CmdUsb
import Zenctl.CmdFirmware
import Zenctl.Profile

namespace Zenctl

open CString

/-!
# The entry point

`main` takes the global flags out of the argument vector wherever they stand,
finds the handler of the domain, applies the root check for write verbs, and
runs the handler on the remaining arguments.
-/

variable {σ τ : Type}

/-- The global flags. -/
structure Flags where
  json : Bool
  dryRun : Bool
  confirm : Bool
  help : Bool
  version : Bool
  deriving Repr, DecidableEq

def Flags.none : Flags := ⟨false, false, false, false, false⟩

/-- The flag an argument sets, if it is a global flag. -/
def globalFlag (arg : CStr) : Option (Flags → Flags) :=
  if arg = "--json" then some fun flags => { flags with json := true }
  else if arg = "--dry-run" then some fun flags => { flags with dryRun := true }
  else if arg = "--confirm" ∨ arg = "--yes" ∨ arg = "-y" then
    some fun flags => { flags with confirm := true }
  else if arg = "--help" ∨ arg = "-h" then some fun flags => { flags with help := true }
  else if arg = "--version" ∨ arg = "-V" then some fun flags => { flags with version := true }
  else .none

/-- `filter_global_flags`: the flags that were given and the other arguments. -/
def filterGlobalFlags : List CStr → Flags × List CStr
  | [] => (Flags.none, [])
  | arg :: rest =>
      let filtered := filterGlobalFlags rest
      match globalFlag arg with
      | some set => (set filtered.1, filtered.2)
      | none => (filtered.1, arg :: filtered.2)

/-- A domain handler: the arguments, then the JSON, dry-run and confirm flags. -/
abbrev Handler (σ τ : Type) := List CStr → Bool → Bool → Bool → CliM σ τ Int

/-- `dispatch_table`. -/
def dispatchTable : List (CStr × Handler σ τ) :=
  [("cpu".toList, cmdCpu),
    ("mem".toList, fun args json dryRun _ => cmdMem args json dryRun),
    ("storage".toList, fun args json dryRun _ => cmdStorage args json dryRun),
    ("net".toList, fun args json dryRun _ => cmdNet args json dryRun),
    ("pcie".toList, fun args json dryRun _ => cmdPcie args json dryRun),
    ("gpu".toList, fun args json dryRun _ => cmdGpu args json dryRun),
    ("thermal".toList, fun args json dryRun _ => cmdThermal args json dryRun),
    ("power".toList, cmdPower),
    ("usb".toList, cmdUsb),
    ("bt".toList, fun args json dryRun _ => cmdBt args json dryRun),
    ("wireless".toList, fun args json dryRun _ => cmdWireless args json dryRun),
    ("firmware".toList, cmdFirmware),
    ("profile".toList, fun args json dryRun _ => cmdProfile args json dryRun),
    ("caps".toList, fun args json _ _ => reading (cmdCaps args json))]

def findHandler (domain : CStr) : Option (Handler σ τ) :=
  (dispatchTable.find? fun entry => entry.1 = domain).map (·.2)

def subcommandNeedsRoot : Option CStr → Bool
  | none => false
  | some sub =>
      startsWith "set" sub || sub = "save".toList || sub = "delete".toList || sub = "load".toList

def printVersion : ReadM σ τ Unit := put "zenctl 0.1.0\n"

def helpText : CStr :=
  ("Usage: zenctl <domain> <subcommand> [target] [options]\n" ++
    "       zenctl profile <save|load|list|delete> <name>\n" ++
    "       zenctl caps [domain]\n" ++
    "       zenctl --version | --help\n" ++
    "\n" ++
    "zenctl is a unified Linux hardware control surface.\n" ++
    "\n" ++
    "Domains:\n" ++
    "  cpu       CPU frequency, governor, online, SMT, C-states\n" ++
    "  mem       hugepages, THP, NUMA, swappiness, overcommit\n" ++
    "  storage   block-device scheduler, queue depth, read-ahead, cache\n" ++
    "  net       NIC rings, offloads, link, MTU, IRQ affinity\n" ++
    "  pcie      PCIe link, power, ASPM, IOMMU, NUMA\n" ++
    "  gpu       GPU temp, fan, power, frequency, AMDGPU profiles\n" ++
    "  thermal   thermal zones, trips, cooling, hwmon sensors, fan PWM\n" ++
    "  power     battery, sleep states, charge thresholds, AC, wake\n" ++
    "  usb       USB power, autosuspend, authorize, reset, wakeup\n" ++
    "  bt        Bluetooth power, address, rfkill\n" ++
    "  wireless  Wi-Fi power, regdomain, TX power, power save\n" ++
    "  firmware  DMI, EFI vars, ACPI tables, BIOS settings\n" ++
    "  profile   save/load named hardware profiles (TOML)\n" ++
    "  caps      show capability matrix\n" ++
    "\n" ++
    "Global options:\n" ++
    "  --json        Emit JSON instead of a human-readable table\n" ++
    "  --dry-run     Print what would change, touch nothing\n" ++
    "  --confirm     Skip confirmation prompts for destructive ops\n" ++
    "  -h, --help    Show this help\n" ++
    "  -V, --version Show version\n" ++
    "\n" ++
    "Examples:\n" ++
    "  zenctl cpu get governor --cpu 0\n" ++
    "  zenctl cpu set governor performance --cpu all\n" ++
    "  zenctl cpu set freq-max 3.6GHz --cpu all\n" ++
    "  zenctl storage list --json\n" ++
    "  zenctl net get ring --iface eth0\n" ++
    "  zenctl pcie get link --addr 0000:01:00.0\n").toList

def printHelp : ReadM σ τ Unit := put helpText

/-- The domain is not in the dispatch table. -/
def unknownDomain (domain : CStr) (json : Bool) : ReadM σ τ Unit :=
  let message := bounded 256 ("unknown domain '".toList ++ domain ++ ['\''])
  if json then put (outJsonError 3 message)
  else do
    outErr message
    putErr "Run 'zenctl --help' for a list of domains.\n"

/-- The exit status of the process: a handler's result is mapped to `0` or `1`. -/
def exitStatus (rc : Int) : Int :=
  if rc = 0 then 0 else if rc = segmentationFault then segmentationFault else 1

/-- The run of `main` after the flags have been taken out of the argument vector. -/
def dispatch (flags : Flags) (args : List CStr) : CliM σ τ Int :=
  if flags.version then do
    reading printVersion
    pure 0
  else
    match args with
    | [] => do
        reading printHelp
        pure 0
    | domain :: rest =>
        if flags.help then do
          reading printHelp
          pure 0
        else
          match findHandler domain with
          | none => do
              reading (unknownDomain domain flags.json)
              pure 1
          | some handler => do
              let env ← reading getEnv
              -- a dry run changes nothing, so it needs no privilege
              if flags.dryRun = false ∧ subcommandNeedsRoot rest.head? ∧ env.uid ≠ 0 then do
                let message := "operation requires root (run as root or via sudo)"
                reading (if flags.json then put (outJsonError 1 message) else outErr message)
                pure 1
              else do
                let rc ← handler rest flags.json flags.dryRun flags.confirm
                pure (exitStatus rc)

/-- `main`, on the arguments after the program name. -/
def main (argv : List CStr) : CliM σ τ Int :=
  let filtered := filterGlobalFlags argv
  dispatch filtered.1 filtered.2

/-- A process that has not done anything yet. -/
def start (sys : σ) (memory : τ) : Process σ τ :=
  ⟨sys, ⟨memory, [], [], []⟩, []⟩

/-- A whole run of the program, from the argument vector to the final process. -/
def runMain (ctx : Ctx σ τ) (argv : List CStr) (sys : σ) (memory : τ) : Process σ τ :=
  (main argv ctx (start sys memory)).2

end Zenctl
