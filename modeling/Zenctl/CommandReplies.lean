import Zenctl.NamedReplies
import Zenctl.PlatformReplies
import Zenctl.ProfileReplies
import Zenctl.Safety
import Zenctl.Libzenctl

namespace Zenctl

open CString Condition Json

/-!
# When a run prints one reply

A run with `--json` that reaches a handler prints exactly what the handler
prints, so the conditions of the handlers settle it.
-/

variable {σ τ : Type}

/-- When the handler of a domain prints a reply. -/
def commandReplies (domain : CStr) (args : List CStr) (dryRun confirm : Bool) : Condition σ τ :=
  if domain = "cpu" then cpuReplies args dryRun
  else if domain = "mem" then memReplies args
  else if domain = "storage" then storageReplies args dryRun
  else if domain = "net" then netReplies args dryRun
  else if domain = "pcie" then pcieReplies args dryRun
  else if domain = "gpu" then gpuReplies args dryRun
  else if domain = "thermal" then thermalReplies args dryRun
  else if domain = "power" then powerReplies args dryRun confirm
  else if domain = "usb" then usbReplies args dryRun confirm
  else if domain = "bt" then btReplies args dryRun
  else if domain = "wireless" then wirelessReplies args dryRun
  else if domain = "firmware" then firmwareReplies args dryRun confirm
  else if domain = "profile" then profileReplies args dryRun
  else always

theorem findHandler_replies
    {domain : CStr} {handler : Handler σ τ}
    (found : findHandler domain = some handler)
    (args : List CStr) (dryRun confirm : Bool) :
    (handler args true dryRun confirm).Replies (commandReplies domain args dryRun confirm) := by
  obtain ⟨entry, inTable, rfl⟩ := Option.map_eq_some_iff.mp found
  have named : entry.1 = domain := by simpa using List.find?_some inTable
  have listed := List.mem_of_find?_eq_some inTable
  subst named
  simp only [dispatchTable, List.mem_cons, List.not_mem_nil, or_false] at listed
  rcases listed with rfl | rfl | rfl | rfl | rfl | rfl | rfl | rfl | rfl | rfl | rfl | rfl | rfl |
    rfl
  · exact cmdCpu_replies _ _ _
  · exact cmdMem_replies _ _
  · exact cmdStorage_replies _ _
  · exact cmdNet_replies _ _
  · exact cmdPcie_replies _ _
  · exact cmdGpu_replies _ _
  · exact cmdThermal_replies _ _
  · exact cmdPower_replies _ _ _
  · exact cmdUsb_replies _ _ _
  · exact cmdBt_replies _ _
  · exact cmdWireless_replies _ _
  · exact cmdFirmware_replies _ _ _
  · exact cmdProfile_replies _ _
  · exact .reading (cmdCaps_replies _)

/-- The run gets past `main`: the domain has a handler, and the root check lets it through. -/
structure ReachesHandler
    (ctx : Ctx σ τ) (argv : List CStr) (domain : CStr) (args : List CStr) : Prop where
  commands : Commands argv (domain :: args)
  known : (findHandler domain : Option (Handler σ τ)).isSome = true
  allowed : subcommandNeedsRoot args.head? = true →
    (filterGlobalFlags argv).1.dryRun = true ∨ ctx.env.uid = 0

/-- What the run prints is what the handler prints. -/
theorem ReachesHandler.stdout
    {ctx : Ctx σ τ} {argv args : List CStr} {domain : CStr}
    (reaches : ReachesHandler ctx argv domain args) (sys : σ) (memory : τ) :
    ∃ handler, findHandler domain = some handler ∧
      (runMain ctx argv sys memory).console.stdout =
        (handler args (filterGlobalFlags argv).1.json (filterGlobalFlags argv).1.dryRun
          (filterGlobalFlags argv).1.confirm ctx (start sys memory)).2.console.stdout := by
  obtain ⟨⟨noVersion, noHelp, shape⟩, known, allowed⟩ := reaches
  obtain ⟨handler, found⟩ := Option.isSome_iff_exists.mp known
  have unchecked : ¬((filterGlobalFlags argv).1.dryRun = false ∧
      subcommandNeedsRoot args.head? = true ∧ ctx.env.uid ≠ 0) := by
    rintro ⟨applied, needed, notRoot⟩
    rcases allowed needed with dry | root
    · rw [applied] at dry
      cases dry
    · exact notRoot root
  refine ⟨handler, found, ?_⟩
  simp only [runMain, main, dispatch, noVersion, noHelp, shape, found, getEnv, CliM.bind_run,
    reading_run, unchecked, Bool.false_eq_true, ↓reduceIte, CliM.pure_run]

/-- The small machine speaks ASCII. -/
theorem smallCtx_spells (uid : Nat) : (smallCtx uid).Spells := by
  have missing : (cliMakeErr Err.enotsup "not supported" "").Spelled :=
    ⟨cliMakeErr_message (phrase rfl) _ _, (phrase rfl : IsMessage "".toList)⟩
  have noFile : IsMessage "No such file or directory".toList := phrase rfl
  refine ⟨fun call sys memory value answer => ?_, fun call sys memory err answer => ?_,
    fun call sys memory err answer => ?_, fun files path reason answer => ?_,
    fun files path reason answer => ?_, fun files path reason answer => ?_⟩
  · cases answer
  · cases answer
    exact missing
  · change (smallLibrary.update call sys memory).1 = .error err at answer
    unfold smallLibrary at answer
    dsimp only at answer
    split at answer
    · cases answer
    · cases answer
      exact missing
  · change smallHost.readFile files path = .error reason at answer
    unfold smallHost at answer
    dsimp only at answer
    split at answer
    · cases answer
    · cases answer
      exact noFile
  · cases answer
  · change (smallHost.unlink files path).1 = .error reason at answer
    unfold smallHost at answer
    dsimp only at answer
    split at answer
    · cases answer
    · cases answer
      exact noFile

/-- A machine on which every file can be read and says `on`. -/
def switchedOnOs : Os Unit :=
  { bareOs with
    listDir := fun _ _ => .ok []
    openRead := fun _ _ => .ok ⟨"on\n".toList, none⟩ }

/-- The device `1-1` of that machine. -/
def switchedOnDevice : UsbHandle where
  devPath := "1-1".toList
  sysfsDir := "/sys/bus/usb/devices/1-1".toList
  busnum := 0
  devnum := 0

end Zenctl
