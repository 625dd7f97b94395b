import Zenctl.ShapedHandlers

namespace Zenctl

open CString

/-!
# The shape of the platform handlers

Graphics, thermal, power, USB, radio and firmware commands.  Their writers
stand behind `cli_require_root`.
-/

variable {σ τ β : Type} {many : Prop} {only : Update → Prop}

/-! ## Shared shapes -/

/-- `caps` prints a table that is fixed at build time. -/
theorem cmdCaps_agree (args : List CStr) :
    (cmdCaps args true : ReadM σ τ Int).Agree (cmdCaps args false) :=
  report_agree _ _

/-- The root check stops in both modes or in neither; only its message differs. -/
theorem cliRequireRoot_inStep :
    (cliRequireRoot true : ReadM σ τ Bool).InStep (cliRequireRoot false) :=
  .bind .getEnv fun _ => .ite (fun _ => .pure _) fun _ =>
    .silent (fun _ _ _ => ⟨rfl, rfl⟩) fun _ _ _ => ⟨rfl, rfl⟩

/-- Behind `cli_require_root` the shape goes on. -/
theorem asRoot_planned
    {next : Bool → Bool → CliM σ τ Int} (planned : Planned many only next) :
    Planned many only fun json dryRun => asRoot json (next json dryRun) := by
  have stops : Planned many only fun _ _ => (reading (pure (-1)) : CliM σ τ Int) :=
    .ends (.ofEnds (fun _ _ _ => rfl) fun _ _ _ => rfl)
  exact @Planned.reads σ τ many only Bool cliRequireRoot
    (fun stopped json dryRun => if stopped then pure (-1) else next json dryRun)
    cliRequireRoot_inStep fun _ => .ite (fun _ => stops) fun _ => planned

/-- A device is opened in front, in a dry run too. -/
theorem openOrErr_planned
    {call : Query β} {next : β → Bool → Bool → CliM σ τ Int}
    (planned : ∀ handle, Planned many only (next handle)) :
    Planned many only fun json dryRun =>
      openOrErr json call fun handle => next handle json dryRun := by
  refine .reads (.query call) fun answer => ?_
  cases answer with
  | error err => exact .ends (cliErr_agree err)
  | ok handle => exact planned handle

/-- The same where a dry run has been answered before. -/
theorem openOrErr_performs
    {call : Query β} {next : β → Bool → CliM σ τ Int}
    (performs : ∀ handle, Performs many only (next handle)) :
    Performs many only fun json => openOrErr json call fun handle => next handle json := by
  refine .reads (.query call) fun answer => ?_
  cases answer with
  | error err => exact .ends (cliErr_agree err)
  | ok handle => exact performs handle

/-- A change that is announced, or made. -/
theorem write_planned
    {call : Update} (part : only call) (what : CStr) (document : CStr) (lines : ReadM σ τ Unit) :
    Planned many only fun json dryRun =>
      if dryRun then reading (announce json what) else setOrErr json call document lines :=
  .previews (fun _ => announce_ends _ _) (setOrErr_performs part _ _)

/-! ## Graphics cards -/

/-- The numbered entries of a directory. -/
theorem enumIndexed_inStep (dir lead : CStr) (cap : Nat) :
    (enumIndexed dir lead cap : ReadM σ τ _).InStep (enumIndexed dir lead cap) := by
  refine .bind (.listDir _) fun names => ?_
  cases names with
  | none => exact .pure _
  | some names => exact .pure _

/-- The speed and the mode of the fan, of which one is enough. -/
theorem gpuGetFan_agree (card : Int) (g : GpuHandle) :
    (gpuGetFan true card g : ReadM σ τ Int).Agree (gpuGetFan false card g) :=
  .bind (queryOpt_inStep _) fun _ => .bind (queryOpt_inStep _) fun _ =>
    .ite (fun _ => report_agree _ _) fun _ => refuse_agree _ _ _

/-- One row for each card, or an error when the directory cannot be listed. -/
theorem gpuList_agree : (gpuList true : ReadM σ τ Int).Agree (gpuList false) := by
  refine .bind (enumIndexed_inStep _ _ _) fun cards => ?_
  cases cards with
  | none => exact refuse_agree _ _ _
  | some cards => exact .ofEnds (fun _ _ _ => rfl) fun _ _ _ => rfl

/-- Every getter on every card; what fails is left out in both modes. -/
theorem gpuGetAll_agree (args : List CStr) :
    (gpuGetAll args true : ReadM σ τ Int).Agree (gpuGetAll args false) := by
  refine .bind (enumIndexed_inStep _ _ _) fun cards => ?_
  cases cards with
  | none => exact refuse_agree _ _ _
  | some cards => exact .ofEnds (fun _ _ _ => rfl) fun _ _ _ => rfl

/-- `gpu get`: the card is opened before the target is looked at. -/
theorem gpuGet_agree (args : List CStr) :
    (gpuGet args true : ReadM σ τ Int).Agree (gpuGet args false) := by
  cases args with
  | nil => exact cliUsage_agree _
  | cons what rest =>
      refine .ite (fun all => gpuGetAll_agree _) fun one => ?_
      refine readOrErr_agree fun g => .bind .getEnv fun env => ?_
      refine .ite (fun temp => showBare_agree _ _ _) fun other => ?_
      refine .ite (fun fan => gpuGetFan_agree _ g) fun other => ?_
      refine .ite (fun power => showBare_agree _ _ _) fun other => ?_
      refine .ite (fun freq => showBare_agree _ _ _) fun other => ?_
      refine .ite (fun driver => showBare_agree _ _ _) fun other => ?_
      refine .ite (fun profile => showBare_agree _ _ _) fun other => ?_
      exact .ite (fun busy => showBare_agree _ _ _) fun unknown => cliUsage_agree _

/-- The fan is handed back to the driver, or set to a duty cycle. -/
theorem gpuSetFan_planned (val : CStr) (g : GpuHandle) :
    Planned many (PartOf "gpu".toList) fun json dryRun =>
      (gpuSetFan val json dryRun g : CliM σ τ Int) := by
  unfold gpuSetFan
  refine .ite (fun _ => write_planned ⟨rfl, .inr rfl⟩ _ _ _) fun _ => ?_
  cases parsePwm val with
  | none => exact refuse_planned _ _ _
  | some pwm => exact write_planned ⟨rfl, .inr rfl⟩ _ _ _

/-- `gpu set`: the card is opened before the target is looked at. -/
theorem gpuSet_planned (args : List CStr) :
    Planned many (PartOf "gpu".toList) fun json dryRun =>
      (gpuSet args json dryRun : CliM σ τ Int) := by
  match args with
  | [] => exact cliUsage_planned _
  | [_] => exact cliUsage_planned _
  | what :: val :: rest =>
      refine asRoot_planned (openOrErr_planned fun g => ?_)
      refine .ite (fun fan => gpuSetFan_planned val g) fun other => ?_
      refine .ite (fun profile => ?_) fun unknown => cliUsage_planned _
      exact write_planned ⟨rfl, .inr rfl⟩ _ _ _

/-- `gpu`, whose writers need root. -/
theorem cmdGpu_planned (args : List CStr) :
    Planned many (PartOf "gpu".toList) fun json dryRun =>
      (cmdGpu args json dryRun : CliM σ τ Int) := by
  cases args with
  | nil => exact cliUsage_planned _
  | cons sub rest =>
      refine .ite (fun list => .ends gpuList_agree) fun other => ?_
      refine .ite (fun get => .ends (gpuGet_agree rest)) fun other => ?_
      exact .ite (fun set => gpuSet_planned rest) fun unknown => cliUsage_planned _

/-! ## Thermal zones and sensors -/

/-- One row for each zone, or an error when the directory cannot be listed. -/
theorem thermalList_agree : (thermalList true : ReadM σ τ Int).Agree (thermalList false) := by
  refine .bind (enumIndexed_inStep _ _ _) fun zones => ?_
  cases zones with
  | none => exact refuse_agree _ _ _
  | some zones => exact .ofEnds (fun _ _ _ => rfl) fun _ _ _ => rfl

/-- The sensors of each monitor, or an error when the directory cannot be listed. -/
theorem thermalHwmonList_agree :
    (thermalHwmonList true : ReadM σ τ Int).Agree (thermalHwmonList false) := by
  refine .bind (enumIndexed_inStep _ _ _) fun devices => ?_
  cases devices with
  | none => exact refuse_agree _ _ _
  | some devices => exact .ofEnds (fun _ _ _ => rfl) fun _ _ _ => rfl

/-- The speed and the duty cycle of a fan, of which one is enough. -/
theorem hwmonGetFan_agree (hw fan : Int) :
    (hwmonGetFan hw fan true : ReadM σ τ Int).Agree (hwmonGetFan hw fan false) :=
  .bind (queryOpt_inStep _) fun _ => .bind (queryOpt_inStep _) fun _ =>
    .ite (fun _ => refuse_agree _ _ _) fun _ => report_agree _ _

/-- A duty cycle between 0 and 255. -/
theorem hwmonSetFan_planned (hw fan : Int) (value : CStr) :
    Planned many (PartOf "thermal".toList) fun json dryRun =>
      (hwmonSetFan hw fan value json dryRun : CliM σ τ Int) := by
  unfold hwmonSetFan
  cases parsePwm value with
  | none => exact refuse_planned _ _ _
  | some pwm => exact write_planned ⟨rfl, .inr rfl⟩ _ _ _

/-- `thermal hwmon`: a third word turns the getter of the fan into its setter. -/
theorem thermalHwmon_planned (args : List CStr) :
    Planned many (PartOf "thermal".toList) fun json dryRun =>
      (thermalHwmon args json dryRun : CliM σ τ Int) := by
  match args with
  | [] => exact .ends thermalHwmonList_agree
  | sub :: rest =>
      refine .ite (fun _ => ?_) fun _ => cliUsage_planned _
      match rest with
      | [] => exact cliUsage_planned _
      | [_] => exact cliUsage_planned _
      | hwmon :: fan :: values =>
          unfold thermalHwmonFan
          dsimp only
          cases parseHwmonFan hwmon fan with
          | none => exact refuse_planned _ _ _
          | some numbers =>
              cases values with
              | nil => exact .ends (hwmonGetFan_agree _ _)
              | cons value _ => exact asRoot_planned (hwmonSetFan_planned _ _ _)

/-- The trip points or the cooling devices of a zone, one after the other. -/
theorem thermalGetParts_agree
    (zone : CStr) (count : Query Int) (part : Int → Query β) (key : CStr)
    (fields : β → List Field) (header : List CStr) (row : β → List CStr) :
    (thermalGetParts zone true count part key fields header row : ReadM σ τ Int).Agree
      (thermalGetParts zone false count part key fields header row) :=
  readOrErr_agree fun _ => .ofEnds (fun _ _ _ => rfl) fun _ _ _ => rfl

/-- `thermal get`: the zone is opened before the target is looked at. -/
theorem thermalGet_agree (args : List CStr) :
    (thermalGet args true : ReadM σ τ Int).Agree (thermalGet args false) := by
  cases args with
  | nil => exact cliUsage_agree _
  | cons what rest =>
      unfold thermalGet
      dsimp only
      cases cliOpt "--zone" (what :: rest) with
      | none => exact refuse_agree _ _ _
      | some zone =>
          refine readOrErr_agree fun tz => .bind .getEnv fun env => ?_
          refine .ite (fun temp => showBare_agree _ _ _) fun other => ?_
          refine .ite (fun type => showBare_agree _ _ _) fun other => ?_
          refine .ite (fun policy => showBare_agree _ _ _) fun other => ?_
          refine .ite (fun mode => showBare_agree _ _ _) fun other => ?_
          refine .ite (fun trips => ?_) fun other => ?_
          · exact thermalGetParts_agree _ _ _ _ _ _ _
          refine .ite (fun cooling => ?_) fun unknown => cliUsage_agree _
          exact thermalGetParts_agree _ _ _ _ _ _ _

/-- The mode is a switch. -/
theorem thermalSetMode_planned (zone val : CStr) (tz : ThermalHandle) :
    Planned many (PartOf "thermal".toList) fun json dryRun =>
      (thermalSetMode zone val json dryRun tz : CliM σ τ Int) := by
  unfold thermalSetMode
  cases cliParseBool val with
  | none => exact refuse_planned _ _ _
  | some on => exact write_planned ⟨rfl, .inr rfl⟩ _ _ _

/-- The index and the state of a cooling device. -/
theorem thermalSetCooling_planned (zone index state : CStr) (tz : ThermalHandle) :
    Planned many (PartOf "thermal".toList) fun json dryRun =>
      (thermalSetCooling zone index state json dryRun tz : CliM σ τ Int) := by
  unfold thermalSetCooling
  cases parseCooling index state with
  | none => exact refuse_planned _ _ _
  | some numbers => exact write_planned ⟨rfl, .inr rfl⟩ _ _ _

/-- `thermal set`: the zone is opened before the target is looked at. -/
theorem thermalSet_planned (args : List CStr) :
    Planned many (PartOf "thermal".toList) fun json dryRun =>
      (thermalSet args json dryRun : CliM σ τ Int) := by
  match args with
  | [] => exact cliUsage_planned _
  | [_] => exact cliUsage_planned _
  | what :: val :: rest =>
      unfold thermalSet
      dsimp only
      cases cliOpt "--zone" (what :: val :: rest) with
      | none => exact refuse_planned _ _ _
      | some zone =>
          refine asRoot_planned (openOrErr_planned fun tz => ?_)
          refine .ite (fun policy => write_planned ⟨rfl, .inr rfl⟩ _ _ _) fun other => ?_
          refine .ite (fun mode => thermalSetMode_planned zone val tz) fun other => ?_
          refine .ite (fun cooling => ?_) fun unknown => cliUsage_planned _
          cases rest with
          | nil => exact cliUsage_planned _
          | cons state _ => exact thermalSetCooling_planned _ _ _ _

/-- `thermal`, by its subcommand. -/
theorem cmdThermal_planned (args : List CStr) :
    Planned many (PartOf "thermal".toList) fun json dryRun =>
      (cmdThermal args json dryRun : CliM σ τ Int) := by
  cases args with
  | nil => exact cliUsage_planned _
  | cons sub rest =>
      refine .ite (fun list => .ends thermalList_agree) fun other => ?_
      refine .ite (fun hwmon => thermalHwmon_planned rest) fun other => ?_
      refine .ite (fun get => .ends (thermalGet_agree rest)) fun other => ?_
      exact .ite (fun set => thermalSet_planned rest) fun unknown => cliUsage_planned _

/-! ## Power -/

/-- One battery, or all of them one after the other. -/
theorem powerGetBattery_agree (args : List CStr) :
    (powerGetBattery args true : ReadM σ τ Int).Agree (powerGetBattery args false) := by
  unfold powerGetBattery
  cases parseBatteryIndex args with
  | none => exact refuse_agree _ _ _
  | some index =>
      exact readOrErr_agree fun _ => .ite (fun _ => readOrErr_agree fun _ => report_agree _ _)
        fun _ => .ofEnds (fun _ _ _ => rfl) fun _ _ _ => rfl

/-- Both thresholds are asked for; only when both fail an error is printed. -/
theorem powerGetChargeThresholds_agree (args : List CStr) :
    (powerGetChargeThresholds args true : ReadM σ τ Int).Agree
      (powerGetChargeThresholds args false) := by
  match args with
  | [] => exact refuse_agree _ _ _
  | [_] => exact refuse_agree _ _ _
  | _ :: text :: _ =>
      unfold powerGetChargeThresholds
      dsimp only
      cases (cliParseInt text).filter (0 ≤ ·) with
      | none => exact refuse_agree _ _ _
      | some index =>
          refine .bind (.query _) fun start => .bind (.query _) fun stop => ?_
          cases start with
          | error e1 =>
              cases stop with
              | error e2 => exact cliErr_agree _
              | ok _ => exact report_agree _ _
          | ok _ => exact report_agree _ _

/-- A list of names the library answers with. -/
theorem showNames_agree (call : Query (List CStr)) :
    (showNames true call : ReadM σ τ Int).Agree (showNames false call) :=
  readOrErr_agree fun _ => report_agree _ _

/-- `power get`, by its target. -/
theorem powerGet_agree (args : List CStr) :
    (powerGet args true : ReadM σ τ Int).Agree (powerGet args false) := by
  cases args with
  | nil => exact cliUsage_agree _
  | cons what rest =>
      refine .ite (fun states => readOrErr_agree fun text => report_agree _ _) fun other => ?_
      refine .ite (fun memSleep => showBare_agree _ _ _) fun other => ?_
      refine .ite (fun battery => powerGetBattery_agree _) fun other => ?_
      refine .ite (fun thresholds => powerGetChargeThresholds_agree _) fun other => ?_
      refine .ite (fun ac => showBare_agree _ _ _) fun other => ?_
      exact .ite (fun wakeup => showNames_agree _) fun unknown => cliUsage_agree _

/-- The mode is handed on as it is written. -/
theorem powerSetMemSleep_planned (args : List CStr) :
    Planned many (PartOf "power".toList) fun json dryRun =>
      (powerSetMemSleep args json dryRun : CliM σ τ Int) := by
  match args with
  | [] => exact refuse_planned _ _ _
  | [_] => exact refuse_planned _ _ _
  | _ :: mode :: _ => exact asRoot_planned (write_planned ⟨rfl, .inr rfl⟩ _ _ _)

/-- The start and the end of charging are set in one way. -/
theorem powerSetCharge_planned (args : List CStr) (isStart : Bool) :
    Planned many (PartOf "power".toList) fun json dryRun =>
      (powerSetCharge args json dryRun isStart : CliM σ τ Int) := by
  match args with
  | [] => exact refuse_planned _ _ _
  | [_] => exact refuse_planned _ _ _
  | [_, _] => exact refuse_planned _ _ _
  | _ :: index :: percent :: _ =>
      unfold powerSetCharge
      dsimp only
      cases parseCharge index percent with
      | none => exact refuse_planned _ _ _
      | some numbers =>
          exact asRoot_planned (write_planned (.ite ⟨rfl, .inr rfl⟩ ⟨rfl, .inr rfl⟩) _ _ _)

/-- Suspending wants `--confirm`, also in a dry run. -/
theorem powerSuspend_planned (args : List CStr) (confirm : Bool) :
    Planned many (PartOf "power".toList) fun json dryRun =>
      (powerSuspend args json dryRun confirm : CliM σ τ Int) := by
  cases args with
  | nil => exact cliUsage_planned _
  | cons name rest =>
      unfold powerSuspend
      dsimp only
      cases parseSleepState name with
      | none => exact refuse_planned _ _ _
      | some state =>
          exact .ite
            (fun _ => .ends (.ofEnds (confirmRequired_ends _ _) (confirmRequired_ends _ _)))
            fun _ => asRoot_planned (write_planned ⟨rfl, .inr rfl⟩ _ _ _)

/-- `power`, by its subcommand. -/
theorem cmdPower_planned (args : List CStr) (confirm : Bool) :
    Planned many (PartOf "power".toList) fun json dryRun =>
      (cmdPower args json dryRun confirm : CliM σ τ Int) := by
  have set : ∀ rest, Planned many (PartOf "power".toList) fun json dryRun =>
      (powerSet rest json dryRun : CliM σ τ Int) := by
    intro rest
    cases rest with
    | nil => exact cliUsage_planned _
    | cons what args =>
        refine .ite (fun memSleep => powerSetMemSleep_planned _) fun other => ?_
        refine .ite (fun chargeStart => powerSetCharge_planned _ true) fun other => ?_
        exact .ite (fun chargeEnd => powerSetCharge_planned _ false) fun unknown =>
          cliUsage_planned _
  cases args with
  | nil => exact cliUsage_planned _
  | cons sub rest =>
      refine .ite (fun get => .ends (powerGet_agree rest)) fun other => ?_
      refine .ite (fun isSet => set rest) fun other => ?_
      exact .ite (fun suspend => powerSuspend_planned rest confirm) fun unknown =>
        cliUsage_planned _

/-! ## USB devices and radios -/

/-- The names of an enumeration with the getters of each. -/
theorem listEnumerated_agree
    (call : Query (List CStr)) (fields : CStr → ReadM σ τ (List Field)) (header : List CStr)
    (row : CStr → ReadM σ τ Unit) :
    (listEnumerated true call fields header row).Agree
      (listEnumerated false call fields header row) :=
  readOrErr_agree fun _ => .ofEnds (fun _ _ _ => rfl) fun _ _ _ => rfl

/-- A setter of a USB device: announced before the device is opened. -/
theorem usbWrite_planned
    {call : UsbHandle → Update} (part : ∀ u, only (call u)) (dev wouldDo : CStr)
    (done : List Field) (lines : ReadM σ τ Unit) :
    Planned many only fun json dryRun => usbWrite dev json dryRun wouldDo call done lines :=
  .previews (fun _ => announce_ends _ _)
    (openOrErr_performs fun u => setOrErr_performs (part u) _ _)

/-- `usb get`: the device is opened before the target is looked at. -/
theorem usbGet_agree (args : List CStr) :
    (usbGet args true : ReadM σ τ Int).Agree (usbGet args false) := by
  match args with
  | [] => exact cliUsage_agree _
  | [_] => exact cliUsage_agree _
  | what :: dev :: _ =>
      refine readOrErr_agree fun u => ?_
      refine .ite (fun power => showBare_agree _ _ _) fun other => ?_
      refine .ite (fun autosuspend => showBare_agree _ _ _) fun other => ?_
      refine .ite (fun authorized => showBare_agree _ _ _) fun other => ?_
      exact .ite (fun wakeup => showBare_agree _ _ _) fun unknown => cliUsage_agree _

/-- `usb set`: a missing argument is answered with the usage, whatever the target. -/
theorem usbSet_planned (args : List CStr) (confirm : Bool) :
    Planned many (PartOf "usb".toList) fun json dryRun =>
      (usbSet args json dryRun confirm : CliM σ τ Int) := by
  match args with
  | [] => exact cliUsage_planned _
  | [what] =>
      -- whatever the target, its arguments are missing
      refine .ite (fun power => cliUsage_planned _) fun other => ?_
      refine .ite (fun autosuspend => cliUsage_planned _) fun other => ?_
      refine .ite (fun authorized => cliUsage_planned _) fun other => ?_
      exact .ite (fun wakeup => cliUsage_planned _) fun unknown => cliUsage_planned _
  | [what, _] =>
      refine .ite (fun power => cliUsage_planned _) fun other => ?_
      refine .ite (fun autosuspend => cliUsage_planned _) fun other => ?_
      refine .ite (fun authorized => cliUsage_planned _) fun other => ?_
      exact .ite (fun wakeup => cliUsage_planned _) fun unknown => cliUsage_planned _
  | what :: first :: second :: rest =>
      refine .ite (fun power => ?_) fun other => .ite (fun autosuspend => ?_) fun other =>
        .ite (fun authorized => ?_) fun other => .ite (fun wakeup => ?_) fun unknown =>
        cliUsage_planned _
      · exact .ite (fun _ => refuse_planned _ _ _) fun _ =>
          asRoot_planned (usbWrite_planned (fun _ => ⟨rfl, .inr rfl⟩) _ _ _ _)
      · unfold usbSetAutosuspend
        dsimp only
        cases cliParseInt second with
        | none => exact refuse_planned _ _ _
        | some ms => exact asRoot_planned (usbWrite_planned (fun _ => ⟨rfl, .inr rfl⟩) _ _ _ _)
      · unfold usbSetAuthorized
        dsimp only
        cases cliParseBool second with
        | none => exact refuse_planned _ _ _
        | some on =>
            exact asRoot_planned (.ite
              (fun _ => .ends (.ofEnds (confirmRequired_ends _ _) (confirmRequired_ends _ _)))
              fun _ => usbWrite_planned (fun _ => ⟨rfl, .inr rfl⟩) _ _ _ _)
      · unfold usbSetWakeup
        dsimp only
        cases cliParseBool second with
        | none => exact refuse_planned _ _ _
        | some on => exact asRoot_planned (usbWrite_planned (fun _ => ⟨rfl, .inr rfl⟩) _ _ _ _)

/-- Resetting a USB device goes the same way. -/
theorem usbReset_planned (args : List CStr) :
    Planned many (PartOf "usb".toList) fun json dryRun =>
      (usbReset args json dryRun : CliM σ τ Int) := by
  cases args with
  | nil => exact cliUsage_planned _
  | cons dev rest => exact asRoot_planned (usbWrite_planned (fun _ => ⟨rfl, .inr rfl⟩) _ _ _ _)

/-- `usb`, by its subcommand. -/
theorem cmdUsb_planned (args : List CStr) (confirm : Bool) :
    Planned many (PartOf "usb".toList) fun json dryRun =>
      (cmdUsb args json dryRun confirm : CliM σ τ Int) := by
  cases args with
  | nil => exact cliUsage_planned _
  | cons sub rest =>
      refine .ite (fun list => .ends (listEnumerated_agree _ _ _ _)) fun other => ?_
      refine .ite (fun get => .ends (usbGet_agree rest)) fun other => ?_
      refine .ite (fun set => usbSet_planned rest confirm) fun other => ?_
      exact .ite (fun reset => usbReset_planned rest) fun unknown => cliUsage_planned _

/-- Switching a radio: the device is opened in a dry run too. -/
theorem radioSetPower_planned
    {H : Type} {call : H → Bool → Update} (part : ∀ handle on, only (call handle on))
    (args : List CStr) (usage context key : CStr) (openCall : CStr → Query H) :
    Planned many only fun json dryRun =>
      (radioSetPower args json dryRun usage context key openCall call : CliM σ τ Int) := by
  match args with
  | [] => exact cliUsage_planned _
  | [_] => exact cliUsage_planned _
  | [_, _] => exact cliUsage_planned _
  | what :: name :: value :: _ =>
      refine .ite (fun _ => cliUsage_planned _) fun _ => ?_
      cases cliParseBool value with
      | none => exact refuse_planned _ _ _
      | some on => exact asRoot_planned (openOrErr_planned fun handle =>
        write_planned (part handle on) _ _ _)

/-- `bt`, by its subcommand. -/
theorem cmdBt_planned (args : List CStr) :
    Planned many (PartOf "bt".toList) fun json dryRun =>
      (cmdBt args json dryRun : CliM σ τ Int) := by
  have get : ∀ rest, (btGet rest true : ReadM σ τ Int).Agree (btGet rest false) := by
    intro rest
    match rest with
    | [] => exact cliUsage_agree _
    | [_] => exact cliUsage_agree _
    | what :: adapter :: _ =>
        refine readOrErr_agree fun bt => ?_
        refine .ite (fun power => showBare_agree _ _ _) fun other => ?_
        exact .ite (fun address => showBare_agree _ _ _) fun unknown => cliUsage_agree _
  cases args with
  | nil => exact cliUsage_planned _
  | cons sub rest =>
      exact .ite (fun _ => .ends (listEnumerated_agree _ _ _ _)) fun _ =>
        .ite (fun _ => .ends (get rest)) fun _ =>
        .ite (fun _ => radioSetPower_planned (fun _ _ => ⟨rfl, .inr rfl⟩) _ _ _ _ _) fun _ =>
        cliUsage_planned _

/-- `wireless`, by its subcommand. -/
theorem cmdWireless_planned (args : List CStr) :
    Planned many (PartOf "wireless".toList) fun json dryRun =>
      (cmdWireless args json dryRun : CliM σ τ Int) := by
  have get : ∀ rest, (wirelessGet rest true : ReadM σ τ Int).Agree (wirelessGet rest false) := by
    intro rest
    match rest with
    | [] => exact cliUsage_agree _
    | [_] => exact cliUsage_agree _
    | what :: phy :: _ =>
        refine readOrErr_agree fun wl => ?_
        refine .ite (fun power => showBare_agree _ _ _) fun other => ?_
        exact .ite (fun regdomain => showBare_agree _ _ _) fun unknown => cliUsage_agree _
  cases args with
  | nil => exact cliUsage_planned _
  | cons sub rest =>
      exact .ite (fun _ => .ends (listEnumerated_agree _ _ _ _)) fun _ =>
        .ite (fun _ => .ends (get rest)) fun _ =>
        .ite (fun _ => radioSetPower_planned (fun _ _ => ⟨rfl, .inr rfl⟩) _ _ _ _ _) fun _ =>
        cliUsage_planned _

/-! ## Firmware -/

/-- `firmware dmi`: one field, or every field that can be read. -/
theorem fwDmi_agree (args : List CStr) :
    (fwDmi args true : ReadM σ τ Int).Agree (fwDmi args false) := by
  refine .ite (fun _ => .ofEnds (fun _ _ _ => rfl) fun _ _ _ => rfl) fun _ => ?_
  cases args with
  | nil => exact cliUsage_agree _
  | cons field rest => exact showBare_agree _ _ _

/-- The bytes of a variable or a table. -/
theorem showPayload_agree (call : Query (List Char)) (fields : List Char → List Field) :
    (showPayload true call fields : ReadM σ τ Int).Agree (showPayload false call fields) :=
  readOrErr_agree fun _ => report_agree _ _

/-- The file with the new contents is read in both modes. -/
theorem readPayloadFile_inStep (path : CStr) :
    (readPayloadFile path : ReadM σ τ _).InStep (readPayloadFile path) := by
  refine .bind (.readFile path) fun content => ?_
  cases content with
  | error reason => exact .pure _
  | ok data => exact .pure _

/-- `firmware efi`: the payload is read in front of a dry run, and deleting wants `--confirm`. -/
theorem fwEfi_planned (args : List CStr) (confirm : Bool) :
    Planned many (PartOf "firmware".toList) fun json dryRun =>
      (fwEfi args json dryRun confirm : CliM σ τ Int) := by
  have get : ∀ rest, (fwEfiGet rest true : ReadM σ τ Int).Agree (fwEfiGet rest false) := by
    intro rest
    match rest with
    | [] => exact cliUsage_agree _
    | [_] => exact cliUsage_agree _
    | name :: guid :: _ => exact showPayload_agree _ _
  have set : ∀ rest, Planned many (PartOf "firmware".toList) fun json dryRun =>
      (fwEfiSet rest json dryRun : CliM σ τ Int) := by
    intro rest
    match rest with
    | [] => exact cliUsage_planned _
    | [_] => exact cliUsage_planned _
    | [_, _] => exact cliUsage_planned _
    | name :: guid :: file :: _ =>
        refine asRoot_planned (.reads (readPayloadFile_inStep file) fun payload => ?_)
        cases payload with
        | error err => exact .ends (cliErr_agree err)
        | ok data => exact write_planned ⟨rfl, .inl rfl⟩ _ _ _
  have delete : ∀ rest, Planned many (PartOf "firmware".toList) fun json dryRun =>
      (fwEfiDelete rest json dryRun confirm : CliM σ τ Int) := by
    intro rest
    match rest with
    | [] => exact cliUsage_planned _
    | [_] => exact cliUsage_planned _
    | name :: guid :: _ =>
        exact asRoot_planned (.ite (fun _ => .ends (.ofEnds (confirmRequired_ends _ _)
          (confirmRequired_ends _ _))) fun _ => write_planned ⟨rfl, .inl rfl⟩ _ _ _)
  cases args with
  | nil => exact cliUsage_planned _
  | cons sub rest =>
      refine .ite (fun list => .ends (readOrErr_agree fun vars => report_agree _ _)) fun other => ?_
      refine .ite (fun isGet => .ends (get rest)) fun other => ?_
      refine .ite (fun isSet => set rest) fun other => ?_
      exact .ite (fun isDelete => delete rest) fun unknown => cliUsage_planned _

/-- `firmware acpi` only reads. -/
theorem fwAcpi_agree (args : List CStr) :
    (fwAcpi args true : ReadM σ τ Int).Agree (fwAcpi args false) := by
  have get : ∀ rest, (fwAcpiGet rest true : ReadM σ τ Int).Agree (fwAcpiGet rest false) := by
    intro rest
    cases rest with
    | nil => exact cliUsage_agree _
    | cons name _ => exact showPayload_agree _ _
  cases args with
  | nil => exact cliUsage_agree _
  | cons sub rest =>
      refine .ite (fun list => showNames_agree _) fun other => ?_
      exact .ite (fun isGet => get rest) fun unknown => cliUsage_agree _

/-- The settings are read until one has the name. -/
theorem findSetting_inStep (want : CStr) (indices : List Int) :
    (findSetting want indices : ReadM σ τ _).InStep (findSetting want indices) := by
  induction indices with
  | nil =>
      exact .pure _
  | cons index rest inductionHypothesis =>
      exact .answer (fun _ => inductionHypothesis) fun setting =>
        .ite (fun _ => .pure _) fun _ => inductionHypothesis

/-- `firmware bios`, by its subcommand. -/
theorem fwBios_planned (args : List CStr) :
    Planned many (PartOf "firmware".toList) fun json dryRun =>
      (fwBios args json dryRun : CliM σ τ Int) := by
  have get : ∀ rest, (fwBiosGet rest true : ReadM σ τ Int).Agree (fwBiosGet rest false) := by
    intro rest
    cases rest with
    | nil => exact cliUsage_agree _
    | cons want _ =>
        refine readOrErr_agree fun count => .bind (findSetting_inStep _ _) fun found => ?_
        cases found with
        | none => exact refuse_agree _ _ _
        | some setting => exact report_agree _ _
  have set : ∀ rest, Planned many (PartOf "firmware".toList) fun json dryRun =>
      (fwBiosSet rest json dryRun : CliM σ τ Int) := by
    intro rest
    match rest with
    | [] => exact cliUsage_planned _
    | [_] => exact cliUsage_planned _
    | name :: val :: _ => exact asRoot_planned (write_planned ⟨rfl, .inl rfl⟩ _ _ _)
  have list : (fwBiosList true : ReadM σ τ Int).Agree (fwBiosList false) :=
    readOrErr_agree fun _ => .ofEnds (fun _ _ _ => rfl) fun _ _ _ => rfl
  cases args with
  | nil => exact cliUsage_planned _
  | cons sub rest =>
      refine .ite (fun isList => .ends list) fun other => ?_
      refine .ite (fun isGet => .ends (get rest)) fun other => ?_
      exact .ite (fun isSet => set rest) fun unknown => cliUsage_planned _

/-- `firmware`, by its subcommand. -/
theorem cmdFirmware_planned (args : List CStr) (confirm : Bool) :
    Planned many (PartOf "firmware".toList) fun json dryRun =>
      (cmdFirmware args json dryRun confirm : CliM σ τ Int) := by
  cases args with
  | nil => exact cliUsage_planned _
  | cons sub rest =>
      refine .ite (fun dmi => .ends (fwDmi_agree rest)) fun other => ?_
      refine .ite (fun efi => fwEfi_planned rest confirm) fun other => ?_
      refine .ite (fun acpi => .ends (fwAcpi_agree rest)) fun other => ?_
      exact .ite (fun bios => fwBios_planned rest) fun unknown => cliUsage_planned _

end Zenctl
