import Zenctl.Command

namespace Zenctl

open CString

/-!
# `zenctl usb`, `zenctl bt` and `zenctl wireless`
-/

variable {σ τ : Type}

/-- A listing: enumerate, then one object or one table row for each name. -/
def listEnumerated (json : Bool) (call : Query (List CStr)) (fields : CStr → ReadM σ τ (List Field))
    (header : List CStr) (row : CStr → ReadM σ τ Unit) : ReadM σ τ Int :=
  readOrErr json call fun names => do
    if json then
      let items ← collect fields names
      put (okArray items)
    else
      outTable header
      forEach row names
    pure 0

/-! ## USB devices -/

def usbListFields (dev : CStr) : ReadM σ τ (List Field) := do
  match ← query (.usbOpen dev) with
  | .error _ => pure [.string "dev" dev]
  | .ok u =>
      let vid ← optField (.usbGetVendorId u) (.int "idVendor")
      let pid ← optField (.usbGetProductId u) (.int "idProduct")
      let manufacturer ← optField (.usbGetManufacturer u) (.string "manufacturer")
      let product ← optField (.usbGetProduct u) (.string "product")
      let speed ← optField (.usbGetSpeed u) (.string "speed")
      pure (.string "dev" dev :: vid ++ pid ++ manufacturer ++ product ++ speed)

/-- `%04x` of an `int`, in a buffer of eight bytes. -/
def hexCell (n : Int) : CStr :=
  let digits := (Nat.digits 16 (n % 2 ^ 32).toNat).reverse.map hexDigit
  bounded 8 (List.replicate (4 - digits.length) '0' ++ digits)

def usbListRow (dev : CStr) : ReadM σ τ Unit := do
  match ← query (.usbOpen dev) with
  | .error _ => outTableRow [dev, "-", "-", "-", "-"]
  | .ok u =>
      let vid ← queryOpt (.usbGetVendorId u)
      let pid ← queryOpt (.usbGetProductId u)
      let product ← queryOpt (.usbGetProduct u)
      let speed ← queryOpt (.usbGetSpeed u)
      outTableRow [dev, orDash (vid.map hexCell), orDash (pid.map hexCell), orDash product,
        orDash speed]

def usbList (json : Bool) : ReadM σ τ Int :=
  listEnumerated json .usbEnumerate usbListFields ["DEV", "VID", "PID", "PRODUCT", "SPEED"]
    usbListRow

def usbGetUsage : CStr := "zenctl usb get <power|autosuspend|authorized|wakeup> <dev>"

def usbGet (args : List CStr) (json : Bool) : ReadM σ τ Int :=
  match args with
  | what :: dev :: _ =>
      readOrErr json (.usbOpen dev) fun u =>
        if what = "power" then
          showBare json (.usbGetPowerControl u)
            (fun s => [.string "dev" dev, .string "control" s]) (outKv "power_control")
        else if what = "autosuspend" then
          showBare json (.usbGetAutosuspendDelay u)
            (fun v => [.string "dev" dev, .int "delay_ms" v]) (outKvInt "autosuspend_delay_ms")
        else if what = "authorized" then
          showBare json (.usbGetAuthorized u)
            (fun b => [.string "dev" dev, .bool "authorized" b])
            fun b => outKv "authorized" (trueFalse b)
        else if what = "wakeup" then
          showBare json (.usbGetWakeup u)
            (fun b => [.string "dev" dev, .bool "wakeup" b])
            fun b => outKv "wakeup" (if b then "enabled" else "disabled").toList
        else cliUsage usbGetUsage
  | _ => cliUsage usbGetUsage

/-- Announce a change, or open the device and call one setter. -/
def usbWrite (dev : CStr) (json dryRun : Bool) (wouldDo : CStr) (call : UsbHandle → Update)
    (done : List Field) (lines : ReadM σ τ Unit) : CliM σ τ Int :=
  if dryRun then reading (announce json wouldDo)
  else
    openOrErr json (.usbOpen dev) fun u =>
      setOrErr json (call u) (okBare (.string "dev" dev :: done)) do
        outKv "dev" dev
        lines

def usbSetPower (args : List CStr) (json dryRun : Bool) : CliM σ τ Int :=
  match args with
  | _ :: mode :: dev :: _ =>
      if mode ≠ "auto" ∧ mode ≠ "on" then
        reading (refuse json Err.einval "mode must be 'auto' or 'on'" "usb set power")
      else
        asRoot json <| usbWrite dev json dryRun
          (bounded 128 ("set power=".toList ++ mode ++ " dev=".toList ++ dev))
          (fun u => .usbSetPowerControl u mode) [.string "control" mode] (outKv "set power" mode)
  | _ => reading (cliUsage "zenctl usb set power <auto|on> <dev>")

def usbSetAutosuspend (args : List CStr) (json dryRun : Bool) : CliM σ τ Int :=
  match args with
  | _ :: dev :: text :: _ =>
      match cliParseInt text with
      | none => reading (refuse json Err.einval "ms must be an integer" "usb set autosuspend")
      | some ms =>
          asRoot json <| usbWrite dev json dryRun
            (bounded 128 ("set autosuspend dev=".toList ++ dev ++ " ms=".toList ++ showInt ms))
            (fun u => .usbSetAutosuspendDelay u (toInt32 ms)) [.int "delay_ms" ms]
            (outKvInt "set delay_ms" ms)
  | _ => reading (cliUsage "zenctl usb set autosuspend <dev> <ms>")

def usbSetAuthorized (args : List CStr) (json dryRun confirm : Bool) : CliM σ τ Int :=
  match args with
  | _ :: dev :: value :: _ =>
      match cliParseBool value with
      | none => reading (refuse json Err.einval "value must be 'on' or 'off'" "usb set authorized")
      | some on =>
          asRoot json <|
            if on = false ∧ confirm = false then
              reading (confirmRequired json "de-authorizing a device requires --confirm")
            else
              usbWrite dev json dryRun
                (bounded 128 ("set authorized=".toList ++ (if on then "on" else "off").toList ++
                  " dev=".toList ++ dev))
                (fun u => .usbSetAuthorized u on) [.bool "authorized" on]
                (outKv "set authorized" (if on then "on" else "off").toList)
  | _ => reading (cliUsage "zenctl usb set authorized <dev> <on|off>")

def usbSetWakeup (args : List CStr) (json dryRun : Bool) : CliM σ τ Int :=
  match args with
  | _ :: dev :: value :: _ =>
      match cliParseBool value with
      | none => reading (refuse json Err.einval "value must be 'on' or 'off'" "usb set wakeup")
      | some on =>
          asRoot json <| usbWrite dev json dryRun
            (bounded 128 ("set wakeup=".toList ++ (if on then "on" else "off").toList ++
              " dev=".toList ++ dev))
            (fun u => .usbSetWakeup u on) [.bool "wakeup" on]
            (outKv "set wakeup" (if on then "enabled" else "disabled").toList)
  | _ => reading (cliUsage "zenctl usb set wakeup <dev> <on|off>")

def usbSetUsage : CStr := "zenctl usb set <power|autosuspend|authorized|wakeup> ..."

def usbSet (args : List CStr) (json dryRun confirm : Bool) : CliM σ τ Int :=
  match args with
  | [] => reading (cliUsage usbSetUsage)
  | what :: _ =>
      if what = "power" then usbSetPower args json dryRun
      else if what = "autosuspend" then usbSetAutosuspend args json dryRun
      else if what = "authorized" then usbSetAuthorized args json dryRun confirm
      else if what = "wakeup" then usbSetWakeup args json dryRun
      else reading (cliUsage usbSetUsage)

def usbReset (args : List CStr) (json dryRun : Bool) : CliM σ τ Int :=
  match args with
  | [] => reading (cliUsage "zenctl usb reset <dev>")
  | dev :: _ =>
      asRoot json <| usbWrite dev json dryRun (bounded 64 ("reset dev=".toList ++ dev))
        .usbReset [.bool "reset" true] (outKv "reset" "ok")

def cmdUsb (args : List CStr) (json dryRun confirm : Bool) : CliM σ τ Int :=
  match args with
  | [] => reading (cliUsage "zenctl usb <list|get|set|reset> ...")
  | sub :: rest =>
      if sub = "list" then reading (usbList json)
      else if sub = "get" then reading (usbGet rest json)
      else if sub = "set" then usbSet rest json dryRun confirm
      else if sub = "reset" then usbReset rest json dryRun
      else reading (cliUsage "zenctl usb <list|get|set|reset> ...")

/-! ## Radios -/

/-- `set power <name> <on|off>`: the radio is opened before the dry run is announced. -/
def radioSetPower {H : Type} (args : List CStr) (json dryRun : Bool) (usage context key : CStr)
    (openCall : CStr → Query H) (call : H → Bool → Update) : CliM σ τ Int :=
  match args with
  | what :: name :: value :: _ =>
      if what ≠ "power" then reading (cliUsage usage)
      else
        match cliParseBool value with
        | none => reading (refuse json Err.einval "value must be 'on' or 'off'" context)
        | some on =>
            asRoot json <| openOrErr json (openCall name) fun handle =>
              if dryRun then
                reading (announce json (bounded 128 ("set power=".toList ++
                  (if on then "on" else "off").toList ++ ' ' :: (key ++ '=' :: name))))
              else
                setOrErr json (call handle on)
                  (okBare [.string key name, .bool "powered" on])
                  (do outKv key name
                      outKv "set powered" (if on then "on" else "off").toList)
  | _ => reading (cliUsage usage)

def btListFields (adapter : CStr) : ReadM σ τ (List Field) := do
  match ← query (.btOpen adapter) with
  | .error _ => pure [.string "adapter" adapter]
  | .ok bt =>
      let powered ← optField (.btGetPowered bt) (.bool "powered")
      let address ← optField (.btGetAddress bt) (.string "address")
      pure (.string "adapter" adapter :: powered ++ address)

def btListRow (adapter : CStr) : ReadM σ τ Unit := do
  match ← query (.btOpen adapter) with
  | .error _ => outTableRow [adapter, "off", "-"]
  | .ok bt =>
      let on ← queryOpt (.btGetPowered bt)
      let address ← queryOpt (.btGetAddress bt)
      outTableRow [adapter, (if on.getD false then "on" else "off").toList, orDash address]

def btList (json : Bool) : ReadM σ τ Int :=
  listEnumerated json .btEnumerate btListFields ["ADAPTER", "POWERED", "ADDRESS"] btListRow

def btGet (args : List CStr) (json : Bool) : ReadM σ τ Int :=
  match args with
  | what :: adapter :: _ =>
      readOrErr json (.btOpen adapter) fun bt =>
        if what = "power" then
          showBare json (.btGetPowered bt)
            (fun on => [.string "adapter" adapter, .bool "powered" on])
            fun on => outKv "powered" (if on then "on" else "off").toList
        else if what = "address" then
          showBare json (.btGetAddress bt)
            (fun s => [.string "adapter" adapter, .string "address" s]) (outKv "address")
        else cliUsage "zenctl bt get <power|address> <adapter>"
  | _ => cliUsage "zenctl bt get <power|address> <adapter>"

def btSet (args : List CStr) (json dryRun : Bool) : CliM σ τ Int :=
  radioSetPower args json dryRun "zenctl bt set power <adapter> <on|off>" "bt set power" "adapter"
    .btOpen .btSetPowered

def cmdBt (args : List CStr) (json dryRun : Bool) : CliM σ τ Int :=
  match args with
  | [] => reading (cliUsage "zenctl bt <list|get|set> ...")
  | sub :: rest =>
      if sub = "list" then reading (btList json)
      else if sub = "get" then reading (btGet rest json)
      else if sub = "set" then btSet rest json dryRun
      else reading (cliUsage "zenctl bt <list|get|set> ...")

def wirelessListFields (phy : CStr) : ReadM σ τ (List Field) := do
  match ← query (.wirelessOpen phy) with
  | .error _ => pure [.string "phy" phy]
  | .ok wl =>
      let powered ← optField (.wirelessGetRfkillBlocked wl) fun blocked => .bool "powered" !blocked
      let regdomain ← optField (.wirelessGetRegdomain wl) (.string "regdomain")
      pure (.string "phy" phy :: powered ++ regdomain)

def wirelessListRow (phy : CStr) : ReadM σ τ Unit := do
  match ← query (.wirelessOpen phy) with
  | .error _ => outTableRow [phy, "off", "-"]
  | .ok wl =>
      let blocked ← queryOpt (.wirelessGetRfkillBlocked wl)
      let regdomain ← queryOpt (.wirelessGetRegdomain wl)
      outTableRow [phy, (if blocked.getD true then "off" else "on").toList, orDash regdomain]

def wirelessList (json : Bool) : ReadM σ τ Int :=
  listEnumerated json .wirelessEnumerate wirelessListFields ["PHY", "POWERED", "REGDOMAIN"]
    wirelessListRow

def wirelessGet (args : List CStr) (json : Bool) : ReadM σ τ Int :=
  match args with
  | what :: phy :: _ =>
      readOrErr json (.wirelessOpen phy) fun wl =>
        if what = "power" then
          showBare json (.wirelessGetRfkillBlocked wl)
            (fun blocked => [.string "phy" phy, .bool "powered" !blocked])
            fun blocked => outKv "powered" (if blocked then "off" else "on").toList
        else if what = "regdomain" then
          showBare json (.wirelessGetRegdomain wl)
            (fun s => [.string "phy" phy, .string "regdomain" s]) (outKv "regdomain")
        else cliUsage "zenctl wireless get <power|regdomain> <phy>"
  | _ => cliUsage "zenctl wireless get <power|regdomain> <phy>"

def wirelessSet (args : List CStr) (json dryRun : Bool) : CliM σ τ Int :=
  radioSetPower args json dryRun "zenctl wireless set power <phy> <on|off>" "wireless set power"
    "phy" .wirelessOpen fun wl on => .wirelessSetRfkillBlocked wl !on

def cmdWireless (args : List CStr) (json dryRun : Bool) : CliM σ τ Int :=
  match args with
  | [] => reading (cliUsage "zenctl wireless <list|get|set> ...")
  | sub :: rest =>
      if sub = "list" then reading (wirelessList json)
      else if sub = "get" then reading (wirelessGet rest json)
      else if sub = "set" then wirelessSet rest json dryRun
      else reading (cliUsage "zenctl wireless <list|get|set> ...")

end Zenctl
