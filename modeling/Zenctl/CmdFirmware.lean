import Zenctl.CmdPower

namespace Zenctl

open CString

/-!
# `zenctl firmware`

DMI strings, EFI variables, ACPI tables and BIOS settings.  Binary payloads are
printed as hexadecimal text; the payload of `efi set` is read from a file.
-/

variable {σ τ : Type}

/-- `DMI_FIELDS`. -/
def dmiFields : List CStr :=
  ["bios_vendor", "bios_version", "bios_date", "bios_release", "ec_firmware_release",
    "sys_vendor", "product_name", "product_version", "product_sku", "product_family",
    "product_uuid", "product_serial", "board_vendor", "board_name", "board_version",
    "board_serial", "board_asset_tag", "chassis_vendor", "chassis_type", "chassis_version",
    "chassis_serial", "chassis_asset_tag"].map String.toList

def fwDmiAll (json : Bool) : ReadM σ τ Int := do
  if json then
    let fields ← collect (fun name => optField (.fwDmiGet name) (.string name)) dmiFields
    put (okObject fields.flatten)
  else
    forEach (fun name => optLine (.fwDmiGet name) (outKv name)) dmiFields
  pure 0

def fwDmi (args : List CStr) (json : Bool) : ReadM σ τ Int :=
  if args.contains "--all".toList then fwDmiAll json
  else
    match args with
    | [] => cliUsage "zenctl firmware dmi <field> | --all"
    | field :: _ =>
        showBare json (.fwDmiGet field) (fun s => [.string field s]) (outKv field)

/-! ## EFI variables -/

/-- `%02x` of every byte. -/
def hexText (data : List Char) : CStr :=
  data.flatMap hexByte

/-- `%x` of a 32-bit word. -/
def hexWord (n : Nat) : CStr :=
  if n = 0 then ['0'] else (Nat.digits 16 n).reverse.map hexDigit

def efiVarFields (v : EfiVar) : List Field :=
  [.string "name" v.name, .string "guid" v.guid, .int "attributes" v.attributes,
    .int "size" v.dataSize]

def efiVarRow (v : EfiVar) : ReadM σ τ Unit :=
  outTableRow [v.name, v.guid, bounded 16 ("0x".toList ++ hexWord v.attributes),
    bounded 16 (showNat v.dataSize)]

def fwEfiList (json : Bool) : ReadM σ τ Int :=
  readOrErr json .fwEfiEnumerate fun vars =>
    report json (okArray (vars.map efiVarFields))
      (do outTable ["NAME", "GUID", "ATTR", "SIZE"]
          forEach efiVarRow vars)

/-- Fields and the payload in hexadecimal, without an enclosing object. -/
def showPayload (json : Bool) (call : Query (List Char)) (fields : List Char → List Field) :
    ReadM σ τ Int :=
  readOrErr json call fun data =>
    report json
      (okEnvelope (outJsonFields true (fields data) ++ ",\"data\":\"".toList ++ hexText data ++
        "\"".toList))
      (do forEach fieldLine (fields data)
          put ("data: ".toList ++ hexText data ++ ['\n']))

def fwEfiGet (args : List CStr) (json : Bool) : ReadM σ τ Int :=
  match args with
  | name :: guid :: _ =>
      showPayload json (.fwEfiGet name guid) fun data =>
        [.string "name" name, .string "guid" guid, .int "size" data.length]
  | _ => cliUsage "zenctl firmware efi get <name> <guid>"

/-- `read_payload_file`. -/
def readPayloadFile (path : CStr) : ReadM σ τ (Except Err (List Char)) := do
  match ← readFile path with
  | .error reason => pure (.error (cliMakeErr Err.eio reason path))
  | .ok data => pure (.ok data)

/-- `EFI_VAR_NON_VOLATILE | EFI_VAR_BOOTSERVICE_ACCESS | EFI_VAR_RUNTIME_ACCESS`. -/
def efiVarAttributes : Nat := 7

def fwEfiSet (args : List CStr) (json dryRun : Bool) : CliM σ τ Int :=
  match args with
  | name :: guid :: file :: _ =>
      asRoot json do
        match ← reading (readPayloadFile file) with
        | .error err => reading (cliErr json err)
        | .ok data =>
            if dryRun then
              reading (announce json (bounded 160 ("set efi ".toList ++ name ++ '-' :: (guid ++
                " <= ".toList ++ file ++ " (".toList ++ showNat data.length ++
                " bytes)".toList))))
            else
              setOrErr json (.fwEfiSet name guid efiVarAttributes data)
                (okBare [.string "name" name, .string "guid" guid, .int "size" data.length,
                  .int "attributes" efiVarAttributes])
                (do outKv "name" name
                    outKv "guid" guid
                    outKvInt "wrote_bytes" data.length)
  | _ => reading (cliUsage "zenctl firmware efi set <name> <guid> <file>")

def fwEfiDelete (args : List CStr) (json dryRun confirm : Bool) : CliM σ τ Int :=
  match args with
  | name :: guid :: _ =>
      asRoot json <|
        if confirm = false then
          reading (confirmRequired json "deleting an EFI variable requires --confirm")
        else if dryRun then
          reading (announce json (bounded 160 ("delete efi ".toList ++ name ++ '-' :: guid)))
        else
          setOrErr json (.fwEfiDelete name guid)
            (okBare [.string "deleted" name, .string "guid" guid])
            (do outKv "deleted" name
                outKv "guid" guid)
  | _ => reading (cliUsage "zenctl firmware efi delete <name> <guid>")

def fwEfiUsage : CStr := "zenctl firmware efi <list|get|set|delete> ..."

def fwEfi (args : List CStr) (json dryRun confirm : Bool) : CliM σ τ Int :=
  match args with
  | [] => reading (cliUsage fwEfiUsage)
  | sub :: rest =>
      if sub = "list" then reading (fwEfiList json)
      else if sub = "get" then reading (fwEfiGet rest json)
      else if sub = "set" then fwEfiSet rest json dryRun
      else if sub = "delete" then fwEfiDelete rest json dryRun confirm
      else reading (cliUsage fwEfiUsage)

/-! ## ACPI tables -/

def fwAcpiList (json : Bool) : ReadM σ τ Int :=
  showNames json .fwAcpiListTables

def fwAcpiGet (args : List CStr) (json : Bool) : ReadM σ τ Int :=
  match args with
  | [] => cliUsage "zenctl firmware acpi get <name>"
  | name :: _ =>
      showPayload json (.fwAcpiGetTable name) fun data =>
        [.string "name" name, .int "size" data.length]

def fwAcpi (args : List CStr) (json : Bool) : ReadM σ τ Int :=
  match args with
  | [] => cliUsage "zenctl firmware acpi <list|get> ..."
  | sub :: rest =>
      if sub = "list" then fwAcpiList json
      else if sub = "get" then fwAcpiGet rest json
      else cliUsage "zenctl firmware acpi <list|get> ..."

/-! ## BIOS settings -/

/-- `bios_emit`. -/
def biosFields (s : BiosSetting) : List Field :=
  [.string "name" s.name] ++ nonemptyString "type" s.type ++
  nonemptyString "current_value" s.currentValue ++
  nonemptyString "default_value" s.defaultValue ++ nonemptyString "display_name" s.displayName

def biosItem (index : Int) : ReadM σ τ (Option (List Field)) := do
  let setting ← queryOpt (.fwBiosGetSetting index)
  pure (setting.map biosFields)

def biosRow (index : Int) : ReadM σ τ Unit :=
  optLine (.fwBiosGetSetting index) fun s =>
    outTableRow [s.name, dashIfEmpty s.type, dashIfEmpty s.currentValue,
      dashIfEmpty s.defaultValue]

def fwBiosList (json : Bool) : ReadM σ τ Int :=
  readOrErr json .fwBiosSettingCount fun count => do
    if json then
      let items ← collect biosItem (countUp 0 count)
      put (okIndexedArray items)
    else
      outTable ["NAME", "TYPE", "CURRENT", "DEFAULT"]
      forEach biosRow (countUp 0 count)
    pure 0

/-- The first readable setting of that name. -/
def findSetting (want : CStr) : List Int → ReadM σ τ (Option BiosSetting)
  | [] => pure none
  | index :: rest => do
      match ← query (.fwBiosGetSetting index) with
      | .error _ => findSetting want rest
      | .ok s => if s.name = want then pure (some s) else findSetting want rest

def fwBiosGet (args : List CStr) (json : Bool) : ReadM σ τ Int :=
  match args with
  | [] => cliUsage "zenctl firmware bios get <setting>"
  | want :: _ =>
      readOrErr json .fwBiosSettingCount fun count => do
        match ← findSetting want (countUp 0 count) with
        | none => refuse json Err.enoent "BIOS setting not found" want
        | some s => report json (okObject (biosFields s)) (forEach fieldLine (biosFields s))

def fwBiosSet (args : List CStr) (json dryRun : Bool) : CliM σ τ Int :=
  match args with
  | name :: val :: _ =>
      let password := cliOpt "--password" args
      asRoot json <|
        if dryRun then
          reading (announce json (bounded 160 ("set bios ".toList ++ name ++ '=' :: (val ++
            (if password.isSome then " (with password)" else "").toList))))
        else
          setOrErr json (.fwBiosSetSetting name val password)
            (okBare [.string "name" name, .string "value" val])
            (do outKv "name" name
                outKv "set value" val)
  | _ =>
      reading (cliUsage "zenctl firmware bios set <setting> <value> [--password <pw>]")

def fwBios (args : List CStr) (json dryRun : Bool) : CliM σ τ Int :=
  match args with
  | [] => reading (cliUsage "zenctl firmware bios <list|get|set> ...")
  | sub :: rest =>
      if sub = "list" then reading (fwBiosList json)
      else if sub = "get" then reading (fwBiosGet rest json)
      else if sub = "set" then fwBiosSet rest json dryRun
      else reading (cliUsage "zenctl firmware bios <list|get|set> ...")

def cmdFirmware (args : List CStr) (json dryRun confirm : Bool) : CliM σ τ Int :=
  match args with
  | [] => reading (cliUsage "zenctl firmware <dmi|efi|acpi|bios> ...")
  | sub :: rest =>
      if sub = "dmi" then reading (fwDmi rest json)
      else if sub = "efi" then fwEfi rest json dryRun confirm
      else if sub = "acpi" then reading (fwAcpi rest json)
      else if sub = "bios" then fwBios rest json dryRun
      else reading (cliUsage "zenctl firmware <dmi|efi|acpi|bios> ...")

end Zenctl
