import Zenctl.Command

namespace Zenctl

open CString

/-!
# `zenctl storage`, `zenctl net`, `zenctl pcie` and `zenctl caps`

These three device domains have one shape: an option names the device, a
reader opens it and prints one object, a writer checks its value, announces it
or opens the device and calls one setter.
-/

variable {σ τ : Type}

/-- The value of the option that names the device. -/
def deviceArg (option : CStr) (args : List CStr) : Option CStr :=
  match cmdOptStr option args with
  | .value v => some v
  | _ => none

/-- Find the device option, open the device, read. -/
def readDevice {H : Type} (option missing noOpen : CStr) (openCall : CStr → Query H)
    (args : List CStr) (json : Bool) (reader : CStr → H → ReadM σ τ Int) : ReadM σ τ Int := do
  match deviceArg option args with
  | none => failWith json none missing
  | some dev =>
      match ← query (openCall dev) with
      | .error err => failWith json (some err) noOpen
      | .ok handle => reader dev handle

/-- Announce a change, or open the device and call one setter. -/
def writeDevice {H : Type} (openCall : Query H) (noOpen : CStr) (json dryRun : Bool)
    (announced done : List Field) (wouldDo : CStr) (call : H → Update) (fallback : CStr)
    (lines : ReadM σ τ Unit) : CliM σ τ Int :=
  if dryRun then
    reading (report json (okObject (.bool "dry_run" true :: announced))
      (outDryrun (bounded 256 wouldDo)))
  else do
    match ← reading (query openCall) with
    | .error err => reading (failWith json (some err) noOpen)
    | .ok handle => setOr json (call handle) fallback (okObject done) lines

/-- `%d` cells and other getters that print one line under the device line. -/
def deviceLines (label dev name value : CStr) : ReadM σ τ Unit := do
  outKv label dev
  outKv name value

/-- A directory listing as a JSON array with its length, or as a one-column table. -/
def listCommand (path message key header : CStr) (filter : CStr → Bool) (json : Bool) :
    ReadM σ τ Int := do
  match ← cmdListDir path filter with
  | none => failWith json none message
  | some names =>
      report json
        (okObjectArray [.int "count" names.length] key (names.map outJsonEscape))
        (do outTable [header]
            forEach (fun name => outTableRow [name]) names)

/-! ## Storage -/

def cacheTypeStr : CacheType → CStr
  | .writeBack => "write back"
  | .writeThrough => "write through"
  | .none => "none"
  | .writeBackFua => "write back (fua)"

def CacheType.id : CacheType → Int
  | .writeBack => 0
  | .writeThrough => 1
  | .none => 2
  | .writeBackFua => 3

def cacheTypeParse (text : CStr) : Option CacheType :=
  if text = "write_back" ∨ text = "write-back" ∨ text = "write back" then some .writeBack
  else if text = "write_through" ∨ text = "write-through" ∨ text = "write through" then
    some .writeThrough
  else if text = "none" then some .none
  else none

def readStorage (args : List CStr) (json : Bool)
    (reader : CStr → StorageHandle → ReadM σ τ Int) : ReadM σ τ Int :=
  readDevice "--dev" "missing --dev <device>" "cannot open device" .storageOpen args json reader

def writeStorage (dev : CStr) (json dryRun : Bool) (action : CStr) (value : Field)
    (wouldDo : CStr) (call : StorageHandle → Update) (fallback line : CStr) : CliM σ τ Int :=
  writeDevice (.storageOpen dev) "cannot open device" json dryRun
    [.string "action" action, .string "device" dev, value] [.string "device" dev, value]
    wouldDo call fallback (put (dev ++ ": ".toList ++ line ++ ['\n']))

def stGetScheduler (args : List CStr) (json : Bool) : ReadM σ τ Int :=
  readStorage args json fun dev st => do
    let current ← query (.storageGetScheduler st)
    let list ← query (.storageListSchedulers st)
    match current with
    | .error err => failWith json (some err) "cannot read scheduler"
    | .ok scheduler =>
        report json
          (okObject ([.string "device" dev, .string "scheduler" scheduler] ++
            match list with
            | .ok names => [.string "available" names]
            | .error _ => []))
          (do deviceLines "Device" dev "Scheduler" scheduler
              match list with
              | .ok names => outKv "Available" names
              | .error _ => pure ())

def stSetScheduler (args : List CStr) (json dryRun : Bool) : CliM σ τ Int :=
  match deviceArg "--dev" args with
  | none => reading (failWith json none "missing --dev <device>")
  | some dev =>
      match positionalArg args 0 with
      | none => reading (failWith json none "missing scheduler name")
      | some sched =>
          writeStorage dev json dryRun "set_scheduler" (.string "scheduler" sched)
            ("Would set scheduler='".toList ++ sched ++ "' on ".toList ++ dev)
            (fun st => .storageSetScheduler st sched) "set scheduler failed"
            ("scheduler=".toList ++ sched)

def stGetQueueDepth (args : List CStr) (json : Bool) : ReadM σ τ Int :=
  readStorage args json fun dev st => do
    match ← query (.storageGetQueueDepth st) with
    | .error err => failWith json (some err) "cannot read queue_depth"
    | .ok qd =>
        report json (okObject [.string "device" dev, .int "queue_depth" qd])
          (deviceLines "Device" dev "Queue depth" (showInt qd))

def stGetReadAhead (args : List CStr) (json : Bool) : ReadM σ τ Int :=
  readStorage args json fun dev st => do
    match ← query (.storageGetReadAhead st) with
    | .error err => failWith json (some err) "cannot read read-ahead"
    | .ok ra =>
        report json (okObject [.string "device" dev, .int "read_ahead_kb" ra])
          (deviceLines "Device" dev "Read-ahead" (showInt ra ++ " kB".toList))

def stSetReadAhead (args : List CStr) (json dryRun : Bool) : CliM σ τ Int :=
  match deviceArg "--dev" args with
  | none => reading (failWith json none "missing --dev <device>")
  | some dev =>
      match positionalArg args 0 with
      | none => reading (failWith json none "missing KB value")
      | some text =>
          match (wholeInt text).filter (0 ≤ ·) with
          | none =>
              reading (failWith json none "read-ahead must be a non-negative integer (kB)")
          | some kb =>
              writeStorage dev json dryRun "set_read_ahead" (.int "read_ahead_kb" kb)
                ("Would set read_ahead_kb=".toList ++ showInt kb ++ " on ".toList ++ dev)
                (fun st => .storageSetReadAhead st kb) "set read-ahead failed"
                ("read_ahead_kb=".toList ++ showInt kb)

def stGetCacheType (args : List CStr) (json : Bool) : ReadM σ τ Int :=
  readStorage args json fun dev st => do
    match ← query (.storageGetCacheType st) with
    | .error err => failWith json (some err) "cannot read cache_type"
    | .ok type =>
        report json
          (okObject [.string "device" dev, .string "cache_type" (cacheTypeStr type),
            .int "cache_type_id" type.id])
          (deviceLines "Device" dev "Cache type" (cacheTypeStr type))

def stSetCacheType (args : List CStr) (json dryRun : Bool) : CliM σ τ Int :=
  match deviceArg "--dev" args with
  | none => reading (failWith json none "missing --dev <device>")
  | some dev =>
      match positionalArg args 0 with
      | none => reading (failWith json none "missing cache type")
      | some text =>
          match cacheTypeParse text with
          | none =>
              reading (failWith json none "cache type must be write_back|write_through|none")
          | some type =>
              writeStorage dev json dryRun "set_cache_type" (.string "cache_type" text)
                ("Would set cache_type='".toList ++ text ++ "' on ".toList ++ dev)
                (fun st => .storageSetCacheType st type) "set cache_type failed"
                ("cache_type=".toList ++ text)

def ioStatsFields (s : IoStats) : List Field :=
  [.int "reads_completed" s.readsCompleted, .int "reads_merged" s.readsMerged,
    .int "sectors_read" s.sectorsRead, .int "time_reading_ms" s.timeReadingMs,
    .int "writes_completed" s.writesCompleted, .int "writes_merged" s.writesMerged,
    .int "sectors_written" s.sectorsWritten, .int "time_writing_ms" s.timeWritingMs,
    .int "ios_in_progress" s.iosInProgress, .int "time_io_ms" s.timeIoMs,
    .int "weighted_time_io_ms" s.weightedTimeIoMs,
    .int "discards_completed" s.discardsCompleted, .int "discards_merged" s.discardsMerged,
    .int "sectors_discarded" s.sectorsDiscarded,
    .int "time_discarding_ms" s.timeDiscardingMs,
    .int "flushes_completed" s.flushesCompleted, .int "time_flushing_ms" s.timeFlushingMs]

def stGetStats (args : List CStr) (json : Bool) : ReadM σ τ Int :=
  readStorage args json fun dev st => do
    match ← query (.storageGetIoStats st) with
    | .error err => failWith json (some err) "cannot read I/O stats"
    | .ok s =>
        report json
          (okEnvelope ('{' :: (outJsonFields true [.string "device" dev] ++
            emitComma false ++ outJsonEscape "stats" ++ ':' :: (objectText (ioStatsFields s) ++
              ['}']))))
          (do outKv "Device" dev
              outKv "Reads completed" (showInt s.readsCompleted)
              outKv "Sectors read" (showInt s.sectorsRead)
              outKv "Time reading" (showInt s.timeReadingMs ++ " ms".toList)
              outKv "Writes completed" (showInt s.writesCompleted)
              outKv "Sectors written" (showInt s.sectorsWritten)
              outKv "Time writing" (showInt s.timeWritingMs ++ " ms".toList)
              outKv "I/Os in progress" (showInt s.iosInProgress)
              outKv "Discards completed" (showInt s.discardsCompleted)
              outKv "Flushes completed" (showInt s.flushesCompleted))

def stGetPower (args : List CStr) (json : Bool) : ReadM σ τ Int :=
  readStorage args json fun dev st => do
    match ← query (.storageGetPowerControl st) with
    | .error err => failWith json (some err) "cannot read power control"
    | .ok mode =>
        report json (okObject [.string "device" dev, .string "power" mode])
          (deviceLines "Device" dev "Power control" mode)

def stSetPower (args : List CStr) (json dryRun : Bool) : CliM σ τ Int :=
  match deviceArg "--dev" args with
  | none => reading (failWith json none "missing --dev <device>")
  | some dev =>
      match positionalArg args 0 with
      | none => reading (failWith json none "missing power mode (auto|on)")
      | some mode =>
          if mode ≠ "auto".toList ∧ mode ≠ "on".toList then
            reading (failWith json none "power mode must be 'auto' or 'on'")
          else
            writeStorage dev json dryRun "set_power" (.string "power" mode)
              ("Would set power='".toList ++ mode ++ "' on ".toList ++ dev)
              (fun st => .storageSetPowerControl st mode) "set power failed"
              ("power=".toList ++ mode)

/-- The filter of `storage list` and `net list`: a plain file name. -/
def plainEntryFilter (name : CStr) : Bool :=
  name ≠ [] && !name.contains '/' && name ≠ ['.'] && name ≠ ['.', '.']

def stList (json : Bool) : ReadM σ τ Int :=
  listCommand "/sys/block" "cannot enumerate /sys/block" "devices" "DEVICE" plainEntryFilter json

def cmdStorageGet (args : List CStr) (json : Bool) : ReadM σ τ Int :=
  match args with
  | [] => failWith json none "missing get target"
  | what :: rest =>
      if what = "scheduler" then stGetScheduler rest json
      else if what = "queue-depth" then stGetQueueDepth rest json
      else if what = "read-ahead" then stGetReadAhead rest json
      else if what = "cache-type" then stGetCacheType rest json
      else if what = "stats" then stGetStats rest json
      else if what = "power" then stGetPower rest json
      else unknownWord json "unknown storage get target '" what
        "'. Valid: scheduler, queue-depth, read-ahead, cache-type, stats, power"

def cmdStorageSet (args : List CStr) (json dryRun : Bool) : CliM σ τ Int :=
  match args with
  | [] => reading (failWith json none "missing set target")
  | what :: rest =>
      if what = "scheduler" then stSetScheduler rest json dryRun
      else if what = "read-ahead" then stSetReadAhead rest json dryRun
      else if what = "cache-type" then stSetCacheType rest json dryRun
      else if what = "power" then stSetPower rest json dryRun
      else reading (unknownWord json "unknown storage set target '" what
        "'. Valid: scheduler, read-ahead, cache-type, power")

def cmdStorage (args : List CStr) (json dryRun : Bool) : CliM σ τ Int :=
  match args with
  | [] => reading (failWith json none "missing subcommand")
  | sub :: rest =>
      if sub = "list" then reading (stList json)
      else if sub = "get" then reading (cmdStorageGet rest json)
      else if sub = "set" then cmdStorageSet rest json dryRun
      else reading (unknownWord json "unknown storage subcommand '" sub "'. Try: list, get, set")

/-! ## Network interfaces -/

def readNet (args : List CStr) (json : Bool)
    (reader : CStr → NetHandle → ReadM σ τ Int) : ReadM σ τ Int :=
  readDevice "--iface" "missing --iface <iface>" "cannot open interface" .netOpen args json reader

def writeNet (iface : CStr) (json dryRun : Bool) (action : CStr) (values : List Field)
    (wouldDo : CStr) (call : NetHandle → Update) (fallback line : CStr) : CliM σ τ Int :=
  writeDevice (.netOpen iface) "cannot open interface" json dryRun
    (.string "action" action :: .string "iface" iface :: values) (.string "iface" iface :: values)
    wouldDo call fallback (put (iface ++ ": ".toList ++ line ++ ['\n']))

/-- An integer getter that leaves its target at zero when it fails. -/
def intOrZero (call : Query Int) : ReadM σ τ Int := do
  match ← query call with
  | .ok v => pure v
  | .error _ => pure 0

def netGetRing (args : List CStr) (json : Bool) : ReadM σ τ Int :=
  readNet args json fun iface net => do
    let rx ← query (.netGetRingRx net)
    let tx ← query (.netGetRingTx net)
    let rxMax ← intOrZero (.netGetRingRxMax net)
    let txMax ← intOrZero (.netGetRingTxMax net)
    match rx, tx with
    | .error _, .error err => failWith json (some err) "cannot read ring parameters"
    | _, _ =>
        let rxNow := match rx with
          | .ok v => v
          | .error _ => 0
        let txNow := match tx with
          | .ok v => v
          | .error _ => 0
        report json
          (okObject ([.string "iface" iface, .int "rx" rxNow, .int "tx" txNow] ++
            (if 0 < rxMax then [.int "rx_max" rxMax] else []) ++
            (if 0 < txMax then [.int "tx_max" txMax] else [])))
          (do outKv "Interface" iface
              outKv "RX pending" (showInt rxNow)
              outKv "TX pending" (showInt txNow)
              outKv "RX max" (showInt rxMax)
              outKv "TX max" (showInt txMax))

/-- The ring selector and the size text, or the message of the refusal. -/
def ringChoice (args : List CStr) : Except CStr (Bool × CStr) :=
  match positionalArg args 0, positionalArg args 1 with
  | some word, some sizeText =>
      if word = "rx" then .ok (false, sizeText)
      else if word = "tx" then .ok (true, sizeText)
      else if (word.head?.map isDigit).getD false then .ok (false, word)
      else .error "ring selector must be 'rx' or 'tx'"
  | some sizeText, none => .ok (false, sizeText)
  | none, _ => .error "missing ring size"

def netSetRing (args : List CStr) (json dryRun : Bool) : CliM σ τ Int :=
  match deviceArg "--iface" args with
  | none => reading (failWith json none "missing --iface <iface>")
  | some iface =>
      match ringChoice args with
      | .error message => reading (failWith json none message)
      | .ok (isTx, sizeText) =>
          match (wholeInt sizeText).filter (0 ≤ ·) with
          | none => reading (failWith json none "ring size must be a non-negative integer")
          | some n =>
              let which : CStr := if isTx then "tx" else "rx"
              writeNet iface json dryRun "set_ring" [.string "which" which, .int "size" n]
                ("Would set ring ".toList ++ which ++ "=".toList ++ showInt n ++ " on ".toList ++
                  iface)
                (fun net => if isTx then .netSetRingTx net (toInt32 n)
                  else .netSetRingRx net (toInt32 n))
                "set ring failed" ("ring ".toList ++ which ++ "=".toList ++ showInt n)

/-- A flag getter that leaves its target false when it fails. -/
def boolOrFalse (call : Query Bool) : ReadM σ τ Bool := do
  match ← query call with
  | .ok v => pure v
  | .error _ => pure false

def onOff (on : Bool) : CStr := if on then "on" else "off"

def netGetOffload (args : List CStr) (json : Bool) : ReadM σ τ Int :=
  readNet args json fun iface net => do
    let tso ← boolOrFalse (.netGetOffload net .tso)
    let gro ← boolOrFalse (.netGetOffload net .gro)
    let gso ← boolOrFalse (.netGetOffload net .gso)
    let rxcsum ← boolOrFalse (.netGetOffload net .rxcsum)
    let txcsum ← boolOrFalse (.netGetOffload net .txcsum)
    report json
      (okObject [.string "iface" iface, .bool "tso" tso, .bool "gro" gro, .bool "gso" gso,
        .bool "rxcsum" rxcsum, .bool "txcsum" txcsum])
      (do outKv "Interface" iface
          outKv "TSO" (onOff tso)
          outKv "GRO" (onOff gro)
          outKv "GSO" (onOff gso)
          outKv "RXCSUM" (onOff rxcsum)
          outKv "TXCSUM" (onOff txcsum))

def parseOffload (flag : CStr) : Option Offload :=
  if flag = "tso" then some .tso
  else if flag = "gro" then some .gro
  else if flag = "gso" then some .gso
  else if flag = "rxcsum" then some .rxcsum
  else if flag = "txcsum" then some .txcsum
  else none

/-- The flag is looked up after the interface has been opened, and only then. -/
def netSetOffload (args : List CStr) (json dryRun : Bool) : CliM σ τ Int := do
  match deviceArg "--iface" args with
  | none => reading (failWith json none "missing --iface <iface>")
  | some iface =>
      match positionalArg args 0, positionalArg args 1 with
      | some flag, some word =>
          if word ≠ "on".toList ∧ word ≠ "off".toList then
            reading (failWith json none "value must be 'on' or 'off'")
          else
            let on : Bool := word = "on".toList
            let values : List Field := [.string "flag" flag, .bool "on" on]
            if dryRun then
              reading (report json
                (okObject ([.bool "dry_run" true, .string "action" "set_offload",
                  .string "iface" iface] ++ values))
                (outDryrun (bounded 256 ("Would set offload ".toList ++ flag ++ "=".toList ++
                  word ++ " on ".toList ++ iface))))
            else
              match ← reading (query (.netOpen iface)) with
              | .error err => reading (failWith json (some err) "cannot open interface")
              | .ok net =>
                  match parseOffload flag with
                  | none =>
                      reading (failWith json none
                        "unknown offload flag (try tso|gro|gso|rxcsum|txcsum)")
                  | some offload =>
                      setOr json (.netSetOffload net offload on) "set offload failed"
                        (okObject (.string "iface" iface :: values))
                        (put (iface ++ ": offload ".toList ++ flag ++ "=".toList ++ word ++ ['\n']))
      | _, _ => reading (failWith json none "usage: set offload <flag> <on|off>")

def netGetLink (args : List CStr) (json : Bool) : ReadM σ τ Int :=
  readNet args json fun iface net => do
    let speed ← query (.netGetSpeed net)
    let duplex ← query (.netGetDuplex net)
    let link ← query (.netGetLink net)
    report json
      (okObject ([.string "iface" iface] ++
        (match link with
          | .ok up => [.bool "link_up" up]
          | .error _ => []) ++
        (match speed with
          | .ok v => [.int "speed_mbps" v]
          | .error _ => []) ++
        (match duplex with
          | .ok v => [.string "duplex" v]
          | .error _ => [])))
      (do outKv "Interface" iface
          match link with
          | .ok up => outKv "Link" (if up then "up" else "down")
          | .error _ => pure ()
          match speed with
          | .ok v => outKv "Speed" (showInt v ++ " Mbps".toList)
          | .error _ => pure ()
          match duplex with
          | .ok v => outKv "Duplex" v
          | .error _ => pure ())

def netGetMtu (args : List CStr) (json : Bool) : ReadM σ τ Int :=
  readNet args json fun iface net => do
    match ← query (.netGetMtu net) with
    | .error err => failWith json (some err) "cannot read MTU"
    | .ok mtu =>
        report json (okObject [.string "iface" iface, .int "mtu" mtu])
          (deviceLines "Interface" iface "MTU" (showInt mtu))

def netSetMtu (args : List CStr) (json dryRun : Bool) : CliM σ τ Int :=
  match deviceArg "--iface" args with
  | none => reading (failWith json none "missing --iface <iface>")
  | some iface =>
      match positionalArg args 0 with
      | none => reading (failWith json none "missing MTU value")
      | some text =>
          match (wholeInt text).filter (fun v => 68 ≤ v ∧ v ≤ 65536) with
          | none => reading (failWith json none "MTU must be in 68..65536")
          | some mtu =>
              writeNet iface json dryRun "set_mtu" [.int "mtu" mtu]
                ("Would set mtu=".toList ++ showInt mtu ++ " on ".toList ++ iface)
                (fun net => .netSetMtu net (toInt32 mtu)) "set MTU failed"
                ("mtu=".toList ++ showInt mtu)

def netGetIrq (args : List CStr) (json : Bool) : ReadM σ τ Int :=
  readNet args json fun iface net => do
    let irq ← query (.netGetIrq net)
    let mask ← query (.netGetIrqAffinity net)
    match irq with
    | .error err => failWith json (some err) "cannot read IRQ"
    | .ok irq =>
        report json
          (okObject ([.string "iface" iface, .int "irq" irq] ++
            match mask with
            | .ok mask => [.string "smp_affinity" mask]
            | .error _ => []))
          (do deviceLines "Interface" iface "IRQ" (showInt irq)
              match mask with
              | .ok mask => outKv "SMP affinity" mask
              | .error _ => pure ())

def netSetIrqAffinity (args : List CStr) (json dryRun : Bool) : CliM σ τ Int :=
  match deviceArg "--iface" args with
  | none => reading (failWith json none "missing --iface <iface>")
  | some iface =>
      match positionalArg args 0 with
      | none => reading (failWith json none "missing cpumask")
      | some mask =>
          writeNet iface json dryRun "set_irq_affinity" [.string "smp_affinity" mask]
            ("Would set irq affinity='".toList ++ mask ++ "' on ".toList ++ iface)
            (fun net => .netSetIrqAffinity net mask) "set irq-affinity failed"
            ("smp_affinity=".toList ++ mask)

def netList (json : Bool) : ReadM σ τ Int :=
  listCommand "/sys/class/net" "cannot enumerate /sys/class/net" "interfaces" "INTERFACE"
    plainEntryFilter json

def cmdNetGet (args : List CStr) (json : Bool) : ReadM σ τ Int :=
  match args with
  | [] => failWith json none "missing get target"
  | what :: rest =>
      if what = "ring" then netGetRing rest json
      else if what = "offload" then netGetOffload rest json
      else if what = "link" then netGetLink rest json
      else if what = "mtu" then netGetMtu rest json
      else if what = "irq" then netGetIrq rest json
      else unknownWord json "unknown net get target '" what
        "'. Valid: ring, offload, link, mtu, irq"

def cmdNetSet (args : List CStr) (json dryRun : Bool) : CliM σ τ Int :=
  match args with
  | [] => reading (failWith json none "missing set target")
  | what :: rest =>
      if what = "ring" then netSetRing rest json dryRun
      else if what = "offload" then netSetOffload rest json dryRun
      else if what = "mtu" then netSetMtu rest json dryRun
      else if what = "irq-affinity" then netSetIrqAffinity rest json dryRun
      else reading (unknownWord json "unknown net set target '" what
        "'. Valid: ring, offload, mtu, irq-affinity")

def cmdNet (args : List CStr) (json dryRun : Bool) : CliM σ τ Int :=
  match args with
  | [] => reading (failWith json none "missing subcommand")
  | sub :: rest =>
      if sub = "list" then reading (netList json)
      else if sub = "get" then reading (cmdNetGet rest json)
      else if sub = "set" then cmdNetSet rest json dryRun
      else reading (unknownWord json "unknown net subcommand '" sub "'. Try: list, get, set")

/-! ## PCI devices -/

def readPcie (args : List CStr) (json : Bool)
    (reader : CStr → PcieHandle → ReadM σ τ Int) : ReadM σ τ Int :=
  readDevice "--addr" "missing --addr <pci-addr>" "cannot open PCI device" .pcieOpen args json
    reader

def pcieGetLink (args : List CStr) (json : Bool) : ReadM σ τ Int :=
  readPcie args json fun addr p => do
    let speed ← query (.pcieGetLinkSpeed p)
    let width ← query (.pcieGetLinkWidth p)
    let maxSpeed ← query (.pcieGetMaxLinkSpeed p)
    let maxWidth ← intOrZero (.pcieGetMaxLinkWidth p)
    match speed, width with
    | .error _, .error err => failWith json (some err) "cannot read link info"
    | _, _ =>
        report json
          (okObject ([.string "address" addr] ++
            (match speed with
              | .ok v => [.string "current_link_speed" v]
              | .error _ => []) ++
            (match width with
              | .ok v => [.int "current_link_width" v]
              | .error _ => []) ++
            (match maxSpeed with
              | .ok v => [.string "max_link_speed" v]
              | .error _ => []) ++
            [.int "max_link_width" maxWidth]))
          (do outKv "Address" addr
              match speed with
              | .ok v => outKv "Current link speed" v
              | .error _ => pure ()
              match width with
              | .ok v => outKv "Current link width" ('x' :: showInt v)
              | .error _ => pure ()
              match maxSpeed with
              | .ok v => outKv "Max link speed" v
              | .error _ => pure ()
              outKv "Max link width" ('x' :: showInt maxWidth))

def pcieGetPower (args : List CStr) (json : Bool) : ReadM σ τ Int :=
  readPcie args json fun addr p => do
    let mode ← query (.pcieGetPowerControl p)
    let d3cold ← query (.pcieGetD3coldAllowed p)
    match mode with
    | .error err => failWith json (some err) "cannot read power control"
    | .ok mode =>
        report json
          (okObject ([.string "address" addr, .string "power" mode] ++
            match d3cold with
            | .ok v => [.bool "d3cold_allowed" v]
            | .error _ => []))
          (do deviceLines "Address" addr "Power control" mode
              match d3cold with
              | .ok v => outKv "D3cold allowed" (if v then "yes" else "no")
              | .error _ => pure ())

def pcieSetPower (args : List CStr) (json dryRun : Bool) : CliM σ τ Int :=
  match deviceArg "--addr" args with
  | none => reading (failWith json none "missing --addr <pci-addr>")
  | some addr =>
      match positionalArg args 0 with
      | none => reading (failWith json none "missing power mode (auto|on)")
      | some mode =>
          if mode ≠ "auto".toList ∧ mode ≠ "on".toList then
            reading (failWith json none "power mode must be 'auto' or 'on'")
          else
            writeDevice (.pcieOpen addr) "cannot open PCI device" json dryRun
              [.string "action" "set_power", .string "address" addr, .string "power" mode]
              [.string "address" addr, .string "power" mode]
              ("Would set power='".toList ++ mode ++ "' on ".toList ++ addr)
              (fun p => .pcieSetPowerControl p mode) "set power failed"
              (put (addr ++ ": power=".toList ++ mode ++ ['\n']))

def pcieGetIommu (args : List CStr) (json : Bool) : ReadM σ τ Int :=
  readPcie args json fun addr p => do
    match ← query (.pcieGetIommuGroup p) with
    | .error err =>
        -- No group is reported as such, not as an error.
        if err.code = Err.enoent then
          report json
            (okObject [.string "address" addr, .int "iommu_group" (-1), .bool "has_iommu" false])
            (deviceLines "Address" addr "IOMMU group" "none")
        else failWith json (some err) "cannot read IOMMU group"
    | .ok group =>
        report json
          (okObject [.string "address" addr, .int "iommu_group" group, .bool "has_iommu" true])
          (deviceLines "Address" addr "IOMMU group" (showInt group))

def pcieGetNuma (args : List CStr) (json : Bool) : ReadM σ τ Int :=
  readPcie args json fun addr p => do
    match ← query (.pcieGetNumaNode p) with
    | .error err => failWith json (some err) "cannot read NUMA node"
    | .ok node =>
        report json (okObject [.string "address" addr, .int "numa_node" node])
          (deviceLines "Address" addr "NUMA node"
            (if node < 0 then "unknown (".toList ++ showInt node ++ ")".toList
             else showInt node))

/-- `%0<width>x` of a non-negative identifier. -/
def hexId (width : Nat) (n : Int) : CStr :=
  "0x".toList ++ (List.range width).map fun i =>
    hexDigit (n.toNat / 16 ^ (width - 1 - i) % 16)

def pcieGetInfo (args : List CStr) (json : Bool) : ReadM σ τ Int :=
  readPcie args json fun addr p => do
    let vendor ← query (.pcieGetVendorId p)
    let device ← query (.pcieGetDeviceId p)
    let pciClass ← query (.pcieGetClass p)
    let orZero := fun (answer : Except Err Int) => match answer with
      | .ok v => v
      | .error _ => 0
    match vendor with
    | .error err =>
        -- The error record is shared by the three calls: the last failure is printed.
        let shown := match device, pciClass with
          | _, .error last => last
          | .error last, _ => last
          | _, _ => err
        failWith json (some shown) "cannot read vendor id"
    | .ok vendor =>
        report json
          (okObject [.string "address" addr, .int "vendor_id" vendor,
            .int "device_id" (orZero device), .int "class" (orZero pciClass)])
          (do outKv "Address" addr
              outKv "Vendor ID" (hexId 4 vendor)
              outKv "Device ID" (hexId 4 (orZero device))
              outKv "Class" (hexId 6 (orZero pciClass)))

def pcieGetAspm (json : Bool) : ReadM σ τ Int := do
  match ← query .pcieGetAspmPolicy with
  | .error err => failWith json (some err) "cannot read ASPM policy"
  | .ok policy =>
      report json (okObject [.string "aspm_policy" policy]) (outKv "ASPM policy" policy)

def pcieDevFilter (name : CStr) : Bool :=
  plainEntryFilter name && name.contains ':' && name.contains '.'

def pcieList (json : Bool) : ReadM σ τ Int :=
  listCommand "/sys/bus/pci/devices" "cannot enumerate /sys/bus/pci/devices" "devices" "ADDRESS"
    pcieDevFilter json

def cmdPcieGet (args : List CStr) (json : Bool) : ReadM σ τ Int :=
  match args with
  | [] => failWith json none "missing get target"
  | what :: rest =>
      if what = "link" then pcieGetLink rest json
      else if what = "power" then pcieGetPower rest json
      else if what = "iommu" then pcieGetIommu rest json
      else if what = "numa" then pcieGetNuma rest json
      else if what = "info" then pcieGetInfo rest json
      else if what = "aspm" then pcieGetAspm json
      else unknownWord json "unknown pcie get target '" what
        "'. Valid: link, power, iommu, numa, info, aspm"

def cmdPcieSet (args : List CStr) (json dryRun : Bool) : CliM σ τ Int :=
  match args with
  | [] => reading (failWith json none "missing set target")
  | what :: rest =>
      if what = "power" then pcieSetPower rest json dryRun
      else reading (unknownWord json "unknown pcie set target '" what "'. Valid: power")

def cmdPcie (args : List CStr) (json dryRun : Bool) : CliM σ τ Int :=
  match args with
  | [] => reading (failWith json none "missing subcommand")
  | sub :: rest =>
      if sub = "list" then reading (pcieList json)
      else if sub = "get" then reading (cmdPcieGet rest json)
      else if sub = "set" then cmdPcieSet rest json dryRun
      else reading (unknownWord json "unknown pcie subcommand '" sub "'. Try: list, get, set")

/-! ## Capabilities -/

/-- `cap_table`: every domain with its status. -/
def capTable : List (CStr × CStr) :=
  ["cpu", "mem", "storage", "net", "pcie", "gpu", "thermal", "power", "usb", "bt", "wireless",
    "firmware", "profile"].map fun domain => (String.toList domain, "available".toList)

def cmdCaps (args : List CStr) (json : Bool) : ReadM σ τ Int :=
  let entries := match cmdPositional args 0 with
    | some filter => capTable.filter (·.1 = filter)
    | none => capTable
  report json
    (okObjectArray [] "caps" (entries.map fun entry =>
      objectText [.string "domain" entry.1, .string "status" entry.2]))
    (do outTable ["DOMAIN", "STATUS"]
        forEach (fun entry => outTableRow [entry.1, entry.2]) entries)

end Zenctl
