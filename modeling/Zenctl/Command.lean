import Zenctl.Output

namespace Zenctl

open CString

/-!
# Command programs

Handlers that only read and print are programs of `ReadM`: they are given the
system state and cannot return another one.  Handlers that may call a setter,
touch a profile file or ask for confirmation are programs of `CliM`, which
carries the system state and records every such step.  `reading` makes a
`ReadM` program part of a `CliM` program.

Below the two monads stand the shared helpers of `output.c`, `cmd_util.c` and
`cmd/common.h`.
-/

/-- What a handler is run against. -/
structure Ctx (σ τ : Type) where
  lib : Library σ τ
  host : Host σ
  env : Env

/-- The console and the library's own memory. -/
structure Console (τ : Type) where
  memory : τ
  stdout : CStr
  stderr : CStr
  /-- `g_widths`, the column widths of the current table. -/
  widths : List Nat

/-- A program that reads the system and prints. -/
def ReadM (σ τ α : Type) : Type 1 :=
  Ctx σ τ → σ → Console τ → α × Console τ

instance {σ τ : Type} : Monad (ReadM σ τ) where
  pure value := fun _ _ console => (value, console)
  bind program next := fun ctx sys console =>
    let result := program ctx sys console
    next result.1 ctx sys result.2

/-- A step that reaches outside the process. -/
inductive Step where
  | update (call : Update)
  | mkdir (path : CStr)
  | openWrite (path : CStr)
  | writeOut (path text : CStr)
  | unlink (path : CStr)
  /-- The confirmation prompt and whether it was answered `y` or `Y`. -/
  | prompt (what : CStr) (answer : Bool)
  deriving Repr, DecidableEq

namespace Step

/-- Everything but the confirmation prompt changes files or devices. -/
def changesState : Step → Bool
  | prompt .. => false
  | _ => true

end Step

/-- A running command: the system, the console, and the steps taken so far. -/
structure Process (σ τ : Type) where
  sys : σ
  console : Console τ
  steps : List Step

/-- A program that may change the system. -/
def CliM (σ τ α : Type) : Type 1 :=
  Ctx σ τ → Process σ τ → α × Process σ τ

instance {σ τ : Type} : Monad (CliM σ τ) where
  pure value := fun _ process => (value, process)
  bind program next := fun ctx process =>
    let result := program ctx process
    next result.1 ctx result.2

variable {σ τ α β : Type}

/-- A reading program as part of a changing one. -/
def reading (program : ReadM σ τ α) : CliM σ τ α :=
  fun ctx process =>
    let result := program ctx process.sys process.console
    (result.1, { process with console := result.2 })

/-! ## Running programs -/

section Running

variable (ctx : Ctx σ τ) (sys : σ) (console : Console τ) (process : Process σ τ)

@[simp] theorem ReadM.pure_run (value : α) :
    (pure value : ReadM σ τ α) ctx sys console = (value, console) := rfl

@[simp] theorem ReadM.bind_run (program : ReadM σ τ α) (next : α → ReadM σ τ β) :
    (program >>= next) ctx sys console =
      next (program ctx sys console).1 ctx sys (program ctx sys console).2 := rfl

@[simp] theorem ReadM.ite_run (condition : Prop) [Decidable condition]
    (first second : ReadM σ τ α) :
    (if condition then first else second) ctx sys console =
      if condition then first ctx sys console else second ctx sys console := by
  split <;> rfl

@[simp] theorem CliM.pure_run (value : α) :
    (pure value : CliM σ τ α) ctx process = (value, process) := rfl

@[simp] theorem CliM.bind_run (program : CliM σ τ α) (next : α → CliM σ τ β) :
    (program >>= next) ctx process =
      next (program ctx process).1 ctx (program ctx process).2 := rfl

@[simp] theorem CliM.ite_run (condition : Prop) [Decidable condition]
    (first second : CliM σ τ α) :
    (if condition then first else second) ctx process =
      if condition then first ctx process else second ctx process := by
  split <;> rfl

@[simp] theorem reading_run (program : ReadM σ τ α) :
    reading program ctx process =
      ((program ctx process.sys process.console).1,
        { process with console := (program ctx process.sys process.console).2 }) := rfl

end Running

/-! ## Primitive programs -/

/-- A library getter. -/
def query (call : Query β) : ReadM σ τ (Except Err β) :=
  fun ctx sys console =>
    let answer := ctx.lib.query call sys console.memory
    (answer.1, { console with memory := answer.2 })

/-- The environment of the process. -/
def getEnv : ReadM σ τ Env :=
  fun ctx _ console => (ctx.env, console)

/-- `opendir` and `readdir`. -/
def listDir (path : CStr) : ReadM σ τ (Option (List CStr)) :=
  fun ctx sys console => (ctx.host.listDir sys path, console)

/-- `access(path, mode) == 0`. -/
def access (path : CStr) (mode : Access) : ReadM σ τ Bool :=
  fun ctx sys console => (ctx.host.access sys path mode, console)

/-- Read a whole file. -/
def readFile (path : CStr) : ReadM σ τ (Except CStr (List Char)) :=
  fun ctx sys console => (ctx.host.readFile sys path, console)

/-- Print to standard output. -/
def put (text : CStr) : ReadM σ τ Unit :=
  fun _ _ console => ((), { console with stdout := console.stdout ++ text })

/-- Print to standard error. -/
def putErr (text : CStr) : ReadM σ τ Unit :=
  fun _ _ console => ((), { console with stderr := console.stderr ++ text })

/-- A library setter; the call is recorded when it is reached. -/
def update (call : Update) : CliM σ τ (Except Err Unit) :=
  fun ctx process =>
    let answer := ctx.lib.update call process.sys process.console.memory
    (answer.1,
      { sys := answer.2.1
        console := { process.console with memory := answer.2.2 }
        steps := process.steps ++ [.update call] })

def mkdir (path : CStr) : CliM σ τ Bool :=
  fun ctx process =>
    let answer := ctx.host.mkdir process.sys path
    (answer.1,
      { process with sys := answer.2, steps := process.steps ++ [.mkdir path] })

/-- `fopen(path, "w")`. -/
def openWrite (path : CStr) : CliM σ τ (Except CStr Unit) :=
  fun ctx process =>
    let answer := ctx.host.openWrite process.sys path
    (answer.1,
      { process with sys := answer.2, steps := process.steps ++ [.openWrite path] })

/-- The text written to a profile file. -/
def writeOut (path text : CStr) : CliM σ τ Unit :=
  fun ctx process =>
    ((), { process with
      sys := ctx.host.writeOut process.sys path text
      steps := process.steps ++ [.writeOut path text] })

def unlink (path : CStr) : CliM σ τ (Except CStr Unit) :=
  fun ctx process =>
    let answer := ctx.host.unlink process.sys path
    (answer.1,
      { process with sys := answer.2, steps := process.steps ++ [.unlink path] })

/-- Does the line read at the prompt start with `y` or `Y`? -/
def isYes : Option CStr → Bool
  | some ('y' :: _) | some ('Y' :: _) => true
  | _ => false

/-- The interactive prompt: a question on standard error, a line from standard input. -/
def prompt (what : CStr) : CliM σ τ Bool :=
  fun ctx process =>
    let answer := isYes ctx.env.stdinLine
    (answer,
      { process with
        console := { process.console with
          stderr := process.console.stderr ++ "About to ".toList ++ what ++
            ". Continue? [y/N] ".toList }
        steps := process.steps ++ [.prompt what answer] })

/-! ## Loops -/

/-- Run a program on every element and collect the results. -/
def collect (program : α → ReadM σ τ β) : List α → ReadM σ τ (List β)
  | [] => pure []
  | item :: rest => do
      let result ← program item
      let results ← collect program rest
      pure (result :: results)

/-- Run a changing program on every element and collect the results. -/
def collectCli (program : α → CliM σ τ β) : List α → CliM σ τ (List β)
  | [] => pure []
  | item :: rest => do
      let result ← program item
      let results ← collectCli program rest
      pure (result :: results)

/-- Run a printing program on every element. -/
def forEach (program : α → ReadM σ τ Unit) : List α → ReadM σ τ Unit
  | [] => pure ()
  | item :: rest => do
      program item
      forEach program rest

/-- The integers of a counting loop `for (i = start; i < stop; i++)`. -/
def countUp (start stop : Int) : List Int :=
  (List.range (stop - start).toNat).map fun i : Nat => start + (i : Int)

@[simp] theorem mem_countUp {start stop i : Int} :
    i ∈ countUp start stop ↔ start ≤ i ∧ i < stop := by
  simp only [countUp, List.mem_map, List.mem_range]
  constructor
  · rintro ⟨n, small, rfl⟩
    omega
  · rintro ⟨low, high⟩
    exact ⟨(i - start).toNat, by omega, by omega⟩

theorem countUp_cons {start stop : Int} (below : start < stop) :
    countUp start stop = start :: countUp (start + 1) stop := by
  have rounds : (stop - start).toNat = (stop - (start + 1)).toNat + 1 := by omega
  unfold countUp
  rw [rounds, List.range_succ_eq_map, List.map_cons, List.map_map]
  refine congrArg₂ List.cons (add_zero start) (List.map_congr_left fun i _ => ?_)
  simp only [Function.comp_apply]
  omega

/-! ## `output.c`: table mode -/

def outDim : CStr := "\x1b[2m"
def outGreen : CStr := "\x1b[32m"
def outRed : CStr := "\x1b[31m"
def outYellow : CStr := "\x1b[33m"
def outBold : CStr := "\x1b[1m"
def outReset : CStr := "\x1b[0m"

/-- A colour code, printed only when standard output is a terminal. -/
def colour (tty : Bool) (code : CStr) : CStr :=
  if tty then code else []

def outKv (label value : CStr) : ReadM σ τ Unit := do
  let env ← getEnv
  put (colour env.tty outDim ++ label ++ ":".toList ++ colour env.tty outReset ++
    ' ' :: (value ++ ['\n']))

def outKvInt (label : CStr) (value : Int) : ReadM σ τ Unit :=
  outKv label (showInt value)

def outTableReset : ReadM σ τ Unit :=
  fun _ _ console => ((), { console with widths := [] })

/-- `track_widths`: each column is as wide as the longest cell seen so far. -/
def trackWidths : List Nat → List CStr → List Nat
  | widths, [] => widths
  | [], cell :: cells => cell.length :: trackWidths [] cells
  | width :: widths, cell :: cells =>
      max width cell.length :: trackWidths widths cells

/-- The cells of one line, padded, two blanks between them. -/
def padCells (paint : Nat → CStr → CStr) (index : Nat) : List Nat → List CStr → CStr
  | width :: widths, cell :: cells =>
      paint index (cell ++ List.replicate (width - cell.length) ' ') ++
        (if cells.isEmpty then [] else "  ".toList) ++
        padCells paint (index + 1) widths cells
  | _, _ => []

def outTableHeader (cells : List CStr) : ReadM σ τ Unit :=
  fun ctx _ console =>
    let widths := trackWidths console.widths cells
    let tty := ctx.env.tty
    ((), { console with
      widths := widths
      stdout := console.stdout ++ colour tty outBold ++
        padCells (fun _ text => text) 0 widths cells ++ colour tty outReset ++ ['\n'] })

/-- `out_table_row`: the first cell is green on a terminal. -/
def outTableRow (cells : List CStr) : ReadM σ τ Unit :=
  fun ctx _ console =>
    let widths := trackWidths console.widths cells
    let tty := ctx.env.tty
    let paint := fun index (text : CStr) =>
      if index = 0 then colour tty outGreen ++ text ++ colour tty outReset else text
    ((), { console with
      widths := widths
      stdout := console.stdout ++ padCells paint 0 widths cells ++ ['\n'] })

/-- A fresh table: `out_table_reset` and `out_table_header`. -/
def outTable (cells : List CStr) : ReadM σ τ Unit := do
  outTableReset
  outTableHeader cells

def outErr (message : CStr) : ReadM σ τ Unit := do
  let env ← getEnv
  putErr (colour env.tty outRed ++ "error:".toList ++ colour env.tty outReset ++
    ' ' :: (message ++ ['\n']))

/-- The symbolic code names `out_err_code` prints. -/
def errCodeName (code : Int) : CStr :=
  if code = 1 then "EPERM"
  else if code = 2 then "ENOENT"
  else if code = 3 then "EINVAL"
  else if code = 4 then "EIO"
  else if code = 5 then "ENOTSUP"
  else if code = 6 then "ERANGE"
  else if code = 7 then "ENOMEM"
  else if code = 8 then "INTERNAL"
  else "UNKNOWN"

def outErrCode (code : Int) (message : CStr) : ReadM σ τ Unit := do
  let env ← getEnv
  putErr (colour env.tty outRed ++ "error [".toList ++ errCodeName code ++ "]:".toList ++
    colour env.tty outReset ++ ' ' :: (message ++ ['\n']))

def outDryrun (message : CStr) : ReadM σ τ Unit := do
  let env ← getEnv
  put (colour env.tty outYellow ++ "[DRY-RUN]".toList ++ colour env.tty outReset ++
    ' ' :: (message ++ ['\n']))

/-! ## `cmd_util.c` -/

/-- `cmd_print_err`: `none` is a `NULL` error record. -/
def cmdPrintErr (json : Bool) (err : Option Err) (fallback : CStr) : ReadM σ τ Unit :=
  let message := match err with
    | some err => if err.message = [] then fallback else err.message
    | none => fallback
  let full := match err with
    | some err =>
        if err.context = [] then message
        else bounded 768 (message ++ ": ".toList ++ err.context)
    | none => message
  let code := match err with
    | some err => err.code
    | none => Err.einval
  if json then put (outJsonError code full) else outErrCode code full

/-- `cmd_print_err` followed by `return 1`. -/
def failWith (json : Bool) (err : Option Err) (fallback : CStr) : ReadM σ τ Int := do
  cmdPrintErr json err fallback
  pure 1

def cmdFormatHz (env : Env) (hz : Int) : CStr :=
  if 1000000000 ≤ hz then env.printF 2 hz 1000000000 ++ " GHz".toList
  else if 1000000 ≤ hz then env.printF 2 hz 1000000 ++ " MHz".toList
  else if 1000 ≤ hz then env.printF 2 hz 1000 ++ " kHz".toList
  else showInt hz ++ " Hz".toList

/-- A directory entry `cpu<N>` with a non-negative number. -/
def isCpuEntry (name : CStr) : Bool :=
  startsWith "cpu" name &&
    match strtoll (name.drop 3) with
    | some parsed => parsed.rest = [] && decide (0 ≤ parsed.value)
    | none => false

def cmdCountCpus : ReadM σ τ Int := do
  match ← listDir "/sys/devices/system/cpu" with
  | none => pure 1
  | some names =>
      let n := (names.filter isCpuEntry).length
      pure (if 0 < n then (n : Int) else 1)

/-- What `cmd_opt_str` finds: nothing, an option without a value, or the value. -/
inductive Opt (α : Type) where
  | absent
  | missing
  | value (v : α)
  deriving Repr, DecidableEq

def cmdOptStr (name : CStr) : List CStr → Opt CStr
  | [] => .absent
  | arg :: rest =>
      if arg = name then
        match rest with
        | [] => .missing
        | v :: _ => .value v
      else if startsWith (name ++ ['=']) arg then .value (arg.drop (name.length + 1))
      else cmdOptStr name rest

def cmdOptInt (name : CStr) (args : List CStr) : Opt Int :=
  match cmdOptStr name args with
  | .absent => .absent
  | .missing => .missing
  | .value v =>
      match strtoll v with
      | some parsed => if parsed.rest = [] then .value parsed.value else .missing
      | none => .missing

/-- An argument that starts with a dash. -/
def isOption : CStr → Bool
  | '-' :: _ => true
  | _ => false

def cmdPositionalCount : List CStr → Nat
  | [] => 0
  | [arg] => if isOption arg then 0 else 1
  | arg :: next :: rest =>
      if isOption arg then
        if '=' ∈ arg then cmdPositionalCount (next :: rest) else cmdPositionalCount rest
      else cmdPositionalCount (next :: rest) + 1

def cmdPositional : List CStr → Nat → Option CStr
  | [], _ => none
  | [arg], i => if isOption arg then none else if i = 0 then some arg else none
  | arg :: next :: rest, i =>
      if isOption arg then
        if '=' ∈ arg then cmdPositional (next :: rest) i else cmdPositional rest i
      else
        match i with
        | 0 => some arg
        | i + 1 => cmdPositional (next :: rest) i

/-- The `i`-th positional, fetched after the count has been tested. -/
def positionalArg (args : List CStr) (i : Nat) : Option CStr :=
  if cmdPositionalCount args ≤ i then none else cmdPositional args i

/-- `strtol` on a whole argument: the value when nothing is left unread. -/
def wholeInt (text : CStr) : Option Int :=
  match strtoll text with
  | some parsed => if parsed.rest = [] then some parsed.value else none
  | none => none

/-- `cmd_list_dir`: the entries that pass the filter, `.` and `..` apart. -/
def cmdListDir (path : CStr) (filter : CStr → Bool) : ReadM σ τ (Option (List CStr)) := do
  match ← listDir path with
  | none => pure none
  | some names =>
      pure (some (names.filter fun name =>
        name ≠ ['.'] && name ≠ ['.', '.'] && filter name))

/-! ## `cmd/common.h` -/

/-- `cli_require_root`: true when the caller must stop. -/
def cliRequireRoot (json : Bool) : ReadM σ τ Bool := do
  let env ← getEnv
  if env.euid = 0 then pure false
  else
    if json then put (outJsonError 1 "this operation requires root")
    else outErr "this operation requires root"
    pure true

/-- `cli_opt`: the argument after the flag. -/
def cliOpt (flag : CStr) : List CStr → Option CStr
  | arg :: next :: rest => if arg = flag then some next else cliOpt flag (next :: rest)
  | _ => none

def cliOptInt (flag : CStr) (defaultVal : Int) (args : List CStr) : Int :=
  match cliOpt flag args with
  | some v => atoi v
  | none => defaultVal

def cliParseBool (text : CStr) : Option Bool :=
  if sameIgnoringCase text "on" || sameIgnoringCase text "enabled" ||
      sameIgnoringCase text "yes" || text = ['1'] || sameIgnoringCase text "true" then
    some true
  else if sameIgnoringCase text "off" || sameIgnoringCase text "disabled" ||
      sameIgnoringCase text "no" || text = ['0'] || sameIgnoringCase text "false" then
    some false
  else none

def cliParseInt (text : CStr) : Option Int :=
  match strtoll text with
  | some parsed =>
      if parsed.outOfRange = false ∧ parsed.rest = [] then some parsed.value else none
  | none => none

def cliMakeErr (code : Int) (message context : CStr) : Err where
  code := code
  message := bounded 256 message
  context := bounded 256 context
  recoverable := code ≠ Err.internal

def cliErr (json : Bool) (err : Err) : ReadM σ τ Int := do
  let message := if err.message = [] then zenctlStrerror err.code else err.message
  if json then put (outJsonError err.code message)
  else
    outErrCode err.code
      (if err.context = [] then bounded 512 message
       else bounded 512 (message ++ " (".toList ++ err.context ++ [')']))
  pure (-1)

def cliDryrun (json : Bool) (what : CStr) : ReadM σ τ Unit :=
  if json then put (dryrunJson what) else outDryrun what

/-- `cli_usage`: the text goes to standard error in both modes. -/
def cliUsage (text : CStr) : ReadM σ τ Int := do
  putErr ("usage: ".toList ++ text ++ ['\n'])
  pure (-1)

/-! ## Shapes shared by the handlers -/

/-- An unknown word, quoted in a 160-byte message. -/
def unknownWord (json : Bool) (before word after : CStr) : ReadM σ τ Int :=
  failWith json none (bounded 160 (before ++ word ++ after))

/-- The successful end of a command: a JSON document or the table-mode lines. -/
def report (json : Bool) (document : CStr) (lines : ReadM σ τ Unit) : ReadM σ τ Int := do
  if json then put document else lines
  pure 0

/-- A setter of the `cmd_print_err` handlers with both of its ends. -/
def setOr (json : Bool) (call : Update) (fallback document : CStr)
    (lines : ReadM σ τ Unit) : CliM σ τ Int := do
  match ← update call with
  | .error err => reading (failWith json (some err) fallback)
  | .ok _ => reading (report json document lines)

/-- A setter of the `cli_err` handlers with both of its ends. -/
def setOrErr (json : Bool) (call : Update) (document : CStr)
    (lines : ReadM σ τ Unit) : CliM σ τ Int := do
  match ← update call with
  | .error err => reading (cliErr json err)
  | .ok _ => reading (report json document lines)

/-- `cli_make_err` followed by `return cli_err(json, &err)`. -/
def refuse (json : Bool) (code : Int) (message context : CStr) : ReadM σ τ Int :=
  cliErr json (cliMakeErr code message context)

/-- `cli_dryrun` followed by `return 0`. -/
def announce (json : Bool) (what : CStr) : ReadM σ τ Int := do
  cliDryrun json what
  pure 0

/-- `if (cli_require_root(json)) return -1;` before the rest of a handler. -/
def asRoot (json : Bool) (next : CliM σ τ Int) : CliM σ τ Int := do
  if ← reading (cliRequireRoot json) then pure (-1) else next

/-- An `EPERM` refusal of the handlers that want `--confirm`. -/
def confirmRequired (json : Bool) (message : CStr) : ReadM σ τ Int := do
  if json then put (outJsonError Err.eperm message) else outErrCode Err.eperm message
  pure (-1)

/-- An open of the `cli_err` handlers. -/
def openOrErr (json : Bool) (call : Query β) (next : β → CliM σ τ Int) : CliM σ τ Int := do
  match ← reading (query call) with
  | .error err => reading (cliErr json err)
  | .ok handle => next handle

/-- A getter of the `cli_err` handlers: its value, or the error and `-1`. -/
def readOrErr (json : Bool) (call : Query β) (next : β → ReadM σ τ Int) : ReadM σ τ Int := do
  match ← query call with
  | .error err => cliErr json err
  | .ok value => next value

/-- A getter that prints its fields without an enclosing object. -/
def showBare (json : Bool) (call : Query β) (fields : β → List Field)
    (lines : β → ReadM σ τ Unit) : ReadM σ τ Int :=
  readOrErr json call fun value => report json (okBare (fields value)) (lines value)

/-- A getter called with a `NULL` error record. -/
def queryOpt (call : Query β) : ReadM σ τ (Option β) := do
  match ← query call with
  | .ok value => pure (some value)
  | .error _ => pure none

/-- A getter whose value is printed as a line when it succeeds. -/
def optLine (call : Query β) (line : β → ReadM σ τ Unit) : ReadM σ τ Unit := do
  match ← query call with
  | .ok value => line value
  | .error _ => pure ()

/-- A table cell that may be missing. -/
def orDash (cell : Option CStr) : CStr := cell.getD "-"

/-- A table cell that shows a dash for an empty string. -/
def dashIfEmpty (cell : CStr) : CStr := if cell = [] then "-" else cell

def trueFalse (b : Bool) : CStr := if b then "true" else "false"

/-- A getter whose value is printed as a field when it succeeds. -/
def optField (call : Query β) (field : β → Field) : ReadM σ τ (List Field) := do
  match ← query call with
  | .ok value => pure [field value]
  | .error _ => pure []

/-- The environment of a user on a machine with four CPUs and no terminal. -/
def smallEnv (uid : Nat) : Env where
  uid := uid
  euid := uid
  home := some "/home/user".toList
  stdinLine := none
  nprocessorsConf := 4
  now := 0
  tty := false
  strtod _ := none
  printF _ _ _ := []
  printG _ _ := []

end Zenctl
