import Zenctl.Api
import Zenctl.Netlink

namespace Zenctl

open CString

/-!
# Library programs over an operating system

`libzenctl` is written against the file system calls and a few sockets.  `Os`
is what the kernel answers in a system state `σ`; `Proc` is the memory of the
process that matters between calls: `errno`, the caller's error record and the
allocator.

A getter is a program of `GetM`, which cannot change the system; a setter is a
program of `SetM`.  A program returns a value, or fails (the `-1` or `NULL` of
the source), or waits for a message that never comes.
-/

/-! ## `errno` -/

/-- The error of a call that failed: never zero. -/
abbrev Errno := { code : Int // 0 < code }

namespace Errno

def eperm : Errno := ⟨1, by decide⟩
def enoent : Errno := ⟨2, by decide⟩
def eio : Errno := ⟨5, by decide⟩
def enomem : Errno := ⟨12, by decide⟩
def eacces : Errno := ⟨13, by decide⟩
def einval : Errno := ⟨22, by decide⟩
def enodev : Errno := ⟨19, by decide⟩
def enotty : Errno := ⟨25, by decide⟩
def enosys : Errno := ⟨38, by decide⟩
def erange : Errno := ⟨34, by decide⟩
def ebadmsg : Errno := ⟨74, by decide⟩
def eoverflow : Errno := ⟨75, by decide⟩
def enotsup : Errno := ⟨95, by decide⟩
def eprotonosupport : Errno := ⟨93, by decide⟩
def eafnosupport : Errno := ⟨97, by decide⟩
def enobufs : Errno := ⟨105, by decide⟩
def ealready : Errno := ⟨114, by decide⟩

end Errno

/-- `zenctl__errno_to_code`. -/
def errnoToCode (e : Int) : Int :=
  if e = 0 then Err.ok
  else if e = Errno.eacces.1 ∨ e = Errno.eperm.1 then Err.eperm
  else if e = Errno.enoent.1 then Err.enoent
  else if e = Errno.einval.1 then Err.einval
  else if e = Errno.eio.1 then Err.eio
  else if e = Errno.enomem.1 then Err.nomem
  else if e = Errno.erange.1 then Err.erange
  else if e = Errno.enotsup.1 then Err.enotsup
  else Err.internal

/-! ## What the kernel answers -/

/-- A file opened for reading: its bytes, and the error met after them if any. -/
structure OpenFile where
  bytes : List Char
  readError : Option Errno
  deriving Repr, DecidableEq

/-- What became of `fopen(path, "w")`, `fwrite` and `fclose`. -/
inductive Written where
  | done
  | openFailed (e : Errno)
  | writeFailed (e : Errno)
  | closeFailed (e : Errno)
  deriving Repr, DecidableEq

/-- `struct ethtool_ringparam`. -/
structure RingParams where
  rxMaxPending : Nat
  rxMiniMaxPending : Nat
  rxJumboMaxPending : Nat
  txMaxPending : Nat
  rxPending : Nat
  rxMiniPending : Nat
  rxJumboPending : Nat
  txPending : Nat
  deriving Repr, DecidableEq

/-- `libnvidia-ml.so.1`: loading it and the entry points the library resolves. -/
structure Nvml (σ : Type) where
  /-- `dlopen`. -/
  loads : σ → Bool
  /-- `dlsym` finds all eleven entry points. -/
  resolves : σ → Bool
  /-- `nvmlInit_v2`. -/
  starts : σ → Bool
  /-- `nvmlDeviceGetCount_v2`. -/
  count : σ → Option Nat
  /-- `nvmlDeviceGetHandleByIndex_v2`. -/
  device : σ → Nat → Option Nat
  temperature : σ → Nat → Option Nat
  fanSpeed : σ → Nat → Option Nat
  powerUsage : σ → Nat → Option Nat
  clock : σ → Nat → Option Nat
  utilization : σ → Nat → Option Nat
  powerLimit : σ → Nat → Option Nat
  setPowerLimit : σ → Nat → Nat → Bool × σ

/-- What the library uses of `struct hci_dev_info`. -/
structure HciInfo where
  /-- The `HCI_UP` bit of the flags. -/
  up : Bool
  /-- The six bytes of the address, least significant first. -/
  address : List Nat
  deriving Repr, DecidableEq

/-- What became of an inode flag call: the file could not be opened, or the `ioctl` failed. -/
inductive FlagCall (α : Type) where
  | done (result : α)
  | openFailed (e : Errno)
  | ioctlFailed (e : Errno)
  deriving Repr, DecidableEq

/-- A request on a netlink socket: the bytes sent, and what each `recvfrom` then delivers. -/
structure Exchange where
  sent : Except Errno Nat
  /-- When the list is used up, `recvfrom` waits forever. -/
  replies : List (Except Errno Netlink.Datagram)

/-- The kernel, seen through the calls the library makes. -/
structure Os (σ : Type) where
  /-- `getenv("ZENCTL_SYSFS_PREFIX")`. -/
  sysfsRoot : Option CStr
  strerror : Int → CStr
  openRead : σ → CStr → Except Errno OpenFile
  writeFile : σ → CStr → CStr → Written × σ
  access : σ → CStr → Access → Except Errno Unit
  /-- `opendir` and `readdir`: the entry names in directory order. -/
  listDir : σ → CStr → Except Errno (List CStr)
  readlink : σ → CStr → Except Errno CStr
  /-- `socket(AF_INET, SOCK_DGRAM, 0)`. -/
  inetSocket : σ → Except Errno Unit
  /-- `SIOCETHTOOL` with `ETHTOOL_GRINGPARAM` and `ETHTOOL_SRINGPARAM`. -/
  getRing : σ → CStr → Except Errno RingParams
  setRing : σ → CStr → RingParams → Except Errno Unit × σ
  /-- `SIOCETHTOOL` with the get and the set command of an offload flag. -/
  getFlag : σ → CStr → Offload → Except Errno Nat
  setFlag : σ → CStr → Offload → Nat → Except Errno Unit × σ
  nvml : Nvml σ
  /-- `open` of a device node, and `USBDEVFS_RESET` on it. -/
  openNode : σ → CStr → Except Errno Unit
  resetNode : σ → CStr → Except Errno Unit × σ
  /-- `socket(AF_BLUETOOTH, SOCK_RAW, BTPROTO_HCI)`. -/
  hciSocket : σ → Except Errno Unit
  /-- `HCIGETDEVINFO` of an adapter number. -/
  hciInfo : σ → Nat → Except Errno HciInfo
  /-- `HCIDEVUP` and `HCIDEVDOWN`. -/
  hciPower : σ → Nat → Bool → Except Errno Unit × σ
  /-- `socket(AF_NETLINK, SOCK_RAW, NETLINK_GENERIC)` and `bind`. -/
  netlinkSocket : σ → Except Errno Unit
  /-- A request that reads, and one that sets. -/
  netlinkGet : σ → Netlink.Bytes → Exchange
  netlinkSet : σ → Netlink.Bytes → Exchange × σ
  /-- `open` for writing, creating or truncating, `write` and `close`. -/
  writeBinary : σ → CStr → List Char → Written × σ
  /-- `statfs`: is it an `efivarfs`? -/
  isEfivarfs : σ → CStr → Except Errno Bool
  /-- `stat` succeeds. -/
  isFile : σ → CStr → Bool
  /-- `stat` succeeds and says directory. -/
  isDir : σ → CStr → Bool
  /-- `FS_IOC_GETFLAGS` and `FS_IOC_SETFLAGS`. -/
  getFlags : σ → CStr → FlagCall Nat
  setFlags : σ → CStr → Nat → FlagCall Unit × σ
  unlink : σ → CStr → Except Errno Unit × σ

/-! ## Programs -/

/-- The memory of the process. -/
structure Proc where
  errno : Int
  /-- The record behind the caller's `err` pointer. -/
  err : Err
  /-- Whether the coming allocations succeed; once used up, they all do. -/
  allocations : List Bool
  /-- `nvml_initialized`. -/
  nvmlInitialized : Bool
  /-- `family_id_cached`, once it is known. -/
  familyId : Option Int
  deriving Repr, DecidableEq

inductive Outcome (α : Type) where
  | value (result : α)
  | failed
  /-- The call never returns. -/
  | blocked
  deriving Repr, DecidableEq

/-- A program that reads the system. -/
def GetM (σ α : Type) : Type :=
  Os σ → σ → Proc → Outcome α × Proc

instance {σ : Type} : Monad (GetM σ) where
  pure value := fun _ _ proc => (.value value, proc)
  bind program next := fun os sys proc =>
    match program os sys proc with
    | (.value result, later) => next result os sys later
    | (.failed, later) => (.failed, later)
    | (.blocked, later) => (.blocked, later)

/-- A program that may change the system. -/
def SetM (σ α : Type) : Type :=
  Os σ → σ → Proc → Outcome α × σ × Proc

instance {σ : Type} : Monad (SetM σ) where
  pure value := fun _ sys proc => (.value value, sys, proc)
  bind program next := fun os sys proc =>
    match program os sys proc with
    | (.value result, changed, later) => next result os changed later
    | (.failed, changed, later) => (.failed, changed, later)
    | (.blocked, changed, later) => (.blocked, changed, later)

variable {σ α β : Type}

/-- A reading program as part of a changing one. -/
def getting (program : GetM σ α) : SetM σ α :=
  fun os sys proc =>
    let result := program os sys proc
    (result.1, sys, result.2)

section Running

variable (os : Os σ) (sys : σ) (proc : Proc)

@[simp] theorem GetM.pure_run (value : α) :
    (pure value : GetM σ α) os sys proc = (.value value, proc) := rfl

theorem GetM.bind_run (program : GetM σ α) (next : α → GetM σ β) :
    (program >>= next) os sys proc =
      match program os sys proc with
      | (.value result, later) => next result os sys later
      | (.failed, later) => (.failed, later)
      | (.blocked, later) => (.blocked, later) := rfl

theorem GetM.ite_run (condition : Prop) [Decidable condition] (first second : GetM σ α) :
    (if condition then first else second) os sys proc =
      if condition then first os sys proc else second os sys proc := by
  split <;> rfl

@[simp] theorem SetM.pure_run (value : α) :
    (pure value : SetM σ α) os sys proc = (.value value, sys, proc) := rfl

theorem SetM.bind_run (program : SetM σ α) (next : α → SetM σ β) :
    (program >>= next) os sys proc =
      match program os sys proc with
      | (.value result, changed, later) => next result os changed later
      | (.failed, changed, later) => (.failed, changed, later)
      | (.blocked, changed, later) => (.blocked, changed, later) := rfl

theorem SetM.ite_run (condition : Prop) [Decidable condition] (first second : SetM σ α) :
    (if condition then first else second) os sys proc =
      if condition then first os sys proc else second os sys proc := by
  split <;> rfl

@[simp] theorem getting_run (program : GetM σ α) :
    getting program os sys proc =
      ((program os sys proc).1, sys, (program os sys proc).2) := rfl

variable {os sys proc}

/-- A program that starts with one that returns goes on from there. -/
theorem GetM.bind_value
    {program : GetM σ α} {next : α → GetM σ β} {result : α} {later : Proc}
    (run : program os sys proc = (.value result, later)) :
    (program >>= next) os sys proc = next result os sys later := by
  rw [GetM.bind_run, run]

theorem GetM.bind_failed
    {program : GetM σ α} {next : α → GetM σ β} {later : Proc}
    (run : program os sys proc = (.failed, later)) :
    (program >>= next) os sys proc = (.failed, later) := by
  rw [GetM.bind_run, run]

/-- A value comes from a value of the first part. -/
theorem GetM.value_of_bind
    {program : GetM σ α} {next : α → GetM σ β} {result : β} {final : Proc}
    (run : (program >>= next) os sys proc = (.value result, final)) :
    ∃ middle later, program os sys proc = (.value middle, later) ∧
      next middle os sys later = (.value result, final) := by
  rw [GetM.bind_run] at run
  cases first : program os sys proc with
  | mk outcome later =>
      rw [first] at run
      cases outcome with
      | value middle => exact ⟨middle, later, rfl, run⟩
      | failed => cases run
      | blocked => cases run

theorem SetM.bind_value
    {program : SetM σ α} {next : α → SetM σ β} {result : α} {changed : σ} {later : Proc}
    (run : program os sys proc = (.value result, changed, later)) :
    (program >>= next) os sys proc = next result os changed later := by
  rw [SetM.bind_run, run]

theorem SetM.bind_failed
    {program : SetM σ α} {next : α → SetM σ β} {changed : σ} {later : Proc}
    (run : program os sys proc = (.failed, changed, later)) :
    (program >>= next) os sys proc = (.failed, changed, later) := by
  rw [SetM.bind_run, run]

theorem SetM.bind_getting_value
    {program : GetM σ α} {next : α → SetM σ β} {result : α} {later : Proc}
    (run : program os sys proc = (.value result, later)) :
    (getting program >>= next) os sys proc = next result os sys later := by
  rw [SetM.bind_run, getting_run, run]

theorem SetM.bind_getting_failed
    {program : GetM σ α} {next : α → SetM σ β} {later : Proc}
    (run : program os sys proc = (.failed, later)) :
    (getting program >>= next) os sys proc = (.failed, sys, later) := by
  rw [SetM.bind_run, getting_run, run]

theorem SetM.bind_getting_blocked
    {program : GetM σ α} {next : α → SetM σ β} {later : Proc}
    (run : program os sys proc = (.blocked, later)) :
    (getting program >>= next) os sys proc = (.blocked, sys, later) := by
  rw [SetM.bind_run, getting_run, run]

end Running

/-! ## Errors -/

/-- `return -1` or `return NULL`, the error record left as it is. -/
def fail : GetM σ α :=
  fun _ _ proc => (.failed, proc)

/-- The call never returns. -/
def block : GetM σ α :=
  fun _ _ proc => (.blocked, proc)

/-- The record `zenctl__set_err` fills in; both texts are cut at 255 bytes. -/
def errRecord (code : Int) (message context : CStr) : Err where
  code := code
  message := bounded 256 message
  context := bounded 256 context
  recoverable := code ≠ Err.internal

/-- `zenctl__set_err`. -/
def setErr (code : Int) (message context : CStr) : GetM σ Unit :=
  fun _ _ proc => (.value (), { proc with err := errRecord code message context })

/-- Fill the error record and return. -/
def raise (code : Int) (message context : CStr) : GetM σ α := do
  setErr code message context
  fail

def getErr : GetM σ Err :=
  fun _ _ proc => (.value proc.err, proc)

def getErrno : GetM σ Int :=
  fun _ _ proc => (.value proc.errno, proc)

def setErrno (e : Int) : GetM σ Unit :=
  fun _ _ proc => (.value (), { proc with errno := e })

def strerror (e : Int) : GetM σ CStr :=
  fun os _ proc => (.value (os.strerror e), proc)

/-- Report `errno`, under a message of its own or the one `strerror` has for it. -/
def raiseErrno (message : Option CStr) (context : CStr) : GetM σ α := do
  let e ← getErrno
  let text ← strerror e
  raise (errnoToCode e) (message.getD text) context

/-! ## System calls -/

/-- A call that sets `errno` when it fails and leaves it alone when it succeeds. -/
def sysCall (call : Os σ → σ → Except Errno α) : GetM σ (Option α) :=
  fun os sys proc =>
    match call os sys with
    | .ok result => (.value (some result), proc)
    | .error e => (.value none, { proc with errno := e.1 })

/-- A system call that may change the system. -/
def sysSet (call : Os σ → σ → Except Errno α × σ) : SetM σ (Option α) :=
  fun os sys proc =>
    match call os sys with
    | (.ok result, changed) => (.value (some result), changed, proc)
    | (.error e, changed) => (.value none, changed, { proc with errno := e.1 })

/-- A system call whose failure is reported from `errno`. -/
def sysCallOr (call : Os σ → σ → Except Errno α) (message : Option CStr) (context : CStr) :
    GetM σ α := do
  match ← sysCall call with
  | some result => pure result
  | none => raiseErrno message context

/-- `malloc`, `calloc`, `realloc` or `strdup`: is there memory? -/
def allocate : GetM σ Bool :=
  fun _ _ proc =>
    match proc.allocations with
    | [] => (.value true, proc)
    | true :: rest => (.value true, { proc with allocations := rest })
    | false :: rest =>
        (.value false, { proc with allocations := rest, errno := Errno.enomem.1 })

/-- An allocation whose failure is reported. -/
def allocateOr (message context : CStr) : GetM σ Unit := do
  if ← allocate then pure () else raise Err.nomem message context

/-- Run a program that was given the caller's `err`, and go on when it fails. -/
def attempt (program : GetM σ α) : GetM σ (Option α) :=
  fun os sys proc =>
    match program os sys proc with
    | (.value result, later) => (.value (some result), later)
    | (.failed, later) => (.value none, later)
    | (.blocked, later) => (.blocked, later)

/-- Run a program that was given `NULL` for `err`, and go on when it fails. -/
def quietly (program : GetM σ α) : GetM σ (Option α) :=
  fun os sys proc =>
    match attempt program os sys proc with
    | (result, later) => (result, { later with err := proc.err })

/-- `attempt` for a changing program. -/
def attemptSet (program : SetM σ α) : SetM σ (Option α) :=
  fun os sys proc =>
    match program os sys proc with
    | (.value result, changed, later) => (.value (some result), changed, later)
    | (.failed, changed, later) => (.value none, changed, later)
    | (.blocked, changed, later) => (.blocked, changed, later)

/-- `quietly` for a changing program. -/
def quietlySet (program : SetM σ α) : SetM σ (Option α) :=
  fun os sys proc =>
    match attemptSet program os sys proc with
    | (result, changed, later) => (result, changed, { later with err := proc.err })

section Memory

variable {os : Os σ} {sys : σ} {proc : Proc}

/-- With memory left, every allocation succeeds. -/
theorem allocate_run (memory : proc.allocations = []) :
    allocate os sys proc = (.value true, proc) := by
  unfold allocate
  rw [memory]

theorem allocateOr_plenty (memory : proc.allocations = []) (message context : CStr) :
    allocateOr message context os sys proc = (.value (), proc) := by
  unfold allocateOr
  rw [GetM.bind_value (allocate_run memory)]
  rfl

theorem sysCall_ok
    {call : Os σ → σ → Except Errno α} {result : α}
    (answer : call os sys = .ok result) :
    sysCall call os sys proc = (.value (some result), proc) := by
  unfold sysCall
  rw [answer]

theorem sysCall_error
    {call : Os σ → σ → Except Errno α} {e : Errno}
    (answer : call os sys = .error e) :
    sysCall call os sys proc = (.value none, { proc with errno := e.1 }) := by
  unfold sysCall
  rw [answer]

theorem quietly_value
    {program : GetM σ α} {result : α} {later : Proc}
    (run : program os sys proc = (.value result, later)) :
    quietly program os sys proc = (.value (some result), { later with err := proc.err }) := by
  unfold quietly attempt
  rw [run]

theorem quietly_failed
    {program : GetM σ α} {later : Proc}
    (run : program os sys proc = (.failed, later)) :
    quietly program os sys proc = (.value none, { later with err := proc.err }) := by
  unfold quietly attempt
  rw [run]

theorem attemptSet_value
    {program : SetM σ α} {result : α} {changed : σ} {later : Proc}
    (run : program os sys proc = (.value result, changed, later)) :
    attemptSet program os sys proc = (.value (some result), changed, later) := by
  unfold attemptSet
  rw [run]

theorem attemptSet_failed
    {program : SetM σ α} {changed : σ} {later : Proc}
    (run : program os sys proc = (.failed, changed, later)) :
    attemptSet program os sys proc = (.value none, changed, later) := by
  unfold attemptSet
  rw [run]

theorem quietlySet_value
    {program : SetM σ α} {result : α} {changed : σ} {later : Proc}
    (run : program os sys proc = (.value result, changed, later)) :
    quietlySet program os sys proc =
      (.value (some result), changed, { later with err := proc.err }) := by
  unfold quietlySet
  rw [attemptSet_value run]

theorem quietlySet_failed
    {program : SetM σ α} {changed : σ} {later : Proc}
    (run : program os sys proc = (.failed, changed, later)) :
    quietlySet program os sys proc = (.value none, changed, { later with err := proc.err }) := by
  unfold quietlySet
  rw [attemptSet_failed run]

end Memory

/-! ## What a program returns -/

/-- Every value the program returns is of this kind. -/
def GetM.Returns (program : GetM σ α) (kind : α → Prop) : Prop :=
  ∀ os sys proc value, (program os sys proc).1 = .value value → kind value

theorem GetM.Returns.pure
    {kind : α → Prop} {value : α} (holds : kind value) :
    (Pure.pure value : GetM σ α).Returns kind := by
  rintro os sys proc _ ⟨⟩
  exact holds

theorem GetM.Returns.bind
    {program : GetM σ α} {next : α → GetM σ β} {middle : α → Prop} {kind : β → Prop}
    (first : program.Returns middle)
    (second : ∀ value, middle value → (next value).Returns kind) :
    (program >>= next).Returns kind := by
  intro os sys proc value result
  rw [GetM.bind_run] at result
  split at result
  · next inner later run =>
      exact second inner (first os sys proc inner (by rw [run])) os sys later value result
  · cases result
  · cases result

/-- Nothing is asked of the values in the middle. -/
theorem GetM.Returns.any (program : GetM σ α) :
    program.Returns fun _ => True :=
  fun _ _ _ _ _ => trivial

theorem GetM.Returns.raise
    {kind : α → Prop} (code : Int) (message context : CStr) :
    (Zenctl.raise code message context : GetM σ α).Returns kind := by
  rintro os sys proc value ⟨⟩

/-! ## The error contract -/

/-- The codes an error record can hold, `ZENCTL_OK` included. -/
def Proc.Sound (proc : Proc) : Prop :=
  0 ≤ proc.err.code ∧ proc.err.code ≤ 8

/-- The error record holds one of the `ZENCTL_ERR_*` codes. -/
def Proc.Reported (proc : Proc) : Prop :=
  1 ≤ proc.err.code ∧ proc.err.code ≤ 8

/-- Every failure of the program is reported in the error record. -/
def GetM.Reports (program : GetM σ α) : Prop :=
  ∀ os sys proc, proc.Sound →
    (program os sys proc).2.Sound ∧
      ((program os sys proc).1 = .failed → (program os sys proc).2.Reported)

@[inherit_doc GetM.Reports]
def SetM.Reports (program : SetM σ α) : Prop :=
  ∀ os sys proc, proc.Sound →
    (program os sys proc).2.2.Sound ∧
      ((program os sys proc).1 = .failed → (program os sys proc).2.2.Reported)

theorem Proc.Reported.sound
    {proc : Proc} (reported : proc.Reported) :
    proc.Sound :=
  ⟨by have := reported.1; omega, reported.2⟩

/-- A failed call reports a non-zero code. -/
theorem errnoToCode_errno (e : Errno) :
    1 ≤ errnoToCode e.1 ∧ errnoToCode e.1 ≤ 8 := by
  have positive := e.2
  have nonzero : e.1 ≠ 0 := by omega
  unfold errnoToCode
  simp only [nonzero, ↓reduceIte]
  split_ifs <;> decide

/-- Only `errno` zero maps to `ZENCTL_OK`. -/
theorem errnoToCode_bounds (e : Int) :
    0 ≤ errnoToCode e ∧ errnoToCode e ≤ 8 ∧ (errnoToCode e = 0 ↔ e = 0) := by
  unfold errnoToCode
  split_ifs <;> simp_all <;> decide

/-! ## Bare machines -/

/-- A machine without an NVIDIA driver. -/
def noNvml : Nvml σ where
  loads _ := false
  resolves _ := false
  starts _ := false
  count _ := none
  device _ _ := none
  temperature _ _ := none
  fanSpeed _ _ := none
  powerUsage _ _ := none
  clock _ _ := none
  utilization _ _ := none
  powerLimit _ _ := none
  setPowerLimit sys _ _ := (false, sys)

/-- A machine without files, devices and sockets. -/
def bareOs : Os σ where
  sysfsRoot := none
  strerror _ := "error"
  openRead _ _ := .error Errno.enoent
  writeFile sys _ _ := (.openFailed Errno.enoent, sys)
  access _ _ _ := .error Errno.enoent
  listDir _ _ := .error Errno.enoent
  readlink _ _ := .error Errno.enoent
  inetSocket _ := .error Errno.eafnosupport
  getRing _ _ := .error Errno.enodev
  setRing sys _ _ := (.error Errno.enodev, sys)
  getFlag _ _ _ := .error Errno.enodev
  setFlag sys _ _ _ := (.error Errno.enodev, sys)
  nvml := noNvml
  openNode _ _ := .error Errno.enoent
  resetNode sys _ := (.error Errno.enoent, sys)
  hciSocket _ := .error Errno.eafnosupport
  hciInfo _ _ := .error Errno.enodev
  hciPower sys _ _ := (.error Errno.enodev, sys)
  netlinkSocket _ := .error Errno.eprotonosupport
  netlinkGet _ _ := ⟨.error Errno.eio, []⟩
  netlinkSet sys _ := (⟨.error Errno.eio, []⟩, sys)
  writeBinary sys _ _ := (.openFailed Errno.enoent, sys)
  isEfivarfs _ _ := .error Errno.enoent
  isFile _ _ := false
  isDir _ _ := false
  getFlags _ _ := .openFailed Errno.enoent
  setFlags sys _ _ := (.openFailed Errno.enoent, sys)
  unlink sys _ := (.error Errno.enoent, sys)

/-- A process that has made no call yet. -/
def freshProc : Proc := ⟨0, Err.zero, [], false, none⟩

end Zenctl
