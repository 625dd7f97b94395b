import Zenctl.LibGpu

namespace Zenctl

open CString

/-!
# The three globals of `nvml.c`

The handle of the library, the flag that it is initialised and the table of
its entry points change together, or not at all.  Beside them the model keeps
what was asked of the loader and which entry points were called.
-/

/-! ## State -/

/-- The members of `struct nvml_fns`. -/
inductive NvmlFn where
  | init
  | shutdown
  | getCount
  | getHandle
  | getTemp
  | getFan
  | getPower
  | getClock
  | getUtil
  | getPlimit
  | setPlimit
  deriving Repr, DecidableEq

/-- All eleven. -/
def NvmlFn.all : List NvmlFn :=
  [init, shutdown, getCount, getHandle, getTemp, getFan, getPower, getClock, getUtil, getPlimit,
    setPlimit]

theorem NvmlFn.mem_all (fn : NvmlFn) : fn ∈ NvmlFn.all := by
  cases fn <;> decide

/-- The name `dlsym` is asked for. -/
def NvmlFn.symbol : NvmlFn → CStr
  | init => "nvmlInit_v2"
  | shutdown => "nvmlShutdown"
  | getCount => "nvmlDeviceGetCount_v2"
  | getHandle => "nvmlDeviceGetHandleByIndex_v2"
  | getTemp => "nvmlDeviceGetTemperature"
  | getFan => "nvmlDeviceGetFanSpeed"
  | getPower => "nvmlDeviceGetPowerUsage"
  | getClock => "nvmlDeviceGetClockInfo"
  | getUtil => "nvmlDeviceGetUtilizationRates"
  | getPlimit => "nvmlDeviceGetPowerManagementLimit"
  | setPlimit => "nvmlDeviceSetPowerManagementLimit"

inductive NvmlEvent where
  /-- `dlopen` delivered a library. -/
  | opened (library : Nat)
  /-- `dlclose` of this handle. -/
  | closed (library : Option Nat)
  /-- A call through a member of the table, which may be `NULL`. -/
  | called (fn : NvmlFn) (entry : Option Nat)
  deriving Repr, DecidableEq

/-- The globals, `none` for `NULL`, and what has happened so far. -/
structure NvmlState where
  handle : Option Nat
  initialized : Bool
  fns : NvmlFn → Option Nat
  events : List NvmlEvent

/-- What is asked of the loader and the library during one call comes to this. -/
structure NvmlAnswers where
  dlopen : Option Nat
  dlsym : Option Nat → CStr → Option Nat
  /-- What an entry point returns; `NVML_SUCCESS` is zero. -/
  result : NvmlFn → Int
  /-- What it stores through its last argument. -/
  stored : NvmlFn → Nat

namespace NvmlState

/-- Before the first call. -/
def fresh : NvmlState :=
  ⟨none, false, fun _ => none, []⟩

def call (s : NvmlState) (fn : NvmlFn) : NvmlState :=
  { s with events := s.events ++ [.called fn (s.fns fn)] }

/-- `dlclose(nvml_handle); nvml_handle = NULL;` -/
def close (s : NvmlState) : NvmlState :=
  { s with handle := none, events := s.events ++ [.closed s.handle] }

/-! ## The functions -/

/-- `load_symbols`; is every symbol there? -/
def loadSymbols (answers : NvmlAnswers) (s : NvmlState) : Bool × NvmlState :=
  let loaded := { s with fns := fun fn => answers.dlsym s.handle fn.symbol }
  (NvmlFn.all.all fun fn => (loaded.fns fn).isSome, loaded)

/-- `nvml_init`. -/
def nvmlInit (answers : NvmlAnswers) (s : NvmlState) : Int × NvmlState :=
  if s.initialized then (0, s)
  else
    match answers.dlopen with
    | none => (-1, { s with handle := none })
    | some library =>
        let opened : NvmlState :=
          { s with handle := some library, events := s.events ++ [.opened library] }
        let (resolved, loaded) := opened.loadSymbols answers
        if resolved then
          let started := loaded.call .init
          if answers.result .init ≠ 0 then (-1, started.close)
          else (0, { started with initialized := true })
        else (-1, loaded.close)

/-- `nvml_shutdown`. -/
def nvmlShutdown (s : NvmlState) : NvmlState :=
  if s.initialized then
    { (s.call .shutdown).close with initialized := false, fns := fun _ => none }
  else s

/-- `get_handle`. -/
def getHandle (index : Int) (answers : NvmlAnswers) (s : NvmlState) : Option Nat × NvmlState :=
  if index < 0 then (none, s)
  else
    let counted := s.call .getCount
    if answers.result .getCount ≠ 0 then (none, counted)
    else if answers.stored .getCount ≤ index.toNat then (none, counted)
    else
      let found := counted.call .getHandle
      if answers.result .getHandle ≠ 0 then (none, found)
      else (some (answers.stored .getHandle), found)

/-- The shape of the getters: `none` is their `-1`, `out` whether there is a place to store. -/
def nvmlGet (fn : NvmlFn) (convert : Nat → Int) (index : Int) (out : Bool)
    (answers : NvmlAnswers) (s : NvmlState) : Option Int × NvmlState :=
  if s.initialized && out then
    match s.getHandle index answers with
    | (none, later) => (none, later)
    | (some _, later) =>
        let asked := later.call fn
        if answers.result fn ≠ 0 then (none, asked)
        else (some (convert (answers.stored fn)), asked)
  else (none, s)

def nvmlGetTemp := nvmlGet .getTemp fun temp => temp * 1000
def nvmlGetFanSpeed := nvmlGet .getFan fun speed => toInt32 speed
def nvmlGetPower := nvmlGet .getPower fun mw => mw * 1000
def nvmlGetClock := nvmlGet .getClock fun mhz => mhz
def nvmlGetUtilization := nvmlGet .getUtil fun gpu => toInt32 gpu
def nvmlGetPowerLimit := nvmlGet .getPlimit fun mw => toInt32 mw

/-- `nvml_set_power_limit`. -/
def nvmlSetPowerLimit (index mw : Int) (answers : NvmlAnswers) (s : NvmlState) :
    Int × NvmlState :=
  if s.initialized then
    if mw < 0 then (-1, s)
    else
      match s.getHandle index answers with
      | (none, later) => (-1, later)
      | (some _, later) =>
          (if answers.result .setPlimit ≠ 0 then -1 else 0, later.call .setPlimit)
  else (-1, s)

end NvmlState

/-! ## Runs -/

/-- A call of the interface `nvml.h` declares. -/
inductive NvmlCall where
  | init
  | shutdown
  | getTemp (index : Int) (out : Bool)
  | getFanSpeed (index : Int) (out : Bool)
  | getPower (index : Int) (out : Bool)
  | getClock (index : Int) (out : Bool)
  | getUtilization (index : Int) (out : Bool)
  | getPowerLimit (index : Int) (out : Bool)
  | setPowerLimit (index mw : Int)
  deriving Repr, DecidableEq

namespace NvmlState

/-- What a call leaves behind. -/
def perform (answers : NvmlAnswers) (s : NvmlState) : NvmlCall → NvmlState
  | .init => (s.nvmlInit answers).2
  | .shutdown => s.nvmlShutdown
  | .getTemp index out => (s.nvmlGetTemp index out answers).2
  | .getFanSpeed index out => (s.nvmlGetFanSpeed index out answers).2
  | .getPower index out => (s.nvmlGetPower index out answers).2
  | .getClock index out => (s.nvmlGetClock index out answers).2
  | .getUtilization index out => (s.nvmlGetUtilization index out answers).2
  | .getPowerLimit index out => (s.nvmlGetPowerLimit index out answers).2
  | .setPowerLimit index mw => (s.nvmlSetPowerLimit index mw answers).2

/-- Any calls in any order, each with any answers. -/
def run (s : NvmlState) (calls : List (NvmlCall × NvmlAnswers)) : NvmlState :=
  calls.foldl (fun s call => s.perform call.2 call.1) s

def opens (s : NvmlState) : Nat :=
  s.events.countP fun
    | .opened _ => true
    | _ => false

def closes (s : NvmlState) : Nat :=
  s.events.countP fun
    | .closed _ => true
    | _ => false

/-- What holds between any two calls. -/
structure Consistent (s : NvmlState) : Prop where
  handle : s.initialized = true ↔ s.handle ≠ none
  resolved : s.initialized = true → ∀ fn, s.fns fn ≠ none
  noNullCall : ∀ fn, .called fn none ∉ s.events
  balance : (s.opens : Int) - s.closes = if s.initialized then 1 else 0

/-! ## Each call keeps it -/

theorem fresh_consistent : fresh.Consistent where
  handle := by decide
  resolved := nofun
  noNullCall _ := List.not_mem_nil
  balance := rfl

/-- No call through `NULL` so far, and this many more libraries opened than closed. -/
structure Balanced (s : NvmlState) (many : Int) : Prop where
  noNullCall : ∀ fn, .called fn none ∉ s.events
  balance : (s.opens : Int) - s.closes = many

/-- Only the events matter. -/
theorem Balanced.of_events
    {s later : NvmlState} {before : Int} (balanced : s.Balanced before)
    (same : later.events = s.events) :
    later.Balanced before := by
  obtain ⟨noNullCall, balance⟩ := balanced
  unfold opens closes at balance
  refine ⟨?_, ?_⟩
  · rw [same]
    exact noNullCall
  · unfold opens closes
    rw [same]
    exact balance

/-- What an event adds to the libraries held. -/
def held : NvmlEvent → Int
  | .opened _ => 1
  | .closed _ => -1
  | .called _ _ => 0

theorem Balanced.event
    {s later : NvmlState} {before : Int} (balanced : s.Balanced before) {event : NvmlEvent}
    (grown : later.events = s.events ++ [event])
    (notNull : ∀ fn, event ≠ .called fn none) :
    later.Balanced (before + held event) := by
  obtain ⟨noNullCall, balance⟩ := balanced
  unfold opens closes at balance
  refine ⟨fun fn member => ?_, ?_⟩
  · rw [grown, List.mem_append, List.mem_singleton] at member
    exact member.elim (noNullCall fn) fun same => notNull fn same.symm
  · unfold opens closes
    rw [grown, List.countP_append, List.countP_append]
    cases event <;> simp [held] <;> omega

theorem Balanced.call
    {s : NvmlState} {before : Int} (balanced : s.Balanced before) {fn : NvmlFn}
    (there : s.fns fn ≠ none) :
    (s.call fn).Balanced before := by
  have grown := @Balanced.event s (s.call fn) before balanced (.called fn (s.fns fn)) rfl
    fun other same => there (NvmlEvent.called.inj same).2
  rwa [held, add_zero] at grown

theorem Balanced.close
    {s : NvmlState} {before : Int} (balanced : s.Balanced (before + 1)) :
    s.close.Balanced before := by
  have grown := @Balanced.event s s.close (before + 1) balanced (.closed s.handle) rfl nofun
  rwa [held, add_neg_cancel_right] at grown

theorem Consistent.balanced
    {s : NvmlState} (consistent : s.Consistent) :
    s.Balanced (if s.initialized then 1 else 0) :=
  ⟨consistent.noNullCall, consistent.balance⟩

theorem Consistent.of_balanced
    {s : NvmlState} {many : Int} (balanced : s.Balanced many)
    (handle : s.initialized = true ↔ s.handle ≠ none)
    (resolved : s.initialized = true → ∀ fn, s.fns fn ≠ none)
    (counted : many = if s.initialized then 1 else 0) :
    s.Consistent :=
  ⟨handle, resolved, balanced.noNullCall, balanced.balance.trans counted⟩

theorem nvmlInit_consistent
    {s : NvmlState} (consistent : s.Consistent) (answers : NvmlAnswers) :
    (s.nvmlInit answers).2.Consistent := by
  have balanced := consistent.balanced
  unfold nvmlInit
  split
  · exact consistent
  · next off =>
      rw [if_neg off] at balanced
      cases answers.dlopen with
      | none =>
          refine .of_balanced (balanced.of_events rfl) ?_ (fun on => absurd on off) ?_
          · exact iff_of_false off (not_not.mpr rfl)
          · exact (if_neg off).symm
      | some library =>
          -- from here on one library more is held
          let opened : NvmlState :=
            { s with handle := some library, events := s.events ++ [.opened library] }
          have openedBalanced : opened.Balanced 1 :=
            @Balanced.event s opened 0 balanced (.opened library) rfl nofun
          have loadedBalanced : (opened.loadSymbols answers).2.Balanced 1 :=
            openedBalanced.of_events rfl
          have closed : ∀ later : NvmlState, later.Balanced 1 → later.initialized = s.initialized →
              later.close.Consistent := by
            intro later laterBalanced same
            have stillOff : ¬later.close.initialized = true := by
              rw [close, same]
              exact off
            have laterClosed : later.close.Balanced 0 :=
              Balanced.close (show later.Balanced (0 + 1) from laterBalanced)
            refine .of_balanced laterClosed ?_ (fun on => absurd on stillOff) (if_neg stillOff).symm
            exact iff_of_false stillOff (not_not.mpr rfl)
          change (if (opened.loadSymbols answers).1 then
            if answers.result .init ≠ 0 then
              ((-1 : Int), ((opened.loadSymbols answers).2.call .init).close)
            else (0, { (opened.loadSymbols answers).2.call .init with initialized := true })
            else (-1, (opened.loadSymbols answers).2.close)).2.Consistent
          split
          · next resolved =>
              have there : ∀ fn, (opened.loadSymbols answers).2.fns fn ≠ none := fun fn =>
                Option.isSome_iff_ne_none.mp (List.all_eq_true.mp resolved fn fn.mem_all)
              have startedBalanced := loadedBalanced.call (there .init)
              split
              · exact closed _ startedBalanced rfl
              · exact .of_balanced (startedBalanced.of_events rfl)
                  (iff_of_true rfl (Option.some_ne_none library)) (fun _ => there) rfl
          · exact closed _ loadedBalanced rfl

theorem nvmlShutdown_consistent
    {s : NvmlState} (consistent : s.Consistent) :
    s.nvmlShutdown.Consistent := by
  have balanced := consistent.balanced
  unfold nvmlShutdown
  split
  · next on =>
      rw [if_pos on] at balanced
      have called := balanced.call (consistent.resolved on .shutdown)
      have closed : (s.call .shutdown).close.Balanced 0 :=
        Balanced.close (show (s.call .shutdown).Balanced (0 + 1) from called)
      exact .of_balanced (closed.of_events rfl) (iff_of_false Bool.false_ne_true (not_not.mpr rfl))
        nofun rfl
  · exact consistent

/-- A call through the table while the library is there. -/
theorem Consistent.call
    {s : NvmlState} (consistent : s.Consistent) (on : s.initialized = true) (fn : NvmlFn) :
    (s.call fn).Consistent :=
  .of_balanced (consistent.balanced.call (consistent.resolved on fn)) consistent.handle
    consistent.resolved rfl

/-- Looking up a device only calls through the table. -/
theorem getHandle_consistent
    {s : NvmlState} (consistent : s.Consistent) (on : s.initialized = true) (index : Int)
    (answers : NvmlAnswers) :
    (s.getHandle index answers).2.Consistent ∧
      (s.getHandle index answers).2.initialized = true := by
  have counted := consistent.call on .getCount
  have found := counted.call on .getHandle
  unfold getHandle
  split
  · exact ⟨consistent, on⟩
  · dsimp only
    split
    · exact ⟨counted, on⟩
    · split
      · exact ⟨counted, on⟩
      · split <;> exact ⟨found, on⟩

theorem nvmlGet_consistent
    {s : NvmlState} (consistent : s.Consistent) (fn : NvmlFn) (convert : Nat → Int) (index : Int)
    (out : Bool) (answers : NvmlAnswers) :
    (nvmlGet fn convert index out answers s).2.Consistent := by
  unfold nvmlGet
  split
  · next both =>
      have on := (Bool.and_eq_true_iff.mp both).1
      have looked := getHandle_consistent consistent on index answers
      generalize s.getHandle index answers = found at looked ⊢
      obtain ⟨_ | device, later⟩ := found
      · exact looked.1
      · dsimp only
        split <;> exact looked.1.call looked.2 fn
  · exact consistent

theorem nvmlSetPowerLimit_consistent
    {s : NvmlState} (consistent : s.Consistent) (index mw : Int) (answers : NvmlAnswers) :
    (nvmlSetPowerLimit index mw answers s).2.Consistent := by
  unfold nvmlSetPowerLimit
  split
  · next on =>
      split
      · exact consistent
      · have looked := getHandle_consistent consistent on index answers
        generalize s.getHandle index answers = found at looked ⊢
        obtain ⟨_ | device, later⟩ := found
        · exact looked.1
        · exact looked.1.call looked.2 .setPlimit
  · exact consistent

theorem perform_consistent
    {s : NvmlState} (consistent : s.Consistent) (call : NvmlCall) (answers : NvmlAnswers) :
    (s.perform answers call).Consistent := by
  cases call with
  | init => exact nvmlInit_consistent consistent answers
  | shutdown => exact nvmlShutdown_consistent consistent
  | setPowerLimit index mw => exact nvmlSetPowerLimit_consistent consistent index mw answers
  | getTemp | getFanSpeed | getPower | getClock | getUtilization | getPowerLimit =>
      exact nvmlGet_consistent consistent _ _ _ _ answers

theorem run_consistent (calls : List (NvmlCall × NvmlAnswers)) :
    (fresh.run calls).Consistent := by
  induction calls using List.reverseRecOn with
  | nil => exact fresh_consistent
  | append_singleton calls call inductionHypothesis =>
      rw [run, List.foldl_append]
      exact perform_consistent inductionHypothesis call.1 call.2

end NvmlState

/-! ## The flag alone -/

section Flag

variable {σ : Type} {os : Os σ} {sys : σ} {answers : NvmlAnswers} {s : NvmlState}

/-- The answers while the library is loaded are those of the machine. -/
structure NvmlAnswers.Loading (answers : NvmlAnswers) (nvml : Nvml σ) (sys : σ) : Prop where
  loads : answers.dlopen.isSome = nvml.loads sys
  resolves : (NvmlFn.all.all fun fn => (answers.dlsym answers.dlopen fn.symbol).isSome) =
    nvml.resolves sys
  starts : decide (answers.result .init = 0) = nvml.starts sys

/-- The answers while a number is read from a device are those of the machine. -/
structure NvmlAnswers.Reading (answers : NvmlAnswers) (nvml : Nvml σ) (sys : σ) (fn : NvmlFn)
    (read : Nvml σ → σ → Nat → Option Nat) (index : Int) : Prop where
  count : nvml.count sys =
    if answers.result .getCount = 0 then some (answers.stored .getCount) else none
  device : nvml.device sys index.toNat =
    if answers.result .getHandle = 0 then some (answers.stored .getHandle) else none
  value : read nvml sys (answers.stored .getHandle) =
    if answers.result fn = 0 then some (answers.stored fn) else none

/-- Initialising, seen through the flag. -/
theorem nvmlInit_flag
    (agree : answers.Loading os.nvml sys) {proc : Proc}
    (same : s.initialized = proc.nvmlInitialized) :
    ∃ code later, s.nvmlInit answers = (code, later) ∧
      nvmlInit os sys proc =
        (.value (decide (code = 0)), { proc with nvmlInitialized := later.initialized }) := by
  obtain ⟨loads, resolves, starts⟩ := agree
  have kept : { proc with nvmlInitialized := s.initialized } = proc := by rw [same]
  unfold nvmlInit NvmlState.nvmlInit
  rw [← same, ← loads, ← resolves, ← starts]
  by_cases on : s.initialized = true
  · rw [if_pos on, if_pos on]
    exact ⟨0, s, rfl, Prod.ext rfl kept.symm⟩
  · rw [if_neg on, if_neg on]
    cases answers.dlopen with
    | none => exact ⟨_, _, rfl, Prod.ext rfl kept.symm⟩
    | some library =>
        rw [Option.isSome_some, Bool.true_and]
        dsimp only [NvmlState.loadSymbols]
        by_cases resolved :
            (NvmlFn.all.all fun fn => (answers.dlsym (some library) fn.symbol).isSome) = true
        · rw [if_pos resolved, resolved, Bool.true_and]
          by_cases success : answers.result .init = 0
          · rw [decide_eq_true success, if_neg (not_not.mpr success)]
            exact ⟨_, _, rfl, rfl⟩
          · rw [decide_eq_false success, if_pos success]
            exact ⟨_, _, rfl, Prod.ext rfl kept.symm⟩
        · rw [if_neg resolved, eq_false_of_ne_true resolved, Bool.false_and]
          exact ⟨_, _, rfl, Prod.ext rfl kept.symm⟩

/-- The device a call is about. -/
theorem getHandle_flag
    {fn : NvmlFn} {read : Nvml σ → σ → Nat → Option Nat} {index : Int}
    (agree : answers.Reading os.nvml sys fn read index) :
    (s.getHandle index answers).1 = nvmlDevice os sys index := by
  obtain ⟨count, device, -⟩ := agree
  have looked : nvmlDevice os sys index =
      (if answers.result .getCount = 0 then some (answers.stored .getCount) else none).bind
        fun count => if 0 ≤ index ∧ index < count then
          if answers.result .getHandle = 0 then some (answers.stored .getHandle) else none
        else none := by
    rw [← count, ← device]
    rfl
  rw [looked]
  unfold NvmlState.getHandle
  by_cases counted : answers.result .getCount = 0
  · rw [if_pos counted, Option.bind_some, if_neg (not_not.mpr counted)]
    by_cases inside : 0 ≤ index ∧ index < (answers.stored .getCount : Int)
    · rw [if_neg (by omega), if_neg (by omega), if_pos inside]
      split <;> simp_all
    · rw [if_neg inside]
      split
      · rfl
      · rw [if_pos (by omega)]
  · rw [if_neg counted, Option.bind_none, if_pos counted]
    split <;> rfl

/-- Reading a number, once the flag is set. -/
theorem nvmlGet_flag
    {fn : NvmlFn} {read : Nvml σ → σ → Nat → Option Nat} {index : Int}
    (agree : answers.Reading os.nvml sys fn read index)
    (on : s.initialized = true) (convert : Nat → Int) :
    (NvmlState.nvmlGet fn convert index true answers s).1 =
      ((nvmlDevice os sys index).bind (read os.nvml sys)).map convert := by
  have looked := @getHandle_flag σ os sys answers s fn read index agree
  have known : ∀ device, (s.getHandle index answers).1 = some device →
      device = answers.stored .getHandle := by
    intro device
    unfold NvmlState.getHandle
    dsimp only
    split_ifs <;> simp [eq_comm]
  unfold NvmlState.nvmlGet
  rw [on, Bool.true_and, if_pos rfl, ← looked]
  generalize s.getHandle index answers = found at known ⊢
  obtain ⟨_ | device, later⟩ := found
  · rfl
  · rw [known device rfl, Option.bind_some, agree.value]
    by_cases success : answers.result fn = 0
    · rw [if_pos success]
      exact congrArg Prod.fst (if_neg (not_not.mpr success))
    · rw [if_neg success]
      exact congrArg Prod.fst (if_pos success)

end Flag

end Zenctl
