import Zenctl.BracketLists
import Zenctl.CpuFreq
import Zenctl.FileRoundTrip
import Zenctl.Libzenctl

namespace Zenctl

open CString

/-!
# Settings

Many setters put one text into one file, both decided by the arguments, and the
getter of the same setting reads that file.  `Update.assignment` names the file
and the text, `Update.reading` the getter and the value it delivers afterwards.
-/

variable {σ α β : Type}

/-! ## What a file shows -/

/-- How a file shows the text that was written to it. -/
abbrev Display := CStr → List Char → Prop

/-- The text itself, and perhaps the newline the kernel prints after it. -/
def verbatim : Display := fun text bytes =>
  ∃ newline, (newline = [] ∨ newline = ['\n']) ∧ bytes = text ++ newline

/-- A line of choices with the text in its first brackets, shorter than a buffer. -/
def bracketed (room : Nat) : Display := fun text bytes =>
  ∃ line newline, bytes = line ++ newline ∧ Brackets text line ∧ line.length < room

/-- The file shows the text. -/
def Os.Displays (os : Os σ) (display : Display) (sys : σ) (file text : CStr) : Prop :=
  ∃ bytes, display text bytes ∧ os.openRead sys file = .ok ⟨bytes, none⟩

/--
A file that shows what it accepts and leaves what it refuses.  The empty text
leads to no write at all, and leaves the file too.
-/
structure Os.Stores (os : Os σ) (display : Display) (file : CStr) : Prop where
  accepted : ∀ sys text, text ≠ [] → (os.writeFile sys file text).1 = .done →
    os.Displays display (os.writeFile sys file text).2 file text
  refused : ∀ sys text, (os.writeFile sys file text).1 ≠ .done →
    os.openRead (os.writeFile sys file text).2 file = os.openRead sys file
  empty : ∀ sys, os.openRead (os.writeFile sys file []).2 file = os.openRead sys file

theorem Os.StoresVerbatim.stores
    {os : Os σ} {file : CStr} (stores : os.StoresVerbatim file)
    (empty : ∀ sys, os.openRead (os.writeFile sys file []).2 file = os.openRead sys file) :
    os.Stores verbatim file where
  empty := empty
  accepted sys text written done := by
    obtain ⟨⟨newline, ending, contents⟩, -⟩ := stores.accepted sys text written done
    exact ⟨_, ⟨newline, ending, rfl⟩, contents⟩
  refused sys text refused := congrFun (stores.refused sys text refused).1 file

/-! ## Assignments -/

/-- A text and the path it is written to. -/
structure FileAssignment where
  path : CStr
  text : CStr
  deriving Repr, DecidableEq

/-- The file behind the path. -/
def FileAssignment.file (assignment : FileAssignment) (os : Os σ) : CStr :=
  resolvePath os.sysfsRoot assignment.path

/-- What the setter writes and where, if its arguments decide both. -/
def Update.assignment : Update → Option FileAssignment
  | .cpuSetGovernor cpu governor => some ⟨cpuPath cpu "cpufreq/scaling_governor", governor⟩
  | .cpuSetFreqMin cpu hz => some ⟨minFreqPath cpu, showInt (hz.tdiv 1000)⟩
  | .cpuSetFreqMax cpu hz => some ⟨maxFreqPath cpu, showInt (hz.tdiv 1000)⟩
  | .cpuSetOnline cpu on => some ⟨cpuPath cpu "online", if on then "1" else "0"⟩
  | .cpuSetSmtActive on =>
      some ⟨"/sys/devices/system/cpu/smt/control", if on then "on" else "off"⟩
  | .cpuSetCstateDisable cpu state disable =>
      some ⟨cstatePath cpu state, if disable then "1" else "0"⟩
  | .memSetNrHugepages pages => some ⟨"/proc/sys/vm/nr_hugepages", showInt pages⟩
  | .memSetNrHugepagesSize sizeKb pages =>
      some ⟨bounded 160 ("/sys/kernel/mm/hugepages/hugepages-".toList ++ showInt sizeKb ++
        "kB/".toList ++ "nr_hugepages".toList), showInt pages⟩
  | .memSetThp mode =>
      some ⟨thpPath,
        match mode with
        | .always => "always"
        | .madvise => "madvise"
        | .never => "never"⟩
  | .memSetSwappiness value => some ⟨"/proc/sys/vm/swappiness", showInt value⟩
  | .memSetOvercommit value => some ⟨"/proc/sys/vm/overcommit_memory", showInt value⟩
  | .memSetVfsCachePressure value => some ⟨"/proc/sys/vm/vfs_cache_pressure", showInt value⟩
  | .storageSetScheduler st scheduler => some ⟨storagePath st "/queue/scheduler", scheduler⟩
  | .storageSetQueueDepth st depth => some ⟨storagePath st "/device/queue_depth", showInt depth⟩
  | .storageSetReadAhead st kb => some ⟨storagePath st "/queue/read_ahead_kb", showInt kb⟩
  | .storageSetPowerControl st mode => some ⟨storagePath st "/device/power/control", mode⟩
  | .netSetMtu net mtu => some ⟨netSysfsPath net "/mtu", showInt mtu⟩
  | .pcieSetPowerControl p mode => some ⟨pcieDevPath p "/power/control", mode⟩
  | .pcieSetAspmPolicy policy => some ⟨aspmPolicyPath, policy⟩
  | .pcieSetD3coldAllowed p allow =>
      some ⟨pcieDevPath p "/d3cold_allowed", showInt (if allow then 1 else 0)⟩
  | .thermalSetPolicy tz policy => some ⟨zonePath tz "/policy", policy⟩
  | .thermalSetMode tz enabled =>
      some ⟨zonePath tz "/mode", if enabled then "enabled" else "disabled"⟩
  | .thermalHwmonSetFanPwm hwmon fan pwm => some ⟨fanPath hwmon fan [], showInt pwm⟩
  | .thermalHwmonSetFanAuto hwmon fan auto =>
      some ⟨fanPath hwmon fan "_enable", showInt (if auto then 2 else 1)⟩
  | .powerSetMemSleepMode mode => some ⟨"/sys/power/mem_sleep", mode⟩
  | .powerSetRuntimePm devPath mode =>
      some ⟨bounded 8192 (devPath ++ "/power/control".toList), mode⟩
  | .usbSetPowerControl u mode => some ⟨joinPath u.sysfsDir "power/control", mode⟩
  | .usbSetAutosuspendDelay u ms =>
      some ⟨joinPath u.sysfsDir "power/autosuspend_delay_ms", showInt ms⟩
  | .usbSetAuthorized u on => some ⟨joinPath u.sysfsDir "authorized", if on then "1" else "0"⟩
  | .usbSetWakeup u on =>
      some ⟨joinPath u.sysfsDir "power/wakeup", if on then "enabled" else "disabled"⟩
  | _ => none

/-- How the file of a setter shows its text; the lists are read into buffers of these sizes. -/
def Update.display : Update → Display
  | .memSetThp _ => bracketed 128
  | .storageSetScheduler .. => bracketed 256
  | .powerSetMemSleepMode _ => bracketed 4096
  | _ => verbatim

/-- The values a setter with an assignment lets through. -/
def Update.Admits : Update → Prop
  | .cpuSetGovernor _ governor => governor ≠ []
  | .storageSetScheduler _ scheduler => scheduler ≠ []
  | .cpuSetFreqMin _ hz | .cpuSetFreqMax _ hz => 0 ≤ hz
  | .cpuSetCstateDisable _ state _ => 0 ≤ state
  | .memSetNrHugepages pages => 0 ≤ pages
  | .memSetNrHugepagesSize sizeKb pages => 0 < sizeKb ∧ 0 ≤ pages
  | .memSetSwappiness value => 0 ≤ value ∧ value ≤ 200
  | .memSetOvercommit value => 0 ≤ value ∧ value ≤ 2
  | .memSetVfsCachePressure value => 0 ≤ value
  | .storageSetQueueDepth _ depth => 1 ≤ depth
  | .storageSetReadAhead _ kb => 0 ≤ kb
  | .netSetMtu _ mtu => 0 ≤ mtu
  | .thermalHwmonSetFanPwm hwmon fan pwm => 0 ≤ hwmon ∧ 1 ≤ fan ∧ 0 ≤ pwm ∧ pwm ≤ 255
  | .thermalHwmonSetFanAuto hwmon fan _ => 0 ≤ hwmon ∧ 1 ≤ fan
  | .storageSetPowerControl _ mode | .pcieSetPowerControl _ mode | .powerSetRuntimePm _ mode
  | .usbSetPowerControl _ mode => mode = "on".toList ∨ mode = "auto".toList
  | _ => True

/-! ## The writing side -/

/--
The program succeeds with an admitted value, by writing the text to its file, or
does not and leaves the system as it was or as a refused write left it.
-/
def SetM.Assigns (program : SetM σ Unit) (os : Os σ) (assignment : FileAssignment) (admitted : Prop) :
    Prop :=
  ∀ sys proc,
    let wrote := os.writeFile sys (assignment.file os) assignment.text
    ((program os sys proc).1 = .value () ∧ admitted ∧ wrote.1 = .done ∧
        (program os sys proc).2.1 = wrote.2) ∨
      ((program os sys proc).1 ≠ .value () ∧
        ((program os sys proc).2.1 = sys ∨
          (wrote.1 ≠ .done ∧ (program os sys proc).2.1 = wrote.2)))

namespace SetM.Assigns

variable {os : Os σ} {assignment : FileAssignment} {admitted : Prop}

theorem write {path text : CStr} (holds : admitted) :
    (writeFileString path text).Assigns os ⟨path, text⟩ admitted := by
  intro sys proc
  obtain ⟨later, accepted, refused⟩ := writeFileString_run os sys proc path text
  by_cases done : (os.writeFile sys (resolvePath os.sysfsRoot path) text).1 = .done
  · exact .inl ⟨(accepted done).1, holds, done, later⟩
  · refine .inr ⟨?_, .inr ⟨done, later⟩⟩
    rw [refused done]
    exact nofun

theorem raise (code : Int) (message context : CStr) :
    (getting (Zenctl.raise code message context)).Assigns os assignment admitted :=
  fun _ _ => .inr ⟨nofun, .inl rfl⟩

theorem after
    {program : GetM σ α} {next : α → SetM σ Unit} {kind : α → Prop}
    (first : program.Returns kind)
    (rest : ∀ value, kind value → (next value).Assigns os assignment admitted) :
    (getting program >>= next).Assigns os assignment admitted := by
  intro sys proc
  have returned := first os sys proc
  cases run : program os sys proc with
  | mk outcome later =>
      rw [run] at returned
      cases outcome with
      | value result =>
          rw [SetM.bind_getting_value run]
          exact rest result (returned result rfl) sys later
      | failed =>
          rw [SetM.bind_getting_failed run]
          exact .inr ⟨nofun, .inl rfl⟩
      | blocked =>
          rw [SetM.bind_getting_blocked run]
          exact .inr ⟨nofun, .inl rfl⟩

theorem ite
    {condition : Prop} [Decidable condition] {first second : SetM σ Unit}
    (yes : condition → first.Assigns os assignment admitted)
    (no : ¬condition → second.Assigns os assignment admitted) :
    (if condition then first else second).Assigns os assignment admitted := by
  split
  · next holds => exact yes holds
  · next fails => exact no fails

/-- The other values are turned away. -/
theorem guarded
    {condition : Prop} [Decidable condition] {code : Int} {message context : CStr}
    {program : SetM σ Unit}
    (otherwise : ¬condition → program.Assigns os assignment admitted) :
    (if condition then getting (Zenctl.raise code message context) else program).Assigns os
      assignment admitted :=
  .ite (fun _ => .raise _ _ _) otherwise

/-- What its write leaves alone, the program leaves alone. -/
theorem keeps
    {program : SetM σ Unit} (assigns : program.Assigns os assignment admitted) (view : σ → β)
    {sys : σ} (kept : view (os.writeFile sys (assignment.file os) assignment.text).2 = view sys)
    (proc : Proc) :
    view (program os sys proc).2.1 = view sys := by
  rcases assigns sys proc with ⟨-, -, -, wrote⟩ | ⟨-, same | ⟨-, wrote⟩⟩
  · rw [wrote, kept]
  · rw [same]
  · rw [wrote, kept]

end SetM.Assigns

theorem checkHardwareRange_returns (cpu : CpuHandle) (hz : Int) (caller : CStr) :
    (checkHardwareRange cpu hz caller : GetM σ Int).Returns fun khz =>
      0 ≤ hz ∧ khz = hz.tdiv 1000 := by
  unfold checkHardwareRange
  split
  · exact .raise _ _ _
  · next nonneg =>
    refine .bind (.any _) fun low _ => .bind (.any _) fun high _ => ?_
    split
    · exact .raise _ _ _
    · split
      · exact .raise _ _ _
      · exact .pure ⟨by omega, rfl⟩

theorem hugepagesPath_returns (sizeKb : Int) (attr : CStr) :
    (hugepagesPath sizeKb attr : GetM σ CStr).Returns fun path => 0 < sizeKb ∧
      path = bounded 160 ("/sys/kernel/mm/hugepages/hugepages-".toList ++ showInt sizeKb ++
        "kB/".toList ++ attr) := by
  unfold hugepagesPath
  split
  · exact .raise _ _ _
  · exact .pure ⟨by omega, rfl⟩

theorem usbAttrPath_returns (u : UsbHandle) (attr context : CStr) :
    (usbAttrPath u attr context : GetM σ CStr).Returns fun path =>
      path = joinPath u.sysfsDir attr :=
  .bind (.any _) fun _ _ => .pure rfl

theorem writeAttrStr_assigns
    {os : Os σ} {admitted : Prop} (holds : admitted) (u : UsbHandle) (attr value : CStr) :
    (writeAttrStr u attr value).Assigns os ⟨joinPath u.sysfsDir attr, value⟩ admitted := by
  refine .after (usbAttrPath_returns u attr attr) ?_
  rintro _ rfl
  exact .write holds

theorem writePowerControl_assigns (os : Os σ) (path mode caller : CStr) :
    (writePowerControl path mode caller).Assigns os ⟨path, mode⟩
      (mode = "on".toList ∨ mode = "auto".toList) :=
  .guarded fun known => .write (by tauto)

/-- Each of these setters makes its assignment, or none. -/
theorem Update.assigns
    (os : Os σ) {call : Update} {assignment : FileAssignment}
    (plain : call.assignment = some assignment) :
    call.program.Assigns os assignment call.Admits := by
  cases call <;> cases plain
  case cpuSetGovernor cpu governor =>
    exact .guarded fun nonempty => .after (.any _) fun available _ =>
      .ite (fun _ => .write nonempty) fun _ => .raise _ _ _
  case cpuSetFreqMin cpu hz | cpuSetFreqMax cpu hz =>
    refine .after (checkHardwareRange_returns cpu hz _) ?_
    rintro _ ⟨nonneg, rfl⟩
    exact .after (.any _) fun other _ => .guarded fun _ => .write nonneg
  case cpuSetOnline cpu on => exact .write trivial
  case cpuSetSmtActive on => exact .write trivial
  case cpuSetCstateDisable cpu state disable =>
    exact .guarded fun nonneg => .write (Int.not_lt.mp nonneg)
  case memSetNrHugepages pages => exact .guarded fun nonneg => .write (Int.not_lt.mp nonneg)
  case memSetNrHugepagesSize sizeKb pages =>
    refine .guarded fun nonneg => .after (hugepagesPath_returns sizeKb _) ?_
    rintro _ ⟨positive, rfl⟩
    exact .write ⟨positive, Int.not_lt.mp nonneg⟩
  case memSetThp mode => exact .write trivial
  case memSetSwappiness value | memSetOvercommit value =>
    exact .guarded fun inside => .write (by simp only [Update.Admits]; omega)
  case memSetVfsCachePressure value => exact .guarded fun nonneg => .write (Int.not_lt.mp nonneg)
  case storageSetScheduler st scheduler =>
    exact .guarded fun nonempty => .guarded fun _ => .write nonempty
  case storageSetQueueDepth st depth => exact .guarded fun deep => .write (Int.not_lt.mp deep)
  case storageSetReadAhead st kb => exact .guarded fun nonneg => .write (Int.not_lt.mp nonneg)
  case storageSetPowerControl st mode => exact .guarded fun _ => writePowerControl_assigns os _ _ _
  case netSetMtu net mtu => exact .guarded fun nonneg => .write (Int.not_lt.mp nonneg)
  case pcieSetPowerControl p mode => exact .guarded fun _ => writePowerControl_assigns os _ _ _
  case pcieSetAspmPolicy policy =>
    exact .guarded fun _ => .ite (fun _ => .write trivial) fun _ => .raise _ _ _
  case pcieSetD3coldAllowed p allow => exact .write trivial
  case thermalSetPolicy tz policy => exact .write trivial
  case thermalSetMode tz enabled => exact .write trivial
  case thermalHwmonSetFanPwm hwmon fan pwm =>
    exact .guarded fun index => .guarded fun inside =>
      .write (by simp only [Update.Admits]; omega)
  case thermalHwmonSetFanAuto hwmon fan auto =>
    exact .guarded fun index => .write (by simp only [Update.Admits]; omega)
  case powerSetMemSleepMode mode => exact .write trivial
  case powerSetRuntimePm devPath mode =>
    exact .guarded fun known => .write (by simp only [Update.Admits]; tauto)
  case usbSetPowerControl u mode =>
    exact .guarded fun known => writeAttrStr_assigns (by simp only [Update.Admits]; tauto) u _ _
  case usbSetAutosuspendDelay u ms => exact writeAttrStr_assigns trivial u _ _
  case usbSetAuthorized u on => exact writeAttrStr_assigns trivial u _ _
  case usbSetWakeup u on => exact writeAttrStr_assigns trivial u _ _

/-! ## The reading side -/

/-- A getter and a value it delivers. -/
structure Reading where
  {β : Type}
  query : Query β
  value : β

/-- The getter of the setting, and what it delivers once the assignment was made. -/
def Update.reading : Update → Option Reading
  | .cpuSetGovernor cpu governor => some ⟨.cpuGetGovernor cpu, governor⟩
  -- the file is in kHz
  | .cpuSetFreqMin cpu hz => some ⟨.cpuGetFreqMin cpu, hz.tdiv 1000 * 1000⟩
  | .cpuSetFreqMax cpu hz => some ⟨.cpuGetFreqMax cpu, hz.tdiv 1000 * 1000⟩
  | .cpuSetOnline cpu on => some ⟨.cpuGetOnline cpu, on⟩
  | .cpuSetCstateDisable cpu state disable => some ⟨.cpuGetCstateDisable cpu state, disable⟩
  | .memSetNrHugepages pages => some ⟨.memGetNrHugepages, pages⟩
  | .memSetNrHugepagesSize sizeKb pages => some ⟨.memGetNrHugepagesSize sizeKb, pages⟩
  | .memSetThp mode => some ⟨.memGetThp, mode⟩
  | .memSetSwappiness value => some ⟨.memGetSwappiness, value⟩
  | .memSetOvercommit value => some ⟨.memGetOvercommit, value⟩
  | .memSetVfsCachePressure value => some ⟨.memGetVfsCachePressure, value⟩
  | .storageSetScheduler st scheduler => some ⟨.storageGetScheduler st, scheduler⟩
  | .storageSetQueueDepth st depth => some ⟨.storageGetQueueDepth st, depth⟩
  | .storageSetReadAhead st kb => some ⟨.storageGetReadAhead st, kb⟩
  | .storageSetPowerControl st mode => some ⟨.storageGetPowerControl st, mode⟩
  | .netSetMtu net mtu => some ⟨.netGetMtu net, mtu⟩
  | .pcieSetPowerControl p mode => some ⟨.pcieGetPowerControl p, mode⟩
  | .pcieSetD3coldAllowed p allow => some ⟨.pcieGetD3coldAllowed p, allow⟩
  | .thermalSetPolicy tz policy => some ⟨.thermalGetPolicy tz, policy⟩
  | .thermalSetMode tz enabled => some ⟨.thermalGetMode tz, enabled⟩
  | .thermalHwmonSetFanPwm hwmon fan pwm => some ⟨.thermalHwmonGetFanPwm hwmon fan, pwm⟩
  | .thermalHwmonSetFanAuto hwmon fan auto => some ⟨.thermalHwmonGetFanAuto hwmon fan, auto⟩
  | .powerSetMemSleepMode mode => some ⟨.powerGetMemSleepMode, mode⟩
  | .powerSetRuntimePm devPath mode => some ⟨.powerGetRuntimePm devPath, mode⟩
  | .usbSetPowerControl u mode => some ⟨.usbGetPowerControl u, mode⟩
  | .usbSetAutosuspendDelay u ms => some ⟨.usbGetAutosuspendDelay u, ms⟩
  | .usbSetAuthorized u on => some ⟨.usbGetAuthorized u, on⟩
  | .usbSetWakeup u on => some ⟨.usbGetWakeup u, on⟩
  | _ => none

/-- A text that comes back whole from a buffer of this size. -/
def Survives (size : Nat) (text : CStr) : Prop :=
  text.length < size ∧ '\x00' ∉ text ∧ ∀ last ∈ text.getLast?, isSpace last = false

theorem solid_of_getLast
    {text : CStr} {c : Char} (ends : text.getLast? = some c) (solid : isSpace c = false) :
    ∀ last ∈ text.getLast?, isSpace last = false := by
  rw [ends]
  rintro last ⟨⟩
  exact solid

theorem survives_mode
    {mode : CStr} {size : Nat} (known : mode = "on".toList ∨ mode = "auto".toList)
    (room : 4 < size) :
    Survives size mode := by
  rcases known with rfl | rfl
  · exact ⟨lt_trans (by decide) room, by decide, solid_of_getLast rfl rfl⟩
  · exact ⟨room, by decide, solid_of_getLast rfl rfl⟩

theorem survives_enabled {enabled : Bool} {size : Nat} (room : 8 < size) :
    Survives size (if enabled then "enabled".toList else "disabled".toList) := by
  cases enabled
  · exact ⟨room, by decide, solid_of_getLast rfl rfl⟩
  · exact ⟨lt_trans (by decide) room, by decide, solid_of_getLast rfl rfl⟩

theorem survives_switch {on : Bool} {size : Nat} (room : 1 < size) :
    Survives size (if on then "1".toList else "0".toList) := by
  cases on
  · exact ⟨room, by decide, solid_of_getLast rfl rfl⟩
  · exact ⟨room, by decide, solid_of_getLast rfl rfl⟩

/-- The numbers are values of their C types, and the names fit the getter's buffer. -/
def Update.InRange : Update → Prop
  | .cpuSetGovernor _ governor => Survives 256 governor
  | .thermalSetPolicy _ policy => Survives 4096 policy
  | .cpuSetFreqMin _ number | .cpuSetFreqMax _ number | .memSetNrHugepages number
  | .memSetNrHugepagesSize _ number | .storageSetReadAhead _ number =>
      int64Min ≤ number ∧ number ≤ int64Max
  | .memSetVfsCachePressure number | .storageSetQueueDepth _ number | .netSetMtu _ number
  | .usbSetAutosuspendDelay _ number => intMin ≤ number ∧ number ≤ intMax
  | _ => True

section Files

variable {os : Os σ} {sys : σ} {path : CStr}

theorem textOf_holds
    {text : CStr} {size : Nat}
    (held : os.Displays verbatim sys (resolvePath os.sysfsRoot path) text)
    (survives : Survives size text) :
    textOf os sys path size = some text := by
  obtain ⟨_, ⟨newline, ending, rfl⟩, contents⟩ := held
  obtain ⟨short, noNul, solid⟩ := survives
  have kept : (text.take (size - 1)).rdropWhile isCrLf = text := by
    refine (stripped_eq_self_iff (by omega) text).mpr ⟨short, fun last member => ?_⟩
    have plain := solid last member
    simp only [isSpace, Bool.or_eq_false_iff] at plain
    simp [isCrLf, plain.1.1.1.2, plain.2]
  simp [textOf, contents, bufferText_written noNul ending, kept]

theorem fileInt_holds
    {value : Int}
    (held : os.Displays verbatim sys (resolvePath os.sysfsRoot path) (showInt value))
    (low : int64Min ≤ value) (high : value ≤ int64Max) :
    fileInt os sys path = some value := by
  obtain ⟨_, ⟨newline, ending, rfl⟩, contents⟩ := held
  simp [fileInt, textOf, contents, bufferText_showInt low high ending, strtoll_showInt low high]

/-- A line of choices comes back with its brackets. -/
theorem textOf_brackets
    {word : CStr} {size : Nat}
    (held : os.Displays (bracketed size) sys (resolvePath os.sysfsRoot path) word) :
    ∃ text, textOf os sys path size = some text ∧ Brackets word text := by
  obtain ⟨_, ⟨line, newline, rfl, brackets, fits⟩, contents⟩ := held
  refine ⟨bufferText size (line ++ newline), ?_, bufferText_brackets brackets fits newline⟩
  simp [textOf, contents]

theorem readFileString_answersText
    {text : CStr} {size : Nat}
    (held : os.Displays verbatim sys (resolvePath os.sysfsRoot path) text)
    (survives : Survives size text) :
    (readFileString path size).Answers os sys (some text) :=
  textOf_holds held survives ▸ readFileString_answers path size

theorem readCopy_answersText
    {text : CStr} {size : Nat}
    (held : os.Displays verbatim sys (resolvePath os.sysfsRoot path) text)
    (survives : Survives size text) :
    (readCopy path size).Answers os sys (some text) :=
  .after (readFileString_answersText held survives) (.after (allocateOr_answers _ _) (.pure _))

theorem readStringAlloc_answersText
    {text : CStr}
    (held : os.Displays verbatim sys (resolvePath os.sysfsRoot path) text)
    (survives : Survives 4096 text) :
    (readStringAlloc path).Answers os sys (some text) := by
  have trimmed : text.rdropWhile isSpace = text := by
    rw [List.rdropWhile_eq_self_iff]
    intro nonempty
    simp [survives.2.2 _ (List.getLast?_eq_some_getLast nonempty)]
  have answers : (readStringAlloc path).Answers os sys _ := readStringAlloc_answers path
  rwa [textOf_holds held survives, Option.map_some, trimmed] at answers

theorem readFileI64_answersInt
    {value : Int}
    (held : os.Displays verbatim sys (resolvePath os.sysfsRoot path) (showInt value))
    (low : int64Min ≤ value) (high : value ≤ int64Max) :
    (readFileI64 path).Answers os sys (some value) :=
  fileInt_holds held low high ▸ readFileI64_answers path

theorem readSwitch_answers
    {on : Bool}
    (held : os.Displays verbatim sys (resolvePath os.sysfsRoot path)
      (if on then "1".toList else "0".toList)) :
    (readSwitch path).Answers os sys (some on) := by
  have shown : decide ((if on then "1".toList else "0".toList).head? = some '1') = on := by
    cases on <;> decide
  have answers : (readSwitch path).Answers os sys _ :=
    .after (readFileString_answersText held (survives_switch (by decide))) (.pure _)
  rwa [shown] at answers

theorem getTunable_answers
    {value : Int}
    (held : os.Displays verbatim sys (resolvePath os.sysfsRoot path) (showInt value))
    (low : intMin ≤ value) (high : value ≤ intMax) :
    (getTunable path).Answers os sys (some value) := by
  have same : toInt32 value = value := by
    unfold intMin intMax at *
    exact Int.bmod_eq_of_le (by omega) (by omega)
  have answers : (getTunable path).Answers os sys _ :=
    .after (readFileI64_answersInt held (by unfold int64Min intMin at *; omega)
      (by unfold int64Max intMax at *; omega)) (.pure _)
  rwa [same] at answers

theorem getFreq_answers
    {cpu : CpuHandle} {file : CStr} {hz : Int}
    (held : os.Displays verbatim sys (resolvePath os.sysfsRoot (cpuPath cpu file))
      (showInt (hz.tdiv 1000)))
    (nonneg : 0 ≤ hz) (high : hz ≤ int64Max) :
    (getFreq cpu file).Answers os sys (some (hz.tdiv 1000 * 1000)) := by
  have division := Int.tdiv_eq_ediv_of_nonneg (b := 1000) nonneg
  have fits : int64Min ≤ hz.tdiv 1000 * 1000 ∧ hz.tdiv 1000 * 1000 ≤ int64Max := by
    unfold int64Min int64Max at *
    omega
  have answers : (getFreq cpu file).Answers os sys _ :=
    .after (readFileI64_answersInt held (by unfold int64Min at *; omega)
      (by unfold int64Max at *; omega)) (.pure _)
  rwa [toInt64_of_fits fits.1 fits.2] at answers

theorem readRanged_answers
    {value low high : Int} {message : CStr}
    (held : os.Displays verbatim sys (resolvePath os.sysfsRoot path) (showInt value))
    (above : low ≤ value) (below : value ≤ high)
    (lowFits : int64Min ≤ low) (highFits : high ≤ int64Max) :
    (readRanged path low high message).Answers os sys (some value) := by
  refine .after (readFileI64_answersInt held (by omega) (by omega)) ?_
  rw [if_neg (by omega)]
  exact .pure value

theorem readAttrStr_answers
    {u : UsbHandle} {attr text : CStr}
    (held : os.Displays verbatim sys (resolvePath os.sysfsRoot (joinPath u.sysfsDir attr)) text)
    (survives : Survives 512 text) :
    (readAttrStr u attr).Answers os sys (some text) :=
  .after (.after (allocateOr_answers _ _) (.pure _))
    (.after (readFileString_answersText held survives)
      (.after (allocateOr_answers _ _) (.pure _)))

theorem readAttrText_answers
    {u : UsbHandle} {attr text context : CStr} {size : Nat}
    (held : os.Displays verbatim sys (resolvePath os.sysfsRoot (joinPath u.sysfsDir attr)) text)
    (survives : Survives size text) :
    (readAttrText u attr context size).Answers os sys (some text) :=
  .after (.after (allocateOr_answers _ _) (.pure _)) (readFileString_answersText held survives)

theorem survives_showInt
    {value : Int} {size : Nat}
    (low : int64Min ≤ value) (high : value ≤ int64Max) (room : 20 < size) :
    Survives size (showInt value) := by
  have short := showInt_length low high
  refine ⟨by omega, fun member => (showInt_plain value _ member).1 rfl, fun last member => ?_⟩
  rcases showInt_chars value last (List.mem_of_getLast? member) with digit | rfl
  · exact (digit_plain digit).1
  · decide

theorem getScheduler_answers
    {st : StorageHandle} {scheduler : CStr}
    (held : os.Displays (bracketed 256) sys
      (resolvePath os.sysfsRoot (storagePath st "/queue/scheduler")) scheduler) :
    (zenctlStorageGetScheduler st).Answers os sys (some scheduler) := by
  obtain ⟨text, contents, brackets⟩ := textOf_brackets held
  obtain ⟨start, opens, closes, cut⟩ := brackets.afterOpen
  refine .after (contents ▸ readFileString_answers _ _) ?_
  rw [opens]
  dsimp only
  rw [if_pos closes, cut]
  exact .after (allocateOr_answers _ _) (.pure _)

theorem getMemSleepMode_answers
    {mode : CStr}
    (held : os.Displays (bracketed 4096) sys
      (resolvePath os.sysfsRoot "/sys/power/mem_sleep") mode) :
    zenctlPowerGetMemSleepMode.Answers os sys (some mode) := by
  obtain ⟨text, contents, brackets⟩ := textOf_brackets held
  obtain ⟨opens, closes, ordered, cut⟩ := (brackets.rdropWhile isSpace (by decide)).positions
  have copied : (readStringAlloc "/sys/power/mem_sleep").Answers os sys
      (some (text.rdropWhile isSpace)) := by
    have answers : (readStringAlloc "/sys/power/mem_sleep").Answers os sys _ :=
      readStringAlloc_answers _
    rwa [contents] at answers
  have found : activeSleepMode (text.rdropWhile isSpace) = mode := by
    rw [activeSleepMode, if_pos ⟨opens, closes, ordered⟩, cut]
  refine .after copied (.after (allocateOr_answers _ _) ?_)
  rw [found]
  exact .pure mode

theorem getThp_answers
    {mode : ThpMode}
    (held : os.Displays (bracketed 128) sys (resolvePath os.sysfsRoot thpPath)
      (match mode with
        | .always => "always"
        | .madvise => "madvise"
        | .never => "never")) :
    zenctlMemGetThp.Answers os sys (some mode) := by
  obtain ⟨text, contents, brackets⟩ := textOf_brackets held
  obtain ⟨opens, closes, ordered, cut⟩ := brackets.positions
  refine .after (contents ▸ readFileString_answers _ _) ?_
  rw [bracketedThp, if_pos ⟨opens, closes, ordered.le⟩, cut]
  cases mode <;> exact .pure _

end Files

/-- The getter turns away what the setter did. -/
theorem GetM.Answers.guarded
    {os : Os σ} {sys : σ} {condition : Prop} [Decidable condition] {code : Int}
    {message context : CStr} {program : GetM σ α} {answer : Option α}
    (passed : ¬condition) (answers : program.Answers os sys answer) :
    (if condition then Zenctl.raise code message context else program).Answers os sys answer := by
  rwa [if_neg passed]

/-- Where the file holds the assignment, the getter delivers the setting. -/
theorem Update.reads
    {os : Os σ} {sys : σ} {call : Update} {assignment : FileAssignment} {reading : Reading}
    (plain : call.assignment = some assignment)
    (readable : call.reading = some reading)
    (admitted : call.Admits)
    (inRange : call.InRange)
    (held : os.Displays call.display sys (assignment.file os) assignment.text) :
    reading.query.program.Answers os sys (some reading.value) := by
  cases call <;> cases readable <;> cases plain <;> dsimp only
  case cpuSetGovernor cpu governor =>
    exact .after (readFileString_answersText held inRange)
      (.after (allocateOr_answers _ _) (.pure _))
  case cpuSetFreqMin cpu hz | cpuSetFreqMax cpu hz =>
    exact getFreq_answers held admitted inRange.2
  case cpuSetOnline cpu on => exact readSwitch_answers held
  case cpuSetCstateDisable cpu state disable =>
    exact .guarded (Int.not_lt.mpr admitted) (readSwitch_answers held)
  case memSetNrHugepages pages => exact readFileI64_answersInt held inRange.1 inRange.2
  case memSetNrHugepagesSize sizeKb pages =>
    refine .after (?_ : (hugepagesPath sizeKb _).Answers os sys (some _))
      (readFileI64_answersInt held inRange.1 inRange.2)
    exact .guarded (Int.not_le.mpr admitted.1) (.pure _)
  case memSetSwappiness value | memSetOvercommit value =>
    simp only [Update.Admits] at admitted
    exact getTunable_answers held (by unfold intMin; omega) (by unfold intMax; omega)
  case memSetVfsCachePressure value => exact getTunable_answers held inRange.1 inRange.2
  case memSetThp mode => exact getThp_answers held
  case storageSetScheduler st scheduler => exact getScheduler_answers held
  case powerSetMemSleepMode mode => exact getMemSleepMode_answers held
  case storageSetQueueDepth st depth =>
    have deep : 1 ≤ depth := admitted
    have fits : intMin ≤ depth ∧ depth ≤ intMax := inRange
    exact .after (readFileI64_answersInt held (by unfold int64Min; omega)
      (by unfold int64Max intMax at *; omega)) (.guarded (by omega) (.pure _))
  case storageSetReadAhead st kb => exact readFileI64_answersInt held inRange.1 inRange.2
  case storageSetPowerControl st mode | pcieSetPowerControl p mode =>
    exact readCopy_answersText held (survives_mode admitted (by decide))
  case netSetMtu net mtu => exact readRanged_answers held admitted inRange.2 (by decide) (by decide)
  case pcieSetD3coldAllowed p allow =>
    have answers : (readFileI64 _).Answers os sys (some (if allow then 1 else 0)) :=
      readFileI64_answersInt held (by cases allow <;> decide) (by cases allow <;> decide)
    cases allow
    · exact .after answers (.pure _)
    · exact .after answers (.pure _)
  case thermalSetPolicy tz policy => exact readStringAlloc_answersText held inRange
  case thermalSetMode tz enabled =>
    have answers := readStringAlloc_answersText held (survives_enabled (by decide))
    cases enabled
    · exact .after answers (.pure _)
    · exact .after answers (.pure _)
  case thermalHwmonSetFanPwm hwmon fan pwm =>
    have bounds : 0 ≤ hwmon ∧ 1 ≤ fan ∧ 0 ≤ pwm ∧ pwm ≤ 255 := admitted
    exact .guarded (by omega) (getTunable_answers held (by unfold intMin; omega)
      (by unfold intMax; omega))
  case thermalHwmonSetFanAuto hwmon fan auto =>
    have bounds : 0 ≤ hwmon ∧ 1 ≤ fan := admitted
    have answers : (readFileI64 _).Answers os sys (some (if auto then 2 else 1)) :=
      readFileI64_answersInt held (by cases auto <;> decide) (by cases auto <;> decide)
    refine .guarded (by omega) ?_
    cases auto
    · exact .after answers (.pure _)
    · exact .after answers (.pure _)
  case powerSetRuntimePm devPath mode =>
    exact readStringAlloc_answersText held (survives_mode admitted (by decide))
  case usbSetPowerControl u mode =>
    exact readAttrStr_answers held (survives_mode admitted (by decide))
  case usbSetAutosuspendDelay u ms =>
    have fits : intMin ≤ ms ∧ ms ≤ intMax := inRange
    unfold intMin intMax at fits
    have low : int64Min ≤ ms := by unfold int64Min; omega
    have high : ms ≤ int64Max := by unfold int64Max; omega
    have cast : toInt32 ms = ms := Int.bmod_eq_of_le (by omega) (by omega)
    have number : atoi (showInt ms) = ms := by
      rw [atoi, strtoll_showInt low high]
      exact cast
    have answers : (zenctlUsbGetAutosuspendDelay u).Answers os sys _ :=
      .after (readAttrText_answers held (survives_showInt low high (by decide))) (.pure _)
    rwa [number] at answers
  case usbSetAuthorized u on =>
    have shown : decide (atoi (if on then "1".toList else "0".toList) ≠ 0) = on := by
      cases on <;> decide
    have answers : (zenctlUsbGetAuthorized u).Answers os sys _ :=
      .after (readAttrText_answers held (survives_switch (by decide))) (.pure _)
    rwa [shown] at answers
  case usbSetWakeup u on =>
    have answers : (readAttrText u "power/wakeup" "wakeup" 32).Answers os sys _ :=
      readAttrText_answers held (survives_enabled (by decide))
    cases on
    · exact .after answers (.pure _)
    · exact .after answers (.pure _)

end Zenctl
