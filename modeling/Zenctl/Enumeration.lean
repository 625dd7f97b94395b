import Zenctl.Answers
import Zenctl.CpuSelection
import Zenctl.VisitLog

namespace Zenctl

open CString

/-!
# The entities the listings go over

Directories of numbered entries have gaps: a node without memory, a CPU that was
taken out, a device that was unbound.  The listings go by a count of the
entries, by the first index that does not answer, or by a fixed bound.
-/

variable {σ τ : Type}

/-! ## Machines -/

/-- A directory with numbered entries, in the order in which they are read, and others. -/
structure NumberedDir (lead : CStr) (isEntry : CStr → Bool) where
  names : List CStr
  indices : List Nat
  distinct : indices.Nodup
  entries : names.filter isEntry = indices.map fun n : Nat => lead ++ showInt n

/-- Where the library looks for a zone. -/
def zoneDir (zone : CStr) : CStr :=
  bounded 8192 ("/sys/class/thermal/".toList ++ zone)

/-- A machine whose four directories can be read, and one of its thermal zones. -/
structure Machine (σ : Type) where
  os : Os σ
  host : Host σ
  env : Env
  zone : CStr
  nodes : NumberedDir "node" isNodeName
  cdevs : NumberedDir "cdev" (isNumbered "cdev")
  cpus : NumberedDir "cpu" isCpuEntry
  hwmons : NumberedDir "hwmon" (isIndexed "hwmon")
  nodesListed : ∀ sys, os.listDir sys nodeDir = .ok nodes.names
  cdevsListed : ∀ sys, os.listDir sys (zoneDir zone) = .ok cdevs.names
  cpusListed : ∀ sys, host.listDir sys "/sys/devices/system/cpu" = some cpus.names
  hwmonsListed : ∀ sys, host.listDir sys "/sys/class/hwmon" = some hwmons.names

/-- The command line's surroundings on a machine. -/
def Machine.ctx (m : Machine σ) : Ctx σ Proc :=
  ⟨libzenctl m.os, m.host, m.env⟩

/-- Is there a file `temp<s>_input`? -/
def SensorExists (os : Os σ) (sys : σ) (hwmon s : Nat) : Prop :=
  os.openRead sys (resolvePath os.sysfsRoot (sensorPath hwmon s "input")) ≠ .error Errno.enoent

/-- Does it hold a number? -/
def sensorReads (os : Os σ) (sys : σ) (hwmon s : Int) : Bool :=
  (fileInt os sys (sensorPath hwmon s "input")).isSome

/-! ## Listings -/

/-- The targets of `zenctl cpu get` that take `--cpu`. -/
inductive CpuTarget where
  | governor
  | freq
  | online
  | cstate
  deriving Repr, DecidableEq

def CpuTarget.handler : CpuTarget → List CStr → Bool → ReadM σ τ Int
  | .governor => cpuGetGovernor
  | .freq => cpuGetFreq
  | .online => cpuGetOnline
  | .cstate => cpuGetCstate

/-- The commands that are to go over every entity of a kind, with their arguments. -/
inductive Listing where
  | numa
  | cooling (args : List CStr)
  | cpuAll
  | cpuGet (target : CpuTarget) (args : List CStr)
  | cpuSet (setting : CpuSetting) (args : List CStr)
  | hwmon
  deriving Repr, DecidableEq

namespace Listing

def program (json : Bool) : Listing → CliM σ τ Int
  | numa => reading (memGetNuma json)
  | cooling args => reading (thermalGet ("cooling".toList :: args) json)
  | cpuAll => reading (cpuGetAll json)
  | cpuGet target args => reading (target.handler args json)
  | cpuSet setting args => setting.handler args json false true
  | hwmon => reading (thermalHwmonList json)

/-- The setting's own arguments are in order. -/
def SettingValid (env : Env) (args : List CStr) : CpuSetting → Prop
  | .governor => ∃ governor, positionalArg args 0 = some governor
  | .freqMin | .freqMax =>
      ∃ text hz, positionalArg args 0 = some text ∧ parseFreq env text = some hz
  | .online => False
  | .cstate => ∃ state n word,
      positionalArg args 0 = some state ∧ positionalArg args 1 = some word ∧
      (wholeInt state).filter (0 ≤ ·) = some n ∧ (word = "disable".toList ∨ word = "enable".toList)

/-- The command is not refused, and is about all CPUs where there is a choice. -/
def Accepted (m : Machine σ) (sys : σ) (memory : Proc) : Listing → Prop
  | numa | cpuAll | hwmon => True
  | cooling args => cliOpt "--zone" ("cooling".toList :: args) = some m.zone ∧
      ∃ tz, (m.ctx.lib.query (.thermalOpen m.zone) sys memory).1 = .ok tz
  | cpuGet target args => cmdOptStr "--cpu" args = .value "all" ∧
      (target = .cstate → cmdOptInt "--state" args ≠ .missing)
  | cpuSet setting args => cmdOptStr "--cpu" args = .value "all" ∧ SettingValid m.env args setting

/-- The entities of the listing's kind that there are. -/
def Expects (m : Machine σ) (sys : σ) : Listing → Entity → Prop
  | numa, entity => ∃ n ∈ m.nodes.indices, entity = .node n
  | cooling _, entity => ∃ n ∈ m.cdevs.indices, entity = .cooling m.zone n
  | cpuAll, entity | cpuGet _ _, entity | cpuSet _ _, entity =>
      ∃ n ∈ m.cpus.indices, entity = .cpu n
  | hwmon, entity => ∃ h ∈ m.hwmons.indices, ∃ s, SensorExists m.os sys h s ∧ entity = .sensor h s

/-- Where the numbering has no gap that the listing trips over. -/
def Dense (m : Machine σ) (sys : σ) : Listing → Prop
  | numa => ∀ n ∈ m.nodes.indices, n < m.nodes.indices.length
  | cooling _ => ∀ n ∈ m.cdevs.indices, n < m.cdevs.indices.length
  | cpuGet .cstate _ | cpuSet .cstate _ => ∀ n ∈ m.cpus.indices, n = 0
  | cpuAll | cpuGet _ _ | cpuSet _ _ => ∀ n ∈ m.cpus.indices, n < m.cpus.indices.length
  | hwmon => ∀ h ∈ m.hwmons.indices, ∀ s, SensorExists m.os sys h s →
      -- among the first 64 entries there is one with this number, as an `int`
      (∃ n ∈ m.hwmons.indices.take 64, atoi (showInt (n : Int)) = h) ∧
        1 ≤ s ∧ s ≤ 15 ∧ ∀ lower : Nat, 1 ≤ lower → lower < s → sensorReads m.os sys h lower = true

/-- The entities a run goes over. -/
def visited (m : Machine σ) (listing : Listing) (json : Bool) (process : Process σ Proc) :
    List Entity :=
  (listing.program json m.ctx.logged
    ⟨process.sys, ⟨(process.console.memory, []), process.console.stdout, process.console.stderr,
      process.console.widths⟩, process.steps⟩).2.console.memory.2

/-- Every entity there is, is gone over. -/
def Complete (m : Machine σ) (listing : Listing) (json : Bool) (process : Process σ Proc) : Prop :=
  ∀ entity, listing.Expects m process.sys entity → entity ∈ listing.visited m json process

end Listing

/-! ## What the getters answer -/

section Getters

theorem query_value
    {β : Type} {os : Os σ} {sys : σ} {memory : Proc} {call : Query β} {value : β} {later : Proc}
    (run : call.program os sys { memory with err := Err.zero } = (.value value, later)) :
    ((libzenctl os).query call sys memory).1 = .ok value := by
  unfold libzenctl
  dsimp only
  rw [run]
  rfl

theorem query_failed
    {β : Type} {os : Os σ} {sys : σ} {memory : Proc} {call : Query β} {later : Proc}
    (run : call.program os sys { memory with err := Err.zero } = (.failed, later)) :
    ((libzenctl os).query call sys memory).1.isOk = false := by
  unfold libzenctl
  dsimp only
  rw [run]
  rfl

theorem NumberedDir.count
    {lead : CStr} {isEntry : CStr → Bool} (dir : NumberedDir lead isEntry) :
    (dir.names.filter isEntry).length = dir.indices.length := by
  rw [dir.entries, List.length_map]

variable (m : Machine σ) (sys : σ)

theorem numaNodeCount_answer (memory : Proc) :
    (m.ctx.lib.query .memNumaNodeCount sys memory).1 = .ok (m.nodes.indices.length : Int) := by
  rw [← m.nodes.count]
  exact query_value (GetM.bind_value (sysCall_ok (m.nodesListed sys)))

theorem coolingCount_answer
    {tz : ThermalHandle} (path : tz.zonePath = zoneDir m.zone) (memory : Proc) :
    (m.ctx.lib.query (.thermalGetCoolingCount tz) sys memory).1 =
      .ok (m.cdevs.indices.length : Int) := by
  have counted : countDirEntries tz.zonePath "cdev" m.os sys { memory with err := Err.zero } =
      (.value (m.cdevs.indices.length : Int), { memory with err := Err.zero }) := by
    have listed : m.os.listDir sys tz.zonePath = .ok m.cdevs.names := by
      rw [path]
      exact m.cdevsListed sys
    rw [← m.cdevs.count]
    exact GetM.bind_value (GetM.bind_value (sysCall_ok listed))
  have run : zenctlThermalGetCoolingCount tz m.os sys { memory with err := Err.zero } =
      (.value (m.cdevs.indices.length : Int), { memory with err := Err.zero }) := by
    refine (GetM.bind_value counted).trans ?_
    rw [if_neg (by omega)]
    rfl
  exact query_value run

/-- The handle of a zone that opened. -/
theorem thermalOpen_zone
    {os : Os σ} {zone : CStr} {memory : Proc} {tz : ThermalHandle}
    (opened : ((libzenctl os).query (.thermalOpen zone) sys memory).1 = .ok tz) :
    tz = ⟨zone, zoneDir zone⟩ := by
  have returns : (zenctlThermalOpen zone : GetM σ ThermalHandle).Returns
      (· = ⟨zone, zoneDir zone⟩) := by
    unfold zenctlThermalOpen
    split
    · refine .bind (.any _) fun found _ => ?_
      cases found with
      | none =>
          refine .bind (.any _) fun err _ => ?_
          split
          · exact .raise _ _ _
          · rintro os sys proc value ⟨⟩
      | some _ =>
          refine .bind (.any _) fun _ _ => .bind (.any _) fun _ _ => .bind (.any _) fun _ _ => ?_
          split
          · exact .pure rfl
          · exact .raise _ _ _
    · exact .raise _ _ _
  exact query_returns (.thermalOpen zone) returns opened

/-- The indices the getter takes, and a number in the file. -/
def sensorAnswers (os : Os σ) (sys : σ) (hwmon s : Int) : Bool :=
  decide (0 ≤ hwmon ∧ 1 ≤ s) && sensorReads os sys hwmon s

theorem hwmonGetTemp_answers (hwmon s : Int) (memory : Proc) :
    (m.ctx.lib.query (.thermalHwmonGetTemp hwmon s) sys memory).1.isOk =
      sensorAnswers m.os sys hwmon s := by
  unfold sensorAnswers
  by_cases refused : hwmon < 0 ∨ s < 1
  · have guarded : zenctlThermalHwmonGetTemp hwmon s m.os sys { memory with err := Err.zero } =
        raise Err.einval "NULL out or negative index" "zenctl_thermal_hwmon_get_temp" m.os sys
          { memory with err := Err.zero } := by
      rw [zenctlThermalHwmonGetTemp, if_pos refused]
    rw [decide_eq_false (by omega), Bool.false_and]
    exact query_failed guarded
  · have read := readFileI64_int m.os sys (sensorPath hwmon s "input")
      { memory with err := Err.zero }
    rw [decide_eq_true (by omega), Bool.true_and, sensorReads]
    cases number : fileInt m.os sys (sensorPath hwmon s "input") with
    | none =>
        rw [number] at read
        obtain ⟨later, failed, -⟩ := read
        have stopped : zenctlThermalHwmonGetTemp hwmon s m.os sys { memory with err := Err.zero } =
            (.failed, later) := by
          rw [zenctlThermalHwmonGetTemp, if_neg refused]
          exact GetM.bind_failed failed
        exact query_failed stopped
    | some temp =>
        rw [number] at read
        obtain ⟨first, run, -, -⟩ := read
        -- what is read after the temperature may be missing, and the call still answers
        obtain ⟨name, second, nameRun⟩ :=
          @quietly_readStringAlloc σ m.os sys (hwmonPath hwmon "/name") first
        obtain ⟨label, third, labelRun⟩ :=
          @quietly_readStringAlloc σ m.os sys (sensorPath hwmon s "label") second
        obtain ⟨fourth, maxRun, -⟩ := quietly_readFileI64 m.os sys (sensorPath hwmon s "max") third
        obtain ⟨fifth, critRun, -⟩ :=
          quietly_readFileI64 m.os sys (sensorPath hwmon s "crit") fourth
        have answered : ∃ found, zenctlThermalHwmonGetTemp hwmon s m.os sys
            { memory with err := Err.zero } = (.value found, fifth) := by
          rw [zenctlThermalHwmonGetTemp, if_neg refused]
          exact ⟨_, (GetM.bind_value run).trans <| (GetM.bind_value nameRun).trans <|
            (GetM.bind_value labelRun).trans <| (GetM.bind_value maxRun).trans <|
              GetM.bind_value critRun⟩
        obtain ⟨found, whole⟩ := answered
        have ok : (m.ctx.lib.query (.thermalHwmonGetTemp hwmon s) sys memory).1 = .ok found :=
          query_value whole
        rw [ok]
        rfl

end Getters

/-! ## What the programs go over -/

section Programs

variable {ctx : Ctx σ τ} {sys : σ}

theorem optField_visits
    {β : Type} {call : Query β} (other : call.entity = []) (field : β → Field) :
    (optField call field).Visits ctx sys [] :=
  .asksOther other (fun _ => .pure _) fun _ => .pure _

theorem cellOr_visits
    {β : Type} {call : Query β} (other : call.entity = []) (cell : β → CStr) :
    (cellOr call cell).Visits ctx sys [] :=
  .asksOther other (fun _ => .pure _) fun _ => .pure _

theorem countCstates_visits (cpu : CpuHandle) (n : Int) (probes : Nat) :
    (countCstates cpu n probes).Visits ctx sys [] := by
  induction probes generalizing n with
  | zero => exact .pure n
  | succ probes inductionHypothesis =>
      exact .asksOther rfl (fun _ => .pure n) fun _ => inductionHypothesis (n + 1)

theorem cstateItem_visits (cpu : CpuHandle) (state : Int) :
    (cstateItem cpu state).Visits ctx sys [] :=
  .asksOther rfl (fun _ => .pure _) fun _ => .pure _

/-- A loop whose rounds go over nothing. -/
theorem nothing {α : Type} (items : List α) :
    items.flatMap (fun _ => ([] : List Entity)) = [] :=
  List.flatMap_eq_nil_iff.mpr fun _ _ => rfl

theorem emitCpuJson_visits (cpu : CpuHandle) (idx : Int) :
    (emitCpuJson cpu idx).Visits ctx sys [] := by
  unfold emitCpuJson
  refine .after (optField_visits rfl _) fun _ => .after (optField_visits rfl _) fun _ =>
    .after (optField_visits rfl _) fun _ => .after (optField_visits rfl _) fun _ => ?_
  refine .after (countCstates_visits cpu 0 65) fun count => .ite (fun _ => ?_) fun _ => .pure _
  refine .after ?_ fun _ => .pure _
  rw [← nothing (countUp 0 count)]
  exact .collect (cstateItem_visits cpu) _

theorem printCpuTableRow_visits (cpu : CpuHandle) (idx : Int) :
    (printCpuTableRow cpu idx).Visits ctx sys [] :=
  .knowing (fun _ => rfl) <| .after (cellOr_visits rfl _) fun _ =>
    .after (cellOr_visits rfl _) fun _ => .after (cellOr_visits rfl _) fun _ =>
      .after (cellOr_visits rfl _) fun _ => .outTableRow _

/-- One CPU of a listing. -/
theorem withCpu_visits
    {reader : CpuHandle → ReadM σ (τ × List Entity) (Option CStr)}
    (reads : ∀ cpu, (reader cpu).Visits ctx sys []) (c : Int) :
    (withCpu reader c).Visits ctx sys [.cpu c] :=
  .asks (fun _ => .pure none) reads

theorem withCpuRow_visits
    {printer : CpuHandle → ReadM σ (τ × List Entity) Unit}
    (prints : ∀ cpu, (printer cpu).Visits ctx sys []) (c : Int) :
    (withCpuRow printer c).Visits ctx sys [.cpu c] :=
  .asks (fun _ => .pure ()) prints

theorem governorItem_visits (c : Int) (cpu : CpuHandle) :
    (governorItem c cpu).Visits ctx sys [] :=
  .asksOther rfl (fun _ => .pure _) fun _ => .pure _

theorem governorRow_visits (c : Int) (cpu : CpuHandle) :
    (governorRow c cpu).Visits ctx sys [] :=
  .asksOther rfl (fun _ => .pure _) fun _ => .outTableRow _

theorem freqItem_visits (c : Int) (cpu : CpuHandle) :
    (freqItem c cpu).Visits ctx sys [] :=
  .after (optField_visits rfl _) fun _ => .after (optField_visits rfl _) fun _ =>
    .ite (fun _ => .pure _) fun _ => .pure _

theorem freqRow_visits (c : Int) (cpu : CpuHandle) :
    (freqRow c cpu).Visits ctx sys [] :=
  .knowing (fun _ => rfl) <| .after (cellOr_visits rfl _) fun _ =>
    .after (cellOr_visits rfl _) fun _ => .outTableRow _

theorem onlineItem_visits (c : Int) (cpu : CpuHandle) :
    (onlineItem c cpu).Visits ctx sys [] :=
  .asksOther rfl (fun _ => .pure _) fun _ => .pure _

theorem onlineRow_visits (c : Int) (cpu : CpuHandle) :
    (onlineRow c cpu).Visits ctx sys [] :=
  .asksOther rfl (fun _ => .pure _) fun _ => .outTableRow _

/-- The sensors up to the first that does not answer, and that one. -/
def upToFirst (answers : Int → Bool) : List Int → List Int
  | [] => []
  | s :: rest => s :: if answers s then upToFirst answers rest else []

end Programs

section Commands

variable (m : Machine σ) (sys : σ)

/-- What `cmd_count_cpus` makes of the CPU directory. -/
def Machine.cpuCount : Int :=
  if 0 < m.cpus.indices.length then (m.cpus.indices.length : Int) else 1

theorem countCpus_run (console : Console (Proc × List Entity)) :
    cmdCountCpus m.ctx.logged sys console = (m.cpuCount, console) := by
  have listed : listDir "/sys/devices/system/cpu" m.ctx.logged sys console =
      (some m.cpus.names, console) := congrArg (·, console) (m.cpusListed sys)
  unfold cmdCountCpus Machine.cpuCount
  rw [ReadM.bind_run, listed, ← m.cpus.count]
  rfl

/-- The CPUs a command with `--cpu all` counts up. -/
def Machine.counted (m : Machine σ) : List Entity :=
  (countUp 0 m.cpuCount).flatMap fun c => [.cpu c]

theorem parseCpuArg_all {args : List CStr} (all : cmdOptStr "--cpu" args = .value "all") :
    parseCpuArg args = -1 := by
  unfold parseCpuArg
  rw [all]
  exact if_pos rfl

theorem cpuGetEach_visits
    {args : List CStr} (all : cmdOptStr "--cpu" args = .value "all") (json : Bool)
    (header : List CStr)
    {item : Int → CpuHandle → ReadM σ (Proc × List Entity) (Option CStr)}
    {row : Int → CpuHandle → ReadM σ (Proc × List Entity) Unit}
    (items : ∀ c cpu, (item c cpu).Visits m.ctx sys [])
    (rows : ∀ c cpu, (row c cpu).Visits m.ctx sys []) :
    (cpuGetEach args json header item row).Visits m.ctx sys m.counted := by
  unfold cpuGetEach
  rw [parseCpuArg_all all]
  refine .ite (fun impossible => absurd impossible (by decide)) fun _ => ?_
  refine .knowing (countCpus_run m sys) ?_
  exact .listing 0 (.outTable header) (fun c => withCpu_visits (items c) c)
    fun c => withCpuRow_visits (rows c) c

theorem cpuAll_visits (json : Bool) :
    (cpuGetAll json).Visits m.ctx sys
      (if json = true then .cpu 0 :: m.counted else m.counted) := by
  unfold cpuGetAll
  refine .knowing (countCpus_run m sys) ?_
  cases json with
  | false =>
      exact .after (.outTable _) fun _ => .before
        (.forEach (fun c => withCpuRow_visits (fun cpu => printCpuTableRow_visits cpu c) c) _)
        fun _ => .pure 0
  | true =>
      have elements := @ReadM.Visits.collect _ _ _ _ m.ctx sys _ _ (fun c => withCpu_visits
        (fun cpu => .after (emitCpuJson_visits cpu c) fun text => .pure (some text)) c)
        (countUp 0 m.cpuCount)
      exact .asks
        (fun _ => .after (.pure []) fun _ => .before elements fun _ => .after (.put _) fun _ =>
          .pure 0)
        fun _ => .after (optField_visits rfl _) fun _ => .before elements fun _ =>
          .after (.put _) fun _ => .pure 0

theorem numa_visits (json : Bool) :
    (memGetNuma json).Visits m.ctx sys
      ((countUp 0 m.nodes.indices.length).flatMap fun n => [.node n]) := by
  unfold memGetNuma
  refine .asksFor (numaNodeCount_answer m sys) ?_
  dsimp only
  split
  · rename_i empty
    rw [empty]
    exact .report (.outKv _ _)
  · refine .listing 0 (.outTable _) (fun n => ?_) fun n => ?_
    · exact .asks (fun _ => .pure _) fun _ => .pure _
    · exact .knowing (fun _ => rfl) (.asks (fun _ => .pure _) fun _ => .outTableRow _)

theorem cooling_visits
    {tz : ThermalHandle} (path : tz.zonePath = zoneDir m.zone) (zone : CStr) (json : Bool)
    (header : List CStr) (fields : Cooling → List Field) (row : Cooling → List CStr) :
    (thermalGetParts zone json (.thermalGetCoolingCount tz) (.thermalGetCooling tz) "cooling"
      fields header row).Visits m.ctx sys
      ((countUp 0 m.cdevs.indices.length).flatMap fun n => [.cooling tz.zoneName n]) := by
  unfold thermalGetParts
  refine .asksFor (coolingCount_answer m sys path) ?_
  dsimp only
  refine .ite
    (fun _ => .before (.collect (fun n => ?_) _) fun _ => .after (.put _) fun _ => .pure 0)
    fun _ => .after (.outKv _ _) fun _ => .after (.outTable _) fun _ =>
      .before (.forEach (fun n => ?_) _) fun _ => .pure 0
  · exact .asks (fun _ => .pure _) fun _ => .pure _
  · exact .asks (fun _ => .pure _) fun _ => .outTableRow _

theorem upToFirst_visits (hwmon : Int) (sensors : List Int) :
    (hwmonSensors hwmon sensors).Visits m.ctx sys
      ((upToFirst (sensorAnswers m.os sys hwmon) sensors).map (.sensor hwmon)) := by
  induction sensors with
  | nil => exact .pure []
  | cons s rest inductionHypothesis =>
      refine .asksWhen (hwmonGetTemp_answers m sys hwmon s) (fun silent err => ?_)
        fun answers temp => ?_
      · rw [if_neg (Bool.eq_false_iff.mp silent)]
        exact .pure []
      · rw [if_pos answers]
        exact .before inductionHypothesis fun _ => .pure _

/-- The devices `thermal hwmon` goes through. -/
def Machine.devices (m : Machine σ) : List Int :=
  ((m.hwmons.indices.take 64).map fun n : Nat => atoi (showInt n)).insertionSort (· ≤ ·)

theorem hwmonDevices_run (console : Console (Proc × List Entity)) :
    enumIndexed "/sys/class/hwmon" "hwmon" 64 m.ctx.logged sys console =
      (some m.devices, console) := by
  have listed : listDir "/sys/class/hwmon" m.ctx.logged sys console =
      (some m.hwmons.names, console) := congrArg (·, console) (m.hwmonsListed sys)
  have indices : ((m.hwmons.names.filter (isIndexed "hwmon")).take 64).map
      (fun name => atoi (name.drop "hwmon".toList.length)) =
        (m.hwmons.indices.take 64).map fun n : Nat => atoi (showInt n) := by
    rw [m.hwmons.entries, ← List.map_take, List.map_map]
    refine List.map_congr_left fun n _ => ?_
    exact congrArg atoi (List.drop_left ..)
  unfold enumIndexed Machine.devices
  rw [ReadM.bind_run, listed, ← indices]
  rfl

theorem hwmon_visits (json : Bool) :
    (thermalHwmonList json).Visits m.ctx sys
      (m.devices.flatMap fun h =>
        (upToFirst (sensorAnswers m.os sys h) (countUp 1 16)).map (.sensor h)) := by
  unfold thermalHwmonList
  refine .knowing (hwmonDevices_run m sys) (.listing 0 (.outTable _) (fun h => ?_) fun h => ?_)
  · exact .before (upToFirst_visits m sys h _) fun _ => .pure _
  · refine .before (upToFirst_visits m sys h _) fun sensors => ?_
    rw [← nothing sensors]
    exact .forEach (fun _ => .outTableRow _) _

theorem cpuGetCstate_visits
    {args : List CStr} (all : cmdOptStr "--cpu" args = .value "all")
    (state : cmdOptInt "--state" args ≠ .missing) (json : Bool) :
    (cpuGetCstate args json).Visits m.ctx sys [.cpu 0] := by
  unfold cpuGetCstate
  rw [parseCpuArg_all all]
  refine .ite (fun impossible => absurd impossible (by decide)) fun _ => ?_
  refine .ite (fun missing => absurd missing state) fun _ => ?_
  refine .asks (fun err => .failWith _ _ _) fun cpu => .after (countCstates_visits cpu 0 65) ?_
  intro n
  rw [← nothing (cstateList (cmdOptInt "--state" args) n)]
  exact .listing 0 (.outTable _) (cstateItem_visits cpu)
    fun _ => .asksOther rfl (fun _ => .pure _) fun _ => .outTableRow _

/-- `thermal get cooling`, once the zone is open. -/
theorem thermalGet_cooling
    {ctx : Ctx σ τ} {sys : σ} {console : Console τ} {args : List CStr} {zone : CStr}
    (named : cliOpt "--zone" ("cooling".toList :: args) = some zone)
    {tz : ThermalHandle} (opened : (query (.thermalOpen zone) ctx sys console).1 = .ok tz)
    (json : Bool) :
    thermalGet ("cooling".toList :: args) json ctx sys console =
      thermalGetParts zone json (.thermalGetCoolingCount tz) (.thermalGetCooling tz) "cooling"
        coolingFields ["IDX", "TYPE", "CUR", "MAX"] coolingRow ctx sys
        (query (.thermalOpen zone) ctx sys console).2 := by
  unfold thermalGet
  dsimp only
  rw [named]
  dsimp only
  unfold readOrErr
  rw [ReadM.bind_run, opened]
  dsimp only
  rw [ReadM.bind_run]
  rw [if_neg (by decide), if_neg (by decide), if_neg (by decide), if_neg (by decide),
    if_neg (by decide), if_pos rfl]
  rfl

/-! ### Settings -/

theorem cpuApply_visits (set : CpuHandle → Update) (c : Int) :
    (cpuApply set c).Visits m.ctx [.cpu c] := by
  refine .before (.reading fun sys => .query (.cpuOpen c)) fun answer => ?_
  cases answer with
  | error err => exact .pure _
  | ok cpu => exact .after (.update _) fun _ => .pure _

theorem setResultLine_visits (done : CStr) (result : Int × Option (Except Err Unit)) :
    (setResultLine done result).Visits m.ctx sys [] := by
  rcases result with ⟨c, _ | _ | _⟩
  · exact .still fun _ => rfl
  · exact .still fun _ => rfl
  · exact .put _

theorem cpuSetEach_visits (json : Bool) (set : CpuHandle → Update) (done : CStr) :
    (cpuSetEach json (cpuBounds (-1) m.cpuCount) set done).Visits m.ctx m.counted := by
  refine .before (.collectCli (cpuApply_visits m set) _) fun results => ?_
  refine .after (.reading fun sys => .report ?_) fun _ => .pure _
  rw [← nothing results]
  exact .forEach (setResultLine_visits m sys done) results

theorem cpuSetGovernor_visits
    {args : List CStr} (all : cmdOptStr "--cpu" args = .value "all")
    {governor : CStr} (given : positionalArg args 0 = some governor) (json : Bool) :
    (cpuSetGovernor args json false).Visits m.ctx m.counted := by
  unfold cpuSetGovernor
  rw [given]
  dsimp only
  rw [parseCpuArg_all all, if_neg (by decide)]
  exact .knowing (countCpus_run m) (cpuSetEach_visits m json _ _)

theorem cpuSetFreq_visits
    {args : List CStr} (all : cmdOptStr "--cpu" args = .value "all")
    {text : CStr} (given : positionalArg args 0 = some text)
    {hz : Int} (parsed : parseFreq m.env text = some hz) (json isMax : Bool) :
    (cpuSetFreq args json false isMax).Visits m.ctx m.counted := by
  have env : ∀ sys console, (getEnv : ReadM σ (Proc × List Entity) Env) m.ctx.logged sys console =
      (m.env, console) := fun _ _ => rfl
  unfold cpuSetFreq
  refine .knowing env ?_
  rw [given]
  dsimp only
  rw [parsed]
  dsimp only
  rw [parseCpuArg_all all, if_neg (by decide)]
  exact .knowing (countCpus_run m) (cpuSetEach_visits m json _ _)

/-- A setting of one CPU. -/
theorem cpuSetOne_visits
    (json : Bool) (c : Int) (noOpen fallback : CStr) (set : CpuHandle → Update) (document : CStr)
    (text : CStr) :
    (cpuSetOne json c noOpen fallback set document (put text)).Visits m.ctx [.cpu c] := by
  refine .before (.reading fun sys => .query (.cpuOpen c)) fun opened => ?_
  cases opened with
  | error err => exact .reading fun sys => .failWith _ _ _
  | ok cpu =>
      refine .after (.update _) fun result => ?_
      cases result with
      | error err => exact .reading fun sys => .failWith _ _ _
      | ok done => exact .reading fun sys => .report (.put _)

theorem cpuSetCstate_visits
    {args : List CStr} (all : cmdOptStr "--cpu" args = .value "all")
    (valid : Listing.SettingValid m.env args .cstate) (json : Bool) :
    (cpuSetCstate args json false).Visits m.ctx [.cpu 0] := by
  obtain ⟨state, n, word, stateGiven, wordGiven, number, known⟩ := valid
  unfold cpuSetCstate
  rw [stateGiven, wordGiven]
  dsimp only
  rw [number, parseCpuArg_all all]
  dsimp only
  rw [if_neg fun neither => known.elim neither.1 neither.2, if_neg (by decide)]
  exact cpuSetOne_visits m json 0 _ _ _ _ _

/-! ### Every listing -/

namespace Listing

/-- What the listing goes over on a machine. -/
def passes (m : Machine σ) (sys : σ) (json : Bool) : Listing → List Entity
  | numa => (countUp 0 m.nodes.indices.length).flatMap fun n => [.node n]
  | cooling _ => (countUp 0 m.cdevs.indices.length).flatMap fun n => [.cooling m.zone n]
  | cpuAll => if json = true then .cpu 0 :: m.counted else m.counted
  | cpuGet .cstate _ | cpuSet .cstate _ => [.cpu 0]
  | cpuGet _ _ | cpuSet _ _ => m.counted
  | hwmon => m.devices.flatMap fun h =>
      (upToFirst (sensorAnswers m.os sys h) (countUp 1 16)).map (.sensor h)

theorem visited_eq
    (listing : Listing) (json : Bool) (process : Process σ Proc)
    (accepted : listing.Accepted m process.sys process.console.memory) :
    visited m listing json process = listing.passes m process.sys json := by
  cases listing with
  | numa => exact numa_visits m process.sys json _
  | cooling args =>
      obtain ⟨named, tz, opened⟩ := accepted
      cases thermalOpen_zone process.sys opened
      let console : Console (Proc × List Entity) := ⟨(process.console.memory, []),
        process.console.stdout, process.console.stderr, process.console.widths⟩
      have opens : (query (.thermalOpen m.zone) m.ctx.logged process.sys console).1 =
          .ok ⟨m.zone, zoneDir m.zone⟩ := opened
      have run := congrArg (·.2.memory.2) (thermalGet_cooling named opens json)
      exact run.trans (cooling_visits m process.sys rfl m.zone json _ coolingFields coolingRow _)
  | cpuAll => exact cpuAll_visits m process.sys json _
  | cpuGet target args =>
      obtain ⟨all, state⟩ := accepted
      cases target with
      | governor =>
          exact cpuGetEach_visits m process.sys all json _ governorItem_visits governorRow_visits _
      | freq =>
          exact cpuGetEach_visits m process.sys all json _ freqItem_visits freqRow_visits _
      | online =>
          exact cpuGetEach_visits m process.sys all json _ onlineItem_visits onlineRow_visits _
      | cstate => exact cpuGetCstate_visits m process.sys all (state rfl) json _
  | cpuSet setting args =>
      obtain ⟨all, valid⟩ := accepted
      cases setting with
      | governor =>
          obtain ⟨governor, given⟩ := valid
          exact cpuSetGovernor_visits m all given json _
      | freqMin =>
          obtain ⟨text, hz, given, parsed⟩ := valid
          exact cpuSetFreq_visits m all given parsed json false _
      | freqMax =>
          obtain ⟨text, hz, given, parsed⟩ := valid
          exact cpuSetFreq_visits m all given parsed json true _
      | online => exact valid.elim
      | cstate => exact cpuSetCstate_visits m all valid json _
  | hwmon => exact hwmon_visits m process.sys json _

end Listing

/-! ## Where nothing is left out -/

/-- An index below the count is passed, and no other. -/
theorem mem_counted
    {entity : Int → Entity} (injective : Function.Injective entity) {count : Int} {n : Int} :
    entity n ∈ (countUp 0 count).flatMap (fun i => [entity i]) ↔ 0 ≤ n ∧ n < count := by
  rw [List.mem_flatMap]
  constructor
  · rintro ⟨i, counted, same⟩
    cases injective (List.mem_singleton.mp same)
    exact mem_countUp.mp counted
  · intro below
    exact ⟨n, mem_countUp.mpr below, List.mem_singleton.mpr rfl⟩

/-- A sensor is reached when all before it answer. -/
theorem mem_upToFirst
    {answers : Int → Bool} {s : Int} (count : Nat) (start : Int) :
    s ∈ upToFirst answers (countUp start (start + count)) ↔
      start ≤ s ∧ s < start + count ∧
        ∀ lower, start ≤ lower → lower < s → answers lower = true := by
  induction count generalizing start with
  | zero =>
      have none : countUp start (start + (0 : Nat)) = [] :=
        List.eq_nil_iff_forall_not_mem.mpr fun i member => by
          have bounds := mem_countUp.mp member
          omega
      rw [none]
      refine iff_of_false List.not_mem_nil ?_
      rintro ⟨low, high, -⟩
      omega
  | succ count inductionHypothesis =>
      have later := inductionHypothesis (start + 1)
      have stop : start + 1 + (count : Int) = start + ((count + 1 : Nat) : Int) := by omega
      rw [stop] at later
      rw [countUp_cons (by omega), upToFirst, List.mem_cons]
      by_cases first : answers start = true
      · rw [if_pos first, later]
        constructor
        · rintro (rfl | ⟨low, high, before⟩)
          · exact ⟨le_refl _, by omega, fun lower low high => by omega⟩
          · refine ⟨by omega, high, fun lower from_start below => ?_⟩
            by_cases here : lower = start
            · rwa [here]
            · exact before lower (by omega) below
        · rintro ⟨low, high, before⟩
          by_cases here : s = start
          · exact .inl here
          · exact .inr ⟨by omega, high, fun lower above below => before lower (by omega) below⟩
      · rw [if_neg first]
        constructor
        · rintro (rfl | impossible)
          · exact ⟨le_refl _, by omega, fun lower low high => by omega⟩
          · cases impossible
        · rintro ⟨low, high, before⟩
          by_cases here : s = start
          · exact .inl here
          · exact absurd (before start (le_refl _) (by omega)) first

/-- Counting up to a number reaches the indices below it. -/
theorem counting_complete_iff
    {entity : Int → Entity} (injective : Function.Injective entity) (indices : List Nat)
    (count : Int) :
    (∀ e, (∃ n ∈ indices, e = entity (n : Nat)) →
      e ∈ (countUp 0 count).flatMap fun i => [entity i]) ↔
      ∀ n ∈ indices, (n : Int) < count := by
  constructor
  · intro complete n member
    exact ((mem_counted injective).mp (complete _ ⟨n, member, rfl⟩)).2
  · rintro below e ⟨n, member, rfl⟩
    exact (mem_counted injective).mpr ⟨by omega, below n member⟩

theorem cpu_injective : Function.Injective Entity.cpu := by
  rintro n n' ⟨⟩
  rfl

/-- With a CPU there, the count is the number of entries. -/
theorem cpuCount_of_mem {n : Nat} (member : n ∈ m.cpus.indices) :
    m.cpuCount = m.cpus.indices.length :=
  if_pos (List.length_pos_of_mem member)

theorem counted_complete_iff :
    (∀ e, (∃ n ∈ m.cpus.indices, e = Entity.cpu (n : Nat)) → e ∈ m.counted) ↔
      ∀ n ∈ m.cpus.indices, n < m.cpus.indices.length := by
  refine (counting_complete_iff cpu_injective m.cpus.indices m.cpuCount).trans ?_
  refine forall₂_congr fun n member => ?_
  rw [cpuCount_of_mem m member, Nat.cast_lt]

/-- The SMT field of the JSON document opens CPU 0 once more. -/
theorem cpuAll_complete_iff (json : Bool) :
    (∀ e, (∃ n ∈ m.cpus.indices, e = Entity.cpu (n : Nat)) →
      e ∈ (if json = true then .cpu 0 :: m.counted else m.counted)) ↔
      ∀ n ∈ m.cpus.indices, n < m.cpus.indices.length := by
  have zero : Entity.cpu 0 ∈ m.counted := by
    refine (mem_counted cpu_injective).mpr ⟨le_refl _, ?_⟩
    unfold Machine.cpuCount
    split
    · omega
    · decide
  rw [← counted_complete_iff]
  refine forall₂_congr fun e expected => ?_
  split
  · rw [List.mem_cons]
    refine ⟨fun either => ?_, .inr⟩
    rcases either with rfl | member
    · exact zero
    · exact member
  · rfl

theorem single_complete_iff :
    (∀ e, (∃ n ∈ m.cpus.indices, e = Entity.cpu (n : Nat)) → e ∈ [Entity.cpu 0]) ↔
      ∀ n ∈ m.cpus.indices, n = 0 := by
  constructor
  · intro complete n member
    have here := cpu_injective (List.mem_singleton.mp (complete _ ⟨n, member, rfl⟩))
    omega
  · rintro zero e ⟨n, member, rfl⟩
    rw [zero n member]
    exact List.mem_singleton.mpr rfl

theorem mem_devices {h : Int} :
    h ∈ m.devices ↔ ∃ n ∈ m.hwmons.indices.take 64, atoi (showInt (n : Nat)) = h := by
  unfold Machine.devices
  rw [List.mem_insertionSort, List.mem_map]

theorem hwmon_complete_iff :
    (∀ e, Listing.hwmon.Expects m sys e →
      e ∈ m.devices.flatMap fun h =>
        (upToFirst (sensorAnswers m.os sys h) (countUp 1 16)).map (.sensor h)) ↔
      Listing.hwmon.Dense m sys := by
  have reached : ∀ h s : Nat, Entity.sensor h s ∈ (m.devices.flatMap fun h =>
      (upToFirst (sensorAnswers m.os sys h) (countUp 1 16)).map (.sensor h)) ↔
        (∃ n ∈ m.hwmons.indices.take 64, atoi (showInt (n : Int)) = h) ∧
          1 ≤ s ∧ s ≤ 15 ∧
            ∀ lower : Nat, 1 ≤ lower → lower < s → sensorReads m.os sys h lower = true := by
    intro h s
    have passed := @mem_upToFirst (sensorAnswers m.os sys h) s 15 1
    rw [List.mem_flatMap, ← mem_devices m]
    constructor
    · rintro ⟨device, listed, here⟩
      obtain ⟨sensor, member, same⟩ := List.mem_map.mp here
      cases same
      obtain ⟨low, high, before⟩ := passed.mp member
      refine ⟨listed, by omega, by omega, fun lower above below => ?_⟩
      exact ((Bool.and_eq_true _ _).mp (before lower (by omega) (by omega))).2
    · rintro ⟨listed, low, high, before⟩
      refine ⟨h, listed, List.mem_map.mpr ⟨s, passed.mpr ⟨by omega, by omega, ?_⟩, rfl⟩⟩
      intro lower above below
      obtain ⟨n, rfl⟩ := Int.eq_ofNat_of_zero_le (show 0 ≤ lower by omega)
      rw [sensorAnswers, decide_eq_true ⟨by omega, above⟩, Bool.true_and]
      exact before n (by omega) (by omega)
  constructor
  · intro complete h device s exist
    exact (reached h s).mp (complete _ ⟨h, device, s, exist, rfl⟩)
  · rintro dense e ⟨h, device, s, exist, rfl⟩
    exact (reached h s).mpr (dense h device s exist)

theorem enumeration_complete_iff
    (listing : Listing) (json : Bool) (process : Process σ Proc)
    (accepted : listing.Accepted m process.sys process.console.memory) :
    listing.Complete m json process ↔ listing.Dense m process.sys := by
  rw [Listing.Complete, listing.visited_eq m json process accepted]
  cases listing with
  | numa =>
      have injective : Function.Injective Entity.node := by
        rintro n n' ⟨⟩
        rfl
      refine (counting_complete_iff injective m.nodes.indices _).trans ?_
      exact forall₂_congr fun n member => Nat.cast_lt
  | cooling args =>
      have injective : Function.Injective (Entity.cooling m.zone) := by
        rintro n n' ⟨⟩
        rfl
      refine (counting_complete_iff injective m.cdevs.indices _).trans ?_
      exact forall₂_congr fun n member => Nat.cast_lt
  | cpuAll => exact cpuAll_complete_iff m json
  | cpuGet target args =>
      cases target with
      | cstate => exact single_complete_iff m
      | _ => exact counted_complete_iff m
  | cpuSet setting args =>
      cases setting with
      | cstate => exact single_complete_iff m
      | _ => exact counted_complete_iff m
  | hwmon => exact hwmon_complete_iff m process.sys

end Commands

/-- A machine with nodes 0 and 2, CPUs 1 and 0, a cooling link 1, and sensors 1 and 3. -/
def sparse : Machine Unit where
  os := { bareOs with
    listDir := fun _ dir =>
      if dir = nodeDir then .ok [".".toList, "possible".toList, "node2".toList, "node0".toList]
      else .ok ["temp".toList, "cdev1".toList]
    openRead := fun _ path =>
      if path = sensorPath 0 2 "input" then .error Errno.enoent else .ok ⟨"41000\n".toList, none⟩ }
  host := { NumberSite.eagerHost with
    listDir := fun _ dir =>
      if dir = "/sys/class/hwmon".toList then some ["hwmon0".toList]
      else some ["cpufreq".toList, "cpu1".toList, "cpu0".toList] }
  env := smallEnv 0
  zone := "thermal_zone0"
  nodes := ⟨[".".toList, "possible".toList, "node2".toList, "node0".toList], [2, 0], by decide,
    by decide⟩
  cdevs := ⟨["temp".toList, "cdev1".toList], [1], by decide, by decide⟩
  cpus := ⟨["cpufreq".toList, "cpu1".toList, "cpu0".toList], [1, 0], by decide, by decide⟩
  hwmons := ⟨["hwmon0".toList], [0], by decide, by decide⟩
  nodesListed _ := rfl
  cdevsListed _ := rfl
  cpusListed _ := rfl
  hwmonsListed _ := rfl

/-- A fresh process on it. -/
def sparseProcess : Process Unit Proc :=
  ⟨(), ⟨freshProc, [], [], []⟩, []⟩

/-- Both CPUs are there, in whatever order, and both are set. -/
theorem sparse_cpus :
    (Listing.cpuSet .governor ["powersave", "--cpu", "all"]).Complete sparse false
      sparseProcess :=
  (enumeration_complete_iff sparse (.cpuSet .governor ["powersave", "--cpu", "all"]) false
    sparseProcess ⟨by decide, "powersave".toList, by decide⟩).mpr (by
      intro n member
      rcases List.mem_pair.mp (show n ∈ [1, 0] from member) with rfl | rfl <;> decide)

/-- Node 2, link 1 and sensor 3 are left out. -/
theorem sparse_incomplete :
    ¬Listing.numa.Complete sparse true sparseProcess ∧
      ¬(Listing.cooling ["--zone", "thermal_zone0"]).Complete sparse true sparseProcess ∧
      ¬Listing.hwmon.Complete sparse true sparseProcess := by
  have nodes : Listing.numa.visited sparse true sparseProcess = [.node 0, .node 1] := by
    decide +kernel
  have links : (Listing.cooling ["--zone", "thermal_zone0"]).visited sparse true sparseProcess =
      [.cooling "thermal_zone0" 0] := by
    decide +kernel
  have sensors : Listing.hwmon.visited sparse true sparseProcess = [.sensor 0 1, .sensor 0 2] := by
    decide +kernel
  rw [Listing.Complete, Listing.Complete, Listing.Complete, nodes, links, sensors]
  refine ⟨fun complete => ?_, fun complete => ?_, fun complete => ?_⟩
  · exact absurd (complete (.node 2) ⟨2, by decide, rfl⟩) (by decide)
  · exact absurd (complete (.cooling "thermal_zone0" 1) ⟨1, by decide, rfl⟩) (by decide)
  · have exist : SensorExists sparse.os () 0 3 := by
      have opened : sparse.os.openRead () (resolvePath sparse.os.sysfsRoot
          (sensorPath (0 : Nat) (3 : Nat) "input")) = .ok ⟨"41000\n".toList, none⟩ := rfl
      rw [SensorExists, opened]
      nofun
    exact absurd (complete (.sensor 0 3) ⟨0, by decide, 3, exist, rfl⟩) (by decide)

end Zenctl
