import Zenctl.CpuFreq
import Zenctl.Main
import Zenctl.Libzenctl

namespace Zenctl

open CString

/-!
# Numbers on the command line and in profiles

The handlers read numbers as 64-bit integers and hand most of them on as an
`int`.  A text that denotes an integer is followed through the handler to the
setter it calls.
-/

variable {σ τ α β : Type}

/-! ## Decimal texts -/

/-- The text denotes the integer: an optional sign and decimal digits. -/
inductive Decimal : CStr → Int → Prop
  | unsigned (digits : CStr) (nonempty : digits ≠ []) (decimal : ∀ c ∈ digits, isDigit c = true) :
      Decimal digits (digitsValue digits)
  | plus (digits : CStr) (nonempty : digits ≠ []) (decimal : ∀ c ∈ digits, isDigit c = true) :
      Decimal ('+' :: digits) (digitsValue digits)
  | minus (digits : CStr) (nonempty : digits ≠ []) (decimal : ∀ c ∈ digits, isDigit c = true) :
      Decimal ('-' :: digits) (-(digitsValue digits : Int))

/-- Behind white space, `strtoll` reads it up to what is no digit, and clamps it. -/
theorem Decimal.strtoll_append
    {text : CStr} {n : Int} (decimal : Decimal text n)
    {blanks : CStr} (blank : ∀ c ∈ blanks, isSpace c = true)
    {rest : CStr} (stops : ∀ c others, rest = c :: others → isDigit c = false) :
    strtoll (blanks ++ (text ++ rest)) = some (clamp n rest) := by
  have whole : ∀ digits : CStr, (∀ c ∈ digits, isDigit c = true) →
      (digits ++ rest).takeWhile isDigit = digits ∧ (digits ++ rest).dropWhile isDigit = rest := by
    intro digits all
    rw [List.takeWhile_append_of_pos all, List.dropWhile_append_of_pos all]
    cases rest with
    | nil => exact ⟨List.append_nil digits, rfl⟩
    | cons c others =>
        have other : ¬isDigit c = true := by simp [stops c others rfl]
        rw [List.takeWhile_cons_of_neg other, List.dropWhile_cons_of_neg other, List.append_nil]
        exact ⟨rfl, rfl⟩
  unfold strtoll
  rw [List.dropWhile_append_of_pos blank]
  cases decimal with
  | unsigned _ nonempty digits =>
      obtain ⟨taken, dropped⟩ := whole text digits
      obtain ⟨c, others, rfl⟩ := List.exists_cons_of_ne_nil nonempty
      have plain := digit_plain (digits c List.mem_cons_self)
      have unsigned : splitSign (List.dropWhile isSpace (c :: others ++ rest)) =
          (false, c :: others ++ rest) := by
        rw [List.cons_append, List.dropWhile_cons_of_neg (by simp [plain.1])]
        unfold splitSign
        split <;> simp_all
      simp only [unsigned, taken, dropped, if_neg nonempty]
      rfl
  | plus digits nonempty all =>
      obtain ⟨taken, dropped⟩ := whole digits all
      have signed : splitSign (List.dropWhile isSpace ('+' :: digits ++ rest)) =
          (false, digits ++ rest) := rfl
      simp only [signed, taken, dropped, if_neg nonempty]
      rfl
  | minus digits nonempty all =>
      obtain ⟨taken, dropped⟩ := whole digits all
      have signed : splitSign (List.dropWhile isSpace ('-' :: digits ++ rest)) =
          (true, digits ++ rest) := rfl
      simp only [signed, taken, dropped, if_neg nonempty]
      rfl

/-- `strtoll` reads it to its end and clamps it. -/
theorem Decimal.strtoll_eq
    {text : CStr} {n : Int} (decimal : Decimal text n) :
    strtoll text = some (clamp n []) := by
  simpa using @Decimal.strtoll_append text n decimal [] nofun [] nofun

theorem clamp_rest (n : Int) (rest : CStr) :
    (clamp n rest).rest = rest := by
  unfold clamp
  split
  · rfl
  · split <;> rfl

/-- What `strtoll` reads is white space and a decimal text. -/
theorem strtoll_split
    {text : CStr} {parsed : Parsed} (read : strtoll text = some parsed) :
    ∃ blanks number n, text = blanks ++ (number ++ parsed.rest) ∧
      (∀ c ∈ blanks, isSpace c = true) ∧ Decimal number n ∧ parsed = clamp n parsed.rest := by
  have split : text = text.takeWhile isSpace ++ text.dropWhile isSpace :=
    List.takeWhile_append_dropWhile.symm
  have blank : ∀ c ∈ text.takeWhile isSpace, isSpace c = true := fun c member =>
    List.mem_takeWhile_imp member
  unfold strtoll at read
  generalize text.takeWhile isSpace = blanks at split blank
  generalize text.dropWhile isSpace = body at read split
  dsimp only at read
  split at read
  · cases read
  next nonempty =>
  have digits : ∀ c ∈ (splitSign body).2.takeWhile isDigit, isDigit c = true := fun c member =>
    List.mem_takeWhile_imp member
  have pieces : (splitSign body).2 =
      (splitSign body).2.takeWhile isDigit ++ (splitSign body).2.dropWhile isDigit :=
    List.takeWhile_append_dropWhile.symm
  generalize (splitSign body).2.takeWhile isDigit = number at read nonempty digits pieces
  injection read with same
  have rest : parsed.rest = (splitSign body).2.dropWhile isDigit := by rw [← same, clamp_rest]
  rw [← rest] at same pieces
  subst split
  revert same pieces
  unfold splitSign
  split
  · next body =>
      intro pieces same
      have shape : body = number ++ parsed.rest := pieces
      exact ⟨blanks, '-' :: number, _, by rw [shape]; rfl, blank, .minus number nonempty digits,
        same.symm⟩
  · next body =>
      intro pieces same
      have shape : body = number ++ parsed.rest := pieces
      exact ⟨blanks, '+' :: number, _, by rw [shape]; rfl, blank, .plus number nonempty digits,
        same.symm⟩
  · intro pieces same
    have shape : body = number ++ parsed.rest := pieces
    exact ⟨blanks, number, _, by rw [shape], blank, .unsigned number nonempty digits, same.symm⟩

/-- `strtol` without a look at `errno`. -/
theorem Decimal.wholeInt_eq
    {text : CStr} {n : Int} (decimal : Decimal text n) :
    wholeInt text = some (clamp n []).value := by
  unfold wholeInt
  rw [decimal.strtoll_eq]
  exact if_pos (clamp_rest n [])

/-- `cli_parse_int` refuses what does not fit 64 bits. -/
def strictInt (n : Int) : Option Int :=
  if int64Min ≤ n ∧ n ≤ int64Max then some n else none

theorem Decimal.cliParseInt_eq
    {text : CStr} {n : Int} (decimal : Decimal text n) :
    cliParseInt text = strictInt n := by
  unfold cliParseInt strictInt
  rw [decimal.strtoll_eq]
  unfold clamp
  by_cases low : n < int64Min
  · rw [if_pos low, if_neg (c := int64Min ≤ n ∧ _) (by omega)]
    rfl
  · by_cases high : int64Max < n
    · rw [if_neg low, if_pos high, if_neg (c := int64Min ≤ n ∧ _) (by omega)]
      rfl
    · rw [if_neg low, if_neg high, if_pos (c := int64Min ≤ n ∧ _) (by omega)]
      rfl

/-- A check behind `strtol` sees the clamped integer. -/
theorem Decimal.wholeInt_filter
    {text : CStr} {n value : Int} {keep : Int → Bool} (decimal : Decimal text n)
    (taken : (some (clamp n []).value).filter keep = some value) :
    (wholeInt text).filter keep = some value := by
  rwa [decimal.wholeInt_eq]

/-- A check behind `cli_parse_int` sees the integer when it fits. -/
theorem Decimal.cliParseInt_filter
    {text : CStr} {n value : Int} {keep : Int → Bool} (decimal : Decimal text n)
    (taken : (strictInt n).filter keep = some value) :
    (cliParseInt text).filter keep = some value := by
  rwa [decimal.cliParseInt_eq]

/-! ## Where numbers stand -/

inductive NumberSite where
  /-- `net set ring`. -/
  | ringSize
  /-- `usb set autosuspend`. -/
  | autosuspendMs
  /-- `thermal set cooling`. -/
  | coolingIndex
  | coolingState
  /-- `thermal hwmon fan`. -/
  | hwmonIndex
  | fanIndex
  /-- `power set charge-start` and `power set charge-end`. -/
  | batteryIndex
  /-- `cpu set cstate`. -/
  | cstateIndex
  /-- The keys of a profile. -/
  | swappiness
  | overcommit
  | vfsCachePressure
  | readAheadKb
  | freqHz
  deriving Repr, DecidableEq

namespace NumberSite

/-- The 64-bit value the handler makes of an integer, or `none` when it refuses or skips it. -/
def accepted (site : NumberSite) (n : Int) : Option Int :=
  match site with
  -- `strtol`, with `errno` not looked at
  | ringSize | cstateIndex => (some (clamp n []).value).filter (0 ≤ ·)
  | autosuspendMs | coolingState | swappiness | overcommit | vfsCachePressure | readAheadKb =>
      strictInt n
  | coolingIndex | hwmonIndex | batteryIndex | freqHz => (strictInt n).filter (0 ≤ ·)
  | fanIndex => (strictInt n).filter (1 ≤ ·)

/-- The number the setter goes by.  The frequency files hold kilohertz. -/
def applied (site : NumberSite) (value : Int) : Int :=
  match site with
  | readAheadKb => value
  | freqHz => value.tdiv 1000 * 1000
  | _ => toInt32 value

/-- What the setter's own check refuses. -/
def refuses (site : NumberSite) (value : Int) : Bool :=
  match site with
  | ringSize | coolingIndex | hwmonIndex | batteryIndex | cstateIndex | vfsCachePressure
  | readAheadKb => value < 0
  | fanIndex => value < 1
  | swappiness => value < 0 || 200 < value
  | overcommit => value < 0 || 2 < value
  | autosuspendMs | coolingState | freqHz => false

/-- The number at this place that a setter call goes by. -/
def number : NumberSite → Update → Option Int
  | ringSize, .netSetRingRx _ size => some size
  | ringSize, .netSetRingTx _ size => some size
  | autosuspendMs, .usbSetAutosuspendDelay _ ms => some ms
  | coolingIndex, .thermalSetCoolingState _ index _ => some index
  | coolingState, .thermalSetCoolingState _ _ state => some state
  | hwmonIndex, .thermalHwmonSetFanPwm hwmon _ _ => some hwmon
  | fanIndex, .thermalHwmonSetFanPwm _ fan _ => some fan
  | batteryIndex, .powerBatterySetChargeStart index _ => some index
  | batteryIndex, .powerBatterySetChargeEnd index _ => some index
  | cstateIndex, .cpuSetCstateDisable _ state _ => some state
  | swappiness, .memSetSwappiness value => some value
  | overcommit, .memSetOvercommit value => some value
  | vfsCachePressure, .memSetVfsCachePressure value => some value
  | readAheadKb, .storageSetReadAhead _ kb => some kb
  | freqHz, .cpuSetFreqMin _ hz => some (hz.tdiv 1000 * 1000)
  | freqHz, .cpuSetFreqMax _ hz => some (hz.tdiv 1000 * 1000)
  | _, _ => none

/-- The commands in which a text stands at this place. -/
inductive Command (text : CStr) : NumberSite → CliM σ τ Int → Prop
  | ringSize (args : List CStr) (json dryRun isTx : Bool)
      (choice : ringChoice args = .ok (isTx, text)) :
      Command text .ringSize (netSetRing args json dryRun)
  | autosuspendMs (sub dev : CStr) (rest : List CStr) (json dryRun : Bool) :
      Command text .autosuspendMs (usbSetAutosuspend (sub :: dev :: text :: rest) json dryRun)
  | coolingIndex (state : CStr) (rest : List CStr) (json dryRun : Bool) :
      Command text .coolingIndex (thermalSet ("cooling" :: text :: state :: rest) json dryRun)
  | coolingState (index : CStr) (rest : List CStr) (json dryRun : Bool) :
      Command text .coolingState (thermalSet ("cooling" :: index :: text :: rest) json dryRun)
  | hwmonIndex (fan : CStr) (rest : List CStr) (json dryRun : Bool) :
      Command text .hwmonIndex (thermalHwmonFan (text :: fan :: rest) json dryRun)
  | fanIndex (hwmon : CStr) (rest : List CStr) (json dryRun : Bool) :
      Command text .fanIndex (thermalHwmonFan (hwmon :: text :: rest) json dryRun)
  | batteryIndex (sub percent : CStr) (rest : List CStr) (json dryRun isStart : Bool) :
      Command text .batteryIndex
        (powerSetCharge (sub :: text :: percent :: rest) json dryRun isStart)
  | cstateIndex (args : List CStr) (json dryRun : Bool)
      (position : positionalArg args 0 = some text) :
      Command text .cstateIndex (cpuSetCstate args json dryRun)
  | swappiness (isString json dryRun : Bool) :
      Command text .swappiness (applyKv json dryRun ⟨"memory", "swappiness", text, isString⟩)
  | overcommit (isString json dryRun : Bool) :
      Command text .overcommit (applyKv json dryRun ⟨"memory", "overcommit", text, isString⟩)
  | vfsCachePressure (isString json dryRun : Bool) :
      Command text .vfsCachePressure
        (applyKv json dryRun ⟨"memory", "vfs_cache_pressure", text, isString⟩)
  | readAheadKb (dev : CStr) (isString json dryRun : Bool) :
      Command text .readAheadKb
        (applyKv json dryRun ⟨"storage.".toList ++ dev, "read_ahead_kb", text, isString⟩)
  | freqMinHz (isString json dryRun : Bool) :
      Command text .freqHz (applyKv json dryRun ⟨"cpu", "freq_min_hz", text, isString⟩)
  | freqMaxHz (isString json dryRun : Bool) :
      Command text .freqHz (applyKv json dryRun ⟨"cpu", "freq_max_hz", text, isString⟩)

end NumberSite

/-! ## Steps -/

/-- Every step the program takes is allowed. -/
def CliM.Takes (program : CliM σ τ α) (ctx : Ctx σ τ) (allowed : Step → Prop) : Prop :=
  ∀ process, ∀ step ∈ (program ctx process).2.steps, step ∈ process.steps ∨ allowed step

section Rules

variable {ctx : Ctx σ τ} {allowed : Step → Prop}

theorem CliM.Takes.pure (value : α) :
    (Pure.pure value : CliM σ τ α).Takes ctx allowed :=
  fun _ _ member => .inl member

theorem CliM.Takes.reading (program : ReadM σ τ α) :
    (Zenctl.reading program).Takes ctx allowed :=
  fun _ _ member => .inl member

theorem CliM.Takes.bind
    {program : CliM σ τ α} {next : α → CliM σ τ β}
    (first : program.Takes ctx allowed)
    (second : ∀ value, (next value).Takes ctx allowed) :
    (program >>= next).Takes ctx allowed := by
  intro process step member
  rcases second _ _ step member with early | fresh
  · exact first process step early
  · exact .inr fresh

theorem CliM.Takes.update
    {call : Update} (permitted : allowed (.update call)) :
    (Zenctl.update call : CliM σ τ _).Takes ctx allowed := by
  intro process step member
  rcases List.mem_append.mp member with early | fresh
  · exact .inl early
  · cases List.mem_singleton.mp fresh
    exact .inr permitted

theorem collectCli_takes
    {program : α → CliM σ τ β} (each : ∀ item, (program item).Takes ctx allowed)
    (items : List α) :
    (collectCli program items).Takes ctx allowed := by
  induction items with
  | nil => exact .pure _
  | cons item rest inductionHypothesis =>
      exact .bind (each item) fun _ => .bind inductionHypothesis fun _ => .pure _

theorem setOr_takes
    {json : Bool} {call : Update} {fallback document : CStr} {lines : ReadM σ τ Unit}
    (permitted : allowed (.update call)) :
    (setOr json call fallback document lines).Takes ctx allowed := by
  refine .bind (.update permitted) fun answer => ?_
  cases answer with
  | error err => exact .reading _
  | ok _ => exact .reading _

theorem setOrErr_takes
    {json : Bool} {call : Update} {document : CStr} {lines : ReadM σ τ Unit}
    (permitted : allowed (.update call)) :
    (setOrErr json call document lines).Takes ctx allowed := by
  refine .bind (.update permitted) fun answer => ?_
  cases answer with
  | error err => exact .reading _
  | ok _ => exact .reading _

theorem openOrErr_takes
    {json : Bool} {call : Query β} {next : β → CliM σ τ Int}
    (goesOn : ∀ handle, (next handle).Takes ctx allowed) :
    (openOrErr json call next).Takes ctx allowed := by
  refine .bind (.reading _) fun answer => ?_
  cases answer with
  | error err => exact .reading _
  | ok handle => exact goesOn handle

theorem asRoot_takes
    {json : Bool} {next : CliM σ τ Int} (goesOn : next.Takes ctx allowed) :
    (asRoot json next).Takes ctx allowed := by
  refine .bind (.reading _) fun refused => ?_
  cases refused with
  | true => exact .pure _
  | false => exact goesOn

theorem applyOne_takes
    {json dryRun : Bool} {wouldDo : CStr} {call : Update}
    (permitted : allowed (.update call)) :
    (applyOne json dryRun wouldDo call : CliM σ τ Int).Takes ctx allowed := by
  unfold applyOne
  split
  · exact .reading _
  · refine .bind (.update permitted) fun answer => ?_
    cases answer with
    | error err => exact .pure _
    | ok _ => exact .pure _

theorem applyAllCpus_takes
    {call : CpuHandle → Update} (permitted : ∀ cpu, allowed (.update (call cpu))) :
    (applyAllCpus call : CliM σ τ Int).Takes ctx allowed := by
  refine .bind (.reading _) fun env => ?_
  refine .bind (collectCli_takes (fun index => ?_) _) fun _ => .pure _
  refine .bind (.reading _) fun answer => ?_
  cases answer with
  | error err => exact .pure _
  | ok cpu =>
      refine .bind (.update (permitted cpu)) fun answer => ?_
      cases answer with
      | error err => exact .pure _
      | ok _ => exact .pure _

end Rules

/-! ## What is handed on -/

section Loading

variable {kv : TomlKv} {json dryRun : Bool}

theorem applyKv_memory
    (memory : kv.sectionPath = "memory") :
    (applyKv json dryRun kv : CliM σ τ Int) = loadMemoryKv kv json dryRun := by
  have cpu : ("memory" : CStr) ≠ "cpu" := by decide
  unfold applyKv
  rw [memory, if_neg nofun, if_neg cpu, if_pos rfl]

theorem applyKv_cpu
    (cpu : kv.sectionPath = "cpu") :
    (applyKv json dryRun kv : CliM σ τ Int) = loadCpuKv kv json dryRun := by
  unfold applyKv
  rw [cpu, if_neg nofun, if_pos rfl]

theorem loadMemoryKv_swappiness
    (key : kv.key = "swappiness") :
    (loadMemoryKv kv json dryRun : CliM σ τ Int) =
      applyMemoryInt kv json dryRun .memSetSwappiness :=
  if_pos key

theorem loadMemoryKv_overcommit
    (key : kv.key = "overcommit") :
    (loadMemoryKv kv json dryRun : CliM σ τ Int) =
      applyMemoryInt kv json dryRun .memSetOvercommit := by
  unfold loadMemoryKv
  rw [key, if_neg (by decide), if_pos rfl]

theorem loadMemoryKv_vfsCachePressure
    (key : kv.key = "vfs_cache_pressure") :
    (loadMemoryKv kv json dryRun : CliM σ τ Int) =
      applyMemoryInt kv json dryRun .memSetVfsCachePressure := by
  unfold loadMemoryKv
  rw [key, if_neg (by decide), if_neg (by decide), if_pos rfl]

theorem loadCpuKv_freqMin
    {hz : Int} (key : kv.key = "freq_min_hz") (bare : kv.isString = false)
    (parsed : (cliParseInt kv.value).filter (0 ≤ ·) = some hz) :
    (loadCpuKv kv json false : CliM σ τ Int) = applyAllCpus fun cpu => .cpuSetFreqMin cpu hz := by
  have other : kv.key ≠ "governor" := by
    rw [key]
    decide
  unfold loadCpuKv
  rw [if_neg other, if_pos (.inl key), bare, parsed]
  simp only [if_pos key]
  rfl

end Loading

namespace NumberSite

/-- The setter call hands on what the handler made of the integer. -/
def HandsOn (site : NumberSite) (n : Int) (step : Step) : Prop :=
  ∃ call value, step = .update call ∧ site.accepted n = some value ∧
    site.number call = some (site.applied value)

variable {text : CStr} {n : Int} (decimal : Decimal text n) {ctx : Ctx σ τ}

include decimal

theorem netSetRing_handsOn
    {args : List CStr} {isTx : Bool} (choice : ringChoice args = .ok (isTx, text))
    (json dryRun : Bool) :
    (netSetRing args json dryRun).Takes ctx (ringSize.HandsOn n) := by
  unfold netSetRing
  cases deviceArg "--iface" args with
  | none => exact .reading _
  | some iface =>
      dsimp only
      rw [choice]
      dsimp only
      rw [decimal.wholeInt_eq]
      cases read : (some (clamp n []).value).filter (0 ≤ ·) with
      | none => exact .reading _
      | some value =>
          dsimp only
          unfold writeNet writeDevice
          split
          · exact .reading _
          · refine .bind (.reading _) fun answer => ?_
            cases answer with
            | error err => exact .reading _
            | ok net =>
                refine setOr_takes ⟨_, value, rfl, read, ?_⟩
                cases isTx <;> rfl

theorem usbSetAutosuspend_handsOn
    (sub dev : CStr) (rest : List CStr) (json dryRun : Bool) :
    (usbSetAutosuspend (sub :: dev :: text :: rest) json dryRun).Takes ctx
      (autosuspendMs.HandsOn n) := by
  unfold usbSetAutosuspend
  dsimp only
  rw [decimal.cliParseInt_eq]
  cases read : strictInt n with
  | none => exact .reading _
  | some value =>
      refine asRoot_takes ?_
      unfold usbWrite
      split
      · exact .reading _
      · exact openOrErr_takes fun u => setOrErr_takes ⟨_, value, rfl, read, rfl⟩

omit decimal in
/-- The one setter of `thermal set cooling`. -/
theorem thermalSet_cooling_takes
    {index state : CStr} {allowed : Step → Prop}
    (permitted : ∀ tz i s, (cliParseInt index).filter (0 ≤ ·) = some i → cliParseInt state = some s →
      allowed (.update (.thermalSetCoolingState tz (toInt32 i) (toInt32 s))))
    (rest : List CStr) (json dryRun : Bool) :
    (thermalSet ("cooling" :: index :: state :: rest) json dryRun).Takes ctx allowed := by
  unfold thermalSet
  dsimp only
  cases cliOpt "--zone" ("cooling" :: index :: state :: rest) with
  | none => exact .reading _
  | some zone =>
      refine asRoot_takes (openOrErr_takes fun tz => ?_)
      rw [if_neg (by decide), if_neg (by decide), if_pos rfl]
      unfold thermalSetCooling parseCooling
      cases readIndex : (cliParseInt index).filter (0 ≤ ·) with
      | none => exact .reading _
      | some i =>
          cases readState : cliParseInt state with
          | none => exact .reading _
          | some s =>
              dsimp only [Option.bind_eq_bind, Option.bind_some, pure]
              split
              · exact .reading _
              · exact setOrErr_takes (permitted tz i s readIndex readState)

omit decimal in
/-- The one setter of `thermal hwmon fan`. -/
theorem thermalHwmonFan_takes
    {hwmon fan : CStr} {allowed : Step → Prop}
    (permitted : ∀ pwm h f, (cliParseInt hwmon).filter (0 ≤ ·) = some h →
      (cliParseInt fan).filter (1 ≤ ·) = some f →
      allowed (.update (.thermalHwmonSetFanPwm (toInt32 h) (toInt32 f) pwm)))
    (rest : List CStr) (json dryRun : Bool) :
    (thermalHwmonFan (hwmon :: fan :: rest) json dryRun).Takes ctx allowed := by
  unfold thermalHwmonFan parseHwmonFan
  dsimp only
  cases readHwmon : (cliParseInt hwmon).filter (0 ≤ ·) with
  | none => exact .reading _
  | some h =>
      cases readFan : (cliParseInt fan).filter (1 ≤ ·) with
      | none => exact .reading _
      | some f =>
          dsimp only [Option.bind_eq_bind, Option.bind_some, pure]
          cases rest with
          | nil => exact .reading _
          | cons value rest =>
              refine asRoot_takes ?_
              unfold hwmonSetFan
              cases parsePwm value with
              | none => exact .reading _
              | some pwm =>
                  dsimp only
                  split
                  · exact .reading _
                  · exact setOrErr_takes (permitted pwm h f readHwmon readFan)

theorem powerSetCharge_handsOn
    (sub percent : CStr) (rest : List CStr) (json dryRun isStart : Bool) :
    (powerSetCharge (sub :: text :: percent :: rest) json dryRun isStart).Takes ctx
      (batteryIndex.HandsOn n) := by
  unfold powerSetCharge parseCharge
  dsimp only
  rw [decimal.cliParseInt_eq]
  cases read : (strictInt n).filter (0 ≤ ·) with
  | none => exact .reading _
  | some value =>
      cases (cliParseInt percent).filter fun p => 0 ≤ p && p ≤ 100 with
      | none => exact .reading _
      | some percent =>
          refine asRoot_takes ?_
          split
          · exact .reading _
          · refine setOrErr_takes ⟨_, value, rfl, read, ?_⟩
            cases isStart <;> rfl

theorem cpuSetCstate_handsOn
    {args : List CStr} (position : positionalArg args 0 = some text) (json dryRun : Bool) :
    (cpuSetCstate args json dryRun).Takes ctx (cstateIndex.HandsOn n) := by
  unfold cpuSetCstate
  rw [position]
  cases positionalArg args 1 with
  | none => exact .reading _
  | some word =>
      dsimp only
      rw [decimal.wholeInt_eq]
      cases read : (some (clamp n []).value).filter (0 ≤ ·) with
      | none => exact .reading _
      | some value =>
          dsimp only
          split
          · exact .reading _
          · split
            · exact .reading _
            · split
              · exact .reading _
              · refine .bind (.reading _) fun answer => ?_
                cases answer with
                | error err => exact .reading _
                | ok cpu => exact setOr_takes ⟨_, value, rfl, read, rfl⟩

omit decimal in
theorem applyMemoryInt_takes
    {kv : TomlKv} {call : Int → Update} {allowed : Step → Prop}
    (permitted : ∀ v, cliParseInt kv.value = some v → allowed (.update (call (toInt32 v))))
    (json dryRun : Bool) :
    (applyMemoryInt kv json dryRun call : CliM σ τ Int).Takes ctx allowed := by
  unfold applyMemoryInt
  split
  · exact .pure _
  · cases read : cliParseInt kv.value with
    | none => exact .pure _
    | some v => exact applyOne_takes (permitted v read)

theorem loadMemoryKv_handsOn
    {key : CStr} {call : Int → Update} {site : NumberSite}
    (loads : ∀ {kv : TomlKv} {json dryRun}, kv.key = key →
      (loadMemoryKv kv json dryRun : CliM σ τ Int) = applyMemoryInt kv json dryRun call)
    (accepts : site.accepted n = strictInt n)
    (calls : ∀ value, site.number (call (toInt32 value)) = some (site.applied value))
    (isString json dryRun : Bool) :
    (applyKv json dryRun ⟨"memory", key, text, isString⟩ : CliM σ τ Int).Takes ctx
      (site.HandsOn n) := by
  rw [applyKv_memory rfl, loads rfl]
  refine applyMemoryInt_takes (fun v read => ⟨_, v, rfl, ?_, calls v⟩) json dryRun
  rw [accepts, ← decimal.cliParseInt_eq]
  exact read

omit decimal in
theorem loadStorageKv_takes
    {kv : TomlKv} {allowed : Step → Prop} (key : kv.key = "read_ahead_kb")
    (permitted : ∀ st v, cliParseInt kv.value = some v → allowed (.update (.storageSetReadAhead st v)))
    (dev : CStr) (json dryRun : Bool) :
    (loadStorageKv dev kv json dryRun : CliM σ τ Int).Takes ctx allowed := by
  have other : kv.key ≠ "scheduler" := by
    rw [key]
    decide
  refine .bind (.reading _) fun answer => ?_
  cases answer with
  | error err => exact .pure _
  | ok st =>
      dsimp only
      rw [if_neg other, if_pos key]
      split
      · exact .pure _
      · cases read : cliParseInt kv.value with
        | none => exact .pure _
        | some v => exact applyOne_takes (permitted st v read)

theorem loadStorageKv_handsOn
    (dev : CStr) (isString json dryRun : Bool) :
    (applyKv json dryRun ⟨"storage.".toList ++ dev, "read_ahead_kb", text, isString⟩ :
      CliM σ τ Int).Takes ctx (readAheadKb.HandsOn n) := by
  have other : ∀ c rest, c ≠ 's' → "storage.".toList ++ dev ≠ c :: rest := by
    intro c rest differs same
    exact differs (List.cons.inj same).1.symm
  have cpu : "storage.".toList ++ dev ≠ "cpu" := other 'c' "pu".toList (by decide)
  have memory : "storage.".toList ++ dev ≠ "memory" := other 'm' "emory".toList (by decide)
  unfold applyKv
  rw [if_neg nofun, if_neg cpu, if_neg memory, if_pos (startsWith_append _ _)]
  refine loadStorageKv_takes rfl (fun st v read => ⟨_, v, rfl, ?_, rfl⟩) _ json dryRun
  rwa [decimal.cliParseInt_eq] at read

theorem loadCpuKv_handsOn
    {key : CStr} (frequency : key = "freq_min_hz" ∨ key = "freq_max_hz")
    (isString json dryRun : Bool) :
    (applyKv json dryRun ⟨"cpu", key, text, isString⟩ : CliM σ τ Int).Takes ctx
      (freqHz.HandsOn n) := by
  have other : key ≠ "governor" := by
    rcases frequency with rfl | rfl <;> decide
  rw [applyKv_cpu rfl]
  unfold loadCpuKv
  dsimp only
  rw [if_neg other, if_pos frequency, decimal.cliParseInt_eq]
  split
  · exact .pure _
  · cases read : (strictInt n).filter (0 ≤ ·) with
    | none => exact .pure _
    | some value =>
        dsimp only
        split
        · exact .reading _
        · refine applyAllCpus_takes fun cpu => ⟨_, value, rfl, read, ?_⟩
          split <;> rfl

/-- In every command, every setter call hands on the handler's number. -/
theorem Command.handsOn
    {site : NumberSite} {program : CliM σ τ Int} (command : site.Command text program) :
    program.Takes ctx (site.HandsOn n) := by
  cases command with
  | ringSize args json dryRun isTx choice => exact netSetRing_handsOn decimal choice json dryRun
  | autosuspendMs sub dev rest json dryRun =>
      exact usbSetAutosuspend_handsOn decimal sub dev rest json dryRun
  | coolingIndex state rest json dryRun =>
      refine thermalSet_cooling_takes (fun tz i s index state => ⟨_, i, rfl, ?_, rfl⟩) rest json dryRun
      rwa [decimal.cliParseInt_eq] at index
  | coolingState index rest json dryRun =>
      refine thermalSet_cooling_takes (fun tz i s index state => ⟨_, s, rfl, ?_, rfl⟩) rest json dryRun
      rwa [decimal.cliParseInt_eq] at state
  | hwmonIndex fan rest json dryRun =>
      refine thermalHwmonFan_takes (fun pwm h f hwmon fan => ⟨_, h, rfl, ?_, rfl⟩) rest json dryRun
      rwa [decimal.cliParseInt_eq] at hwmon
  | fanIndex hwmon rest json dryRun =>
      refine thermalHwmonFan_takes (fun pwm h f hwmon fan => ⟨_, f, rfl, ?_, rfl⟩) rest json dryRun
      rwa [decimal.cliParseInt_eq] at fan
  | batteryIndex sub percent rest json dryRun isStart =>
      exact powerSetCharge_handsOn decimal sub percent rest json dryRun isStart
  | cstateIndex args json dryRun position => exact cpuSetCstate_handsOn decimal position json dryRun
  | swappiness isString json dryRun =>
      exact loadMemoryKv_handsOn decimal loadMemoryKv_swappiness rfl (fun _ => rfl) isString json
        dryRun
  | overcommit isString json dryRun =>
      exact loadMemoryKv_handsOn decimal loadMemoryKv_overcommit rfl (fun _ => rfl) isString json
        dryRun
  | vfsCachePressure isString json dryRun =>
      exact loadMemoryKv_handsOn decimal loadMemoryKv_vfsCachePressure rfl (fun _ => rfl) isString
        json dryRun
  | readAheadKb dev isString json dryRun =>
      exact loadStorageKv_handsOn decimal dev isString json dryRun
  | freqMinHz isString json dryRun =>
      exact loadCpuKv_handsOn decimal (.inl rfl) isString json dryRun
  | freqMaxHz isString json dryRun =>
      exact loadCpuKv_handsOn decimal (.inr rfl) isString json dryRun

end NumberSite

/-! ## What reaches the kernel -/

/-- The program leaves the system as it was, or in one of these states. -/
def SetM.Leads (program : SetM σ α) (os : Os σ) (sys : σ) (reached : σ → Prop) : Prop :=
  ∀ proc, (program os sys proc).2.1 = sys ∨ reached (program os sys proc).2.1

section Leading

variable {os : Os σ} {sys : σ} {reached : σ → Prop}

theorem SetM.Leads.getting (program : GetM σ α) :
    (Zenctl.getting program).Leads os sys reached :=
  fun _ => .inl rfl

/-- A reading program goes first. -/
theorem SetM.Leads.after
    {program : GetM σ α} {next : α → SetM σ β}
    (goesOn : ∀ proc later value, program os sys proc = (.value value, later) →
      (next value).Leads os sys reached) :
    (Zenctl.getting program >>= next).Leads os sys reached := by
  intro proc
  rcases run : program os sys proc with ⟨outcome | _ | _, later⟩
  · rw [SetM.bind_getting_value run]
    exact goesOn proc later _ run later
  · refine .inl ?_
    rw [SetM.bind_run, getting_run, run]
  · refine .inl ?_
    rw [SetM.bind_run, getting_run, run]

theorem SetM.Leads.ite
    {condition : Prop} [Decidable condition] {first second : SetM σ α}
    (yes : condition → first.Leads os sys reached)
    (no : ¬condition → second.Leads os sys reached) :
    (if condition then first else second).Leads os sys reached := by
  by_cases holds : condition
  · rw [if_pos holds]
    exact yes holds
  · rw [if_neg holds]
    exact no holds

/-- A check that refuses comes first. -/
theorem SetM.Leads.unless
    {condition : Prop} [Decidable condition] {program : GetM σ α} {next : SetM σ α}
    (goesOn : ¬condition → next.Leads os sys reached) :
    (if condition then Zenctl.getting program else next).Leads os sys reached :=
  .ite (fun _ => .getting _) goesOn

theorem writeFileString_leads
    {path text : CStr}
    (written : reached (os.writeFile sys (resolvePath os.sysfsRoot path) text).2) :
    (writeFileString path text).Leads os sys reached := by
  intro proc
  refine .inr ?_
  have after : (writeFileString path text os sys proc).2.1 =
      (os.writeFile sys (resolvePath os.sysfsRoot path) text).2 := by
    unfold writeFileString
    rw [SetM.bind_run]
    unfold writeResolved
    dsimp only
    cases (os.writeFile sys (resolvePath os.sysfsRoot path) text).1 <;> rfl
  rwa [after]

theorem netEthtoolSet_leads
    {net : NetHandle} {call : Os σ → σ → Except Errno Unit × σ}
    (written : reached (call os sys).2) :
    (netEthtoolSet net call).Leads os sys reached := by
  refine .ite (fun _ proc => .inr ?_) fun _ => .getting _
  rw [SetM.bind_run]
  unfold sysSet
  rcases answer : call os sys with ⟨_ | _, changed⟩
  · rw [answer] at written
    exact written
  · rw [answer] at written
    exact written

end Leading

namespace NumberSite

/-- The kernel write of a setter call, with this number at this place. -/
def Wrote (site : NumberSite) (n : Int) (call : Update) (os : Os σ) (sys after : σ) : Prop :=
  let wrote (path text : CStr) : Prop :=
    after = (os.writeFile sys (resolvePath os.sysfsRoot path) text).2
  match site, call with
  | ringSize, .netSetRingRx net _ =>
      ∃ (rp : RingParams) (size : Nat), (size : Int) = n ∧
        after = (os.setRing sys net.iface { rp with rxPending := size }).2
  | ringSize, .netSetRingTx net _ =>
      ∃ (rp : RingParams) (size : Nat), (size : Int) = n ∧
        after = (os.setRing sys net.iface { rp with txPending := size }).2
  | autosuspendMs, .usbSetAutosuspendDelay _ _ => ∃ path, wrote path (showInt n)
  | coolingIndex, .thermalSetCoolingState tz _ state =>
      ∃ proc later number, zoneCdevIndex tz n os sys proc = (.value number, later) ∧
        wrote (coolingPath number "cur_state") (showInt state)
  | coolingState, .thermalSetCoolingState _ _ _ =>
      ∃ number, wrote (coolingPath number "cur_state") (showInt n)
  | hwmonIndex, .thermalHwmonSetFanPwm _ fan pwm => wrote (fanPath n fan []) (showInt pwm)
  | fanIndex, .thermalHwmonSetFanPwm hwmon _ pwm => wrote (fanPath hwmon n []) (showInt pwm)
  | batteryIndex, .powerBatterySetChargeStart _ percent =>
      ∃ proc later name, nthBatteryName n os sys proc = (.value name, later) ∧
        wrote (supplyPath name "charge_control_start_threshold") (showInt percent)
  | batteryIndex, .powerBatterySetChargeEnd _ percent =>
      ∃ proc later name, nthBatteryName n os sys proc = (.value name, later) ∧
        wrote (supplyPath name "charge_control_end_threshold") (showInt percent)
  | cstateIndex, .cpuSetCstateDisable cpu _ disable =>
      wrote (cstatePath cpu n) (if disable then "1" else "0")
  | swappiness, .memSetSwappiness _ => wrote "/proc/sys/vm/swappiness" (showInt n)
  | overcommit, .memSetOvercommit _ => wrote "/proc/sys/vm/overcommit_memory" (showInt n)
  | vfsCachePressure, .memSetVfsCachePressure _ =>
      wrote "/proc/sys/vm/vfs_cache_pressure" (showInt n)
  | readAheadKb, .storageSetReadAhead st _ =>
      wrote (storagePath st "/queue/read_ahead_kb") (showInt n)
  | freqHz, .cpuSetFreqMin cpu _ =>
      ∃ khz, khz * 1000 = n ∧ wrote (cpuPath cpu "cpufreq/scaling_min_freq") (showInt khz)
  | freqHz, .cpuSetFreqMax cpu _ =>
      ∃ khz, khz * 1000 = n ∧ wrote (cpuPath cpu "cpufreq/scaling_max_freq") (showInt khz)
  | _, _ => False

/-- The call changes nothing, or it goes by the number and its kernel write has it. -/
def Applies (site : NumberSite) (n : Int) (call : Update) : Prop :=
  ∀ (σ : Type) (os : Os σ) (sys : σ),
    call.program.Leads os sys fun after => site.number call = some n ∧ site.Wrote n call os sys after

theorem checkHardwareRange_value
    {cpu : CpuHandle} {hz khz : Int} {caller : CStr} {os : Os σ} {sys : σ} {proc later : Proc}
    (run : checkHardwareRange cpu hz caller os sys proc = (.value khz, later)) :
    khz = hz.tdiv 1000 := by
  unfold checkHardwareRange at run
  split at run
  · cases run
  · obtain ⟨_, _, _, run⟩ := GetM.value_of_bind run
    obtain ⟨_, _, _, run⟩ := GetM.value_of_bind run
    split at run
    · cases run
    · split at run
      · cases run
      · cases run
        rfl

/-- The setters write the number they go by. -/
theorem applies_of_number
    {site : NumberSite} {call : Update} {n : Int} (goesBy : site.number call = some n) :
    site.Applies n call := by
  intro σ os sys
  have all := goesBy
  unfold number at goesBy
  split at goesBy
  case h_1 net size =>
      cases goesBy
      refine .unless fun positive => .after fun proc later rp run => netEthtoolSet_leads ⟨all, rp, ?_⟩
      exact ⟨n.toNat, Int.toNat_of_nonneg (Int.not_lt.mp positive), rfl⟩
  case h_2 net size =>
      cases goesBy
      refine .unless fun positive => .after fun proc later rp run => netEthtoolSet_leads ⟨all, rp, ?_⟩
      exact ⟨n.toNat, Int.toNat_of_nonneg (Int.not_lt.mp positive), rfl⟩
  case h_3 u ms =>
      cases goesBy
      exact .after fun proc later path run => writeFileString_leads ⟨all, path, rfl⟩
  case h_4 tz index state =>
      cases goesBy
      refine .unless fun positive => .after fun proc later number run => .after fun _ _ max _ => ?_
      cases max with
      | none => exact writeFileString_leads ⟨all, proc, later, number, run, rfl⟩
      | some max =>
          exact .unless fun _ => writeFileString_leads ⟨all, proc, later, number, run, rfl⟩
  case h_5 tz index state =>
      cases goesBy
      refine .unless fun positive => .after fun proc later number run => .after fun _ _ max _ => ?_
      cases max with
      | none => exact writeFileString_leads ⟨all, number, rfl⟩
      | some max => exact .unless fun _ => writeFileString_leads ⟨all, number, rfl⟩
  case h_6 hwmon fan pwm =>
      cases goesBy
      exact .unless fun _ => .unless fun _ => writeFileString_leads ⟨all, rfl⟩
  case h_7 hwmon fan pwm =>
      cases goesBy
      exact .unless fun _ => .unless fun _ => writeFileString_leads ⟨all, rfl⟩
  case h_8 index percent =>
      cases goesBy
      exact .unless fun _ => .after fun proc later name run =>
        writeFileString_leads ⟨all, proc, later, name, run, rfl⟩
  case h_9 index percent =>
      cases goesBy
      exact .unless fun _ => .after fun proc later name run =>
        writeFileString_leads ⟨all, proc, later, name, run, rfl⟩
  case h_10 cpu state disable =>
      cases goesBy
      exact .unless fun _ => writeFileString_leads ⟨all, rfl⟩
  case h_11 value =>
      cases goesBy
      exact .unless fun _ => writeFileString_leads ⟨all, rfl⟩
  case h_12 value =>
      cases goesBy
      exact .unless fun _ => writeFileString_leads ⟨all, rfl⟩
  case h_13 value =>
      cases goesBy
      exact .unless fun _ => writeFileString_leads ⟨all, rfl⟩
  case h_14 st kb =>
      cases goesBy
      exact .unless fun _ => writeFileString_leads ⟨all, rfl⟩
  case h_15 cpu hz =>
      cases goesBy
      refine .after fun proc later khz run => .after fun _ _ _ _ => .unless fun _ => ?_
      exact writeFileString_leads ⟨all, khz, by rw [checkHardwareRange_value run], rfl⟩
  case h_16 cpu hz =>
      cases goesBy
      refine .after fun proc later khz run => .after fun _ _ _ _ => .unless fun _ => ?_
      exact writeFileString_leads ⟨all, khz, by rw [checkHardwareRange_value run], rfl⟩
  case h_17 => cases goesBy

/-- What the setter's own check refuses changes nothing. -/
theorem applies_of_refused
    {site : NumberSite} {call : Update} {m : Int} (goesBy : site.number call = some m)
    (refused : site.refuses m = true) (n : Int) :
    site.Applies n call := by
  intro σ os sys
  have stops : ∀ {condition : Prop} [Decidable condition] {program : GetM σ Unit}
      {next : SetM σ Unit}, condition → (if condition then getting program else next).Leads os sys
        fun after => site.number call = some n ∧ site.Wrote n call os sys after := fun holds =>
    .ite (fun _ => .getting _) fun fails => absurd holds fails
  unfold number at goesBy
  split at goesBy <;> cases goesBy
  case h_1 => exact stops (of_decide_eq_true refused)
  case h_2 => exact stops (of_decide_eq_true refused)
  case h_3 => cases refused
  case h_4 => exact stops (of_decide_eq_true refused)
  case h_5 => cases refused
  case h_6 => exact stops (.inl (of_decide_eq_true refused))
  case h_7 => exact stops (.inr (of_decide_eq_true refused))
  case h_8 => exact stops (.inl (of_decide_eq_true refused))
  case h_9 => exact stops (.inl (of_decide_eq_true refused))
  case h_10 => exact stops (of_decide_eq_true refused)
  case h_11 => exact stops (by simpa [refuses] using refused)
  case h_12 => exact stops (by simpa [refuses] using refused)
  case h_13 => exact stops (of_decide_eq_true refused)
  case h_14 => exact stops (of_decide_eq_true refused)
  case h_15 => cases refused
  case h_16 => cases refused

/-! ## Which integers are kept -/

/--
The integer fits an `int`, or it is refused: by the handler, which reads 64
bits, or by the setter, which sees the low 32.
-/
def Kept (site : NumberSite) (n : Int) : Prop :=
  match site with
  | ringSize | cstateIndex | coolingIndex | hwmonIndex | batteryIndex =>
      n < 2147483648 ∨ int64Max < n ∨ 2147483648 ≤ n % 4294967296
  | fanIndex =>
      n < 2147483648 ∨ int64Max < n ∨ 2147483648 ≤ n % 4294967296 ∨ n % 4294967296 = 0
  | autosuspendMs | coolingState =>
      n < int64Min ∨ int64Max < n ∨ (-2147483648 ≤ n ∧ n < 2147483648)
  | swappiness =>
      n < int64Min ∨ int64Max < n ∨ (-2147483648 ≤ n ∧ n < 2147483648) ∨ 200 < n % 4294967296
  | overcommit =>
      n < int64Min ∨ int64Max < n ∨ (-2147483648 ≤ n ∧ n < 2147483648) ∨ 2 < n % 4294967296
  | vfsCachePressure =>
      n < int64Min ∨ int64Max < n ∨ (-2147483648 ≤ n ∧ n < 2147483648) ∨
        2147483648 ≤ n % 4294967296
  | readAheadKb => True
  | freqHz => n < 0 ∨ int64Max < n ∨ n % 1000 = 0

theorem toInt32_cases (value : Int) :
    (value % 4294967296 < 2147483648 ∧ toInt32 value = value % 4294967296) ∨
      (2147483648 ≤ value % 4294967296 ∧ toInt32 value = value % 4294967296 - 4294967296) := by
  unfold toInt32 Int.bmod
  dsimp only
  split <;> omega

theorem strictInt_eq_some
    {n value : Int} :
    strictInt n = some value ↔ value = n ∧ int64Min ≤ n ∧ n ≤ int64Max := by
  unfold strictInt
  split
  · rename_i inside
    exact ⟨fun same => ⟨(Option.some.inj same).symm, inside⟩, fun given => congrArg some given.1.symm⟩
  · rename_i outside
    exact ⟨nofun, fun given => absurd given.2 outside⟩

theorem clamp_cases (n : Int) :
    (n < int64Min ∧ (clamp n []).value = int64Min) ∨
      (int64Max < n ∧ (clamp n []).value = int64Max) ∨
      (int64Min ≤ n ∧ n ≤ int64Max ∧ (clamp n []).value = n) := by
  unfold clamp
  split
  · rename_i low
    exact .inl ⟨low, rfl⟩
  · split
    · rename_i high
      exact .inr (.inl ⟨high, rfl⟩)
    · rename_i notLow notHigh
      exact .inr (.inr ⟨Int.not_lt.mp notLow, Int.not_lt.mp notHigh, rfl⟩)

theorem kept_iff (site : NumberSite) (n : Int) :
    site.Kept n ↔ ∀ value, site.accepted n = some value →
      site.applied value = n ∨ site.refuses (site.applied value) = true := by
  have narrow := toInt32_cases n
  have clamped := clamp_cases n
  have narrowClamped := toInt32_cases (clamp n []).value
  have kilo : 0 ≤ n → n.tdiv 1000 = n / 1000 := Int.tdiv_eq_ediv_of_nonneg
  simp only [int64Min, int64Max] at clamped
  cases site
  case readAheadKb =>
      refine ⟨fun _ value given => .inl ?_, fun _ => trivial⟩
      exact (strictInt_eq_some.mp given).1
  all_goals
    simp only [Kept, accepted, refuses, Option.filter_eq_some_iff, strictInt_eq_some,
      Option.some.injEq, decide_eq_true_eq, Bool.or_eq_true, and_imp, forall_eq, forall_eq',
      Bool.false_eq_true, or_false, int64Min, int64Max]
    simp only [applied]
    omega

/-! ## Commands that reach the kernel -/

/-- One setter call for each place. -/
def sample (site : NumberSite) (value : Int) : Update :=
  match site with
  | ringSize => .netSetRingRx ⟨"eth0", true⟩ (toInt32 value)
  | autosuspendMs => .usbSetAutosuspendDelay ⟨"1-1", "/sys/bus/usb/devices/1-1", 1, 1⟩ (toInt32 value)
  | coolingIndex => .thermalSetCoolingState ⟨"thermal_zone0", []⟩ (toInt32 value) 0
  | coolingState => .thermalSetCoolingState ⟨"thermal_zone0", []⟩ 0 (toInt32 value)
  | hwmonIndex => .thermalHwmonSetFanPwm (toInt32 value) 1 100
  | fanIndex => .thermalHwmonSetFanPwm 0 (toInt32 value) 100
  | batteryIndex => .powerBatterySetChargeStart (toInt32 value) 50
  | cstateIndex => .cpuSetCstateDisable ⟨0⟩ (toInt32 value) true
  | swappiness => .memSetSwappiness (toInt32 value)
  | overcommit => .memSetOvercommit (toInt32 value)
  | vfsCachePressure => .memSetVfsCachePressure (toInt32 value)
  | readAheadKb => .storageSetReadAhead ⟨"sda"⟩ value
  | freqHz => .cpuSetFreqMin ⟨0⟩ value

theorem number_sample (site : NumberSite) (value : Int) :
    site.number (site.sample value) = some (site.applied value) := by
  cases site <;> rfl

/-- Every file has this content and every directory these entries; writes are counted. -/
def countingOs (content : CStr) (names : List CStr) : Os Nat :=
  { bareOs with
    openRead := fun _ _ => .ok ⟨content, none⟩
    writeFile := fun writes _ _ => (.done, writes + 1)
    listDir := fun _ _ => .ok names
    readlink := fun _ _ => .ok "../cooling_device0"
    getRing := fun _ _ => .ok ⟨0, 0, 0, 0, 0, 0, 0, 0⟩
    setRing := fun writes _ _ => (.ok (), writes + 1) }

/-- A directory of nothing but batteries. -/
theorem collectSupplies_counting
    (names : List CStr) (count capacity : Nat) (found : List CStr) :
    collectSupplies "Battery" capacity found (List.replicate count "BAT0".toList)
      (countingOs "Battery\n" names) 0 freshProc =
        (.value (found ++ List.replicate count "BAT0".toList), freshProc) := by
  induction count generalizing capacity found with
  | zero =>
      rw [List.replicate_zero, List.append_nil]
      rfl
  | succ count inductionHypothesis =>
      have grown : ∃ room, growArray 8 capacity found.length "realloc failed"
          "list_supplies_by_type" (countingOs "Battery\n" names) 0 freshProc =
            (.value room, freshProc) := by
        unfold growArray
        split
        · exact ⟨_, rfl⟩
        · exact ⟨_, rfl⟩
      obtain ⟨room, grown⟩ := grown
      have visible : ¬("BAT0".toList.head? = some '.') := by decide
      rw [List.replicate_succ, collectSupplies, if_neg visible]
      have typed : quietly (readStringAlloc (supplyPath "BAT0" "type"))
          (countingOs "Battery\n" names) 0 freshProc = (.value (some "Battery".toList), freshProc) :=
        rfl
      refine (GetM.bind_value typed).trans ?_
      dsimp only
      rw [if_pos rfl]
      refine (GetM.bind_value grown).trans ((inductionHypothesis room _).trans ?_)
      rw [List.append_assoc]
      rfl

theorem nthBatteryName_counting
    (index : Int) (nonneg : 0 ≤ index) :
    ∃ name, nthBatteryName index
      (countingOs "Battery\n" (List.replicate (index.toNat + 1) "BAT0".toList)) 0 freshProc =
        (.value name, freshProc) := by
  have listed : listSuppliesByType "Battery"
      (countingOs "Battery\n" (List.replicate (index.toNat + 1) "BAT0".toList)) 0 freshProc =
        (.value (List.replicate (index.toNat + 1) "BAT0".toList), freshProc) := by
    have entries : sysCallOr (fun os sys => os.listDir sys powerSupplyDir) none powerSupplyDir
        (countingOs "Battery\n" (List.replicate (index.toNat + 1) "BAT0".toList)) 0 freshProc =
          (.value (List.replicate (index.toNat + 1) "BAT0".toList), freshProc) := rfl
    refine (GetM.bind_value entries).trans ?_
    exact (GetM.bind_value (collectSupplies_counting _ _ 0 [])).trans rfl
  have inside : ¬(index < 0 ∨
      ((List.replicate (index.toNat + 1) "BAT0".toList).length : Int) ≤ index) := by
    rw [List.length_replicate]
    omega
  unfold nthBatteryName
  rw [GetM.bind_value listed, if_neg inside]
  exact ⟨_, rfl⟩

theorem unless_changes
    {condition : Prop} [Decidable condition] {first second : SetM Nat Unit} {os : Os Nat}
    {proc : Proc} (fails : ¬condition) (changed : (second os 0 proc).2.1 ≠ 0) :
    ((if condition then first else second) os 0 proc).2.1 ≠ 0 := by
  rwa [if_neg fails]

/-- Where the setter does not refuse the number, some machine is changed. -/
theorem sample_changes
    {site : NumberSite} {value : Int} (taken : site.refuses (site.applied value) = false)
    (frequency : site = freqHz → 0 ≤ value ∧ value ≤ int64Max) :
    ∃ (os : Os Nat) (proc : Proc), ((site.sample value).program os 0 proc).2.1 ≠ 0 := by
  cases site with
  | ringSize =>
      exact ⟨countingOs [] [], freshProc,
        unless_changes (of_decide_eq_false taken) Nat.one_ne_zero⟩
  | autosuspendMs => exact ⟨countingOs [] [], freshProc, Nat.one_ne_zero⟩
  | coolingIndex =>
      exact ⟨countingOs [] [], freshProc,
        unless_changes (of_decide_eq_false taken) Nat.one_ne_zero⟩
  | coolingState => exact ⟨countingOs [] [], freshProc, Nat.one_ne_zero⟩
  | hwmonIndex =>
      have guard : ¬(toInt32 value < 0 ∨ (1 : Int) < 1) :=
        not_or.mpr ⟨of_decide_eq_false taken, Int.lt_irrefl 1⟩
      exact ⟨countingOs [] [], freshProc, unless_changes guard Nat.one_ne_zero⟩
  | fanIndex =>
      have guard : ¬((0 : Int) < 0 ∨ toInt32 value < 1) :=
        not_or.mpr ⟨Int.lt_irrefl 0, of_decide_eq_false taken⟩
      exact ⟨countingOs [] [], freshProc, unless_changes guard Nat.one_ne_zero⟩
  | cstateIndex =>
      exact ⟨countingOs [] [], freshProc,
        unless_changes (of_decide_eq_false taken) Nat.one_ne_zero⟩
  | swappiness =>
      obtain ⟨negative, above⟩ := Bool.or_eq_false_iff.mp taken
      exact ⟨countingOs [] [], freshProc, unless_changes
        (not_or.mpr ⟨of_decide_eq_false negative, of_decide_eq_false above⟩) Nat.one_ne_zero⟩
  | overcommit =>
      obtain ⟨negative, above⟩ := Bool.or_eq_false_iff.mp taken
      exact ⟨countingOs [] [], freshProc, unless_changes
        (not_or.mpr ⟨of_decide_eq_false negative, of_decide_eq_false above⟩) Nat.one_ne_zero⟩
  | vfsCachePressure =>
      exact ⟨countingOs [] [], freshProc,
        unless_changes (of_decide_eq_false taken) Nat.one_ne_zero⟩
  | readAheadKb =>
      exact ⟨countingOs [] [], freshProc,
        unless_changes (of_decide_eq_false taken) Nat.one_ne_zero⟩
  | batteryIndex =>
      have nonneg : ¬toInt32 value < 0 := of_decide_eq_false taken
      obtain ⟨name, named⟩ := nthBatteryName_counting (toInt32 value) (Int.not_lt.mp nonneg)
      refine ⟨countingOs "Battery\n" (List.replicate ((toInt32 value).toNat + 1) "BAT0".toList),
        freshProc, unless_changes (not_or.mpr ⟨nonneg, by decide⟩) ?_⟩
      rw [SetM.bind_getting_value named]
      exact Nat.one_ne_zero
  | freqHz =>
      obtain ⟨nonneg, high⟩ := frequency rfl
      have held : ∀ path, HoldsInt (countingOs (showInt (value / 1000)) []) 0 path (value / 1000) := by
        intro path
        refine .of_printed ?_ ?_ (.inl rfl) (congrArg (fun bytes => Except.ok (OpenFile.mk bytes none))
          (List.append_nil _).symm)
        · unfold int64Min
          omega
        · unfold int64Max at *
          omega
      have files : CpuFiles (countingOs (showInt (value / 1000)) []) 0 ⟨0⟩
          ⟨value / 1000, value / 1000, value / 1000, value / 1000⟩ :=
        ⟨held _, held _, held _, held _⟩
      refine ⟨countingOs (showInt (value / 1000)) [], freshProc, ?_⟩
      have low : int64Min ≤ value := by
        unfold int64Min
        omega
      have admitted : FreqCall.Admitted (.setMin ⟨value, low, high⟩)
          ⟨value / 1000, value / 1000, value / 1000, value / 1000⟩ :=
        ⟨nonneg, le_rfl, le_rfl, le_rfl⟩
      have run := congrArg (·.2.1) (FreqCall.run_admitted files admitted freshProc)
      exact run.trans_ne Nat.one_ne_zero

/-- Every device can be opened and every setter call succeeds. -/
def eagerLibrary : Library Unit Unit where
  query call _ memory :=
    match call with
    | .netOpen iface => (.ok ⟨iface, true⟩, memory)
    | .usbOpen dev => (.ok ⟨dev, "/sys/bus/usb/devices/".toList ++ dev, 1, 1⟩, memory)
    | .thermalOpen zone => (.ok ⟨zone, []⟩, memory)
    | .cpuOpen index => (.ok ⟨index⟩, memory)
    | _ => (.error Err.zero, memory)
  update _ sys memory := (.ok (), sys, memory)

def eagerHost : Host Unit where
  listDir _ _ := none
  access _ _ _ := false
  readFile _ _ := .error []
  mkdir _ _ := (false, ())
  openWrite _ _ := (.error [], ())
  writeOut _ _ _ := ()
  unlink _ _ := (.error [], ())

def eagerCtx : Ctx Unit Unit :=
  ⟨eagerLibrary, eagerHost, smallEnv 0⟩

def firstProcess : Process Unit Unit :=
  ⟨(), ⟨(), [], [], []⟩, []⟩

theorem decimal_ne_zone
    {text : CStr} {n : Int} (decimal : Decimal text n) :
    text ≠ "--zone" := by
  rintro rfl
  have unread : strtoll "--zone" = none := by decide
  have read := decimal.strtoll_eq
  rw [unread] at read
  cases read

/-- A positive integer is not taken for an option. -/
theorem isOption_of_positive
    {text : CStr} {n : Int} (decimal : Decimal text n) (positive : 0 < n) :
    isOption text = false := by
  cases decimal with
  | unsigned digits nonempty all =>
      cases text with
      | nil => rfl
      | cons c rest =>
          have digit := all c List.mem_cons_self
          unfold isOption
          split
          · rename_i same
            cases same
            exact absurd digit (by decide)
          · rfl
  | plus digits nonempty all => rfl
  | minus digits nonempty all => omega

/-- The positionals after an option and its value. -/
theorem positionalArg_after
    {option value text : CStr} (dashed : isOption option = true) (apart : '=' ∉ option)
    (plain : isOption text = false) (rest : List CStr) :
    positionalArg (option :: value :: text :: rest) 0 = some text := by
  have counted : ¬cmdPositionalCount (option :: value :: text :: rest) ≤ 0 := by
    rw [cmdPositionalCount, if_pos dashed, if_neg apart]
    cases rest with
    | nil =>
        rw [cmdPositionalCount, plain]
        decide
    | cons next rest =>
        rw [cmdPositionalCount, plain]
        exact Nat.not_succ_le_zero _
  rw [positionalArg, if_neg counted, cmdPositional, if_pos dashed, if_neg apart]
  cases rest with
  | nil =>
      rw [cmdPositional, plain]
      rfl
  | cons next rest =>
      rw [cmdPositional, plain]
      rfl

theorem applyMemoryInt_issues
    {kv : TomlKv} {value : Int} (bare : kv.isString = false)
    (parsed : cliParseInt kv.value = some value) (call : Int → Update) :
    .update (call (toInt32 value)) ∈
      (applyMemoryInt kv false false call eagerCtx firstProcess).2.steps := by
  rw [applyMemoryInt, bare, parsed]
  exact List.mem_singleton_self _

/-- Once the zone is named and both numbers are read, the cooling setter is called. -/
theorem thermalSet_issues
    {index state : CStr} {i value : Int}
    (named : cliOpt "--zone" ["cooling", index, state, "--zone", "thermal_zone0"] =
      some "thermal_zone0")
    (cooling : parseCooling index state = some (i, value)) :
    .update (.thermalSetCoolingState ⟨"thermal_zone0", []⟩ (toInt32 i) (toInt32 value)) ∈
      (thermalSet ["cooling", index, state, "--zone", "thermal_zone0"] false false eagerCtx
        firstProcess).2.steps := by
  rw [thermalSet, named]
  change _ ∈ (thermalSetCooling _ _ _ _ _ _ eagerCtx _).2.steps
  rw [thermalSetCooling, cooling]
  exact List.mem_singleton_self _

/-- For an integer the handler takes, some command makes the call. -/
theorem sample_issued
    {site : NumberSite} {text : CStr} {n value : Int} (decimal : Decimal text n)
    (taken : site.accepted n = some value)
    (positional : site = ringSize ∨ site = cstateIndex → isOption text = false)
    (checked : site ≠ readAheadKb) :
    ∃ program : CliM Unit Unit Int, site.Command text program ∧
      .update (site.sample value) ∈ (program eagerCtx firstProcess).2.steps := by
  cases site with
  | ringSize =>
      have plain := positional (.inl rfl)
      have first : positionalArg ["--iface".toList, "eth0".toList, text] 0 = some text :=
        positionalArg_after (by decide) (by decide) plain []
      have second : positionalArg ["--iface".toList, "eth0".toList, text] 1 = none := by
        have counted : cmdPositionalCount ["--iface".toList, "eth0".toList, text] ≤ 1 := by
          change (if isOption text then 0 else 1) ≤ 1
          rw [plain]
          decide
        exact if_pos counted
      have choice : ringChoice ["--iface".toList, "eth0".toList, text] = .ok (false, text) := by
        rw [ringChoice, first, second]
      have parsed : (wholeInt text).filter (0 ≤ ·) = some value :=
        decimal.wholeInt_filter taken
      refine ⟨_, .ringSize _ false false false choice, ?_⟩
      have iface : deviceArg "--iface" ["--iface".toList, "eth0".toList, text] = some "eth0" := rfl
      rw [netSetRing, iface]
      dsimp only
      rw [choice]
      dsimp only
      rw [parsed]
      exact List.mem_singleton_self _
  | autosuspendMs =>
      refine ⟨_, .autosuspendMs "autosuspend" "1-1" [] false false, ?_⟩
      have parsed : cliParseInt text = some value := decimal.cliParseInt_eq.trans taken
      rw [usbSetAutosuspend, parsed]
      exact List.mem_singleton_self _
  | coolingIndex =>
      refine ⟨_, .coolingIndex "0" ["--zone", "thermal_zone0"] false false, ?_⟩
      have parsed : (cliParseInt text).filter (0 ≤ ·) = some value :=
        decimal.cliParseInt_filter taken
      have zone : cliOpt "--zone" ["cooling".toList, text, "0".toList, "--zone".toList,
          "thermal_zone0".toList] = some "thermal_zone0" := by
        change (if text = "--zone" then _ else _) = _
        rw [if_neg (decimal_ne_zone decimal)]
        rfl
      have cooling : parseCooling text "0" = some (value, 0) := by
        rw [parseCooling, parsed]
        rfl
      exact thermalSet_issues zone cooling
  | coolingState =>
      refine ⟨_, .coolingState "0" ["--zone", "thermal_zone0"] false false, ?_⟩
      have parsed : cliParseInt text = some value := decimal.cliParseInt_eq.trans taken
      have zone : cliOpt "--zone" ["cooling".toList, "0".toList, text, "--zone".toList,
          "thermal_zone0".toList] = some "thermal_zone0" := by
        change (if text = "--zone" then _ else _) = _
        rw [if_neg (decimal_ne_zone decimal)]
        rfl
      have cooling : parseCooling "0" text = some (0, value) := by
        rw [parseCooling, parsed]
        rfl
      exact thermalSet_issues zone cooling
  | hwmonIndex =>
      refine ⟨_, .hwmonIndex "1" ["100"] false false, ?_⟩
      have parsed : (cliParseInt text).filter (0 ≤ ·) = some value :=
        decimal.cliParseInt_filter taken
      rw [thermalHwmonFan, parseHwmonFan, parsed]
      exact List.mem_singleton_self _
  | fanIndex =>
      refine ⟨_, .fanIndex "0" ["100"] false false, ?_⟩
      have parsed : (cliParseInt text).filter (1 ≤ ·) = some value :=
        decimal.cliParseInt_filter taken
      rw [thermalHwmonFan, parseHwmonFan, parsed]
      exact List.mem_singleton_self _
  | batteryIndex =>
      refine ⟨_, .batteryIndex "charge-start" "50" [] false false true, ?_⟩
      have parsed : (cliParseInt text).filter (0 ≤ ·) = some value :=
        decimal.cliParseInt_filter taken
      rw [powerSetCharge, parseCharge, parsed]
      exact List.mem_singleton_self _
  | cstateIndex =>
      have plain := positional (.inr rfl)
      have first : positionalArg ["--cpu".toList, "0".toList, text, "disable".toList] 0 = some text :=
        positionalArg_after (by decide) (by decide) plain _
      have second : positionalArg ["--cpu".toList, "0".toList, text, "disable".toList] 1 =
          some "disable".toList := by
        have counted : cmdPositionalCount ["--cpu".toList, "0".toList, text, "disable".toList] = 2 := by
          change (if isOption text then _ else 1 + 1) = 2
          rw [plain]
          rfl
        rw [positionalArg, counted]
        change (if isOption text then _ else some "disable".toList) = _
        rw [plain]
        rfl
      have parsed : (wholeInt text).filter (0 ≤ ·) = some value :=
        decimal.wholeInt_filter taken
      refine ⟨_, .cstateIndex _ false false first, ?_⟩
      rw [cpuSetCstate, first, second]
      dsimp only
      rw [parsed]
      exact List.mem_singleton_self _
  | swappiness =>
      refine ⟨_, .swappiness false false false, ?_⟩
      rw [applyKv_memory rfl, loadMemoryKv_swappiness rfl]
      exact applyMemoryInt_issues rfl (decimal.cliParseInt_eq.trans taken) _
  | overcommit =>
      refine ⟨_, .overcommit false false false, ?_⟩
      rw [applyKv_memory rfl, loadMemoryKv_overcommit rfl]
      exact applyMemoryInt_issues rfl (decimal.cliParseInt_eq.trans taken) _
  | vfsCachePressure =>
      refine ⟨_, .vfsCachePressure false false false, ?_⟩
      rw [applyKv_memory rfl, loadMemoryKv_vfsCachePressure rfl]
      exact applyMemoryInt_issues rfl (decimal.cliParseInt_eq.trans taken) _
  | freqHz =>
      refine ⟨_, .freqMinHz false false false, ?_⟩
      have parsed : (cliParseInt text).filter (0 ≤ ·) = some value :=
        decimal.cliParseInt_filter taken
      rw [applyKv_cpu rfl, loadCpuKv_freqMin rfl rfl parsed]
      exact List.mem_cons_self
  | readAheadKb => exact absurd rfl checked

/-- A positional the handler takes and changes is positive. -/
theorem changed_positional
    {site : NumberSite} {text : CStr} {n value : Int} (decimal : Decimal text n)
    (taken : site.accepted n = some value) (differs : site.applied value ≠ n)
    (position : site = ringSize ∨ site = cstateIndex) :
    isOption text = false := by
  have read : (some (clamp n []).value).filter (0 ≤ ·) = some value ∧ toInt32 value ≠ n := by
    rcases position with rfl | rfl
    · exact ⟨taken, differs⟩
    · exact ⟨taken, differs⟩
  obtain ⟨filtered, narrowed⟩ := read
  obtain ⟨same, nonneg⟩ := Option.filter_eq_some_iff.mp filtered
  cases same
  rw [decide_eq_true_eq] at nonneg
  have clamped := clamp_cases n
  have narrow := toInt32_cases (clamp n []).value
  simp only [int64Min, int64Max] at clamped
  exact isOption_of_positive decimal (by omega)

/-- In every command with the text at this place, every kernel write has the integer. -/
def Faithful (site : NumberSite) (text : CStr) (n : Int) : Prop :=
  ∀ (σ τ : Type) (program : CliM σ τ Int), site.Command text program → ∀ ctx,
    program.Takes ctx fun step => ∃ call, step = .update call ∧ site.Applies n call

end NumberSite

open NumberSite in
/-- No command narrows the integer silently just when it is kept. -/
theorem faithful_iff_kept
    (site : NumberSite) {text : CStr} {n : Int} (decimal : Decimal text n) :
    site.Faithful text n ↔ site.Kept n := by
  constructor
  · intro faithful
    refine (kept_iff site n).mpr fun value taken => ?_
    by_contra narrowed
    obtain ⟨differs, unrefused⟩ := not_or.mp narrowed
    have checked : site ≠ readAheadKb := by
      rintro rfl
      exact differs (strictInt_eq_some.mp taken).1
    have frequency : site = freqHz → 0 ≤ value ∧ value ≤ int64Max := by
      rintro rfl
      obtain ⟨read, nonneg⟩ := Option.filter_eq_some_iff.mp taken
      obtain ⟨rfl, _, high⟩ := strictInt_eq_some.mp read
      exact ⟨of_decide_eq_true nonneg, high⟩
    obtain ⟨program, command, issued⟩ := sample_issued decimal taken
      (changed_positional decimal taken differs) checked
    obtain ⟨os, proc, changed⟩ := sample_changes (Bool.eq_false_of_not_eq_true unrefused) frequency
    rcases faithful _ _ program command eagerCtx firstProcess _ issued with early | ⟨call, same, applies⟩
    · cases early
    · cases same
      rcases applies Nat os 0 proc with unchanged | ⟨goesBy, _⟩
      · exact changed unchanged
      · rw [number_sample] at goesBy
        exact differs (Option.some.inj goesBy)
  · intro kept σ τ program command ctx process step member
    rcases Command.handsOn decimal command process step member with early | ⟨call, value, rfl, taken, goesBy⟩
    · exact .inl early
    · refine .inr ⟨call, rfl, ?_⟩
      rcases (kept_iff site n).mp kept value taken with same | refused
      · rw [same] at goesBy
        exact applies_of_number goesBy
      · exact applies_of_refused goesBy refused n

/-- Two seconds stay two seconds. -/
theorem faithful_two_seconds :
    Decimal "2000" 2000 ∧ NumberSite.autosuspendMs.Faithful "2000" 2000 := by
  have decimal : Decimal "2000" 2000 := .unsigned "2000" (by decide) (List.all_eq_true.mp (by decide))
  exact ⟨decimal, (faithful_iff_kept .autosuspendMs decimal).mpr (.inr (.inr ⟨by decide, by decide⟩))⟩

open NumberSite in
/-- A delay of 2³² + 1 milliseconds is written as one. -/
theorem autosuspend_narrowed :
    Decimal "4294967297" 4294967297 ∧
      ¬NumberSite.autosuspendMs.Faithful "4294967297" 4294967297 := by
  refine ⟨.unsigned "4294967297" (by decide) (List.all_eq_true.mp (by decide)), fun faithful => ?_⟩
  have issued : .update (.usbSetAutosuspendDelay ⟨"1-1", "/sys/bus/usb/devices/1-1", 1, 1⟩ 1) ∈
      (usbSetAutosuspend ["autosuspend".toList, "1-1".toList, "4294967297".toList] false false
        eagerCtx firstProcess).2.steps := by
    decide +kernel
  rcases faithful _ _ _ (.autosuspendMs "autosuspend" "1-1" [] false false) eagerCtx firstProcess _
    issued with early | ⟨call, same, applies⟩
  · cases early
  · cases same
    rcases applies Nat (countingOs [] []) 0 freshProc with unchanged | ⟨goesBy, _⟩
    · cases unchanged
    · cases goesBy

end Zenctl
