import Zenctl.ReplyRules

namespace Zenctl

open CString Condition Json

/-!
# When the device handlers print a reply

`gpu`, `thermal`, `power`, `usb`, `bt`, `wireless` and `firmware` print nothing
on standard output for a command line they do not take, and print the fields of
most successful getters and setters without braces.  For each of them stands
first when it does print a reply, and then that this is so.
-/

variable {σ τ : Type}

/-! ## Graphics -/

/-- The numbered entries of a directory are numbers. -/
theorem enumIndexed_yields (dir lead : CStr) (cap : Nat) :
    (enumIndexed dir lead cap : ReadM σ τ (Option (List Int))).Yields fun _ => True := by
  refine .bind (.listDir dir) fun names _ => ?_
  cases names <;> exact .pure trivial

/-- An array of objects of printable fields. -/
theorem okArray_replies
    {α : Type} {round : α → ReadM σ τ (List Field)} {items : List α}
    (yields : ∀ item ∈ items, (round item).Yields Printable) (status : Int) :
    (do
      let results ← collect round items
      put (okArray results)
      pure status : ReadM σ τ Int).Replies always :=
  .after (.collect yields) fun _ printable =>
    put_replies (iff_true_intro (okArray_reply printable)) status

/-- A listing of what a directory numbers. -/
theorem listIndexed_replies
    {dir lead message context : CStr} {cap : Nat} {code : Int}
    {round : Int → ReadM σ τ (List Field)} {choose : List Int → List Int}
    (known : IsMessage message) (yields : ∀ item, (round item).Yields Printable) :
    (do
      match ← enumIndexed dir lead cap with
      | none => refuse true code message context
      | some found =>
          let results ← collect round (choose found)
          put (okArray results)
          pure 0 : ReadM σ τ Int).Replies always := by
  refine .after (enumIndexed_yields dir lead cap) fun found _ => ?_
  cases found with
  | none => exact refuse_replies _ known _
  | some found => exact okArray_replies (fun item _ => yields item) 0

/-- A string field of a getter that succeeded. -/
theorem stringField_yields
    {call : Query CStr} {key : CStr} (own : ∀ text, call.texts text = [text])
    (ascii : isAscii key = true) :
    (optField call (.string key) : ReadM σ τ (List Field)).Yields Printable := by
  refine .optField fun text spells => List.forall_mem_singleton.mpr ⟨isUtf8_ascii ascii, ?_⟩
  exact spells text (own text ▸ List.mem_singleton_self text)

/-- A number or a flag of a getter that succeeded. -/
theorem asciiField_yields
    {β : Type} {call : Query β} {field : β → Field}
    (ascii : ∀ value, [field value].all Field.isAscii = true) :
    (optField call field : ReadM σ τ (List Field)).Yields Printable :=
  .optField fun value _ => printable_ascii (ascii value)

/-- A card that cannot be opened is listed by its number alone. -/
theorem gpuListFields_yields (card : Int) :
    (gpuListFields card : ReadM σ τ (List Field)).Yields Printable :=
  .answer (.pure (printable_ascii rfl)) fun _ _ =>
    .bind (stringField_yields (fun _ => rfl) rfl) fun _ driver =>
    .bind (stringField_yields (fun _ => rfl) rfl) fun _ vendor =>
    .pure (.append (.append (printable_ascii rfl : Printable [.int "card" card]) driver) vendor)

/-- Every row of `gpu list` is an object. -/
theorem gpuList_replies : (gpuList true : ReadM σ τ Int).Replies always :=
  listIndexed_replies (phrase rfl) gpuListFields_yields

/-- What can be read of a card. -/
theorem gpuEmitAllJson_yields (g : GpuHandle) :
    (gpuEmitAllJson g : ReadM σ τ (List Field)).Yields Printable :=
  .bind (stringField_yields (fun _ => rfl) rfl) fun _ driver =>
  .bind (stringField_yields (fun _ => rfl) rfl) fun _ vendor =>
  .bind (asciiField_yields fun _ => rfl) fun _ temp =>
  .bind (asciiField_yields fun _ => rfl) fun _ power =>
  .bind (asciiField_yields fun _ => rfl) fun _ freq =>
  .bind (asciiField_yields fun _ => rfl) fun _ pwm =>
  .bind (asciiField_yields fun _ => rfl) fun _ auto =>
  .bind (stringField_yields (fun _ => rfl) rfl) fun _ profile =>
  .bind (asciiField_yields fun _ => rfl) fun _ busy =>
  .pure ((((((((driver.append vendor).append temp).append power).append freq).append pwm).append
    auto).append profile).append busy)

/-- `gpu get --all` puts the fields of a card into an object. -/
theorem gpuGetAll_replies (args : List CStr) :
    (gpuGetAll args true : ReadM σ τ Int).Replies always := by
  refine listIndexed_replies (phrase rfl) fun card => .answer (.pure (printable_ascii rfl))
    fun g _ => .bind (gpuEmitAllJson_yields g) fun fields printable => .pure ?_
  exact .append (printable_ascii rfl : Printable [.int "card" card]) printable

/-- `gpu get`: everything is listed, or the card or the getter fails. -/
def gpuGetReplies : List CStr → Condition σ τ
  | [] => impossible
  | what :: rest =>
      if what = "--all" then always
      else
        orError (.gpuOpen (cliOptInt "--card" 0 (what :: rest))) fun g =>
          if what = "temp" then fails (.gpuGetTemp g)
          else if what = "fan" then bothFail (.gpuGetFanPwm g) (.gpuGetFanAuto g)
          else if what = "power" then fails (.gpuGetPower g)
          else if what = "freq" then fails (.gpuGetFreq g)
          else if what = "driver" then fails (.gpuGetDriver g)
          else if what = "profile" then fails (.gpuAmdgpuGetPowerProfile g)
          else if what = "busy" then fails (.gpuAmdgpuGetBusyPercent g)
          else impossible

/-- The pair of the fan is printed bare, when one of the two can be read. -/
theorem gpuGetFan_replies (card : Int) (g : GpuHandle) :
    (gpuGetFan true card g : ReadM σ τ Int).Replies
      (bothFail (.gpuGetFanPwm g) (.gpuGetFanAuto g)) := by
  refine bothFail_replies (refuse_replies _ (phrase rfl) _) fun pwm auto answered => ?_
  rw [if_pos (by simpa using answered)]
  exact report_breaks (okBare_broken _ _) _

/-- The condition follows the targets of `gpu get`. -/
theorem gpuGet_replies (args : List CStr) :
    (gpuGet args true : ReadM σ τ Int).Replies (gpuGetReplies args) := by
  cases args with
  | nil => exact cliUsage_replies _
  | cons what rest =>
      unfold gpuGet gpuGetReplies
      refine .ite (fun all => gpuGetAll_replies _) fun one => ?_
      refine readOrErr_replies fun g _ => .env fun env => ?_
      refine .ite (fun temp => ?_) fun other => .ite (fun fan => gpuGetFan_replies _ g) fun other =>
        .ite (fun power => ?_) fun other => .ite (fun freq => ?_) fun other =>
        .ite (fun driver => ?_) fun other => .ite (fun profile => ?_) fun other =>
        .ite (fun busy => ?_) fun unknown => cliUsage_replies _
      -- the fan apart, every getter is shown by itself
      all_goals exact showBare_replies fun _ => List.cons_ne_nil _ _

/-- `gpu set fan`: only a duty cycle that is set ends in bare fields. -/
def gpuSetFanReplies (val : CStr) (dryRun : Bool) (g : GpuHandle) : Condition σ τ :=
  if val = "auto" then always
  else
    match parsePwm val with
    | none => always
    | some pwm =>
        written dryRun (bounded 64 ("set fan pwm=".toList ++ showInt pwm)) (.gpuSetFanPwm g pwm)

/-- Handing the fan back reports a string, which is a value by itself. -/
theorem gpuSetFan_replies (val : CStr) (dryRun : Bool) (g : GpuHandle) :
    (gpuSetFan val true dryRun g : CliM σ τ Int).Replies (gpuSetFanReplies val dryRun g) := by
  refine .ite (fun auto => .cases (fun dry => ?_) fun applied => ?_) fun duty => ?_
  · exact .reading ((announce_replies _).settle (iff_true_intro ⟨rfl, isUtf8_ascii rfl⟩))
  · refine setOrErr_speaks (okEnvelope_reply ?_)
    have text : outJsonEscape "fan=auto" = "\"fan=auto\"".toList := rfl
    exact text ▸ outJsonEscape_value (isUtf8_ascii rfl)
  · cases parsePwm val with
    | none => exact .reading (refuse_replies _ (phrase rfl) _)
    | some pwm => exact write_replies _ _ _ _

/-- `gpu set`: a caller without root, a card that cannot be opened, or the setter. -/
def gpuSetReplies (args : List CStr) (dryRun : Bool) : Condition σ τ :=
  match args with
  | what :: val :: _ =>
      orUser <| orError (.gpuOpen (cliOptInt "--card" 0 args)) fun g =>
        if what = "fan" then gpuSetFanReplies val dryRun g
        else if what = "profile" then
          written dryRun (bounded 128 ("set profile=".toList ++ val))
            (.gpuAmdgpuSetPowerProfile g val)
        else impossible
  | _ => impossible

/-- The condition follows the targets of `gpu set`. -/
theorem gpuSet_replies (args : List CStr) (dryRun : Bool) :
    (gpuSet args true dryRun : CliM σ τ Int).Replies (gpuSetReplies args dryRun) := by
  obtain _ | ⟨what, _ | ⟨val, rest⟩⟩ := args
  · exact .reading (cliUsage_replies _)
  · exact .reading (cliUsage_replies _)
  · refine asRoot_replies (openOrErr_replies fun g => ?_)
    refine .ite (fun fan => gpuSetFan_replies val dryRun g) fun other => ?_
    exact .ite (fun profile => write_replies _ _ _ _) fun unknown => .reading (cliUsage_replies _)

/-- When `zenctl gpu` prints a reply. -/
def gpuReplies (args : List CStr) (dryRun : Bool) : Condition σ τ :=
  match args with
  | [] => impossible
  | sub :: rest =>
      if sub = "list" then always
      else if sub = "get" then gpuGetReplies rest
      else if sub = "set" then gpuSetReplies rest dryRun
      else impossible

/-- The condition follows the subcommands of `gpu`. -/
theorem cmdGpu_replies (args : List CStr) (dryRun : Bool) :
    (cmdGpu args true dryRun : CliM σ τ Int).Replies (gpuReplies args dryRun) := by
  cases args with
  | nil => exact .reading (cliUsage_replies _)
  | cons sub rest =>
      refine .ite (fun list => .reading gpuList_replies) fun other => ?_
      refine .ite (fun get => .reading (gpuGet_replies rest)) fun other => ?_
      refine .ite (fun set => gpuSet_replies rest dryRun) fun unknown => ?_
      exact .reading (cliUsage_replies _)

/-! ## Thermal zones -/

/-- A word of the handlers and a number, cut to a buffer. -/
theorem numbered_ascii {lead : CStr} (ascii : isAscii lead = true) (size : Nat) (n : Int) :
    isAscii (bounded size (lead ++ showInt n)) = true := by
  refine isAscii_take ?_ _
  rw [isAscii_append, ascii, isAscii_showInt]
  rfl

/-- A zone that cannot be opened is listed by its number and name. -/
theorem thermalListFields_yields (index : Int) :
    (thermalListFields index : ReadM σ τ (List Field)).Yields Printable :=
  have zone : ∀ word ∈ [zoneName index], IsUtf8 word :=
    List.forall_mem_singleton.mpr (isUtf8_ascii (numbered_ascii rfl _ _))
  have head : Printable [.int "index" index, .string "zone" (zoneName index)] :=
    (printable_plain rfl).mpr zone
  .answer (.pure head) fun _ _ =>
    .bind (stringField_yields (fun _ => rfl) rfl) fun _ type =>
    .bind (asciiField_yields fun _ => rfl) fun _ temp =>
    .pure (.append (.append head type) temp)

/-- Every row of `thermal list` is an object. -/
theorem thermalList_replies : (thermalList true : ReadM σ τ Int).Replies always :=
  listIndexed_replies (phrase rfl) thermalListFields_yields

/-- The two strings of a sensor. -/
def HwmonTemp.Spelled (t : HwmonTemp) : Prop :=
  IsUtf8 t.name ∧ IsUtf8 t.label

/-- The texts of a sensor are printed when they are not empty. -/
theorem sensorFields_printable
    {t : HwmonTemp} (spelled : t.Spelled) :
    Printable (sensorFields t) := by
  refine .append (.append (.append (.append ?_ ?_) (printable_ascii rfl)) ?_) ?_
  · split
    · exact printable_ascii rfl
    · exact (printable_plain rfl).mpr (List.forall_mem_singleton.mpr spelled.1)
  · split
    · exact printable_ascii rfl
    · exact (printable_plain rfl).mpr (List.forall_mem_singleton.mpr spelled.2)
  · exact printable_if (printable_ascii rfl)
  · exact printable_if (printable_ascii rfl)

/-- A device and what its sensors show. -/
def readSensors (hwmon : Int) : ReadM σ τ (Int × List (Int × HwmonTemp)) := do
  let sensors ← hwmonSensors hwmon (countUp 1 16)
  pure (hwmon, sensors)

/-- Reading the sensors of a device leaves the console alone. -/
theorem hwmonSensors_reads (hwmon : Int) (sensors : List Int) :
    (hwmonSensors hwmon sensors : ReadM σ τ _).Reads := by
  induction sensors with
  | nil => exact .pure _
  | cons sensor rest inductionHypothesis =>
      exact .answer (.pure _) fun _ => .bind inductionHypothesis fun _ => .pure _

/-- So does reading a device. -/
theorem readSensors_reads (hwmon : Int) : (readSensors hwmon : ReadM σ τ _).Reads :=
  .bind (hwmonSensors_reads hwmon _) fun _ => .pure _

/-- The strings of all sensors of a device are valid UTF-8. -/
def SensorsSpelled (sensors : List (Int × HwmonTemp)) : Prop :=
  ∀ sensor ∈ sensors, sensor.2.Spelled

/-- The texts of the sensors are answers of the library. -/
theorem hwmonSensors_yields (hwmon : Int) (sensors : List Int) :
    (hwmonSensors hwmon sensors : ReadM σ τ _).Yields SensorsSpelled := by
  induction sensors with
  | nil => exact .pure (List.forall_mem_nil _)
  | cons sensor rest inductionHypothesis =>
      refine .answer (.pure (List.forall_mem_nil _)) fun temp spells =>
        .bind inductionHypothesis fun others known =>
          .pure (List.forall_mem_cons.mpr ⟨⟨?_, ?_⟩, known⟩)
      · exact spells _ (List.mem_cons_self ..)
      · exact spells _ (List.mem_cons_of_mem _ (List.mem_singleton_self _))

/-- The same of a device. -/
theorem readSensors_yields (hwmon : Int) :
    (readSensors hwmon : ReadM σ τ _).Yields fun device => SensorsSpelled device.2 :=
  .bind (hwmonSensors_yields hwmon _) fun _ known => .pure known

/-- The number in front of the sensors. -/
theorem hwmon_printable (hwmon : Int) : Printable [.int "hwmon" hwmon] :=
  printable_ascii rfl

/-- Without a second sensor there is no comma to be missed. -/
theorem hwmonObject_value
    {hwmon : Int} {sensors : List (Int × HwmonTemp)} (spelled : SensorsSpelled sensors)
    (few : sensors.length ≤ 1) :
    IsValue (hwmonObject hwmon sensors) := by
  have lead := hwmon_printable hwmon
  rcases sensors with _ | ⟨first, _ | ⟨second, others⟩⟩
  · simpa [hwmonObject, outFieldObjects, objectText] using objectText_value lead
  · have shown := objectText_value (sensorFields_printable (spelled first (List.mem_cons_self ..)))
    have name : isAscii (sensorName first.1) = true := numbered_ascii rfl 16 first.1
    have value := objectThen_value lead name shown
    simpa [hwmonObject, objectThen, outFieldObjects, objectText, emitComma, sensorName] using value
  · simp at few

/-- The object of the second sensor follows the first one without a comma. -/
theorem hwmonObject_breaks
    {hwmon : Int} {sensors : List (Int × HwmonTemp)} (spelled : SensorsSpelled sensors)
    (several : ¬sensors.length ≤ 1) :
    Breaks (hwmonObject hwmon sensors) := by
  rcases sensors with _ | ⟨first, _ | ⟨second, others⟩⟩
  · simp at several
  · simp at several
  · have shown := sensorFields_printable (spelled first (List.mem_cons_self ..))
    have breaks := fieldObjects_break (hwmon_printable hwmon) shown (List.cons_ne_nil _ _)
      (sensorName first.1) (sensorName second.1)
      (':' :: '{' :: (outJsonFields true (sensorFields second.2) ++ '}' ::
        outFieldObjects true (others.map fun sensor =>
          (sensorName sensor.1, sensorFields sensor.2)) ++ ['}']))
    simpa [hwmonObject, outFieldObjects, objectText, emitComma] using breaks

/-- The array is in order when none of its devices has a second sensor. -/
theorem hwmonArray_reply_iff
    {found : List (Int × List (Int × HwmonTemp))}
    (spelled : ∀ device ∈ found, SensorsSpelled device.2) :
    IsReply (okEnvelope (arrayText (found.map fun device => hwmonObject device.1 device.2))) ↔
      ∀ device ∈ found, device.2.length ≤ 1 := by
  by_cases few : ∀ device ∈ found, device.2.length ≤ 1
  · refine iff_of_true (okEnvelope_reply (arrayText_value ?_)) few
    exact List.forall_mem_map.mpr fun device inside =>
      hwmonObject_value (spelled device inside) (few device inside)
  · refine iff_of_false (brokenArray ?_ ?_) few
    · refine List.forall_mem_map.mpr fun device inside => ?_
      by_cases one : device.2.length ≤ 1
      · exact .inl (hwmonObject_value (spelled device inside) one).derived
      · exact .inr (hwmonObject_breaks (spelled device inside) one)
    · push Not at few
      obtain ⟨device, inside, several⟩ := few
      exact ⟨_, List.mem_map_of_mem inside,
        hwmonObject_breaks (spelled device inside) (by omega)⟩

/--
The handler reads and prints device by device; reading first and printing later is the
same.
-/
theorem collect_hwmonItem (devices : List Int) :
    (collect hwmonItem devices : ReadM σ τ (List CStr)) =
      (do
        let found ← collect readSensors devices
        pure (found.map fun device => hwmonObject device.1 device.2)) := by
  funext ctx sys console
  induction devices generalizing console with
  | nil => rfl
  | cons hwmon rest inductionHypothesis =>
      simp only [collect, ReadM.bind_run, ReadM.pure_run, hwmonItem, readSensors,
        inductionHypothesis, List.map_cons]

/-- `thermal hwmon`: no device has a second sensor, or there is nothing to list. -/
def thermalHwmonListReplies : Condition σ τ :=
  learn (enumIndexed "/sys/class/hwmon" "hwmon" 64) fun
    | none => always
    | some devices =>
        learn (collect readSensors devices) fun found =>
          decided (∀ device ∈ found, device.2.length ≤ 1)

/-- The numbered entries of a directory are read from the system alone. -/
theorem enumIndexed_reads (dir lead : CStr) (cap : Nat) :
    (enumIndexed dir lead cap : ReadM σ τ (Option (List Int))).Reads := by
  refine .bind (.listDir dir) fun names => ?_
  cases names <;> exact .pure _

/-- What the sensors of all devices answer decides. -/
theorem thermalHwmonList_replies :
    (thermalHwmonList true : ReadM σ τ Int).Replies thermalHwmonListReplies := by
  refine .learn (enumIndexed_reads _ _ _) fun found => ?_
  cases found with
  | none => exact refuse_replies _ (phrase rfl) _
  | some devices =>
      change ((do
        let items ← collect hwmonItem devices
        put (okEnvelope (arrayText items))
        pure 0 : ReadM σ τ Int)).Replies _
      rw [collect_hwmonItem]
      exact .learnWith (.collect readSensors_reads devices)
        (.collect fun hwmon _ => readSensors_yields hwmon) fun found spelled =>
        put_replies (hwmonArray_reply_iff spelled) 0

/-- `thermal hwmon fan`: a fan that is read or set ends in bare fields. -/
def thermalHwmonFanReplies (args : List CStr) (dryRun : Bool) : Condition σ τ :=
  match args with
  | hwmon :: fan :: rest =>
      match parseHwmonFan hwmon fan, rest with
      | none, _ => always
      | some (hw, fan), value :: _ =>
          orUser <|
            match parsePwm value with
            | none => always
            | some pwm =>
                written dryRun
                  (bounded 64 ("set hwmon".toList ++ showInt (toInt32 hw) ++ " fan".toList ++
                    showInt (toInt32 fan) ++ " pwm=".toList ++ showInt pwm))
                  (.thermalHwmonSetFanPwm (toInt32 hw) (toInt32 fan) pwm)
      | some (hw, fan), [] =>
          bothFail (.thermalHwmonGetFanPwm (toInt32 hw) (toInt32 fan))
            (.thermalHwmonGetFanAuto (toInt32 hw) (toInt32 fan))
  | _ => impossible

/-- Without a third word the fan is read, with one it is set. -/
theorem thermalHwmonFan_replies (args : List CStr) (dryRun : Bool) :
    (thermalHwmonFan args true dryRun : CliM σ τ Int).Replies
      (thermalHwmonFanReplies args dryRun) := by
  obtain _ | ⟨hwmon, _ | ⟨fan, rest⟩⟩ := args
  · exact .reading (cliUsage_replies _)
  · exact .reading (cliUsage_replies _)
  · unfold thermalHwmonFan thermalHwmonFanReplies
    dsimp only
    cases parseHwmonFan hwmon fan with
    | none => exact .reading (refuse_replies _ (phrase rfl) _)
    | some indices =>
        cases rest with
        | nil =>
            refine .reading (bothFail_replies (refuse_replies _ (phrase rfl) _)
              fun pwm auto answered => ?_)
            rw [if_neg (by cases pwm <;> cases auto <;> simp_all)]
            exact report_breaks (okBare_broken _ _) _
        | cons value others =>
            refine asRoot_replies ?_
            unfold hwmonSetFan
            cases parsePwm value with
            | none => exact .reading (refuse_replies _ (phrase rfl) _)
            | some pwm => exact write_replies _ _ _ _

/-- `thermal get`: the zone or the getter fails. -/
def thermalGetReplies : List CStr → Condition σ τ
  | [] => impossible
  | what :: rest =>
      match cliOpt "--zone" (what :: rest) with
      | none => always
      | some zone =>
          orError (.thermalOpen zone) fun tz =>
            if what = "temp" then fails (.thermalGetTemp tz)
            else if what = "type" then fails (.thermalGetType tz)
            else if what = "policy" then fails (.thermalGetPolicy tz)
            else if what = "mode" then fails (.thermalGetMode tz)
            else if what = "trips" then fails (.thermalGetTripCount tz)
            else if what = "cooling" then fails (.thermalGetCoolingCount tz)
            else impossible

/-- The parts are listed behind a bare field, so that only a failure is a reply. -/
theorem thermalGetParts_replies
    {β : Type} {zone key : CStr} {count : Query Int} {part : Int → Query β}
    {fields : β → List Field} {header : List CStr} {row : β → List CStr} :
    (thermalGetParts zone true count part key fields header row : ReadM σ τ Int).Replies
      (fails count) :=
  readOrErr_replies fun _ _ => .after
    (.collect fun i _ => (ReadM.Yields.queryOpt (part i)).weaken fun _ _ => trivial) fun _ _ =>
    put_replies (iff_false_intro (okBareArray_broken _ _ _ _)) 0

/-- The condition follows the targets of `thermal get`. -/
theorem thermalGet_replies (args : List CStr) :
    (thermalGet args true : ReadM σ τ Int).Replies (thermalGetReplies args) := by
  cases args with
  | nil => exact cliUsage_replies _
  | cons what rest =>
      unfold thermalGet thermalGetReplies
      dsimp only
      cases cliOpt "--zone" (what :: rest) with
      | none => exact refuse_replies _ (phrase rfl) _
      | some zone =>
          refine readOrErr_replies fun tz _ => .env fun env => ?_
          refine .ite (fun temp => ?_) fun other => .ite (fun type => ?_) fun other =>
            .ite (fun policy => ?_) fun other => .ite (fun mode => ?_) fun other =>
            .ite (fun trips => thermalGetParts_replies) fun other =>
            .ite (fun cooling => thermalGetParts_replies) fun unknown => cliUsage_replies _
          all_goals exact showBare_replies fun _ => List.cons_ne_nil _ _

/--
`thermal set`: an argument that does not parse, or a step in front of the setter, or the
setter.
-/
def thermalSetReplies (args : List CStr) (dryRun : Bool) : Condition σ τ :=
  match args with
  | what :: val :: rest =>
      match cliOpt "--zone" args with
      | none => always
      | some zone =>
          orUser <| orError (.thermalOpen zone) fun tz =>
            if what = "policy" then
              written dryRun
                (bounded 128 ("set policy=".toList ++ val ++ " zone=".toList ++ zone))
                (.thermalSetPolicy tz val)
            else if what = "mode" then
              match cliParseBool val with
              | none => always
              | some on =>
                  written dryRun
                    (bounded 128 ("set mode=".toList ++
                      (if on then "enabled" else "disabled").toList ++ " zone=".toList ++ zone))
                    (.thermalSetMode tz on)
            else if what = "cooling" then
              match rest with
              | state :: _ =>
                  match parseCooling val state with
                  | none => always
                  | some (index, state) =>
                      written dryRun
                        (bounded 128 ("set cooling[".toList ++ showInt index ++ "]=".toList ++
                          showInt state ++ " zone=".toList ++ zone))
                        (.thermalSetCoolingState tz (toInt32 index) (toInt32 state))
              | [] => impossible
            else impossible
  | _ => impossible

/-- The condition follows the targets of `thermal set`. -/
theorem thermalSet_replies (args : List CStr) (dryRun : Bool) :
    (thermalSet args true dryRun : CliM σ τ Int).Replies (thermalSetReplies args dryRun) := by
  obtain _ | ⟨what, _ | ⟨val, rest⟩⟩ := args
  · exact .reading (cliUsage_replies _)
  · exact .reading (cliUsage_replies _)
  · unfold thermalSet thermalSetReplies
    dsimp only
    cases cliOpt "--zone" (what :: val :: rest) with
    | none => exact .reading (refuse_replies _ (phrase rfl) _)
    | some zone =>
        refine asRoot_replies (openOrErr_replies fun tz => ?_)
        refine .ite (fun policy => write_replies _ _ _ _) fun other =>
          .ite (fun mode => ?_) fun other => .ite (fun cooling => ?_) fun unknown =>
          .reading (cliUsage_replies _)
        · unfold thermalSetMode
          cases cliParseBool val with
          | none => exact .reading (refuse_replies _ (phrase rfl) _)
          | some on => exact write_replies _ _ _ _
        · cases rest with
          | nil => exact .reading (cliUsage_replies _)
          | cons state others =>
              unfold thermalSetCooling
              dsimp only
              cases parseCooling val state with
              | none => exact .reading (refuse_replies _ (phrase rfl) _)
              | some target => exact write_replies _ _ _ _

/-- When `zenctl thermal` prints a reply. -/
def thermalReplies (args : List CStr) (dryRun : Bool) : Condition σ τ :=
  match args with
  | [] => impossible
  | sub :: rest =>
      if sub = "list" then always
      else if sub = "hwmon" then
        match rest with
        | [] => thermalHwmonListReplies
        | what :: others =>
            if what = "fan" then thermalHwmonFanReplies others dryRun else impossible
      else if sub = "get" then thermalGetReplies rest
      else if sub = "set" then thermalSetReplies rest dryRun
      else impossible

/-- The condition follows the subcommands of `thermal`. -/
theorem cmdThermal_replies (args : List CStr) (dryRun : Bool) :
    (cmdThermal args true dryRun : CliM σ τ Int).Replies (thermalReplies args dryRun) := by
  cases args with
  | nil => exact .reading (cliUsage_replies _)
  | cons sub rest =>
      refine .ite (fun list => .reading thermalList_replies) fun other => ?_
      refine .ite (fun hwmon => ?_) fun other => ?_
      · cases rest with
        | nil => exact .reading thermalHwmonList_replies
        | cons what others =>
            exact .ite (fun fan => thermalHwmonFan_replies others dryRun) fun unknown =>
              .reading (cliUsage_replies _)
      refine .ite (fun get => .reading (thermalGet_replies rest)) fun other => ?_
      exact .ite (fun set => thermalSet_replies rest dryRun) fun unknown =>
        .reading (cliUsage_replies _)

end Zenctl
