import Zenctl.DeviceReplies

namespace Zenctl

open CString Condition Json

/-!
# When the platform handlers print a reply

`power`, `usb`, `bt`, `wireless` and `firmware`, in the same way.
-/

variable {σ τ : Type}

/-! ## Power -/

/-- A number that is left out when it is not known. -/
theorem printable_knownInt {key : CStr} (ascii : isAscii key = true) (value : Int) :
    Printable (knownInt key value) :=
  printable_if (List.forall_mem_singleton.mpr (isUtf8_ascii ascii))

/-- A number that is left out when it is zero. -/
theorem printable_nonzeroInt {key : CStr} (ascii : isAscii key = true) (value : Int) :
    Printable (nonzeroInt key value) :=
  printable_if (List.forall_mem_singleton.mpr (isUtf8_ascii ascii))

/-- A text that is left out when it is empty. -/
theorem printable_nonemptyString
    {key value : CStr} (ascii : isAscii key = true) (spelled : IsUtf8 value) :
    Printable (nonemptyString key value) := by
  unfold nonemptyString
  split
  · exact List.forall_mem_nil _
  · exact List.forall_mem_singleton.mpr ⟨isUtf8_ascii ascii, spelled⟩

/-- The texts of a battery are answers of the library. -/
theorem batteryFields_printable
    {b : Battery} (spelled : ∀ text ∈ [b.name, b.status, b.technology], IsUtf8 text)
    (index : Int) :
    Printable (batteryFields b index) := by
  obtain ⟨name, status, technology⟩ : IsUtf8 b.name ∧ IsUtf8 b.status ∧ IsUtf8 b.technology := by
    simpa using spelled
  have head : Printable [.int "index" index, .string "name" b.name] :=
    (printable_plain rfl).mpr (List.forall_mem_singleton.mpr name)
  exact (((((((((head.append (printable_nonemptyString rfl status)).append
    (printable_knownInt rfl _)).append (printable_knownInt rfl _)).append
    (printable_knownInt rfl _)).append (printable_knownInt rfl _)).append
    (printable_nonzeroInt rfl _)).append (printable_nonzeroInt rfl _)).append
    (printable_knownInt rfl _)).append (printable_nonemptyString rfl technology))

/-- What the readable elements are, the fields that stand in an array are. -/
theorem indexed_printable
    {β : Type} {call : Int → Query β} {fields : β → Int → List Field}
    (printable : ∀ value index, (call index).Spells value → Printable (fields value index))
    (index : Int) :
    (do
      let value ← queryOpt (call index)
      pure (value.map fun value => fields value index) :
      ReadM σ τ (Option (List Field))).Yields fun item => ∀ fields ∈ item, Printable fields := by
  refine .bind (.queryOpt _) fun value spells => .pure ?_
  cases value with
  | none => exact fun _ none => nomatch none
  | some value =>
      intro fields same
      cases same
      exact printable value index (spells value rfl)

/-- An array whose commas are set by the index. -/
theorem indexed_replies
    {read : Int → ReadM σ τ (Option (List Field))} (reads : ∀ index, (read index).Reads)
    (yields : ∀ index, (read index).Yields fun item => ∀ fields ∈ item, Printable fields)
    (indices : List Int) :
    (do
      let items ← collect read indices
      put (okIndexedArray items)
      pure 0 : ReadM σ τ Int).Replies
      (learn (collect read indices) fun items => decided (StartsWithFirst items)) := by
  refine .learnWith (.collect reads indices)
    (.collect fun index _ => yields index) fun items printable => ?_
  exact put_replies (okIndexedArray_reply_iff fun fields inside => printable _ inside fields rfl) 0

/-- `power get battery`: the list starts with its first battery, or none is there. -/
def powerGetBatteryReplies (args : List CStr) : Condition σ τ :=
  match parseBatteryIndex args with
  | none => always
  | some index =>
      orError .powerBatteryCount fun count =>
        if 0 ≤ index then always
        else
          learn (collect batteryItem (countUp 0 count)) fun items =>
            decided (StartsWithFirst items)

/-- One battery is an object; the list sets its commas by the index. -/
theorem powerGetBattery_replies (args : List CStr) :
    (powerGetBattery args true : ReadM σ τ Int).Replies (powerGetBatteryReplies args) := by
  unfold powerGetBattery powerGetBatteryReplies
  cases parseBatteryIndex args with
  | none => exact refuse_replies _ (phrase rfl) _
  | some index =>
      refine readOrErr_replies fun count _ => .ite (fun _ => ?_) fun _ => ?_
      · exact readOrErr_always fun b spells =>
          object_replies (batteryFields_printable spells index) _
      · refine indexed_replies (fun _ => .bind (.queryOpt _) fun _ => .pure _) ?_ _
        refine indexed_printable fun b index spells => ?_
        exact batteryFields_printable spells index

/-- `power get charge-thresholds`: both getters of the battery fail. -/
def powerGetChargeThresholdsReplies (args : List CStr) : Condition σ τ :=
  match args with
  | _ :: text :: _ =>
      match (cliParseInt text).filter (0 ≤ ·) with
      | none => always
      | some index =>
          bothFail (.powerBatteryGetChargeStart (toInt32 index))
            (.powerBatteryGetChargeEnd (toInt32 index))
  | _ => always

/-- The pair is printed bare, when one of the two can be read. -/
theorem powerGetChargeThresholds_replies (args : List CStr) :
    (powerGetChargeThresholds args true : ReadM σ τ Int).Replies
      (powerGetChargeThresholdsReplies args) := by
  obtain _ | ⟨what, _ | ⟨text, rest⟩⟩ := args
  · exact refuse_replies _ (phrase rfl) _
  · exact refuse_replies _ (phrase rfl) _
  · unfold powerGetChargeThresholds powerGetChargeThresholdsReplies
    dsimp only
    cases (cliParseInt text).filter (0 ≤ ·) with
    | none => exact refuse_replies _ (phrase rfl) _
    | some index =>
        unfold bothFail
        refine .ask (fun first spelled => .ask (fun second other => ?_) fun stop _ => ?_)
          fun start _ => .ask (fun second _ => ?_) fun stop _ => ?_
        · have message : IsMessage (if first.code ≠ 0 then first else second).message := by
            split
            · exact spelled.message
            · exact other.message
          exact (cliErr_replies message).settle (iff_of_true trivial ⟨rfl, rfl⟩)
        · exact (report_breaks (okBare_broken _ _) _).settle
            (iff_of_false id fun both => nomatch both.2)
        · exact (report_breaks (okBare_broken _ _) _).settle
            (iff_of_false id fun both => nomatch both.1)
        · exact (report_breaks (okBare_broken _ _) _).settle
            (iff_of_false id fun both => nomatch both.1)

/-- A list of names. -/
theorem showNames_replies
    {call : Query (List CStr)} (own : ∀ names, call.texts names = names) :
    (showNames true call : ReadM σ τ Int).Replies always :=
  readOrErr_always fun names spells =>
    report_speaks ((names_reply_iff names).mpr fun name member =>
      spells name ((own names).symm ▸ member)) _

/-- `power get`: by its target. -/
def powerGetReplies : List CStr → Condition σ τ
  | [] => impossible
  | what :: rest =>
      if what = "states" then fails .powerGetSupportedStates
      else if what = "mem-sleep" then fails .powerGetMemSleepMode
      else if what = "battery" then powerGetBatteryReplies (what :: rest)
      else if what = "charge-thresholds" then powerGetChargeThresholdsReplies (what :: rest)
      else if what = "ac" then fails .powerAcOnline
      else if what = "wakeup" then always
      else impossible

/-- The list of states stands behind its key without braces. -/
theorem powerGetStates_replies :
    (powerGetStates true : ReadM σ τ Int).Replies (fails .powerGetSupportedStates) := by
  refine readOrErr_replies fun states _ => report_breaks ?_ _
  have key : "\"states\":".toList = outJsonEscape "states" ++ [':'] := rfl
  rw [key, List.append_assoc]
  exact bareKey_broken _ _

/-- The condition follows the targets of `power get`. -/
theorem powerGet_replies (args : List CStr) :
    (powerGet args true : ReadM σ τ Int).Replies (powerGetReplies args) := by
  cases args with
  | nil => exact cliUsage_replies _
  | cons what rest =>
      refine .ite (fun states => powerGetStates_replies) fun other => ?_
      refine .ite (fun memSleep => showBare_replies fun _ => List.cons_ne_nil _ _) fun other => ?_
      refine .ite (fun battery => powerGetBattery_replies _) fun other => ?_
      refine .ite (fun thresholds => powerGetChargeThresholds_replies _) fun other => ?_
      refine .ite (fun ac => showBare_replies fun _ => List.cons_ne_nil _ _) fun other => ?_
      exact .ite (fun wakeup => showNames_replies fun _ => rfl) fun unknown => cliUsage_replies _

/-- `power set`: an argument that is missing or does not parse, or the setter. -/
def powerSetReplies (args : List CStr) (dryRun : Bool) : Condition σ τ :=
  match args with
  | [] => impossible
  | what :: rest =>
      if what = "mem-sleep" then
        match rest with
        | mode :: _ =>
            orUser <| written dryRun (bounded 128 ("set mem_sleep=".toList ++ mode))
              (.powerSetMemSleepMode mode)
        | [] => always
      else if what = "charge-start" then powerSetChargeReplies rest dryRun true
      else if what = "charge-end" then powerSetChargeReplies rest dryRun false
      else impossible
where
  /-- Both thresholds, by the words behind their name. -/
  powerSetChargeReplies (words : List CStr) (dryRun isStart : Bool) : Condition σ τ :=
    match words with
    | index :: percent :: _ =>
        match parseCharge index percent with
        | none => always
        | some (index, percent) =>
            orUser <| written dryRun
              (bounded 128 ("set ".toList ++
                (if isStart then "charge_start" else "charge_end").toList ++
                " battery[".toList ++ showInt index ++ "]=".toList ++ showInt percent ++ ['%']))
              (if isStart then .powerBatterySetChargeStart (toInt32 index) percent
               else .powerBatterySetChargeEnd (toInt32 index) percent)
    | _ => always

/-- Both thresholds are set in one way. -/
theorem powerSetCharge_replies (what : CStr) (words : List CStr) (dryRun isStart : Bool) :
    (powerSetCharge (what :: words) true dryRun isStart : CliM σ τ Int).Replies
      (powerSetReplies.powerSetChargeReplies words dryRun isStart) := by
  obtain _ | ⟨index, _ | ⟨percent, rest⟩⟩ := words
  · exact .reading (refuse_replies _ (phrase rfl) _)
  · exact .reading (refuse_replies _ (phrase rfl) _)
  · unfold powerSetCharge powerSetReplies.powerSetChargeReplies
    dsimp only
    cases parseCharge index percent with
    | none => exact .reading (refuse_replies _ (phrase rfl) _)
    | some target => exact asRoot_replies (write_replies _ _ _ _)

/-- The condition follows the targets of `power set`. -/
theorem powerSet_replies (args : List CStr) (dryRun : Bool) :
    (powerSet args true dryRun : CliM σ τ Int).Replies (powerSetReplies args dryRun) := by
  cases args with
  | nil => exact .reading (cliUsage_replies _)
  | cons what rest =>
      refine .ite (fun memSleep => ?_) fun other => ?_
      · cases rest with
        | nil => exact .reading (refuse_replies _ (phrase rfl) _)
        | cons mode others => exact asRoot_replies (write_replies _ _ _ _)
      refine .ite (fun chargeStart => powerSetCharge_replies _ rest dryRun true) fun other => ?_
      exact .ite (fun chargeEnd => powerSetCharge_replies _ rest dryRun false) fun unknown =>
        .reading (cliUsage_replies _)

/-- `power suspend`: a state that is not known, no `--confirm`, or the setter. -/
def powerSuspendReplies (args : List CStr) (dryRun confirm : Bool) : Condition σ τ :=
  match args with
  | [] => impossible
  | name :: _ =>
      match parseSleepState name with
      | none => always
      | some state =>
          if confirm = false then always
          else
            orUser <| written dryRun (bounded 64 ("would suspend to ".toList ++ name))
              (.powerSuspend state)

/-- The confirmation is asked for in front of the root check. -/
theorem powerSuspend_replies (args : List CStr) (dryRun confirm : Bool) :
    (powerSuspend args true dryRun confirm : CliM σ τ Int).Replies
      (powerSuspendReplies args dryRun confirm) := by
  cases args with
  | nil => exact .reading (cliUsage_replies _)
  | cons name rest =>
      unfold powerSuspend powerSuspendReplies
      dsimp only
      cases parseSleepState name with
      | none => exact .reading (refuse_replies _ (phrase rfl) _)
      | some state =>
          exact .ite (fun _ => .reading (confirmRequired_replies (phrase rfl))) fun _ =>
            asRoot_replies (write_replies _ _ _ _)

/-- When `zenctl power` prints a reply. -/
def powerReplies (args : List CStr) (dryRun confirm : Bool) : Condition σ τ :=
  match args with
  | [] => impossible
  | sub :: rest =>
      if sub = "get" then powerGetReplies rest
      else if sub = "set" then powerSetReplies rest dryRun
      else if sub = "suspend" then powerSuspendReplies rest dryRun confirm
      else impossible

/-- The condition follows the subcommands of `power`. -/
theorem cmdPower_replies (args : List CStr) (dryRun confirm : Bool) :
    (cmdPower args true dryRun confirm : CliM σ τ Int).Replies
      (powerReplies args dryRun confirm) := by
  cases args with
  | nil => exact .reading (cliUsage_replies _)
  | cons sub rest =>
      refine .ite (fun get => .reading (powerGet_replies rest)) fun other => ?_
      refine .ite (fun set => powerSet_replies rest dryRun) fun other => ?_
      exact .ite (fun suspend => powerSuspend_replies rest dryRun confirm) fun unknown =>
        .reading (cliUsage_replies _)

/-! ## USB devices -/

/-- A listing of names, one object each. -/
theorem listEnumerated_replies
    {call : Query (List CStr)} {fields : CStr → ReadM σ τ (List Field)} {header : List CStr}
    {row : CStr → ReadM σ τ Unit} (own : ∀ names, call.texts names = names)
    (yields : ∀ name, IsUtf8 name → (fields name).Yields Printable) :
    (listEnumerated true call fields header row).Replies always :=
  readOrErr_always fun names spells =>
    okArray_replies (fun name member => yields name (spells name ((own names).symm ▸ member))) 0

/-- A device that cannot be opened is listed by its name alone. -/
theorem usbListFields_yields {dev : CStr} (spelled : IsUtf8 dev) :
    (usbListFields dev : ReadM σ τ (List Field)).Yields Printable :=
  have head : Printable [.string "dev" dev] :=
    (printable_plain rfl).mpr (List.forall_mem_singleton.mpr spelled)
  .answer (.pure head) fun _ _ =>
    .bind (asciiField_yields fun _ => rfl) fun _ vid =>
    .bind (asciiField_yields fun _ => rfl) fun _ pid =>
    .bind (stringField_yields (fun _ => rfl) rfl) fun _ manufacturer =>
    .bind (stringField_yields (fun _ => rfl) rfl) fun _ product =>
    .bind (stringField_yields (fun _ => rfl) rfl) fun _ speed =>
    .pure (((((head.append vid).append pid).append manufacturer).append product).append speed)

/-- `usb get`: the device or the getter fails. -/
def usbGetReplies : List CStr → Condition σ τ
  | what :: dev :: _ =>
      orError (.usbOpen dev) fun u =>
        if what = "power" then fails (.usbGetPowerControl u)
        else if what = "autosuspend" then fails (.usbGetAutosuspendDelay u)
        else if what = "authorized" then fails (.usbGetAuthorized u)
        else if what = "wakeup" then fails (.usbGetWakeup u)
        else impossible
  | _ => impossible

/-- Every getter of a USB device is shown by itself. -/
theorem usbGet_replies (args : List CStr) :
    (usbGet args true : ReadM σ τ Int).Replies (usbGetReplies args) := by
  obtain _ | ⟨what, _ | ⟨dev, rest⟩⟩ := args
  · exact cliUsage_replies _
  · exact cliUsage_replies _
  · refine readOrErr_replies fun u _ => ?_
    refine .ite (fun power => ?_) fun other => .ite (fun autosuspend => ?_) fun other =>
      .ite (fun authorized => ?_) fun other => .ite (fun wakeup => ?_) fun unknown =>
      cliUsage_replies _
    all_goals exact showBare_replies fun _ => List.cons_ne_nil _ _

/-- A change of a USB device: announced in a dry run, else the device or the setter fails. -/
def usbWriteReplies (dev : CStr) (dryRun : Bool) (wouldDo : CStr) (call : UsbHandle → Update) :
    Condition σ τ :=
  if dryRun then decided (Quotable wouldDo)
  else orError (.usbOpen dev) fun u => refused (call u)

/-- The announcement comes in front of the look for the device. -/
theorem usbWrite_replies
    (dev : CStr) (dryRun : Bool) (wouldDo : CStr) (call : UsbHandle → Update) (done : List Field)
    (lines : ReadM σ τ Unit) :
    (usbWrite dev true dryRun wouldDo call done lines).Replies
      (usbWriteReplies dev dryRun wouldDo call) :=
  .ite (fun _ => .reading (announce_replies _)) fun _ =>
    openOrErr_replies fun _ => setOrErr_replies _ _

/-- The mode is one of two words. -/
def usbSetPowerReplies (words : List CStr) (dryRun : Bool) : Condition σ τ :=
  match words with
  | mode :: dev :: _ =>
      if mode ≠ "auto" ∧ mode ≠ "on" then always
      else
        orUser <| usbWriteReplies dev dryRun
          (bounded 128 ("set power=".toList ++ mode ++ " dev=".toList ++ dev))
          fun u => .usbSetPowerControl u mode
  | _ => impossible

/-- A mode that is neither word is refused in an error object. -/
theorem usbSetPower_replies (what : CStr) (words : List CStr) (dryRun : Bool) :
    (usbSetPower (what :: words) true dryRun : CliM σ τ Int).Replies
      (usbSetPowerReplies words dryRun) := by
  obtain _ | ⟨mode, _ | ⟨dev, rest⟩⟩ := words
  · exact .reading (cliUsage_replies _)
  · exact .reading (cliUsage_replies _)
  · exact .ite (fun _ => .reading (refuse_replies _ (phrase rfl) _)) fun _ =>
      asRoot_replies (usbWrite_replies _ _ _ _ _ _)

/-- The delay is a number. -/
def usbSetAutosuspendReplies (words : List CStr) (dryRun : Bool) : Condition σ τ :=
  match words with
  | dev :: text :: _ =>
      match cliParseInt text with
      | none => always
      | some ms =>
          orUser <| usbWriteReplies dev dryRun
            (bounded 128 ("set autosuspend dev=".toList ++ dev ++ " ms=".toList ++ showInt ms))
            fun u => .usbSetAutosuspendDelay u (toInt32 ms)
  | _ => impossible

/-- A text that is no number is refused in an error object. -/
theorem usbSetAutosuspend_replies (what : CStr) (words : List CStr) (dryRun : Bool) :
    (usbSetAutosuspend (what :: words) true dryRun : CliM σ τ Int).Replies
      (usbSetAutosuspendReplies words dryRun) := by
  obtain _ | ⟨dev, _ | ⟨text, rest⟩⟩ := words
  · exact .reading (cliUsage_replies _)
  · exact .reading (cliUsage_replies _)
  · unfold usbSetAutosuspend usbSetAutosuspendReplies
    dsimp only
    cases cliParseInt text with
    | none => exact .reading (refuse_replies _ (phrase rfl) _)
    | some ms => exact asRoot_replies (usbWrite_replies _ _ _ _ _ _)

/-- Taking a device its authorization wants `--confirm`. -/
def usbSetAuthorizedReplies (words : List CStr) (dryRun confirm : Bool) : Condition σ τ :=
  match words with
  | dev :: value :: _ =>
      match cliParseBool value with
      | none => always
      | some on =>
          orUser <|
            if on = false ∧ confirm = false then always
            else
              usbWriteReplies dev dryRun
                (bounded 128 ("set authorized=".toList ++ (if on then "on" else "off").toList ++
                  " dev=".toList ++ dev))
                fun u => .usbSetAuthorized u on
  | _ => impossible

/-- The confirmation is asked for behind the root check. -/
theorem usbSetAuthorized_replies (what : CStr) (words : List CStr) (dryRun confirm : Bool) :
    (usbSetAuthorized (what :: words) true dryRun confirm : CliM σ τ Int).Replies
      (usbSetAuthorizedReplies words dryRun confirm) := by
  obtain _ | ⟨dev, _ | ⟨value, rest⟩⟩ := words
  · exact .reading (cliUsage_replies _)
  · exact .reading (cliUsage_replies _)
  · unfold usbSetAuthorized usbSetAuthorizedReplies
    dsimp only
    cases cliParseBool value with
    | none => exact .reading (refuse_replies _ (phrase rfl) _)
    | some on =>
        refine asRoot_replies (.ite (fun asked => ?_) fun settled => usbWrite_replies _ _ _ _ _ _)
        exact .reading (confirmRequired_replies (phrase rfl))

/-- The wakeup is a switch. -/
def usbSetWakeupReplies (words : List CStr) (dryRun : Bool) : Condition σ τ :=
  match words with
  | dev :: value :: _ =>
      match cliParseBool value with
      | none => always
      | some on =>
          orUser <| usbWriteReplies dev dryRun
            (bounded 128 ("set wakeup=".toList ++ (if on then "on" else "off").toList ++
              " dev=".toList ++ dev))
            fun u => .usbSetWakeup u on
  | _ => impossible

/-- A text that is no switch is refused in an error object. -/
theorem usbSetWakeup_replies (what : CStr) (words : List CStr) (dryRun : Bool) :
    (usbSetWakeup (what :: words) true dryRun : CliM σ τ Int).Replies
      (usbSetWakeupReplies words dryRun) := by
  obtain _ | ⟨dev, _ | ⟨value, rest⟩⟩ := words
  · exact .reading (cliUsage_replies _)
  · exact .reading (cliUsage_replies _)
  · unfold usbSetWakeup usbSetWakeupReplies
    dsimp only
    cases cliParseBool value with
    | none => exact .reading (refuse_replies _ (phrase rfl) _)
    | some on => exact asRoot_replies (usbWrite_replies _ _ _ _ _ _)

/-- When `zenctl usb` prints a reply. -/
def usbReplies (args : List CStr) (dryRun confirm : Bool) : Condition σ τ :=
  match args with
  | [] => impossible
  | sub :: rest =>
      if sub = "list" then always
      else if sub = "get" then usbGetReplies rest
      else if sub = "set" then
        match rest with
        | [] => impossible
        | what :: words =>
            if what = "power" then usbSetPowerReplies words dryRun
            else if what = "autosuspend" then usbSetAutosuspendReplies words dryRun
            else if what = "authorized" then usbSetAuthorizedReplies words dryRun confirm
            else if what = "wakeup" then usbSetWakeupReplies words dryRun
            else impossible
      else if sub = "reset" then
        match rest with
        | [] => impossible
        | dev :: _ =>
            orUser <| usbWriteReplies dev dryRun (bounded 64 ("reset dev=".toList ++ dev)) .usbReset
      else impossible

/-- The condition follows the subcommands of `usb`. -/
theorem cmdUsb_replies (args : List CStr) (dryRun confirm : Bool) :
    (cmdUsb args true dryRun confirm : CliM σ τ Int).Replies (usbReplies args dryRun confirm) := by
  cases args with
  | nil => exact .reading (cliUsage_replies _)
  | cons sub rest =>
      refine .ite (fun list => .reading ?_) fun other => ?_
      · exact listEnumerated_replies (fun _ => rfl) fun _ => usbListFields_yields
      refine .ite (fun get => .reading (usbGet_replies rest)) fun other => ?_
      refine .ite (fun set => ?_) fun other => ?_
      · cases rest with
        | nil => exact .reading (cliUsage_replies _)
        | cons what words =>
            refine .ite (fun power => usbSetPower_replies what words dryRun) fun other => ?_
            refine .ite (fun autosuspend => ?_) fun other => ?_
            · exact usbSetAutosuspend_replies what words dryRun
            refine .ite (fun authorized => ?_) fun other => ?_
            · exact usbSetAuthorized_replies what words dryRun confirm
            exact .ite (fun wakeup => usbSetWakeup_replies what words dryRun) fun unknown =>
              .reading (cliUsage_replies _)
      refine .ite (fun reset => ?_) fun unknown => .reading (cliUsage_replies _)
      cases rest with
      | nil => exact .reading (cliUsage_replies _)
      | cons dev others => exact asRoot_replies (usbWrite_replies _ _ _ _ _ _)

/-! ## Radios -/

/-- `set power` of a radio: the radio or the setter fails, or the dry run is announced. -/
def radioSetPowerReplies {H : Type} (args : List CStr) (dryRun : Bool) (key : CStr)
    (openCall : CStr → Query H) (call : H → Bool → Update) : Condition σ τ :=
  match args with
  | what :: name :: value :: _ =>
      if what ≠ "power" then impossible
      else
        match cliParseBool value with
        | none => always
        | some on =>
            orUser <| orError (openCall name) fun handle =>
              written dryRun
                (bounded 128 ("set power=".toList ++ (if on then "on" else "off").toList ++
                  ' ' :: (key ++ '=' :: name)))
                (call handle on)
  | _ => impossible

/-- The radio is opened in front of the announcement. -/
theorem radioSetPower_replies
    {H : Type} (args : List CStr) (dryRun : Bool) (usage context key : CStr)
    (openCall : CStr → Query H) (call : H → Bool → Update) :
    (radioSetPower args true dryRun usage context key openCall call : CliM σ τ Int).Replies
      (radioSetPowerReplies args dryRun key openCall call) := by
  obtain _ | ⟨what, _ | ⟨name, _ | ⟨value, rest⟩⟩⟩ := args
  · exact .reading (cliUsage_replies _)
  · exact .reading (cliUsage_replies _)
  · exact .reading (cliUsage_replies _)
  · refine .ite (fun _ => .reading (cliUsage_replies _)) fun _ => ?_
    cases cliParseBool value with
    | none => exact .reading (refuse_replies _ (phrase rfl) _)
    | some on => exact asRoot_replies (openOrErr_replies fun _ => write_replies _ _ _ _)

/-- An adapter that cannot be opened is listed by its name alone. -/
theorem btListFields_yields {adapter : CStr} (spelled : IsUtf8 adapter) :
    (btListFields adapter : ReadM σ τ (List Field)).Yields Printable :=
  have head : Printable [.string "adapter" adapter] :=
    (printable_plain rfl).mpr (List.forall_mem_singleton.mpr spelled)
  .answer (.pure head) fun _ _ =>
    .bind (asciiField_yields fun _ => rfl) fun _ powered =>
    .bind (stringField_yields (fun _ => rfl) rfl) fun _ address =>
    .pure ((head.append powered).append address)

/-- When `zenctl bt` prints a reply. -/
def btReplies (args : List CStr) (dryRun : Bool) : Condition σ τ :=
  match args with
  | [] => impossible
  | sub :: rest =>
      if sub = "list" then always
      else if sub = "get" then
        match rest with
        | what :: adapter :: _ =>
            orError (.btOpen adapter) fun bt =>
              if what = "power" then fails (.btGetPowered bt)
              else if what = "address" then fails (.btGetAddress bt)
              else impossible
        | _ => impossible
      else if sub = "set" then radioSetPowerReplies rest dryRun "adapter" .btOpen .btSetPowered
      else impossible

/-- The condition follows the subcommands of `bt`. -/
theorem cmdBt_replies (args : List CStr) (dryRun : Bool) :
    (cmdBt args true dryRun : CliM σ τ Int).Replies (btReplies args dryRun) := by
  cases args with
  | nil => exact .reading (cliUsage_replies _)
  | cons sub rest =>
      refine .ite (fun list => .reading ?_) fun other => ?_
      · exact listEnumerated_replies (fun _ => rfl) fun _ => btListFields_yields
      refine .ite (fun get => .reading ?_) fun other => ?_
      · obtain _ | ⟨what, _ | ⟨adapter, others⟩⟩ := rest
        · exact cliUsage_replies _
        · exact cliUsage_replies _
        · refine readOrErr_replies fun bt _ => ?_
          refine .ite (fun power => ?_) fun other => .ite (fun address => ?_) fun unknown =>
            cliUsage_replies _
          all_goals exact showBare_replies fun _ => List.cons_ne_nil _ _
      exact .ite (fun set => radioSetPower_replies _ _ _ _ _ _ _) fun unknown =>
        .reading (cliUsage_replies _)

/-- A radio that cannot be opened is listed by its name alone. -/
theorem wirelessListFields_yields {phy : CStr} (spelled : IsUtf8 phy) :
    (wirelessListFields phy : ReadM σ τ (List Field)).Yields Printable :=
  have head : Printable [.string "phy" phy] :=
    (printable_plain rfl).mpr (List.forall_mem_singleton.mpr spelled)
  .answer (.pure head) fun _ _ =>
    .bind (asciiField_yields fun _ => rfl) fun _ powered =>
    .bind (stringField_yields (fun _ => rfl) rfl) fun _ regdomain =>
    .pure ((head.append powered).append regdomain)

/-- When `zenctl wireless` prints a reply. -/
def wirelessReplies (args : List CStr) (dryRun : Bool) : Condition σ τ :=
  match args with
  | [] => impossible
  | sub :: rest =>
      if sub = "list" then always
      else if sub = "get" then
        match rest with
        | what :: phy :: _ =>
            orError (.wirelessOpen phy) fun wl =>
              if what = "power" then fails (.wirelessGetRfkillBlocked wl)
              else if what = "regdomain" then fails (.wirelessGetRegdomain wl)
              else impossible
        | _ => impossible
      else if sub = "set" then
        radioSetPowerReplies rest dryRun "phy" .wirelessOpen fun wl on =>
          .wirelessSetRfkillBlocked wl !on
      else impossible

/-- The condition follows the subcommands of `wireless`. -/
theorem cmdWireless_replies (args : List CStr) (dryRun : Bool) :
    (cmdWireless args true dryRun : CliM σ τ Int).Replies (wirelessReplies args dryRun) := by
  cases args with
  | nil => exact .reading (cliUsage_replies _)
  | cons sub rest =>
      refine .ite (fun list => .reading ?_) fun other => ?_
      · exact listEnumerated_replies (fun _ => rfl) fun _ => wirelessListFields_yields
      refine .ite (fun get => .reading ?_) fun other => ?_
      · obtain _ | ⟨what, _ | ⟨phy, others⟩⟩ := rest
        · exact cliUsage_replies _
        · exact cliUsage_replies _
        · refine readOrErr_replies fun wl _ => ?_
          refine .ite (fun power => ?_) fun other => .ite (fun regdomain => ?_) fun unknown =>
            cliUsage_replies _
          all_goals exact showBare_replies fun _ => List.cons_ne_nil _ _
      exact .ite (fun set => radioSetPower_replies _ _ _ _ _ _ _) fun unknown =>
        .reading (cliUsage_replies _)

/-! ## Firmware -/

/-- The payload of a table or a variable stands among bare fields. -/
theorem showPayload_replies
    {call : Query (List Char)} {fields : List Char → List Field}
    (nonempty : ∀ data, fields data ≠ []) :
    (showPayload true call fields : ReadM σ τ Int).Replies (fails call) := by
  refine readOrErr_replies fun data _ => report_breaks ?_ _
  obtain ⟨field, rest, shape⟩ := List.exists_cons_of_ne_nil (nonempty data)
  rw [shape]
  simp only [List.append_assoc]
  exact bareFields_broken _ _ _

/-- `firmware dmi`: every field is asked for, or the field fails. -/
def fwDmiReplies (args : List CStr) : Condition σ τ :=
  if args.contains "--all".toList then always
  else
    match args with
    | [] => impossible
    | field :: _ => fails (.fwDmiGet field)

/-- What can be read of the fields stands in one object. -/
theorem fwDmi_replies (args : List CStr) :
    (fwDmi args true : ReadM σ τ Int).Replies (fwDmiReplies args) := by
  refine .ite (fun _ => ?_) fun _ => ?_
  · have names : ∀ field ∈ dmiFields, isAscii field = true :=
      List.all_eq_true.mp rfl
    refine .after
      (.collect fun field member => stringField_yields (fun _ => rfl) (names field member))
      fun found printable => put_replies (iff_true_intro (okObject_reply ?_)) 0
    intro field member
    obtain ⟨fields, inside, here⟩ := List.mem_flatten.mp member
    exact printable fields inside field here
  · cases args with
    | nil => exact cliUsage_replies _
    | cons field rest => exact showBare_replies fun _ => List.cons_ne_nil _ _

/-- `efi set`: the payload cannot be read, or the setter fails. -/
def fwEfiSetReplies (args : List CStr) (dryRun : Bool) : Condition σ τ :=
  match args with
  | name :: guid :: file :: _ =>
      orUser <| learn (readPayloadFile file) fun
        | .error _ => always
        | .ok data =>
            written dryRun
              (bounded 160 ("set efi ".toList ++ name ++ '-' :: (guid ++ " <= ".toList ++ file ++
                " (".toList ++ showNat data.length ++ " bytes)".toList)))
              (.fwEfiSet name guid efiVarAttributes data)
  | _ => impossible

/-- The payload is read from the system alone. -/
theorem readPayloadFile_reads (file : CStr) : (readPayloadFile file : ReadM σ τ _).Reads := by
  refine .bind (.readFile file) fun content => ?_
  cases content <;> exact .pure _

/-- The reason of the system is the message. -/
theorem readPayloadFile_yields (file : CStr) :
    (readPayloadFile file : ReadM σ τ _).Yields
      (Answers (fun err => IsMessage err.message) fun _ => True) :=
  .file (fun _ known => .pure (cliMakeErr_message known _ _)) fun _ => .pure trivial

/-- The payload is read in front of the announcement. -/
theorem fwEfiSet_replies (args : List CStr) (dryRun : Bool) :
    (fwEfiSet args true dryRun : CliM σ τ Int).Replies (fwEfiSetReplies args dryRun) := by
  obtain _ | ⟨name, _ | ⟨guid, _ | ⟨file, rest⟩⟩⟩ := args
  · exact .reading (cliUsage_replies _)
  · exact .reading (cliUsage_replies _)
  · exact .reading (cliUsage_replies _)
  · refine asRoot_replies (.learnWith (readPayloadFile_reads file) (readPayloadFile_yields file)
      fun answer known => ?_)
    cases answer with
    | error err => exact .reading (cliErr_replies known)
    | ok data => exact write_replies _ _ _ _

/-- `efi delete`: no `--confirm`, or the setter fails. -/
def fwEfiDeleteReplies (args : List CStr) (dryRun confirm : Bool) : Condition σ τ :=
  match args with
  | name :: guid :: _ =>
      orUser <|
        if confirm = false then always
        else
          written dryRun (bounded 160 ("delete efi ".toList ++ name ++ '-' :: guid))
            (.fwEfiDelete name guid)
  | _ => impossible

/-- The confirmation is asked for behind the root check. -/
theorem fwEfiDelete_replies (args : List CStr) (dryRun confirm : Bool) :
    (fwEfiDelete args true dryRun confirm : CliM σ τ Int).Replies
      (fwEfiDeleteReplies args dryRun confirm) := by
  obtain _ | ⟨name, _ | ⟨guid, rest⟩⟩ := args
  · exact .reading (cliUsage_replies _)
  · exact .reading (cliUsage_replies _)
  · exact asRoot_replies (.ite (fun _ => .reading (confirmRequired_replies (phrase rfl))) fun _ =>
      write_replies _ _ _ _)

/-- `firmware efi`, by its subcommand. -/
def fwEfiReplies (args : List CStr) (dryRun confirm : Bool) : Condition σ τ :=
  match args with
  | [] => impossible
  | sub :: rest =>
      if sub = "list" then always
      else if sub = "get" then
        match rest with
        | name :: guid :: _ => fails (.fwEfiGet name guid)
        | _ => impossible
      else if sub = "set" then fwEfiSetReplies rest dryRun
      else if sub = "delete" then fwEfiDeleteReplies rest dryRun confirm
      else impossible

/-- The names and guids of the listing are answers of the library. -/
theorem fwEfi_replies (args : List CStr) (dryRun confirm : Bool) :
    (fwEfi args true dryRun confirm : CliM σ τ Int).Replies (fwEfiReplies args dryRun confirm) := by
  cases args with
  | nil => exact .reading (cliUsage_replies _)
  | cons sub rest =>
      refine .ite (fun list => .reading ?_) fun other => .ite (fun get => .reading ?_) fun other =>
        .ite (fun set => fwEfiSet_replies rest dryRun) fun other =>
        .ite (fun delete => fwEfiDelete_replies rest dryRun confirm) fun unknown =>
        .reading (cliUsage_replies _)
      · refine readOrErr_always fun vars spells => report_speaks (okArray_reply ?_) _
        refine List.forall_mem_map.mpr fun var member => ?_
        refine (printable_plain rfl).mpr fun text own => ?_
        exact spells text (List.mem_flatMap.mpr ⟨var, member, own⟩)
      · obtain _ | ⟨name, _ | ⟨guid, others⟩⟩ := rest
        · exact cliUsage_replies _
        · exact cliUsage_replies _
        · exact showPayload_replies fun _ => List.cons_ne_nil _ _

/-- `firmware acpi`, by its subcommand. -/
def fwAcpiReplies (args : List CStr) : Condition σ τ :=
  match args with
  | [] => impossible
  | sub :: rest =>
      if sub = "list" then always
      else if sub = "get" then
        match rest with
        | [] => impossible
        | name :: _ => fails (.fwAcpiGetTable name)
      else impossible

/-- The names of the tables are answers of the library. -/
theorem fwAcpi_replies (args : List CStr) :
    (fwAcpi args true : ReadM σ τ Int).Replies (fwAcpiReplies args) := by
  cases args with
  | nil => exact cliUsage_replies _
  | cons sub rest =>
      refine .ite (fun list => showNames_replies fun _ => rfl) fun other => ?_
      refine .ite (fun get => ?_) fun unknown => cliUsage_replies _
      cases rest with
      | nil => exact cliUsage_replies _
      | cons name others => exact showPayload_replies fun _ => List.cons_ne_nil _ _

/-- The strings of a setting are valid UTF-8, whatever index it was read at. -/
abbrev BiosSetting.Spelled (s : BiosSetting) : Prop :=
  ∀ text ∈ [s.name, s.type, s.currentValue, s.defaultValue, s.displayName], IsUtf8 text

/-- Texts that are empty are left out. -/
theorem biosFields_printable {s : BiosSetting} (spelled : s.Spelled) :
    Printable (biosFields s) := by
  obtain ⟨name, type, current, default, display⟩ :
      IsUtf8 s.name ∧ IsUtf8 s.type ∧ IsUtf8 s.currentValue ∧ IsUtf8 s.defaultValue ∧
        IsUtf8 s.displayName := by
    simpa [BiosSetting.Spelled] using spelled
  have head : Printable [.string "name" s.name] :=
    (printable_plain rfl).mpr (List.forall_mem_singleton.mpr name)
  exact (((head.append (printable_nonemptyString rfl type)).append
    (printable_nonemptyString rfl current)).append (printable_nonemptyString rfl default)).append
    (printable_nonemptyString rfl display)

/-- The setting that is found is an answer of the library. -/
theorem findSetting_yields (want : CStr) (indices : List Int) :
    (findSetting want indices : ReadM σ τ (Option BiosSetting)).Yields fun found =>
      ∀ s ∈ found, s.Spelled := by
  have none : ∀ s ∈ (none : Option BiosSetting), s.Spelled := fun _ member => nomatch member
  induction indices with
  | nil => exact .pure none
  | cons index rest inductionHypothesis =>
      refine .answer inductionHypothesis fun s spelled => .ite (fun _ => .pure ?_)
        fun _ => inductionHypothesis
      intro found same
      exact Option.some.inj same ▸ spelled

/-- `firmware bios`: the listing sets its commas by the index. -/
def fwBiosReplies (args : List CStr) (dryRun : Bool) : Condition σ τ :=
  match args with
  | [] => impossible
  | sub :: rest =>
      if sub = "list" then
        orError .fwBiosSettingCount fun count =>
          learn (collect biosItem (countUp 0 count)) fun items => decided (StartsWithFirst items)
      else if sub = "get" then decided (rest ≠ [])
      else if sub = "set" then
        match rest with
        | name :: val :: _ =>
            orUser <| written dryRun
              (bounded 160 ("set bios ".toList ++ name ++ '=' :: (val ++
                (if (cliOpt "--password" rest).isSome then " (with password)" else "").toList)))
              (.fwBiosSetSetting name val (cliOpt "--password" rest))
        | _ => impossible
      else impossible

/-- A setting that is not found is refused in an error object. -/
theorem fwBiosGet_replies (args : List CStr) :
    (fwBiosGet args true : ReadM σ τ Int).Replies (decided (args ≠ [])) := by
  cases args with
  | nil => exact (cliUsage_replies _).settle (iff_of_false id fun some => some rfl)
  | cons want rest =>
      refine ReadM.Replies.settle (readOrErr_always fun count _ => ?_)
        (iff_of_true trivial (List.cons_ne_nil want rest))
      refine .after (findSetting_yields want _) fun found spelled => ?_
      cases found with
      | none => exact refuse_replies _ (phrase rfl) _
      | some s => exact object_replies (biosFields_printable (spelled s rfl)) _

/-- The condition follows the subcommands of `firmware bios`. -/
theorem fwBios_replies (args : List CStr) (dryRun : Bool) :
    (fwBios args true dryRun : CliM σ τ Int).Replies (fwBiosReplies args dryRun) := by
  cases args with
  | nil => exact .reading (cliUsage_replies _)
  | cons sub rest =>
      refine .ite (fun list => .reading ?_) fun other =>
        .ite (fun get => .reading (fwBiosGet_replies rest)) fun other =>
        .ite (fun set => ?_) fun unknown => .reading (cliUsage_replies _)
      · refine readOrErr_replies fun count _ => indexed_replies
          (fun _ => .bind (.queryOpt _) fun _ => .pure _) ?_ _
        refine indexed_printable fun s index spelled => ?_
        exact biosFields_printable spelled
      · obtain _ | ⟨name, _ | ⟨val, others⟩⟩ := rest
        · exact .reading (cliUsage_replies _)
        · exact .reading (cliUsage_replies _)
        · exact asRoot_replies (write_replies _ _ _ _)

/-- When `zenctl firmware` prints a reply. -/
def firmwareReplies (args : List CStr) (dryRun confirm : Bool) : Condition σ τ :=
  match args with
  | [] => impossible
  | sub :: rest =>
      if sub = "dmi" then fwDmiReplies rest
      else if sub = "efi" then fwEfiReplies rest dryRun confirm
      else if sub = "acpi" then fwAcpiReplies rest
      else if sub = "bios" then fwBiosReplies rest dryRun
      else impossible

/-- The condition follows the subcommands of `firmware`. -/
theorem cmdFirmware_replies (args : List CStr) (dryRun confirm : Bool) :
    (cmdFirmware args true dryRun confirm : CliM σ τ Int).Replies
      (firmwareReplies args dryRun confirm) := by
  cases args with
  | nil => exact .reading (cliUsage_replies _)
  | cons sub rest =>
      refine .ite (fun dmi => .reading (fwDmi_replies rest)) fun other => ?_
      refine .ite (fun efi => fwEfi_replies rest dryRun confirm) fun other => ?_
      refine .ite (fun acpi => .reading (fwAcpi_replies rest)) fun other => ?_
      exact .ite (fun bios => fwBios_replies rest dryRun) fun unknown =>
        .reading (cliUsage_replies _)

end Zenctl
