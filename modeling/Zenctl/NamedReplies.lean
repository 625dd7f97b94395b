import Zenctl.PlainReplies

namespace Zenctl

open CString Condition Json

/-!
# When the handlers of a named device print a reply

`storage`, `net` and `pcie` take the device from an option and repeat its name
in what they print; their listings repeat the names of a directory.  As with
`cpu` and `mem` every path ends in an object, so that only these texts decide.
-/

variable {σ τ : Type}

/-! ## Devices -/

/-- A device that is not named or cannot be opened is reported in an error object. -/
def readDeviceReplies {H : Type} (option : CStr) (openCall : CStr → Query H) (args : List CStr)
    (good : CStr → H → Condition σ τ) : Condition σ τ :=
  match deviceArg option args with
  | none => always
  | some dev => orError (openCall dev) (good dev)

/-- The getter fails, or the name of the device is valid UTF-8. -/
def shownFor {β : Type} (dev : CStr) (call : Query β) : Condition σ τ :=
  orError call fun _ => spelled [dev]

/-- A getter on the device the arguments name. -/
theorem readDevice_replies
    {H : Type} {option missing noOpen : CStr} {openCall : CStr → Query H}
    {reader : CStr → H → ReadM σ τ Int} {good : CStr → H → Condition σ τ}
    (unnamed : IsMessage missing) (unopened : IsMessage noOpen)
    (replies : ∀ dev handle, (reader dev handle).Replies (good dev handle)) (args : List CStr) :
    (readDevice option missing noOpen openCall args true reader).Replies
      (readDeviceReplies option openCall args good) := by
  unfold readDevice readDeviceReplies
  cases deviceArg option args with
  | none => exact fail_replies unnamed
  | some dev =>
      exact .ask (fun _ spelled => failWith_replies spelled unopened) fun handle _ =>
        replies dev handle

/-- A getter in an object that names the device. -/
theorem shownFor_replies
    {β : Type} {call : Query β} {key dev noRead : CStr} {others : β → List Field}
    {lines : β → ReadM σ τ Unit} {next : Except Err β → ReadM σ τ Int}
    (failed : ∀ err, next (.error err) = failWith true (some err) noRead)
    (answered : ∀ value, next (.ok value) =
      report true (okObject ([.string key dev] ++ others value)) (lines value))
    (unread : IsMessage noRead) (ascii : isAscii key = true)
    (printable : ∀ value, call.Spells value → Printable (others value)) :
    (query call >>= next).Replies (shownFor dev call) := by
  have plain : [Field.string key dev].all Field.isPlain = true :=
    (Bool.and_true _).trans ascii
  unfold shownFor
  refine .ask (fun err spelled => ?_) fun value spells => ?_
  · rw [failed]
    exact failWith_replies spelled unread
  · rw [answered]
    exact object_spelled plain (printable value spells) _

/-- A change: announced with the words of the command line, or the device or the setter fails. -/
def writeDeviceReplies {H : Type} (openCall : Query H) (dryRun : Bool) (words : List CStr)
    (call : H → Update) : Condition σ τ :=
  if dryRun then spelled words
  else orError openCall fun handle => refusedOr (call handle) words

/-- The device and the value of a change must both be there. -/
def changeReplies (option : CStr) (args : List CStr) (good : CStr → CStr → Condition σ τ) :
    Condition σ τ :=
  match deviceArg option args, positionalArg args 0 with
  | some dev, some value => good dev value
  | _, _ => always

/-- A setter on the device: the words announced are the words reported. -/
theorem writeDevice_replies
    {H : Type} {openCall : Query H} {noOpen wouldDo fallback action : CStr} {dryRun : Bool}
    {announced done : List Field} {words : List CStr} {lines : ReadM σ τ Unit} {call : H → Update}
    (unopened : IsMessage noOpen) (unset : IsMessage fallback)
    (announcedPlain : announced.all Field.isPlain = true)
    (donePlain : done.all Field.isPlain = true) (ascii : isAscii action = true)
    (announcedTexts : announced.flatMap Field.texts = action :: words)
    (doneTexts : done.flatMap Field.texts = words) :
    (writeDevice openCall noOpen true dryRun announced done wouldDo call fallback lines).Replies
      (writeDeviceReplies openCall dryRun words call) := by
  subst doneTexts
  refine .ite (fun _ => .reading (report_replies ?_ _)) fun _ =>
    .ask (fun _ spelled => .reading (failWith_replies spelled unopened)) fun _ _ =>
      setOr_spelled unset donePlain
  have dryPlain : (Field.bool "dry_run" true :: announced).all Field.isPlain = true := by
    rw [List.all_cons, announcedPlain]
    rfl
  have texts : (Field.bool "dry_run" true :: announced).flatMap Field.texts =
      action :: done.flatMap Field.texts :=
    announcedTexts
  rw [okObject_reply_iff dryPlain, texts, List.forall_mem_cons]
  exact and_iff_right (isUtf8_ascii ascii)

/-- The names the listing keeps are valid UTF-8. -/
def listReplies (path : CStr) (filter : CStr → Bool) : Condition σ τ :=
  learn (cmdListDir path filter) fun
    | none => always
    | some names => spelled names

/-- Listing a directory leaves the console alone. -/
theorem cmdListDir_reads (path : CStr) (filter : CStr → Bool) :
    (cmdListDir path filter : ReadM σ τ (Option (List CStr))).Reads := by
  refine .bind (.listDir path) fun names => ?_
  cases names <;> exact .pure _

/-- The names of a directory, behind their count. -/
theorem listCommand_replies
    {path message key header : CStr} {filter : CStr → Bool}
    (known : IsMessage message) (ascii : isAscii key = true) :
    (listCommand path message key header filter true : ReadM σ τ Int).Replies
      (listReplies path filter) := by
  refine .learn (cmdListDir_reads path filter) fun names => ?_
  cases names with
  | none => exact fail_replies known
  | some names =>
      refine report_replies ?_ _
      have count : [Field.int "count" names.length].all Field.isPlain = true := rfl
      refine (okObjectThen_reply_iff count ascii (names_derive names)).trans ?_
      exact (and_iff_right (List.forall_mem_nil _)).trans (isUtf8_names names)

/-! ## Storage -/

/-- `storage get`: the device, its name, and a getter each. -/
def storageGetReplies : List CStr → Condition σ τ
  | [] => always
  | what :: rest =>
      if what = "scheduler" then
        readDeviceReplies "--dev" .storageOpen rest fun dev st =>
          shownFor dev (.storageGetScheduler st)
      else if what = "queue-depth" then
        readDeviceReplies "--dev" .storageOpen rest fun dev st =>
          shownFor dev (.storageGetQueueDepth st)
      else if what = "read-ahead" then
        readDeviceReplies "--dev" .storageOpen rest fun dev st =>
          shownFor dev (.storageGetReadAhead st)
      else if what = "cache-type" then
        readDeviceReplies "--dev" .storageOpen rest fun dev st =>
          shownFor dev (.storageGetCacheType st)
      else if what = "stats" then
        readDeviceReplies "--dev" .storageOpen rest fun dev st =>
          shownFor dev (.storageGetIoStats st)
      else if what = "power" then
        readDeviceReplies "--dev" .storageOpen rest fun dev st =>
          shownFor dev (.storageGetPowerControl st)
      else unknown "unknown storage get target '" what
        "'. Valid: scheduler, queue-depth, read-ahead, cache-type, stats, power"

/-- The name of the cache type and its number. -/
theorem cacheType_printable (type : CacheType) :
    Printable [.string "cache_type" (cacheTypeStr type), .int "cache_type_id" type.id] := by
  cases type <;> exact printable_ascii rfl

/-- The list of schedulers is added when it can be read. -/
theorem stGetScheduler_replies (args : List CStr) :
    (stGetScheduler args true : ReadM σ τ Int).Replies
      (readDeviceReplies "--dev" .storageOpen args fun dev st =>
        shownFor dev (.storageGetScheduler st)) := by
  refine readDevice_replies (phrase rfl) (phrase rfl) (fun dev st => ?_) _
  unfold shownFor
  -- the schedulers are asked for before the current one is looked at
  refine .ask (fun _ spelled => .after (.query _) fun _ _ => failWith_replies spelled (phrase rfl))
    fun scheduler spells => .after (.query _) fun list others => ?_
  have own : Printable [.string "scheduler" scheduler] := printable_string rfl spells
  have plain : [Field.string "device" dev].all Field.isPlain = true := rfl
  cases list with
  | error err => exact object_spelled plain own _
  | ok available => exact object_spelled plain (own.append (printable_string rfl others)) _

/-- The counters stand in an object of their own, behind the device. -/
theorem stGetStats_replies (args : List CStr) :
    (stGetStats args true : ReadM σ τ Int).Replies
      (readDeviceReplies "--dev" .storageOpen args fun dev st =>
        shownFor dev (.storageGetIoStats st)) := by
  refine readDevice_replies (phrase rfl) (phrase rfl) (fun dev st => ?_) _
  unfold shownFor
  refine .ask (fun _ spelled => failWith_replies spelled (phrase rfl)) fun stats _ =>
    report_replies ?_ _
  have value := objectText_value (printable_ascii rfl : Printable (ioStatsFields stats))
  have plain : [Field.string "device" dev].all Field.isPlain = true := rfl
  exact (okObjectThen_reply_iff plain rfl value.derived).trans (and_iff_left value.spelled)

/-- The condition follows the targets of `storage get`. -/
theorem cmdStorageGet_replies (args : List CStr) :
    (cmdStorageGet args true : ReadM σ τ Int).Replies (storageGetReplies args) := by
  cases args with
  | nil => exact fail_replies (phrase rfl)
  | cons what rest =>
      refine .ite (fun scheduler => stGetScheduler_replies rest) fun other =>
        .ite (fun queueDepth => ?_) fun other => .ite (fun readAhead => ?_) fun other =>
        .ite (fun cacheType => ?_) fun other =>
        .ite (fun stats => stGetStats_replies rest) fun other =>
        .ite (fun power => ?_) fun unknown => unknownWord_replies _ _ _
      all_goals
        refine readDevice_replies (phrase rfl) (phrase rfl) (fun dev st => ?_) _
        refine shownFor_replies (fun _ => rfl) (fun _ => rfl) (phrase rfl) rfl
          fun value spells => ?_
      · exact printable_ascii rfl
      · exact printable_ascii rfl
      · exact cacheType_printable value
      · exact printable_string rfl spells

/-- The device and the name of the scheduler are repeated. -/
def stSetSchedulerReplies (args : List CStr) (dryRun : Bool) : Condition σ τ :=
  changeReplies "--dev" args fun dev sched =>
    writeDeviceReplies (.storageOpen dev) dryRun [dev, sched] fun st =>
      .storageSetScheduler st sched

/-- The number is printed as it was read, so that only the device is repeated. -/
def stSetReadAheadReplies (args : List CStr) (dryRun : Bool) : Condition σ τ :=
  changeReplies "--dev" args fun dev text =>
    match (wholeInt text).filter (0 ≤ ·) with
    | none => always
    | some kb =>
        writeDeviceReplies (.storageOpen dev) dryRun [dev] fun st => .storageSetReadAhead st kb

/-- The device and the word for the cache type are repeated. -/
def stSetCacheTypeReplies (args : List CStr) (dryRun : Bool) : Condition σ τ :=
  changeReplies "--dev" args fun dev text =>
    match cacheTypeParse text with
    | none => always
    | some type =>
        writeDeviceReplies (.storageOpen dev) dryRun [dev, text] fun st =>
          .storageSetCacheType st type

/-- The device and the mode are repeated, and the mode is one of two words. -/
def stSetPowerReplies (args : List CStr) (dryRun : Bool) : Condition σ τ :=
  changeReplies "--dev" args fun dev mode =>
    if mode ≠ "auto".toList ∧ mode ≠ "on".toList then always
    else
      writeDeviceReplies (.storageOpen dev) dryRun [dev, mode] fun st =>
        .storageSetPowerControl st mode

/-- `storage set`: the words of a change that is announced or made are repeated. -/
def storageSetReplies (args : List CStr) (dryRun : Bool) : Condition σ τ :=
  match args with
  | [] => always
  | what :: rest =>
      if what = "scheduler" then stSetSchedulerReplies rest dryRun
      else if what = "read-ahead" then stSetReadAheadReplies rest dryRun
      else if what = "cache-type" then stSetCacheTypeReplies rest dryRun
      else if what = "power" then stSetPowerReplies rest dryRun
      else unknown "unknown storage set target '" what
        "'. Valid: scheduler, read-ahead, cache-type, power"

/-- Any name is handed on to the device. -/
theorem stSetScheduler_replies (args : List CStr) (dryRun : Bool) :
    (stSetScheduler args true dryRun : CliM σ τ Int).Replies
      (stSetSchedulerReplies args dryRun) := by
  unfold stSetScheduler stSetSchedulerReplies changeReplies
  cases deviceArg "--dev" args with
  | none => exact failing_replies (phrase rfl)
  | some dev =>
      cases positionalArg args 0 with
      | none => exact failing_replies (phrase rfl)
      | some sched => exact writeDevice_replies (phrase rfl) (phrase rfl) rfl rfl rfl rfl rfl

/-- A text that is no number is refused in an error object. -/
theorem stSetReadAhead_replies (args : List CStr) (dryRun : Bool) :
    (stSetReadAhead args true dryRun : CliM σ τ Int).Replies
      (stSetReadAheadReplies args dryRun) := by
  unfold stSetReadAhead stSetReadAheadReplies changeReplies
  cases deviceArg "--dev" args with
  | none => exact failing_replies (phrase rfl)
  | some dev =>
      cases positionalArg args 0 with
      | none => exact failing_replies (phrase rfl)
      | some text =>
          dsimp only
          cases (wholeInt text).filter (0 ≤ ·) with
          | none => exact failing_replies (phrase rfl)
          | some kb => exact writeDevice_replies (phrase rfl) (phrase rfl) rfl rfl rfl rfl rfl

/-- A word that is no cache type is refused in an error object. -/
theorem stSetCacheType_replies (args : List CStr) (dryRun : Bool) :
    (stSetCacheType args true dryRun : CliM σ τ Int).Replies
      (stSetCacheTypeReplies args dryRun) := by
  unfold stSetCacheType stSetCacheTypeReplies changeReplies
  cases deviceArg "--dev" args with
  | none => exact failing_replies (phrase rfl)
  | some dev =>
      cases positionalArg args 0 with
      | none => exact failing_replies (phrase rfl)
      | some text =>
          dsimp only
          cases cacheTypeParse text with
          | none => exact failing_replies (phrase rfl)
          | some type => exact writeDevice_replies (phrase rfl) (phrase rfl) rfl rfl rfl rfl rfl

/-- A mode that is neither word is refused in an error object. -/
theorem stSetPower_replies (args : List CStr) (dryRun : Bool) :
    (stSetPower args true dryRun : CliM σ τ Int).Replies (stSetPowerReplies args dryRun) := by
  unfold stSetPower stSetPowerReplies changeReplies
  cases deviceArg "--dev" args with
  | none => exact failing_replies (phrase rfl)
  | some dev =>
      cases positionalArg args 0 with
      | none => exact failing_replies (phrase rfl)
      | some mode =>
          exact .ite (fun _ => failing_replies (phrase rfl)) fun _ =>
            writeDevice_replies (phrase rfl) (phrase rfl) rfl rfl rfl rfl rfl

/-- The condition follows the targets of `storage set`. -/
theorem cmdStorageSet_replies (args : List CStr) (dryRun : Bool) :
    (cmdStorageSet args true dryRun : CliM σ τ Int).Replies (storageSetReplies args dryRun) := by
  cases args with
  | nil => exact failing_replies (phrase rfl)
  | cons what rest =>
      refine .ite (fun scheduler => stSetScheduler_replies rest dryRun) fun other => ?_
      refine .ite (fun readAhead => stSetReadAhead_replies rest dryRun) fun other => ?_
      refine .ite (fun cacheType => stSetCacheType_replies rest dryRun) fun other => ?_
      exact .ite (fun power => stSetPower_replies rest dryRun) fun unknown =>
        .reading (unknownWord_replies _ _ _)

/-- When `zenctl storage` prints a reply. -/
def storageReplies (args : List CStr) (dryRun : Bool) : Condition σ τ :=
  match args with
  | [] => always
  | sub :: rest =>
      if sub = "list" then listReplies "/sys/block" plainEntryFilter
      else if sub = "get" then storageGetReplies rest
      else if sub = "set" then storageSetReplies rest dryRun
      else unknown "unknown storage subcommand '" sub "'. Try: list, get, set"

/-- The condition follows the subcommands of `storage`. -/
theorem cmdStorage_replies (args : List CStr) (dryRun : Bool) :
    (cmdStorage args true dryRun : CliM σ τ Int).Replies (storageReplies args dryRun) := by
  cases args with
  | nil => exact failing_replies (phrase rfl)
  | cons sub rest =>
      refine .ite (fun list => .reading (listCommand_replies (phrase rfl) rfl)) fun other => ?_
      refine .ite (fun get => .reading (cmdStorageGet_replies rest)) fun other => ?_
      exact .ite (fun set => cmdStorageSet_replies rest dryRun) fun unknown =>
        .reading (unknownWord_replies _ _ _)

/-! ## Network interfaces -/

/-- Both getters fail, or the words that are repeated are valid UTF-8. -/
def bothFailOr {α β : Type} (first : Query α) (second : Query β) (words : List CStr) :
    Condition σ τ :=
  ask first fun a => ask second fun b =>
    decided ((a.toOption = none ∧ b.toOption = none) ∨ ∀ word ∈ words, IsUtf8 word)

/-- Two getters of which one is enough, with the words of the command line in front. -/
theorem bothFailOr_replies
    {α β : Type} {first : Query α} {second : Query β} {words : List CStr}
    {next : Except Err α → Except Err β → ReadM σ τ Int}
    (failed : ∀ one other : Err, other.Spelled →
      (next (.error one) (.error other)).Replies always)
    (answered : ∀ a b, Answers Err.Spelled first.Spells a → Answers Err.Spelled second.Spells b →
      a.toOption ≠ none ∨ b.toOption ≠ none → (next a b).Replies (spelled words)) :
    (do
      let a ← query first
      let b ← query second
      next a b : ReadM σ τ Int).Replies (bothFailOr first second words) := by
  unfold bothFailOr ask
  refine .learnWith (.query first) (.query first) fun a aOk =>
    .learnWith (.query second) (.query second) fun b bOk => ?_
  by_cases none : a.toOption = .none ∧ b.toOption = .none
  · obtain _ | a := a
    · obtain _ | b := b
      · exact (failed _ _ bOk).settle (iff_of_true trivial (.inl none))
      · cases none.2
    · cases none.1
  · exact (answered a b aOk bOk (Decidable.not_and_iff_not_or_not.mp none)).settle
      (or_iff_right none).symm

/-- A getter whose failure counts as zero prints nothing. -/
theorem intOrZero_yields (call : Query Int) :
    (intOrZero call : ReadM σ τ Int).Yields fun _ => True :=
  .answer (.pure trivial) fun _ _ => .pure trivial

/-- A getter whose failure counts as off prints nothing. -/
theorem boolOrFalse_yields (call : Query Bool) :
    (boolOrFalse call : ReadM σ τ Bool).Yields fun _ => True :=
  .answer (.pure trivial) fun _ _ => .pure trivial

/-- `net get`: the interface, its name, and a getter each. -/
def netGetReplies : List CStr → Condition σ τ
  | [] => always
  | what :: rest =>
      if what = "ring" then
        readDeviceReplies "--iface" .netOpen rest fun iface net =>
          bothFailOr (.netGetRingRx net) (.netGetRingTx net) [iface]
      else if what = "offload" then
        readDeviceReplies "--iface" .netOpen rest fun iface _ => spelled [iface]
      else if what = "link" then
        readDeviceReplies "--iface" .netOpen rest fun iface _ => spelled [iface]
      else if what = "mtu" then
        readDeviceReplies "--iface" .netOpen rest fun iface net => shownFor iface (.netGetMtu net)
      else if what = "irq" then
        readDeviceReplies "--iface" .netOpen rest fun iface net => shownFor iface (.netGetIrq net)
      else unknown "unknown net get target '" what "'. Valid: ring, offload, link, mtu, irq"

/-- The largest sizes are added when they are known. -/
theorem netGetRing_replies (args : List CStr) :
    (netGetRing args true : ReadM σ τ Int).Replies
      (readDeviceReplies "--iface" .netOpen args fun iface net =>
        bothFailOr (.netGetRingRx net) (.netGetRingTx net) [iface]) := by
  refine readDevice_replies (phrase rfl) (phrase rfl) (fun iface net => ?_) _
  refine bothFailOr_replies (fun _ _ spelled => ?_) fun rx tx _ _ one => ?_
  · exact .after (intOrZero_yields _) fun _ _ => .after (intOrZero_yields _) fun _ _ =>
      failWith_replies spelled (phrase rfl)
  · refine .after (intOrZero_yields _) fun rxMax _ => .after (intOrZero_yields _) fun txMax _ => ?_
    have fields : ∀ rxNow txNow, Printable ([.int "rx" rxNow, .int "tx" txNow] ++
        (if 0 < rxMax then [.int "rx_max" rxMax] else []) ++
        (if 0 < txMax then [.int "tx_max" txMax] else [])) := fun _ _ =>
      .append (.append (printable_ascii rfl) (printable_if (printable_ascii rfl)))
        (printable_if (printable_ascii rfl))
    have plain : [Field.string "iface" iface].all Field.isPlain = true := rfl
    cases rx with
    | ok rxNow => cases tx <;> exact object_spelled plain (fields _ _) _
    | error first =>
        cases tx with
        | ok txNow => exact object_spelled plain (fields _ _) _
        | error second => exact absurd one (by simp [Except.toOption])

/-- A switch that cannot be read counts as off, so the getter never fails. -/
theorem netGetOffload_replies (args : List CStr) :
    (netGetOffload args true : ReadM σ τ Int).Replies
      (readDeviceReplies "--iface" .netOpen args fun iface _ => spelled [iface]) := by
  refine readDevice_replies (phrase rfl) (phrase rfl) (fun iface net => ?_) _
  have plain : [Field.string "iface" iface].all Field.isPlain = true := rfl
  exact .after (boolOrFalse_yields _) fun _ _ => .after (boolOrFalse_yields _) fun _ _ =>
    .after (boolOrFalse_yields _) fun _ _ => .after (boolOrFalse_yields _) fun _ _ =>
    .after (boolOrFalse_yields _) fun _ _ => object_spelled plain (printable_ascii rfl) _

/-- What cannot be read of the link is left out. -/
theorem netGetLink_replies (args : List CStr) :
    (netGetLink args true : ReadM σ τ Int).Replies
      (readDeviceReplies "--iface" .netOpen args fun iface _ => spelled [iface]) := by
  refine readDevice_replies (phrase rfl) (phrase rfl) (fun iface net => .after (.query _)
    fun speed _ => .after (.query _) fun duplex spells => .after (.query _) fun link _ => ?_) _
  have plain : [Field.string "iface" iface].all Field.isPlain = true := rfl
  refine object_spelled plain (.append (.append ?_ ?_) ?_) _
  · cases link
    · exact printable_nil
    · exact printable_ascii rfl
  · cases speed
    · exact printable_nil
    · exact printable_ascii rfl
  · cases duplex
    · exact printable_nil
    · exact printable_string rfl spells

/-- The affinity is added when it can be read. -/
theorem netGetIrq_replies (args : List CStr) :
    (netGetIrq args true : ReadM σ τ Int).Replies
      (readDeviceReplies "--iface" .netOpen args fun iface net =>
        shownFor iface (.netGetIrq net)) := by
  refine readDevice_replies (phrase rfl) (phrase rfl) (fun iface net => ?_) _
  unfold shownFor
  refine .ask (fun _ spelled => .after (.query _) fun _ _ => failWith_replies spelled (phrase rfl))
    fun irq _ => .after (.query _) fun mask spells => ?_
  have plain : [Field.string "iface" iface].all Field.isPlain = true := rfl
  have number : Printable [.int "irq" irq] := printable_ascii rfl
  cases mask with
  | error err => exact object_spelled plain number _
  | ok mask => exact object_spelled plain (number.append (printable_string rfl spells)) _

/-- The condition follows the targets of `net get`. -/
theorem cmdNetGet_replies (args : List CStr) :
    (cmdNetGet args true : ReadM σ τ Int).Replies (netGetReplies args) := by
  cases args with
  | nil => exact fail_replies (phrase rfl)
  | cons what rest =>
      refine .ite (fun ring => netGetRing_replies rest) fun other => ?_
      refine .ite (fun offload => netGetOffload_replies rest) fun other => ?_
      refine .ite (fun link => netGetLink_replies rest) fun other => ?_
      refine .ite (fun mtu => ?_) fun other => ?_
      · exact readDevice_replies (phrase rfl) (phrase rfl) (fun _ _ => shownFor_replies
          (fun _ => rfl) (fun _ => rfl) (phrase rfl) rfl fun _ _ => printable_ascii rfl) _
      exact .ite (fun irq => netGetIrq_replies rest) fun unknown => unknownWord_replies _ _ _

/-- `net set ring`: the ring and its size are numbers and words of the handler. -/
def netSetRingReplies (args : List CStr) (dryRun : Bool) : Condition σ τ :=
  match deviceArg "--iface" args with
  | none => always
  | some iface =>
      match ringChoice args with
      | .error _ => always
      | .ok (isTx, sizeText) =>
          match (wholeInt sizeText).filter (0 ≤ ·) with
          | none => always
          | some n =>
              writeDeviceReplies (.netOpen iface) dryRun
                [iface, if isTx then "tx".toList else "rx".toList]
                fun net => if isTx then .netSetRingTx net (toInt32 n)
                  else .netSetRingRx net (toInt32 n)

/-- `net set offload`: the flag is looked up after the interface has been opened. -/
def netSetOffloadReplies (args : List CStr) (dryRun : Bool) : Condition σ τ :=
  match deviceArg "--iface" args with
  | none => always
  | some iface =>
      match positionalArg args 0, positionalArg args 1 with
      | some flag, some word =>
          if word ≠ "on".toList ∧ word ≠ "off".toList then always
          else if dryRun then spelled [iface, flag]
          else
            orError (.netOpen iface) fun net =>
              match parseOffload flag with
              | none => always
              | some offload =>
                  refusedOr (.netSetOffload net offload (word = "on".toList)) [iface, flag]
      | _, _ => always

/-- The number is printed as it was read, so that only the interface is repeated. -/
def netSetMtuReplies (args : List CStr) (dryRun : Bool) : Condition σ τ :=
  changeReplies "--iface" args fun iface text =>
    match (wholeInt text).filter (fun v => 68 ≤ v ∧ v ≤ 65536) with
    | none => always
    | some mtu =>
        writeDeviceReplies (.netOpen iface) dryRun [iface] fun net => .netSetMtu net (toInt32 mtu)

/-- The interface and the mask are repeated. -/
def netSetIrqAffinityReplies (args : List CStr) (dryRun : Bool) : Condition σ τ :=
  changeReplies "--iface" args fun iface mask =>
    writeDeviceReplies (.netOpen iface) dryRun [iface, mask] fun net =>
      .netSetIrqAffinity net mask

/-- `net set`: the words of a change that is announced or made are repeated. -/
def netSetReplies (args : List CStr) (dryRun : Bool) : Condition σ τ :=
  match args with
  | [] => always
  | what :: rest =>
      if what = "ring" then netSetRingReplies rest dryRun
      else if what = "offload" then netSetOffloadReplies rest dryRun
      else if what = "mtu" then netSetMtuReplies rest dryRun
      else if what = "irq-affinity" then netSetIrqAffinityReplies rest dryRun
      else unknown "unknown net set target '" what "'. Valid: ring, offload, mtu, irq-affinity"

/-- The two refusals of the ring option are texts of the handler. -/
theorem netSetRing_replies (args : List CStr) (dryRun : Bool) :
    (netSetRing args true dryRun : CliM σ τ Int).Replies (netSetRingReplies args dryRun) := by
  have messages : ∀ message, ringChoice args = .error message → IsMessage message := by
    intro message refused
    unfold ringChoice at refused
    split at refused
    · split_ifs at refused
      cases refused
      exact phrase rfl
    · cases refused
    · cases refused
      exact phrase rfl
  unfold netSetRing netSetRingReplies
  cases deviceArg "--iface" args with
  | none => exact failing_replies (phrase rfl)
  | some iface =>
      cases choice : ringChoice args with
      | error message => exact failing_replies (messages message choice)
      | ok chosen =>
          obtain ⟨isTx, sizeText⟩ := chosen
          dsimp only
          cases (wholeInt sizeText).filter (0 ≤ ·) with
          | none => exact failing_replies (phrase rfl)
          | some n =>
              cases isTx
              · exact writeDevice_replies (phrase rfl) (phrase rfl) rfl rfl rfl rfl rfl
              · exact writeDevice_replies (phrase rfl) (phrase rfl) rfl rfl rfl rfl rfl

/-- The dry run comes in front of the look at the name. -/
theorem netSetOffload_replies (args : List CStr) (dryRun : Bool) :
    (netSetOffload args true dryRun : CliM σ τ Int).Replies
      (netSetOffloadReplies args dryRun) := by
  unfold netSetOffload netSetOffloadReplies
  cases deviceArg "--iface" args with
  | none => exact failing_replies (phrase rfl)
  | some iface =>
      cases positionalArg args 0 with
      | none => exact failing_replies (phrase rfl)
      | some flag =>
          cases positionalArg args 1 with
          | none => exact failing_replies (phrase rfl)
          | some word =>
              refine .ite (fun noSwitch => failing_replies (phrase rfl)) fun switch => ?_
              refine .ite (fun dry => ?_) fun applied => ?_
              · have lead : (∀ text ∈ ["set_offload".toList, iface, flag], IsUtf8 text) ↔
                    ∀ text ∈ [iface, flag], IsUtf8 text :=
                  List.forall_mem_cons.trans (and_iff_right (phrase rfl).spelled)
                refine .reading (report_replies ?_ _)
                exact (okObject_reply_iff rfl).trans lead
              · refine .ask (fun err spelled => .reading (failWith_replies spelled (phrase rfl)))
                  fun net _ => ?_
                dsimp only
                cases parseOffload flag with
                | none => exact failing_replies (phrase rfl)
                | some offload => exact setOr_spelled (phrase rfl) rfl

/-- A number out of range is refused in an error object. -/
theorem netSetMtu_replies (args : List CStr) (dryRun : Bool) :
    (netSetMtu args true dryRun : CliM σ τ Int).Replies (netSetMtuReplies args dryRun) := by
  unfold netSetMtu netSetMtuReplies changeReplies
  cases deviceArg "--iface" args with
  | none => exact failing_replies (phrase rfl)
  | some iface =>
      cases positionalArg args 0 with
      | none => exact failing_replies (phrase rfl)
      | some text =>
          dsimp only
          cases (wholeInt text).filter (fun v => 68 ≤ v ∧ v ≤ 65536) with
          | none => exact failing_replies (phrase rfl)
          | some mtu => exact writeDevice_replies (phrase rfl) (phrase rfl) rfl rfl rfl rfl rfl

/-- Any mask is handed on to the interface. -/
theorem netSetIrqAffinity_replies (args : List CStr) (dryRun : Bool) :
    (netSetIrqAffinity args true dryRun : CliM σ τ Int).Replies
      (netSetIrqAffinityReplies args dryRun) := by
  unfold netSetIrqAffinity netSetIrqAffinityReplies changeReplies
  cases deviceArg "--iface" args with
  | none => exact failing_replies (phrase rfl)
  | some iface =>
      cases positionalArg args 0 with
      | none => exact failing_replies (phrase rfl)
      | some mask => exact writeDevice_replies (phrase rfl) (phrase rfl) rfl rfl rfl rfl rfl

/-- The condition follows the targets of `net set`. -/
theorem cmdNetSet_replies (args : List CStr) (dryRun : Bool) :
    (cmdNetSet args true dryRun : CliM σ τ Int).Replies (netSetReplies args dryRun) := by
  cases args with
  | nil => exact failing_replies (phrase rfl)
  | cons what rest =>
      refine .ite (fun ring => netSetRing_replies rest dryRun) fun other => ?_
      refine .ite (fun offload => netSetOffload_replies rest dryRun) fun other => ?_
      refine .ite (fun mtu => netSetMtu_replies rest dryRun) fun other => ?_
      exact .ite (fun irqAffinity => netSetIrqAffinity_replies rest dryRun) fun unknown =>
        .reading (unknownWord_replies _ _ _)

/-- When `zenctl net` prints a reply. -/
def netReplies (args : List CStr) (dryRun : Bool) : Condition σ τ :=
  match args with
  | [] => always
  | sub :: rest =>
      if sub = "list" then listReplies "/sys/class/net" plainEntryFilter
      else if sub = "get" then netGetReplies rest
      else if sub = "set" then netSetReplies rest dryRun
      else unknown "unknown net subcommand '" sub "'. Try: list, get, set"

/-- The condition follows the subcommands of `net`. -/
theorem cmdNet_replies (args : List CStr) (dryRun : Bool) :
    (cmdNet args true dryRun : CliM σ τ Int).Replies (netReplies args dryRun) := by
  cases args with
  | nil => exact failing_replies (phrase rfl)
  | cons sub rest =>
      refine .ite (fun list => .reading (listCommand_replies (phrase rfl) rfl)) fun other => ?_
      refine .ite (fun get => .reading (cmdNetGet_replies rest)) fun other => ?_
      exact .ite (fun set => cmdNetSet_replies rest dryRun) fun unknown =>
        .reading (unknownWord_replies _ _ _)

/-! ## PCI devices and capabilities -/

/-- A device without a group is reported as one that has none, with its address. -/
def pcieGetIommuReplies (args : List CStr) : Condition σ τ :=
  readDeviceReplies "--addr" .pcieOpen args fun addr p =>
    ask (.pcieGetIommuGroup p) fun
      | .error err => if err.code = Err.enoent then spelled [addr] else always
      | .ok _ => spelled [addr]

/-- `pcie get`: the device, its address, and a getter each. -/
def pcieGetReplies : List CStr → Condition σ τ
  | [] => always
  | what :: rest =>
      if what = "link" then
        readDeviceReplies "--addr" .pcieOpen rest fun addr p =>
          bothFailOr (.pcieGetLinkSpeed p) (.pcieGetLinkWidth p) [addr]
      else if what = "power" then
        readDeviceReplies "--addr" .pcieOpen rest fun addr p =>
          shownFor addr (.pcieGetPowerControl p)
      else if what = "iommu" then pcieGetIommuReplies rest
      else if what = "numa" then
        readDeviceReplies "--addr" .pcieOpen rest fun addr p => shownFor addr (.pcieGetNumaNode p)
      else if what = "info" then
        readDeviceReplies "--addr" .pcieOpen rest fun addr p => shownFor addr (.pcieGetVendorId p)
      else if what = "aspm" then always
      else unknown "unknown pcie get target '" what
        "'. Valid: link, power, iommu, numa, info, aspm"

/-- One of speed and width is enough; the largest ones are added when they are known. -/
theorem pcieGetLink_replies (args : List CStr) :
    (pcieGetLink args true : ReadM σ τ Int).Replies
      (readDeviceReplies "--addr" .pcieOpen args fun addr p =>
        bothFailOr (.pcieGetLinkSpeed p) (.pcieGetLinkWidth p) [addr]) := by
  refine readDevice_replies (phrase rfl) (phrase rfl) (fun addr p => ?_) _
  refine bothFailOr_replies (fun _ _ spelled => ?_) fun speed width speedOk _ one => ?_
  · exact .after (.query _) fun _ _ => .after (intOrZero_yields _) fun _ _ =>
      failWith_replies spelled (phrase rfl)
  · refine .after (.query _) fun maxSpeed maxOk => .after (intOrZero_yields _) fun maxWidth _ => ?_
    have plain : [Field.string "address" addr].all Field.isPlain = true := rfl
    cases speed with
    | ok speed =>
        refine object_spelled plain
          (.append (.append (.append (printable_string rfl speedOk) ?_) ?_) (printable_ascii rfl)) _
        · cases width
          · exact printable_nil
          · exact printable_ascii rfl
        · cases maxSpeed
          · exact printable_nil
          · exact printable_string rfl maxOk
    | error first =>
        cases width with
        | error second => exact absurd one (by simp [Except.toOption])
        | ok width =>
            refine object_spelled plain (.append (.append (.append printable_nil
              (printable_ascii rfl : Printable [.int "current_link_width" width])) ?_)
              (printable_ascii rfl)) _
            cases maxSpeed
            · exact printable_nil
            · exact printable_string rfl maxOk

/-- Whether D3cold is allowed is added when it can be read. -/
theorem pcieGetPower_replies (args : List CStr) :
    (pcieGetPower args true : ReadM σ τ Int).Replies
      (readDeviceReplies "--addr" .pcieOpen args fun addr p =>
        shownFor addr (.pcieGetPowerControl p)) := by
  refine readDevice_replies (phrase rfl) (phrase rfl) (fun addr p => ?_) _
  unfold shownFor
  refine .ask (fun _ spelled => .after (.query _) fun _ _ => failWith_replies spelled (phrase rfl))
    fun mode spells => .after (.query _) fun d3cold _ => ?_
  have plain : [Field.string "address" addr].all Field.isPlain = true := rfl
  have power : Printable [.string "power" mode] := printable_string rfl spells
  cases d3cold with
  | error err => exact object_spelled plain power _
  | ok allowed => exact object_spelled plain (power.append (printable_ascii rfl)) _

/-- Only the code of the failure tells a missing group from an error. -/
theorem pcieGetIommu_replies (args : List CStr) :
    (pcieGetIommu args true : ReadM σ τ Int).Replies (pcieGetIommuReplies args) := by
  refine readDevice_replies (phrase rfl) (phrase rfl) (fun addr p => ?_) _
  have plain : [Field.string "address" addr].all Field.isPlain = true := rfl
  refine .ask (fun err spelled => .ite (fun noGroup => ?_) fun other => ?_) fun group _ => ?_
  · exact object_spelled plain (printable_ascii rfl) _
  · exact failWith_replies spelled (phrase rfl)
  · exact object_spelled plain (printable_ascii rfl) _

/-- All three numbers are asked for, and the vendor decides. -/
theorem pcieGetInfo_replies (args : List CStr) :
    (pcieGetInfo args true : ReadM σ τ Int).Replies
      (readDeviceReplies "--addr" .pcieOpen args fun addr p =>
        shownFor addr (.pcieGetVendorId p)) := by
  refine readDevice_replies (phrase rfl) (phrase rfl) (fun addr p => ?_) _
  unfold shownFor
  refine .ask (fun err spelled => .after (.query _) fun device deviceOk => .after (.query _)
    fun pciClass classOk => ?_) fun vendor _ => .after (.query _) fun _ _ => .after (.query _)
    fun _ _ => ?_
  · -- the error that is printed is one of the three
    cases pciClass with
    | error last => exact failWith_replies classOk (phrase rfl)
    | ok _ =>
        cases device with
        | error last => exact failWith_replies deviceOk (phrase rfl)
        | ok _ => exact failWith_replies spelled (phrase rfl)
  · have plain : [Field.string "address" addr].all Field.isPlain = true := rfl
    exact object_spelled plain (printable_ascii rfl) _

/-- The condition follows the targets of `pcie get`. -/
theorem cmdPcieGet_replies (args : List CStr) :
    (cmdPcieGet args true : ReadM σ τ Int).Replies (pcieGetReplies args) := by
  cases args with
  | nil => exact fail_replies (phrase rfl)
  | cons what rest =>
      refine .ite (fun link => pcieGetLink_replies rest) fun other =>
        .ite (fun power => pcieGetPower_replies rest) fun other =>
        .ite (fun iommu => pcieGetIommu_replies rest) fun other =>
        .ite (fun numa => ?_) fun other =>
        .ite (fun info => pcieGetInfo_replies rest) fun other =>
        .ite (fun aspm => ?_) fun unknown => unknownWord_replies _ _ _
      · exact readDevice_replies (phrase rfl) (phrase rfl) (fun _ _ => shownFor_replies
          (fun _ => rfl) (fun _ => rfl) (phrase rfl) rfl fun _ _ => printable_ascii rfl) _
      · exact .answer (fun _ spelled => failWith_replies spelled (phrase rfl)) fun _ spells =>
          object_replies (printable_string rfl spells) _

/-- The address and the mode are repeated, and the mode is one of two words. -/
def pcieSetPowerReplies (args : List CStr) (dryRun : Bool) : Condition σ τ :=
  changeReplies "--addr" args fun addr mode =>
    if mode ≠ "auto".toList ∧ mode ≠ "on".toList then always
    else
      writeDeviceReplies (.pcieOpen addr) dryRun [addr, mode] fun p =>
        .pcieSetPowerControl p mode

/-- `pcie set`: the address and the mode of a change are repeated. -/
def pcieSetReplies (args : List CStr) (dryRun : Bool) : Condition σ τ :=
  match args with
  | [] => always
  | what :: rest =>
      if what = "power" then pcieSetPowerReplies rest dryRun
      else unknown "unknown pcie set target '" what "'. Valid: power"

/-- The condition follows the one target of `pcie set`. -/
theorem cmdPcieSet_replies (args : List CStr) (dryRun : Bool) :
    (cmdPcieSet args true dryRun : CliM σ τ Int).Replies (pcieSetReplies args dryRun) := by
  cases args with
  | nil => exact failing_replies (phrase rfl)
  | cons what rest =>
      refine .ite (fun power => ?_) fun unknown => .reading (unknownWord_replies _ _ _)
      unfold pcieSetPower pcieSetPowerReplies changeReplies
      cases deviceArg "--addr" rest with
      | none => exact failing_replies (phrase rfl)
      | some addr =>
          cases positionalArg rest 0 with
          | none => exact failing_replies (phrase rfl)
          | some mode =>
              exact .ite (fun _ => failing_replies (phrase rfl)) fun _ =>
                writeDevice_replies (phrase rfl) (phrase rfl) rfl rfl rfl rfl rfl

/-- When `zenctl pcie` prints a reply. -/
def pcieReplies (args : List CStr) (dryRun : Bool) : Condition σ τ :=
  match args with
  | [] => always
  | sub :: rest =>
      if sub = "list" then listReplies "/sys/bus/pci/devices" pcieDevFilter
      else if sub = "get" then pcieGetReplies rest
      else if sub = "set" then pcieSetReplies rest dryRun
      else unknown "unknown pcie subcommand '" sub "'. Try: list, get, set"

/-- The condition follows the subcommands of `pcie`. -/
theorem cmdPcie_replies (args : List CStr) (dryRun : Bool) :
    (cmdPcie args true dryRun : CliM σ τ Int).Replies (pcieReplies args dryRun) := by
  cases args with
  | nil => exact failing_replies (phrase rfl)
  | cons sub rest =>
      refine .ite (fun list => .reading (listCommand_replies (phrase rfl) rfl)) fun other => ?_
      refine .ite (fun get => .reading (cmdPcieGet_replies rest)) fun other => ?_
      exact .ite (fun set => cmdPcieSet_replies rest dryRun) fun unknown =>
        .reading (unknownWord_replies _ _ _)

/-- The table of domains is all there is to print. -/
theorem cmdCaps_replies (args : List CStr) :
    (cmdCaps args true : ReadM σ τ Int).Replies always := by
  have table : ∀ entry ∈ capTable,
      Printable [.string "domain" entry.1, .string "status" entry.2] := by
    intro entry inside
    have ascii : capTable.all (fun entry => isAscii entry.1 && isAscii entry.2) = true := rfl
    obtain ⟨domain, status⟩ := (Bool.and_eq_true _ _).mp (List.all_eq_true.mp ascii entry inside)
    exact (printable_string rfl (List.forall_mem_singleton.mpr (isUtf8_ascii domain))).append
      (printable_string rfl (List.forall_mem_singleton.mpr (isUtf8_ascii status)))
  unfold cmdCaps
  dsimp only
  refine report_speaks (okObjectArray_reply printable_nil rfl ?_) _
  refine List.forall_mem_map.mpr fun entry inside => objectText_value (table entry ?_)
  cases chosen : cmdPositional args 0 with
  | none =>
      rw [chosen] at inside
      exact inside
  | some filter =>
      rw [chosen] at inside
      exact List.mem_of_mem_filter inside

end Zenctl
