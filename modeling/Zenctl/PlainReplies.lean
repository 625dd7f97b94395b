import Zenctl.ReplyRules

namespace Zenctl

open CString Condition Json

/-!
# When the plain handlers print a reply

`cpu` and `mem` end every path in JSON mode in an error object or in an object
of their own.  What they print is no reply only where a word of the command
line that is repeated is not valid UTF-8, or where a message is cut inside a
character of it.
-/

variable {σ τ : Type}

/-! ## Elements of an array -/

/-- An element that could not be read. -/
theorem noItem : ∀ text ∈ (none : Option CStr), IsValue text :=
  fun _ none => nomatch none

/-- An element that is an object. -/
theorem objectItem {fields : List Field} (printable : Printable fields) :
    ∀ text ∈ some (objectText fields), IsValue text := by
  intro text same
  cases same
  exact objectText_value printable

/-- The elements that were read are values. -/
theorem readable_values
    {items : List (Option CStr)} (values : ∀ item ∈ items, ∀ text ∈ item, IsValue text) :
    ∀ text ∈ items.filterMap id, IsValue text := by
  intro text member
  obtain ⟨item, inside, same⟩ := List.mem_filterMap.mp member
  exact values item inside text same

/-- An array of the elements that can be read, behind printable fields. -/
theorem collect_replies
    {α : Type} {round : α → ReadM σ τ (Option CStr)} {fields : List Field} {key : CStr}
    (yields : ∀ item, (round item).Yields fun result => ∀ text ∈ result, IsValue text)
    (printable : Printable fields) (ascii : isAscii key = true) (items : List α) (status : Int) :
    (do
      let results ← collect round items
      put (okObjectArray fields key (results.filterMap id))
      pure status : ReadM σ τ Int).Replies always :=
  .after (.collect fun item _ => yields item) fun _ values =>
    put_replies (iff_true_intro (okObjectArray_reply printable ascii (readable_values values)))
      status

/-- A text between quotes, under a key of the handlers. -/
theorem printable_string
    {key text : CStr} (ascii : isAscii key = true) (spelled : ∀ word ∈ [text], IsUtf8 word) :
    Printable [.string key text] :=
  List.forall_mem_singleton.mpr ⟨isUtf8_ascii ascii, List.forall_mem_singleton.mp spelled⟩

/-- No field at all. -/
theorem printable_nil : Printable [] := List.forall_mem_nil _

/-! ## CPU -/

/-- The CPUs are counted by listing their directory. -/
theorem cmdCountCpus_yields : (cmdCountCpus : ReadM σ τ Int).Yields fun _ => True := by
  refine .bind (.listDir _) fun names _ => ?_
  cases names <;> exact .pure trivial

/-- The idle states are counted by asking for one after the other. -/
theorem countCstates_yields (cpu : CpuHandle) (n : Int) (probes : Nat) :
    (countCstates cpu n probes : ReadM σ τ Int).Yields fun _ => True := by
  induction probes generalizing n with
  | zero => exact .pure trivial
  | succ probes inductionHypothesis =>
      exact .answer (.pure trivial) fun _ _ => inductionHypothesis _

/-- One idle state, or nothing when it cannot be read. -/
theorem cstateItem_yields (cpu : CpuHandle) (state : Int) :
    (cstateItem cpu state : ReadM σ τ (Option CStr)).Yields fun item =>
      ∀ text ∈ item, IsValue text :=
  .answer (.pure noItem) fun _ _ => .pure (objectItem (printable_ascii rfl))

/-- One CPU of `cpu get --all`: what can be read of it, and its idle states if it has any. -/
theorem emitCpuJson_yields (cpu : CpuHandle) (idx : Int) :
    (emitCpuJson cpu idx : ReadM σ τ CStr).Yields IsValue := by
  refine .bind (.optField fun _ spells => (printable_plain rfl).mpr spells)
    fun governor governorOk =>
    .bind (.optField fun _ _ => printable_ascii rfl) fun freqMin minOk =>
    .bind (.optField fun _ _ => printable_ascii rfl) fun freqMax maxOk =>
    .bind (.optField fun _ _ => printable_ascii rfl) fun online onlineOk => ?_
  have printable : Printable ([.int "cpu" idx] ++ governor ++ freqMin ++ freqMax ++ online) :=
    ((((printable_ascii rfl).append governorOk).append minOk).append maxOk).append onlineOk
  refine .bind (countCstates_yields cpu 0 65) fun count _ => .ite (fun _ => ?_) fun _ => ?_
  · exact .bind (.collect fun state _ => cstateItem_yields cpu state) fun states values =>
      .pure (objectThen_value printable rfl (arrayText_value (readable_values values)))
  · exact .pure (objectText_value printable)

/-- A CPU that cannot be opened has no element. -/
theorem withCpu_yields
    {reader : CpuHandle → ReadM σ τ (Option CStr)}
    (yields : ∀ cpu, (reader cpu).Yields fun item => ∀ text ∈ item, IsValue text)
    (c : Int) :
    (withCpu reader c).Yields fun item => ∀ text ∈ item, IsValue text :=
  .answer (.pure noItem) fun cpu _ => yields cpu

/-- A getter that is tried on every CPU. -/
theorem cpuGetEach_replies
    {header : List CStr} {item : Int → CpuHandle → ReadM σ τ (Option CStr)}
    {row : Int → CpuHandle → ReadM σ τ Unit}
    (yields : ∀ c cpu, (item c cpu).Yields fun item => ∀ text ∈ item, IsValue text)
    (args : List CStr) :
    (cpuGetEach args true header item row).Replies always := by
  refine .cases (fun _ => fail_replies (phrase rfl)) fun _ =>
    .after cmdCountCpus_yields fun _ _ => ?_
  exact collect_replies (fun c => withCpu_yields (yields c) c) printable_nil rfl _ _

/-- The governor of one CPU. -/
theorem governorItem_yields (c : Int) (cpu : CpuHandle) :
    (governorItem c cpu : ReadM σ τ (Option CStr)).Yields fun item =>
      ∀ text ∈ item, IsValue text :=
  .answer (.pure noItem) fun _ spells => .pure (objectItem ((printable_plain rfl).mpr spells))

/-- Both limits of one CPU; the element is left out when neither can be read. -/
theorem freqItem_yields (c : Int) (cpu : CpuHandle) :
    (freqItem c cpu : ReadM σ τ (Option CStr)).Yields fun item =>
      ∀ text ∈ item, IsValue text :=
  .bind (.optField fun _ _ => printable_ascii rfl) fun _ minOk =>
  .bind (.optField fun _ _ => printable_ascii rfl) fun _ maxOk =>
  .ite (fun _ => .pure noItem) fun _ =>
    .pure (objectItem (((printable_ascii rfl).append minOk).append maxOk))

/-- The state of one CPU. -/
theorem onlineItem_yields (c : Int) (cpu : CpuHandle) :
    (onlineItem c cpu : ReadM σ τ (Option CStr)).Yields fun item =>
      ∀ text ∈ item, IsValue text :=
  .answer (.pure noItem) fun _ _ => .pure (objectItem (printable_ascii rfl))

/-- The SMT state stands in front of the CPUs when CPU 0 can be opened and asked. -/
theorem cpuGetAll_replies : (cpuGetAll true : ReadM σ τ Int).Replies always := by
  refine .after cmdCountCpus_yields fun ncpu _ => ?_
  have item : ∀ c cpu, (do pure (some (← emitCpuJson cpu c)) : ReadM σ τ (Option CStr)).Yields
      fun item => ∀ text ∈ item, IsValue text := by
    intro c cpu
    refine .bind (emitCpuJson_yields cpu c) fun text value => .pure fun _ same => ?_
    cases same
    exact value
  refine .answer (fun _ _ => ?_) fun _ _ => .after (.optField fun _ _ => printable_ascii rfl)
    fun smt printable => ?_
  · exact collect_replies (fun c => withCpu_yields (item c) c) printable_nil rfl _ _
  · exact collect_replies (fun c => withCpu_yields (item c) c) printable rfl _ _

/-- The idle states of one CPU, behind their number. -/
theorem cpuGetCstate_replies (args : List CStr) :
    (cpuGetCstate args true : ReadM σ τ Int).Replies always := by
  refine .cases (fun noCpu => fail_replies (phrase rfl)) fun hasCpu => ?_
  refine .cases (fun noState => fail_replies (phrase rfl)) fun hasState => ?_
  refine .answer (fun err spelled => failWith_replies spelled (phrase rfl)) fun cpu _ => ?_
  refine .after (countCstates_yields cpu 0 65) fun count _ => ?_
  exact collect_replies (cstateItem_yields cpu) (printable_ascii rfl) rfl _ _

/-- `cpu get`: every target there is, or a message about the word. -/
def cpuGetReplies : List CStr → Condition σ τ
  | [] => always
  | what :: _ =>
      if what = "--all" ∨ what = "-a" then always
      else if what = "governor" then always
      else if what = "freq" then always
      else if what = "online" then always
      else if what = "smt" then always
      else if what = "cstate" then always
      else unknown "unknown cpu get target '" what "'. Valid: governor, freq, online, smt, cstate"

/-- Each target of `cpu get` prints one object, whatever can be read. -/
theorem cmdCpuGet_replies (args : List CStr) :
    (cmdCpuGet args true : ReadM σ τ Int).Replies (cpuGetReplies args) := by
  cases args with
  | nil => exact fail_replies (phrase rfl)
  | cons what rest =>
      have smt : (cpuGetSmt true : ReadM σ τ Int).Replies always :=
        .answer (fun _ spelled => failWith_replies spelled (phrase rfl)) fun _ _ =>
          .answer (fun _ spelled => failWith_replies spelled (phrase rfl)) fun _ _ =>
          object_replies (printable_ascii rfl) _
      refine .ite (fun all => cpuGetAll_replies) fun one => ?_
      refine .ite (fun governor => cpuGetEach_replies governorItem_yields rest) fun other => ?_
      refine .ite (fun freq => cpuGetEach_replies freqItem_yields rest) fun other => ?_
      refine .ite (fun online => cpuGetEach_replies onlineItem_yields rest) fun other => ?_
      refine .ite (fun isSmt => smt) fun other => ?_
      exact .ite (fun cstate => cpuGetCstate_replies rest) fun unknown => unknownWord_replies _ _ _

/-- The error of a setter is kept with its CPU. -/
theorem cpuApply_yields (set : CpuHandle → Update) (c : Int) :
    (cpuApply set c : CliM σ τ _).Yields fun result =>
      ∀ err, result.2 = some (.error err) → err.Spelled := by
  refine .answer (.pure fun _ none => nomatch none) fun cpu _ =>
    .bind (.update _) fun answer spelled => .pure fun err same => ?_
  cases same
  exact spelled

/-- The CPU with the outcome of its setter. -/
theorem setResultItem_value
    {result : Int × Option (Except Err Unit)}
    (spelled : ∀ err, result.2 = some (.error err) → err.Spelled) :
    ∀ text ∈ setResultItem result, IsValue text := by
  obtain ⟨c, _ | err | done⟩ := result
  · exact noItem
  · exact objectItem ((printable_plain rfl).mpr
      (List.forall_mem_singleton.mpr (spelled err rfl).message.spelled))
  · exact objectItem (printable_ascii rfl)

/-- Every CPU is tried, and the outcomes are printed together. -/
theorem cpuSetEach_replies
    (bounds : Int × Int) (set : CpuHandle → Update) (done : CStr) :
    (cpuSetEach true bounds set done : CliM σ τ Int).Replies always := by
  refine .after (.collectCli (cpuApply_yields set) _) fun results spelled =>
    .before ?_ fun _ => .pure trivial
  refine .reading (report_speaks (okObjectArray_reply printable_nil rfl fun text member => ?_) _)
  obtain ⟨result, inside, shape⟩ := List.mem_filterMap.mp member
  exact setResultItem_value (spelled result inside) text shape

/-- A setter on one CPU. -/
theorem cpuSetOne_replies
    {c : Int} {noOpen fallback document : CStr} {set : CpuHandle → Update}
    {lines : ReadM σ τ Unit} (unopened : IsMessage noOpen) (unset : IsMessage fallback)
    (reply : IsReply document) :
    (cpuSetOne true c noOpen fallback set document lines).Replies always :=
  .answer (fun _ spelled => .reading (failWith_replies spelled unopened)) fun _ _ =>
    setOr_replies unset reply

/-- A change that is asked for, made or cancelled. -/
theorem confirmed_replies
    {on confirm : Bool} {what : CStr} {next : CliM σ τ Int} (replies : next.Replies always) :
    (do
      let allowed ← if on then pure true else askConfirm what confirm
      if allowed then next else reading (cancelled true) : CliM σ τ Int).Replies always := by
  have answered : ∀ allowed : Bool,
      (if allowed then next else reading (cancelled true) : CliM σ τ Int).Replies always :=
    fun _ => .cases (fun _ => replies) fun _ => .reading
      (put_replies (iff_true_intro (outJsonError_replies 3 (phrase rfl))) _)
  have asked : (askConfirm what confirm : CliM σ τ Bool).Yields fun _ => True :=
    .ite (fun _ => .pure trivial) fun _ => .prompt _
  exact .cases (fun _ => answered true) fun _ => .after asked fun allowed _ => answered allowed

/-- The text a handler refuses a command line with. -/
theorem failing_replies {message : CStr} (known : IsMessage message) :
    (reading (failWith true none message) : CliM σ τ Int).Replies always :=
  .reading (fail_replies known)

/-- `cpu set governor`: a dry run repeats the name. -/
def cpuSetGovernorReplies (args : List CStr) (dryRun : Bool) : Condition σ τ :=
  match positionalArg args 0 with
  | none => always
  | some governor =>
      if parseCpuArg args = -2 then always
      else if dryRun then spelled [governor]
      else always

/-- `cpu set freq-min` and `freq-max`: a text that is no frequency is repeated. -/
def cpuSetFreqReplies (args : List CStr) : Condition σ τ :=
  byEnv fun env =>
    match positionalArg args 0 with
    | none => always
    | some text =>
        if parseFreq env text = none then
          decided (IsUtf8 (bounded 512 ("invalid frequency '".toList ++ text ++
            "' (try 3.6GHz, 3600M, 3600000)".toList)))
        else always

/-- `cpu set`: by the words that are repeated. -/
def cpuSetReplies (args : List CStr) (dryRun : Bool) : Condition σ τ :=
  match args with
  | [] => always
  | what :: rest =>
      if what = "governor" then cpuSetGovernorReplies rest dryRun
      else if what = "freq-min" then cpuSetFreqReplies rest
      else if what = "freq-max" then cpuSetFreqReplies rest
      else if what = "online" then always
      else if what = "smt" then always
      else if what = "cstate" then always
      else unknown "unknown cpu set target '" what
        "'. Valid: governor, freq-min, freq-max, online, smt, cstate"

/-- The governor is announced between quotes, escaped. -/
theorem cpuSetGovernor_replies (args : List CStr) (dryRun : Bool) :
    (cpuSetGovernor args true dryRun : CliM σ τ Int).Replies
      (cpuSetGovernorReplies args dryRun) := by
  unfold cpuSetGovernor cpuSetGovernorReplies
  cases positionalArg args 0 with
  | none => exact failing_replies (phrase rfl)
  | some governor =>
      refine .ite (fun _ => failing_replies (phrase rfl)) fun _ => ?_
      cases dryRun with
      | true =>
          refine .after (.reading cmdCountCpus_yields) fun _ _ => .reading (report_replies ?_ _)
          have lead : ∀ {word : CStr}, (∀ text ∈ ["set_governor".toList, word], IsUtf8 text) ↔
              ∀ text ∈ [word], IsUtf8 text := fun {word} =>
            List.forall_mem_cons.trans (and_iff_right (phrase rfl).spelled)
          exact (okObject_reply_iff rfl).trans lead
      | false => exact .after (.reading cmdCountCpus_yields) fun _ _ => cpuSetEach_replies _ _ _

/-- Only a text that is no frequency comes back, cut to 512 bytes. -/
theorem cpuSetFreq_replies (args : List CStr) (dryRun isMax : Bool) :
    (cpuSetFreq args true dryRun isMax : CliM σ τ Int).Replies (cpuSetFreqReplies args) := by
  refine .env fun env => ?_
  cases positionalArg args 0 with
  | none => exact failing_replies (phrase rfl)
  | some text =>
      cases parsed : parseFreq env text with
      | none =>
          simp only [parsed, ↓reduceIte]
          exact .reading (failWith_iff _)
      | some hz =>
          simp only [parsed, reduceCtorEq, ↓reduceIte]
          refine .cases (fun _ => failing_replies (phrase rfl)) fun _ =>
            .after (.reading cmdCountCpus_yields) fun _ _ => ?_
          refine .cases (fun _ => .reading (object_replies ?_ _)) fun _ => cpuSetEach_replies _ _ _
          cases isMax <;> exact printable_ascii rfl

/-- Every refusal of `cpu set online` is an error object. -/
theorem cpuSetOnline_replies (args : List CStr) (dryRun confirm : Bool) :
    (cpuSetOnline args true dryRun confirm : CliM σ τ Int).Replies always := by
  unfold cpuSetOnline
  cases positionalArg args 0 with
  | none => exact failing_replies (phrase rfl)
  | some word =>
      dsimp only
      cases parseOnOff word with
      | none => exact failing_replies (phrase rfl)
      | some on =>
          refine .cases (fun noCpu => failing_replies (phrase rfl)) fun hasCpu => ?_
          refine .cases (fun bootCpu => failing_replies (phrase rfl)) fun others => ?_
          refine .cases (fun dry => ?_) fun applied => ?_
          · exact .reading (object_replies (printable_ascii rfl) _)
          · exact confirmed_replies
              (cpuSetOne_replies (phrase rfl) (phrase rfl) (okObject_reply (printable_ascii rfl)))

/-- Every refusal of `cpu set smt` is an error object. -/
theorem cpuSetSmt_replies (args : List CStr) (dryRun confirm : Bool) :
    (cpuSetSmt args true dryRun confirm : CliM σ τ Int).Replies always := by
  unfold cpuSetSmt
  cases positionalArg args 0 with
  | none => exact failing_replies (phrase rfl)
  | some word =>
      dsimp only
      cases parseOnOff word with
      | none => exact failing_replies (phrase rfl)
      | some on =>
          refine .cases (fun dry => ?_) fun applied => ?_
          · exact .reading (object_replies (printable_ascii rfl) _)
          · exact confirmed_replies
              (cpuSetOne_replies (phrase rfl) (phrase rfl) (okObject_reply (printable_ascii rfl)))

/-- Every refusal of `cpu set cstate` is an error object. -/
theorem cpuSetCstate_replies (args : List CStr) (dryRun : Bool) :
    (cpuSetCstate args true dryRun : CliM σ τ Int).Replies always := by
  unfold cpuSetCstate
  cases positionalArg args 0 with
  | none => exact failing_replies (phrase rfl)
  | some stateText =>
      cases positionalArg args 1 with
      | none => exact failing_replies (phrase rfl)
      | some word =>
          dsimp only
          cases (wholeInt stateText).filter (0 ≤ ·) with
          | none => exact failing_replies (phrase rfl)
          | some state =>
              refine .cases (fun noSwitch => failing_replies (phrase rfl)) fun switch => ?_
              refine .cases (fun noCpu => failing_replies (phrase rfl)) fun hasCpu => ?_
              refine .cases (fun dry => ?_) fun applied => ?_
              · exact .reading (object_replies (printable_ascii rfl) _)
              · exact cpuSetOne_replies (phrase rfl) (phrase rfl)
                  (okObject_reply (printable_ascii rfl))

/-- The condition follows the targets of `cpu set`. -/
theorem cmdCpuSet_replies (args : List CStr) (dryRun confirm : Bool) :
    (cmdCpuSet args true dryRun confirm : CliM σ τ Int).Replies (cpuSetReplies args dryRun) := by
  cases args with
  | nil => exact failing_replies (phrase rfl)
  | cons what rest =>
      refine .ite (fun governor => cpuSetGovernor_replies rest dryRun) fun other => ?_
      refine .ite (fun freqMin => cpuSetFreq_replies rest dryRun false) fun other => ?_
      refine .ite (fun freqMax => cpuSetFreq_replies rest dryRun true) fun other => ?_
      refine .ite (fun online => cpuSetOnline_replies rest dryRun confirm) fun other => ?_
      refine .ite (fun smt => cpuSetSmt_replies rest dryRun confirm) fun other => ?_
      exact .ite (fun cstate => cpuSetCstate_replies rest dryRun) fun unknown =>
        .reading (unknownWord_replies _ _ _)

/-- When `zenctl cpu` prints a reply. -/
def cpuReplies (args : List CStr) (dryRun : Bool) : Condition σ τ :=
  match args with
  | [] => always
  | sub :: rest =>
      if sub = "get" then cpuGetReplies rest
      else if sub = "set" then cpuSetReplies rest dryRun
      else unknown "unknown cpu subcommand '" sub "' (try 'get' or 'set')"

/-- The condition follows the subcommands of `cpu`. -/
theorem cmdCpu_replies (args : List CStr) (dryRun confirm : Bool) :
    (cmdCpu args true dryRun confirm : CliM σ τ Int).Replies (cpuReplies args dryRun) := by
  cases args with
  | nil => exact failing_replies (phrase rfl)
  | cons sub rest =>
      refine .ite (fun get => .reading (cmdCpuGet_replies rest)) fun other => ?_
      exact .ite (fun set => cmdCpuSet_replies rest dryRun confirm) fun unknown =>
        .reading (unknownWord_replies _ _ _)

/-- A word of seventy letters of two bytes is cut in the middle of one. -/
example (ctx : Ctx σ τ) (sys : σ) (memory : τ) :
    ¬cpuReplies ["get".toList, (List.replicate 70 ['\xc3', '\xa9']).flatten] false
      ctx sys memory := by
  change ¬IsUtf8 (bounded 160 ("unknown cpu get target '".toList ++ _ ++ _))
  decide +kernel

/-! ## Memory -/

/-- A setter of `mem` reports an object with what was set, or announces it in one. -/
theorem memSet_replies
    {action key line fallback : CStr} {value : Field} {call : Update} {lines : ReadM σ τ Unit}
    (known : IsMessage fallback) (ascii : isAscii action = true) (printable : Printable [value])
    (dryRun : Bool) :
    (memSet true dryRun action key value line call fallback lines).Replies always := by
  have announced : Printable [.bool "dry_run" true, .string "action" action] :=
    (printable_plain rfl).mpr (List.forall_mem_singleton.mpr (isUtf8_ascii ascii))
  exact .cases (fun _ => .reading (object_replies (announced.append printable) _))
    fun _ => setOr_replies known (okObject_reply printable)

/-- The three words are ASCII. -/
theorem parseThp_ascii {text : CStr} {mode : ThpMode} (parsed : parseThp text = some mode) :
    isAscii text = true := by
  unfold parseThp at parsed
  split_ifs at parsed with first second third
  · exact first ▸ rfl
  · exact second ▸ rfl
  · exact third ▸ rfl

/-- `mem set`: every target there is, or a message about the word. -/
def memSetReplies : List CStr → Condition σ τ
  | [] => always
  | what :: _ =>
      if what = "hugepages" then always
      else if what = "thp" then always
      else if what = "swappiness" then always
      else if what = "overcommit" then always
      else unknown "unknown mem set target '" what
        "'. Valid: hugepages, thp, swappiness, overcommit"

/-- Each target of `mem set` prints one object, whatever its argument. -/
theorem cmdMemSet_replies (args : List CStr) (dryRun : Bool) :
    (cmdMemSet args true dryRun : CliM σ τ Int).Replies (memSetReplies args) := by
  cases args with
  | nil => exact failing_replies (phrase rfl)
  | cons what rest =>
      refine .ite (fun hugepages => ?_) fun other => .ite (fun thp => ?_) fun other =>
        .ite (fun swappiness => ?_) fun other => .ite (fun overcommit => ?_) fun unknown =>
        .reading (unknownWord_replies _ _ _)
      -- every target reads a value, parses it, and ends in `memSet`
      · unfold memSetHugepages
        cases positionalArg rest 0 with
        | none => exact failing_replies (phrase rfl)
        | some text =>
            dsimp only
            cases (wholeInt text).filter (0 ≤ ·) with
            | none => exact failing_replies (phrase rfl)
            | some n => exact memSet_replies (phrase rfl) rfl (printable_ascii rfl) _
      · unfold memSetThp
        cases positionalArg rest 0 with
        | none => exact failing_replies (phrase rfl)
        | some text =>
            dsimp only
            cases parsed : parseThp text with
            | none => exact failing_replies (phrase rfl)
            | some mode =>
                have word := List.forall_mem_singleton.mpr (isUtf8_ascii (parseThp_ascii parsed))
                exact memSet_replies (phrase rfl) rfl (printable_string rfl word) _
      · unfold memSetSwappiness
        cases positionalArg rest 0 with
        | none => exact failing_replies (phrase rfl)
        | some text =>
            dsimp only
            cases (wholeInt text).filter (fun v => 0 ≤ v ∧ v ≤ 200) with
            | none => exact failing_replies (phrase rfl)
            | some v => exact memSet_replies (phrase rfl) rfl (printable_ascii rfl) _
      · unfold memSetOvercommit
        cases positionalArg rest 0 with
        | none => exact failing_replies (phrase rfl)
        | some text =>
            dsimp only
            cases (wholeInt text).filter (fun v => 0 ≤ v ∧ v ≤ 2) with
            | none => exact failing_replies (phrase rfl)
            | some v => exact memSet_replies (phrase rfl) rfl (printable_ascii rfl) _

/-- One memory node, or nothing when it cannot be read. -/
theorem numaItem_yields (node : Int) :
    (numaItem node : ReadM σ τ (Option CStr)).Yields fun item =>
      ∀ text ∈ item, IsValue text :=
  .answer (.pure noItem) fun _ spells => .pure (objectItem ((printable_plain rfl).mpr spells))

/-- Without nodes the array is empty. -/
theorem memGetNuma_replies : (memGetNuma true : ReadM σ τ Int).Replies always := by
  refine .answer (fun _ spelled => failWith_replies spelled (phrase rfl)) fun n _ => ?_
  refine .cases (fun _ => ?_) fun _ => ?_
  · exact report_speaks
      (okObjectArray_reply (printable_ascii rfl) rfl (List.forall_mem_nil _)) _
  · exact collect_replies numaItem_yields (printable_ascii rfl) rfl _ _

/-- The size of a page is added when it can be read. -/
theorem memGetHugepages_replies : (memGetHugepages true : ReadM σ τ Int).Replies always :=
  .answer (fun _ spelled => failWith_replies spelled (phrase rfl)) fun _ _ =>
    .after .getEnv fun _ _ => .after (.query _) fun _ _ =>
      object_replies ((printable_ascii rfl).append (printable_if (printable_ascii rfl))) _

/-- The fields of a value that could be read. -/
theorem printable_fieldsIfOk
    {β : Type} {answer : Except Err β} {fields : β → List Field}
    (printable : ∀ value, Printable (fields value)) :
    Printable (fieldsIfOk answer fields) := by
  cases answer with
  | ok value => exact printable value
  | error err => exact printable_nil

/-- The names of the policies, and the one for a policy that has none. -/
theorem overcommitStr_ascii (v : Int) : isAscii (overcommitStr v) = true := by
  unfold overcommitStr
  split_ifs
  all_goals rfl

/-- The policy and its name. -/
theorem overcommit_printable (key name : CStr) (v : Int)
    (plain : [Field.int key v, .string name (overcommitStr v)].all Field.isPlain = true) :
    Printable [.int key v, .string name (overcommitStr v)] :=
  (printable_plain plain).mpr (List.forall_mem_singleton.mpr (isUtf8_ascii (overcommitStr_ascii v)))

/-- The mode of transparent huge pages by its name. -/
theorem thp_printable (mode : ThpMode) : Printable [.string "thp" (thpModeStr mode)] := by
  cases mode <;> exact printable_ascii rfl

/-- What can be read stands in one object, the nodes last. -/
theorem memGetAll_replies : (memGetAll true : ReadM σ τ Int).Replies always := by
  refine .after .getEnv fun _ _ => .after (.query _) fun pages _ => .after (.query _) fun size _ =>
    .after (.query _) fun thp _ => .after (.query _) fun swap _ => .after (.query _) fun oc _ =>
    .after (.query _) fun numa _ => ?_
  have printable : Printable
      (fieldsIfOk pages (fun v => [.int "nr_hugepages" v]) ++
        fieldsIfOk size (fun v => [.int "hugepage_size_bytes" v]) ++
        fieldsIfOk thp (fun v => [.string "thp" (thpModeStr v)]) ++
        fieldsIfOk swap (fun v => [.int "swappiness" v]) ++
        fieldsIfOk oc
          (fun v => [.int "overcommit" v, .string "overcommit_mode" (overcommitStr v)]) ++
        fieldsIfOk numa (fun n => [.int "numa_nodes" n])) := by
    refine .append (.append (.append (.append (.append ?_ ?_) ?_) ?_) ?_) ?_
    · exact printable_fieldsIfOk fun _ => printable_ascii rfl
    · exact printable_fieldsIfOk fun _ => printable_ascii rfl
    · exact printable_fieldsIfOk thp_printable
    · exact printable_fieldsIfOk fun _ => printable_ascii rfl
    · exact printable_fieldsIfOk fun v => overcommit_printable _ _ v rfl
    · exact printable_fieldsIfOk fun _ => printable_ascii rfl
  cases numa with
  | error err => exact put_replies (iff_true_intro (okObject_reply printable)) 0
  | ok n => exact collect_replies numaItem_yields printable rfl _ _

/-- `mem get`: every target there is, or a message about the word. -/
def memGetReplies : List CStr → Condition σ τ
  | [] => always
  | what :: _ =>
      if what = "--all" ∨ what = "-a" then always
      else if what = "hugepages" then always
      else if what = "thp" then always
      else if what = "numa" then always
      else if what = "swappiness" then always
      else if what = "overcommit" then always
      else unknown "unknown mem get target '" what
        "'. Valid: hugepages, thp, numa, swappiness, overcommit"

/-- Each target of `mem get` prints one object. -/
theorem cmdMemGet_replies (args : List CStr) :
    (cmdMemGet args true : ReadM σ τ Int).Replies (memGetReplies args) := by
  cases args with
  | nil => exact fail_replies (phrase rfl)
  | cons what rest =>
      refine .ite (fun all => memGetAll_replies) fun one =>
        .ite (fun hugepages => memGetHugepages_replies) fun other =>
        .ite (fun thp => ?_) fun other => .ite (fun numa => memGetNuma_replies) fun other =>
        .ite (fun swappiness => ?_) fun other => .ite (fun overcommit => ?_) fun unknown =>
        unknownWord_replies _ _ _
      · exact .answer (fun _ spelled => failWith_replies spelled (phrase rfl)) fun mode _ =>
          object_replies (thp_printable mode) _
      · exact .answer (fun _ spelled => failWith_replies spelled (phrase rfl)) fun _ _ =>
          object_replies (printable_ascii rfl) _
      · exact .answer (fun _ spelled => failWith_replies spelled (phrase rfl)) fun v _ =>
          object_replies (overcommit_printable _ _ v rfl) _

/-- When `zenctl mem` prints a reply. -/
def memReplies : List CStr → Condition σ τ
  | [] => always
  | sub :: rest =>
      if sub = "get" then memGetReplies rest
      else if sub = "set" then memSetReplies rest
      else unknown "unknown mem subcommand '" sub "'. Try: get, set"

/-- The condition follows the subcommands of `mem`. -/
theorem cmdMem_replies (args : List CStr) (dryRun : Bool) :
    (cmdMem args true dryRun : CliM σ τ Int).Replies (memReplies args) := by
  cases args with
  | nil => exact failing_replies (phrase rfl)
  | cons sub rest =>
      refine .ite (fun get => .reading (cmdMemGet_replies rest)) fun other => ?_
      exact .ite (fun set => cmdMemSet_replies rest dryRun) fun unknown =>
        .reading (unknownWord_replies _ _ _)

end Zenctl
