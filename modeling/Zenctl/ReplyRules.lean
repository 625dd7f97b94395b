import Zenctl.Replies
import Zenctl.Guards

namespace Zenctl

open CString Json

/-!
# When a program prints one reply

Whether a command prints a reply is settled by its arguments and by what the
library and the system answer.  A `Condition` says which answers those are,
without looking at what is printed; `Replies` says that a program prints a
reply under exactly that condition, as long as the library and the system
answer with valid UTF-8.  The rules follow the shapes the handlers are written
in, so that a handler is never run by hand.
-/

variable {σ τ α β : Type}

/-! ## Texts the library answers with -/

/-- Valid UTF-8 that fits a message buffer. -/
structure IsMessage (text : CStr) : Prop where
  spelled : IsUtf8 text
  short : text.length < 256

/-- Both texts of an error record. -/
structure Err.Spelled (err : Err) : Prop where
  message : IsMessage err.message
  context : IsMessage err.context

/-- The strings of an answer.  What `efi get` and `acpi get` read is no string. -/
def Query.texts : {β : Type} → Query β → β → List CStr
  | _, .cpuGetGovernor _, governor => [governor]
  | _, .memNumaGetNode _, node => [node.cpumask]
  | _, .storageGetScheduler _, text => [text]
  | _, .storageListSchedulers _, text => [text]
  | _, .storageGetPowerControl _, text => [text]
  | _, .netGetDuplex _, text => [text]
  | _, .netGetIrqAffinity _, text => [text]
  | _, .pcieGetLinkSpeed _, text => [text]
  | _, .pcieGetMaxLinkSpeed _, text => [text]
  | _, .pcieGetPowerControl _, text => [text]
  | _, .pcieGetAspmPolicy, text => [text]
  | _, .gpuGetDriver _, text => [text]
  | _, .gpuGetVendor _, text => [text]
  | _, .gpuAmdgpuGetPowerProfile _, text => [text]
  | _, .gpuAmdgpuGetDpmState _, text => [text]
  | _, .thermalGetType _, text => [text]
  | _, .thermalGetPolicy _, text => [text]
  | _, .thermalListPolicies _, text => [text]
  | _, .thermalGetTrip _ _, trip => [trip.type]
  | _, .thermalGetCooling _ _, cooling => [cooling.type]
  | _, .thermalHwmonGetTemp _ _, sensor => [sensor.name, sensor.label]
  | _, .powerGetSupportedStates, text => [text]
  | _, .powerGetMemSleepMode, text => [text]
  | _, .powerGetRuntimePm _, text => [text]
  | _, .powerBatteryGet _, battery => [battery.name, battery.status, battery.technology]
  | _, .powerGetWakeupDevices, names => names
  | _, .usbEnumerate, names => names
  | _, .usbGetManufacturer _, text => [text]
  | _, .usbGetProduct _, text => [text]
  | _, .usbGetSpeed _, text => [text]
  | _, .usbGetPowerControl _, text => [text]
  | _, .usbGetRuntimeStatus _, text => [text]
  | _, .btEnumerate, names => names
  | _, .btGetAddress _, text => [text]
  | _, .wirelessEnumerate, names => names
  | _, .wirelessGetRegdomain _, text => [text]
  | _, .fwDmiGet _, text => [text]
  | _, .fwEfiEnumerate, vars => vars.flatMap fun var => [var.name, var.guid]
  | _, .fwAcpiListTables, names => names
  | _, .fwBiosGetSetting _, setting =>
      [setting.name, setting.type, setting.currentValue, setting.defaultValue,
        setting.displayName]
  | _, _, _ => []

/-- The strings of a value are valid UTF-8. -/
abbrev Query.Spells (call : Query β) (value : β) : Prop :=
  ∀ text ∈ call.texts value, IsUtf8 text

/-- The strings the library answers with, and the reasons of the system, are valid UTF-8. -/
structure Ctx.Spells (ctx : Ctx σ τ) : Prop where
  answered : ∀ {β : Type} (call : Query β) (sys : σ) (memory : τ) (value : β),
    (ctx.lib.query call sys memory).1 = .ok value → call.Spells value
  failed : ∀ {β : Type} (call : Query β) (sys : σ) (memory : τ) (err : Err),
    (ctx.lib.query call sys memory).1 = .error err → err.Spelled
  refused : ∀ (call : Update) (sys : σ) (memory : τ) (err : Err),
    (ctx.lib.update call sys memory).1 = .error err → err.Spelled
  unread : ∀ (sys : σ) (path reason : CStr),
    ctx.host.readFile sys path = .error reason → IsMessage reason
  unopened : ∀ (sys : σ) (path reason : CStr),
    (ctx.host.openWrite sys path).1 = .error reason → IsMessage reason
  undeleted : ∀ (sys : σ) (path reason : CStr),
    (ctx.host.unlink sys path).1 = .error reason → IsMessage reason

/-- What is said of an answer, after a failure and after a success. -/
abbrev Answers (failed : Err → Prop) (answered : β → Prop) : Except Err β → Prop
  | .error err => failed err
  | .ok value => answered value

theorem Ctx.Spells.query
    {ctx : Ctx σ τ} (speaks : ctx.Spells) (call : Query β) (sys : σ) (memory : τ) :
    Answers Err.Spelled call.Spells (ctx.lib.query call sys memory).1 := by
  cases answer : (ctx.lib.query call sys memory).1 with
  | error err => exact speaks.failed call sys memory err answer
  | ok value => exact speaks.answered call sys memory value answer

/-- A text in ASCII that fits a message buffer. -/
def isPhrase (text : CStr) : Bool :=
  isAscii text && decide (text.length < 256)

/-- The texts the handlers are written with. -/
theorem phrase {letters : List Char} (ascii : isPhrase letters = true) :
    IsMessage (String.ofList letters).toList := by
  rw [String.toList_ofList]
  obtain ⟨ascii, short⟩ := (Bool.and_eq_true _ _).mp ascii
  exact ⟨isUtf8_ascii ascii, of_decide_eq_true short⟩

theorem IsMessage.bounded {text : CStr} (message : IsMessage text) :
    CString.bounded 256 text = text :=
  List.take_of_length_le (Nat.le_sub_one_of_lt message.short)

/-- An error record the command line fills itself. -/
theorem cliMakeErr_message {text : CStr} (message : IsMessage text) (code : Int) (context : CStr) :
    IsMessage (cliMakeErr code text context).message := by
  change IsMessage (CString.bounded 256 text)
  rwa [message.bounded]

/-- An answer with a value is no failure. -/
theorem ok_no_error {ε : Type} {value : α} : ¬∃ err : ε, Except.ok value = .error err := by
  rintro ⟨err, same⟩
  cases same

/-- What a reply may depend on: the services, the system and the library's memory. -/
abbrev Condition (σ τ : Type) : Type 1 := Ctx σ τ → σ → τ → Prop

/-- A console nothing was printed on. -/
def blank (memory : τ) : Console τ := ⟨memory, [], [], []⟩

namespace Condition

/-- Settled by the command line. -/
abbrev decided (holds : Prop) : Condition σ τ := fun _ _ _ => holds

abbrev always : Condition σ τ := decided True

abbrev impossible : Condition σ τ := decided False

/-- What a reading program learns settles how it goes on. -/
def learn (program : ReadM σ τ α) (next : α → Condition σ τ) : Condition σ τ :=
  fun ctx sys memory =>
    next (program ctx sys (blank memory)).1 ctx sys (program ctx sys (blank memory)).2.memory

/-- The answer of a getter settles how it goes on. -/
def ask (call : Query β) (next : Except Err β → Condition σ τ) : Condition σ τ :=
  learn (query call) next

/-- The getter fails, or what comes next holds for its value. -/
def orError (call : Query β) (next : β → Condition σ τ) : Condition σ τ :=
  ask call fun
    | .error _ => always
    | .ok value => next value

/-- The getter fails. -/
def fails (call : Query β) : Condition σ τ :=
  orError call fun _ => impossible

/-- Both getters fail. -/
def bothFail (first : Query α) (second : Query β) : Condition σ τ :=
  ask first fun a => ask second fun b => decided (a.toOption = none ∧ b.toOption = none)

/-- The setter fails. -/
def refused (call : Update) : Condition σ τ :=
  fun ctx sys memory => ∃ err, (ctx.lib.update call sys memory).1 = .error err

/-- The change is announced in a dry run and made otherwise. -/
def written (dryRun : Bool) (what : CStr) (call : Update) : Condition σ τ :=
  if dryRun then decided (Quotable what) else refused call

/-- The words the reply repeats are valid UTF-8. -/
abbrev spelled (words : List CStr) : Condition σ τ :=
  decided (∀ word ∈ words, IsUtf8 word)

/-- The message about a word that is not known, cut to its buffer, is valid UTF-8. -/
abbrev unknown (before word after : CStr) : Condition σ τ :=
  decided (IsUtf8 (bounded 160 (before ++ word ++ after)))

/-- The setter fails, or the words its success repeats are valid UTF-8. -/
def refusedOr (call : Update) (words : List CStr) : Condition σ τ :=
  fun ctx sys memory =>
    (∃ err, (ctx.lib.update call sys memory).1 = .error err) ∨ ∀ word ∈ words, IsUtf8 word

/-- The environment settles how it goes on. -/
def byEnv (next : Env → Condition σ τ) : Condition σ τ :=
  fun ctx => next ctx.env ctx

/-- The user is not root, or what comes next holds. -/
def orUser (next : Condition σ τ) : Condition σ τ :=
  fun ctx sys memory => ctx.env.euid = 0 → next ctx sys memory

/-- The text of a dry run, announced between quotes as it stands, stays between them. -/
abbrev announced (what : CStr) : Condition σ τ := decided (Quotable what)

end Condition

open Condition

/-! ## Programs that print nothing -/

/-- The program prints nothing, and its result has this property. -/
def ReadM.Yields (program : ReadM σ τ α) (post : α → Prop) : Prop :=
  ∀ ctx, ctx.Spells → ∀ sys console,
    (program ctx sys console).2.stdout = console.stdout ∧ post (program ctx sys console).1

namespace ReadM.Yields

variable {program : ReadM σ τ α} {post : α → Prop}

theorem pure {value : α} (holds : post value) : (pure value : ReadM σ τ α).Yields post :=
  fun _ _ _ _ => ⟨rfl, holds⟩

theorem query (call : Query α) :
    (Zenctl.query call : ReadM σ τ (Except Err α)).Yields (Answers Err.Spelled call.Spells) :=
  fun _ speaks sys console => ⟨rfl, speaks.query call sys console.memory⟩

theorem getEnv : (Zenctl.getEnv : ReadM σ τ Env).Yields fun _ => True :=
  fun _ _ _ _ => ⟨rfl, trivial⟩

theorem listDir (path : CStr) :
    (Zenctl.listDir path : ReadM σ τ (Option (List CStr))).Yields fun _ => True :=
  fun _ _ _ _ => ⟨rfl, trivial⟩

theorem readFile (path : CStr) :
    (Zenctl.readFile path : ReadM σ τ (Except CStr (List Char))).Yields fun content =>
      ∀ reason, content = .error reason → IsMessage reason :=
  fun _ speaks sys _ => ⟨rfl, speaks.unread sys path⟩

theorem bind
    {next : α → ReadM σ τ β} {goal : β → Prop}
    (first : program.Yields post)
    (second : ∀ value, post value → (next value).Yields goal) :
    (program >>= next).Yields goal := by
  intro ctx speaks sys console
  obtain ⟨silent, holds⟩ := first ctx speaks sys console
  obtain ⟨silentNext, reached⟩ := second _ holds ctx speaks sys (program ctx sys console).2
  exact ⟨silentNext.trans silent, reached⟩

theorem weaken
    {goal : α → Prop} (yields : program.Yields post) (implies : ∀ value, post value → goal value) :
    program.Yields goal :=
  fun ctx speaks sys console => (yields ctx speaks sys console).imp_right (implies _)

/-- A getter in front, after a failure and after a success. -/
theorem answer
    {call : Query β} {next : Except Err β → ReadM σ τ α}
    (failed : ∀ {err}, (next (.error err)).Yields post)
    (answered : ∀ value, call.Spells value → (next (.ok value)).Yields post) :
    (Zenctl.query call >>= next).Yields post := by
  refine .bind (.query call) fun answer spells => ?_
  cases answer with
  | error err => exact failed
  | ok value => exact answered value spells

@[inherit_doc answer]
theorem file
    {path : CStr} {next : Except CStr (List Char) → ReadM σ τ α}
    (failed : ∀ reason, IsMessage reason → (next (.error reason)).Yields post)
    (answered : ∀ content, (next (.ok content)).Yields post) :
    (Zenctl.readFile path >>= next).Yields post := by
  refine .bind (.readFile path) fun content known => ?_
  cases content with
  | error reason => exact failed reason (known reason rfl)
  | ok content => exact answered content

theorem ite
    {condition : Prop} [Decidable condition] {first second : ReadM σ τ α}
    (whenTrue : condition → first.Yields post)
    (whenFalse : ¬condition → second.Yields post) :
    (if condition then first else second).Yields post := by
  split
  · next holds => exact whenTrue holds
  · next fails => exact whenFalse fails

/-- What every round yields, the results of the loop have. -/
theorem collect
    {round : α → ReadM σ τ β} {goal : β → Prop} {items : List α}
    (yields : ∀ item ∈ items, (round item).Yields goal) :
    (collect round items).Yields fun results => ∀ result ∈ results, goal result := by
  induction items with
  | nil => exact .pure (List.forall_mem_nil _)
  | cons item rest inductionHypothesis =>
      obtain ⟨first, others⟩ := List.forall_mem_cons.mp yields
      exact .bind first fun result here => .bind (inductionHypothesis others) fun results more =>
        .pure (List.forall_mem_cons.mpr ⟨here, more⟩)

theorem optField
    {call : Query β} {field : β → Field}
    (printable : ∀ value, call.Spells value → Printable [field value]) :
    (optField call field : ReadM σ τ (List Field)).Yields Printable :=
  .answer (.pure (List.forall_mem_nil _)) fun value spells => .pure (printable value spells)

theorem queryOpt (call : Query α) :
    (queryOpt call : ReadM σ τ (Option α)).Yields fun found => ∀ value ∈ found, call.Spells value :=
  .answer (.pure fun _ none => nomatch none) fun _ spells => .pure fun _ same =>
    Option.some.inj same ▸ spells

end ReadM.Yields

/-- The program looks at the library and the system only, and leaves the console alone. -/
def ReadM.Reads (program : ReadM σ τ α) : Prop :=
  ∀ ctx sys console,
    program ctx sys console =
      ((program ctx sys (blank console.memory)).1,
        { console with memory := (program ctx sys (blank console.memory)).2.memory })

namespace ReadM.Reads

theorem pure (value : α) : (pure value : ReadM σ τ α).Reads := fun _ _ _ => rfl

theorem query (call : Query α) : (query call : ReadM σ τ (Except Err α)).Reads := fun _ _ _ => rfl

theorem getEnv : (getEnv : ReadM σ τ Env).Reads := fun _ _ _ => rfl

theorem access (path : CStr) (mode : Access) : (access path mode : ReadM σ τ Bool).Reads :=
  fun _ _ _ => rfl

theorem listDir (path : CStr) : (listDir path : ReadM σ τ (Option (List CStr))).Reads :=
  fun _ _ _ => rfl

theorem readFile (path : CStr) :
    (readFile path : ReadM σ τ (Except CStr (List Char))).Reads :=
  fun _ _ _ => rfl

theorem bind
    {program : ReadM σ τ α} {next : α → ReadM σ τ β}
    (first : program.Reads) (second : ∀ value, (next value).Reads) :
    (program >>= next).Reads := by
  intro ctx sys console
  have before := first ctx sys console
  have fresh := first ctx sys (blank console.memory)
  simp only [ReadM.bind_run]
  rw [before, second, fresh]
  rfl

theorem ite
    {condition : Prop} [Decidable condition] {first second : ReadM σ τ α}
    (whenTrue : condition → first.Reads) (whenFalse : ¬condition → second.Reads) :
    (if condition then first else second).Reads := by
  split
  · next holds => exact whenTrue holds
  · next fails => exact whenFalse fails

/-- A getter in front, after a failure and after a success. -/
theorem answer
    {call : Query β} {next : Except Err β → ReadM σ τ α}
    (failed : ∀ {err}, (next (.error err)).Reads)
    (answered : ∀ value, (next (.ok value)).Reads) :
    (Zenctl.query call >>= next).Reads := by
  refine .bind (.query call) fun answer => ?_
  cases answer with
  | error err => exact failed
  | ok value => exact answered value

theorem collect
    {round : α → ReadM σ τ β} (reads : ∀ item, (round item).Reads) (items : List α) :
    (collect round items).Reads := by
  induction items with
  | nil => exact .pure _
  | cons item rest inductionHypothesis =>
      exact .bind (reads item) fun _ => .bind inductionHypothesis fun _ => .pure _

theorem queryOpt (call : Query α) : (queryOpt call : ReadM σ τ (Option α)).Reads :=
  .answer (.pure _) fun _ => .pure _

end ReadM.Reads

/-- A getter called with a `NULL` error record. -/
theorem queryOpt_run (ctx : Ctx σ τ) (sys : σ) (console : Console τ) (call : Query β) :
    queryOpt call ctx sys console =
      ((ctx.lib.query call sys console.memory).1.toOption,
        { console with memory := (ctx.lib.query call sys console.memory).2 }) := by
  simp only [queryOpt, ReadM.bind_run, query]
  cases (ctx.lib.query call sys console.memory).1 <;> rfl

/-! ## Reading programs -/

/-- The program prints a reply exactly under this condition. -/
def ReadM.Replies (program : ReadM σ τ α) (good : Condition σ τ) : Prop :=
  ∀ ctx, ctx.Spells → ∀ sys console, ∃ text,
    (program ctx sys console).2.stdout = console.stdout ++ text ∧
      (IsReply text ↔ good ctx sys console.memory)

namespace ReadM.Replies

variable {program : ReadM σ τ α} {post : α → Prop} {good other : Condition σ τ} {holds : Prop}

/-- The text is settled before the program starts. -/
theorem prints
    {text : CStr}
    (shape : ∀ ctx sys console, (program ctx sys console).2.stdout = console.stdout ++ text)
    (settles : IsReply text ↔ holds) :
    program.Replies (decided holds) :=
  fun ctx _ sys console => ⟨text, shape ctx sys console, settles⟩

theorem settle
    {same : Prop} (replies : program.Replies (decided same)) (settles : same ↔ holds) :
    program.Replies (decided holds) := by
  intro ctx speaks sys console
  obtain ⟨text, printed, reply⟩ := replies ctx speaks sys console
  exact ⟨text, printed, reply.trans settles⟩

/-- A program that prints nothing in front, when the rest does not depend on it. -/
theorem after
    {next : α → ReadM σ τ β}
    (first : program.Yields post)
    (second : ∀ value, post value → (next value).Replies (decided holds)) :
    (program >>= next).Replies (decided holds) := by
  intro ctx speaks sys console
  obtain ⟨silent, known⟩ := first ctx speaks sys console
  obtain ⟨text, printed, settles⟩ := second _ known ctx speaks sys (program ctx sys console).2
  exact ⟨text, printed.trans (congrArg (· ++ text) silent), settles⟩

/-- A getter in front, when the rest is settled after a failure and after a success. -/
theorem answer
    {call : Query β} {next : Except Err β → ReadM σ τ α}
    (failed : ∀ err : Err, err.Spelled → (next (.error err)).Replies (decided holds))
    (answered : ∀ value, call.Spells value → (next (.ok value)).Replies (decided holds)) :
    (query call >>= next).Replies (decided holds) := by
  refine .after (.query call) fun answer spells => ?_
  cases answer with
  | error err => exact failed err spells
  | ok value => exact answered value spells

/-- A reading program in front, and the rest by what it has learned. -/
theorem learnWith
    {next : α → ReadM σ τ β} {goal : α → Condition σ τ}
    (reads : program.Reads) (yields : program.Yields post)
    (second : ∀ value, post value → (next value).Replies (goal value)) :
    (program >>= next).Replies (Condition.learn program goal) := by
  intro ctx speaks sys console
  obtain ⟨-, known⟩ := yields ctx speaks sys (blank console.memory)
  rw [ReadM.bind_run, reads ctx sys console]
  exact second _ known ctx speaks sys _

theorem learn
    {next : α → ReadM σ τ β} {goal : α → Condition σ τ}
    (reads : program.Reads) (second : ∀ value, (next value).Replies (goal value)) :
    (program >>= next).Replies (Condition.learn program goal) := by
  intro ctx speaks sys console
  rw [ReadM.bind_run, reads ctx sys console]
  exact second _ ctx speaks sys _

theorem env {next : Env → ReadM σ τ β} (second : ∀ env, (next env).Replies good) :
    (getEnv >>= next).Replies good :=
  fun ctx speaks sys console => second _ ctx speaks sys console

theorem ask
    {call : Query β} {next : Except Err β → ReadM σ τ α} {goal : Except Err β → Condition σ τ}
    (failed : ∀ err : Err, err.Spelled → (next (.error err)).Replies (goal (.error err)))
    (answered : ∀ value, call.Spells value → (next (.ok value)).Replies (goal (.ok value))) :
    (query call >>= next).Replies (Condition.ask call goal) := by
  refine .learnWith (.query call) (.query call) fun answer spells => ?_
  cases answer with
  | error err => exact failed err spells
  | ok value => exact answered value spells

theorem askOpt
    {call : Query β} {next : Option β → ReadM σ τ α} {goal : Except Err β → Condition σ τ}
    (failed : ∀ err, (next none).Replies (goal (.error err)))
    (answered : ∀ value, (next (some value)).Replies (goal (.ok value))) :
    (queryOpt call >>= next).Replies (Condition.ask call goal) := by
  intro ctx speaks sys console
  have asked : Condition.ask call goal ctx sys console.memory =
      goal (ctx.lib.query call sys console.memory).1 ctx sys
        (ctx.lib.query call sys console.memory).2 := rfl
  rw [asked, ReadM.bind_run, queryOpt_run]
  cases (ctx.lib.query call sys console.memory).1 with
  | error err => exact failed err ctx speaks sys _
  | ok value => exact answered value ctx speaks sys _

/-- The choice the handler makes is the choice the condition makes. -/
theorem ite
    {condition : Prop} [Decidable condition] {first second : ReadM σ τ α}
    (whenTrue : condition → first.Replies good)
    (whenFalse : ¬condition → second.Replies other) :
    (if condition then first else second).Replies (if condition then good else other) := by
  split
  · next holds => exact whenTrue holds
  · next fails => exact whenFalse fails

/-- Both branches print a reply under one condition. -/
theorem cases
    {condition : Prop} [Decidable condition] {first second : ReadM σ τ α}
    (whenTrue : condition → first.Replies good)
    (whenFalse : ¬condition → second.Replies good) :
    (if condition then first else second).Replies good := by
  split
  · next holds => exact whenTrue holds
  · next fails => exact whenFalse fails

end ReadM.Replies

section Endings

variable {message fallback text : CStr} {err : Err}

theorem zenctlStrerror_spelled (code : Int) : IsUtf8 (zenctlStrerror code) := by
  unfold zenctlStrerror
  split_ifs
  all_goals exact (phrase rfl).spelled

/-- Message and context fit the buffer they are printed into. -/
theorem Err.Spelled.full (spelled : err.Spelled) (known : IsMessage message) :
    IsUtf8 (bounded 768 (message ++ ": ".toList ++ err.context)) := by
  have short : (message ++ ": ".toList ++ err.context).length ≤ 768 - 1 := by
    have first := known.short
    have second := spelled.context.short
    have between : ": ".toList.length = 2 := by decide
    rw [List.length_append, List.length_append, between]
    omega
  rw [bounded, List.take_of_length_le short, List.append_assoc]
  exact known.spelled.append ((phrase rfl).spelled.append spelled.context.spelled)

/-- The programs of `output.c` and `cmd_util.c` that end a handler in JSON mode. -/
theorem failWith_replies (spelled : err.Spelled) (known : IsMessage fallback) :
    (failWith true (some err) fallback : ReadM σ τ Int).Replies always := by
  refine .prints (fun _ _ _ => rfl) (iff_true_intro ((outJsonError_reply_iff _ _).mpr ?_))
  have message : IsMessage (if err.message = [] then fallback else err.message) := by
    split
    · exact known
    · exact spelled.message
  dsimp only
  split
  · exact message.spelled
  · exact spelled.full message

/-- Without an error record the text of the handler itself is printed. -/
theorem failWith_iff (text : CStr) :
    (failWith true none text : ReadM σ τ Int).Replies (decided (IsUtf8 text)) :=
  .prints (fun _ _ _ => rfl) (outJsonError_reply_iff _ _)

theorem fail_replies (known : IsMessage text) :
    (failWith true none text : ReadM σ τ Int).Replies always :=
  (failWith_iff text).settle (iff_true_intro known.spelled)

theorem cliErr_replies (known : IsMessage err.message) :
    (cliErr true err : ReadM σ τ Int).Replies always := by
  refine .prints (fun _ _ _ => rfl) (iff_true_intro ((outJsonError_reply_iff _ _).mpr ?_))
  split
  · exact zenctlStrerror_spelled _
  · exact known.spelled

theorem refuse_replies (code : Int) (known : IsMessage message) (context : CStr) :
    (refuse true code message context : ReadM σ τ Int).Replies always :=
  cliErr_replies (cliMakeErr_message known code context)

theorem unknownWord_replies (before word after : CStr) :
    (unknownWord true before word after : ReadM σ τ Int).Replies (unknown before word after) :=
  failWith_iff _

theorem outJsonError_replies (code : Int) (known : IsMessage message) :
    IsReply (outJsonError code message) :=
  (outJsonError_reply_iff code message).mpr known.spelled

theorem confirmRequired_replies (known : IsMessage message) :
    (confirmRequired true message : ReadM σ τ Int).Replies always :=
  .prints (fun _ _ _ => rfl) (iff_true_intro (outJsonError_replies _ known))

/-- The usage goes to standard error in both modes. -/
theorem cliUsage_replies (text : CStr) : (cliUsage text : ReadM σ τ Int).Replies impossible :=
  .prints (fun _ _ console => (List.append_nil console.stdout).symm)
    (iff_false_intro nothing_broken)

theorem announce_replies (what : CStr) :
    (announce true what : ReadM σ τ Int).Replies (announced what) :=
  .prints (fun _ _ _ => rfl) (dryrunJson_reply_iff what)

theorem report_replies
    {document : CStr} {holds : Prop} (settles : IsReply document ↔ holds)
    (lines : ReadM σ τ Unit) :
    (report true document lines).Replies (decided holds) :=
  .prints (fun _ _ _ => rfl) settles

theorem report_speaks
    {document : CStr} (reply : IsReply document) (lines : ReadM σ τ Unit) :
    (report true document lines).Replies always :=
  report_replies (iff_true_intro reply) lines

theorem report_breaks
    {document : CStr} (broken : ¬IsReply document) (lines : ReadM σ τ Unit) :
    (report true document lines).Replies impossible :=
  report_replies (iff_false_intro broken) lines

/-- A report in an object. -/
theorem object_replies
    {fields : List Field} (printable : Printable fields) (lines : ReadM σ τ Unit) :
    (report true (okObject fields) lines).Replies always :=
  report_speaks (okObject_reply printable) lines

/-- An object that starts with words of the command line. -/
theorem object_spelled
    {fields others : List Field} (plain : fields.all Field.isPlain = true)
    (printable : Printable others) (lines : ReadM σ τ Unit) :
    (report true (okObject (fields ++ others)) lines).Replies
      (spelled (fields.flatMap Field.texts)) :=
  report_replies (okObject_append_reply_iff plain printable) lines

/-- `put` as the whole of the JSON branch, with the exit status behind it. -/
theorem put_replies
    {document : CStr} {holds : Prop} (settles : IsReply document ↔ holds) (status : α) :
    (do put document; pure status : ReadM σ τ α).Replies (decided holds) :=
  .prints (fun _ _ _ => rfl) settles

theorem readOrErr_replies
    {call : Query β} {next : β → ReadM σ τ Int} {goal : β → Condition σ τ}
    (second : ∀ value, call.Spells value → (next value).Replies (goal value)) :
    (readOrErr true call next).Replies (orError call goal) :=
  .ask (fun _ spelled => cliErr_replies spelled.message) second

/-- An open in front of a program that always prints a reply. -/
theorem readOrErr_always
    {call : Query β} {next : β → ReadM σ τ Int}
    (second : ∀ value, call.Spells value → (next value).Replies always) :
    (readOrErr true call next).Replies always :=
  .answer (fun _ spelled => cliErr_replies spelled.message) second

/-- A getter whose fields are printed without braces prints a reply only when it fails. -/
theorem showBare_replies
    {call : Query β} {fields : β → List Field} {lines : β → ReadM σ τ Unit}
    (nonempty : ∀ value, fields value ≠ []) :
    (showBare true call fields lines).Replies (fails call) := by
  refine readOrErr_replies fun value _ => ?_
  obtain ⟨field, rest, shape⟩ := List.exists_cons_of_ne_nil (nonempty value)
  rw [shape]
  exact report_breaks (okBare_broken field rest) _

/-- Two getters of which one is enough, with bare fields behind them. -/
theorem bothFail_replies
    {first : Query α} {second : Query β} {next : Option α → Option β → ReadM σ τ Int}
    (failed : (next none none).Replies always)
    (answered : ∀ a b, a.isSome ∨ b.isSome → (next a b).Replies impossible) :
    (do
      let a ← queryOpt first
      let b ← queryOpt second
      next a b : ReadM σ τ Int).Replies (bothFail first second) := by
  refine .askOpt (fun _ => .askOpt (fun _ => ?_) fun b => ?_) fun a =>
    .askOpt (fun _ => ?_) fun b => ?_
  · exact failed.settle (iff_of_true trivial ⟨rfl, rfl⟩)
  · exact (answered none (some b) (.inr rfl)).settle (iff_of_false id fun both => nomatch both.2)
  · exact (answered (some a) none (.inl rfl)).settle (iff_of_false id fun both => nomatch both.1)
  · exact (answered (some a) (some b) (.inl rfl)).settle
      (iff_of_false id fun both => nomatch both.1)

end Endings

/-! ## Changing programs -/

@[inherit_doc ReadM.Yields]
def CliM.Yields (program : CliM σ τ α) (post : α → Prop) : Prop :=
  ∀ ctx, ctx.Spells → ∀ process,
    (program ctx process).2.console.stdout = process.console.stdout ∧
      post (program ctx process).1

namespace CliM.Yields

variable {program : CliM σ τ α} {post : α → Prop}

theorem pure {value : α} (holds : post value) : (pure value : CliM σ τ α).Yields post :=
  fun _ _ _ => ⟨rfl, holds⟩

theorem reading {program : ReadM σ τ α} (yields : program.Yields post) :
    (reading program).Yields post :=
  fun ctx speaks process => yields ctx speaks process.sys process.console

theorem update (call : Update) :
    (Zenctl.update call : CliM σ τ (Except Err Unit)).Yields
      (Answers Err.Spelled fun _ => True) := by
  intro ctx speaks process
  refine ⟨rfl, ?_⟩
  change Answers _ _ (ctx.lib.update call process.sys process.console.memory).1
  cases answer : (ctx.lib.update call process.sys process.console.memory).1 with
  | error err => exact speaks.refused call _ _ err answer
  | ok done => trivial

theorem prompt (what : CStr) : (Zenctl.prompt what : CliM σ τ Bool).Yields fun _ => True :=
  fun _ _ _ => ⟨rfl, trivial⟩

theorem bind
    {next : α → CliM σ τ β} {goal : β → Prop}
    (first : program.Yields post)
    (second : ∀ value, post value → (next value).Yields goal) :
    (program >>= next).Yields goal := by
  intro ctx speaks process
  obtain ⟨silent, holds⟩ := first ctx speaks process
  obtain ⟨silentNext, reached⟩ := second _ holds ctx speaks (program ctx process).2
  exact ⟨silentNext.trans silent, reached⟩

theorem ite
    {condition : Prop} [Decidable condition] {first second : CliM σ τ α}
    (whenTrue : condition → first.Yields post)
    (whenFalse : ¬condition → second.Yields post) :
    (if condition then first else second).Yields post := by
  split
  · next holds => exact whenTrue holds
  · next fails => exact whenFalse fails

@[inherit_doc ReadM.Yields.answer]
theorem answer
    {call : Query β} {next : Except Err β → CliM σ τ α}
    (failed : ∀ {err}, (next (.error err)).Yields post)
    (answered : ∀ value, call.Spells value → (next (.ok value)).Yields post) :
    (Zenctl.reading (query call) >>= next).Yields post := by
  refine .bind (.reading (.query call)) fun answer spells => ?_
  cases answer with
  | error err => exact failed
  | ok value => exact answered value spells

theorem collectCli
    {round : α → CliM σ τ β} {goal : β → Prop}
    (yields : ∀ item, (round item).Yields goal)
    (items : List α) :
    (collectCli round items).Yields fun results => ∀ result ∈ results, goal result := by
  induction items with
  | nil => exact .pure (List.forall_mem_nil _)
  | cons item rest inductionHypothesis =>
      exact .bind (yields item) fun result here =>
        .bind inductionHypothesis fun results others =>
          .pure (List.forall_mem_cons.mpr ⟨here, others⟩)

end CliM.Yields

/-- The program prints a reply exactly under this condition. -/
def CliM.Replies (program : CliM σ τ α) (good : Condition σ τ) : Prop :=
  ∀ ctx, ctx.Spells → ∀ process, ∃ text,
    (program ctx process).2.console.stdout = process.console.stdout ++ text ∧
      (IsReply text ↔ good ctx process.sys process.console.memory)

namespace CliM.Replies

variable {program : CliM σ τ α} {post : α → Prop} {good other : Condition σ τ} {holds : Prop}

theorem reading {program : ReadM σ τ α} (replies : program.Replies good) :
    (reading program).Replies good :=
  fun ctx speaks process => replies ctx speaks process.sys process.console

theorem ite
    {condition : Prop} [Decidable condition] {first second : CliM σ τ α}
    (whenTrue : condition → first.Replies good)
    (whenFalse : ¬condition → second.Replies other) :
    (if condition then first else second).Replies (if condition then good else other) := by
  split
  · next holds => exact whenTrue holds
  · next fails => exact whenFalse fails

theorem cases
    {condition : Prop} [Decidable condition] {first second : CliM σ τ α}
    (whenTrue : condition → first.Replies good)
    (whenFalse : ¬condition → second.Replies good) :
    (if condition then first else second).Replies good := by
  split
  · next holds => exact whenTrue holds
  · next fails => exact whenFalse fails

/-- A program that prints nothing in front, when the rest does not depend on it. -/
theorem after
    {next : α → CliM σ τ β}
    (first : program.Yields post)
    (second : ∀ value, post value → (next value).Replies (decided holds)) :
    (program >>= next).Replies (decided holds) := by
  intro ctx speaks process
  obtain ⟨silent, known⟩ := first ctx speaks process
  obtain ⟨text, printed, settles⟩ := second _ known ctx speaks (program ctx process).2
  exact ⟨text, printed.trans (congrArg (· ++ text) silent), settles⟩

/-- A reading program in front, and the rest by what it has learned. -/
theorem learnWith
    {front : ReadM σ τ α} {next : α → CliM σ τ β} {goal : α → Condition σ τ}
    (reads : front.Reads) (yields : front.Yields post)
    (second : ∀ value, post value → (next value).Replies (goal value)) :
    (Zenctl.reading front >>= next).Replies (Condition.learn front goal) := by
  intro ctx speaks process
  obtain ⟨-, known⟩ := yields ctx speaks process.sys (blank process.console.memory)
  rw [CliM.bind_run, reading_run, reads ctx process.sys process.console]
  exact second _ known ctx speaks _

/-- The environment in front. -/
theorem env
    {next : Env → CliM σ τ β} {goal : Env → Condition σ τ}
    (second : ∀ env, (next env).Replies (goal env)) :
    (Zenctl.reading getEnv >>= next).Replies (byEnv goal) :=
  fun ctx speaks process => second ctx.env ctx speaks process

/-- A program that prints nothing behind. -/
theorem before
    {next : α → CliM σ τ β}
    (first : program.Replies good)
    (second : ∀ value, (next value).Yields fun _ => True) :
    (program >>= next).Replies good := by
  intro ctx speaks process
  obtain ⟨text, printed, settles⟩ := first ctx speaks process
  exact ⟨text, ((second _ ctx speaks _).1).trans printed, settles⟩

@[inherit_doc ReadM.Replies.answer]
theorem answer
    {call : Query β} {next : Except Err β → CliM σ τ α}
    (failed : ∀ err : Err, err.Spelled → (next (.error err)).Replies (decided holds))
    (answered : ∀ value, call.Spells value → (next (.ok value)).Replies (decided holds)) :
    (Zenctl.reading (query call) >>= next).Replies (decided holds) := by
  refine .after (.reading (.query call)) fun answer spells => ?_
  cases answer with
  | error err => exact failed err spells
  | ok value => exact answered value spells

theorem ask
    {call : Query β} {next : Except Err β → CliM σ τ α} {goal : Except Err β → Condition σ τ}
    (failed : ∀ err : Err, err.Spelled → (next (.error err)).Replies (goal (.error err)))
    (answered : ∀ value, call.Spells value → (next (.ok value)).Replies (goal (.ok value))) :
    (Zenctl.reading (query call) >>= next).Replies (Condition.ask call goal) := by
  refine .learnWith (.query call) (.query call) fun answer spells => ?_
  cases answer with
  | error err => exact failed err spells
  | ok value => exact answered value spells

end CliM.Replies

theorem cliRequireRoot_refusal
    {ctx : Ctx σ τ} (other : ctx.env.euid ≠ 0) (sys : σ) (console : Console τ) :
    (cliRequireRoot true ctx sys console).2 =
      { console with
        stdout := console.stdout ++ outJsonError 1 "this operation requires root" } := by
  simp only [cliRequireRoot, ReadM.bind_run, getEnv, other, ↓reduceIte, ReadM.pure_run, put]

theorem asRoot_replies
    {next : CliM σ τ Int} {good : Condition σ τ} (replies : next.Replies good) :
    (asRoot true next).Replies (orUser good) := by
  intro ctx speaks process
  by_cases root : ctx.env.euid = 0
  · obtain ⟨text, printed, settles⟩ := replies ctx speaks process
    rw [asRoot_root root]
    exact ⟨text, printed, settles.trans (imp_iff_right root).symm⟩
  · refine ⟨outJsonError 1 "this operation requires root", ?_,
      iff_of_true (outJsonError_replies 1 (phrase rfl)) fun isRoot => (root isRoot).elim⟩
    rw [asRoot_other root, reading_run, cliRequireRoot_refusal root]

theorem openOrErr_replies
    {call : Query β} {next : β → CliM σ τ Int} {goal : β → Condition σ τ}
    (second : ∀ handle, (next handle).Replies (goal handle)) :
    (openOrErr true call next).Replies (orError call goal) :=
  .ask (fun _ spelled => .reading (cliErr_replies spelled.message)) fun handle _ => second handle

/-- A setter that reports its success in an object. -/
theorem setOr_replies
    {call : Update} {fallback document : CStr} {lines : ReadM σ τ Unit}
    (known : IsMessage fallback) (reply : IsReply document) :
    (setOr true call fallback document lines).Replies always := by
  refine .after (.update call) fun answer spelled => ?_
  cases answer with
  | error err => exact .reading (failWith_replies spelled known)
  | ok done => exact .reading (report_speaks reply lines)

@[inherit_doc setOr_replies]
theorem setOrErr_speaks
    {call : Update} {document : CStr} {lines : ReadM σ τ Unit} (reply : IsReply document) :
    (setOrErr true call document lines).Replies always := by
  refine .after (.update call) fun answer spelled => ?_
  cases answer with
  | error err => exact .reading (cliErr_replies spelled.message)
  | ok done => exact .reading (report_speaks reply lines)

/-- A setter in front, and the rest by whether it failed. -/
theorem update_replies
    {call : Update} {next : Except Err Unit → CliM σ τ Int} {holds : Prop}
    (failed : ∀ err : Err, err.Spelled → (next (.error err)).Replies always)
    (done : (next (.ok ())).Replies (decided holds)) :
    (update call >>= next).Replies fun ctx sys memory =>
      (∃ err, (ctx.lib.update call sys memory).1 = .error err) ∨ holds := by
  intro ctx speaks process
  have onward : (update call >>= next) ctx process =
      next (ctx.lib.update call process.sys process.console.memory).1 ctx
        (update call ctx process).2 := rfl
  rw [onward]
  cases answer : (ctx.lib.update call process.sys process.console.memory).1 with
  | error err =>
      have spelled := speaks.refused call _ _ err answer
      obtain ⟨text, printed, settles⟩ := failed err spelled ctx speaks (update call ctx process).2
      exact ⟨text, printed, iff_of_true (settles.mpr trivial) (.inl ⟨err, answer⟩)⟩
  | ok _ =>
      obtain ⟨text, printed, settles⟩ := done ctx speaks (update call ctx process).2
      have succeeds : ¬∃ err, (ctx.lib.update call process.sys process.console.memory).1 =
          .error err := answer ▸ ok_no_error
      exact ⟨text, printed, settles.trans (or_iff_right succeeds).symm⟩

/-- A setter that repeats words of the command line when it succeeds. -/
theorem setOr_spelled
    {call : Update} {fallback : CStr} {fields : List Field} {lines : ReadM σ τ Unit}
    (known : IsMessage fallback) (plain : fields.all Field.isPlain = true) :
    (setOr true call fallback (okObject fields) lines).Replies
      (refusedOr call (fields.flatMap Field.texts)) :=
  update_replies (fun _ spelled => .reading (failWith_replies spelled known))
    (.reading (report_replies (okObject_reply_iff plain) lines))

/-- A setter that reports its success in bare fields prints a reply only when it fails. -/
theorem setOrErr_replies
    {call : Update} (field : Field) (fields : List Field) {lines : ReadM σ τ Unit} :
    (setOrErr true call (okBare (field :: fields)) lines).Replies (refused call) := by
  have replies : (setOrErr true call (okBare (field :: fields)) lines : CliM σ τ Int).Replies _ :=
    update_replies (fun _ spelled => .reading (cliErr_replies spelled.message))
      (.reading (report_breaks (okBare_broken field fields) lines))
  intro ctx speaks process
  obtain ⟨text, printed, settles⟩ := replies ctx speaks process
  exact ⟨text, printed, settles.trans (or_iff_left id)⟩

/-- A change that is announced, or made and reported in bare fields. -/
theorem write_replies
    (dryRun : Bool) (what : CStr) {call : Update} (field : Field) (fields : List Field)
    {lines : ReadM σ τ Unit} :
    (if dryRun then reading (announce true what)
      else setOrErr true call (okBare (field :: fields)) lines).Replies
      (written dryRun what call) :=
  .ite (fun _ => .reading (announce_replies what)) fun _ => setOrErr_replies field fields

end Zenctl
