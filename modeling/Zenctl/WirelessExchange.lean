import Zenctl.WirelessReplies
import Zenctl.WirelessRequests
import Mathlib.Tactic.IntervalCases

namespace Zenctl

open CString Netlink

/-!
# Exchanges with the kernel's side of generic netlink

The kernel handles a request and answers with an `NLMSG_ERROR` message when the
handler failed, or when the request asked for an acknowledgement.  The code in
that message is the negated errno.
-/

variable {σ α : Type}

/-! ## Rejections -/

/-- The first message received is an `NLMSG_ERROR` that carries `-code`. -/
structure Carries (d : Datagram) (code : Int) : Prop where
  long : nlmsgHdrlen + 4 ≤ d.nlmsgLen 0
  received : d.nlmsgLen 0 ≤ d.size
  isError : d.nlmsgType 0 = nlmsgError
  carried : d.i32 nlmsgHdrlen = -code

/-- A negative code is reported as `EINVAL`, whatever it is. -/
theorem parseAck_carries
    {d : Datagram} {code : Int}
    (carries : Carries d code) :
    parseAck d 0 = if code = 0 then 0 else if code < 0 then -code else Errno.einval.1 := by
  have long := carries.long
  unfold parseAck
  rw [if_neg (not_not.mpr carries.isError), if_neg (by omega), Nat.zero_add, carries.carried]
  dsimp only
  split_ifs <;> omega

theorem parseAck_refusal
    {d : Datagram} {code : Int}
    (carries : Carries d code)
    (positive : 0 < code) :
    parseAck d 0 = Errno.einval.1 := by
  rw [parseAck_carries carries, if_neg (by omega), if_neg (by omega)]

/-- A walk that stops at the first message stops there. -/
theorem messages_stop
    {β : Type} {d : Datagram} {code : Int} {visit : β → Nat → Visit α β} {start : β} {result : α}
    (carries : Carries d code)
    (stops : visit start 0 = .stop result) :
    d.messages visit start = .inl result := by
  obtain ⟨long, received, -, -⟩ := carries
  unfold nlmsgHdrlen at long
  obtain ⟨rounds, size⟩ : ∃ rounds, d.size = rounds + 1 := ⟨d.size - 1, by omega⟩
  unfold Datagram.messages
  rw [size, Datagram.walk, if_neg (by unfold nlmsgHdrlen; omega),
    if_neg (by unfold nlmsgHdrlen; omega), stops]

section Refusal

variable {d : Datagram} {code : Int} (carries : Carries d code) (positive : 0 < code)

include carries positive

theorem ackOf_refusal :
    ackOf d = Errno.einval.1 := by
  refine (ackOf_eq d).trans ?_
  have stops : visitAck d () 0 = .stop Errno.einval.1 := by
    unfold visitAck
    rw [if_pos carries.isError, parseAck_refusal carries positive]
  rw [messages_stop carries stops]

theorem answer_refusal (read : Datagram → Nat → Except Errno α) :
    d.messages (visitAnswer d read) false = .inl (.refused Errno.einval.1) := by
  refine messages_stop carries ?_
  unfold visitAnswer
  rw [if_pos carries.isError, parseAck_refusal carries positive]
  rfl

theorem familyOf_refusal :
    familyOf d = .error (some Errno.einval.1) := by
  unfold familyOf
  have stops : visitFamily d none 0 = .stop (.error (some Errno.einval.1)) := by
    unfold visitFamily
    rw [if_pos carries.isError, parseAck_refusal carries positive]
    rfl
  rw [messages_stop carries stops]

end Refusal

/-- The exchange delivers a refusal with this code. -/
def Exchange.Refused (exchange : Exchange) (request : Bytes) (code : Int) : Prop :=
  exchange.sent = .ok request.length ∧
    ∃ d later, exchange.replies = .ok d :: later ∧ Carries d code

/-- A kernel that refuses every request with this code. -/
structure Os.Refuses (os : Os σ) (code : Int) : Prop where
  socket : ∀ sys, os.netlinkSocket sys = .ok ()
  gets : ∀ sys request, (os.netlinkGet sys request).Refused request code
  sets : ∀ sys request, (os.netlinkSet sys request).1.Refused request code

/-! ## The functions of `nl80211.c` on a refusal -/

theorem checkSent_whole
    {os : Os σ} {sys : σ} {proc : Proc} {request : Bytes} {sent : Except Errno Nat}
    (whole : sent = .ok request.length) :
    checkSent request sent os sys proc = (.value true, proc) := by
  subst whole
  simp only [checkSent, ↓reduceIte]
  rfl

theorem recvAll_next
    {os : Os σ} {sys : σ} {proc : Proc} {d : Datagram} {later : List (Except Errno Datagram)}
    (memory : proc.allocations = []) :
    recvAll (.ok d :: later) os sys proc = (.value (some (d, later)), proc) := by
  unfold recvAll
  rw [GetM.bind_value (allocate_run memory)]
  rfl

theorem getFamilyId_cached
    {os : Os σ} {sys : σ} {proc : Proc} {family : Int}
    (known : proc.familyId = some family) :
    getFamilyId os sys proc = (.value (some family), proc) :=
  GetM.bind_value (show getFamilyId.cachedFamily os sys proc = (.value (some family), proc) by
    rw [← known]
    rfl)

section Queue

variable {os : Os σ} {sys changed : σ} {proc : Proc} {request : Bytes} {exchange : Exchange}
  (socket : os.netlinkSocket sys = .ok ())
  (answered : os.netlinkSet sys request = (exchange, changed))
  (sent : exchange.sent = .ok request.length)
  (memory : proc.allocations = [])

include socket answered sent memory

/-- With nothing in the queue `nl80211_do_ack` waits. -/
theorem doAck_empty (empty : exchange.replies = []) :
    doAck request os sys proc = (.blocked, changed, proc) := by
  have waits : recvAll exchange.replies os changed proc = (.blocked, proc) := by
    rw [empty]
    exact GetM.bind_value (allocate_run memory)
  refine (SetM.bind_getting_value (sysCall_ok socket)).trans ?_
  refine (SetM.bind_value (show doAck.exchangeSet request os sys proc =
    (.value exchange, changed, proc) by simp only [doAck.exchangeSet, answered])).trans ?_
  refine (SetM.bind_getting_value (checkSent_whole sent)).trans ?_
  rw [if_pos rfl]
  exact SetM.bind_getting_blocked waits

/-- The verdict is the error of the message it finds. -/
theorem doAck_queued
    {d : Datagram} {rest : List (Except Errno Datagram)}
    (queued : exchange.replies = .ok d :: rest) :
    doAck request os sys proc =
      if ackOf d = 0 then (.value (some ()), changed, proc)
      else (.value none, changed, { proc with errno := ackOf d }) := by
  refine (SetM.bind_getting_value (sysCall_ok socket)).trans ?_
  refine (SetM.bind_value (show doAck.exchangeSet request os sys proc =
    (.value exchange, changed, proc) by simp only [doAck.exchangeSet, answered])).trans ?_
  refine (SetM.bind_getting_value (checkSent_whole sent)).trans ?_
  rw [if_pos rfl, queued]
  refine (SetM.bind_getting_value (recvAll_next memory)).trans ?_
  by_cases acked : ackOf d = 0
  · simp only [acked, ↓reduceIte]
    rfl
  · simp only [acked, ↓reduceIte]
    rfl

end Queue

section Runs

variable {os : Os σ} {code : Int} (refuses : os.Refuses code) (positive : 0 < code)
  (sys : σ) {proc : Proc} (memory : proc.allocations = [])

include refuses positive memory

theorem doAck_refused (request : Bytes) :
    ∃ changed, doAck request os sys proc =
      (.value none, changed, { proc with errno := Errno.einval.1 }) := by
  obtain ⟨sent, d, later, replies, carries⟩ := refuses.sets sys request
  refine ⟨(os.netlinkSet sys request).2, ?_⟩
  rw [doAck_queued (refuses.socket sys) rfl sent memory replies, ackOf_refusal carries positive,
    if_neg (by decide)]

theorem doQuery_refused (request : Bytes) (read : Datagram → Nat → Except Errno α) :
    doQuery request read os sys proc = (.value none, { proc with errno := Errno.einval.1 }) := by
  obtain ⟨sent, d, later, replies, carries⟩ := refuses.gets sys request
  refine (GetM.bind_value (sysCall_ok (refuses.socket sys))).trans ?_
  refine (GetM.bind_value (show doQuery.exchangeGet request os sys proc =
    (.value (os.netlinkGet sys request), proc) from rfl)).trans ?_
  refine (GetM.bind_value (checkSent_whole sent)).trans ?_
  rw [if_pos rfl, replies, queryLoop]
  refine (GetM.bind_value (recvAll_next memory)).trans ?_
  dsimp only
  rw [answer_refusal carries positive]
  rfl

theorem getFamilyId_refused (uncached : proc.familyId = none) :
    getFamilyId os sys proc = (.value none, { proc with errno := Errno.einval.1 }) := by
  obtain ⟨request, built⟩ : ∃ request, buildRequest 128 genlIdCtrl ctrlCmdGetfamily
      [(ctrlAttrFamilyName, cstrBytes "nl80211" ++ [0])] = some request := ⟨_, rfl⟩
  obtain ⟨sent, d, later, replies, carries⟩ := refuses.gets sys request
  have cached : getFamilyId.cachedFamily os sys proc = (.value none, proc) := by
    rw [← uncached]
    rfl
  have builds : buildGetfamily 128 os sys proc = (.value (some request), proc) := by
    unfold buildGetfamily
    rw [built]
    rfl
  refine (GetM.bind_value cached).trans ?_
  refine (GetM.bind_value builds).trans ?_
  refine (GetM.bind_value (sysCall_ok (refuses.socket sys))).trans ?_
  refine (GetM.bind_value (show doQuery.exchangeGet request os sys proc =
    (.value (os.netlinkGet sys request), proc) from rfl)).trans ?_
  refine (GetM.bind_value (checkSent_whole sent)).trans ?_
  rw [if_pos rfl, replies]
  refine (GetM.bind_value (recvAll_next memory)).trans ?_
  dsimp only
  rw [familyOf_refusal carries positive]
  rfl

/-- Whether or not the family is known, a query ends with the refusal. -/
theorem familyQuery_refused
    {build : Int → GetM σ (Option Bytes)} {read : Datagram → Nat → Except Errno α}
    (builds : ∀ family, proc.familyId = some family →
      ∃ request, build family os sys proc = (.value (some request), proc)) :
    familyQuery build read os sys proc = (.value none, { proc with errno := Errno.einval.1 }) := by
  rcases Option.eq_none_or_eq_some proc.familyId with unknown | ⟨family, known⟩
  · exact GetM.bind_value (getFamilyId_refused refuses positive sys memory unknown)
  · obtain ⟨request, built⟩ := builds family known
    refine (GetM.bind_value (getFamilyId_cached known)).trans ?_
    refine (GetM.bind_value built).trans ?_
    exact doQuery_refused refuses positive sys memory request read

theorem familyCommand_refused
    (build : Int → GetM σ (Option Bytes))
    (builds : ∀ family, proc.familyId = some family →
      ∃ request, build family os sys proc = (.value (some request), proc)) :
    ∃ changed, familyCommand build os sys proc =
      (.value none, changed, { proc with errno := Errno.einval.1 }) := by
  rcases Option.eq_none_or_eq_some proc.familyId with unknown | ⟨family, known⟩
  · refine ⟨sys, ?_⟩
    exact SetM.bind_getting_value (getFamilyId_refused refuses positive sys memory unknown)
  · obtain ⟨request, built⟩ := builds family known
    obtain ⟨changed, acked⟩ := doAck_refused refuses positive sys memory request
    refine ⟨changed, ?_⟩
    refine (SetM.bind_getting_value (getFamilyId_cached known)).trans ?_
    refine (SetM.bind_getting_value built).trans ?_
    exact acked

end Runs

/-- A build function with good arguments; 44 bytes are enough for every request. -/
theorem Request.build_value
    {os : Os σ} {sys : σ} {proc : Proc} (request : Request) {size : Nat}
    (valid : request.Valid)
    (room : 44 ≤ size) :
    ∃ message, request.build size os sys proc = (.value (some message), proc) := by
  obtain ⟨ok, isValid, run⟩ := request.build_eq (σ := σ) size
  have short := Request.length_le valid
  unfold Request.length at short
  rw [run, isValid.mpr valid, buildRequest_eq, if_neg (by omega)]
  exact ⟨_, rfl⟩

/-! ## The wireless calls -/

/-- The calls of `wireless.c` that send a request. -/
inductive WirelessCall where
  | getRegdomain
  | setRegdomain (country : CStr)
  | getTxpower
  | setTxpower (mBm : Int)
  | setPowerSave (on : Bool)

namespace WirelessCall

def run (wl : WirelessHandle) : WirelessCall → SetM σ Unit
  | getRegdomain => getting do
      let _ ← zenctlWirelessGetRegdomain wl
      pure ()
  | setRegdomain country => zenctlWirelessSetRegdomain wl country
  | getTxpower => getting do
      let _ ← zenctlWirelessGetTxpower wl
      pure ()
  | setTxpower mBm => zenctlWirelessSetTxpower wl mBm
  | setPowerSave on => zenctlWirelessSetPowerSave wl on

/-- Nothing stops the call before its request. -/
def Asks (os : Os σ) (sys : σ) (proc : Proc) (wl : WirelessHandle) : WirelessCall → Prop
  | getRegdomain => True
  | setRegdomain country => country.length = 2 ∧ country.all isAlpha = true
  | getTxpower | setTxpower _ => 0 ≤ wl.index
  | setPowerSave _ => ∃ ifindex, (phyToIfindex wl.phy os sys proc).1 = .value ifindex ∧ 0 < ifindex

end WirelessCall

/-- The program fails with this code in the error record. -/
def FailsWith (program : SetM σ Unit) (os : Os σ) (sys : σ) (proc : Proc) (code : Int) : Prop :=
  (program os sys proc).1 = .failed ∧ (program os sys proc).2.2.err.code = code

theorem orErrno_none
    {os : Os σ} {sys : σ} {proc : Proc} {program : GetM σ (Option α)} {e : Int}
    (none : program os sys proc = (.value none, { proc with errno := e })) (caller : CStr) :
    ∃ later, orErrno program caller os sys proc = (.failed, later) ∧
      later.err.code = errnoToCode e :=
  ⟨_, GetM.bind_value none, rfl⟩

/-- A getter that fails, in the place of a setter. -/
theorem failsWith_getting
    {os : Os σ} {sys : σ} {proc later : Proc} {program : GetM σ α} {code : Int}
    (fails : program os sys proc = (.failed, later))
    (reported : later.err.code = code) :
    FailsWith (getting do let _ ← program; pure ()) os sys proc code := by
  unfold FailsWith
  rw [getting_run, GetM.bind_failed fails]
  exact ⟨rfl, reported⟩

theorem orErrnoSet_none
    {os : Os σ} {sys changed : σ} {proc : Proc} {program : SetM σ (Option Unit)} {e : Int}
    (none : program os sys proc = (.value none, changed, { proc with errno := e }))
    (caller : CStr) :
    FailsWith (orErrnoSet program caller) os sys proc (errnoToCode e) := by
  have run : orErrnoSet program caller os sys proc =
      getting (raiseErrno .none caller) os changed { proc with errno := e } :=
    SetM.bind_value none
  unfold FailsWith
  rw [run]
  exact ⟨rfl, rfl⟩

/-- The program leaves the process as it was, `errno` apart. -/
def GetM.OnlyErrno (program : GetM σ α) : Prop :=
  ∀ os sys proc, ∃ e, (program os sys proc).2 = { proc with errno := e }

theorem GetM.OnlyErrno.pure (value : α) :
    (Pure.pure value : GetM σ α).OnlyErrno :=
  fun _ _ proc => ⟨proc.errno, rfl⟩

theorem GetM.OnlyErrno.sysCall (call : Os σ → σ → Except Errno α) :
    (Zenctl.sysCall call).OnlyErrno := by
  intro os sys proc
  cases answer : call os sys with
  | ok result => exact ⟨proc.errno, by rw [sysCall_ok answer]⟩
  | error e => exact ⟨e.1, by rw [sysCall_error answer]⟩

theorem GetM.OnlyErrno.bind
    {β : Type} {program : GetM σ α} {next : α → GetM σ β}
    (first : program.OnlyErrno)
    (second : ∀ value, (next value).OnlyErrno) :
    (program >>= next).OnlyErrno := by
  intro os sys proc
  obtain ⟨e, run⟩ := first os sys proc
  rw [GetM.bind_run]
  cases outcome : program os sys proc with
  | mk result later =>
      rw [outcome] at run
      dsimp only at run
      cases result with
      | value value =>
          obtain ⟨e', rest⟩ := second value os sys later
          exact ⟨e', by rw [rest, run]⟩
      | failed => exact ⟨e, run⟩
      | blocked => exact ⟨e, run⟩

theorem phyToIfindex_onlyErrno (phy : CStr) :
    (phyToIfindex phy : GetM σ Int).OnlyErrno := by
  have scans : ∀ names, (scanInterfaces phy names : GetM σ Int).OnlyErrno := by
    intro names
    induction names with
    | nil =>
        exact .pure _
    | cons name rest inductionHypothesis =>
        unfold scanInterfaces
        split
        · exact inductionHypothesis
        · refine .bind (.sysCall _) fun link => ?_
          cases link with
          | none => exact inductionHypothesis
          | some target =>
              dsimp only
              split
              · exact inductionHypothesis
              · refine .bind (.sysCall _) fun file => ?_
                cases file with
                | none => exact inductionHypothesis
                | some file => exact .pure _
  refine .bind (.sysCall _) fun names => ?_
  cases names with
  | none => exact .pure _
  | some names => exact scans names

section Calls

variable {os : Os σ} {code : Int} (refuses : os.Refuses code) (positive : 0 < code)
  (sys : σ) {proc : Proc} (memory : proc.allocations = [])
  (known : ∀ family, proc.familyId = some family → 0 < family)
  (wl : WirelessHandle)

include refuses positive memory known

/-- Every wireless call reports a refusal as an invalid argument. -/
theorem WirelessCall.run_refused
    (call : WirelessCall)
    (asks : call.Asks os sys proc wl) :
    FailsWith (call.run wl) os sys proc (errnoToCode Errno.einval.1) := by
  cases call with
  | getRegdomain =>
      have query : nl80211GetRegdomain os sys proc =
          (.value none, { proc with errno := Errno.einval.1 }) :=
        familyQuery_refused refuses positive sys memory fun family cached =>
          (Request.getReg family).build_value (known family cached) (by decide)
      obtain ⟨later, run, reported⟩ := orErrno_none query "zenctl_wireless_get_regdomain"
      exact failsWith_getting (GetM.bind_failed run) reported
  | setRegdomain country =>
      obtain ⟨length, letters⟩ := asks
      obtain ⟨changed, command⟩ := familyCommand_refused refuses positive sys memory
        (fun family => buildSetReg 64 family country) fun family cached =>
          (Request.setReg family country).build_value ⟨known family cached, length⟩
            (by decide)
      have set : nl80211SetRegdomain country os sys proc =
          (.value none, changed, { proc with errno := Errno.einval.1 }) := by
        unfold nl80211SetRegdomain
        rw [if_neg (not_not.mpr length)]
        exact command
      have accepted : ¬ (country.length ≠ 2 ∨ country.all isAlpha = false) := by
        simp [length, letters]
      have reached : (zenctlWirelessSetRegdomain wl country : SetM σ Unit) =
          orErrnoSet (nl80211SetRegdomain country) "zenctl_wireless_set_regdomain" :=
        if_neg accepted
      show FailsWith (zenctlWirelessSetRegdomain wl country) os sys proc _
      rw [reached]
      exact orErrnoSet_none set _
  | getTxpower =>
      have index : 0 ≤ wl.index := asks
      have query : nl80211GetTxpower wl.index os sys proc =
          (.value none, { proc with errno := Errno.einval.1 }) := by
        unfold nl80211GetTxpower
        rw [if_neg (by omega)]
        exact familyQuery_refused refuses positive sys memory fun family cached =>
          (Request.getWiphy family wl.index).build_value ⟨known family cached, index⟩
            (by decide)
      obtain ⟨later, run, reported⟩ := orErrno_none query "zenctl_wireless_get_txpower"
      exact failsWith_getting run reported
  | setTxpower mBm =>
      have index : 0 ≤ wl.index := asks
      obtain ⟨changed, command⟩ := familyCommand_refused refuses positive sys memory
        (fun family =>
          if mBm = -1 then buildSetTxpower 128 family wl.index txPowerAutomatic 0
          else buildSetTxpower 128 family wl.index txPowerFixed mBm) fun family cached => by
        split
        · exact (Request.setTxpower family wl.index txPowerAutomatic 0).build_value
            ⟨known family cached, index, by decide, by decide⟩ (by decide)
        · exact (Request.setTxpower family wl.index txPowerFixed mBm).build_value
            ⟨known family cached, index, by decide, by decide⟩ (by decide)
      have set : nl80211SetTxpower wl.index mBm os sys proc =
          (.value none, changed, { proc with errno := Errno.einval.1 }) := by
        unfold nl80211SetTxpower
        rw [if_neg (by omega)]
        exact command
      exact orErrnoSet_none set _
  | setPowerSave on =>
      obtain ⟨ifindex, found, interface⟩ := asks
      obtain ⟨e, after⟩ := phyToIfindex_onlyErrno wl.phy os sys proc
      have lookup : phyToIfindex wl.phy os sys proc = (.value ifindex, { proc with errno := e }) :=
        Prod.ext found after
      have remembers : ({ proc with errno := e } : Proc).allocations = [] := memory
      obtain ⟨changed, command⟩ := familyCommand_refused refuses positive sys remembers
        (fun family => buildSetPs 64 family ifindex on) fun family cached =>
          (Request.setPs family ifindex on).build_value ⟨known family cached, interface⟩
            (by decide)
      have set : nl80211SetPowerSave ifindex on os sys { proc with errno := e } =
          (.value none, changed, { proc with errno := Errno.einval.1 }) := by
        unfold nl80211SetPowerSave
        rw [if_neg (by omega)]
        exact command
      have reached : zenctlWirelessSetPowerSave wl on os sys proc =
          orErrnoSet (nl80211SetPowerSave ifindex on) "zenctl_wireless_set_power_save" os sys
            { proc with errno := e } := by
        refine (SetM.bind_getting_value lookup).trans ?_
        rw [if_neg (by omega)]
      show (zenctlWirelessSetPowerSave wl on os sys proc).1 = .failed ∧
        (zenctlWirelessSetPowerSave wl on os sys proc).2.2.err.code = _
      rw [reached]
      exact orErrnoSet_none set _

end Calls

/-! ## What a refusal is reported as -/

/-- The code of the refusal reaches every caller. -/
structure RefusalReported
    (os : Os σ) (sys : σ) (proc : Proc) (wl : WirelessHandle) (d : Datagram) (code : Int) :
    Prop where
  parsed : parseAck d 0 = code
  acked : ∀ request, ∃ changed later,
    doAck request os sys proc = (.value none, changed, later) ∧ later.errno = code
  regdomainQueried : ∀ request, ∃ later,
    doQuery request parseAlpha2 os sys proc = (.value none, later) ∧ later.errno = code
  txpowerQueried : ∀ request, ∃ later,
    doQuery request parseTxpower os sys proc = (.value none, later) ∧ later.errno = code
  called : ∀ call : WirelessCall, call.Asks os sys proc wl →
    FailsWith (call.run wl) os sys proc (errnoToCode code)

/--
When the kernel refuses every request with a code, `parse_ack`, the exchanges
and the wireless calls report that code exactly when it is `EINVAL`.
-/
theorem refusal_reported_iff
    {code : Int} (positive : 0 < code)
    {d : Datagram} (carries : Carries d code)
    {os : Os σ} (refuses : os.Refuses code)
    (sys : σ)
    {proc : Proc} (memory : proc.allocations = [])
    (known : ∀ family, proc.familyId = some family → 0 < family)
    (wl : WirelessHandle) :
    RefusalReported os sys proc wl d code ↔ code = Errno.einval.1 := by
  constructor
  · intro reported
    rw [← reported.parsed]
    exact parseAck_refusal carries positive
  · rintro rfl
    exact
      { parsed := parseAck_refusal carries positive
        acked := fun request => by
          obtain ⟨changed, run⟩ := doAck_refused refuses positive sys memory request
          exact ⟨changed, _, run, rfl⟩
        regdomainQueried := fun request =>
          ⟨_, doQuery_refused refuses positive sys memory request parseAlpha2, rfl⟩
        txpowerQueried := fun request =>
          ⟨_, doQuery_refused refuses positive sys memory request parseTxpower, rfl⟩
        called := WirelessCall.run_refused refuses positive sys memory known wl }

/-- The kernel's `NLMSG_ERROR` message: the negated code behind the header. -/
def errorReply (code : Int) : Datagram where
  size := 36
  byte i := ((le32 36 ++ le16 nlmsgError ++ le16 0 ++ List.replicate 8 0 ++
    le32Int (-code))[i]?).getD 0

theorem errorReply_carries
    {code : Int} (small : IsInt32 (-code)) :
    Carries (errorReply code) code where
  long := (by decide : 20 ≤ 36)
  received := (by decide : 36 ≤ 36)
  isError := rfl
  carried := by
    have word : (errorReply code).Holds nlmsgHdrlen (le32 (-code % 4294967296).toNat) := by
      intro i inside
      have range : i < 4 := inside
      interval_cases i <;> rfl
    obtain ⟨low, high⟩ := small
    unfold Datagram.i32
    rw [word.u32_eq (by omega)]
    split <;> omega

/-- A kernel that answers everything with this error. -/
def refusingOs (code : Int) : Os Unit :=
  { bareOs with
    netlinkSocket := fun _ => .ok ()
    netlinkGet := fun _ request => ⟨.ok request.length, [.ok (errorReply code)]⟩
    netlinkSet := fun sys request => (⟨.ok request.length, [.ok (errorReply code)]⟩, sys) }

theorem refusingOs_refuses
    {code : Int} (small : IsInt32 (-code)) :
    (refusingOs code).Refuses code where
  socket _ := rfl
  gets _ _ := ⟨rfl, _, _, rfl, errorReply_carries small⟩
  sets _ _ := ⟨rfl, _, _, rfl, errorReply_carries small⟩

theorem refusal_reported_einval :
    RefusalReported (refusingOs 22) () freshProc ⟨"phy0", [], 0⟩ (errorReply 22) 22 :=
  (refusal_reported_iff (by decide) (errorReply_carries ⟨by decide, by decide⟩)
    (refusingOs_refuses ⟨by decide, by decide⟩) () rfl (by rintro _ ⟨⟩) _).mpr rfl

/-- A caller without `CAP_NET_ADMIN` is told that an argument was invalid. -/
theorem refusal_misreported_eperm :
    Carries (errorReply 1) 1 ∧ (refusingOs 1).Refuses 1 ∧ parseAck (errorReply 1) 0 = 22 ∧
      FailsWith (zenctlWirelessSetTxpower ⟨"phy0", [], 0⟩ 2000) (refusingOs 1) () freshProc
        Err.einval ∧
      ¬ RefusalReported (refusingOs 1) () freshProc ⟨"phy0", [], 0⟩ (errorReply 1) 1 := by
  have carries : Carries (errorReply 1) 1 := errorReply_carries ⟨by decide, by decide⟩
  have refuses : (refusingOs 1).Refuses 1 := refusingOs_refuses ⟨by decide, by decide⟩
  have parsed : parseAck (errorReply 1) 0 = 22 := parseAck_refusal carries (by decide)
  refine ⟨carries, refuses, parsed, ?_, fun reported => ?_⟩
  · exact WirelessCall.run_refused refuses (by decide) () rfl (by rintro _ ⟨⟩) _
      (.setTxpower 2000) (le_refl (0 : Int))
  · have wrong := parsed.symm.trans reported.parsed
    exact absurd wrong (by decide)

/-! ## Acknowledgements -/

def nlmFAck : Nat := 4

/-- `nlmsg_flags` of a request. -/
def requestFlags (request : Bytes) : Nat :=
  ((request[6]?).getD 0).toNat + 256 * ((request[7]?).getD 0).toNat

/-- A code the kernel can put into an error message. -/
abbrev KernelErrno := { code : Int // 0 < code ∧ code ≤ 4095 }

/-- The kernel's side: how it handles a request, and the messages it answers with. -/
structure GenlKernel (σ : Type) where
  /-- The error of the handler, if it failed, and the state after it. -/
  handle : σ → Bytes → Option KernelErrno × σ
  reply : Bytes → Int → Datagram
  carries : ∀ request code, 0 ≤ code → code ≤ 4095 → Carries (reply request code) code

/-- Handle a request, and queue a message if the handler failed or an ack was asked for. -/
def GenlKernel.exchange (k : GenlKernel σ) (sys : σ) (request : Bytes) : Exchange × σ :=
  (⟨.ok request.length,
    match (k.handle sys request).1 with
    | some e => [.ok (k.reply request e.1)]
    | none =>
        if (requestFlags request / nlmFAck) % 2 = 1 then [.ok (k.reply request 0)] else []⟩,
    (k.handle sys request).2)

/-- No build function asks for an acknowledgement. -/
theorem requestFlags_built
    {os : Os σ} {sys : σ} {proc later : Proc} {request : Request} {size : Nat} {message : Bytes}
    (built : request.build size os sys proc = (.value (some message), later)) :
    requestFlags message = nlmFRequest := by
  obtain ⟨other, after, run, -, contents⟩ := request.build_run size os sys proc
  rw [built] at run
  cases run
  obtain ⟨-, -, rfl⟩ := contents message rfl
  rfl

/--
`nl80211_do_ack` comes back with the kernel's verdict on a request of the build
functions exactly when the handler refuses it: of an accepted request nothing is
queued, and the receive waits forever.
-/
theorem doAck_answered_iff
    (k : GenlKernel σ)
    {os : Os σ}
    (speaks : os.netlinkSet = k.exchange)
    {sys : σ}
    (socket : os.netlinkSocket sys = .ok ())
    {proc later : Proc} (memory : proc.allocations = [])
    {request : Request} {size : Nat} {message : Bytes}
    (built : request.build size os sys proc = (.value (some message), later)) :
    ((doAck message os sys proc).1 ≠ .blocked ∧
        ((doAck message os sys proc).1 = .value (some ()) ↔ (k.handle sys message).1 = none)) ↔
      (k.handle sys message).1 ≠ none := by
  have answered : os.netlinkSet sys message = k.exchange sys message := by rw [speaks]
  cases verdict : (k.handle sys message).1 with
  | none =>
      have empty : (k.exchange sys message).1.replies = [] := by
        simp only [GenlKernel.exchange, verdict, requestFlags_built built]
        rfl
      rw [doAck_empty socket answered rfl memory empty]
      simp
  | some e =>
      obtain ⟨positive, small⟩ := e.2
      have carries := k.carries message e.1 positive.le small
      have queued : (k.exchange sys message).1.replies = [.ok (k.reply message e.1)] := by
        simp only [GenlKernel.exchange, verdict]
      rw [doAck_queued socket answered rfl memory queued, ackOf_refusal carries positive,
        if_neg (by decide)]
      simp

/-- A kernel that gives the same verdict on everything. -/
def constantKernel (verdict : Option KernelErrno) : GenlKernel Unit where
  handle sys _ := (verdict, sys)
  reply _ code := errorReply code
  carries _ _ low high := errorReply_carries ⟨by omega, by omega⟩

/-- The bare machine with that kernel behind its socket. -/
def genlOs (k : GenlKernel Unit) : Os Unit :=
  { bareOs with
    netlinkSocket := fun _ => .ok ()
    netlinkSet := k.exchange }

theorem doAck_answered_refused :
    ∃ message,
      (Request.setReg 27 "DE").build 64 (genlOs (constantKernel (some ⟨1, by decide⟩))) ()
        freshProc = (.value (some message), freshProc) ∧
      (doAck message (genlOs (constantKernel (some ⟨1, by decide⟩))) () freshProc).1 ≠ .blocked := by
  obtain ⟨message, built⟩ := @Request.build_value Unit
    (genlOs (constantKernel (some ⟨1, by decide⟩))) () freshProc (.setReg 27 "DE") 64
    ⟨by decide, by decide⟩ (by decide)
  have refused : ((constantKernel (some ⟨1, by decide⟩)).handle () message).1 ≠ none := by
    rintro ⟨⟩
  exact ⟨message, built, ((doAck_answered_iff (constantKernel (some ⟨1, by decide⟩)) rfl rfl rfl
    built).mpr refused).1⟩

/-- The kernel accepts the country, and the caller waits forever. -/
theorem doAck_waits_accepted :
    ∃ message,
      (Request.setReg 27 "DE").build 64 (genlOs (constantKernel none)) () freshProc =
        (.value (some message), freshProc) ∧
      ((constantKernel none).handle () message).1 = none ∧
      (doAck message (genlOs (constantKernel none)) () freshProc).1 = .blocked :=
  ⟨_, rfl, rfl, rfl⟩

end Zenctl
