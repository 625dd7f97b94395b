import Zenctl.LibWireless
import Zenctl.NetlinkScan

namespace Zenctl

open CString Netlink

/-!
# What the reply walks of `nl80211.c` look at

Each parse helper and each visit of a walk once more, as a scan of the receive
buffer.  They agree with their models and never look behind the bytes received.
-/

variable {α : Type}

/-! ## The parse helpers -/

/-- `nl80211__parse_ack`. -/
def scanAck (offset : Nat) : Scan Int := do
  let type ← Scan.u16 (offset + 4)
  if type ≠ nlmsgError then pure Errno.einval.1
  else do
    let length ← Scan.u32 offset
    if length < nlmsgHdrlen + 4 then pure Errno.ebadmsg.1
    else do
      let e ← Scan.i32 (offset + nlmsgHdrlen)
      pure (if e = 0 then 0 else if 0 < e then e else Errno.einval.1)

/-- `nlmsg_len` less both headers, as a `size_t`. -/
def attrsLength (length : Nat) : Nat :=
  (length + 18446744073709551596) % 18446744073709551616

/-- Where the payload of an attribute starts. -/
def scanPayload (offset type payload : Nat) : Scan (Except Errno Nat) := do
  let length ← Scan.u32 offset
  if length < nlmsgHdrlen + nlaHdrlen then pure (.error Errno.einval)
  else do
    match ← Scan.findAttr type (offset + nlmsgHdrlen + nlaHdrlen) (attrsLength length) with
    | none => pure (.error Errno.enoent)
    | some attr => do
        let attrLength ← Scan.u16 attr
        if attrLength < nlaHdrlen + payload then pure (.error Errno.enoent)
        else pure (.ok (attr + nlaHdrlen))

/-- Read on from where a payload starts. -/
def scanFrom (start : Except Errno Nat) (read : Nat → Scan α) : Scan (Except Errno α) :=
  match start with
  | .error e => pure (.error e)
  | .ok offset => do
      let result ← read offset
      pure (.ok result)

/-- `nl80211__parse_family_id`. -/
def scanFamilyId (offset : Nat) : Scan (Except Errno Int) := do
  let length ← Scan.u32 offset
  if length < nlmsgHdrlen + nlaHdrlen then pure (.error Errno.einval)
  else do
    let type ← Scan.u16 (offset + 4)
    if type ≠ genlIdCtrl then pure (.error Errno.einval)
    else do
      let start ← scanPayload offset ctrlAttrFamilyId 2
      scanFrom start fun payload => do
        let id ← Scan.u16 payload
        pure (id : Int)

/-- `nl80211__parse_txpower`. -/
def scanTxpower (offset : Nat) : Scan (Except Errno Int) := do
  let start ← scanPayload offset attrWiphyTxPowerLevel 4
  scanFrom start Scan.i32

/-- `nl80211__parse_alpha2`. -/
def scanAlpha2 (offset : Nat) : Scan (Except Errno CStr) := do
  let start ← scanPayload offset attrRegAlpha2 2
  scanFrom start fun payload => do
    let first ← Scan.byte payload
    let second ← Scan.byte (payload + 1)
    pure (ofBuffer ([first, second].map fun b => Char.ofNat b.toNat))

/-! ## The visits -/

/-- One message of `nl80211_do_ack`. -/
def visitAck (d : Datagram) (_state : Unit) (offset : Nat) : Visit Int Unit :=
  if d.nlmsgType offset = nlmsgError then .stop (parseAck d offset) else .skip ()

theorem ackOf_eq (d : Datagram) :
    ackOf d =
      match d.messages (visitAck d) () with
      | .inl e => e
      | .inr _ => Errno.eio.1 := rfl

@[inherit_doc visitAck]
def scanVisitAck (_state : Unit) (offset : Nat) : Scan (Visit Int Unit) := do
  let type ← Scan.u16 (offset + 4)
  if type = nlmsgError then do
    let e ← scanAck offset
    pure (.stop e)
  else pure (.skip ())

/-- One message of `nl80211_do_query`. -/
def scanVisitAnswer (read : Nat → Scan (Except Errno α)) (multi : Bool) (offset : Nat) :
    Scan (Visit (Answer α) Bool) := do
  let type ← Scan.u16 (offset + 4)
  if type = nlmsgError then do
    let e ← scanAck offset
    pure (if e = 0 then .stop .done else .stop (.refused e))
  else if type = nlmsgDone then pure (.stop .done)
  else do
    let flags ← Scan.u16 (offset + 6)
    let answer ← read offset
    pure (match answer with
      | .ok result => .stop (.found result)
      | .error _ => .skip (multi || (flags / nlmFMulti) % 2 = 1))

/-- One message of `nl80211_get_family_id`. -/
def scanVisitFamily (skipped : Option Errno) (offset : Nat) :
    Scan (Visit (Except (Option Int) Int) (Option Errno)) := do
  let type ← Scan.u16 (offset + 4)
  if type = nlmsgError then do
    let e ← scanAck offset
    pure (if e = 0 then .stop (.error (skipped.map (·.1))) else .stop (.error (some e)))
  else do
    let answer ← scanFamilyId offset
    pure (match answer with
      | .ok id => .stop (.ok id)
      | .error e => .skip (some e))

/-! ## They stay inside -/

section Inside

variable {d : Datagram} {offset : Nat}

/-- The fields of a header that was received whole. -/
theorem header_reads
    (d : Datagram) (offset : Nat) (room : offset + nlmsgHdrlen ≤ d.size) :
    (Scan.u32 offset).Reads d.byte d.size (d.nlmsgLen offset) ∧
      (Scan.u16 (offset + 4)).Reads d.byte d.size (d.nlmsgType offset) ∧
      (Scan.u16 (offset + 6)).Reads d.byte d.size (d.nlmsgFlags offset) := by
  unfold nlmsgHdrlen at room
  exact ⟨Scan.u32_reads (by omega), Scan.u16_reads (by omega), Scan.u16_reads (by omega)⟩

theorem scanAck_reads
    (header : nlmsgHdrlen ≤ d.nlmsgLen offset)
    (fits : offset + d.nlmsgLen offset ≤ d.size) :
    (scanAck offset).Reads d.byte d.size (parseAck d offset) := by
  obtain ⟨lengthReads, typeReads, -⟩ := header_reads d offset (by omega)
  refine .bind typeReads ?_
  unfold parseAck
  by_cases other : d.nlmsgType offset ≠ nlmsgError
  · rw [if_pos other, if_pos other]
    exact .pure _
  rw [if_neg other, if_neg other]
  refine .bind lengthReads ?_
  by_cases short : d.nlmsgLen offset < nlmsgHdrlen + 4
  · rw [if_pos short, if_pos short]
    exact .pure _
  rw [if_neg short, if_neg short]
  unfold nlmsgHdrlen at short
  exact .bind (Scan.i32_reads (by unfold nlmsgHdrlen; omega)) (.pure _)

/-- Behind both headers the subtraction does not wrap. -/
theorem attrsLength_eq
    {length : Nat} (long : ¬ length < nlmsgHdrlen + nlaHdrlen) (short : length ≤ 32768) :
    attrsLength length = length - 20 := by
  unfold nlmsgHdrlen nlaHdrlen at long
  unfold attrsLength
  omega

theorem findMessageAttr_eq
    (long : ¬ d.nlmsgLen offset < nlmsgHdrlen + nlaHdrlen)
    (short : d.nlmsgLen offset ≤ 32768)
    (type : Nat) :
    findMessageAttr d offset type =
      d.findAttr type (d.nlmsgLen offset - 20) (offset + nlmsgHdrlen + nlaHdrlen)
        (d.nlmsgLen offset - 20) := by
  rw [← attrsLength_eq long short]
  rfl

/-- The payload that is found has been received. -/
theorem scanPayload_reads
    (type payload : Nat)
    (header : nlmsgHdrlen ≤ d.nlmsgLen offset)
    (fits : offset + d.nlmsgLen offset ≤ d.size)
    (received : d.size ≤ 32768) :
    (scanPayload offset type payload).Reads d.byte d.size (messagePayload d offset type payload) ∧
      ∀ start, messagePayload d offset type payload = .ok start → start + payload ≤ d.size := by
  obtain ⟨lengthReads, -⟩ := header_reads d offset (by omega)
  unfold messagePayload scanPayload
  by_cases short : d.nlmsgLen offset < nlmsgHdrlen + nlaHdrlen
  · rw [if_pos short]
    refine ⟨.bind lengthReads ?_, nofun⟩
    rw [if_pos short]
    exact .pure _
  rw [if_neg short]
  rw [findMessageAttr_eq short (by omega)]
  have attributesFit : offset + nlmsgHdrlen + nlaHdrlen + (d.nlmsgLen offset - 20) ≤ d.size := by
    unfold nlmsgHdrlen nlaHdrlen at short ⊢
    omega
  obtain ⟨findReads, findInside⟩ := Scan.findAttr_reads type le_rfl attributesFit
  cases found : d.findAttr type (d.nlmsgLen offset - 20) (offset + nlmsgHdrlen + nlaHdrlen)
      (d.nlmsgLen offset - 20) with
  | none =>
      rw [found] at findReads
      refine ⟨.bind lengthReads ?_, nofun⟩
      rw [if_neg short]
      rw [attrsLength_eq short (by omega)]
      exact .bind findReads (.pure _)
  | some attr =>
      obtain ⟨long, inside⟩ := findInside attr found
      rw [found] at findReads
      unfold nlaHdrlen at long
      refine ⟨.bind lengthReads ?_, ?_⟩
      · rw [if_neg short]
        rw [attrsLength_eq short (by omega)]
        refine .bind findReads (.bind (Scan.u16_reads (by omega)) ?_)
        dsimp only
        split
        · exact .pure _
        · exact .pure _
      · intro start result
        dsimp only at result
        unfold nlaHdrlen at result
        split at result
        · cases result
        · cases result
          omega

theorem scanFrom_reads
    {start : Except Errno Nat} {read : Nat → Scan α} {value : Nat → α}
    (reads : ∀ payload, start = .ok payload → (read payload).Reads d.byte d.size (value payload)) :
    (scanFrom start read).Reads d.byte d.size (start.map value) := by
  cases start with
  | error e =>
      exact .pure _
  | ok payload =>
      exact .bind (reads payload rfl) (.pure _)

variable
    (header : nlmsgHdrlen ≤ d.nlmsgLen offset)
    (fits : offset + d.nlmsgLen offset ≤ d.size)
    (received : d.size ≤ 32768)

include header fits received

theorem scanTxpower_reads :
    (scanTxpower offset).Reads d.byte d.size (parseTxpower d offset) := by
  obtain ⟨payloadReads, inside⟩ := scanPayload_reads attrWiphyTxPowerLevel 4 header fits received
  exact .bind payloadReads (scanFrom_reads fun start found => Scan.i32_reads (inside start found))

theorem scanAlpha2_reads :
    (scanAlpha2 offset).Reads d.byte d.size (parseAlpha2 d offset) := by
  obtain ⟨payloadReads, inside⟩ := scanPayload_reads attrRegAlpha2 2 header fits received
  refine .bind payloadReads (scanFrom_reads fun start found => ?_)
  have bound := inside start found
  exact .bind (Scan.byte_reads (by omega)) (.bind (Scan.byte_reads (by omega)) (.pure _))

theorem scanFamilyId_reads :
    (scanFamilyId offset).Reads d.byte d.size (parseFamilyId d offset) := by
  obtain ⟨payloadReads, inside⟩ := scanPayload_reads ctrlAttrFamilyId 2 header fits received
  obtain ⟨lengthReads, typeReads, -⟩ := header_reads d offset (by omega)
  refine .bind lengthReads ?_
  unfold parseFamilyId
  by_cases short : d.nlmsgLen offset < nlmsgHdrlen + nlaHdrlen
  · rw [if_pos short, if_pos (.inl short)]
    exact .pure _
  rw [if_neg short]
  refine .bind typeReads ?_
  by_cases other : d.nlmsgType offset ≠ genlIdCtrl
  · rw [if_pos other, if_pos (.inr other)]
    exact .pure _
  rw [if_neg other, if_neg (by tauto)]
  exact .bind payloadReads (scanFrom_reads fun start found =>
    .bind (Scan.u16_reads (inside start found)) (.pure _))

end Inside

/-! ## The walks -/

variable {d : Datagram}

theorem visitAck_reads :
    VisitReads d scanVisitAck (visitAck d) := by
  intro state offset header fits
  obtain ⟨-, typeReads, flagsReads⟩ := header_reads d offset (by omega)
  refine .bind typeReads ?_
  unfold visitAck
  by_cases error : d.nlmsgType offset = nlmsgError
  · rw [if_pos error, if_pos error]
    exact .bind (scanAck_reads header fits) (.pure _)
  · rw [if_neg error, if_neg error]
    exact .pure _

theorem visitAnswer_reads
    {scan : Nat → Scan (Except Errno α)} {read : Datagram → Nat → Except Errno α}
    (reads : ∀ offset, nlmsgHdrlen ≤ d.nlmsgLen offset → offset + d.nlmsgLen offset ≤ d.size →
      (scan offset).Reads d.byte d.size (read d offset)) :
    VisitReads d (scanVisitAnswer scan) (visitAnswer d read) := by
  intro multi offset header fits
  obtain ⟨-, typeReads, flagsReads⟩ := header_reads d offset (by omega)
  refine .bind typeReads ?_
  unfold visitAnswer
  by_cases error : d.nlmsgType offset = nlmsgError
  · rw [if_pos error, if_pos error]
    exact .bind (scanAck_reads header fits) (.pure _)
  rw [if_neg error, if_neg error]
  by_cases done : d.nlmsgType offset = nlmsgDone
  · rw [if_pos done, if_pos done]
    exact .pure _
  rw [if_neg done, if_neg done]
  exact .bind flagsReads (.bind (reads offset header fits) (.pure _))

theorem visitFamily_reads
    (received : d.size ≤ 32768) :
    VisitReads d scanVisitFamily (visitFamily d) := by
  intro skipped offset header fits
  obtain ⟨-, typeReads, flagsReads⟩ := header_reads d offset (by omega)
  refine .bind typeReads ?_
  unfold visitFamily
  by_cases error : d.nlmsgType offset = nlmsgError
  · rw [if_pos error, if_pos error]
    exact .bind (scanAck_reads header fits) (.pure _)
  rw [if_neg error, if_neg error]
  exact .bind (scanFamilyId_reads header fits received) (.pure _)

/--
On any datagram that fits the receive buffer the four walks end, with the
outcome of their models, and every byte they look at has been received.
-/
theorem replyWalks_inside
    (d : Datagram)
    (received : d.size ≤ 32768) :
    WalksInside d scanVisitAck () (d.messages (visitAck d) ()) ∧
      WalksInside d (scanVisitAnswer scanAlpha2) false
        (d.messages (visitAnswer d parseAlpha2) false) ∧
      WalksInside d (scanVisitAnswer scanTxpower) false
        (d.messages (visitAnswer d parseTxpower) false) ∧
      WalksInside d scanVisitFamily none (d.messages (visitFamily d) none) :=
  ⟨visitAck_reads.walksInside received (),
    (visitAnswer_reads fun _ header fits =>
      scanAlpha2_reads header fits received).walksInside received false,
    (visitAnswer_reads fun _ header fits =>
      scanTxpower_reads header fits received).walksInside received false,
    (visitFamily_reads received).walksInside received none⟩

/--
A message with four attributes, the name and the number of the family, the
country and the power, and 19 bytes of a message that promises 4 GiB.
-/
def fourAttributes : Datagram where
  size := 71
  byte i := ((le32 52 ++ le16 genlIdCtrl ++ le16 0 ++ List.replicate 12 0 ++
    le16 8 ++ le16 2 ++ [110, 108, 56, 0] ++
    le16 6 ++ le16 ctrlAttrFamilyId ++ le16 28 ++ [0, 0] ++
    le16 7 ++ le16 attrRegAlpha2 ++ [68, 69, 0, 0] ++
    le16 8 ++ le16 attrWiphyTxPowerLevel ++ le32 2000)[i]?).getD 255

/-- Every walk goes over the attributes in front of its own. -/
theorem replyWalks_inside_truncated :
    WalksInside fourAttributes scanVisitAck () (.inr ()) ∧
      WalksInside fourAttributes (scanVisitAnswer scanAlpha2) false
        (.inl (.found "DE".toList)) ∧
      WalksInside fourAttributes (scanVisitAnswer scanTxpower) false (.inl (.found 2000)) ∧
      WalksInside fourAttributes scanVisitFamily none (.inl (.ok 28)) := by
  have walks := replyWalks_inside fourAttributes (by decide)
  have ack : fourAttributes.messages (visitAck fourAttributes) () = .inr () := by rfl
  have country : fourAttributes.messages (visitAnswer fourAttributes parseAlpha2) false =
      .inl (.found "DE".toList) := by rfl
  have power : fourAttributes.messages (visitAnswer fourAttributes parseTxpower) false =
      .inl (.found 2000) := by rfl
  have family : fourAttributes.messages (visitFamily fourAttributes) none = .inl (.ok 28) := by rfl
  rwa [ack, country, power, family] at walks

end Zenctl
