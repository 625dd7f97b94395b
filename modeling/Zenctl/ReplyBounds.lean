import Zenctl.WirelessReplies

namespace Netlink

/-!
# Reply parsers on a buffer and its size

`nl80211__parse_ack` and its siblings are given a buffer and a size.  They test
the size once and then go by the length field of the message, which may promise
more than the buffer holds, or less than the two headers.  This module says for
which buffers they inspect nothing behind the size.
-/

variable {α β : Type}

/-! ## What a program inspects -/

/-- On this memory the program looks at nothing at or behind the bound. -/
def Scan.Inside (program : Scan α) (memory : Nat → UInt8) (bound : Nat) : Prop :=
  ∀ offset ∈ (program memory).2, offset < bound

section Rules

variable {memory : Nat → UInt8} {bound : Nat}

@[simp] theorem Scan.inside_pure (value : α) :
    (Pure.pure value : Scan α).Inside memory bound ↔ True :=
  iff_of_true nofun trivial

@[simp] theorem Scan.inside_bind (program : Scan α) (next : α → Scan β) :
    (program >>= next).Inside memory bound ↔
      program.Inside memory bound ∧ (next (program memory).1).Inside memory bound := by
  unfold Scan.Inside
  constructor
  · intro inside
    exact ⟨fun offset member => inside offset (List.mem_append_left _ member),
      fun offset member => inside offset (List.mem_append_right _ member)⟩
  · rintro ⟨first, second⟩ offset member
    exact (List.mem_append.mp member).elim (first offset) (second offset)

theorem Scan.inside_assoc {γ : Type} (program : Scan α) (next : α → Scan β) (last : β → Scan γ) :
    ((program >>= next) >>= last).Inside memory bound ↔
      program.Inside memory bound ∧ (next (program memory).1 >>= last).Inside memory bound := by
  rw [inside_bind, inside_bind, inside_bind, and_assoc]
  rfl

@[simp] theorem Scan.inside_byte (offset : Nat) :
    (Scan.byte offset).Inside memory bound ↔ offset < bound := by
  unfold Scan.Inside
  simp [Scan.byte]

@[simp] theorem Scan.inside_u16 (offset : Nat) :
    (Scan.u16 offset).Inside memory bound ↔ offset + 2 ≤ bound := by
  simp [Scan.u16]
  omega

@[simp] theorem Scan.inside_u32 (offset : Nat) :
    (Scan.u32 offset).Inside memory bound ↔ offset + 4 ≤ bound := by
  simp [Scan.u32]
  omega

@[simp] theorem Scan.inside_i32 (offset : Nat) :
    (Scan.i32 offset).Inside memory bound ↔ offset + 4 ≤ bound := by
  simp [Scan.i32]

@[simp] theorem Scan.u16_value (d : Datagram) (offset : Nat) :
    (Scan.u16 offset d.byte).1 = d.u16 offset := rfl

@[simp] theorem Scan.u32_value (d : Datagram) (offset : Nat) :
    (Scan.u32 offset d.byte).1 = d.u32 offset := rfl

theorem Scan.inside_ite
    {condition : Prop} [Decidable condition] {first second : Scan α} :
    (if condition then first else second).Inside memory bound ↔
      if condition then first.Inside memory bound else second.Inside memory bound := by
  split
  · rfl
  · rfl

end Rules

/-! ## Attributes -/

/--
The attributes from `base` on, read with `remaining` bytes to go, end inside
the buffer: they run out, or one that is malformed or of the wanted type comes,
and what is needed of it has been received.
-/
inductive AttrsEnd (d : Datagram) (type payload : Nat) : Nat → Nat → Prop
  | exhausted {base remaining : Nat} :
      remaining < nlaHdrlen → AttrsEnd d type payload base remaining
  | malformed {base remaining : Nat} :
      base + 2 ≤ d.size → d.u16 base < nlaHdrlen ∨ remaining < d.u16 base →
      AttrsEnd d type payload base remaining
  | wanted {base remaining : Nat} :
      base + nlaHdrlen ≤ d.size → d.u16 (base + 2) = type →
      (nlaHdrlen + payload ≤ d.u16 base → base + nlaHdrlen + payload ≤ d.size) →
      AttrsEnd d type payload base remaining
  | other {base remaining : Nat} :
      base + nlaHdrlen ≤ d.size → d.u16 (base + 2) ≠ type →
      AttrsEnd d type payload (base + min (align4 (d.u16 base)) remaining)
        (remaining - min (align4 (d.u16 base)) remaining) →
      AttrsEnd d type payload base remaining

/-- What a helper does with the attribute it looked for. -/
def Scan.payloadAt (payload : Nat) (short absent : α) (read : Nat → Scan α) :
    Option Nat → Scan α
  | none => pure absent
  | some attr => do
      let length ← Scan.u16 attr
      if length < nlaHdrlen + payload then pure short else read (attr + nlaHdrlen)

variable {d : Datagram}

/-- One round of the loop that still has a header to go. -/
theorem Scan.findAttr_round
    {type base remaining : Nat} (enough : ¬remaining < nlaHdrlen) :
    Scan.findAttr type base remaining = (do
      let length ← u16 base
      if length < nlaHdrlen ∨ remaining < length then pure none
      else do
        let found ← u16 (base + 2)
        if found = type then pure (some base)
        else
          findAttr type (base + min (align4 length) remaining)
            (remaining - min (align4 length) remaining)) := by
  rw [findAttr, dif_neg enough]
  rfl

/-- The search for an attribute and the read of its payload. -/
theorem Scan.inside_findAttr
    {type payload : Nat} {short absent : α} {read : Nat → Scan α}
    (reads : ∀ start, (read start).Inside d.byte d.size ↔ start + payload ≤ d.size)
    (base remaining : Nat) :
    (Scan.findAttr type base remaining >>= Scan.payloadAt payload short absent read).Inside
        d.byte d.size ↔
      AttrsEnd d type payload base remaining := by
  have header : nlaHdrlen = 4 := rfl
  induction remaining using Nat.strong_induction_on generalizing base with
  | _ remaining inductionHypothesis =>
      by_cases few : remaining < nlaHdrlen
      · rw [findAttr, dif_pos few]
        exact iff_of_true (fun _ member => absurd member List.not_mem_nil) (.exhausted few)
      rw [findAttr_round few, inside_assoc, inside_u16, u16_value]
      by_cases misfit : d.u16 base < nlaHdrlen ∨ remaining < d.u16 base
      · rw [if_pos misfit]
        constructor
        · rintro ⟨length, -⟩
          exact .malformed length misfit
        · intro ends
          refine ⟨?_, fun _ member => absurd member List.not_mem_nil⟩
          cases ends with
          | exhausted short => exact absurd short few
          | malformed length _ => exact length
          | wanted received _ _ => omega
          | other received _ _ => omega
      rw [if_neg misfit, inside_assoc, inside_u16, u16_value]
      by_cases found : d.u16 (base + 2) = type
      · rw [if_pos found]
        have looked : ((Pure.pure (some base) : Scan (Option Nat)) >>=
            payloadAt payload short absent read).Inside d.byte d.size ↔
              base + 2 ≤ d.size ∧
                (nlaHdrlen + payload ≤ d.u16 base → base + nlaHdrlen + payload ≤ d.size) := by
          rw [inside_bind, inside_pure, true_and]
          refine (inside_bind _ _).trans ?_
          rw [inside_u16, u16_value, inside_ite]
          split
          · rw [inside_pure]
            exact and_congr_right fun _ => iff_of_true trivial fun long => by omega
          · rename_i long
            rw [reads]
            exact and_congr_right fun _ => ⟨fun room _ => room, fun room => room (by omega)⟩
        rw [looked]
        constructor
        · rintro ⟨-, typed, -, room⟩
          exact .wanted (by omega) found room
        · intro ends
          cases ends with
          | exhausted short => exact absurd short few
          | malformed _ bad => exact absurd bad misfit
          | wanted received _ room => exact ⟨by omega, by omega, by omega, room⟩
          | other _ different _ => exact absurd found different
      · have grows := align4_bounds (d.u16 base)
        have shorter : remaining - min (align4 (d.u16 base)) remaining < remaining := by omega
        have rest := inductionHypothesis _ shorter (base + min (align4 (d.u16 base)) remaining)
        rw [if_neg found]
        constructor
        · rintro ⟨-, typed, ends⟩
          exact .other (by omega) found (rest.mp ends)
        · intro ends
          cases ends with
          | exhausted short => exact absurd short few
          | malformed _ bad => exact absurd bad misfit
          | wanted _ same _ => exact absurd same found
          | other received _ ends => exact ⟨by omega, by omega, rest.mpr ends⟩

/-- Attributes whose claimed length was received end inside the buffer. -/
theorem attrsEnd_of_received
    (type payload base remaining : Nat) (received : base + remaining ≤ d.size) :
    AttrsEnd d type payload base remaining := by
  have header : nlaHdrlen = 4 := rfl
  induction remaining using Nat.strong_induction_on generalizing base with
  | _ remaining inductionHypothesis =>
      by_cases few : remaining < nlaHdrlen
      · exact .exhausted few
      by_cases misfit : d.u16 base < nlaHdrlen ∨ remaining < d.u16 base
      · exact .malformed (by omega) misfit
      by_cases found : d.u16 (base + 2) = type
      · exact .wanted (by omega) found fun long => by omega
      · have grows := align4_bounds (d.u16 base)
        exact .other (by omega) found (inductionHypothesis _ (by omega) _ (by omega))

end Netlink

namespace Zenctl

open CString Netlink

variable {α : Type}

/-! ## The four helpers -/

/-- `nl80211__parse_ack`. -/
def nl80211ParseAck (sz : Nat) : Scan Int :=
  if sz < nlmsgHdrlen then pure Errno.einval.1
  else do
    let type ← Scan.u16 4
    if type ≠ nlmsgError then pure Errno.einval.1
    else do
      let length ← Scan.u32 0
      if length < nlmsgHdrlen + 4 then pure Errno.ebadmsg.1
      else do
        let e ← Scan.i32 nlmsgHdrlen
        pure (if e = 0 then 0 else if 0 < e then e else Errno.einval.1)

/-- The attributes start behind both headers; their length is a `size_t` that may wrap. -/
def scanReply (type payload : Nat) (read : Nat → Scan (Except Errno α)) :
    Scan (Except Errno α) := do
  let length ← Scan.u32 0
  Scan.findAttr type (nlmsgHdrlen + nlaHdrlen) (attrsLength length) >>=
    Scan.payloadAt payload (.error Errno.enoent) (.error Errno.enoent) read

/-- `nl80211__parse_family_id`. -/
def nl80211ParseFamilyId (sz : Nat) : Scan (Except Errno Int) :=
  if sz < nlmsgHdrlen + nlaHdrlen then pure (.error Errno.einval)
  else do
    let type ← Scan.u16 4
    if type ≠ genlIdCtrl then pure (.error Errno.einval)
    else
      scanReply ctrlAttrFamilyId 2 fun start => do
        let id ← Scan.u16 start
        pure (.ok (id : Int))

/-- `nl80211__parse_txpower`. -/
def nl80211ParseTxpower (sz : Nat) : Scan (Except Errno Int) :=
  if sz < nlmsgHdrlen + nlaHdrlen then pure (.error Errno.einval)
  else
    scanReply attrWiphyTxPowerLevel 4 fun start => do
      let mBm ← Scan.i32 start
      pure (.ok mBm)

/-- `nl80211__parse_alpha2`. -/
def nl80211ParseAlpha2 (sz outsz : Nat) : Scan (Except Errno CStr) :=
  if sz < nlmsgHdrlen + nlaHdrlen ∨ outsz < 3 then pure (.error Errno.einval)
  else
    scanReply attrRegAlpha2 2 fun start => do
      let first ← Scan.byte start
      let second ← Scan.byte (start + 1)
      pure (.ok (ofBuffer ([first, second].map fun b => Char.ofNat b.toNat)))

/-- The helpers, `parse_alpha2` with the size of its output buffer. -/
inductive ReplyParser where
  | ack
  | familyId
  | txpower
  | alpha2 (outsz : Nat)
  deriving Repr, DecidableEq

namespace ReplyParser

/-- Given a buffer and its true size, the helper inspects nothing behind it. -/
def StaysInside (parser : ReplyParser) (d : Datagram) : Prop :=
  match parser with
  | ack => (nl80211ParseAck d.size).Inside d.byte d.size
  | familyId => (nl80211ParseFamilyId d.size).Inside d.byte d.size
  | txpower => (nl80211ParseTxpower d.size).Inside d.byte d.size
  | alpha2 outsz => (nl80211ParseAlpha2 d.size outsz).Inside d.byte d.size

/-- The attributes of the reply, at the length the header claims, end inside the buffer. -/
def ReplyEnds (d : Datagram) (type payload : Nat) : Prop :=
  AttrsEnd d type payload (nlmsgHdrlen + nlaHdrlen) (attrsLength (d.nlmsgLen 0))

/-- The buffers on which the length field does no harm. -/
def Harmless (parser : ReplyParser) (d : Datagram) : Prop :=
  match parser with
  | ack =>
      d.size < nlmsgHdrlen ∨ d.nlmsgType 0 ≠ nlmsgError ∨ d.nlmsgLen 0 < nlmsgHdrlen + 4 ∨
        nlmsgHdrlen + 4 ≤ d.size
  | familyId =>
      d.size < nlmsgHdrlen + nlaHdrlen ∨ d.nlmsgType 0 ≠ genlIdCtrl ∨
        ReplyEnds d ctrlAttrFamilyId 2
  | txpower => d.size < nlmsgHdrlen + nlaHdrlen ∨ ReplyEnds d attrWiphyTxPowerLevel 4
  | alpha2 outsz =>
      d.size < nlmsgHdrlen + nlaHdrlen ∨ outsz < 3 ∨ ReplyEnds d attrRegAlpha2 2

end ReplyParser

section Bounds

variable {d : Datagram}

theorem nl80211ParseAck_inside :
    (nl80211ParseAck d.size).Inside d.byte d.size ↔ ReplyParser.ack.Harmless d := by
  have header : nlmsgHdrlen = 16 := rfl
  unfold nl80211ParseAck
  dsimp only [ReplyParser.Harmless]
  by_cases small : d.size < nlmsgHdrlen
  · rw [if_pos small]
    exact iff_of_true (fun _ => nofun) (.inl small)
  rw [if_neg small, or_iff_right small, Scan.inside_bind, Scan.inside_u16, Scan.u16_value]
  by_cases other : d.u16 4 ≠ nlmsgError
  · rw [if_pos other, Scan.inside_pure]
    exact iff_of_true ⟨by omega, trivial⟩ (.inl other)
  rw [if_neg other, Scan.inside_bind, Scan.inside_u32, Scan.u32_value,
    or_iff_right (show ¬d.nlmsgType 0 ≠ nlmsgError from other)]
  by_cases short : d.u32 0 < nlmsgHdrlen + 4
  · rw [if_pos short, Scan.inside_pure]
    exact iff_of_true ⟨by omega, by omega, trivial⟩ (.inl short)
  rw [if_neg short, Scan.inside_bind, Scan.inside_i32, Scan.inside_pure,
    or_iff_right (show ¬d.nlmsgLen 0 < nlmsgHdrlen + 4 from short)]
  constructor
  · rintro ⟨-, -, whole, -⟩
    exact whole
  · intro whole
    exact ⟨by omega, by omega, whole, trivial⟩

theorem scanReply_inside
    {type payload : Nat} {read : Nat → Scan (Except Errno α)}
    (reads : ∀ start, (read start).Inside d.byte d.size ↔ start + payload ≤ d.size)
    (headers : ¬d.size < nlmsgHdrlen + nlaHdrlen) :
    (scanReply type payload read).Inside d.byte d.size ↔ ReplyParser.ReplyEnds d type payload := by
  have header : nlmsgHdrlen = 16 := rfl
  unfold scanReply ReplyParser.ReplyEnds
  rw [Scan.inside_bind, Scan.inside_u32, Scan.u32_value, Scan.inside_findAttr reads]
  exact and_iff_right (by omega)

theorem nl80211ParseFamilyId_inside :
    (nl80211ParseFamilyId d.size).Inside d.byte d.size ↔ ReplyParser.familyId.Harmless d := by
  have header : nlmsgHdrlen = 16 := rfl
  unfold nl80211ParseFamilyId
  dsimp only [ReplyParser.Harmless]
  by_cases small : d.size < nlmsgHdrlen + nlaHdrlen
  · rw [if_pos small]
    exact iff_of_true (fun _ => nofun) (.inl small)
  rw [if_neg small, or_iff_right small, Scan.inside_bind, Scan.inside_u16, Scan.u16_value,
    and_iff_right (show 4 + 2 ≤ d.size by omega)]
  by_cases other : d.u16 4 ≠ genlIdCtrl
  · rw [if_pos other, Scan.inside_pure]
    exact iff_of_true trivial (.inl other)
  rw [if_neg other, or_iff_right (show ¬d.nlmsgType 0 ≠ genlIdCtrl from other)]
  refine scanReply_inside (fun start => ?_) small
  simp

theorem nl80211ParseTxpower_inside :
    (nl80211ParseTxpower d.size).Inside d.byte d.size ↔ ReplyParser.txpower.Harmless d := by
  unfold nl80211ParseTxpower
  dsimp only [ReplyParser.Harmless]
  by_cases small : d.size < nlmsgHdrlen + nlaHdrlen
  · rw [if_pos small]
    exact iff_of_true (fun _ => nofun) (.inl small)
  rw [if_neg small, or_iff_right small]
  refine scanReply_inside (fun start => ?_) small
  simp

theorem nl80211ParseAlpha2_inside (outsz : Nat) :
    (nl80211ParseAlpha2 d.size outsz).Inside d.byte d.size ↔
      (ReplyParser.alpha2 outsz).Harmless d := by
  unfold nl80211ParseAlpha2
  dsimp only [ReplyParser.Harmless]
  rw [← or_assoc]
  by_cases small : d.size < nlmsgHdrlen + nlaHdrlen ∨ outsz < 3
  · rw [if_pos small]
    exact iff_of_true (fun _ => nofun) (.inl small)
  rw [if_neg small, or_iff_right small]
  refine scanReply_inside (fun start => ?_) fun short => small (.inl short)
  simp
  omega

/-- A header that promises no more than was received does no harm. -/
theorem replyEnds_of_received
    (type payload : Nat)
    (headers : nlmsgHdrlen + nlaHdrlen ≤ d.nlmsgLen 0) (received : d.nlmsgLen 0 ≤ d.size)
    (small : d.size ≤ 32768) :
    ReplyParser.ReplyEnds d type payload := by
  refine attrsEnd_of_received type payload _ _ ?_
  rw [attrsLength_eq (by omega) (by omega)]
  unfold nlmsgHdrlen nlaHdrlen at headers ⊢
  omega

end Bounds

/-- A helper stays inside the buffer exactly when the length field does no harm. -/
theorem replyParser_inside_iff (parser : ReplyParser) (d : Datagram) :
    parser.StaysInside d ↔ parser.Harmless d := by
  cases parser with
  | ack => exact nl80211ParseAck_inside
  | familyId => exact nl80211ParseFamilyId_inside
  | txpower => exact nl80211ParseTxpower_inside
  | alpha2 outsz => exact nl80211ParseAlpha2_inside outsz

/-- A header of zeros: its length less 20 wraps, and the search goes on behind the buffer. -/
theorem zeroReply_overread :
    ¬ReplyParser.txpower.StaysInside ⟨20, fun _ => 0⟩ := by
  intro inside
  rcases nl80211ParseTxpower_inside.mp inside with small | ends
  · exact absurd small (by decide)
  · -- the first header to look at would stand right behind the buffer
    cases ends with
    | exhausted short => exact absurd short (by decide)
    | malformed received _ => exact absurd received (by decide)
    | wanted received _ _ => exact absurd received (by decide)
    | other received _ _ => exact absurd received (by decide)

end Zenctl
