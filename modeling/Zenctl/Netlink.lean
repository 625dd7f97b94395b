import Mathlib.Data.List.Basic
import Mathlib.Tactic.Ring

namespace Netlink

/-!
# Netlink messages

The wire format of generic netlink on a little-endian machine: a message
header of 16 bytes, a generic header of 4, and attributes of the form length,
type, payload, padded to 4 bytes.  Messages are built in a buffer of fixed
capacity and read back from memory that may hold anything behind the bytes
received.
-/

abbrev Bytes := List UInt8

def le16 (n : Nat) : Bytes :=
  [UInt8.ofNat n, UInt8.ofNat (n / 256)]

def le32 (n : Nat) : Bytes :=
  [UInt8.ofNat n, UInt8.ofNat (n / 256), UInt8.ofNat (n / 65536), UInt8.ofNat (n / 16777216)]

/-- `NLMSG_ALIGN` and `NLA_ALIGN`. -/
def align4 (n : Nat) : Nat :=
  (n + 3) / 4 * 4

/-- `NLMSG_HDRLEN`. -/
def nlmsgHdrlen : Nat := 16

/-- `NLA_HDRLEN` and `GENL_HDRLEN`. -/
def nlaHdrlen : Nat := 4

/-! ## Building -/

/-- A message under construction: the capacity of the buffer and the bytes so far. -/
structure Builder where
  capacity : Nat
  bytes : Bytes
  deriving Repr, DecidableEq

/-- The two headers, the length field left zero. -/
def Builder.init (capacity family command flags sequence : Nat) : Option Builder :=
  if capacity < nlmsgHdrlen + nlaHdrlen then none
  else
    some ⟨capacity, le32 0 ++ le16 family ++ le16 flags ++ le32 sequence ++ le32 0 ++
      [UInt8.ofNat command, 1, 0, 0]⟩

/-- Append one attribute with its padding. -/
def Builder.putAttr (b : Builder) (type : Nat) (payload : Bytes) : Option Builder :=
  if b.capacity < b.bytes.length + (nlaHdrlen + align4 payload.length) then none
  else
    some { b with
      bytes := b.bytes ++ le16 (nlaHdrlen + payload.length) ++ le16 type ++ payload ++
        List.replicate (align4 payload.length - payload.length) 0 }

/-- Stamp the length over the first four bytes. -/
def Builder.finish (b : Builder) : Bytes :=
  le32 b.bytes.length ++ b.bytes.drop 4

/-! ## Reading -/

/-- A receive buffer: the bytes received, and whatever memory lies behind them. -/
structure Datagram where
  size : Nat
  byte : Nat → UInt8

def Datagram.u16 (d : Datagram) (offset : Nat) : Nat :=
  (d.byte offset).toNat + 256 * (d.byte (offset + 1)).toNat

def Datagram.u32 (d : Datagram) (offset : Nat) : Nat :=
  d.u16 offset + 65536 * d.u16 (offset + 2)

/-- The same four bytes as a signed integer. -/
def Datagram.i32 (d : Datagram) (offset : Nat) : Int :=
  if d.u32 offset < 2147483648 then d.u32 offset else d.u32 offset - 4294967296

/-- The header fields of the message at an offset. -/
def Datagram.nlmsgLen (d : Datagram) (offset : Nat) : Nat := d.u32 offset
def Datagram.nlmsgType (d : Datagram) (offset : Nat) : Nat := d.u16 (offset + 4)
def Datagram.nlmsgFlags (d : Datagram) (offset : Nat) : Nat := d.u16 (offset + 6)

/--
The offset of the first attribute of a type among `remaining` bytes.  Every
round moves on by at least four bytes, so `remaining` rounds are enough.
-/
def Datagram.findAttr (d : Datagram) (type : Nat) : Nat → Nat → Nat → Option Nat
  | 0, _, _ => none
  | rounds + 1, base, remaining =>
      if remaining < nlaHdrlen then none
      else if d.u16 base < nlaHdrlen ∨ remaining < d.u16 base then none
      else if d.u16 (base + 2) = type then some base
      else
        let step := min (align4 (d.u16 base)) remaining
        d.findAttr type rounds (base + step) (remaining - step)

/-- What a walk over the messages of a datagram does at one message. -/
inductive Visit (α β : Type) where
  | stop (result : α)
  | skip (state : β)

/--
Visit the messages of a datagram in order until one stops the walk, carrying a
state from one to the next.  The walk also ends at a message whose length does
not fit; what is left then is the state.
-/
def Datagram.walk {α β : Type} (d : Datagram) (visit : β → Nat → Visit α β) :
    Nat → β → Nat → Nat → α ⊕ β
  | 0, state, _, _ => .inr state
  | rounds + 1, state, offset, remaining =>
      if remaining < nlmsgHdrlen then .inr state
      else if d.nlmsgLen offset < nlmsgHdrlen ∨ remaining < d.nlmsgLen offset then .inr state
      else
        match visit state offset with
        | .stop result => .inl result
        | .skip next =>
            d.walk visit rounds next (offset + align4 (d.nlmsgLen offset))
              (remaining - align4 (d.nlmsgLen offset))

/-- Visit all the messages of a datagram; every round moves on by at least 16 bytes. -/
def Datagram.messages {α β : Type} (d : Datagram) (visit : β → Nat → Visit α β) (start : β) :
    α ⊕ β :=
  d.walk visit d.size start 0 d.size

end Netlink
