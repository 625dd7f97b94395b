import Zenctl.NetlinkCodec

namespace Netlink

/-!
# The bytes a walk inspects

A scan is a program over the receive buffer that keeps the offset of every byte
it looks at.  The loops are run as the source writes them: over messages with a
signed count of bytes left and a 32-bit alignment, over attributes with an
unsigned count.
-/

/-- A program over a buffer: its result, and the offsets it looked at. -/
def Scan (α : Type) : Type :=
  (Nat → UInt8) → α × List Nat

instance : Monad Scan where
  pure value := fun _ => (value, [])
  bind program next := fun memory =>
    let first := program memory
    let second := next first.1 memory
    (second.1, first.2 ++ second.2)

variable {α β : Type}

namespace Scan

def byte (offset : Nat) : Scan UInt8 :=
  fun memory => (memory offset, [offset])

def u16 (offset : Nat) : Scan Nat := do
  let low ← byte offset
  let high ← byte (offset + 1)
  pure (low.toNat + 256 * high.toNat)

def u32 (offset : Nat) : Scan Nat := do
  let low ← u16 offset
  let high ← u16 (offset + 2)
  pure (low + 65536 * high)

def i32 (offset : Nat) : Scan Int := do
  let word ← u32 offset
  pure (if word < 2147483648 then word else word - 4294967296)

/-- The loop of `nla_find`. -/
def findAttr (type base remaining : Nat) : Scan (Option Nat) :=
  if _short : remaining < nlaHdrlen then pure none
  else do
    let length ← u16 base
    if _misfit : length < nlaHdrlen ∨ remaining < length then pure none
    else do
      let found ← u16 (base + 2)
      if found = type then pure (some base)
      else
        findAttr type (base + min (align4 length) remaining)
          (remaining - min (align4 length) remaining)
termination_by remaining
decreasing_by
  have := align4_bounds length
  unfold nlaHdrlen at _short
  simp only [nlaHdrlen] at _misfit
  omega

end Scan

/-- `NLMSG_ALIGN` of a 32-bit length. -/
def nlmsgAlign (length : Nat) : Nat :=
  (length + 3) % 4294967296 / 4 * 4

/--
The loop over the messages of a datagram: from a state, an offset and the bytes
left it comes to this result after looking at these offsets.
-/
inductive Walks (memory : Nat → UInt8) (visit : β → Nat → Scan (Visit α β)) :
    β → Nat → Int → α ⊕ β → List Nat → Prop where
  | short {state : β} {offset : Nat} {remaining : Int} :
      remaining < nlmsgHdrlen → Walks memory visit state offset remaining (.inr state) []
  | misfit {state : β} {offset : Nat} {remaining : Int} :
      nlmsgHdrlen ≤ remaining →
      (Scan.u32 offset memory).1 < nlmsgHdrlen ∨ remaining < (Scan.u32 offset memory).1 →
      Walks memory visit state offset remaining (.inr state) (Scan.u32 offset memory).2
  | stop {state : β} {offset : Nat} {remaining : Int} {result : α} :
      nlmsgHdrlen ≤ remaining →
      ¬ ((Scan.u32 offset memory).1 < nlmsgHdrlen ∨ remaining < (Scan.u32 offset memory).1) →
      (visit state offset memory).1 = .stop result →
      Walks memory visit state offset remaining (.inl result)
        ((Scan.u32 offset memory).2 ++ (visit state offset memory).2)
  | skip {state next : β} {offset : Nat} {remaining : Int} {result : α ⊕ β} {later : List Nat} :
      nlmsgHdrlen ≤ remaining →
      ¬ ((Scan.u32 offset memory).1 < nlmsgHdrlen ∨ remaining < (Scan.u32 offset memory).1) →
      (visit state offset memory).1 = .skip next →
      Walks memory visit next (offset + nlmsgAlign (Scan.u32 offset memory).1)
        (remaining - nlmsgAlign (Scan.u32 offset memory).1) result later →
      Walks memory visit state offset remaining result
        ((Scan.u32 offset memory).2 ++ (visit state offset memory).2 ++ later)

/-! ## Staying inside -/

/-- On this memory the scan gives this result and looks at nothing at or behind the bound. -/
def Scan.Reads (program : Scan α) (memory : Nat → UInt8) (bound : Nat) (result : α) : Prop :=
  (program memory).1 = result ∧ ∀ offset ∈ (program memory).2, offset < bound

section Rules

variable {memory : Nat → UInt8} {bound : Nat}

theorem Scan.Reads.pure (value : α) :
    (Pure.pure value : Scan α).Reads memory bound value :=
  ⟨rfl, nofun⟩

theorem Scan.Reads.bind
    {program : Scan α} {next : α → Scan β} {middle : α} {result : β}
    (first : program.Reads memory bound middle)
    (second : (next middle).Reads memory bound result) :
    (program >>= next).Reads memory bound result := by
  obtain ⟨rfl, firstInside⟩ := first
  obtain ⟨rfl, secondInside⟩ := second
  refine ⟨rfl, fun offset member => ?_⟩
  rcases List.mem_append.mp member with old | new
  · exact firstInside offset old
  · exact secondInside offset new

end Rules

variable {d : Datagram} {bound : Nat}

theorem Scan.byte_reads
    {offset : Nat} (inside : offset < bound) :
    (Scan.byte offset).Reads d.byte bound (d.byte offset) :=
  ⟨rfl, fun _ member => List.mem_singleton.mp member ▸ inside⟩

theorem Scan.u16_reads
    {offset : Nat} (inside : offset + 2 ≤ bound) :
    (Scan.u16 offset).Reads d.byte bound (d.u16 offset) :=
  .bind (byte_reads (by omega)) (.bind (byte_reads (by omega)) (.pure _))

theorem Scan.u32_reads
    {offset : Nat} (inside : offset + 4 ≤ bound) :
    (Scan.u32 offset).Reads d.byte bound (d.u32 offset) :=
  .bind (u16_reads (by omega)) (.bind (u16_reads (by omega)) (.pure _))

theorem Scan.i32_reads
    {offset : Nat} (inside : offset + 4 ≤ bound) :
    (Scan.i32 offset).Reads d.byte bound (d.i32 offset) :=
  .bind (u32_reads inside) (.pure _)

/-- `nla_find` stays inside the attributes; what it finds lies there with its whole length. -/
theorem Scan.findAttr_reads
    (type : Nat) {base remaining rounds : Nat}
    (enough : remaining ≤ rounds)
    (inside : base + remaining ≤ bound) :
    (Scan.findAttr type base remaining).Reads d.byte bound (d.findAttr type rounds base remaining) ∧
      ∀ attr, d.findAttr type rounds base remaining = some attr →
        nlaHdrlen ≤ d.u16 attr ∧ attr + d.u16 attr ≤ bound := by
  have header : nlaHdrlen = 4 := rfl
  induction rounds generalizing base remaining with
  | zero =>
      have empty : remaining < nlaHdrlen := by omega
      rw [findAttr, dif_pos empty]
      refine ⟨.pure _, ?_⟩
      rintro attr ⟨⟩
  | succ rounds inductionHypothesis =>
      rw [findAttr]
      simp only [Datagram.findAttr]
      by_cases short : remaining < nlaHdrlen
      · rw [dif_pos short, if_pos short]
        refine ⟨.pure _, ?_⟩
        rintro attr ⟨⟩
      rw [dif_neg short, if_neg short]
      have lengthRead : (u16 base).Reads d.byte bound (d.u16 base) := u16_reads (by omega)
      by_cases misfit : d.u16 base < nlaHdrlen ∨ remaining < d.u16 base
      · rw [if_pos misfit]
        refine ⟨.bind lengthRead ?_, ?_⟩
        · rw [dif_pos misfit]
          exact .pure _
        · rintro attr ⟨⟩
      rw [if_neg misfit]
      have typeRead : (u16 (base + 2)).Reads d.byte bound (d.u16 (base + 2)) := u16_reads (by omega)
      by_cases found : d.u16 (base + 2) = type
      · rw [if_pos found]
        refine ⟨.bind lengthRead ?_, ?_⟩
        · rw [dif_neg misfit]
          refine .bind typeRead ?_
          rw [if_pos found]
          exact .pure _
        · rintro attr ⟨⟩
          omega
      · have grows := align4_bounds (d.u16 base)
        obtain ⟨restReads, restFound⟩ := @inductionHypothesis
          (base + min (align4 (d.u16 base)) remaining)
          (remaining - min (align4 (d.u16 base)) remaining) (by omega) (by omega)
        rw [if_neg found]
        refine ⟨.bind lengthRead ?_, restFound⟩
        rw [dif_neg misfit]
        refine .bind typeRead ?_
        rw [if_neg found]
        exact restReads

/-! ## Walks that end inside -/

/-- What a visit has to do: on every message that fits, agree with its model and stay inside. -/
def VisitReads (d : Datagram) (scan : β → Nat → Scan (Visit α β))
    (visit : β → Nat → Visit α β) : Prop :=
  ∀ state offset, nlmsgHdrlen ≤ d.nlmsgLen offset → offset + d.nlmsgLen offset ≤ d.size →
    (scan state offset).Reads d.byte d.size (visit state offset)

/-- The walk ends with this outcome, and whatever it looks at has been received. -/
def WalksInside (d : Datagram) (scan : β → Nat → Scan (Visit α β)) (start : β)
    (outcome : α ⊕ β) : Prop :=
  (∃ looked, Walks d.byte scan start 0 d.size outcome looked) ∧
    ∀ result looked, Walks d.byte scan start 0 d.size result looked →
      result = outcome ∧ ∀ offset ∈ looked, offset < d.size

theorem Walks.unique
    {memory : Nat → UInt8} {scan : β → Nat → Scan (Visit α β)} {state : β} {offset : Nat}
    {remaining : Int} {first second : α ⊕ β} {firstLooked secondLooked : List Nat}
    (one : Walks memory scan state offset remaining first firstLooked)
    (other : Walks memory scan state offset remaining second secondLooked) :
    first = second ∧ firstLooked = secondLooked := by
  induction one generalizing second secondLooked with
  | short few =>
      cases other with
      | short _ => exact ⟨rfl, rfl⟩
      | misfit enough _ | stop enough _ _ | skip enough _ _ _ => omega
  | misfit enough bad =>
      cases other with
      | short few => omega
      | misfit _ _ => exact ⟨rfl, rfl⟩
      | stop _ good _ | skip _ good _ _ => exact absurd bad good
  | stop enough good stops =>
      cases other with
      | short few => omega
      | misfit _ bad => exact absurd bad good
      | stop _ _ again =>
          cases stops.symm.trans again
          exact ⟨rfl, rfl⟩
      | skip _ _ again _ => cases stops.symm.trans again
  | skip enough good skips _ inductionHypothesis =>
      cases other with
      | short few => omega
      | misfit _ bad => exact absurd bad good
      | stop _ _ again => cases skips.symm.trans again
      | skip _ _ again rest =>
          cases skips.symm.trans again
          obtain ⟨rfl, rfl⟩ := inductionHypothesis rest
          exact ⟨rfl, rfl⟩

/-- The loop ends: every message that is skipped takes at least 16 bytes off what is left. -/
theorem VisitReads.walks
    {scan : β → Nat → Scan (Visit α β)} {visit : β → Nat → Visit α β}
    (visits : VisitReads d scan visit)
    (received : d.size ≤ 32768)
    (rounds offset : Nat) (remaining : Int) (state : β)
    (enough : remaining ≤ rounds)
    (inside : offset + remaining ≤ d.size) :
    ∃ looked, Walks d.byte scan state offset remaining
        (d.walk visit rounds state offset remaining.toNat) looked ∧
      ∀ i ∈ looked, i < d.size := by
  have header : nlmsgHdrlen = 16 := rfl
  induction rounds generalizing state offset remaining with
  | zero =>
      exact ⟨[], .short (by rw [header]; omega), nofun⟩
  | succ rounds inductionHypothesis =>
      simp only [Datagram.walk]
      by_cases few : remaining < nlmsgHdrlen
      · rw [if_pos (by omega)]
        exact ⟨[], .short few, nofun⟩
      rw [if_neg (by omega)]
      have lengthReads : (Scan.u32 offset).Reads d.byte d.size (d.nlmsgLen offset) :=
        Scan.u32_reads (by omega)
      have length : (Scan.u32 offset d.byte).1 = d.nlmsgLen offset := lengthReads.1
      by_cases bad : d.nlmsgLen offset < nlmsgHdrlen ∨ remaining < d.nlmsgLen offset
      · rw [if_pos (by omega)]
        exact ⟨_, .misfit (by omega) (by rwa [length]), lengthReads.2⟩
      rw [if_neg (by omega)]
      have good : ¬ ((Scan.u32 offset d.byte).1 < nlmsgHdrlen ∨
          remaining < (Scan.u32 offset d.byte).1) := by rwa [length]
      obtain ⟨visited, visitedInside⟩ := visits state offset (by omega) (by omega)
      have looks : ∀ i ∈ (Scan.u32 offset d.byte).2 ++ (scan state offset d.byte).2,
          i < d.size := by
        intro i member
        rcases List.mem_append.mp member with old | new
        · exact lengthReads.2 i old
        · exact visitedInside i new
      cases outcome : visit state offset with
      | stop result =>
          exact ⟨_, .stop (by omega) good (visited.trans outcome), looks⟩
      | skip next =>
          have aligned : nlmsgAlign (d.nlmsgLen offset) = align4 (d.nlmsgLen offset) := by
            unfold nlmsgAlign align4
            omega
          have grows := align4_bounds (d.nlmsgLen offset)
          obtain ⟨later, walks, laterInside⟩ := @inductionHypothesis
            (offset + align4 (d.nlmsgLen offset)) (remaining - align4 (d.nlmsgLen offset)) next
            (by omega) (by omega)
          have left : (remaining - align4 (d.nlmsgLen offset)).toNat =
              remaining.toNat - align4 (d.nlmsgLen offset) := by omega
          rw [left] at walks
          refine ⟨(Scan.u32 offset d.byte).2 ++ (scan state offset d.byte).2 ++ later,
            .skip (by omega) good (visited.trans outcome) ?_, ?_⟩
          · rw [length, aligned]
            exact walks
          · intro i member
            rcases List.mem_append.mp member with old | new
            · exact looks i old
            · exact laterInside i new

/-- A walk over a datagram that fits the receive buffer ends, inside what was received. -/
theorem VisitReads.walksInside
    {scan : β → Nat → Scan (Visit α β)} {visit : β → Nat → Visit α β}
    (visits : VisitReads d scan visit)
    (received : d.size ≤ 32768)
    (start : β) :
    WalksInside d scan start (d.messages visit start) := by
  obtain ⟨looked, walks, inside⟩ := visits.walks received d.size 0 d.size start le_rfl
    (by simp)
  refine ⟨⟨looked, walks⟩, fun result other otherWalks => ?_⟩
  obtain ⟨rfl, rfl⟩ := otherWalks.unique walks
  exact ⟨rfl, inside⟩

end Netlink
