import Zenctl.Netlink

namespace Netlink

/-!
# Attributes written and read back

What `putAttr` lays down is what a loop over `nla_iter_next` comes by: the same
types and payloads, in the same order, with zero bytes between them.
-/

/-- A type and a payload. -/
abbrev Attr := Nat × Bytes

/-- What fits into the two 16-bit fields of an attribute header. -/
def Attr.Fits (attr : Attr) : Prop :=
  attr.1 < 65536 ∧ attr.2.length ≤ 65531

/-! ## The bytes of a message -/

/-- The padding behind a payload. -/
def padding (length : Nat) : Bytes :=
  List.replicate (align4 length - length) 0

/-- The bytes `putAttr` appends. -/
def attrBytes (attr : Attr) : Bytes :=
  le16 (nlaHdrlen + attr.2.length) ++ le16 attr.1 ++ attr.2 ++ padding attr.2.length

/-- The two headers, with this value in the length field. -/
def headerBytes (length family command flags sequence : Nat) : Bytes :=
  le32 length ++ le16 family ++ le16 flags ++ le32 sequence ++ le32 0 ++
    [UInt8.ofNat command, 1, 0, 0]

theorem align4_bounds (n : Nat) :
    n ≤ align4 n ∧ align4 n < n + 4 ∧ align4 n % 4 = 0 := by
  unfold align4
  omega

theorem attrBytes_length (attr : Attr) :
    (attrBytes attr).length = nlaHdrlen + align4 attr.2.length := by
  have := align4_bounds attr.2.length
  simp only [attrBytes, padding, le16, nlaHdrlen, List.length_append, List.length_cons,
    List.length_nil, List.length_replicate]
  omega

theorem headerBytes_length (length family command flags sequence : Nat) :
    (headerBytes length family command flags sequence).length = nlmsgHdrlen + nlaHdrlen := rfl

/-! ## Appending -/

/-- `nlbuf_put_attr`: was there room, and the buffer afterwards. -/
def Builder.tryPut (b : Builder) (attr : Attr) : Bool × Builder :=
  match b.putAttr attr.1 attr.2 with
  | none => (false, b)
  | some next => (true, next)

/-- Append one attribute after the other, going on when one does not fit. -/
def Builder.putAll (b : Builder) : List Attr → Builder × List Attr
  | [] => (b, [])
  | attr :: rest =>
      let added := (b.tryPut attr).2.putAll rest
      (added.1, if (b.tryPut attr).1 then attr :: added.2 else added.2)

/-- The offset is aligned and inside the buffer. -/
def Builder.Sound (b : Builder) : Prop :=
  b.bytes.length % 4 = 0 ∧ b.bytes.length ≤ b.capacity

theorem Builder.init_eq (capacity family command flags sequence : Nat) :
    Builder.init capacity family command flags sequence =
      if capacity < nlmsgHdrlen + nlaHdrlen then none
      else some ⟨capacity, headerBytes 0 family command flags sequence⟩ := rfl

theorem Builder.init_sound
    {capacity family command flags sequence : Nat} {b : Builder}
    (started : Builder.init capacity family command flags sequence = some b) :
    b.Sound ∧ b.capacity = capacity ∧ b.bytes = headerBytes 0 family command flags sequence := by
  rw [init_eq] at started
  split at started
  · cases started
  · next roomy =>
      cases started
      have length := headerBytes_length 0 family command flags sequence
      refine ⟨⟨by rw [length]; rfl, ?_⟩, rfl, rfl⟩
      simp only [length]
      omega

theorem Builder.putAttr_eq (b : Builder) (attr : Attr) :
    b.putAttr attr.1 attr.2 =
      if b.capacity < b.bytes.length + (attrBytes attr).length then none
      else some { b with bytes := b.bytes ++ attrBytes attr } := by
  rw [attrBytes_length]
  unfold putAttr attrBytes padding
  simp only [List.append_assoc]

/-- An append leaves the buffer as it is, or adds the bytes of the attribute behind the offset. -/
theorem Builder.tryPut_cases (b : Builder) (attr : Attr) :
    (b.capacity < b.bytes.length + (attrBytes attr).length ∧ b.tryPut attr = (false, b)) ∨
      (b.bytes.length + (attrBytes attr).length ≤ b.capacity ∧
        b.tryPut attr = (true, { b with bytes := b.bytes ++ attrBytes attr })) := by
  unfold tryPut
  rw [putAttr_eq]
  by_cases full : b.capacity < b.bytes.length + (attrBytes attr).length
  · rw [if_pos full]
    exact .inl ⟨full, rfl⟩
  · rw [if_neg full]
    exact .inr ⟨Nat.le_of_not_lt full, rfl⟩

theorem Builder.tryPut_sound
    {b : Builder} (sound : b.Sound) (attr : Attr) :
    (b.tryPut attr).2.Sound ∧ (b.tryPut attr).2.capacity = b.capacity := by
  rcases b.tryPut_cases attr with ⟨-, result⟩ | ⟨room, result⟩
  · rw [result]
    exact ⟨sound, rfl⟩
  · have aligned := (align4_bounds attr.2.length).2.2
    have length := attrBytes_length attr
    obtain ⟨offset, -⟩ := sound
    rw [result]
    refine ⟨⟨?_, ?_⟩, rfl⟩
    · simp only [List.length_append, length, nlaHdrlen]
      omega
    · simpa using room

/-- All the appends together: what was added is the accepted attributes in order. -/
theorem Builder.putAll_spec
    {b : Builder} (sound : b.Sound) (attrs : List Attr) :
    (b.putAll attrs).1.Sound ∧ (b.putAll attrs).1.capacity = b.capacity ∧
      (b.putAll attrs).1.bytes = b.bytes ++ (b.putAll attrs).2.flatMap attrBytes ∧
      (b.putAll attrs).2.Sublist attrs := by
  induction attrs generalizing b with
  | nil =>
      exact ⟨sound, rfl, by simp [putAll], .slnil⟩
  | cons attr rest inductionHypothesis =>
      obtain ⟨restSound, restCapacity, restBytes, restSublist⟩ :=
        inductionHypothesis (tryPut_sound sound attr).1
      have capacity := (tryPut_sound sound attr).2
      refine ⟨restSound, restCapacity.trans capacity, ?_, ?_⟩
      · rcases b.tryPut_cases attr with ⟨-, result⟩ | ⟨-, result⟩
        · rw [result] at restBytes
          simpa [putAll, result] using restBytes
        · rw [result] at restBytes
          simpa [putAll, result] using restBytes
      · simp only [putAll]
        split
        · exact restSublist.cons_cons attr
        · exact restSublist.cons attr

/-! ## Bytes in a datagram -/

/-- The datagram has these bytes at an offset. -/
def Datagram.Holds (d : Datagram) (offset : Nat) (bytes : Bytes) : Prop :=
  ∀ i, (inside : i < bytes.length) → d.byte (offset + i) = bytes[i]

/-- The datagram received is this message. -/
def Datagram.Receives (d : Datagram) (message : Bytes) : Prop :=
  d.size = message.length ∧ d.Holds 0 message

theorem Datagram.Holds.append
    {d : Datagram} {offset : Nat} {front back : Bytes}
    (holds : d.Holds offset (front ++ back)) :
    d.Holds offset front ∧ d.Holds (offset + front.length) back := by
  constructor
  · intro i inside
    rw [holds i (by rw [List.length_append]; omega), List.getElem_append_left]
  · intro i inside
    rw [Nat.add_assoc, holds (front.length + i) (by rw [List.length_append]; omega),
      List.getElem_append_right (Nat.le_add_right _ _)]
    simp

theorem Datagram.Holds.u16_eq
    {d : Datagram} {offset n : Nat}
    (holds : d.Holds offset (le16 n))
    (small : n < 65536) :
    d.u16 offset = n := by
  have low := holds 0 (by simp [le16])
  have high := holds 1 (by simp [le16])
  simp only [le16, Nat.add_zero, List.getElem_cons_zero, List.getElem_cons_succ] at low high
  rw [u16, low, high, UInt8.toNat_ofNat', UInt8.toNat_ofNat']
  omega

theorem Datagram.Holds.u32_eq
    {d : Datagram} {offset n : Nat}
    (holds : d.Holds offset (le32 n))
    (small : n < 4294967296) :
    d.u32 offset = n := by
  have first := holds 0 (by simp [le32])
  have second := holds 1 (by simp [le32])
  have third := holds 2 (by simp [le32])
  have fourth := holds 3 (by simp [le32])
  simp only [le32, Nat.add_zero, List.getElem_cons_zero, List.getElem_cons_succ]
    at first second third fourth
  rw [u32, u16, u16, first, second, third, fourth]
  simp only [UInt8.toNat_ofNat']
  omega

/-! ## Iterating -/

/-- `struct nla_iter`: the next position, the bytes left, and the current attribute. -/
structure NlaIter where
  base : Nat
  remaining : Nat
  cur : Nat

/-- `nla_iter_init`. -/
def nlaIterInit (base remaining : Nat) : NlaIter :=
  ⟨base, remaining, 0⟩

/-- `nla_iter_next`. -/
def Datagram.nlaIterNext (d : Datagram) (it : NlaIter) : Option NlaIter :=
  if it.remaining < nlaHdrlen then none
  else if d.u16 it.base < nlaHdrlen ∨ it.remaining < d.u16 it.base then none
  else
    let aligned := min (align4 (d.u16 it.base)) it.remaining
    some ⟨it.base + aligned, it.remaining - aligned, it.base⟩

/-- The attributes a loop over `nla_iter_next` comes by until it ends. -/
inductive Datagram.Yields (d : Datagram) : NlaIter → List Nat → Prop where
  | done {it : NlaIter} : d.nlaIterNext it = none → d.Yields it []
  | next {it later : NlaIter} {rest : List Nat} :
      d.nlaIterNext it = some later → d.Yields later rest → d.Yields it (later.cur :: rest)

/-- The attribute at an offset: its type and its payload. -/
def Datagram.attrAt (d : Datagram) (offset : Nat) : Attr :=
  (d.u16 (offset + 2),
    (List.range (d.u16 offset - nlaHdrlen)).map fun i => d.byte (offset + nlaHdrlen + i))

/-- The bytes behind the payload are zero. -/
def Datagram.ZeroPadded (d : Datagram) (offset : Nat) : Prop :=
  ∀ i, d.u16 offset ≤ i → i < align4 (d.u16 offset) → d.byte (offset + i) = 0

/-- `nla_find` is the first attribute of its type that the loop comes by. -/
theorem Datagram.Yields.findAttr
    {d : Datagram} {it : NlaIter} {offsets : List Nat}
    (yields : d.Yields it offsets)
    (type : Nat) {rounds : Nat}
    (enough : it.remaining ≤ rounds) :
    d.findAttr type rounds it.base it.remaining =
      offsets.find? fun offset => d.u16 (offset + 2) = type := by
  induction yields generalizing rounds with
  | @done it ended =>
      cases rounds with
      | zero =>
          rfl
      | succ rounds =>
          unfold nlaIterNext at ended
          simp only [Datagram.findAttr]
          split_ifs at ended ⊢ <;> rfl
  | @next it later rest advanced _ inductionHypothesis =>
      unfold nlaIterNext at advanced
      split_ifs at advanced with short misfit
      cases advanced
      have header : nlaHdrlen = 4 := rfl
      have grows := (align4_bounds (d.u16 it.base)).1
      rw [header] at short misfit
      obtain ⟨rounds, rfl⟩ : ∃ fewer, rounds = fewer + 1 := ⟨rounds - 1, by omega⟩
      have fewer : it.remaining - min (align4 (d.u16 it.base)) it.remaining ≤ rounds := by
        omega
      simp only [Datagram.findAttr, header, short, misfit, ↓reduceIte, List.find?_cons]
      split
      · next found =>
          simp [found]
      · next other =>
          simp only [other, decide_false]
          exact inductionHypothesis fewer

/-- One attribute as it was appended is read back. -/
theorem Datagram.Holds.attrAt_eq
    {d : Datagram} {offset : Nat} {attr : Attr}
    (holds : d.Holds offset (attrBytes attr))
    (fits : attr.Fits) :
    d.u16 offset = nlaHdrlen + attr.2.length ∧ d.attrAt offset = attr ∧ d.ZeroPadded offset := by
  obtain ⟨type, payload⟩ := attr
  obtain ⟨typeFits, payloadFits⟩ : type < 65536 ∧ payload.length ≤ 65531 := fits
  have header : nlaHdrlen = 4 := rfl
  obtain ⟨front, zeros⟩ := holds.append
  obtain ⟨headers, contents⟩ := front.append
  obtain ⟨lengthField, typeField⟩ := headers.append
  have length : d.u16 offset = nlaHdrlen + payload.length :=
    lengthField.u16_eq (by simp only [header]; omega)
  have typeRead : d.u16 (offset + 2) = type := typeField.u16_eq typeFits
  refine ⟨length, ?_, ?_⟩
  · unfold attrAt
    rw [typeRead, length, Nat.add_sub_cancel_left]
    refine Prod.ext rfl (List.ext_getElem (by simp) fun i _ inside => ?_)
    rw [List.getElem_map, List.getElem_range]
    exact contents i inside
  · intro i behind before
    rw [length, header] at behind before
    have zero := zeros (i - (4 + payload.length)) (by
      simp only [padding, List.length_replicate]
      unfold align4 at before ⊢
      omega)
    simp only [padding, List.getElem_replicate] at zero
    rw [← zero]
    congr 1
    simp only [le16, List.length_append, List.length_cons, List.length_nil]
    omega

/-- A row of attributes is iterated in order, up to its end. -/
theorem Datagram.Holds.yields
    {d : Datagram} {base : Nat} {attrs : List Attr}
    (holds : d.Holds base (attrs.flatMap attrBytes))
    (fits : ∀ attr ∈ attrs, attr.Fits)
    (cur : Nat) :
    ∃ offsets, d.Yields ⟨base, (attrs.flatMap attrBytes).length, cur⟩ offsets ∧
      offsets.map d.attrAt = attrs ∧ ∀ offset ∈ offsets, d.ZeroPadded offset := by
  induction attrs generalizing base cur with
  | nil =>
      exact ⟨[], .done rfl, rfl, nofun⟩
  | cons attr rest inductionHypothesis =>
      rw [List.flatMap_cons] at holds ⊢
      obtain ⟨here, later⟩ := holds.append
      obtain ⟨length, read, zeros⟩ := here.attrAt_eq (fits attr List.mem_cons_self)
      have size := attrBytes_length attr
      have header : nlaHdrlen = 4 := rfl
      have aligned : align4 (nlaHdrlen + attr.2.length) = (attrBytes attr).length := by
        rw [size]
        unfold align4
        omega
      have grows := (align4_bounds attr.2.length).1
      obtain ⟨offsets, restYields, restRead, restZeros⟩ :=
        inductionHypothesis later (fun other member => fits other (List.mem_cons_of_mem _ member)) base
      have advance : d.nlaIterNext ⟨base, (attrBytes attr ++ rest.flatMap attrBytes).length, cur⟩ =
          some ⟨base + (attrBytes attr).length, (rest.flatMap attrBytes).length, base⟩ := by
        unfold nlaIterNext
        rw [if_neg (by simp only [List.length_append, size, header]; omega),
          if_neg (by simp only [length, List.length_append, size]; omega)]
        simp only [length, aligned, List.length_append, Nat.min_eq_left (Nat.le_add_right _ _),
          Nat.add_sub_cancel_left]
      refine ⟨base :: offsets, .next advance restYields, ?_, ?_⟩
      · rw [List.map_cons, read, restRead]
      · exact List.forall_mem_cons.mpr ⟨zeros, restZeros⟩

/-! ## Whole messages -/

/-- What a finished message says when it is received. -/
structure Datagram.Message
    (d : Datagram) (family command flags sequence : Nat) (attrs : List Attr) : Prop where
  nlmsgLen : d.nlmsgLen 0 = d.size
  nlmsgType : d.nlmsgType 0 = family
  nlmsgFlags : d.nlmsgFlags 0 = flags
  nlmsgSeq : d.u32 8 = sequence
  command : (d.byte nlmsgHdrlen).toNat = command
  version : d.byte (nlmsgHdrlen + 1) = 1
  attributes : ∃ offsets,
    d.Yields (nlaIterInit (nlmsgHdrlen + nlaHdrlen) (d.size - (nlmsgHdrlen + nlaHdrlen))) offsets ∧
      offsets.map d.attrAt = attrs ∧ (∀ offset ∈ offsets, d.ZeroPadded offset) ∧
      ∀ type rounds, d.size ≤ rounds →
        d.findAttr type rounds (nlmsgHdrlen + nlaHdrlen) (d.size - (nlmsgHdrlen + nlaHdrlen)) =
          offsets.find? fun offset => d.u16 (offset + 2) = type

/-- Headers and attributes in a row, the length stamped over the front, are such a message. -/
theorem Datagram.Receives.message
    {d : Datagram} {family command flags sequence : Nat} {attrs : List Attr} {b : Builder}
    (received : d.Receives b.finish)
    (contents : b.bytes = headerBytes 0 family command flags sequence ++ attrs.flatMap attrBytes)
    (short : b.bytes.length < 4294967296)
    (familyFits : family < 65536)
    (commandFits : command < 256)
    (flagsFit : flags < 65536)
    (sequenceFits : sequence < 4294967296)
    (fits : ∀ attr ∈ attrs, attr.Fits) :
    d.Message family command flags sequence attrs := by
  have stamped : b.finish =
      headerBytes b.bytes.length family command flags sequence ++ attrs.flatMap attrBytes := by
    rw [Builder.finish, contents]
    rfl
  obtain ⟨size, holds⟩ := received
  have length : b.finish.length = b.bytes.length := by
    rw [stamped, contents]
    rfl
  rw [stamped] at holds
  obtain ⟨headers, attributes⟩ := holds.append
  obtain ⟨front, generic⟩ := headers.append
  obtain ⟨front, -⟩ := front.append
  obtain ⟨front, sequenceField⟩ := front.append
  obtain ⟨front, flagsField⟩ := front.append
  obtain ⟨lengthField, typeField⟩ := front.append
  have region : d.size - (nlmsgHdrlen + nlaHdrlen) = (attrs.flatMap attrBytes).length := by
    rw [size, length, contents, List.length_append, headerBytes_length, Nat.add_sub_cancel_left]
  obtain ⟨offsets, yields, read, zeros⟩ := attributes.yields fits 0
  refine
    { nlmsgLen := ?_
      nlmsgType := typeField.u16_eq familyFits
      nlmsgFlags := flagsField.u16_eq flagsFit
      nlmsgSeq := sequenceField.u32_eq sequenceFits
      command := ?_
      version := generic 1 (by simp)
      attributes := ⟨offsets, ?_, read, zeros, ?_⟩ }
  · rw [size, length]
    exact lengthField.u32_eq short
  · have first := generic 0 (by simp)
    rw [show nlmsgHdrlen = 0 + (le32 b.bytes.length ++ le16 family ++ le16 flags ++
      le32 sequence ++ le32 0).length + 0 from rfl, first]
    simp only [List.getElem_cons_zero, UInt8.toNat_ofNat']
    omega
  · rw [region]
    exact yields
  · intro type rounds enough
    rw [region]
    exact yields.findAttr type (by rw [← region]; simp only; omega)

end Netlink
