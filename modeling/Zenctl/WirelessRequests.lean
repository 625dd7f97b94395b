import Zenctl.LibWireless
import Zenctl.NetlinkCodec

namespace Zenctl

open CString Netlink

/-!
# The requests of `nl80211.c`

What each build function lays down, read back with `nla_find`.
-/

variable {σ : Type}

/-- An `int` or an `int32_t`. -/
def IsInt32 (value : Int) : Prop :=
  -2147483648 ≤ value ∧ value ≤ 2147483647

/-- A request with the arguments of its build function. -/
inductive Request where
  | getfamily
  | getReg (family : Int)
  | setReg (family : Int) (alpha2 : CStr)
  | getWiphy (family phy : Int)
  | setTxpower (family phy setting mBm : Int)
  | setPs (family ifindex : Int) (enabled : Bool)

namespace Request

/-- The build function of the request, on a buffer of this size. -/
def build (size : Nat) : Request → GetM σ (Option Bytes)
  | getfamily => buildGetfamily size
  | getReg family => buildGetReg size family
  | setReg family alpha2 => buildSetReg size family alpha2
  | getWiphy family phy => buildGetWiphy size family phy
  | setTxpower family phy setting mBm => buildSetTxpower size family phy setting mBm
  | setPs family ifindex enabled => buildSetPs size family ifindex enabled

/-- The family and command of the message. -/
def family : Request → Int
  | getfamily => genlIdCtrl
  | getReg family | setReg family _ | getWiphy family _ | setTxpower family _ _ _
  | setPs family _ _ => family

@[inherit_doc family]
def command : Request → Nat
  | getfamily => ctrlCmdGetfamily
  | getReg _ => cmdGetReg
  | setReg _ _ => cmdReqSetReg
  | getWiphy _ _ => cmdGetWiphy
  | setTxpower _ _ _ _ => cmdSetWiphy
  | setPs _ _ _ => cmdSetPowerSave

/-- The arguments are in range. -/
def Valid : Request → Prop
  | getfamily => True
  | getReg family => 0 < family
  | setReg family alpha2 => 0 < family ∧ alpha2.length = 2
  | getWiphy family phy => 0 < family ∧ 0 ≤ phy
  | setTxpower family phy setting _ =>
      0 < family ∧ 0 ≤ phy ∧ txPowerAutomatic ≤ setting ∧ setting ≤ txPowerFixed
  | setPs family ifindex _ => 0 < family ∧ 0 < ifindex

/-- The arguments have the types of the build function; a family id has 16 bits. -/
def Typed : Request → Prop
  | getfamily => True
  | getReg family | setReg family _ => family ≤ 65535
  | getWiphy family phy => family ≤ 65535 ∧ IsInt32 phy
  | setTxpower family phy setting mBm =>
      family ≤ 65535 ∧ IsInt32 phy ∧ IsInt32 setting ∧ IsInt32 mBm
  | setPs family ifindex _ => family ≤ 65535 ∧ IsInt32 ifindex

/-- What an attribute says. -/
inductive Value where
  | text (bytes : Bytes)
  | unsigned (value : Int)
  | signed (value : Int)

/-- The attributes of the message with the values they are given. -/
def values : Request → List (Nat × Value)
  | getfamily => [(ctrlAttrFamilyName, .text (cstrBytes "nl80211" ++ [0]))]
  | getReg _ => []
  | setReg _ alpha2 => [(attrRegAlpha2, .text (cstrBytes alpha2))]
  | getWiphy _ phy => [(attrWiphy, .unsigned phy)]
  | setTxpower _ phy setting mBm =>
      [(attrWiphy, .unsigned phy), (attrWiphyTxPowerSetting, .unsigned setting)] ++
        if setting = txPowerAutomatic then [] else [(attrWiphyTxPowerLevel, .signed mBm)]
  | setPs _ ifindex enabled =>
      [(attrIfindex, .unsigned ifindex), (attrPsState, .unsigned (if enabled then 1 else 0))]

/-- The payload that carries a value. -/
def Value.payload : Value → Bytes
  | text bytes => bytes
  | unsigned value | signed value => le32Int value

def attrs (request : Request) : List Attr :=
  request.values.map fun entry => (entry.1, entry.2.payload)

/-- The length of the finished message. -/
def length (request : Request) : Nat :=
  nlmsgHdrlen + nlaHdrlen + (request.attrs.flatMap attrBytes).length

end Request

/-- The attribute at an offset says this. -/
def Says (d : Datagram) (offset : Nat) : Request.Value → Prop
  | .text bytes => (d.attrAt offset).2 = bytes
  | .unsigned value => d.u16 offset = nlaHdrlen + 4 ∧ (d.u32 (offset + nlaHdrlen) : Int) = value
  | .signed value => d.u16 offset = nlaHdrlen + 4 ∧ d.i32 (offset + nlaHdrlen) = value

/-- `nla_find` on the attributes of a generic netlink message. -/
def nlaFind (d : Datagram) (type : Nat) : Option Nat :=
  d.findAttr type d.size (nlmsgHdrlen + nlaHdrlen) (d.size - (nlmsgHdrlen + nlaHdrlen))

/-! ## Building -/

/-- Attributes in a row are laid down behind one another, or do not fit. -/
theorem putAttrs_eq (b : Builder) (attrs : List Attr) :
    attrs.foldlM (fun b attr => b.putAttr attr.1 attr.2) b =
      if b.capacity < b.bytes.length + (attrs.flatMap attrBytes).length ∧ attrs ≠ [] then none
      else some { b with bytes := b.bytes ++ attrs.flatMap attrBytes } := by
  induction attrs generalizing b with
  | nil =>
      simp
  | cons attr rest inductionHypothesis =>
      rw [List.foldlM_cons, Builder.putAttr_eq]
      simp only [List.flatMap_cons, List.length_append, ne_eq, reduceCtorEq, not_false_eq_true,
        and_true]
      by_cases full : b.capacity < b.bytes.length + (attrBytes attr).length
      · rw [if_pos full, if_pos (by omega)]
        rfl
      · rw [if_neg full]
        refine (inductionHypothesis _).trans ?_
        simp only [List.length_append, List.append_assoc]
        by_cases last : rest = []
        · subst last
          simp [full]
        · simp [last, Nat.add_assoc]

/-- A request is built when the buffer is large enough for all of it. -/
theorem buildRequest_eq (size family command : Nat) (attrs : List Attr) :
    buildRequest size family command attrs =
      if size < nlmsgHdrlen + nlaHdrlen + (attrs.flatMap attrBytes).length then none
      else some (Builder.finish
        ⟨size, headerBytes 0 family command nlmFRequest 1 ++ attrs.flatMap attrBytes⟩) := by
  have header := headerBytes_length 0 family command nlmFRequest 1
  unfold buildRequest
  rw [Builder.init_eq]
  by_cases small : size < nlmsgHdrlen + nlaHdrlen
  · rw [if_pos small, if_pos (by omega)]
    rfl
  · rw [if_neg small]
    simp only [Option.bind_eq_bind, Option.bind_some, putAttrs_eq, header]
    by_cases none : attrs = []
    · subst none
      simp [small]
    · simp only [ne_eq, none, not_false_eq_true, and_true]
      split_ifs <;> rfl

namespace Request

/-- Every build function is `buildRequest` behind a check of its arguments. -/
theorem build_eq (request : Request) (size : Nat) :
    ∃ valid : Bool, (valid = true ↔ request.Valid) ∧
      (request.build size : GetM σ (Option Bytes)) =
        buildOr valid (buildRequest size request.family.toNat request.command request.attrs) := by
  cases request with
  | getfamily =>
      exact ⟨true, by simp [Valid], rfl⟩
  | getReg family =>
      exact ⟨_, by simp [Valid], rfl⟩
  | setReg family alpha2 =>
      exact ⟨_, by simp [Valid], rfl⟩
  | getWiphy family phy =>
      exact ⟨_, by simp [Valid], rfl⟩
  | setTxpower family phy setting mBm =>
      refine ⟨0 < family && 0 ≤ phy && txPowerAutomatic ≤ setting && setting ≤ txPowerFixed,
        by simp [Valid, and_assoc], ?_⟩
      have attributes : (setTxpower family phy setting mBm).attrs =
          [(attrWiphy, le32Int phy), (attrWiphyTxPowerSetting, le32Int setting)] ++
            if setting = txPowerAutomatic then [] else [(attrWiphyTxPowerLevel, le32Int mBm)] := by
        by_cases automatic : setting = txPowerAutomatic <;>
          simp [attrs, values, automatic, Value.payload]
      rw [attributes]
      rfl
  | setPs family ifindex enabled =>
      exact ⟨_, by simp [Valid], rfl⟩

/-- An attribute that carries a number takes eight bytes. -/
theorem attrBytes_number (type : Nat) (number : Int) :
    (attrBytes (type, le32Int number)).length = 8 := by
  rw [attrBytes_length, show (le32Int number).length = 4 from rfl]
  rfl

/-- Every request is at most 44 bytes long. -/
theorem length_le
    {request : Request} (valid : request.Valid) :
    request.length ≤ 44 := by
  cases request with
  | getfamily =>
      decide
  | getReg family =>
      exact (by decide : 20 ≤ 44)
  | setReg family alpha2 =>
      have country : (attrBytes (attrRegAlpha2, cstrBytes alpha2)).length = 8 := by
        rw [attrBytes_length]
        simp only [cstrBytes, List.length_map, valid.2]
        rfl
      simp [length, attrs, values, Value.payload, country, nlmsgHdrlen, nlaHdrlen]
  | getWiphy family phy =>
      simp [length, attrs, values, Value.payload, attrBytes_number, nlmsgHdrlen, nlaHdrlen]
  | setTxpower family phy setting mBm =>
      by_cases automatic : setting = txPowerAutomatic <;>
        simp [length, attrs, values, Value.payload, automatic, attrBytes_number, nlmsgHdrlen,
          nlaHdrlen]
  | setPs family ifindex enabled =>
      simp [length, attrs, values, Value.payload, attrBytes_number, nlmsgHdrlen, nlaHdrlen]

/-- The build function gives up exactly on bad arguments and on a buffer that is too small. -/
theorem build_run (request : Request) (size : Nat) (os : Os σ) (sys : σ) (proc : Proc) :
    ∃ built later, request.build size os sys proc = (.value built, later) ∧
      (built = none ↔ ¬ request.Valid ∨ size < request.length) ∧
      ∀ message, built = some message → request.Valid ∧ request.length ≤ size ∧
        message = Builder.finish ⟨size, headerBytes 0 request.family.toNat request.command
          nlmFRequest 1 ++ request.attrs.flatMap attrBytes⟩ := by
  obtain ⟨valid, isValid, run⟩ := request.build_eq (σ := σ) size
  rw [run, buildRequest_eq]
  unfold buildOr
  by_cases small : size < request.length
  · have full := small
    unfold length at full
    rw [if_pos full]
    cases valid <;> exact ⟨none, _, rfl, by simp [small], nofun⟩
  · have room := small
    unfold length at room
    rw [if_neg room]
    cases valid with
    | false =>
        have invalid : ¬ request.Valid := fun holds => by simpa using isValid.mpr holds
        exact ⟨none, _, rfl, by simp [invalid], nofun⟩
    | true =>
        have holds := isValid.mp rfl
        refine ⟨_, _, rfl, by simp [holds, small], ?_⟩
        rintro message ⟨⟩
        exact ⟨holds, Nat.le_of_not_lt small, rfl⟩

end Request

/-! ## Reading back -/

namespace Request

/-- A value its attribute can carry. -/
def Value.Fits : Value → Prop
  | text bytes => bytes.length ≤ 65531
  | unsigned value => 0 ≤ value ∧ value < 4294967296
  | signed value => IsInt32 value

theorem Value.payload_fits
    (value : Value) (fits : value.Fits) :
    value.payload.length ≤ 65531 := by
  cases value with
  | text bytes =>
      exact fits
  | unsigned value | signed value =>
      exact show 4 ≤ 65531 by decide

/-- What the message says under a type. -/
def value (request : Request) (type : Nat) : Option Value :=
  (request.values.find? fun entry => entry.1 = type).map (·.2)

theorem values_fit
    {request : Request}
    (valid : request.Valid)
    (typed : request.Typed) :
    ∀ entry ∈ request.values, entry.1 < 65536 ∧ entry.2.Fits := by
  cases request with
  | getfamily =>
      simp [values, Value.Fits, cstrBytes, ctrlAttrFamilyName]
  | getReg family =>
      exact nofun
  | setReg family alpha2 =>
      simp [values, Value.Fits, cstrBytes, attrRegAlpha2, valid.2]
  | getWiphy family phy =>
      obtain ⟨-, low⟩ := valid
      obtain ⟨-, -, high⟩ := typed
      simp only [values, List.forall_mem_singleton, Value.Fits]
      exact ⟨by decide, low, by omega⟩
  | setTxpower family phy setting mBm =>
      obtain ⟨-, low, automatic, -⟩ := valid
      obtain ⟨-, ⟨-, high⟩, ⟨-, settingHigh⟩, level⟩ := typed
      unfold txPowerAutomatic at automatic
      have levelFits : ∀ entry ∈ (if setting = txPowerAutomatic then []
          else [(attrWiphyTxPowerLevel, Value.signed mBm)]),
          entry.1 < 65536 ∧ entry.2.Fits := by
        split
        · exact nofun
        · exact List.forall_mem_singleton.mpr ⟨show 98 < 65536 by decide, level⟩
      simp only [values, List.cons_append, List.nil_append, List.forall_mem_cons, Value.Fits]
      exact ⟨⟨by decide, low, by omega⟩, ⟨by decide, automatic, by omega⟩, levelFits⟩
  | setPs family ifindex enabled =>
      obtain ⟨-, low⟩ := valid
      obtain ⟨-, -, high⟩ := typed
      simp only [values, List.forall_mem_cons, Value.Fits, List.not_mem_nil, false_implies,
        implies_true, and_true]
      exact ⟨⟨by decide, by omega, by omega⟩, by decide, by cases enabled <;> decide⟩

end Request

/-- A payload read back is in the datagram. -/
theorem attrAt_holds
    {d : Datagram} {offset : Nat} {payload : Bytes}
    (read : (d.attrAt offset).2 = payload) :
    d.u16 offset - nlaHdrlen = payload.length ∧ d.Holds (offset + nlaHdrlen) payload := by
  subst read
  refine ⟨by simp [Datagram.attrAt], fun i inside => ?_⟩
  simp only [Datagram.attrAt, List.getElem_map, List.getElem_range]

/-- The payload of a value says that value. -/
theorem says_of_read
    {d : Datagram} {offset : Nat} {value : Request.Value}
    (read : (d.attrAt offset).2 = value.payload)
    (fits : value.Fits) :
    Says d offset value := by
  obtain ⟨size, holds⟩ := attrAt_holds read
  cases value with
  | text bytes =>
      exact read
  | unsigned value =>
      obtain ⟨low, high⟩ : 0 ≤ value ∧ value < 4294967296 := fits
      have number : d.u32 (offset + nlaHdrlen) = (value % 4294967296).toNat :=
        holds.u32_eq (by omega)
      refine ⟨?_, ?_⟩
      · simp only [Request.Value.payload, le32Int, le32, List.length_cons, List.length_nil,
          nlaHdrlen] at size ⊢
        omega
      · rw [number]
        omega
  | signed value =>
      obtain ⟨low, high⟩ : IsInt32 value := fits
      have number : d.u32 (offset + nlaHdrlen) = (value % 4294967296).toNat :=
        holds.u32_eq (by omega)
      refine ⟨?_, ?_⟩
      · simp only [Request.Value.payload, le32Int, le32, List.length_cons, List.length_nil,
          nlaHdrlen] at size ⊢
        omega
      · unfold Datagram.i32
        rw [number]
        split <;> omega

/-- What `nla_find` gives under a type. -/
def Finds (d : Datagram) (type : Nat) : Option Request.Value → Prop
  | none => nlaFind d type = none
  | some value => ∃ offset, nlaFind d type = some offset ∧ Says d offset value

/-- The first attribute of a type says the first value of that type. -/
theorem find_of_read
    {d : Datagram} {values : List (Nat × Request.Value)} {offsets : List Nat}
    (read : offsets.map d.attrAt = values.map fun entry => (entry.1, entry.2.payload))
    (fits : ∀ entry ∈ values, entry.1 < 65536 ∧ entry.2.Fits)
    (type : Nat)
    (found : nlaFind d type = offsets.find? fun offset => d.u16 (offset + 2) = type) :
    Finds d type ((values.find? fun entry => entry.1 = type).map (·.2)) := by
  induction values generalizing offsets with
  | nil =>
      cases List.map_eq_nil_iff.mp read
      exact found
  | cons entry rest inductionHypothesis =>
      obtain ⟨offset, others, rfl, here, later⟩ := List.map_eq_cons_iff.mp read
      have typeRead : d.u16 (offset + 2) = entry.1 := congrArg Prod.fst here
      rw [List.find?_cons, typeRead] at found
      rw [List.find?_cons]
      by_cases named : entry.1 = type
      · simp only [named, decide_true] at found ⊢
        exact ⟨offset, found, says_of_read (congrArg Prod.snd here) (fits entry List.mem_cons_self).2⟩
      · simp only [named, decide_false] at found ⊢
        exact inductionHypothesis later
          (fun other member => fits other (List.mem_cons_of_mem _ member)) found

/-- A request that was received whole: its headers, its attributes, and what they say. -/
structure Decodes (d : Datagram) (request : Request) : Prop where
  message : d.Message request.family.toNat request.command nlmFRequest 1 request.attrs
  values : ∀ type, Finds d type (request.value type)

theorem Request.decodes
    {request : Request} {size : Nat} {d : Datagram}
    (valid : request.Valid)
    (typed : request.Typed)
    (sizeFits : size < 4294967296)
    (room : request.length ≤ size)
    (received : d.Receives (Builder.finish ⟨size, headerBytes 0 request.family.toNat request.command
      nlmFRequest 1 ++ request.attrs.flatMap attrBytes⟩)) :
    Decodes d request := by
  have fits := values_fit valid typed
  have attrsFit : ∀ attr ∈ request.attrs, attr.Fits := by
    intro attr member
    obtain ⟨entry, entryMember, rfl⟩ := List.mem_map.mp member
    obtain ⟨typeFits, valueFits⟩ := fits entry entryMember
    exact ⟨typeFits, entry.2.payload_fits valueFits⟩
  have family : request.family.toNat < 65536 := by
    cases request <;> simp only [Typed, Request.family, genlIdCtrl] at typed ⊢ <;> omega
  have command : request.command < 256 := by
    cases request <;> simp only [Request.command] <;> decide
  have message : d.Message request.family.toNat request.command nlmFRequest 1 request.attrs :=
    received.message rfl
    (by rw [List.length_append, headerBytes_length]; unfold length at room; omega)
    family command (by decide) (by decide) attrsFit
  obtain ⟨offsets, -, read, -, found⟩ := message.attributes
  exact ⟨message, fun type => find_of_read read fits type (found type d.size le_rfl)⟩

/-! ## Round trip -/

/-- One append: it changes nothing, or adds behind what is there and keeps the offset sound. -/
def Appends (b : Builder) (attr : Attr) : Prop :=
  b.tryPut attr = (false, b) ∨
    ((b.tryPut attr).1 = true ∧ b.bytes <+: (b.tryPut attr).2.bytes ∧
      (b.tryPut attr).2.Sound ∧ (b.tryPut attr).2.capacity = b.capacity)

theorem appends_of_sound
    {b : Builder} (sound : b.Sound) (attr : Attr) :
    Appends b attr := by
  have kept := Builder.tryPut_sound sound attr
  rcases b.tryPut_cases attr with ⟨-, result⟩ | ⟨-, result⟩
  · exact .inl result
  · rw [result] at kept
    exact .inr ⟨by rw [result], by rw [result]; exact List.prefix_append _ _, by rwa [result]⟩

theorem finish_length
    {b : Builder} (long : 4 ≤ b.bytes.length) :
    b.finish.length = b.bytes.length := by
  simp only [Builder.finish, le32, List.length_append, List.length_cons, List.length_nil,
    List.length_drop]
  omega

/--
In a buffer of less than 4 GiB, every append leaves the message as it was or
keeps it aligned and inside; the finished message reads back as the attributes
that were accepted.  A build function gives up exactly on bad arguments and on
a small buffer, and its message says what the arguments said.
-/
theorem codec_roundTrip
    {capacity : Nat} (short : capacity < 4294967296) :
    (∀ {family command flags sequence : Nat} {attrs : List Attr} {b : Builder},
      family < 65536 → command < 256 → flags < 65536 → sequence < 4294967296 →
      (∀ attr ∈ attrs, attr.Fits) →
      Builder.init capacity family command flags sequence = some b →
        (∀ before attr after, attrs = before ++ attr :: after →
          Appends (b.putAll before).1 attr) ∧
        ∀ d : Datagram, d.Receives (b.putAll attrs).1.finish →
          d.size = (b.putAll attrs).1.bytes.length ∧
            d.Message family command flags sequence (b.putAll attrs).2) ∧
    ∀ (request : Request), request.Typed → ∀ (os : Os σ) (sys : σ) (proc : Proc),
      ∃ built later, request.build capacity os sys proc = (.value built, later) ∧
        (built = none ↔ ¬ request.Valid ∨ capacity < request.length) ∧
        ∀ message, built = some message → ∀ d : Datagram, d.Receives message →
          Decodes d request := by
  constructor
  · intro family command flags sequence attrs b familyFits commandFits flagsFit sequenceFits
      fits started
    obtain ⟨sound, rfl, contents⟩ := Builder.init_sound started
    constructor
    · intro before attr after _
      exact appends_of_sound (Builder.putAll_spec sound before).1 attr
    · intro d received
      obtain ⟨finalSound, finalCapacity, finalBytes, accepted⟩ := Builder.putAll_spec sound attrs
      have inside := finalSound.2
      have long : 4 ≤ (b.putAll attrs).1.bytes.length := by
        rw [finalBytes, contents, List.length_append, headerBytes_length]
        exact (by decide : 4 ≤ nlmsgHdrlen + nlaHdrlen).trans (Nat.le_add_right _ _)
      refine ⟨received.1.trans (finish_length long), ?_⟩
      exact received.message (by rw [finalBytes, contents]) (by omega) familyFits commandFits
        flagsFit sequenceFits fun attr member => fits attr (accepted.subset member)
  · intro request typed os sys proc
    obtain ⟨built, later, run, gaveUp, message⟩ := request.build_run capacity os sys proc
    refine ⟨built, later, run, gaveUp, fun bytes isBuilt d received => ?_⟩
    obtain ⟨valid, room, rfl⟩ := message bytes isBuilt
    exact Request.decodes valid typed short room received

/-- A country in a buffer of 64 bytes, and an attribute of each kind in a small message. -/
theorem codec_roundTrip_small :
    (∃ b, Builder.init 64 27 27 1 1 = some b ∧
      ∀ d : Datagram, d.Receives (b.putAll [(33, [68, 69]), (7, [])]).1.finish →
        d.size = (b.putAll [(33, [68, 69]), (7, [])]).1.bytes.length ∧
          d.Message 27 27 1 1 (b.putAll [(33, [68, 69]), (7, [])]).2) ∧
    ∃ built later,
      (Request.setReg 27 "DE").build 64 (bareOs : Os Unit) () freshProc = (.value built, later) ∧
        (built = none ↔ ¬ (Request.setReg 27 "DE").Valid ∨ 64 < (Request.setReg 27 "DE").length) ∧
        ∀ message, built = some message → ∀ d : Datagram, d.Receives message →
          Decodes d (Request.setReg 27 "DE") :=
  ⟨⟨_, rfl, (((codec_roundTrip (σ := Unit) (show 64 < 4294967296 by decide)).1 (by decide)
      (by decide) (by decide) (by decide) (by simp [Attr.Fits]) rfl).2)⟩,
    (codec_roundTrip (show 64 < 4294967296 by decide)).2 (.setReg 27 "DE")
      (show (27 : Int) ≤ 65535 by decide) bareOs () freshProc⟩

end Zenctl
