import Zenctl.DeviceNames
import Zenctl.CpuSelection

namespace Zenctl

open CString

/-!
# The number of a Bluetooth adapter

`bt_mgmt.c` has a parser for the number in an adapter's name that stops at 16
bits.  Opening an adapter reads the same number with `atoi`, and the number is
cut to 16 bits where the address is asked for.
-/

variable {σ : Type}

/-! ## `bt_mgmt_hci_to_index` -/

/-- The result of an `int` operation; an overflow has none. -/
def checkedInt (value : Int) : Option Int :=
  if -2147483648 ≤ value ∧ value ≤ int32Max then some value else none

/-- The loop over the digits, with `idx` so far. -/
def hciIndexFrom (idx : Int) : CStr → Option Int
  | [] => some idx
  | c :: rest =>
      if isDigit c then do
        let scaled ← checkedInt (idx * 10)
        let next ← checkedInt (scaled + digitValue c)
        if 65535 < next then some (-1) else hciIndexFrom next rest
      else some (-1)

/-- `bt_mgmt_hci_to_index`; `none` where its arithmetic overflows. -/
def btMgmtHciToIndex (name : CStr) : Option Int :=
  if startsWith "hci" name then
    if name.drop 3 = [] then some (-1) else hciIndexFrom 0 (name.drop 3)
  else some (-1)

/-- The name is `hci` and one or more digits of this value. -/
def IsHciName (name : CStr) (k : Nat) : Prop :=
  ∃ digits : Digits, name = "hci".toList ++ digits.1 ∧ digitsValue digits.1 = k

/-- The digits go on from a value. -/
def valueFrom (value : Nat) (digits : CStr) : Nat :=
  digits.foldl (fun value c => value * 10 + digitValue c) value

theorem valueFrom_ge (value : Nat) (digits : CStr) :
    value ≤ valueFrom value digits := by
  induction digits generalizing value with
  | nil => exact le_rfl
  | cons c rest inductionHypothesis =>
      have further : value * 10 + digitValue c ≤ valueFrom value (c :: rest) := inductionHypothesis _
      omega

theorem digitValue_le
    {c : Char} (digit : isDigit c = true) :
    digitValue c ≤ 9 := by
  obtain ⟨-, high⟩ := Bool.and_eq_true_iff.mp digit
  have high : c.toNat ≤ 57 := of_decide_eq_true high
  have zero : '0'.toNat = 48 := rfl
  unfold digitValue
  omega

theorem checkedInt_small
    {value : Int} (low : 0 ≤ value) (high : value ≤ 655359) :
    checkedInt value = some value := by
  have limit : int32Max = 2147483647 := rfl
  exact if_pos ⟨by omega, by omega⟩

/-- As long as the value fits 16 bits the next one fits an `int`. -/
theorem hciIndexFrom_eq
    (text : CStr) {idx : Nat} (small : idx ≤ 65535) :
    hciIndexFrom idx text =
      some (if text.all isDigit = true ∧ valueFrom idx text ≤ 65535 then
        (valueFrom idx text : Int) else -1) := by
  induction text generalizing idx with
  | nil =>
      rw [if_pos ⟨rfl, small⟩]
      rfl
  | cons c rest inductionHypothesis =>
      rw [hciIndexFrom]
      by_cases digit : isDigit c = true
      · have bound := digitValue_le digit
        have scaled : checkedInt ((idx : Int) * 10) = some ((idx : Int) * 10) :=
          checkedInt_small (by omega) (by omega)
        have next : checkedInt ((idx : Int) * 10 + digitValue c) =
            some ((idx * 10 + digitValue c : Nat) : Int) := by
          rw [checkedInt_small (by omega) (by omega)]
          push_cast
          rfl
        rw [if_pos digit, scaled, Option.bind_eq_bind, Option.bind_some, next, Option.bind_some]
        split
        · next large =>
            have further : idx * 10 + digitValue c ≤ valueFrom idx (c :: rest) := valueFrom_ge _ rest
            rw [if_neg fun inside => by omega]
        · rw [inductionHypothesis (by omega)]
          rw [List.all_cons, digit, Bool.true_and]
          rfl
      · rw [if_neg digit, List.all_cons, Bool.eq_false_of_not_eq_true digit, Bool.false_and]
        rfl

/-- A name splits into `hci` and digits in one way. -/
theorem isHciName_iff
    {name : CStr} {k : Nat} :
    IsHciName name k ↔ startsWith "hci" name = true ∧ name.drop 3 ≠ [] ∧
      (∀ c ∈ name.drop 3, isDigit c = true) ∧ digitsValue (name.drop 3) = k := by
  constructor
  · rintro ⟨⟨digits, nonempty, all⟩, rfl, rfl⟩
    exact ⟨rfl, nonempty, all, rfl⟩
  · rintro ⟨starts, nonempty, all, rfl⟩
    obtain ⟨digits, rfl⟩ := List.isPrefixOf_iff_prefix.mp starts
    exact ⟨⟨digits, nonempty, all⟩, rfl, rfl⟩

/-- The parser is total, and reads just the names with a value of 16 bits. -/
theorem btMgmtHciToIndex_eq (name : CStr) :
    (∀ k : Nat, btMgmtHciToIndex name = some (k : Int) ↔ IsHciName name k ∧ k ≤ 65535) ∧
      (btMgmtHciToIndex name = some (-1) ↔ ¬∃ k : Nat, IsHciName name k ∧ k ≤ 65535) := by
  have read : btMgmtHciToIndex name = some (if startsWith "hci" name = true ∧ name.drop 3 ≠ [] ∧
      (∀ c ∈ name.drop 3, isDigit c = true) ∧ digitsValue (name.drop 3) ≤ 65535 then
        (digitsValue (name.drop 3) : Int) else -1) := by
    unfold btMgmtHciToIndex
    split
    · next starts =>
        split
        · next empty => rw [if_neg fun inside => inside.2.1 empty]
        · next nonempty =>
            rw [show (0 : Int) = (0 : Nat) from rfl, hciIndexFrom_eq _ (Nat.zero_le _)]
            refine congrArg some (if_congr ?_ rfl rfl)
            rw [List.all_eq_true]
            exact ⟨fun inside => ⟨starts, nonempty, inside⟩, fun inside => inside.2.2⟩
    · next other => rw [if_neg fun inside => other inside.1]
  rw [read]
  split
  · next inside =>
      obtain ⟨starts, nonempty, all, small⟩ := inside
      have here : IsHciName name (digitsValue (name.drop 3)) :=
        isHciName_iff.mpr ⟨starts, nonempty, all, rfl⟩
      constructor
      · intro k
        constructor
        · intro same
          have same := Int.ofNat.inj (Option.some.inj same)
          exact same ▸ ⟨here, small⟩
        · rintro ⟨named, -⟩
          rw [(isHciName_iff.mp named).2.2.2]
      · refine iff_of_false (fun same => ?_) (not_not.mpr ⟨_, here, small⟩)
        have := Option.some.inj same
        omega
  · next outside =>
      have unnamed : ¬∃ k : Nat, IsHciName name k ∧ k ≤ 65535 := by
        rintro ⟨k, named, small⟩
        obtain ⟨starts, nonempty, all, rfl⟩ := isHciName_iff.mp named
        exact outside ⟨starts, nonempty, all, small⟩
      refine ⟨fun k => iff_of_false (fun same => ?_) fun named => unnamed ⟨k, named⟩,
        iff_of_true rfl unnamed⟩
      have := Option.some.inj same
      omega

/-! ## The handle of an adapter -/

/-- Opening a name delivers this handle, on some machine. -/
def BtOpened (name : CStr) (bt : BtHandle) : Prop :=
  ∃ (os : Os Unit) (proc : Proc), (zenctlBtOpen name os () proc).1 = .value bt

/-- The text of an address. -/
def addressText (address : List Nat) : CStr :=
  List.intercalate [':'] (address.reverse.map hex2)

/-- Wherever there is a socket, it is adapter `k` that is asked and switched. -/
structure HandsOver (bt : BtHandle) (k : Nat) : Prop where
  getPowered : ∀ {σ : Type} (os : Os σ) (sys : σ) (proc : Proc) (info : HciInfo),
    os.hciSocket sys = .ok () → os.hciInfo sys k = .ok info →
      zenctlBtGetPowered bt os sys proc = (.value info.up, proc)
  setPowered : ∀ {σ : Type} (os : Os σ) (sys changed : σ) (proc : Proc) (on : Bool),
    os.hciSocket sys = .ok () → os.hciPower sys k on = (.ok (), changed) →
      zenctlBtSetPowered bt on os sys proc = (.value (), changed, proc)
  getAddress : ∀ {σ : Type} (os : Os σ) (sys : σ) (proc : Proc) (info : HciInfo),
    os.hciSocket sys = .ok () → os.hciInfo sys k = .ok info →
      info.address.all (· = 0) = false → proc.allocations = [] →
        zenctlBtGetAddress bt os sys proc = (.value (addressText info.address), proc)

/-- Wherever there is a socket, no adapter is asked or switched. -/
structure RefusesAll (bt : BtHandle) : Prop where
  getPowered : ∀ {σ : Type} (os : Os σ) (sys : σ) (proc : Proc),
    os.hciSocket sys = .ok () → (zenctlBtGetPowered bt os sys proc).1 = .failed
  setPowered : ∀ {σ : Type} (os : Os σ) (sys : σ) (proc : Proc) (on : Bool),
    os.hciSocket sys = .ok () →
      ∃ later, zenctlBtSetPowered bt on os sys proc = (.failed, sys, later)
  getAddress : ∀ {σ : Type} (os : Os σ) (sys : σ) (proc : Proc),
    os.hciSocket sys = .ok () → (zenctlBtGetAddress bt os sys proc).1 = .failed

/--
The parser reads the 16-bit number of the name and nothing else, and a handle of
the name stands for that number or for none.
-/
structure OneNumber (name : CStr) : Prop where
  parsed : ∀ k : Nat, btMgmtHciToIndex name = some (k : Int) ↔ IsHciName name k ∧ k ≤ 65535
  rejected : btMgmtHciToIndex name = some (-1) ↔ ¬∃ k : Nat, IsHciName name k ∧ k ≤ 65535
  handed : ∀ bt (k : Nat), BtOpened name bt → btMgmtHciToIndex name = some (k : Int) →
    HandsOver bt k
  refused : ∀ bt, BtOpened name bt → btMgmtHciToIndex name = some (-1) → RefusesAll bt

/-- A number of 16 bits, or one whose low 32 bits are negative, or one beyond 64 bits. -/
def AdapterNumberSafe (k : Nat) : Prop :=
  k ≤ 65535 ∨ 2147483648 ≤ k % 4294967296 ∨ 9223372036854775807 ≤ k

/-- What `atoi` makes of a run of digits. -/
theorem atoi_digits (digits : Digits) :
    atoi digits.1 = toInt32 (clamp (digitsValue digits.1 : Int) []).value := by
  unfold atoi
  rw [(Decimal.unsigned digits.1 digits.2.1 digits.2.2).strtoll_eq]

theorem adapterIndex_cases (k : Nat) :
    (AdapterNumberSafe k ∧ ((k ≤ 65535 ∧ toInt32 (clamp (k : Int) []).value = k) ∨
      (65535 < k ∧ toInt32 (clamp (k : Int) []).value < 0))) ∨
      (¬AdapterNumberSafe k ∧ 65535 < k ∧ 0 ≤ toInt32 (clamp (k : Int) []).value) := by
  have low : int64Min = -9223372036854775808 := rfl
  have high : int64Max = 9223372036854775807 := rfl
  unfold AdapterNumberSafe
  rcases NumberSite.clamp_cases (k : Int) with ⟨below, _⟩ | ⟨above, clamped⟩ | ⟨_, fits, clamped⟩
  · omega
  · rw [clamped]
    rcases NumberSite.toInt32_cases int64Max with ⟨_, cast⟩ | ⟨_, cast⟩ <;> rw [cast] <;> omega
  · rw [clamped]
    rcases NumberSite.toInt32_cases (k : Int) with ⟨_, cast⟩ | ⟨_, cast⟩ <;> rw [cast] <;> omega

theorem isHciName_of_numbered
    {name : CStr} (numbered : isNumbered "hci" name = true) :
    ∃ digits : Digits, name = "hci".toList ++ digits.1 := by
  obtain ⟨shape, all⟩ := Bool.and_eq_true_iff.mp numbered
  obtain ⟨starts, nonempty⟩ := Bool.and_eq_true_iff.mp shape
  obtain ⟨digits, rfl⟩ := List.isPrefixOf_iff_prefix.mp starts
  exact ⟨⟨digits, of_decide_eq_true nonempty, List.all_eq_true.mp all⟩, rfl⟩

/-- What opening delivers. -/
theorem BtOpened.handle
    {name : CStr} {bt : BtHandle} (opened : BtOpened name bt) :
    ∃ digits : Digits, name = "hci".toList ++ digits.1 ∧
      bt.index = toInt32 (clamp (digitsValue digits.1 : Int) []).value := by
  obtain ⟨os, proc, run⟩ := opened
  have returns : (zenctlBtOpen name : GetM Unit BtHandle).Returns fun bt =>
      isNumbered "hci" name = true ∧ bt.index = atoi (name.drop 3) := by
    have made : (openNumbered btSysfsBase "hci" name "adapter must be 'hci<N>'" "zenctl_bt_open" :
        GetM Unit (CStr × Int)).Returns fun made =>
          isNumbered "hci" name = true ∧ made.2 = atoi (name.drop 3) := by
      unfold openNumbered
      split
      · next numbered =>
          exact .bind (.any _) fun _ _ => .bind (.any _) fun _ _ => .bind (.any _) fun _ _ =>
            .bind (.any _) fun _ _ => .pure ⟨numbered, rfl⟩
      · exact .raise _ _ _
    exact .bind made fun _ known => .pure known
  obtain ⟨numbered, index⟩ := returns os () proc bt run
  obtain ⟨digits, rfl⟩ := isHciName_of_numbered numbered
  exact ⟨digits, rfl, index.trans (atoi_digits digits)⟩

/-- A machine where every directory opens and every adapter has an address. -/
def adapterOs : Os Unit :=
  { bareOs with
    listDir := fun _ _ => .ok []
    hciSocket := fun _ => .ok ()
    hciInfo := fun _ _ => .ok ⟨true, [1, 2, 3, 4, 5, 6]⟩ }

theorem btOpened_of_name (digits : Digits) :
    ∃ bt, BtOpened ("hci".toList ++ digits.1) bt := by
  have numbered : isNumbered "hci" ("hci".toList ++ digits.1) = true := by
    refine Bool.and_eq_true_iff.mpr ⟨Bool.and_eq_true_iff.mpr ⟨rfl, ?_⟩, ?_⟩
    · exact decide_eq_true digits.2.1
    · exact List.all_eq_true.mpr digits.2.2
  let name := "hci".toList ++ digits.1
  have delivered : openNumbered btSysfsBase "hci" name "adapter must be 'hci<N>'" "zenctl_bt_open"
      adapterOs () freshProc =
        (.value (joinPath btSysfsBase name, atoi (name.drop 3)), freshProc) := by
    unfold openNumbered
    rw [if_pos numbered]
    rfl
  exact ⟨⟨name, joinPath btSysfsBase name, atoi (name.drop 3)⟩, adapterOs, freshProc,
    congrArg Prod.fst (GetM.bind_value delivered)⟩

section Handles

variable {bt : BtHandle}

theorem handsOver_of_index
    {k : Nat} (index : bt.index = k) (small : k ≤ 65535) :
    HandsOver bt k := by
  have inside : ¬((k : Int) < 0 ∨ 65535 < (k : Int)) := by omega
  have cut : k % 65536 = k := Nat.mod_eq_of_lt (by omega)
  constructor
  · intro σ os sys proc info socket answer
    have asked : btMgmtGetPowered bt.index os sys proc = (.value (some info.up), proc) := by
      unfold btMgmtGetPowered
      rw [index, if_neg inside, Int.toNat_natCast]
      exact GetM.bind_value (sysCall_ok answer)
    exact (GetM.bind_value (sysCall_ok socket)).trans (GetM.bind_value asked)
  · intro σ os sys changed proc on socket answer
    have switched : btMgmtSetPowered bt.index on os sys proc = (.value true, changed, proc) := by
      unfold btMgmtSetPowered
      rw [index, if_neg inside, Int.toNat_natCast]
      have done : sysSet (fun os sys => os.hciPower sys k on) os sys proc =
          (.value (some ()), changed, proc) := by
        unfold sysSet
        dsimp only
        rw [answer]
      exact SetM.bind_value done
    exact (SetM.bind_getting_value (sysCall_ok socket)).trans (SetM.bind_value switched)
  · intro σ os sys proc info socket answer nonzero memory
    have asked : sysCallOr (fun os sys => os.hciInfo sys (k % 65536)) none "HCIGETDEVINFO"
        os sys proc = (.value info, proc) := by
      rw [cut]
      exact GetM.bind_value (sysCall_ok answer)
    unfold zenctlBtGetAddress
    rw [index, if_neg (by omega), Int.toNat_natCast]
    refine (GetM.bind_value (sysCall_ok socket)).trans ((GetM.bind_value asked).trans ?_)
    rw [if_neg (by rw [nonzero]; exact Bool.false_ne_true)]
    exact GetM.bind_value (allocateOr_plenty memory _ _)

theorem refusesAll_of_index
    (negative : bt.index < 0) :
    RefusesAll bt := by
  constructor
  · intro σ os sys proc socket
    have refused : btMgmtGetPowered bt.index os sys proc =
        (.value none, { proc with errno := Errno.einval.1 }) := by
      unfold btMgmtGetPowered
      rw [if_pos (.inl negative)]
      rfl
    unfold zenctlBtGetPowered
    rw [GetM.bind_value (sysCall_ok socket)]
    exact congrArg Prod.fst (GetM.bind_value refused)
  · intro σ os sys proc on socket
    have refused : btMgmtSetPowered bt.index on os sys proc =
        (.value false, sys, { proc with errno := Errno.einval.1 }) := by
      unfold btMgmtSetPowered
      rw [if_pos (.inl negative)]
      rfl
    unfold zenctlBtSetPowered
    rw [SetM.bind_getting_value (sysCall_ok socket)]
    exact ⟨_, SetM.bind_value refused⟩
  · intro σ os sys proc socket
    unfold zenctlBtGetAddress
    rw [if_pos negative]
    rfl

/-- Any other handle has some adapter asked for its address. -/
theorem not_refusesAll
    (nonneg : 0 ≤ bt.index) :
    ¬RefusesAll bt := by
  intro refuses
  have failed := refuses.getAddress adapterOs () freshProc rfl
  unfold zenctlBtGetAddress at failed
  rw [if_neg (by omega)] at failed
  cases failed

end Handles

theorem oneNumber_iff (name : CStr) :
    OneNumber name ↔ ∀ k, IsHciName name k → AdapterNumberSafe k := by
  obtain ⟨parsed, rejected⟩ := btMgmtHciToIndex_eq name
  constructor
  · rintro one k ⟨digits, rfl, rfl⟩
    by_contra wide
    rcases adapterIndex_cases (digitsValue digits.1) with ⟨safe, _⟩ | ⟨_, large, nonneg⟩
    · exact wide safe
    · obtain ⟨bt, opened⟩ := btOpened_of_name digits
      obtain ⟨others, same, index⟩ := opened.handle
      have same : digits = others := Subtype.ext (List.append_cancel_left same)
      subst same
      have unread : ¬∃ k : Nat, IsHciName ("hci".toList ++ digits.1) k ∧ k ≤ 65535 := by
        rintro ⟨k, named, small⟩
        have value := (isHciName_iff.mp named).2.2.2
        change digitsValue digits.1 = k at value
        omega
      exact not_refusesAll (index ▸ nonneg) (one.refused bt opened (rejected.mpr unread))
  · intro safe
    refine ⟨parsed, rejected, ?_, ?_⟩
    · intro bt k opened read
      obtain ⟨named, small⟩ := (parsed k).mp read
      obtain ⟨digits, rfl, index⟩ := opened.handle
      obtain rfl : digitsValue digits.1 = k := (isHciName_iff.mp named).2.2.2
      rcases adapterIndex_cases (digitsValue digits.1) with
        ⟨_, ⟨_, cast⟩ | ⟨large, _⟩⟩ | ⟨_, large, _⟩
      · exact handsOver_of_index (index.trans cast) small
      · omega
      · omega
    · intro bt opened read
      obtain ⟨digits, rfl, index⟩ := opened.handle
      have named : IsHciName ("hci".toList ++ digits.1) (digitsValue digits.1) := ⟨digits, rfl, rfl⟩
      rcases adapterIndex_cases (digitsValue digits.1) with
        ⟨_, ⟨small, _⟩ | ⟨_, negative⟩⟩ | ⟨wide, _⟩
      · exact absurd ⟨_, named, small⟩ (rejected.mp read)
      · exact refusesAll_of_index (index ▸ negative)
      · exact absurd (safe _ named) wide

/-- A handle of `hci65536` asks adapter 0 for its address. -/
theorem oneNumber_wraps :
    ¬∀ name, OneNumber name := by
  intro one
  have read : btMgmtHciToIndex "hci65536" = some (-1) := by decide
  have opened : BtOpened "hci65536"
      ⟨"hci65536", joinPath btSysfsBase "hci65536", 65536⟩ := ⟨adapterOs, freshProc, by decide⟩
  have refused := ((one "hci65536").refused _ opened read).getAddress
    { adapterOs with
      hciInfo := fun _ number =>
        if number = 0 then .ok ⟨true, [1, 2, 3, 4, 5, 6]⟩ else .error Errno.enodev }
    () freshProc rfl
  revert refused
  decide

end Zenctl
