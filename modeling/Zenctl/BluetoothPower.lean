import Zenctl.Answers
import Zenctl.HciNumbers

namespace Zenctl

open CString

/-!
# Powering an adapter and asking whether it is powered

Powering goes to the HCI device and, where that is refused, to the soft block.
Asking goes to the HCI device, which anybody may ask.
-/

variable {σ : Type}

/-! ## An adapter with two bits -/

/-- Where the attribute of an `rfkill` entry is read. -/
def rfkillAttr (entry key : CStr) : CStr :=
  joinPath (bounded 256 (rfkillBase ++ '/' :: entry)) key

/-- The attributes of an entry say that it is the adapter's. -/
def RfkillOf (os : Os σ) (sys : σ) (adapter entry : CStr) : Prop :=
  textOf os sys (rfkillAttr entry "type") 64 = some "bluetooth".toList ∧
    textOf os sys (rfkillAttr entry "name") 128 = some adapter

/--
An adapter with an `HCI_UP` bit and a soft block.  Anybody may ask for the
first, switching it may be refused, and the file of the second is writable.
-/
structure BtAdapter (σ : Type) where
  os : Os σ
  bt : BtHandle
  /-- The `HCI_UP` bit. -/
  up : σ → Bool
  /-- The soft block. -/
  blocked : σ → Bool
  number : Nat
  index : bt.index = number
  inRange : number ≤ 65535
  socket : ∀ sys, os.hciSocket sys = .ok ()
  asked : ∀ sys, ∃ info, os.hciInfo sys number = .ok info ∧ info.up = up sys
  switched : ∀ sys on changed, os.hciPower sys number on = (.ok (), changed) →
    up changed = on ∧ blocked changed = blocked sys
  already : ∀ sys on changed, os.hciPower sys number on = (.error Errno.ealready, changed) →
    up changed = on ∧ blocked changed = blocked sys
  refused : ∀ sys on e changed, e = Errno.eperm ∨ e = Errno.eacces →
    os.hciPower sys number on = (.error e, changed) → changed = sys
  /-- The entries of `/sys/class/rfkill`, and the adapter's among them. -/
  entries : List CStr
  entry : CStr
  rfkill : Nat
  listed : ∀ sys, os.listDir sys rfkillBase = .ok entries
  numbered : entry ∈ entries ∧ rfkillNumber entry = some (rfkill : Int) ∧ (rfkill : Int) ≤ int32Max
  own : ∀ sys, RfkillOf os sys bt.adapter entry
  noOther : ∀ sys other, other ∈ entries → RfkillOf os sys bt.adapter other → other = entry
  writable : ∀ sys on, ∃ changed, blocked changed = on ∧
    os.writeFile sys (resolvePath os.sysfsRoot (rfkillSoftPath rfkill)) (if on then "1" else "0") =
      (.done, changed)
  /-- Files do not reach the `HCI_UP` bit. -/
  independent : ∀ sys path text, up (os.writeFile sys path text).2 = up sys

namespace BtAdapter

variable (m : BtAdapter σ)

/-- What was set is what is then read, whenever both calls succeed. -/
def ReadsBack (sys : σ) (on : Bool) : Prop :=
  ∀ proc changed later, zenctlBtSetPowered m.bt on m.os sys proc = (.value (), changed, later) →
    ∀ up final, zenctlBtGetPowered m.bt m.os changed later = (.value up, final) → up = on

/-- The kernel does not let the caller switch the adapter. -/
def Unprivileged (sys : σ) (on : Bool) : Prop :=
  ∃ e changed, (e = Errno.eperm ∨ e = Errno.eacces) ∧
    m.os.hciPower sys m.number on = (.error e, changed)

/-! ## Asking -/

theorem getPowered_run (sys : σ) (proc : Proc) :
    zenctlBtGetPowered m.bt m.os sys proc = (.value (m.up sys), proc) := by
  obtain ⟨info, answer, up⟩ := m.asked sys
  have inRange := m.inRange
  have read : btMgmtGetPowered m.bt.index m.os sys proc = (.value (some (m.up sys)), proc) := by
    unfold btMgmtGetPowered
    rw [m.index, if_neg (by omega), Int.toNat_natCast, ← up]
    exact GetM.bind_value (sysCall_ok answer)
  exact (GetM.bind_value (sysCall_ok (m.socket sys))).trans (GetM.bind_value read)

/-! ## The fallback -/

theorem rfkillMatches_answers
    (os : Os σ) (sys : σ) (entry key : CStr) (size : Nat) (want : CStr) :
    (rfkillMatches (bounded 256 (rfkillBase ++ '/' :: entry)) key size (some want)).Answers os sys
      (some (decide (textOf os sys (rfkillAttr entry key) size = some want))) :=
  .after allocate_answers (.after (readFileString_answers _ _).quietly (.pure _))

/-- The scan skips the others and stops at the adapter's entry. -/
theorem rfkillScan_answers (sys : σ) :
    ∀ entries : List CStr, (∀ other ∈ entries, other ∈ m.entries) → m.entry ∈ entries →
      (rfkillScan (some m.bt.adapter) (some "bluetooth".toList) entries).Answers m.os sys
        (some (m.rfkill : Int)) := by
  intro entries
  induction entries with
  | nil => exact fun _ member => (List.not_mem_nil member).elim
  | cons head rest inductionHypothesis =>
      intro known member
      have goesOn : head ≠ m.entry →
          (rfkillScan (some m.bt.adapter) (some "bluetooth".toList) rest).Answers m.os sys
            (some (m.rfkill : Int)) := fun differs =>
        inductionHypothesis (fun other later => known other (List.mem_cons_of_mem _ later))
          ((List.mem_cons.mp member).resolve_left (Ne.symm differs))
      have typed := rfkillMatches_answers m.os sys head "type" 64 "bluetooth"
      have named := rfkillMatches_answers m.os sys head "name" 128 m.bt.adapter
      rw [rfkillScan]
      by_cases here : head = m.entry
      · subst here
        obtain ⟨isType, isName⟩ := m.own sys
        rw [m.numbered.2.1]
        rw [decide_eq_true isType] at typed
        rw [decide_eq_true isName] at named
        refine .after typed (.after named ?_)
        rw [if_pos rfl, toInt32_fits (by omega) m.numbered.2.2]
        exact .pure _
      · cases rfkillNumber head with
        | none => exact goesOn here
        | some number =>
            refine .after typed ?_
            split
            · next isType =>
                refine .after named ?_
                have other : ¬textOf m.os sys (rfkillAttr head "name") 128 = some m.bt.adapter := by
                  intro isName
                  exact here (m.noOther sys head (known head List.mem_cons_self)
                    ⟨of_decide_eq_true isType, isName⟩)
                rw [if_neg fun isName => other (of_decide_eq_true isName)]
                exact goesOn here
            · exact goesOn here

theorem rfkillFind_answers (sys : σ) :
    (zenctlRfkillFind (some m.bt.adapter) (some "bluetooth".toList)).Answers m.os sys
      (some (m.rfkill : Int)) := by
  have noDot : ¬(m.entry = ".".toList ∨ m.entry = "..".toList) := by
    have numbered := m.numbered.2.1
    rintro (dot | dots)
    · rw [dot] at numbered
      cases numbered
    · rw [dots] at numbered
      cases numbered
  have listing : (utilListDir rfkillBase).Answers m.os sys
      (some (m.entries.filter fun name => ¬(name = ".".toList ∨ name = "..".toList))) :=
    fun proc memory => ⟨proc, utilListDir_run (m.listed sys) memory, memory⟩
  have scan := m.rfkillScan_answers sys
    (m.entries.filter fun name => ¬(name = ".".toList ∨ name = "..".toList))
    (fun _ member => (List.mem_filter.mp member).1)
    (List.mem_filter.mpr ⟨m.numbered.1, decide_eq_true noDot⟩)
  refine .after listing (.after scan ?_)
  rw [if_neg (by omega)]
  exact .pure _

/-- With memory, the fallback succeeds. -/
theorem setRfkillBlocked_run
    (sys : σ) (on : Bool) {proc : Proc} (memory : proc.allocations = []) :
    ∃ changed later, zenctlBtSetRfkillBlocked m.bt on m.os sys proc = (.value (), changed, later) ∧
      m.blocked changed = on := by
  obtain ⟨found, run, _⟩ := m.rfkillFind_answers sys proc memory
  obtain ⟨changed, blocked, written⟩ := m.writable sys on
  obtain ⟨state, done, _⟩ := writeFileString_run m.os sys found (rfkillSoftPath m.rfkill)
    (if on then "1" else "0")
  rw [written] at state done
  refine ⟨changed, found, (SetM.bind_getting_value run).trans ?_, blocked⟩
  exact Prod.ext (done rfl).1 (Prod.ext state (done rfl).2)

/-- It never reaches the `HCI_UP` bit. -/
theorem setRfkillBlocked_up (sys : σ) (on : Bool) (proc : Proc) :
    m.up (zenctlBtSetRfkillBlocked m.bt on m.os sys proc).2.1 = m.up sys := by
  unfold zenctlBtSetRfkillBlocked
  rw [SetM.bind_run, getting_run]
  rcases zenctlRfkillFind (some m.bt.adapter) (some "bluetooth".toList) m.os sys proc with
    ⟨found | _ | _, later⟩
  · have state := (writeFileString_run m.os sys later (rfkillSoftPath found)
      (if on then "1" else "0")).1
    change m.up (writeFileString (rfkillSoftPath found) (if on then "1" else "0") m.os sys later).2.1 =
      m.up sys
    rw [state, m.independent]
  · rfl
  · rfl

/-! ## Switching -/

section Switching

variable {sys : σ} {on : Bool} {changed : σ}

theorem mgmtSetPowered_done
    (answer : m.os.hciPower sys m.number on = (.ok (), changed)) (proc : Proc) :
    btMgmtSetPowered m.bt.index on m.os sys proc = (.value true, changed, proc) := by
  have inRange := m.inRange
  have tried : sysSet (fun os sys => os.hciPower sys m.number on) m.os sys proc =
      (.value (some ()), changed, proc) := by
    unfold sysSet
    dsimp only
    rw [answer]
  unfold btMgmtSetPowered
  rw [m.index, if_neg (by omega), Int.toNat_natCast]
  exact SetM.bind_value tried

theorem mgmtSetPowered_failed
    {e : Errno} (answer : m.os.hciPower sys m.number on = (.error e, changed)) (proc : Proc) :
    btMgmtSetPowered m.bt.index on m.os sys proc =
      (.value (decide (e.1 = Errno.ealready.1)), changed, { proc with errno := e.1 }) := by
  have inRange := m.inRange
  have tried : sysSet (fun os sys => os.hciPower sys m.number on) m.os sys proc =
      (.value none, changed, { proc with errno := e.1 }) := by
    unfold sysSet
    dsimp only
    rw [answer]
  unfold btMgmtSetPowered
  rw [m.index, if_neg (by omega), Int.toNat_natCast]
  exact SetM.bind_value tried

/-- What comes after the first attempt. -/
theorem setPowered_after
    {done : Bool} {proc later : Proc}
    (attempted : btMgmtSetPowered m.bt.index on m.os sys proc = (.value done, changed, later)) :
    zenctlBtSetPowered m.bt on m.os sys proc =
      if done = true then (.value (), changed, later)
      else if later.errno ≠ Errno.eperm.1 ∧ later.errno ≠ Errno.eacces.1 then
        (getting (raiseErrno none "bt_mgmt_set_powered") : SetM σ Unit) m.os changed later
      else zenctlBtSetRfkillBlocked m.bt (!on) m.os changed later := by
  refine (SetM.bind_getting_value (sysCall_ok (m.socket sys))).trans ?_
  refine (SetM.bind_value attempted).trans ?_
  cases done with
  | true => rfl
  | false =>
      exact SetM.ite_run m.os changed later
        (later.errno ≠ Errno.eperm.1 ∧ later.errno ≠ Errno.eacces.1) _ _

/-- With the kernel's refusal in hand, everything is up to the fallback. -/
theorem setPowered_fallback
    {e : Errno} (kind : e = Errno.eperm ∨ e = Errno.eacces)
    (answer : m.os.hciPower sys m.number on = (.error e, changed)) (proc : Proc) :
    zenctlBtSetPowered m.bt on m.os sys proc =
      zenctlBtSetRfkillBlocked m.bt (!on) m.os changed { proc with errno := e.1 } := by
  have notThere : ¬decide (e.1 = Errno.ealready.1) = true := by
    rcases kind with rfl | rfl <;> decide
  have passes : ¬(e.1 ≠ Errno.eperm.1 ∧ e.1 ≠ Errno.eacces.1) := by
    rcases kind with rfl | rfl <;> decide
  rw [m.setPowered_after (m.mgmtSetPowered_failed answer proc), if_neg notThere, if_neg passes]

/-- A switch that succeeds leaves the bit as asked for, or as it was where it was refused. -/
theorem setPowered_up
    {proc later : Proc}
    (run : zenctlBtSetPowered m.bt on m.os sys proc = (.value (), changed, later)) :
    m.up changed = on ∨ m.Unprivileged sys on ∧ m.up changed = m.up sys := by
  rcases answer : m.os.hciPower sys m.number on with ⟨e | _, state⟩
  · by_cases kind : e = Errno.eperm ∨ e = Errno.eacces
    · -- the soft block was written
      have kept := m.setRfkillBlocked_up state (!on) { proc with errno := e.1 }
      rw [← m.setPowered_fallback kind answer proc, run, m.refused sys on e state kind answer] at kept
      exact .inr ⟨⟨e, state, kind, answer⟩, kept⟩
    · have attempted := m.setPowered_after (m.mgmtSetPowered_failed answer proc)
      rw [run] at attempted
      split at attempted
      · next there =>
          have same : e = Errno.ealready := Subtype.ext (of_decide_eq_true there)
          subst same
          cases attempted
          exact .inl (m.already sys on changed answer).1
      · have stops : e.1 ≠ Errno.eperm.1 ∧ e.1 ≠ Errno.eacces.1 :=
          ⟨fun same => kind (.inl (Subtype.ext same)), fun same => kind (.inr (Subtype.ext same))⟩
        rw [if_pos stops] at attempted
        cases attempted
  · have attempted := m.setPowered_after (m.mgmtSetPowered_done answer proc)
    rw [run] at attempted
    cases attempted
    exact .inl (m.switched sys on changed answer).1

end Switching

theorem readsBack_iff (sys : σ) (on : Bool) :
    m.ReadsBack sys on ↔ (m.Unprivileged sys on → m.up sys = on) := by
  constructor
  · rintro readsBack ⟨e, changed, kind, answer⟩
    obtain ⟨blocked, later, fallback, _⟩ := @setRfkillBlocked_run σ m changed (!on)
      { freshProc with errno := e.1 } rfl
    have set := (m.setPowered_fallback kind answer freshProc).trans fallback
    have kept := m.setRfkillBlocked_up changed (!on) { freshProc with errno := e.1 }
    rw [fallback, m.refused sys on e changed kind answer] at kept
    rw [← readsBack freshProc blocked later set _ _ (m.getPowered_run blocked later)]
    exact kept.symm
  · intro condition proc changed later set up final get
    rw [m.getPowered_run] at get
    cases get
    rcases m.setPowered_up set with done | ⟨unprivileged, kept⟩
    · exact done
    · exact kept.trans (condition unprivileged)

end BtAdapter

/-- The two bits of an adapter. -/
structure AdapterBits where
  up : Bool
  blocked : Bool
  deriving Repr, DecidableEq

/-- What a caller without privileges sees of `hci0`. -/
def unprivilegedOs : Os AdapterBits :=
  { bareOs with
    hciSocket := fun _ => .ok ()
    hciInfo := fun sys _ => .ok ⟨sys.up, [1, 2, 3, 4, 5, 6]⟩
    hciPower := fun sys _ _ => (.error Errno.eperm, sys)
    listDir := fun _ _ => .ok ["rfkill0".toList]
    openRead := fun _ path =>
      if path = rfkillAttr "rfkill0" "type" then .ok ⟨"bluetooth\n".toList, none⟩
      else .ok ⟨"hci0\n".toList, none⟩
    writeFile := fun sys _ text => (.done, { sys with blocked := text = "1".toList }) }

def unprivilegedAdapter : BtAdapter AdapterBits where
  os := unprivilegedOs
  bt := ⟨"hci0", "/sys/class/bluetooth/hci0", 0⟩
  up := AdapterBits.up
  blocked := AdapterBits.blocked
  number := 0
  index := rfl
  inRange := by decide
  socket _ := rfl
  asked _ := ⟨_, rfl, rfl⟩
  switched _ _ _ run := by cases run
  already _ _ _ run := by cases run
  refused _ _ _ _ _ run := by
    cases run
    rfl
  entries := ["rfkill0"]
  entry := "rfkill0"
  rfkill := 0
  listed _ := rfl
  numbered := by decide
  own _ := ⟨by rfl, by rfl⟩
  noOther _ _ member _ := List.mem_singleton.mp member
  writable sys on := ⟨⟨sys.up, on⟩, rfl, by cases on <;> rfl⟩
  independent _ _ _ := rfl

/-- Switched off without privileges, the adapter is blocked and reported as powered. -/
theorem unprivileged_off :
    ¬∀ (m : BtAdapter AdapterBits) (sys : AdapterBits) (on : Bool), m.ReadsBack sys on := by
  intro readsBack
  have run : zenctlBtSetPowered unprivilegedAdapter.bt false unprivilegedAdapter.os ⟨true, false⟩
      freshProc = (.value (), ⟨true, true⟩, { freshProc with errno := 1 }) := by
    decide +kernel
  have read := unprivilegedAdapter.getPowered_run ⟨true, true⟩ { freshProc with errno := 1 }
  exact absurd (readsBack _ _ _ _ _ _ run _ _ read) (by decide)

end Zenctl
