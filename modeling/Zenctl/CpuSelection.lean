import Zenctl.Narrowing

namespace Zenctl

open CString

/-!
# The CPUs a command acts on

The value of `--cpu` goes through `parse_cpu_arg` to the CPUs the five settings
of `zenctl cpu set` open and write to.
-/

variable {σ τ : Type}

/-! ## The value of `--cpu` -/

/-- The integer a text denotes: white space, an optional sign, and digits to the end. -/
def denoted (text : CStr) : Option Int :=
  let signed := splitSign (text.dropWhile isSpace)
  if signed.2 ≠ [] ∧ signed.2.all isDigit = true then
    some (if signed.1 then -(digitsValue signed.2 : Int) else digitsValue signed.2)
  else none

/-- The largest `int`. -/
def int32Max : Int := 2147483647

/-- What `--cpu` says: an index, `-1` for all CPUs, `-2` for an error. -/
def told : Opt CStr → Int
  | .absent => -1
  | .missing => -2
  | .value text =>
      if text = "all" then -1
      else
        match denoted text with
        | some k => if 0 ≤ k ∧ k ≤ int32Max then k else -2
        | none => -2

/-- `strtol` clamps the integer to a `long`. -/
theorem wholeInt_denoted (text : CStr) :
    wholeInt text = (denoted text).map fun n => (clamp n []).value := by
  have kept : ∀ (n : Int) (rest : CStr),
      (clamp n rest).rest = rest ∧ (clamp n rest).value = (clamp n []).value := by
    intro n rest
    unfold clamp
    split
    · exact ⟨rfl, rfl⟩
    · split
      · exact ⟨rfl, rfl⟩
      · exact ⟨rfl, rfl⟩
  unfold wholeInt strtoll denoted
  generalize splitSign (text.dropWhile isSpace) = signed
  by_cases digits : signed.2.all isDigit = true
  · have all : ∀ c ∈ signed.2, isDigit c = true := List.all_eq_true.mp digits
    have taken : signed.2.takeWhile isDigit = signed.2 := List.takeWhile_eq_self_iff.mpr all
    have dropped : signed.2.dropWhile isDigit = [] := List.dropWhile_eq_nil_iff.mpr all
    by_cases empty : signed.2 = []
    · simp [empty]
    · simp [taken, dropped, empty, digits, (kept _ _).1]
  · have unread : signed.2.dropWhile isDigit ≠ [] := by
      intro none
      exact digits (List.all_eq_true.mpr (List.dropWhile_eq_nil_iff.mp none))
    by_cases empty : signed.2.takeWhile isDigit = []
    · simp [empty, digits]
    · simp [empty, digits, (kept _ _).1, unread]

/-- `--cpu` holds an integer above the range of an `int` that the casts do not take to `-2`. -/
def CpuArgWraps (args : List CStr) : Prop :=
  ∃ text k, cmdOptStr "--cpu" args = .value text ∧ denoted text = some k ∧ int32Max < k ∧
    ¬(k ≤ int64Max ∧ k % 4294967296 = 4294967294)

theorem clamp_nonneg
    {k : Int} (nonneg : 0 ≤ k) :
    (clamp k []).value = min k int64Max := by
  have ordered : int64Min < 0 := by decide
  rcases NumberSite.clamp_cases k with ⟨low, -⟩ | ⟨high, clamped⟩ | ⟨-, fits, clamped⟩
  · exact absurd (low.trans ordered) (not_lt.mpr nonneg)
  · rw [clamped, min_eq_right high.le]
  · rw [clamped, min_eq_left fits]

theorem clamp_negative
    {k : Int} (negative : k < 0) :
    (clamp k []).value < 0 := by
  have ordered : int64Min < 0 ∧ 0 < int64Max := by decide
  rcases NumberSite.clamp_cases k with ⟨-, clamped⟩ | ⟨high, -⟩ | ⟨-, -, clamped⟩
  · rw [clamped]
    exact ordered.1
  · exact absurd (ordered.2.trans high) (not_lt.mpr negative.le)
  · rw [clamped]
    exact negative

theorem toInt32_fits
    {k : Int} (low : -2147483648 ≤ k) (high : k ≤ int32Max) :
    toInt32 k = k := by
  unfold int32Max at high
  exact Int.bmod_eq_of_le (by omega) (by omega)

/-- A non-negative `long` that becomes `-2` when it is cast to `int`. -/
theorem toInt32_clamped
    {k : Int} (nonneg : 0 ≤ k) :
    toInt32 (min k int64Max) = -2 ↔ k ≤ int64Max ∧ k % 4294967296 = 4294967294 := by
  have limit : int64Max = 9223372036854775807 := rfl
  rcases NumberSite.toInt32_cases (min k int64Max) with ⟨low, cast⟩ | ⟨high, cast⟩
  · rw [cast]
    omega
  · rw [cast]
    omega

/-- A text for one CPU, read by `strtol` and cast to `int`. -/
theorem cast_told_iff
    {text : CStr} (single : text ≠ "all") :
    (match wholeInt text with
      | some n => if n < 0 then -2 else toInt32 n
      | none => -2) = told (.value text) ↔
      ∀ k, denoted text = some k → int32Max < k →
        k ≤ int64Max ∧ k % 4294967296 = 4294967294 := by
  rw [wholeInt_denoted, told, if_neg single]
  cases denoted text with
  | none => simp
  | some k =>
      simp only [Option.map_some, Option.some.injEq, forall_eq']
      by_cases negative : k < 0
      · rw [if_pos (clamp_negative negative), if_neg fun both => not_le.mpr negative both.1]
        exact iff_of_true rfl fun high => absurd (lt_trans high negative) (by decide)
      · have nonneg := not_lt.mp negative
        have wide : int32Max ≤ int64Max := by decide
        rw [clamp_nonneg nonneg, if_neg (not_lt.mpr (le_min nonneg (by decide)))]
        by_cases fits : k ≤ int32Max
        · rw [if_pos ⟨nonneg, fits⟩, min_eq_left (fits.trans wide), toInt32_fits (by omega) fits]
          exact iff_of_true rfl fun high => absurd fits (not_le.mpr high)
        · rw [if_neg fun both => fits both.2]
          rw [toInt32_clamped nonneg]
          exact ⟨fun same _ => same, fun wraps => wraps (not_le.mp fits)⟩

theorem parseCpuArg_told_iff (args : List CStr) :
    parseCpuArg args = told (cmdOptStr "--cpu" args) ↔ ¬CpuArgWraps args := by
  unfold parseCpuArg CpuArgWraps
  cases cmdOptStr "--cpu" args with
  | absent => exact iff_of_true rfl nofun
  | missing => exact iff_of_true rfl nofun
  | value text =>
      dsimp only
      by_cases all : text = "all"
      · have unread : denoted text = none := by
          rw [all]
          decide
        rw [if_pos all, told, if_pos all]
        refine iff_of_true rfl ?_
        rintro ⟨_, k, ⟨⟩, read, -⟩
        rw [unread] at read
        cases read
      · rw [if_neg all]
        refine (cast_told_iff all).trans ⟨fun meant => ?_, fun fits k read high => ?_⟩
        · rintro ⟨_, k, ⟨⟩, read, high, wrong⟩
          exact wrong (meant k read high)
        · by_contra wrong
          exact fits ⟨text, k, rfl, read, high, wrong⟩

/-! ## The settings -/

inductive CpuSetting where
  | governor
  | freqMin
  | freqMax
  | online
  | cstate
  deriving Repr, DecidableEq

namespace CpuSetting

def handler (setting : CpuSetting) (args : List CStr) (json dryRun confirm : Bool) :
    CliM σ τ Int :=
  match setting with
  | .governor => cpuSetGovernor args json dryRun
  | .freqMin => cpuSetFreq args json dryRun false
  | .freqMax => cpuSetFreq args json dryRun true
  | .online => cpuSetOnline args json dryRun confirm
  | .cstate => cpuSetCstate args json dryRun

end CpuSetting

/-- The CPU a setter is called for. -/
def Update.cpu : Update → Option Int
  | .cpuSetGovernor cpu _ | .cpuSetFreqMin cpu _ | .cpuSetFreqMax cpu _ | .cpuSetOnline cpu _
  | .cpuSetCstateDisable cpu _ _ => some cpu.index
  | _ => none

section Getters

variable {os : Os σ} {host : Host σ} {env : Env} {process : Process σ Proc}

/-- What a getter of the library hands out is what its program returns. -/
theorem query_returns
    {β : Type} (call : Query β) {kind : β → Prop}
    (returns : (call.program : GetM σ β).Returns kind)
    {sys : σ} {proc : Proc} {value : β}
    (answered : ((libzenctl os).query call sys proc).1 = .ok value) :
    kind value := by
  refine returns os sys { proc with err := Err.zero } value ?_
  have answer : ((call.program os sys { proc with err := Err.zero }).1).answer
      (call.program os sys { proc with err := Err.zero }).2.err = .ok value := answered
  revert answer
  cases (call.program os sys { proc with err := Err.zero }).1 with
  | value result =>
      rintro ⟨⟩
      rfl
  | failed => nofun
  | blocked => nofun

end Getters

/-! ## What `--cpu` says -/

theorem told_all
    {chosen : Opt CStr} (all : chosen = .absent ∨ chosen = .value "all") :
    told chosen = -1 := by
  rcases all with rfl | rfl
  · rfl
  · rfl

theorem told_index
    {text : CStr} {k : Int} (read : denoted text = some k) (inside : 0 ≤ k ∧ k ≤ int32Max) :
    told (.value text) = k := by
  have single : text ≠ "all" := by
    rintro rfl
    have unread : denoted "all" = none := by decide
    rw [unread] at read
    cases read
  rw [told, if_neg single, read]
  exact if_pos inside

theorem told_cases (chosen : Opt CStr) :
    told chosen = -2 ∨
      (told chosen = -1 ∧ (chosen = .absent ∨ chosen = .value "all")) ∨
      ∃ text k, chosen = .value text ∧ denoted text = some k ∧ told chosen = k ∧
        0 ≤ k ∧ k ≤ int32Max := by
  cases chosen with
  | absent => exact .inr (.inl ⟨rfl, .inl rfl⟩)
  | missing => exact .inl rfl
  | value text =>
      by_cases all : text = "all"
      · have isAll : Opt.value text = .value "all" := congrArg Opt.value all
        exact .inr (.inl ⟨told_all (.inr isAll), .inr isAll⟩)
      · cases read : denoted text with
        | none =>
            left
            rw [told, if_neg all, read]
        | some k =>
            by_cases inside : 0 ≤ k ∧ k ≤ int32Max
            · exact .inr (.inr ⟨text, k, rfl, read, told_index read inside, inside⟩)
            · left
              rw [told, if_neg all, read]
              exact if_neg inside

end Zenctl
