import Zenctl.Command

namespace Zenctl

open CString

/-!
# Argument vectors

`cmd_opt_str` looks at every token; `cmd_positional` steps over each option
together with its value.  Reading the vector from the left gives every token a
role, and both scanners are compared with it.
-/

/-! ## Roles -/

inductive Role where
  | option
  | value
  | positional
  deriving Repr, DecidableEq

/-- An option that takes the next token as its value. -/
def takesValue (arg : CStr) : Bool :=
  isOption arg && decide ('=' ∉ arg)

/-- The roles of the tokens, behind a token that awaits a value or not. -/
def rolesFrom (awaiting : Bool) : List CStr → List Role
  | [] => []
  | arg :: rest =>
      if awaiting then .value :: rolesFrom false rest
      else if isOption arg then .option :: rolesFrom (takesValue arg) rest
      else .positional :: rolesFrom false rest

def roles (args : List CStr) : List Role :=
  rolesFrom false args

/-- The tokens that are neither options nor option values. -/
def positionalsFrom (awaiting : Bool) (args : List CStr) : List CStr :=
  ((args.zip (rolesFrom awaiting args)).filter (·.2 = .positional)).map (·.1)

def positionals (args : List CStr) : List CStr :=
  positionalsFrom false args

/-- Does a value have to follow these tokens? -/
def awaitsAfter (awaiting : Bool) (tokens : List CStr) : Bool :=
  tokens.foldl (fun awaiting arg => !awaiting && takesValue arg) awaiting

/-- The number of options at the end that take the next token as their value. -/
def pendingRun (tokens : List CStr) : Nat :=
  (tokens.reverse.takeWhile takesValue).length

theorem positionalsFrom_value (arg : CStr) (rest : List CStr) :
    positionalsFrom true (arg :: rest) = positionals rest := rfl

theorem positionalsFrom_option
    {arg : CStr} (dashed : isOption arg = true) (rest : List CStr) :
    positionals (arg :: rest) = positionalsFrom (takesValue arg) rest := by
  simp [positionals, positionalsFrom, rolesFrom, dashed]

theorem positionals_plain
    {arg : CStr} (plain : isOption arg = false) (rest : List CStr) :
    positionals (arg :: rest) = arg :: positionals rest := by
  simp [positionals, positionalsFrom, rolesFrom, plain]

@[simp] theorem rolesFrom_length (awaiting : Bool) (args : List CStr) :
    (rolesFrom awaiting args).length = args.length := by
  induction args generalizing awaiting with
  | nil =>
      rfl
  | cons arg rest inductionHypothesis =>
      unfold rolesFrom
      split
      · exact congrArg (· + 1) (inductionHypothesis false)
      · split
        · exact congrArg (· + 1) (inductionHypothesis (takesValue arg))
        · exact congrArg (· + 1) (inductionHypothesis false)

theorem rolesFrom_append (awaiting : Bool) (before rest : List CStr) :
    rolesFrom awaiting (before ++ rest) =
      rolesFrom awaiting before ++ rolesFrom (awaitsAfter awaiting before) rest := by
  induction before generalizing awaiting with
  | nil =>
      rfl
  | cons arg before inductionHypothesis =>
      have next : awaitsAfter awaiting (arg :: before) =
          awaitsAfter (!awaiting && takesValue arg) before := rfl
      rw [next, List.cons_append]
      cases awaiting with
      | true =>
          exact congrArg (Role.value :: ·) (inductionHypothesis false)
      | false =>
          by_cases dashed : isOption arg = true
          · simp only [rolesFrom, dashed, Bool.false_eq_true, ↓reduceIte, Bool.not_false,
              Bool.true_and, List.cons_append, inductionHypothesis]
          · have never : takesValue arg = false := by simp [takesValue, dashed]
            simp only [rolesFrom, dashed, never, Bool.false_eq_true, ↓reduceIte, Bool.not_false,
              Bool.and_false, List.cons_append, inductionHypothesis]

/-- Of the options in a row every second one is the value of the one before it. -/
theorem awaitsAfter_eq (tokens : List CStr) :
    awaitsAfter false tokens = true ↔ Odd (pendingRun tokens) := by
  induction tokens using List.reverseRecOn with
  | nil =>
      simp [awaitsAfter, pendingRun]
  | append_singleton before arg inductionHypothesis =>
      have last : awaitsAfter false (before ++ [arg]) =
          (!awaitsAfter false before && takesValue arg) := by
        simp [awaitsAfter]
      rw [last]
      by_cases takes : takesValue arg = true
      · have longer : pendingRun (before ++ [arg]) = pendingRun before + 1 := by
          simp [pendingRun, takes]
        rw [longer, takes, Bool.and_true, Nat.odd_add_one, ← inductionHypothesis,
          Bool.not_eq_true', Bool.not_eq_true]
      · have none : pendingRun (before ++ [arg]) = 0 := by
          simp [pendingRun, takes]
        rw [none, Bool.and_eq_true]
        exact iff_of_false (fun both => takes both.2) (by decide)

/-! ## The positional scanner -/

theorem positionals_option
    {arg : CStr} (dashed : isOption arg = true) (rest : List CStr) :
    positionals (arg :: rest) = if '=' ∈ arg then positionals rest else positionals rest.tail := by
  rw [positionalsFrom_option dashed]
  by_cases joined : '=' ∈ arg
  · have alone : takesValue arg = false := by simp [takesValue, joined]
    rw [if_pos joined, alone, positionals]
  · have takes : takesValue arg = true := by simp [takesValue, dashed, joined]
    rw [if_neg joined, takes]
    cases rest with
    | nil => rfl
    | cons value rest => exact positionalsFrom_value value rest

theorem cmdPositionalCount_eq (args : List CStr) :
    cmdPositionalCount args = (positionals args).length := by
  induction args using cmdPositionalCount.induct with
  | case1 =>
      rfl
  | case2 arg dashed =>
      rw [cmdPositionalCount, if_pos dashed, positionals_option dashed]
      exact (ite_self _).symm ▸ rfl
  | case3 arg plain =>
      rw [cmdPositionalCount, if_neg plain, positionals_plain (by simpa using plain)]
      rfl
  | case4 arg next rest dashed joined inductionHypothesis =>
      rw [cmdPositionalCount, if_pos dashed, if_pos joined, inductionHypothesis,
        positionals_option dashed, if_pos joined]
  | case5 arg next rest dashed apart inductionHypothesis =>
      rw [cmdPositionalCount, if_pos dashed, if_neg apart, inductionHypothesis,
        positionals_option dashed, if_neg apart, List.tail_cons]
  | case6 arg next rest plain inductionHypothesis =>
      rw [cmdPositionalCount, if_neg plain, inductionHypothesis,
        positionals_plain (by simpa using plain) (next :: rest), List.length_cons]

theorem cmdPositional_eq (args : List CStr) (i : Nat) :
    cmdPositional args i = (positionals args)[i]? := by
  induction args, i using cmdPositional.induct with
  | case1 i =>
      rfl
  | case2 arg i dashed =>
      rw [cmdPositional, if_pos dashed, positionals_option dashed]
      exact (ite_self _).symm ▸ rfl
  | case3 arg plain =>
      rw [cmdPositional, if_neg plain, positionals_plain (by simpa using plain)]
      rfl
  | case4 arg i plain later =>
      obtain ⟨i, rfl⟩ := Nat.exists_eq_succ_of_ne_zero later
      rw [cmdPositional, if_neg plain, positionals_plain (by simpa using plain)]
      rfl
  | case5 arg next rest i dashed joined inductionHypothesis =>
      rw [cmdPositional.eq_def]
      simp only [dashed, joined, ↓reduceIte, inductionHypothesis, positionals_option]
  | case6 arg next rest i dashed apart inductionHypothesis =>
      rw [cmdPositional.eq_def]
      simp only [dashed, apart, ↓reduceIte, inductionHypothesis, positionals_option,
        List.tail_cons]
  | case7 arg next rest plain =>
      rw [cmdPositional, if_neg plain, positionals_plain (by simpa using plain) (next :: rest)]
      rfl
  | case8 arg next rest plain i inductionHypothesis =>
      rw [cmdPositional, if_neg plain, positionals_plain (by simpa using plain) (next :: rest),
        List.getElem?_cons_succ]
      exact inductionHypothesis

/-! ## The option scanner -/

/-- `cmd_opt_str` stops at this token. -/
def recognises (name arg : CStr) : Bool :=
  arg = name || startsWith (name ++ ['=']) arg

/-- The position of the token `cmd_opt_str` takes for the option. -/
def optionSite (name : CStr) (args : List CStr) : Option Nat :=
  args.findIdx? (recognises name)

/-- The position of the token that holds the value `cmd_opt_str` returns. -/
def valueSite (name : CStr) (args : List CStr) : Option Nat :=
  match optionSite name args with
  | none => none
  | some k =>
      if args[k]? ≠ some name then some k
      else if k + 1 < args.length then some (k + 1)
      else none

/-- What is found at these positions. -/
def optAt (name : CStr) (args : List CStr) : Opt CStr :=
  match optionSite name args, valueSite name args with
  | none, _ => .absent
  | some _, none => .missing
  | some option, some value =>
      .value (if option = value then (args.getD value []).drop (name.length + 1)
        else args.getD value [])

theorem cmdOptStr_eq (name : CStr) (args : List CStr) :
    cmdOptStr name args = optAt name args := by
  unfold optAt
  induction args with
  | nil =>
      rfl
  | cons arg rest inductionHypothesis =>
      by_cases same : arg = name
      · have here : optionSite name (arg :: rest) = some 0 := by
          simp [optionSite, List.findIdx?_cons, recognises, same]
        rw [valueSite, here]
        cases rest with
        | nil => simp [cmdOptStr, same]
        | cons value rest => simp [cmdOptStr, same]
      · by_cases joined : startsWith (name ++ ['=']) arg = true
        · have here : optionSite name (arg :: rest) = some 0 := by
            simp [optionSite, List.findIdx?_cons, recognises, joined]
          rw [valueSite, here]
          simp [cmdOptStr, same, joined]
        · have later : optionSite name (arg :: rest) = (optionSite name rest).map (· + 1) := by
            simp [optionSite, List.findIdx?_cons, recognises, same, joined]
          have passed : cmdOptStr name (arg :: rest) = cmdOptStr name rest := by
            simp [cmdOptStr, same, joined]
          rw [passed, inductionHypothesis, valueSite, valueSite, later]
          cases optionSite name rest with
          | none => rfl
          | some k =>
              simp only [Option.map_some, List.getElem?_cons_succ, List.length_cons,
                Nat.add_lt_add_iff_right]
              split_ifs <;> simp

/-! ## Agreement -/

/-- The two scanners read the vector in the same way. -/
structure ScannersAgree (name : CStr) (args : List CStr) : Prop where
  counted : ∀ i, (cmdPositional args i).isSome = true ↔ i < cmdPositionalCount args
  inOrder : ∀ i, cmdPositional args i = (positionals args)[i]?
  returned : cmdOptStr name args = optAt name args
  apart : ∀ k, valueSite name args = some k → (roles args)[k]? ≠ some .positional
  outside : ∀ k, optionSite name args = some k → (roles args)[k]? ≠ some .value

/-- The vector, cut at the token `cmd_opt_str` takes for the option. -/
theorem optionSite_cut
    {name : CStr} {args : List CStr} {k : Nat} (found : optionSite name args = some k) :
    ∃ token rest, args = args.take k ++ token :: rest ∧ (args.take k).length = k ∧
      recognises name token = true := by
  obtain ⟨inside, recognised, -⟩ := List.findIdx?_eq_some_iff_getElem.mp found
  refine ⟨args[k], args.drop (k + 1), ?_, List.length_take_of_le inside.le, recognised⟩
  rw [← List.drop_eq_getElem_cons inside, List.take_append_drop]

/-- A token recognised as an option starts with a dash as the name does. -/
theorem isOption_of_recognised
    {name token : CStr} (named : takesValue name = true)
    (recognised : recognises name token = true) :
    isOption token = true := by
  simp only [recognises, Bool.or_eq_true, decide_eq_true_eq] at recognised
  obtain ⟨dashed, -⟩ := Bool.and_eq_true_iff.mp named
  rcases recognised with rfl | joined
  · exact dashed
  · obtain ⟨rest, rfl⟩ := List.isPrefixOf_iff_prefix.mp joined
    cases name with
    | nil => cases dashed
    | cons c name =>
        unfold isOption at dashed ⊢
        split at dashed
        · rename_i same
          cases same
          rfl
        · cases dashed

/-- The role of the token the option scanner stops at, and of the one behind it. -/
theorem roles_at_option
    {name : CStr} {args : List CStr} {k : Nat} (named : takesValue name = true)
    (found : optionSite name args = some k) :
    (Odd (pendingRun (args.take k)) → (roles args)[k]? = some .value) ∧
      (¬Odd (pendingRun (args.take k)) → (roles args)[k]? = some .option ∧
        (args[k]? = some name → k + 1 < args.length → (roles args)[k + 1]? = some .value)) := by
  obtain ⟨token, rest, cut, length, recognised⟩ := optionSite_cut found
  have split : roles args =
      rolesFrom false (args.take k) ++
        rolesFrom (awaitsAfter false (args.take k)) (token :: rest) := by
    rw [← rolesFrom_append, ← cut, roles]
  have before : (rolesFrom false (args.take k)).length = k := by
    rw [rolesFrom_length, length]
  constructor
  · intro odd
    rw [split, (awaitsAfter_eq _).mpr odd, List.getElem?_append_right (by omega), before,
      Nat.sub_self]
    rfl
  · intro even
    have settled : awaitsAfter false (args.take k) = false := by
      rw [← Bool.not_eq_true, awaitsAfter_eq]
      exact even
    have dashed := isOption_of_recognised named recognised
    have option : rolesFrom false (token :: rest) =
        .option :: rolesFrom (takesValue token) rest := by
      simp [rolesFrom, dashed]
    rw [split, settled, option]
    constructor
    · rw [List.getElem?_append_right (by omega), before, Nat.sub_self]
      rfl
    · intro same inside
      have isName : token = name := by
        rw [cut, List.getElem?_append_right (by omega), length, Nat.sub_self] at same
        exact Option.some.inj same
      rw [List.getElem?_append_right (by omega), before, isName, named,
        show k + 1 - k = 1 by omega]
      cases rest with
      | nil =>
          rw [cut, List.length_append, length] at inside
          exact absurd inside (by simp)
      | cons value rest => rfl

/--
`cmd_positional` takes the option for a value exactly when an odd number of
options that take a value stands in a row before it.
-/
theorem scannersAgree_iff
    (args : List CStr)
    {name : CStr} (named : takesValue name = true) :
    ScannersAgree name args ↔
      ∀ k, optionSite name args = some k → Even (pendingRun (args.take k)) := by
  constructor
  · intro agree k found
    by_contra uneven
    have odd := Nat.not_even_iff_odd.mp uneven
    exact agree.outside k found ((roles_at_option named found).1 odd)
  · intro even
    have settled : ∀ k, optionSite name args = some k → ¬Odd (pendingRun (args.take k)) :=
      fun k found => Nat.not_odd_iff_even.mpr (even k found)
    refine ⟨fun i => ?_, cmdPositional_eq args, cmdOptStr_eq name args,
      fun k returned => ?_, fun k found => ?_⟩
    · rw [cmdPositional_eq, cmdPositionalCount_eq]
      simp
    · unfold valueSite at returned
      split at returned
      · cases returned
      · rename_i option found
        obtain ⟨here, behind⟩ := (roles_at_option named found).2 (settled option found)
        split at returned
        · cases returned
          rw [here]
          decide
        · rename_i same
          split at returned
          · rename_i inside
            cases returned
            rw [behind (not_not.mp same) inside]
            decide
          · cases returned
    · rw [((roles_at_option named found).2 (settled k found)).1]
      decide

/-- `--cpu` is the value of `--state` for one scanner and an option for the other. -/
theorem optionInsideValue :
    ¬ScannersAgree "--cpu" ["--state".toList, "--cpu".toList, "3".toList] := by
  intro agree
  exact agree.outside 1 (by decide) (by decide)

theorem scannersAgree_plain :
    takesValue "--cpu" = true ∧
      (ScannersAgree "--cpu" ["performance".toList, "--cpu".toList, "3".toList] ↔
        ∀ k, optionSite "--cpu" ["performance".toList, "--cpu".toList, "3".toList] = some k →
          Even (pendingRun (["performance".toList, "--cpu".toList, "3".toList].take k))) :=
  ⟨by decide, scannersAgree_iff _ (by decide)⟩

end Zenctl
