import Zenctl.Profile
import Zenctl.Libzenctl

namespace Zenctl

open CString

/-!
# Listing the profiles

The names of both directories are sorted and then compacted in place.  The loop
compares each name with the slot before it, and that slot is `NULL` when the
round before found a duplicate.  The array is modelled a second time with its
memory, so that a run without a fault is one that never touches a slot that
holds no entry or an entry that was freed.
-/

variable {σ τ : Type}

/-! ## The array with its memory -/

/-- What each slot points to, what has been freed, and the output count. -/
structure Cells where
  slots : List (Option Nat)
  freed : List Nat
  outN : Nat
  deriving Repr, DecidableEq

namespace Cells

/-- All slots point to their own entry. -/
def filled (count : Nat) : Cells :=
  ⟨(List.range count).map some, [], 0⟩

/-- The entry behind a slot; to follow `NULL` or a pointer that was freed is a fault. -/
def entry (cells : Cells) (slot : Nat) : Option Nat :=
  ((cells.slots[slot]?).join).filter fun e => decide (e ∉ cells.freed)

/-- One round of the loop that drops duplicates. -/
def round (names : List CStr) (cells : Cells) (i : Nat) : Option Cells :=
  let kept : Cells :=
    ⟨cells.slots.set cells.outN (cells.slots[i]?).join, cells.freed, cells.outN + 1⟩
  if i = 0 then some kept
  else do
    let current ← cells.entry i
    let previous ← cells.entry (i - 1)
    if names[current]? = names[previous]? then
      some ⟨cells.slots.set i none, current :: cells.freed, cells.outN⟩
    else some kept

/-- `free(list[slot])`. -/
def release (cells : Cells) (slot : Nat) : Option Cells := do
  let e ← cells.entry slot
  some { cells with freed := e :: cells.freed }

end Cells

/-- The loop, the output of the first `outN` slots and their release; `none` is a fault. -/
def listCells (names : List CStr) : Option (List CStr) := do
  let final ← (List.range names.length).foldlM (Cells.round names) (.filled names.length)
  let printed ← (List.range final.outN).mapM final.entry
  let _ ← (List.range final.outN).foldlM Cells.release final
  some (printed.filterMap (names[·]?))

/-! ## Rounds without a duplicate -/

section Rounds

variable {names : List CStr}

/-- Below this position no name follows itself. -/
def ApartBelow (names : List CStr) (k : Nat) : Prop :=
  ∀ i, i + 1 < k → names[i]? ≠ names[i + 1]?

theorem ApartBelow.before
    {k j : Nat} (apart : ApartBelow names k) (below : j ≤ k) :
    ApartBelow names j :=
  fun i inside => apart i (by omega)

theorem slot_join {k : Nat} (inside : k < names.length) :
    ((names.map some)[k]?).join = some names[k] := by
  rw [List.getElem?_map, List.getElem?_eq_getElem inside]
  rfl

theorem slots_set {α : Type} {list : List α} {k : Nat} (inside : k < list.length) :
    (list.map some).set k (some list[k]) = list.map some := by
  rw [← List.map_set, List.set_getElem_self]

/-- A name that differs from the one before is kept where it is. -/
theorem dedupStep_keeps
    {k : Nat} (inside : k < names.length) (apart : ApartBelow names (k + 1)) :
    dedupStep ⟨names.map some, k⟩ k = some ⟨names.map some, k + 1⟩ := by
  unfold dedupStep
  rw [slot_join inside, slots_set inside]
  cases k with
  | zero => rfl
  | succ j =>
      have inside' : j < names.length := by omega
      have differ : ¬names[j + 1] = names[j] := by
        intro same
        refine apart j (by omega) ?_
        rw [List.getElem?_eq_getElem inside, List.getElem?_eq_getElem inside', same]
      rw [if_neg (Nat.succ_ne_zero j), Nat.add_sub_cancel, slot_join inside']
      exact congrArg some (if_neg differ)

theorem dedup_rounds
    {k : Nat} (inside : k ≤ names.length) (apart : ApartBelow names k) :
    (List.range k).foldlM dedupStep ⟨names.map some, 0⟩ = some ⟨names.map some, k⟩ := by
  induction k with
  | zero =>
      rfl
  | succ k inductionHypothesis =>
      rw [List.range_succ, List.foldlM_append,
        inductionHypothesis (by omega) (apart.before (by omega))]
      have kept := dedupStep_keeps inside apart
      simp [kept]

/-- The first name that follows itself leaves its slot empty. -/
theorem dedupStep_drops
    {k : Nat} (inside : k + 1 < names.length) (same : names[k]? = names[k + 1]?) :
    dedupStep ⟨names.map some, k + 1⟩ (k + 1) =
      some ⟨(names.map some).set (k + 1) none, k + 1⟩ := by
  have inside' : k < names.length := by omega
  rw [List.getElem?_eq_getElem inside, List.getElem?_eq_getElem inside'] at same
  unfold dedupStep
  rw [if_neg (Nat.succ_ne_zero k), slot_join inside, Nat.add_sub_cancel, slot_join inside']
  exact congrArg some (if_pos (Option.some.inj same).symm)

/-- The round after a dropped name compares with `NULL`. -/
theorem dedupStep_faults
    {slots : List (Option CStr)} (k outN : Nat) :
    dedupStep ⟨slots.set k none, outN⟩ (k + 1) = none := by
  have cleared : ((slots.set k none)[k + 1 - 1]?).join = none := by
    rw [Nat.add_sub_cancel, List.getElem?_set_self']
    cases slots[k]? with
    | none => rfl
    | some _ => rfl
  unfold dedupStep
  rw [if_neg (Nat.succ_ne_zero k), cleared]
  split
  · rename_i absent
    cases absent
  · rfl

theorem range_split {k n : Nat} (below : k ≤ n) :
    List.range n = List.range k ++ (List.range (n - k)).map (k + ·) := by
  rw [← List.range_add, Nat.add_sub_cancel' below]

/-- Without a duplicate nothing is dropped. -/
theorem dedup_apart (apart : ApartBelow names names.length) :
    dedup names = some names := by
  unfold dedup
  rw [dedup_rounds le_rfl apart]
  have all : (names.map some).take names.length = names.map some :=
    List.take_of_length_le (by simp)
  simp [all]

/-- A duplicate in the last slot is dropped before anything looks at it. -/
theorem dedup_last
    {k : Nat} (last : k + 2 = names.length) (apart : ApartBelow names (k + 1))
    (same : names[k]? = names[k + 1]?) :
    dedup names = some (names.take (k + 1)) := by
  unfold dedup
  have rounds : (List.range names.length).foldlM dedupStep ⟨names.map some, 0⟩ =
      some ⟨(names.map some).set (k + 1) none, k + 1⟩ := by
    rw [← last, List.range_succ, List.foldlM_append, dedup_rounds (by omega) apart]
    have dropped := dedupStep_drops (by omega) same
    simp [dropped]
  rw [rounds]
  have before : ((names.map some).set (k + 1) none).take (k + 1) = (names.take (k + 1)).map some := by
    rw [List.take_set_of_le le_rfl, List.map_take]
  simp only [Option.bind_eq_bind, Option.bind_some, before]
  simp

/-- A duplicate with a name behind it ends the process. -/
theorem dedup_stuck
    {k : Nat} (more : k + 2 < names.length) (apart : ApartBelow names (k + 1))
    (same : names[k]? = names[k + 1]?) :
    dedup names = none := by
  have first : (List.range (k + 2)).foldlM dedupStep ⟨names.map some, 0⟩ =
      some ⟨(names.map some).set (k + 1) none, k + 1⟩ := by
    rw [List.range_succ, List.foldlM_append, dedup_rounds (by omega) apart]
    have dropped := dedupStep_drops (by omega) same
    simp [dropped]
  have stuck : (List.range (k + 3)).foldlM dedupStep ⟨names.map some, 0⟩ = none := by
    rw [List.range_succ, List.foldlM_append, first]
    simp [dedupStep_faults]
  unfold dedup
  rw [range_split (show k + 3 ≤ names.length by omega), List.foldlM_append, stuck]
  rfl

end Rounds

/-! ## The same rounds on the array with its memory -/

section CellRounds

variable {names : List CStr}

/-- The slots below the output count hold their own entries, none of them freed. -/
structure Cells.Sound (cells : Cells) (count : Nat) : Prop where
  own : ∀ k < count, cells.slots[k]? = some (some k)
  live : ∀ k < count, k ∉ cells.freed

theorem Cells.Sound.entry
    {cells : Cells} {count k : Nat} (sound : cells.Sound count) (below : k < count) :
    cells.entry k = some k := by
  have live := sound.live k below
  simp [Cells.entry, sound.own k below, live]

theorem mapM_self
    {f : Nat → Option Nat} {list : List Nat} (self : ∀ k ∈ list, f k = some k) :
    list.mapM f = some list := by
  induction list with
  | nil =>
      rfl
  | cons k rest inductionHypothesis =>
      rw [List.mapM_cons, self k List.mem_cons_self,
        inductionHypothesis fun j member => self j (List.mem_cons_of_mem k member)]
      rfl

/-- Every output slot is freed once. -/
theorem Cells.Sound.released
    {cells : Cells} {count j : Nat} (sound : cells.Sound count) (below : j ≤ count) :
    ∃ freed, (List.range j).foldlM Cells.release cells =
        some { cells with freed := freed } ∧ ∀ k, j ≤ k → k < count → k ∉ freed := by
  induction j with
  | zero => exact ⟨cells.freed, rfl, fun k _ inside => sound.live k inside⟩
  | succ j inductionHypothesis =>
      obtain ⟨freed, run, live⟩ := inductionHypothesis (by omega)
      have held : ({ cells with freed := freed } : Cells).entry j = some j := by
        have unfreed := live j le_rfl below
        simp [Cells.entry, sound.own j below, unfreed]
      refine ⟨j :: freed, ?_, fun k later inside => ?_⟩
      · rw [List.range_succ, List.foldlM_append, run]
        simp [Cells.release, held]
      · rw [List.mem_cons, not_or]
        exact ⟨by omega, live k (by omega) inside⟩

theorem range_filterMap_getElem (names : List CStr) (count : Nat) :
    (List.range count).filterMap (names[·]?) = names.take count := by
  induction count with
  | zero =>
      simp
  | succ count inductionHypothesis =>
      rw [List.range_succ, List.filterMap_append, inductionHypothesis, List.take_add_one]
      rfl

/-- What is left to do after the loop goes without a fault. -/
theorem listCells_of_final
    {final : Cells}
    (run : (List.range names.length).foldlM (Cells.round names) (.filled names.length) = some final)
    (sound : final.Sound final.outN) :
    listCells names = some (names.take final.outN) := by
  obtain ⟨freed, released, -⟩ := sound.released le_rfl
  have printed : (List.range final.outN).mapM final.entry = some (List.range final.outN) :=
    mapM_self fun k member => sound.entry (List.mem_range.mp member)
  unfold listCells
  rw [run]
  simp [printed, released, range_filterMap_getElem]

theorem filled_sound (count k : Nat) :
    (⟨(List.range count).map some, [], k⟩ : Cells).Sound count :=
  ⟨fun j below => by simp [below], fun _ _ => List.not_mem_nil⟩

/-- A round of the loop on the array that still holds every entry. -/
theorem round_keeps
    {k : Nat} (inside : k < names.length) (apart : ApartBelow names (k + 1)) :
    Cells.round names ⟨(List.range names.length).map some, [], k⟩ k =
      some ⟨(List.range names.length).map some, [], k + 1⟩ := by
  have sound := filled_sound names.length k
  have unmoved : ((List.range names.length).map some).set k (some k) =
      (List.range names.length).map some := by
    have long : k < (List.range names.length).length := by simpa using inside
    have set := slots_set long
    rw [List.getElem_range] at set
    exact set
  unfold Cells.round
  rw [show (((List.range names.length).map some)[k]?).join = some k by rw [sound.own k inside]; rfl,
    unmoved]
  cases k with
  | zero => rfl
  | succ j =>
      rw [if_neg (Nat.succ_ne_zero j), Nat.add_sub_cancel, sound.entry inside,
        sound.entry (show j < names.length by omega)]
      exact if_neg fun same => apart j (by omega) same.symm

theorem round_drops
    {k : Nat} (inside : k + 1 < names.length) (same : names[k]? = names[k + 1]?) :
    Cells.round names ⟨(List.range names.length).map some, [], k + 1⟩ (k + 1) =
      some ⟨((List.range names.length).map some).set (k + 1) none, [k + 1], k + 1⟩ := by
  have sound := filled_sound names.length (k + 1)
  unfold Cells.round
  rw [if_neg (Nat.succ_ne_zero k), Nat.add_sub_cancel, sound.entry inside,
    sound.entry (show k < names.length by omega)]
  exact if_pos same.symm

theorem cell_rounds
    {k : Nat} (inside : k ≤ names.length) (apart : ApartBelow names k) :
    (List.range k).foldlM (Cells.round names) (.filled names.length) =
      some ⟨(List.range names.length).map some, [], k⟩ := by
  induction k with
  | zero =>
      rfl
  | succ k inductionHypothesis =>
      have kept := round_keeps inside apart
      rw [List.range_succ, List.foldlM_append,
        inductionHypothesis (by omega) (apart.before (by omega))]
      simp [kept]

theorem listCells_apart (apart : ApartBelow names names.length) :
    listCells names = some names := by
  have listed := listCells_of_final (cell_rounds le_rfl apart) (filled_sound _ _)
  rw [List.take_length] at listed
  exact listed

theorem listCells_last
    {k : Nat} (last : k + 2 = names.length) (apart : ApartBelow names (k + 1))
    (same : names[k]? = names[k + 1]?) :
    listCells names = some (names.take (k + 1)) := by
  have run : (List.range names.length).foldlM (Cells.round names) (.filled names.length) =
      some ⟨((List.range names.length).map some).set (k + 1) none, [k + 1], k + 1⟩ := by
    have dropped := round_drops (by omega) same
    conv_lhs => rw [← last, List.range_succ, List.foldlM_append]
    rw [last, cell_rounds (by omega) apart]
    simp [dropped]
  refine listCells_of_final run ⟨fun j below => ?_, fun j below => ?_⟩
  · have short : j < k + 1 := below
    rw [List.getElem?_set_ne (Nat.ne_of_gt below)]
    exact (filled_sound names.length k).own j (by omega)
  · rw [List.mem_singleton]
    exact Nat.ne_of_lt below

end CellRounds

/-! ## The sorted names -/

/-- A name may occur twice only when it is the largest; then nothing stands behind it. -/
def RepeatsLargestOnly (names : List CStr) : Prop :=
  ∀ name, 1 < names.count name →
    names.count name = 2 ∧ ∀ other ∈ names, strcmpLe other name = true

/-- `<stem>.toml` with a stem that is not empty and not hidden. -/
def IsProfile (entries : List CStr) (stem : CStr) : Prop :=
  stem ≠ [] ∧ stem.head? ≠ some '.' ∧ stem ++ ".toml".toList ∈ entries

theorem mem_profileStems {entries : List CStr} {stem : CStr} :
    stem ∈ profileStems entries ↔ IsProfile entries stem := by
  unfold profileStems IsProfile
  simp only [List.mem_map, List.mem_filter, Bool.and_eq_true, decide_eq_true_eq]
  constructor
  · rintro ⟨name, ⟨member, ⟨long, suffix⟩, visible⟩, rfl⟩
    have whole : name.take (name.length - 5) ++ ".toml".toList = name := by
      conv_rhs => rw [← List.take_append_drop (name.length - 5) name]
      rw [suffix]
    cases name with
    | nil => cases long
    | cons c rest =>
        have starts : ((c :: rest).take ((c :: rest).length - 5)) =
            c :: rest.take ((c :: rest).length - 6) := by
          have shape : (c :: rest).length - 5 = ((c :: rest).length - 6) + 1 := by omega
          rw [shape, List.take_succ_cons]
        refine ⟨?_, ?_, ?_⟩
        · rw [starts]
          exact List.cons_ne_nil _ _
        · rw [starts]
          exact visible
        · rw [whole]
          exact member
  · rintro ⟨nonempty, visible, member⟩
    have five : ".toml".toList.length = 5 := rfl
    have length : (stem ++ ".toml".toList).length - 5 = stem.length := by
      rw [List.length_append, five, Nat.add_sub_cancel]
    refine ⟨stem ++ ".toml".toList, ⟨member, ⟨?_, ?_⟩, ?_⟩, ?_⟩
    · rw [List.length_append, five]
      have positive := List.length_pos_iff.mpr nonempty
      omega
    · rw [length, List.drop_left]
    · rw [List.head?_append_of_ne_nil _ nonempty]
      exact visible
    · rw [length, List.take_left]

section Sorted

variable {names : List CStr} (sorted : names.Pairwise (strcmpLe · · = true))

include sorted

/-- Equal names of a sorted array stand next to each other. -/
theorem apartBelow_iff
    {k : Nat} (inside : k ≤ names.length) :
    ApartBelow names k ↔ (names.take k).Nodup := by
  have ordered := List.pairwise_iff_getElem.mp sorted
  rw [List.nodup_iff_getElem?_ne_getElem?]
  constructor
  · intro apart i j before short same
    rw [List.length_take_of_le inside] at short
    rw [List.getElem?_take_of_lt (before.trans short), List.getElem?_take_of_lt short,
      List.getElem?_eq_getElem (by omega), List.getElem?_eq_getElem (by omega)] at same
    refine apart i (by omega) ?_
    rw [List.getElem?_eq_getElem (by omega), List.getElem?_eq_getElem (by omega)]
    have next := ordered i (i + 1) (by omega) (by omega) (by omega)
    rcases Nat.lt_or_eq_of_le (Nat.succ_le_of_lt before) with later | here
    · have behind := ordered (i + 1) j (by omega) (by omega) later
      rw [← Option.some.inj same] at behind
      exact congrArg some (strcmpLe_antisymm _ _ next behind)
    · subst here
      exact same
  · intro nodup i below same
    have short : i + 1 < (names.take k).length := by
      rw [List.length_take_of_le inside]
      exact below
    refine nodup i (i + 1) (Nat.lt_succ_self i) short ?_
    rw [List.getElem?_take_of_lt (by omega), List.getElem?_take_of_lt below]
    exact same

theorem repeatsLargestOnly_iff :
    RepeatsLargestOnly names ↔ names.dropLast.Nodup := by
  rcases names.eq_nil_or_concat with rfl | ⟨init, last, rfl⟩
  · exact iff_of_true (fun _ => nofun) .nil
  · rw [List.concat_eq_append] at sorted ⊢
    obtain ⟨-, -, below⟩ := List.pairwise_append.mp sorted
    rw [List.dropLast_concat]
    constructor
    · intro largest
      rw [List.nodup_iff_count_le_one]
      intro name
      by_contra twice
      have counted : (init ++ [last]).count name = init.count name + [last].count name :=
        List.count_append
      obtain ⟨two, above⟩ := largest name (by omega)
      have member : name ∈ init := List.count_pos_iff.mp (by omega)
      have same : name = last :=
        strcmpLe_antisymm name last (below name member last List.mem_cons_self)
          (above last (List.mem_append_right init List.mem_cons_self))
      rw [same, List.count_singleton_self] at counted
      rw [same] at two twice
      omega
    · intro nodup name twice
      have counted : (init ++ [last]).count name = init.count name + [last].count name :=
        List.count_append
      have once := List.nodup_iff_count_le_one.mp nodup name
      have single : [last].count name ≤ 1 := List.count_le_length
      have member : name ∈ [last] := List.count_pos_iff.mp (by omega)
      cases List.mem_singleton.mp member
      refine ⟨by omega, fun other present => ?_⟩
      rcases List.mem_append.mp present with early | here
      · exact below other early last List.mem_cons_self
      · cases List.mem_singleton.mp here
        exact (strcmpLe_total last last).elim id id

/-- The sorted array is listed in full, or without the last slot, when no fault can happen. -/
theorem listed_of_nodup
    (nodup : names.dropLast.Nodup) :
    ∃ listed, dedup names = some listed ∧ listCells names = some listed ∧ listed.Nodup ∧
      listed.Pairwise (strcmpLe · · = true) ∧ ∀ name, name ∈ listed ↔ name ∈ names := by
  rw [List.dropLast_eq_take] at nodup
  have apart := (apartBelow_iff sorted (Nat.sub_le names.length 1)).mpr nodup
  by_cases whole : ApartBelow names names.length
  · refine ⟨names, dedup_apart whole, listCells_apart whole, ?_, sorted, fun _ => .rfl⟩
    have all := (apartBelow_iff sorted le_rfl).mp whole
    rwa [List.take_length] at all
  · -- the only pair of neighbours that can be equal is the last one
    unfold ApartBelow at whole
    push Not at whole
    obtain ⟨k, below, same⟩ := whole
    have last : k + 2 = names.length := by
      by_contra other
      exact apart k (by omega) same
    have before : names.length - 1 = k + 1 := by omega
    rw [before] at apart nodup
    refine ⟨names.take (k + 1), dedup_last last apart same, listCells_last last apart same, nodup,
      sorted.sublist (List.take_sublist _ _), fun name => ⟨List.mem_of_mem_take, fun member => ?_⟩⟩
    obtain ⟨j, inside, rfl⟩ := List.getElem_of_mem member
    rw [List.mem_iff_getElem?]
    by_cases early : j < k + 1
    · refine ⟨j, ?_⟩
      rw [List.getElem?_take_of_lt early, List.getElem?_eq_getElem inside]
    · have final : j = k + 1 := by omega
      refine ⟨k, ?_⟩
      rw [List.getElem?_take_of_lt (Nat.lt_succ_self k), same, ← List.getElem?_eq_getElem inside,
        final]

/-- A name that occurs twice in front of another slot ends the process. -/
theorem dedup_of_repeat
    (repeats : ¬names.dropLast.Nodup) :
    dedup names = none := by
  rw [List.dropLast_eq_take, ← apartBelow_iff sorted (Nat.sub_le names.length 1)] at repeats
  unfold ApartBelow at repeats
  push Not at repeats
  -- the loop stops behind the first such name
  classical
  have spec := Nat.find_spec repeats
  have least := fun j (earlier : j < Nat.find repeats) => Nat.find_min repeats earlier
  refine dedup_stuck (k := Nat.find repeats) (by omega) (fun i below same => ?_) spec.2
  exact least i (by omega) ⟨by omega, same⟩

end Sorted

/-- Sorting brings the names that occur twice together. -/
theorem repeatsLargestOnly_sorted (names : List CStr) :
    RepeatsLargestOnly names ↔ (sortNames names).dropLast.Nodup := by
  have same := sortNames_perm names
  rw [← repeatsLargestOnly_iff (sortNames_pairwise names)]
  unfold RepeatsLargestOnly
  simp only [same.count_eq, same.mem_iff]

/-! ## The command -/

/-- What the command prints for some names. -/
def listingText (json : Bool) (listed : List CStr) : CStr :=
  if json then okEnvelope (arrayText (listed.map outJsonEscape))
  else listed.flatMap fun name => name ++ ['\n']

theorem forEach_lines
    (ctx : Ctx σ τ) (sys : σ) (listed : List CStr) (console : Console τ) :
    forEach (fun name => put (name ++ ['\n'])) listed ctx sys console =
      ((), { console with
        stdout := console.stdout ++ listed.flatMap fun name => name ++ ['\n'] }) := by
  induction listed generalizing console with
  | nil =>
      simp [forEach]
  | cons name rest inductionHypothesis =>
      rw [forEach, ReadM.bind_run]
      refine (inductionHypothesis _).trans ?_
      simp [put]

section Command

variable (ctx : Ctx σ τ) (sys : σ) (console : Console τ) (json : Bool)

/-- The entries of a profile directory; a directory that cannot be read has none. -/
def profileEntries (dir : CStr) : List CStr :=
  (ctx.host.listDir sys dir).getD []

def listedStems : List CStr :=
  profileStems (profileEntries ctx sys (userProfileDir ctx.env)) ++
    profileStems (profileEntries ctx sys systemProfileDir)

/-- The command prints the sorted union of the names, and its array is used without a fault. -/
def ListsProfiles : Prop :=
  ∃ listed : List CStr,
    listed.Pairwise (fun a b => strcmpLe a b = true ∧ a ≠ b) ∧
    (∀ name, name ∈ listed ↔
      IsProfile (profileEntries ctx sys (userProfileDir ctx.env)) name ∨
        IsProfile (profileEntries ctx sys systemProfileDir) name) ∧
    listCells (sortNames (listedStems ctx sys)) = some listed ∧
    profileListCmd json ctx sys console =
      (0, { console with stdout := console.stdout ++ listingText json listed })

/-- The run of the command, from what the compaction makes of the sorted names. -/
theorem profileListCmd_run :
    profileListCmd json ctx sys console =
      match dedup (sortNames (listedStems ctx sys)) with
      | none => (segmentationFault, console)
      | some listed =>
          (0, { console with stdout := console.stdout ++ listingText json listed }) := by
  have run : profileListCmd json ctx sys console =
      (match dedup (sortNames (listedStems ctx sys)) with
      | none => pure segmentationFault
      | some names =>
          report json (okEnvelope (arrayText (names.map outJsonEscape)))
            (forEach (fun name => put (name ++ ['\n'])) names)) ctx sys console := rfl
  rw [run]
  cases dedup (sortNames (listedStems ctx sys)) with
  | none => rfl
  | some listed =>
      cases json with
      | true => rfl
      | false => simp [report, listingText, forEach_lines]

theorem listsProfiles_iff :
    ListsProfiles ctx sys console json ↔ RepeatsLargestOnly (listedStems ctx sys) := by
  have sorted := sortNames_pairwise (listedStems ctx sys)
  have same := sortNames_perm (listedStems ctx sys)
  rw [repeatsLargestOnly_sorted]
  constructor
  · rintro ⟨listed, -, -, -, printed⟩
    by_contra repeats
    rw [profileListCmd_run, dedup_of_repeat sorted repeats] at printed
    have status : segmentationFault = 0 := congrArg (·.1) printed
    exact absurd status (by decide)
  · intro nodup
    obtain ⟨listed, compacted, safe, distinct, ordered, members⟩ := listed_of_nodup sorted nodup
    refine ⟨listed, List.pairwise_and_iff.mpr ⟨ordered, distinct⟩, fun name => ?_, safe, ?_⟩
    · rw [members, same.mem_iff, listedStems, List.mem_append, mem_profileStems, mem_profileStems]
    · rw [profileListCmd_run, compacted]

end Command

/-- Both profile directories hold the same two profiles. -/
def twinHost : Host Unit where
  listDir _ _ := some ["b.toml".toList, "a.toml".toList]
  access _ _ _ := true
  readFile _ _ := .error []
  mkdir _ _ := (false, ())
  openWrite _ _ := (.error [], ())
  writeOut _ _ _ := ()
  unlink _ _ := (.error [], ())

/-- A name in both directories with another one behind it. -/
theorem twinProfiles_fault :
    ¬ListsProfiles ⟨libzenctl bareOs, twinHost, smallEnv 0⟩ () ⟨freshProc, [], [], []⟩ false := by
  rintro ⟨listed, -, -, -, printed⟩
  have status : (profileListCmd false ⟨libzenctl bareOs, twinHost, smallEnv 0⟩ ()
      ⟨freshProc, [], [], []⟩).1 = segmentationFault := by
    decide +kernel
  rw [printed] at status
  have success : 0 = segmentationFault := status
  exact absurd success (by decide)

end Zenctl
