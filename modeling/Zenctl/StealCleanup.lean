import Zenctl.LibFirmware
import Zenctl.LibWireless
import Zenctl.BiosSettings

namespace Zenctl

open CString

/-!
# Stealing directory entries

Five functions filter a `NULL`-terminated array of entries.  An entry that
passes is moved to an output array and its slot is set to `NULL`; what is left
is freed by a loop that runs up to the first `NULL`.  Here the array is a list of
slots, and the pointers that are moved and freed are recorded.
-/

section Slots

variable {π : Type}

/-- `for (size_t i = 0; entries[i]; i++) free(entries[i]);` -/
def freeUntilNull : List (Option π) → List π
  | some entry :: rest => entry :: freeUntilNull rest
  | _ => []

/-- How the loop over the entries ends: with the slots and the output array it leaves. -/
inductive Stolen (π : Type) where
  | done (slots : List (Option π)) (out : List π)
  | refused (slots : List (Option π)) (out : List π)
  /-- A slot behind the array was read. -/
  | fault
  deriving DecidableEq

/--
The loop over the slots, split at `i`.  Once the answers are used up, every
`realloc` succeeds.
-/
def stealLoop (accept : π → Bool) (passed : List (Option π)) (out : List π) (cap : Nat)
    (reallocs : List Bool) : List (Option π) → Stolen π
  | some entry :: ahead =>
      if accept entry then
        if cap ≤ out.length + 1 then
          match reallocs with
          | false :: _ => .refused (passed ++ some entry :: ahead) out
          | answers =>
              stealLoop accept (passed ++ [none]) (out ++ [entry]) (cap * 2) answers.tail ahead
        else stealLoop accept (passed ++ [none]) (out ++ [entry]) cap reallocs ahead
      else stealLoop accept (passed ++ [some entry]) out cap reallocs ahead
  | none :: ahead => .done (passed ++ none :: ahead) out
  | [] => .fault

/-- The entries in the output array that is returned, and the entries passed to `free`. -/
structure Accounting (π : Type) where
  moved : List π
  freed : List π
  deriving DecidableEq

/-- Filter the entries; when memory is refused everything is freed instead. -/
def stealEntries (accept : π → Bool) (callocOk : Bool) (reallocs : List Bool)
    (entries : List π) : Accounting π :=
  let slots := entries.map some ++ [none]
  if callocOk then
    match stealLoop accept [] [] 8 reallocs slots with
    | .done slots out => ⟨out, freeUntilNull slots⟩
    | .refused slots out => ⟨[], out ++ freeUntilNull slots⟩
    | .fault => ⟨[], []⟩
  else ⟨[], freeUntilNull slots⟩

/-- Every entry is moved or freed, none is left out and none is freed twice. -/
def Accounting.ExactlyOnce (account : Accounting π) (entries : List π) : Prop :=
  (account.moved ++ account.freed).Perm entries

instance [DecidableEq π] (account : Accounting π) (entries : List π) :
    Decidable (account.ExactlyOnce entries) :=
  inferInstanceAs (Decidable ((account.moved ++ account.freed).Perm entries))

/-- How often an array of eight doubles for so many entries: at the 8th, 16th, 32nd and so on. -/
def growths (count : Nat) : Nat :=
  Nat.log2 (count / 4)

end Slots

/-! ## The five functions -/

/-- The entries of a directory as they stand in memory: each text at its own address. -/
abbrev HeapText : Type := CStr × Nat

def listedEntries (names : List CStr) : List HeapText :=
  names.zipIdx

/--
`zenctl_usb_enumerate`, `zenctl_bt_enumerate`, `zenctl_wireless_enumerate`,
`zenctl_fw_acpi_list_tables` and `fwattr_list_settings`.
-/
inductive Stealing where
  | usbEnumerate
  | btEnumerate
  | wirelessEnumerate
  | acpiListTables
  | fwattrListSettings (vendor : CStr)
  deriving Repr, DecidableEq

section Filters

variable {σ : Type} (os : Os σ) (sys : σ) (joins : Nat → Bool)

/--
Does an entry pass the function's filter?  An entry whose paths cannot be
joined for want of memory is skipped.
-/
def Stealing.accepts : Stealing → HeapText → Bool
  | usbEnumerate, entry => isUsbDeviceEntry entry.1
  | btEnumerate, entry => isNumbered "hci" entry.1
  | wirelessEnumerate, entry => isNumbered "phy" entry.1
  | acpiListTables, entry =>
      joins entry.2 && !os.isDir sys (joinPath acpiTablesBase entry.1)
  | fwattrListSettings vendor, entry =>
      let path := joinPath (vendorPath vendor "attributes") entry.1
      joins entry.2 && os.isDir sys path &&
        (os.access sys (joinPath path "type") .present).isOk

/-- What the function does with the entries of a directory. -/
def Stealing.account (stealing : Stealing) (callocOk : Bool) (reallocs : List Bool)
    (names : List CStr) : Accounting HeapText :=
  stealEntries (stealing.accepts os sys joins) callocOk reallocs (listedEntries names)

end Filters

/-! ## What the loop leaves -/

section Runs

variable {π : Type} {accept : π → Bool}

/-- The slot of an entry after the loop has gone over it. -/
def slotAfter (accept : π → Bool) (entry : π) : Option π :=
  if accept entry then none else some entry

/-- The last loop stops at the first entry that was moved. -/
theorem freeUntilNull_slots
    (accept : π → Bool) (entries : List π) (behind : List (Option π)) :
    freeUntilNull (entries.map (slotAfter accept) ++ behind) =
      entries.takeWhile (fun entry => !accept entry) ++
        if entries.any accept then [] else freeUntilNull behind := by
  induction entries with
  | nil => rfl
  | cons entry rest inductionHypothesis =>
      cases passes : accept entry with
      | true => simp [slotAfter, passes, freeUntilNull]
      | false => simp [slotAfter, passes, freeUntilNull, inductionHypothesis]

theorem freeUntilNull_some
    (entries : List π) :
    freeUntilNull (entries.map some ++ [none]) = entries := by
  induction entries with
  | nil => rfl
  | cons entry rest inductionHypothesis =>
      exact congrArg (entry :: ·) inductionHypothesis

/-- The answers still needed for an array of `cap` that will hold `total` entries. -/
def answersFor (cap total : Nat) (reallocs : List Bool) : List Bool :=
  reallocs.take (Nat.log2 (2 * total / cap))

/-- An array that is full but for one slot doubles now; the rest is for later. -/
theorem answersFor_grow
    {cap total : Nat} (positive : 0 < cap) (reached : cap ≤ total)
    (answer : Bool) (later : List Bool) :
    answersFor cap total (answer :: later) = answer :: answersFor (cap * 2) total later := by
  have twice : 2 ≤ 2 * total / cap := by
    rw [Nat.le_div_iff_mul_le positive]
    omega
  rw [answersFor, Nat.log2_def, if_pos twice, Nat.div_div_eq_div_mul, List.take_succ_cons,
    answersFor]

/-- No more answers are needed for the entries that have room. -/
theorem answersFor_fits
    {cap total : Nat} (fits : total < cap) (reallocs : List Bool) :
    answersFor cap total reallocs = [] := by
  have once : ¬ 2 ≤ 2 * total / cap := by
    rw [Nat.le_div_iff_mul_le (by omega)]
    omega
  rw [answersFor, Nat.log2_def, if_neg once, List.take_zero]

/-- Moving an entry leaves the final number of entries as it was. -/
theorem total_moved
    {entry : π} (passes : accept entry = true) (out rest : List π) :
    out.length + (entry :: rest).countP accept =
      (out ++ [entry]).length + rest.countP accept := by
  rw [List.countP_cons_of_pos passes, List.length_append, List.length_singleton]
  omega

/-- Without a refusal every entry is looked at, and those that pass are moved. -/
theorem stealLoop_done
    (entries : List π) {passed : List (Option π)} {out : List π} {cap : Nat}
    {reallocs : List Bool}
    (room : out.length < cap)
    (granted : false ∉ answersFor cap (out.length + entries.countP accept) reallocs) :
    stealLoop accept passed out cap reallocs (entries.map some ++ [none]) =
      .done (passed ++ entries.map (slotAfter accept) ++ [none])
        (out ++ entries.filter accept) := by
  induction entries generalizing passed out cap reallocs with
  | nil => simp [stealLoop]
  | cons entry rest inductionHypothesis =>
      simp only [List.map_cons, List.cons_append, stealLoop]
      cases passes : accept entry with
      | false =>
          rw [List.countP_cons_of_neg (by simp [passes])] at granted
          rw [if_neg (by simp), inductionHypothesis room granted]
          simp [slotAfter, passes]
      | true =>
          rw [total_moved passes] at granted
          have longer : (out ++ [entry]).length = out.length + 1 := by simp
          have moved : out ++ (entry :: rest).filter accept =
              (out ++ [entry]) ++ rest.filter accept := by
            simp [passes]
          have cleared : passed ++ (slotAfter accept entry :: rest.map (slotAfter accept)) =
              (passed ++ [none]) ++ rest.map (slotAfter accept) := by
            simp [slotAfter, passes]
          rw [if_pos rfl, moved, cleared]
          by_cases full : cap ≤ out.length + 1
          · rw [if_pos full]
            have roomAfter : (out ++ [entry]).length < cap * 2 := by omega
            cases reallocs with
            | nil =>
                exact inductionHypothesis roomAfter (by simp [answersFor])
            | cons answer later =>
                rw [answersFor_grow (by omega) (by omega)] at granted
                cases answer with
                | false => simp at granted
                | true =>
                    exact inductionHypothesis roomAfter
                      (fun refused => granted (List.mem_cons_of_mem _ refused))
          · rw [if_neg full]
            exact inductionHypothesis (by omega) granted

/-- A refusal meets an entry that passes, behind one that was moved. -/
theorem stealLoop_refused
    (entries : List π) {passed : List (Option π)} {out : List π} {cap : Nat}
    {reallocs : List Bool}
    (room : out.length < cap) (several : 2 ≤ cap)
    (refused : false ∈ answersFor cap (out.length + entries.countP accept) reallocs) :
    ∃ front entry back, entries = front ++ entry :: back ∧
      out ++ front.filter accept ≠ [] ∧
      stealLoop accept passed out cap reallocs (entries.map some ++ [none]) =
        .refused (passed ++ front.map (slotAfter accept) ++ (entry :: back).map some ++ [none])
          (out ++ front.filter accept) := by
  induction entries generalizing passed out cap reallocs with
  | nil =>
      rw [List.countP_nil, Nat.add_zero, answersFor_fits room] at refused
      cases refused
  | cons entry rest inductionHypothesis =>
      simp only [List.map_cons, List.cons_append, stealLoop]
      cases passes : accept entry with
      | false =>
          rw [List.countP_cons_of_neg (by simp [passes])] at refused
          obtain ⟨front, stopped, back, rfl, moved, loop⟩ :=
            @inductionHypothesis (passed ++ [some entry]) _ _ _ room several refused
          refine ⟨entry :: front, stopped, back, rfl, by simpa [passes] using moved, ?_⟩
          rw [if_neg (by simp), loop]
          simp [slotAfter, passes]
      | true =>
          rw [total_moved passes] at refused
          have longer : (out ++ [entry]).length = out.length + 1 := by simp
          -- what the rest of the loop comes to, once this entry is moved
          have goesOn : ∀ {cap later}, (out ++ [entry]).length < cap → 2 ≤ cap →
              false ∈ answersFor cap ((out ++ [entry]).length + rest.countP accept) later →
              ∃ front stopped back, entry :: rest = front ++ stopped :: back ∧
                out ++ front.filter accept ≠ [] ∧
                stealLoop accept (passed ++ [none]) (out ++ [entry]) cap later
                    (rest.map some ++ [none]) =
                  .refused (passed ++ front.map (slotAfter accept) ++
                    (stopped :: back).map some ++ [none]) (out ++ front.filter accept) := by
            intro cap later room several refused
            obtain ⟨front, stopped, back, rfl, moved, loop⟩ :=
              @inductionHypothesis (passed ++ [none]) _ _ _ room several refused
            refine ⟨entry :: front, stopped, back, rfl, by simp [passes], ?_⟩
            rw [loop]
            simp [slotAfter, passes]
          rw [if_pos rfl]
          by_cases full : cap ≤ out.length + 1
          · rw [if_pos full]
            cases reallocs with
            | nil => simp [answersFor] at refused
            | cons answer later =>
                rw [answersFor_grow (by omega) (by omega)] at refused
                cases answer with
                | false =>
                    refine ⟨[], entry, rest, rfl, ?_, by simp⟩
                    rw [List.filter_nil, List.append_nil]
                    exact List.ne_nil_of_length_pos (by omega)
                | true =>
                    exact goesOn (by omega) (by omega)
                      ((List.mem_cons.mp refused).resolve_left (by decide))
          · rw [if_neg full]
            exact goesOn (by omega) several refused

end Runs

/-! ## Accounting -/

section Accounts

variable {π : Type}

/-- A stolen entry passes the filter, one freed in front of the first stolen one does not. -/
theorem stolen_freed_subperm
    (accept : π → Bool) (entries : List π) :
    (entries.filter accept ++ entries.takeWhile fun entry => !accept entry).Subperm entries := by
  have front : (entries.takeWhile fun entry => !accept entry).Sublist
      (entries.filter fun entry => !accept entry) := by
    have rejected : (entries.takeWhile fun entry => !accept entry).filter
        (fun entry => !accept entry) = entries.takeWhile fun entry => !accept entry := by
      rw [List.filter_eq_self]
      exact fun entry member => by simpa using List.mem_takeWhile_imp member
    rw [← rejected]
    exact (List.takeWhile_sublist _).filter _
  exact ((List.Sublist.refl _).append front).subperm.trans
    (List.filter_append_perm accept entries).subperm

/-- The two lists have all entries when no rejected one stands behind an accepted one. -/
theorem stolen_freed_length
    (accept : π → Bool) (entries : List π) :
    entries.length ≤
        (entries.filter accept ++ entries.takeWhile fun entry => !accept entry).length ↔
      entries.Pairwise fun earlier later => accept earlier = true → accept later = true := by
  induction entries with
  | nil => simp
  | cons entry rest inductionHypothesis =>
      rw [List.pairwise_cons]
      cases passes : accept entry with
      | true =>
          have filtered := List.length_filter_le accept rest
          have lengths : ((entry :: rest).filter accept ++
              (entry :: rest).takeWhile fun entry => !accept entry).length =
                (rest.filter accept).length + 1 := by
            simp [passes]
          rw [lengths, List.length_cons]
          constructor
          · intro long
            have same : (rest.filter accept).length = rest.length := by omega
            have every := List.length_filter_eq_length_iff.mp same
            exact ⟨fun later member _ => every later member,
              List.pairwise_of_forall_mem_list fun _ _ later member _ => every later member⟩
          · rintro ⟨every, _⟩
            have whole : (rest.filter accept).length = rest.length :=
              List.length_filter_eq_length_iff.mpr fun later member => every later member rfl
            omega
      | false =>
          have lengths : ((entry :: rest).filter accept ++
              (entry :: rest).takeWhile fun entry => !accept entry).length =
                (rest.filter accept ++ rest.takeWhile fun entry => !accept entry).length + 1 := by
            simp [passes]
            omega
          rw [lengths, List.length_cons, Nat.add_le_add_iff_right, inductionHypothesis]
          simp

/-- The answers to `realloc` that decide, as the loop counts them. -/
theorem answersFor_start
    (count : Nat) (reallocs : List Bool) :
    reallocs.take (growths count) = answersFor 8 (([] : List π).length + count) reallocs := by
  rw [growths, answersFor, List.length_nil, Nat.zero_add, show 8 = 2 * 4 from rfl,
    Nat.mul_div_mul_left _ _ (by decide)]

/-- The normal path frees up to the first stolen slot. -/
theorem stealEntries_granted
    {accept : π → Bool} {reallocs : List Bool} {entries : List π}
    (granted : false ∉ reallocs.take (growths (entries.countP accept))) :
    stealEntries accept true reallocs entries =
      ⟨entries.filter accept, entries.takeWhile fun entry => !accept entry⟩ := by
  rw [@answersFor_start π] at granted
  have loop := @stealLoop_done π accept entries [] [] 8 reallocs (Nat.succ_pos 7) granted
  simp [stealEntries, loop, freeUntilNull_slots, freeUntilNull]

/-- After a refusal nothing from the entry on is freed for which there was no room. -/
theorem stealEntries_refused
    {accept : π → Bool} {reallocs : List Bool} {entries : List π}
    (refused : false ∈ reallocs.take (growths (entries.countP accept))) :
    ∃ front entry back, entries = front ++ entry :: back ∧
      stealEntries accept true reallocs entries =
        ⟨[], front.filter accept ++ front.takeWhile fun entry => !accept entry⟩ := by
  rw [@answersFor_start π] at refused
  obtain ⟨front, entry, back, whole, stolen, loop⟩ :=
    @stealLoop_refused π accept entries [] [] 8 reallocs (Nat.succ_pos 7) (by decide) refused
  refine ⟨front, entry, back, whole, ?_⟩
  have some : front.any accept = true := by
    rw [List.nil_append] at stolen
    obtain ⟨first, member⟩ := List.exists_mem_of_ne_nil _ stolen
    rw [List.mem_filter] at member
    exact List.any_eq_true.mpr ⟨first, member⟩
  simp only [stealEntries, loop, List.nil_append, List.append_assoc, freeUntilNull_slots, some,
    ↓reduceIte, List.append_nil]

/-- No entry is accounted for twice, and when is every one accounted for? -/
theorem stealEntries_exactlyOnce
    (accept : π → Bool) (callocOk : Bool) (reallocs : List Bool) (entries : List π) :
    let account := stealEntries accept callocOk reallocs entries
    (account.moved ++ account.freed).Subperm entries ∧
      (account.ExactlyOnce entries ↔ callocOk = false ∨
        false ∉ reallocs.take (growths (entries.countP accept)) ∧
          entries.Pairwise fun earlier later => accept earlier = true → accept later = true) := by
  cases callocOk with
  | false =>
      have all : stealEntries accept false reallocs entries = ⟨[], entries⟩ := by
        simp [stealEntries, freeUntilNull_some]
      rw [all]
      exact ⟨List.Subperm.refl _, iff_of_true (List.Perm.refl _) (.inl rfl)⟩
  | true =>
      by_cases refused : false ∈ reallocs.take (growths (entries.countP accept))
      · obtain ⟨front, entry, back, whole, account⟩ := stealEntries_refused refused
        have inFront := stolen_freed_subperm accept front
        rw [account]
        refine ⟨?_, iff_of_false ?_ ?_⟩
        · rw [whole]
          exact inFront.trans (List.sublist_append_left _ _).subperm
        · intro exactly
          have lengths : (front.filter accept ++
              front.takeWhile fun entry => !accept entry).length = entries.length :=
            exactly.length_eq
          have short := inFront.length_le
          rw [lengths, whole, List.length_append, List.length_cons] at short
          omega
        · rintro (failed | ⟨granted, _⟩)
          · cases failed
          · exact granted refused
      · have inside := stolen_freed_subperm accept entries
        rw [stealEntries_granted refused]
        refine ⟨inside, ?_⟩
        rw [← stolen_freed_length]
        constructor
        · intro exactly
          exact .inr ⟨refused, exactly.length_eq.ge⟩
        · rintro (failed | ⟨_, long⟩)
          · cases failed
          · exact inside.perm_of_length_le long

/--
The five functions account for every entry exactly when the output array cannot
be allocated at all, or no doubling of it is refused and no rejected entry comes
after an accepted one; no entry is ever freed twice or both freed and returned.
-/
theorem stealing_exactlyOnce
    {σ : Type} (os : Os σ) (sys : σ) (joins : Nat → Bool) (stealing : Stealing)
    (callocOk : Bool) (reallocs : List Bool) (names : List CStr) :
    let account := stealing.account os sys joins callocOk reallocs names
    let entries := listedEntries names
    let accepts := stealing.accepts os sys joins
    (account.moved ++ account.freed).Nodup ∧
      (account.ExactlyOnce entries ↔ callocOk = false ∨
        false ∉ reallocs.take (growths (entries.countP accepts)) ∧
          entries.Pairwise fun earlier later =>
            accepts earlier = true → accepts later = true) := by
  have result := stealEntries_exactlyOnce (stealing.accepts os sys joins) callocOk reallocs
    (listedEntries names)
  refine ⟨?_, result.2⟩
  obtain ⟨sub, perm, inside⟩ := result.1
  have distinct : (listedEntries names).Nodup := by
    apply List.Nodup.of_map Prod.snd
    rw [listedEntries, List.zipIdx_map_snd]
    exact List.nodup_range'
  exact perm.nodup_iff.mp (inside.nodup distinct)

/-- The root hub is moved; the interface behind it is neither moved nor freed. -/
theorem interface_leaks :
    ¬ (Stealing.usbEnumerate.account (bareOs : Os Unit) () (fun _ => true) true []
      ["usb1", "1-0:1.0"]).ExactlyOnce (listedEntries ["usb1", "1-0:1.0"]) := by
  decide

end Accounts

/-! ## The lists the functions return -/

section Returned

variable {σ : Type} {os : Os σ} {sys : σ}

/-- What the program that keeps the names answers, beside the loop over the slots. -/
def Stolen.Matches (outcome : Outcome (List CStr)) : Stolen HeapText → Prop
  | .done _ out => outcome = .value (out.map Prod.fst)
  | .refused _ _ => outcome = .failed
  | .fault => False

theorem stealNames_stolen
    (keep : CStr → Bool) (caller : CStr) (entries : List HeapText) (passed : List (Option HeapText))
    (out : List HeapText) (cap : Nat) (proc : Proc) :
    (stealLoop (fun entry => keep entry.1) passed out cap proc.allocations
        (entries.map some ++ [none])).Matches
      (stealNames keep caller cap (out.map Prod.fst) (entries.map Prod.fst) os sys proc).1 := by
  induction entries generalizing passed out cap proc with
  | nil =>
      simp [stealLoop, stealNames, Stolen.Matches]
  | cons entry rest inductionHypothesis =>
      have longer : out.map Prod.fst ++ [entry.1] = (out ++ [entry]).map Prod.fst := by simp
      simp only [List.map_cons, List.cons_append, stealLoop, stealNames, List.length_map, longer]
      by_cases passes : keep entry.1 = true
      · simp only [passes, ↓reduceIte]
        by_cases full : cap ≤ out.length + 1
        · simp only [full, ↓reduceIte]
          obtain ⟨errno, err, allocations, nvml, family⟩ := proc
          cases allocations with
          | nil =>
              have memory : allocateOr "out of memory" caller os sys ⟨errno, err, [], nvml, family⟩ =
                  (.value (), ⟨errno, err, [], nvml, family⟩) := allocateOr_plenty rfl _ _
              rw [GetM.bind_value memory]
              exact inductionHypothesis _ _ _ ⟨errno, err, [], nvml, family⟩
          | cons answer later =>
              cases answer with
              | false => rfl
              | true => exact inductionHypothesis _ _ _ ⟨errno, err, later, nvml, family⟩
        · simp only [full, ↓reduceIte]
          exact inductionHypothesis _ _ _ proc
      · simp only [passes]
        exact inductionHypothesis _ _ _ proc

theorem listedEntries_names
    (names : List CStr) :
    (listedEntries names).map Prod.fst = names :=
  List.zipIdx_map_fst _ _

/-- A USB, Bluetooth or wireless list is what was moved, sorted; after a refusal there is none. -/
theorem enumerateSorted_account
    {dir : CStr} {names : List CStr} {proc later : Proc} {callocOk : Bool} {reallocs : List Bool}
    (listed : utilListDir dir os sys proc = (.value names, later))
    (memory : later.allocations = callocOk :: reallocs)
    (keep : CStr → Bool) (caller : CStr) :
    let moved := (stealEntries (fun entry : HeapText => keep entry.1) callocOk reallocs
      (listedEntries names)).moved
    (enumerateSorted dir keep caller os sys proc).1 = .failed ∧ moved = [] ∨
      (enumerateSorted dir keep caller os sys proc).1 =
        .value ((moved.map Prod.fst).insertionSort fun a b => strcmpLe a b) := by
  have listing : enumerateSorted dir keep caller os sys proc = _ := GetM.bind_value listed
  rw [listing]
  obtain ⟨errno, err, allocations, nvml, family⟩ := later
  cases memory
  cases callocOk with
  | false => exact .inl ⟨rfl, rfl⟩
  | true =>
      have allocated : allocateOr "out of memory" caller os sys
          ⟨errno, err, true :: reallocs, nvml, family⟩ =
            (.value (), ⟨errno, err, reallocs, nvml, family⟩) := rfl
      rw [GetM.bind_value allocated]
      have loop := @stealNames_stolen σ os sys keep caller (listedEntries names) [] [] 8
        ⟨errno, err, reallocs, nvml, family⟩
      rw [listedEntries_names, List.map_nil] at loop
      simp only [stealEntries, ↓reduceIte]
      cases ended : stealLoop (fun entry : HeapText => keep entry.1) [] [] 8 reallocs
          ((listedEntries names).map some ++ [none]) with
      | done slots out =>
          dsimp only at loop
          rw [ended] at loop
          right
          rw [GetM.bind_value (Prod.ext loop rfl)]
          rfl
      | refused slots out =>
          dsimp only at loop
          rw [ended] at loop
          exact .inl ⟨by rw [GetM.bind_failed (Prod.ext loop rfl)], rfl⟩
      | fault =>
          dsimp only at loop
          rw [ended] at loop
          exact loop.elim

/-- With memory left an ACPI or settings list is what was moved. -/
theorem collectEntries_account
    {check : CStr → GetM σ Bool} {keep : CStr → Bool}
    (asked : ∀ entry, (check entry).Answers os sys (some (keep entry)))
    (caller : CStr) (names : List CStr) :
    (collectEntries check caller 8 [] names).Answers os sys
      (some ((stealEntries (fun entry : HeapText => keep entry.1) true []
        (listedEntries names)).moved.map Prod.fst)) := by
  have moved : (stealEntries (fun entry : HeapText => keep entry.1) true []
      (listedEntries names)).moved.map Prod.fst = names.filter keep := by
    rw [stealEntries_granted (by simp)]
    calc ((listedEntries names).filter fun entry => keep entry.1).map Prod.fst
        = ((listedEntries names).map Prod.fst).filter keep := by rw [List.filter_map]; rfl
      _ = names.filter keep := by rw [listedEntries_names]
  rw [moved]
  exact collectEntries_answers asked caller names 8 []

end Returned

end Zenctl
