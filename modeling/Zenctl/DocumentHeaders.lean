import Zenctl.TomlDocument

namespace Zenctl

open CString

/-!
# Section headers as the parser reads them

`toml_parse` copies a header up to its first bracket into a fixed buffer, quotes
and blanks included, and `profile_apply` compares the copy with the names of its
sections.  A `Plain` header names the section that comparison finds.
-/

/-- What `profile_apply` makes of a section path. -/
def sectionTarget (path : CStr) : Option Target :=
  if path = "cpu" then some .cpu
  else if path = "memory" then some .memory
  else if startsWith "storage." path then some (.storage (path.drop 8))
  else none

/-- The text of a header up to its first bracket, as much as the buffer of the path holds. -/
def codePath (text : CStr) : CStr :=
  bounded 128 (text.takeWhile (· ≠ ']'))

/-- Bare, and without blanks around it. -/
def HeaderKey.Tight (k : HeaderKey) : Prop :=
  k.key.isBare = true ∧ k.before.1 = [] ∧ k.behind.1 = []

/--
A header is written plainly when its keys are tight where they name a section of
the profile, and when only a device name follows `storage`.
-/
def DocHeader.Plain (h : DocHeader) : Prop :=
  match h.others with
  | [] => h.first.key.name = "cpu" ∨ h.first.key.name = "memory" → h.first.Tight
  | [dev] =>
      h.first.key.name = "storage" → h.first.Tight ∧ dev.Tight ∧ h.text.length ≤ 127
  | _ => h.first.key.name = "storage" → ¬ h.first.Tight

instance (k : HeaderKey) : Decidable k.Tight :=
  inferInstanceAs (Decidable (_ ∧ _ ∧ _))

instance : (h : DocHeader) → Decidable h.Plain
  | ⟨first, []⟩ =>
      inferInstanceAs (Decidable (first.key.name = "cpu" ∨ first.key.name = "memory" → first.Tight))
  | ⟨first, [dev]⟩ =>
      inferInstanceAs (Decidable (first.key.name = "storage" →
        first.Tight ∧ dev.Tight ∧ (DocHeader.text ⟨first, [dev]⟩).length ≤ 127))
  | ⟨first, _ :: _ :: _⟩ =>
      inferInstanceAs (Decidable (first.key.name = "storage" → ¬ first.Tight))

/-- The bare key a text starts with. -/
def leadingKey (text : CStr) : CStr :=
  text.takeWhile isBareKeyChar

theorem leadingKey_append
    {name rest : CStr}
    (bare : ∀ c ∈ name, isBareKeyChar c = true)
    (ends : ∀ c ∈ rest.head?, isBareKeyChar c = false) :
    leadingKey (name ++ rest) = name := by
  unfold leadingKey
  rw [List.takeWhile_append_of_pos bare]
  cases rest with
  | nil =>
      simp
  | cons c rest =>
      rw [List.takeWhile_cons_of_neg (by simp [ends c rfl]), List.append_nil]

theorem leadingKey_cut (text : CStr) :
    leadingKey (text.takeWhile (· ≠ ']')) = leadingKey text := by
  unfold leadingKey
  rw [List.takeWhile_takeWhile]
  congr 1
  funext c
  by_cases bracket : c = ']'
  · subst bracket
    decide
  · simp [bracket]

theorem sectionTarget_cases
    {text : CStr} {target : Target} (found : sectionTarget (codePath text) = some target) :
    (target = .cpu ∧ text.takeWhile (· ≠ ']') = "cpu".toList) ∨
      (target = .memory ∧ text.takeWhile (· ≠ ']') = "memory".toList) ∨
      "storage.".toList <+: text := by
  unfold sectionTarget codePath at found
  split at found
  · next path =>
      cases found
      exact .inl ⟨rfl, (bounded_eq_iff (by decide)).mp path⟩
  · split at found
    · next path =>
        cases found
        exact .inr (.inl ⟨rfl, (bounded_eq_iff (by decide)).mp path⟩)
    · split at found
      · next path =>
          refine .inr (.inr ?_)
          exact (List.isPrefixOf_iff_prefix.mp path).trans
            ((List.take_prefix _ _).trans (List.takeWhile_prefix _))
      · cases found

theorem DocKey.text_of_bare
    {key : DocKey} (bare : key.isBare = true) :
    key.text = key.name ∧ BareKey key.name := by
  cases key with
  | bare key => exact ⟨rfl, key.2⟩
  | quoted name => cases bare

theorem HeaderKey.Tight.text_eq
    {k : HeaderKey} (tight : k.Tight) :
    k.text = k.key.name := by
  obtain ⟨bare, before, behind⟩ := tight
  rw [HeaderKey.text, before, behind, (DocKey.text_of_bare bare).1, List.nil_append, List.append_nil]

theorem blank_notBare
    {c : Char} (blank : isBlank c = true) :
    isBareKeyChar c = false := by
  simp only [isBlank, Bool.or_eq_true, decide_eq_true_eq] at blank
  rcases blank with rfl | rfl <;> decide

/-- A header that starts with a bare key names it first. -/
theorem DocHeader.named
    {h : DocHeader} {name : CStr}
    (nonempty : name ≠ [])
    (leads : leadingKey h.text = name) :
    h.first.key.isBare = true ∧ h.first.before.1 = [] ∧ h.first.key.name = name := by
  obtain ⟨⟨before, key, behind⟩, others⟩ := h
  obtain ⟨blanks, blank⟩ := before
  obtain ⟨space, spaceBlank⟩ := behind
  simp only [text, HeaderKey.text] at leads ⊢
  cases blanks with
  | cons c blanks =>
      -- a blank in front of the key, and nothing is read of it
      refine absurd leads.symm ?_
      rw [List.cons_append, List.cons_append, List.cons_append, leadingKey,
        List.takeWhile_cons_of_neg (by simp [blank_notBare (blank c List.mem_cons_self)])]
      exact nonempty
  | nil =>
      cases key with
      | quoted name =>
          exact absurd leads.symm nonempty
      | bare key =>
          refine ⟨rfl, rfl, ?_⟩
          rw [← leads, List.nil_append, List.append_assoc]
          refine (leadingKey_append key.2.2 ?_).symm
          intro c first
          cases space with
          | cons d space =>
              cases Option.mem_some_iff.mp first
              exact blank_notBare (spaceBlank c List.mem_cons_self)
          | nil =>
              cases others with
              | nil =>
                  cases first
              | cons k others =>
                  cases Option.mem_some_iff.mp first
                  decide

theorem bareText_noDot
    {first : HeaderKey} (bare : first.key.isBare = true) :
    '.' ∉ first.text := by
  obtain ⟨same, key⟩ := DocKey.text_of_bare bare
  simp only [HeaderKey.text, same, List.mem_append, not_or]
  refine ⟨⟨fun member => ?_, fun member => ?_⟩, fun member => ?_⟩
  · exact absurd (first.before.2 _ member) (by decide)
  · exact absurd (key.2 _ member) (by decide)
  · exact absurd (first.behind.2 _ member) (by decide)

theorem bareText_noBracket
    {first : HeaderKey} (bare : first.key.isBare = true) :
    ∀ c ∈ first.text, c ≠ ']' := by
  obtain ⟨same, key⟩ := DocKey.text_of_bare bare
  rintro c member rfl
  simp only [HeaderKey.text, same, List.mem_append] at member
  rcases member with (member | member) | member
  · exact absurd (first.before.2 _ member) (by decide)
  · exact absurd (key.2 _ member) (by decide)
  · exact absurd (first.behind.2 _ member) (by decide)

/-- The parser sees the dot behind a bare first key. -/
theorem DocHeader.dot_mem
    {first next : HeaderKey} {others : List HeaderKey} (bare : first.key.isBare = true) :
    '.' ∈ (DocHeader.text ⟨first, next :: others⟩).takeWhile (· ≠ ']') := by
  rw [text, List.takeWhile_append_of_pos (by simpa using bareText_noBracket bare)]
  simp

/-- A header that is exactly one of two section names is written as that name. -/
theorem DocHeader.single
    {h : DocHeader} {name : CStr}
    (nonempty : name ≠ [])
    (bareName : leadingKey name = name)
    (noDot : '.' ∉ name)
    (read : h.text.takeWhile (· ≠ ']') = name) :
    h.others = [] ∧ h.first.key.name = name := by
  have leads : leadingKey h.text = name := by
    rw [← leadingKey_cut, read, bareName]
  obtain ⟨bare, -, named⟩ := named nonempty leads
  obtain ⟨first, others⟩ := h
  cases others with
  | nil =>
      exact ⟨rfl, named⟩
  | cons next others =>
      exact absurd (read ▸ dot_mem bare) noDot

/-- A header the parser takes for a device's starts with the bare key `storage` and a dot. -/
theorem DocHeader.device
    {h : DocHeader} (read : "storage.".toList <+: h.text) :
    h.others ≠ [] ∧ h.first.Tight ∧ h.first.key.name = "storage".toList := by
  have leads : leadingKey h.text = "storage".toList := by
    obtain ⟨rest, same⟩ := read
    rw [← same, show "storage.".toList ++ rest = "storage".toList ++ '.' :: rest from rfl]
    exact leadingKey_append (List.all_eq_true.mp rfl) (by rintro c ⟨⟩; decide)
  obtain ⟨bare, before, named⟩ := named (by decide) leads
  obtain ⟨first, others⟩ := h
  have shape : first.text = "storage".toList ++ first.behind.1 := by
    rw [HeaderKey.text, before, (DocKey.text_of_bare bare).1, named, List.nil_append]
  cases others with
  | nil =>
      refine absurd (read.subset (show '.' ∈ "storage.".toList by decide)) ?_
      simpa [text] using bareText_noDot bare
  | cons next others =>
      refine ⟨List.cons_ne_nil _ _, ⟨bare, before, ?_⟩, named⟩
      -- what follows the name is the dot, not a blank
      obtain ⟨rest, same⟩ := read
      rw [text, shape, show "storage.".toList ++ rest = "storage".toList ++ '.' :: rest from rfl,
        List.append_assoc] at same
      cases space : first.behind.1 with
      | nil =>
          rfl
      | cons c space' =>
          rw [space] at same
          have dot : '.' = c := (List.cons.inj (List.append_cancel_left same)).1
          have blank := first.behind.2 c (by simp [space])
          rw [← dot] at blank
          exact absurd blank (by decide)

/-- `[cpu]` and `[memory]`. -/
def DocHeader.IsSingle (h : DocHeader) : Prop :=
  h.others = [] ∧ (h.first.key.name = "cpu".toList ∨ h.first.key.name = "memory".toList)

/-- `[storage.<dev>]`. -/
def DocHeader.IsDevice (h : DocHeader) : Prop :=
  ∃ dev, h.others = [dev] ∧ h.first.key.name = "storage".toList

theorem DocHeader.target_none
    {h : DocHeader} (notSingle : ¬ h.IsSingle) (notDevice : ¬ h.IsDevice) :
    h.target = none := by
  obtain ⟨first, others⟩ := h
  match others with
  | [] =>
      have notCpu : first.key.name ≠ "cpu".toList := fun named => notSingle ⟨rfl, .inl named⟩
      have notMemory : first.key.name ≠ "memory".toList := fun named => notSingle ⟨rfl, .inr named⟩
      exact (if_neg notCpu).trans (if_neg notMemory)
  | [dev] =>
      exact if_neg fun named => notDevice ⟨dev, rfl, named⟩
  | _ :: _ :: _ =>
      rfl

theorem DocHeader.Plain.single_eq
    {h : DocHeader} (plain : h.Plain) (isSingle : h.IsSingle) :
    sectionTarget (codePath h.text) = h.target := by
  obtain ⟨first, others⟩ := h
  obtain ⟨rfl, named⟩ := isSingle
  have tight := plain named
  have written : text ⟨first, []⟩ = first.key.name := by simp [text, tight.text_eq]
  simp only [written, target, keys, List.map_cons, List.map_nil]
  rcases named with named | named <;> (simp only at named; rw [named]; decide)

theorem DocHeader.Plain.device_eq
    {h : DocHeader} (plain : h.Plain) (isDevice : h.IsDevice) :
    sectionTarget (codePath h.text) = h.target := by
  obtain ⟨first, others⟩ := h
  obtain ⟨dev, rfl, named⟩ := isDevice
  obtain ⟨tight, devTight, fits⟩ := plain named
  have written : text ⟨first, [dev]⟩ = "storage.".toList ++ dev.key.name := by
    simp only at named
    simp only [text, tight.text_eq, devTight.text_eq, named, List.flatMap_cons, List.flatMap_nil,
      List.append_nil]
    rfl
  have devBare := (DocKey.text_of_bare devTight.1).2
  have noBracket : ∀ c ∈ "storage.".toList ++ dev.key.name, c ≠ ']' := by
    rintro c member rfl
    rcases List.mem_append.mp member with inName | inDev
    · exact absurd inName (by decide)
    · exact absurd (devBare.2 _ inDev) (by decide)
  have path : codePath (text ⟨first, [dev]⟩) = "storage.".toList ++ dev.key.name := by
    rw [codePath, written, List.takeWhile_eq_self_iff.mpr (by simpa using noBracket),
      bounded_eq_self (by rw [← written]; omega)]
  have denoted : target ⟨first, [dev]⟩ = some (.storage dev.key.name) := if_pos named
  rw [path, denoted]
  simp [sectionTarget, startsWith]

/-- The parser's section is the one a plain header names. -/
theorem DocHeader.Plain.sectionTarget_eq
    {h : DocHeader} (plain : h.Plain) :
    sectionTarget (codePath h.text) = h.target := by
  by_cases isDevice : h.IsDevice
  · exact plain.device_eq isDevice
  by_cases isSingle : h.IsSingle
  · exact plain.single_eq isSingle
  rw [target_none isSingle isDevice]
  cases found : sectionTarget (codePath h.text) with
  | none =>
      rfl
  | some target =>
      -- the parser knows the section, so the header would have to name it
      exfalso
      rcases sectionTarget_cases found with ⟨-, read⟩ | ⟨-, read⟩ | read
      · obtain ⟨only, named⟩ := single (by decide) (by decide) (by decide) read
        exact isSingle ⟨only, .inl named⟩
      · obtain ⟨only, named⟩ := single (by decide) (by decide) (by decide) read
        exact isSingle ⟨only, .inr named⟩
      · obtain ⟨some, tight, named⟩ := device read
        obtain ⟨first, others⟩ := h
        match others with
        | [] => exact some rfl
        | [dev] => exact isDevice ⟨dev, rfl, named⟩
        | _ :: _ :: _ => exact plain named tight

end Zenctl
