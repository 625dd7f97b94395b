import Zenctl.EfiVariables
import Zenctl.NameOrder

namespace Zenctl

open CString

/-!
# The entries a directory is listed for

The USB listing documents its names as `usbN` or `N-P[.Q.R]`.  Its scanner keeps
one bit, whether a separator came last, and takes dashes and dots for the same.
-/

variable {σ : Type}

/-! ## The documented names -/

/-- One or more decimal digits. -/
abbrev Digits := { text : CStr // text ≠ [] ∧ ∀ c ∈ text, isDigit c = true }

/-- A root hub, or the port path of a device on a bus. -/
inductive UsbEntry where
  | rootHub (bus : Digits)
  | device (bus port : Digits) (further : List Digits)

def UsbEntry.name : UsbEntry → CStr
  | rootHub bus => "usb".toList ++ bus.1
  | device bus port further =>
      bus.1 ++ '-' :: (port.1 ++ further.flatMap fun next => '.' :: next.1)

/-- A USB device entry of the documented form. -/
def IsUsbEntry (name : CStr) : Prop :=
  ∃ entry : UsbEntry, entry.name = name

/-! ## What the scanner takes -/

/-- What the scanner takes for a separator. -/
abbrev Separator := { c : Char // c = '-' ∨ c = '.' }

/-- The rest of a name behind a group of digits. -/
def linksName (links : List (Separator × Digits)) : CStr :=
  links.flatMap fun link => link.1.1 :: link.2.1

/-- Groups of digits with one separator between any two. -/
structure DigitChain where
  first : Digits
  links : List (Separator × Digits)

namespace DigitChain

def name (chain : DigitChain) : CStr :=
  chain.first.1 ++ linksName chain.links

/-- The separators in their order. -/
def separators (chain : DigitChain) : List Char :=
  chain.links.map fun link => link.1.1

end DigitChain

/-- Where a name is such a chain, a dash comes first and only dots come after it. -/
def DashFirst (name : CStr) : Prop :=
  ∀ chain : DigitChain, chain.name = name → ∃ dots, chain.separators = '-' :: List.replicate dots '.'

theorem separator_not_digit (separator : Separator) :
    isDigit separator.1 = false := by
  rcases separator with ⟨c, rfl | rfl⟩ <;> rfl

/-- The first byte is a digit of the group in front, or the separator behind no group. -/
theorem linksName_head
    {lead : CStr} (digits : ∀ c ∈ lead, isDigit c = true) {links : List (Separator × Digits)}
    {c : Char} {rest : CStr} (split : c :: rest = lead ++ linksName links) :
    (∃ others, lead = c :: others ∧ rest = others ++ linksName links) ∨
      ∃ separator group further, links = (separator, group) :: further ∧ c = separator.1 ∧
        rest = group.1 ++ linksName further := by
  cases lead with
  | cons d others =>
      obtain ⟨rfl, same⟩ := List.cons.inj split
      exact .inl ⟨others, rfl, same⟩
  | nil =>
      cases links with
      | nil => cases split
      | cons link further =>
          obtain ⟨separator, group⟩ := link
          obtain ⟨same, behind⟩ := List.cons.inj split
          exact .inr ⟨separator, group, further, rfl, same, behind⟩

/-- The scan ends well on groups of digits; behind a separator the first one is not empty. -/
theorem usbSegments_iff (text : CStr) :
    (usbSegments false text = true ↔
      ∃ lead links, (∀ c ∈ lead, isDigit c = true) ∧ text = lead ++ linksName links) ∧
      (usbSegments true text = true ↔
        ∃ (lead : Digits) (links : _), text = lead.1 ++ linksName links) := by
  induction text with
  | nil =>
      refine ⟨⟨fun _ => ⟨[], [], nofun, rfl⟩, fun _ => rfl⟩, nofun, ?_⟩
      rintro ⟨lead, links, split⟩
      exact absurd (List.append_eq_nil_iff.mp split.symm).1 lead.2.1
  | cons c rest inductionHypothesis =>
      obtain ⟨afterDigit, afterSeparator⟩ := inductionHypothesis
      by_cases digit : isDigit c = true
      · -- a digit goes to the group in front
        have goesOn : ∀ last, usbSegments last (c :: rest) = usbSegments false rest := by
          intro last
          rw [usbSegments, if_pos digit]
        rw [goesOn, goesOn, afterDigit]
        have grown : (∃ lead links, (∀ c ∈ lead, isDigit c = true) ∧
            rest = lead ++ linksName links) →
              ∃ (lead : Digits) (links : _), c :: rest = lead.1 ++ linksName links := by
          rintro ⟨lead, links, digits, rfl⟩
          exact ⟨⟨c :: lead, List.cons_ne_nil _ _, List.forall_mem_cons.mpr ⟨digit, digits⟩⟩,
            links, rfl⟩
        have shrunk : ∀ lead links, (∀ c ∈ lead, isDigit c = true) →
            c :: rest = lead ++ linksName links →
              ∃ lead links, (∀ c ∈ lead, isDigit c = true) ∧ rest = lead ++ linksName links := by
          intro lead links digits split
          rcases linksName_head digits split with ⟨others, rfl, same⟩ | ⟨separator, _, _, _, rfl, _⟩
          · exact ⟨others, links, fun d member => digits d (List.mem_cons_of_mem _ member), same⟩
          · rw [separator_not_digit] at digit
            cases digit
        constructor
        · constructor
          · intro found
            obtain ⟨lead, links, split⟩ := grown found
            exact ⟨lead.1, links, lead.2.2, split⟩
          · rintro ⟨lead, links, digits, split⟩
            exact shrunk lead links digits split
        · exact ⟨grown, fun ⟨lead, links, split⟩ => shrunk lead.1 links lead.2.2 split⟩
      · -- anything else must be a separator behind a digit
        have byGroup : ∀ lead links, (∀ c ∈ lead, isDigit c = true) →
            c :: rest = lead ++ linksName links → lead = [] ∧ (c = '-' ∨ c = '.') ∧
              ∃ (group : Digits) (further : _), rest = group.1 ++ linksName further := by
          intro lead links digits split
          rcases linksName_head digits split with
            ⟨others, rfl, _⟩ | ⟨separator, group, further, _, rfl, behind⟩
          · exact absurd (digits c List.mem_cons_self) digit
          · refine ⟨?_, separator.2, group, further, behind⟩
            cases lead with
            | nil => rfl
            | cons d others =>
                obtain ⟨rfl, _⟩ := List.cons.inj split
                exact absurd (digits _ List.mem_cons_self) digit
        constructor
        · rw [usbSegments, if_neg digit]
          constructor
          · intro scanned
            split at scanned
            · next separator =>
                obtain ⟨group, further, rfl⟩ := afterSeparator.mp scanned
                exact ⟨[], (⟨c, separator⟩, group) :: further, nofun, rfl⟩
            · cases scanned
          · rintro ⟨lead, links, digits, split⟩
            obtain ⟨_, separator, behind⟩ := byGroup lead links digits split
            rw [if_pos separator]
            exact afterSeparator.mpr behind
        · rw [usbSegments, if_neg digit]
          constructor
          · intro scanned
            split at scanned <;> cases scanned
          · rintro ⟨lead, links, split⟩
            exact absurd (byGroup lead.1 links lead.2.2 split).1 lead.2.1

theorem startsWithDigit_cons (c : Char) (rest : CStr) :
    startsWithDigit (c :: rest) = isDigit c := rfl

theorem UsbEntry.plain (bus : Digits) {c : Char} (member : c ∈ "usb".toList ++ bus.1) :
    isAlnum c = true := by
  rcases List.mem_append.mp member with letter | digit
  · exact List.all_eq_true.mp (show "usb".toList.all isAlnum = true by decide) c letter
  · rw [isAlnum, bus.2.2 c digit, Bool.or_true]

theorem DigitChain.plain (chain : DigitChain) {c : Char} (member : c ∈ chain.name) :
    isDigit c = true ∨ c = '-' ∨ c = '.' := by
  rcases List.mem_append.mp member with digit | behind
  · exact .inl (chain.first.2.2 c digit)
  · obtain ⟨⟨separator, group⟩, _, inside⟩ := List.mem_flatMap.mp behind
    rcases List.mem_cons.mp inside with rfl | digit
    · exact .inr separator.2
    · exact .inl (group.2.2 c digit)

theorem DigitChain.starts (chain : DigitChain) :
    ∃ c rest, chain.name = c :: rest ∧ isDigit c = true := by
  obtain ⟨⟨first, nonempty, digits⟩, links⟩ := chain
  cases first with
  | nil => exact absurd rfl nonempty
  | cons c rest => exact ⟨c, rest ++ linksName links, rfl, digits c List.mem_cons_self⟩

/-- The separators are what is left of a chain without its digits. -/
theorem DigitChain.separators_eq (chain : DigitChain) :
    chain.separators = chain.name.filter fun c => !isDigit c := by
  have group : ∀ digits : Digits, digits.1.filter (fun c => !isDigit c) = [] := by
    intro digits
    refine List.filter_eq_nil_iff.mpr fun c member => ?_
    rw [digits.2.2 c member]
    exact Bool.false_ne_true
  obtain ⟨first, links⟩ := chain
  rw [separators, name, List.filter_append, group, List.nil_append]
  induction links with
  | nil => rfl
  | cons link further inductionHypothesis =>
      rw [linksName, List.flatMap_cons, List.cons_append, List.filter_cons, separator_not_digit,
        List.filter_append, group, List.map_cons]
      exact congrArg (link.1.1 :: ·) inductionHypothesis

theorem isUsbDeviceEntry_iff (name : CStr) :
    isUsbDeviceEntry name = true ↔
      (∃ bus : Digits, name = "usb".toList ++ bus.1) ∨ ∃ chain : DigitChain, chain.name = name := by
  unfold isUsbDeviceEntry
  constructor
  · intro kept
    split at kept
    · cases kept
    · split at kept
      · next hub =>
          obtain ⟨starts, number⟩ := Bool.and_eq_true_iff.mp hub
          obtain ⟨behind, rfl⟩ := List.isPrefixOf_iff_prefix.mp starts
          cases behind with
          | nil => cases number
          | cons c rest =>
              refine .inl ⟨⟨c :: rest, List.cons_ne_nil _ _, ?_⟩, rfl⟩
              exact List.forall_mem_cons.mpr ⟨number, List.all_eq_true.mp kept⟩
      · split at kept
        · next starts =>
            obtain ⟨lead, links, digits, rfl⟩ := (usbSegments_iff name).1.mp kept
            have nonempty : lead ≠ [] := by
              rintro rfl
              cases links with
              | nil => cases starts
              | cons link further =>
                  rw [List.nil_append, linksName, List.flatMap_cons, List.cons_append,
                    startsWithDigit_cons, separator_not_digit] at starts
                  cases starts
            exact .inr ⟨⟨⟨lead, nonempty, digits⟩, links⟩, rfl⟩
        · cases kept
  · rintro (⟨bus, rfl⟩ | ⟨chain, rfl⟩)
    · have noColon : ¬("usb".toList ++ bus.1 = [] ∨ ':' ∈ "usb".toList ++ bus.1) := by
        rintro (empty | colon)
        · cases empty
        · exact absurd (UsbEntry.plain bus colon) (by decide)
      rw [if_neg noColon]
      obtain ⟨digits, nonempty, all⟩ := bus
      cases digits with
      | nil => exact absurd rfl nonempty
      | cons c rest =>
          obtain ⟨digit, others⟩ := List.forall_mem_cons.mp all
          exact (if_pos (Bool.and_eq_true_iff.mpr ⟨rfl, digit⟩)).trans (List.all_eq_true.mpr others)
    · obtain ⟨c, rest, shape, digit⟩ := chain.starts
      have noColon : ¬(chain.name = [] ∨ ':' ∈ chain.name) := by
        rintro (empty | colon)
        · rw [shape] at empty
          cases empty
        · exact absurd (chain.plain colon) (by decide)
      have noHub : ¬(startsWith "usb" chain.name && startsWithDigit (chain.name.drop 3)) = true := by
        intro hub
        obtain ⟨behind, same⟩ := List.isPrefixOf_iff_prefix.mp (Bool.and_eq_true_iff.mp hub).1
        rw [shape] at same
        obtain ⟨rfl, _⟩ := List.cons.inj same
        cases digit
      have starts : startsWithDigit chain.name = true := by
        rw [shape]
        exact digit
      rw [if_neg noColon, if_neg noHub, if_pos starts]
      exact (usbSegments_iff chain.name).1.mpr ⟨chain.first.1, chain.links, chain.first.2.2, rfl⟩

/-- The chain a device's name is. -/
def UsbEntry.chain (bus port : Digits) (further : List Digits) : DigitChain :=
  ⟨bus, (⟨'-', .inl rfl⟩, port) :: further.map fun next => (⟨'.', .inr rfl⟩, next)⟩

theorem UsbEntry.chain_name (bus port : Digits) (further : List Digits) :
    (UsbEntry.chain bus port further).name = (UsbEntry.device bus port further).name := by
  rw [DigitChain.name, chain, linksName, List.flatMap_cons, List.flatMap_map]
  rfl

theorem UsbEntry.chain_separators (bus port : Digits) (further : List Digits) :
    (UsbEntry.chain bus port further).separators = '-' :: List.replicate further.length '.' := by
  rw [DigitChain.separators, chain, List.map_cons, List.map_map]
  exact congrArg ('-' :: ·) List.map_const'

/-- A chain with these separators is a device's. -/
theorem DigitChain.device
    (chain : DigitChain) {dots : Nat}
    (separators : chain.separators = '-' :: List.replicate dots '.') :
    ∃ bus port further, (UsbEntry.device bus port further).name = chain.name := by
  obtain ⟨first, links⟩ := chain
  cases links with
  | nil => cases separators
  | cons link further =>
      obtain ⟨⟨c, known⟩, port⟩ := link
      obtain ⟨rfl, behind⟩ := List.cons.inj separators
      have dotted : ∀ link ∈ further, link.1.1 = '.' := fun link member =>
        List.eq_of_mem_replicate (behind ▸ List.mem_map_of_mem member)
      refine ⟨first, port, further.map Prod.snd, ?_⟩
      rw [UsbEntry.name, name, linksName, List.flatMap_cons, List.flatMap_map]
      refine congrArg (fun rest => first.1 ++ '-' :: (port.1 ++ rest)) ?_
      exact List.flatMap_congr fun link member => by rw [dotted link member]

theorem usbEntry_asDocumented_iff (name : CStr) :
    (isUsbDeviceEntry name = true ↔ IsUsbEntry name) ↔ DashFirst name := by
  constructor
  · rintro asDocumented chain rfl
    obtain ⟨entry, same⟩ := asDocumented.mp ((isUsbDeviceEntry_iff _).mpr (.inr ⟨chain, rfl⟩))
    cases entry with
    | rootHub bus =>
        -- a chain does not start with a letter
        obtain ⟨c, rest, shape, digit⟩ := chain.starts
        rw [shape] at same
        obtain ⟨rfl, _⟩ := List.cons.inj same
        cases digit
    | device bus port further =>
        refine ⟨further.length, ?_⟩
        rw [chain.separators_eq, ← same, ← UsbEntry.chain_name, ← DigitChain.separators_eq,
          UsbEntry.chain_separators]
  · intro dashFirst
    rw [isUsbDeviceEntry_iff]
    constructor
    · rintro (⟨bus, rfl⟩ | ⟨chain, rfl⟩)
      · exact ⟨.rootHub bus, rfl⟩
      · obtain ⟨dots, separators⟩ := dashFirst chain rfl
        obtain ⟨bus, port, further, same⟩ := chain.device separators
        exact ⟨.device bus port further, same⟩
    · rintro ⟨entry, rfl⟩
      cases entry with
      | rootHub bus => exact .inl ⟨bus, rfl⟩
      | device bus port further => exact .inr ⟨UsbEntry.chain bus port further, UsbEntry.chain_name ..⟩

/-- A number alone is taken for a device. -/
theorem usbEntry_number :
    ¬∀ name, isUsbDeviceEntry name = true ↔ IsUsbEntry name := by
  intro documented
  obtain ⟨entry, same⟩ := (documented "1").mp (by decide)
  cases entry with
  | rootHub bus =>
      obtain ⟨wrong, _⟩ := List.cons.inj same
      cases wrong
  | device bus port further =>
      have dash : '-' ∈ (UsbEntry.device bus port further).name :=
        List.mem_append_right _ List.mem_cons_self
      rw [same] at dash
      exact absurd dash (by decide)

/-! ## The listings -/

inductive DeviceListing where
  | usb
  | bt
  | wireless
  deriving Repr, DecidableEq

namespace DeviceListing

def dir : DeviceListing → CStr
  | usb => usbSysfsBase
  | bt => btSysfsBase
  | wireless => wlSysfsBase

def filter : DeviceListing → CStr → Bool
  | usb => isUsbDeviceEntry
  | bt => isNumbered "hci"
  | wireless => isNumbered "phy"

def enumerate : DeviceListing → GetM σ (List CStr)
  | usb => zenctlUsbEnumerate
  | bt => zenctlBtEnumerate
  | wireless => zenctlWirelessEnumerate

/-- The check of the call that opens such an entry. -/
def validator : DeviceListing → CStr → Bool
  | usb => devPathValid
  | bt => isNumbered "hci"
  | wireless => isNumbered "phy"

end DeviceListing

section Listing

variable {os : Os σ} {sys : σ} {proc : Proc}

/-- Growing loses and repeats nothing. -/
theorem stealNames_run
    (memory : proc.allocations = []) (keep : CStr → Bool) (caller : CStr) (names : List CStr) :
    ∀ capacity kept, stealNames keep caller capacity kept names os sys proc =
      (.value (kept ++ names.filter keep), proc) := by
  induction names with
  | nil =>
      intro capacity kept
      rw [List.filter_nil, List.append_nil]
      rfl
  | cons name rest inductionHypothesis =>
      intro capacity kept
      rw [stealNames, List.filter_cons]
      split
      · have goes : ∀ size, stealNames keep caller size (kept ++ [name]) rest os sys proc =
            (.value (kept ++ name :: rest.filter keep), proc) := by
          intro size
          rw [inductionHypothesis, List.append_assoc, List.singleton_append]
        split
        · exact (GetM.bind_value (allocateOr_plenty memory _ _)).trans (goes _)
        · exact goes _
      · exact inductionHypothesis capacity kept

theorem utilListDir_run
    {dir : CStr} {names : List CStr}
    (listed : os.listDir sys dir = .ok names)
    (memory : proc.allocations = []) :
    utilListDir dir os sys proc =
      (.value (names.filter fun name => ¬(name = ".".toList ∨ name = "..".toList)), proc) := by
  have opened : sysCallOr (fun os sys => os.listDir sys dir) none dir os sys proc =
      (.value names, proc) := GetM.bind_value (sysCall_ok listed)
  refine (GetM.bind_value opened).trans ?_
  refine (GetM.bind_value (allocateOr_plenty memory _ _)).trans ?_
  exact copyNames_run os sys memory "out of memory" dir names 16 []

/-- A filter that passes no dot entry. -/
theorem enumerateSorted_run
    {dir : CStr} {keep : CStr → Bool} {names : List CStr}
    (listed : os.listDir sys dir = .ok names)
    (noDots : keep ".".toList = false ∧ keep "..".toList = false)
    (caller : CStr)
    (memory : proc.allocations = []) :
    enumerateSorted dir keep caller os sys proc = (.value (sortNames (names.filter keep)), proc) := by
  have filtered : (names.filter fun name => ¬(name = ".".toList ∨ name = "..".toList)).filter keep =
      names.filter keep := by
    rw [List.filter_filter]
    refine List.filter_congr fun name _ => ?_
    by_cases dots : name = ".".toList ∨ name = "..".toList
    · have dropped : keep name = false := by
        rcases dots with rfl | rfl
        · exact noDots.1
        · exact noDots.2
      rw [dropped, Bool.false_and]
    · rw [decide_eq_true dots, Bool.and_true]
  refine (GetM.bind_value (utilListDir_run listed memory)).trans ?_
  refine (GetM.bind_value (allocateOr_plenty memory _ _)).trans ?_
  refine (GetM.bind_value (stealNames_run memory keep caller _ 8 [])).trans ?_
  rw [List.nil_append, filtered]
  rfl

namespace DeviceListing

theorem enumerate_run
    (listing : DeviceListing) {names : List CStr}
    (listed : os.listDir sys listing.dir = .ok names)
    (memory : proc.allocations = []) :
    listing.enumerate os sys proc = (.value (sortNames (names.filter listing.filter)), proc) := by
  cases listing <;> exact enumerateSorted_run listed (by decide) _ memory

theorem filter_openable
    (listing : DeviceListing) {name : CStr}
    (kept : listing.filter name = true) :
    listing.validator name = true := by
  cases listing with
  | bt => exact kept
  | wireless => exact kept
  | usb =>
      change devPathValid name = true
      have valid : name ≠ [] → (∀ c ∈ name, isAlnum c = true ∨ c = '-' ∨ c = '.') →
          (startsWithDigit name || (startsWith "usb" name && startsWithDigit (name.drop 3))) = true →
            devPathValid name = true := by
        intro nonempty plain starts
        rw [devPathValid, decide_eq_true nonempty, Bool.true_and, starts, Bool.and_true,
          List.all_eq_true]
        intro c member
        simpa only [Bool.or_eq_true, decide_eq_true_eq, or_assoc] using plain c member
      rcases (isUsbDeviceEntry_iff name).mp kept with ⟨bus, rfl⟩ | ⟨chain, rfl⟩
      · refine valid (List.cons_ne_nil _ _) (fun c member => .inl (UsbEntry.plain bus member)) ?_
        obtain ⟨digits, nonempty, all⟩ := bus
        cases digits with
        | nil => exact absurd rfl nonempty
        | cons c rest => exact Bool.or_eq_true_iff.mpr (.inr (all c List.mem_cons_self))
      · obtain ⟨c, rest, shape, digit⟩ := chain.starts
        refine valid (shape ▸ List.cons_ne_nil c rest) (fun d member => ?_) ?_
        · exact (chain.plain member).imp_left fun digit => by rw [isAlnum, digit, Bool.or_true]
        · rw [shape, startsWithDigit_cons, digit, Bool.true_or]

theorem enumerate_sorted
    (listing : DeviceListing) {names : List CStr}
    (distinct : names.Nodup)
    (listed : os.listDir sys listing.dir = .ok names)
    (memory : proc.allocations = []) :
    ∃ found, listing.enumerate os sys proc = (.value found, proc) ∧
      (∀ name, name ∈ found ↔ name ∈ names ∧ listing.filter name = true) ∧
      found.Nodup ∧ found.Pairwise (strcmpLe · · = true) ∧
      (∀ name ∈ found, listing.validator name = true) ∧
      ∀ (other : Os σ) (elsewhere : σ) (later : Proc) (shuffled : List CStr),
        shuffled.Perm names → other.listDir elsewhere listing.dir = .ok shuffled →
          later.allocations = [] → listing.enumerate other elsewhere later = (.value found, later) := by
  have members : ∀ name, name ∈ sortNames (names.filter listing.filter) ↔
      name ∈ names ∧ listing.filter name = true := by
    intro name
    rw [(sortNames_perm _).mem_iff, List.mem_filter]
  refine ⟨_, listing.enumerate_run listed memory, members, ?_, sortNames_pairwise _, ?_, ?_⟩
  · exact (sortNames_perm _).nodup_iff.mpr (distinct.filter _)
  · exact fun name member => listing.filter_openable ((members name).mp member).2
  · intro other elsewhere later shuffled same otherListed plenty
    rw [← sortNames_eq_of_perm (same.filter listing.filter)]
    exact listing.enumerate_run otherListed plenty

end DeviceListing

/-- A machine with a hub, two devices on it, an interface and a file of its own. -/
def hubOs : Os Unit :=
  { bareOs with
    listDir := fun _ _ => .ok [".".toList, "..".toList, "usb1".toList, "1-1:1.0".toList,
      "1-10".toList, "1-1.2".toList] }

theorem enumerate_hub :
    ∃ found, DeviceListing.usb.enumerate hubOs () freshProc = (.value found, freshProc) ∧
      "1-10".toList ∈ found ∧ "1-1:1.0".toList ∉ found ∧ ".".toList ∉ found := by
  obtain ⟨found, run, members, -⟩ :=
    @DeviceListing.enumerate_sorted Unit hubOs () freshProc .usb _ (by decide) rfl rfl
  exact ⟨found, run, (members _).mpr (by decide), fun kept => absurd ((members _).mp kept).2
    (by decide), fun kept => absurd ((members _).mp kept).2 (by decide)⟩

end Listing

end Zenctl
