import Zenctl.TomlReader
import Zenctl.Profile

namespace Zenctl

open CString

/-!
# The documents of a profile

The TOML subset a profile is written in: dotted section headers of bare and
quoted keys, settings whose value is a string or a decimal integer, blank lines
and comments.  A document is its syntax; `text` is what stands in the file and
`assignments` what it says: in file order every setting with the section it
stands in.
-/

/-! ## Syntax -/

/-- A character of a comment or a string: no control character but the tab. -/
def isDocumentChar (c : Char) : Bool :=
  c = '\t' || (' ' ≤ c && c ≠ '\x7f')

/-- A character of a string that has no escapes. -/
def isBasicChar (c : Char) : Bool :=
  isDocumentChar c && c ≠ '"' && c ≠ '\\'

/-- Blanks and tabs, possibly none. -/
abbrev Blanks :=
  { text : CStr // ∀ c ∈ text, isBlank c = true }

/-- What stands behind the `#` of a comment. -/
abbrev CommentText :=
  { text : CStr // ∀ c ∈ text, isDocumentChar c = true }

/-- What stands between two quotes. -/
abbrev BasicText :=
  { text : CStr // ∀ c ∈ text, isBasicChar c = true }

def noBlanks : Blanks := ⟨[], nofun⟩

def oneBlank : Blanks := ⟨[' '], List.all_eq_true.mp rfl⟩

/-- A key, bare or in quotes. -/
inductive DocKey where
  | bare (key : { name : CStr // BareKey name })
  | quoted (name : BasicText)

def DocKey.name : DocKey → CStr
  | bare key => key.1
  | quoted name => name.1

def DocKey.text : DocKey → CStr
  | bare key => key.1
  | quoted name => '"' :: (name.1 ++ ['"'])

def DocKey.isBare : DocKey → Bool
  | bare _ => true
  | quoted _ => false

/-- A sign, or none. -/
inductive DocSign where
  | unsigned | plus | minus
  deriving Repr, DecidableEq

def DocSign.text : DocSign → CStr
  | unsigned => []
  | plus => ['+']
  | minus => ['-']

/-- A decimal integer; an underscore may stand between two of its digits. -/
structure DocInt where
  sign : DocSign
  magnitude : Nat
  digits : CStr
  written : digits.filter (· ≠ '_') = showNat magnitude
  separated : digits.head? ≠ some '_' ∧ digits.getLast? ≠ some '_' ∧ ¬ ['_', '_'] <:+: digits
  fits : int64Min ≤ (if sign = .minus then -(magnitude : Int) else magnitude) ∧
    (if sign = .minus then -(magnitude : Int) else magnitude) ≤ int64Max

def DocInt.value (n : DocInt) : Int :=
  if n.sign = .minus then -(n.magnitude : Int) else n.magnitude

def DocInt.text (n : DocInt) : CStr :=
  n.sign.text ++ n.digits

inductive DocValue where
  | string (text : BasicText)
  | integer (n : DocInt)

def DocValue.text : DocValue → CStr
  | string text => '"' :: (text.1 ++ ['"'])
  | integer n => n.text

/-- One key of a section header, with the blanks around it. -/
structure HeaderKey where
  before : Blanks
  key : DocKey
  behind : Blanks

def HeaderKey.text (k : HeaderKey) : CStr :=
  k.before.1 ++ k.key.text ++ k.behind.1

/-- The keys of a section header, dots between them. -/
structure DocHeader where
  first : HeaderKey
  others : List HeaderKey

def DocHeader.keys (h : DocHeader) : List HeaderKey :=
  h.first :: h.others

def DocHeader.text (h : DocHeader) : CStr :=
  h.first.text ++ h.others.flatMap fun k => '.' :: k.text

/-- A setting, with the blanks around its equals sign. -/
structure DocSetting where
  key : DocKey
  before : Blanks
  behind : Blanks
  value : DocValue

def DocSetting.text (s : DocSetting) : CStr :=
  s.key.text ++ s.before.1 ++ '=' :: (s.behind.1 ++ s.value.text)

/-- What a line says; a blank line and a comment say nothing. -/
inductive LineContent where
  | nothing
  | header (h : DocHeader)
  | setting (s : DocSetting)

def LineContent.text : LineContent → CStr
  | nothing => []
  | header h => '[' :: (h.text ++ [']'])
  | setting s => s.text

structure DocLine where
  indent : Blanks
  content : LineContent
  tail : Blanks
  comment : Option CommentText

def DocLine.commentText (l : DocLine) : CStr :=
  match l.comment with
  | none => []
  | some comment => '#' :: comment.1

def DocLine.text (l : DocLine) : CStr :=
  l.indent.1 ++ l.content.text ++ l.tail.1 ++ l.commentText

/-- A line feed, or a carriage return and a line feed. -/
inductive LineEnd where
  | lf | crlf
  deriving Repr, DecidableEq

def LineEnd.text : LineEnd → CStr
  | lf => ['\n']
  | crlf => ['\r', '\n']

/-- Lines with their ends, and what stands behind the last end. -/
structure Document where
  lines : List (DocLine × LineEnd)
  last : DocLine

def Document.text (d : Document) : List Char :=
  (d.lines.flatMap fun l => l.1.text ++ l.2.text) ++ d.last.text

/-- The lines of a document without their ends. -/
def Document.allLines (d : Document) : List DocLine :=
  d.lines.map (·.1) ++ [d.last]

/-! ## What a line is made of -/

theorem documentChar_plain
    {c : Char} (plain : isDocumentChar c = true) :
    c ≠ '\n' ∧ c ≠ '\x00' := by
  constructor <;> (rintro rfl; revert plain; decide)

theorem blank_documentChar
    {c : Char} (blank : isBlank c = true) :
    isDocumentChar c = true := by
  simp only [isBlank, Bool.or_eq_true, decide_eq_true_eq] at blank
  rcases blank with rfl | rfl <;> decide

theorem bareKeyChar_documentChar
    {c : Char} (bare : isBareKeyChar c = true) :
    isDocumentChar c = true := by
  have low : ' ' ≤ c ∧ c ≠ '\x7f' := by
    constructor
    · simp only [isBareKeyChar, isDigit, Bool.or_eq_true, Bool.and_eq_true, decide_eq_true_eq] at bare
      rcases bare with (((bare | bare) | bare) | rfl) | rfl
      · exact Char.le_trans (show ' ' ≤ '0' by decide) bare.1
      · exact Char.le_trans (show ' ' ≤ 'a' by decide) bare.1
      · exact Char.le_trans (show ' ' ≤ 'A' by decide) bare.1
      · decide
      · decide
    · rintro rfl
      revert bare
      decide
  simp [isDocumentChar, low]

theorem basicChar_plain
    {c : Char} (basic : isBasicChar c = true) :
    isDocumentChar c = true ∧ c ≠ '"' := by
  simp only [isBasicChar, Bool.and_eq_true, decide_eq_true_eq] at basic
  exact ⟨basic.1.1, basic.1.2⟩

/-- Every character of the text may stand in a document. -/
def DocumentText (text : CStr) : Prop :=
  ∀ c ∈ text, isDocumentChar c = true

namespace DocumentText

@[simp] theorem nil : DocumentText [] := nofun

@[simp] theorem append {first second : CStr} :
    DocumentText (first ++ second) ↔ DocumentText first ∧ DocumentText second := by
  simp only [DocumentText, List.mem_append, or_imp, forall_and]

@[simp] theorem cons {c : Char} {text : CStr} :
    DocumentText (c :: text) ↔ isDocumentChar c = true ∧ DocumentText text := by
  simp only [DocumentText, List.forall_mem_cons]

theorem oneLine {text : CStr} (plain : DocumentText text) : '\n' ∉ text :=
  fun member => (documentChar_plain (plain _ member)).1 rfl

theorem noNul {text : CStr} (plain : DocumentText text) : '\x00' ∉ text :=
  fun member => (documentChar_plain (plain _ member)).2 rfl

end DocumentText

theorem Blanks.documentText (blanks : Blanks) : DocumentText blanks.1 :=
  fun c member => blank_documentChar (blanks.2 c member)

theorem DocKey.documentText (key : DocKey) : DocumentText key.text := by
  cases key with
  | bare key =>
      exact fun c member => bareKeyChar_documentChar (key.2.2 c member)
  | quoted name =>
      have inside : DocumentText name.1 := fun c member => (basicChar_plain (name.2 c member)).1
      simp only [text, DocumentText.cons, DocumentText.append, inside, DocumentText.nil]
      decide

theorem DocInt.digits_cases
    (n : DocInt) {c : Char} (member : c ∈ n.digits) :
    isDigit c = true ∨ c = '_' := by
  by_cases under : c = '_'
  · exact .inr under
  · have kept : c ∈ n.digits.filter (· ≠ '_') := List.mem_filter.mpr ⟨member, by simpa using under⟩
    rw [n.written] at kept
    exact .inl ((showNat_digits n.magnitude).2 c kept)

/-- A number is made of signs, digits and underscores. -/
theorem DocInt.text_cases
    (n : DocInt) {c : Char} (member : c ∈ n.text) :
    c = '+' ∨ isBareKeyChar c = true := by
  rcases List.mem_append.mp member with inSign | inDigits
  · cases sign : n.sign with
    | unsigned =>
        rw [sign] at inSign
        cases inSign
    | plus =>
        rw [sign] at inSign
        exact .inl (List.mem_singleton.mp inSign)
    | minus =>
        rw [sign] at inSign
        exact .inr (by rw [List.mem_singleton.mp inSign]; decide)
  · rcases n.digits_cases inDigits with digit | rfl
    · exact .inr (by simp [isBareKeyChar, digit])
    · exact .inr (by decide)

theorem DocInt.text_ne_nil (n : DocInt) : n.text ≠ [] := by
  intro empty
  have noDigits : n.digits = [] := (List.append_eq_nil_iff.mp empty).2
  have := n.written
  rw [noDigits] at this
  exact (showNat_digits n.magnitude).1 this.symm

/-- No character of a number means anything else to the parser. -/
theorem DocInt.text_plain
    (n : DocInt) {c : Char} (member : c ∈ n.text) :
    isDocumentChar c = true ∧ isBlank c = false ∧ isTrailing c = false ∧ c ≠ '"' ∧ c ≠ '\'' := by
  rcases n.text_cases member with rfl | bare
  · decide
  · have plain := bareKeyChar_plain bare
    refine ⟨bareKeyChar_documentChar bare, plain.1, plain.2.1, ?_, ?_⟩ <;>
      (rintro rfl; revert bare; decide)

theorem DocValue.documentText (value : DocValue) : DocumentText value.text := by
  cases value with
  | string text =>
      have inside : DocumentText text.1 := fun c member => (basicChar_plain (text.2 c member)).1
      simp only [DocValue.text, DocumentText.cons, DocumentText.append, inside, DocumentText.nil]
      decide
  | integer n =>
      exact fun c member => (n.text_plain member).1

theorem HeaderKey.documentText (k : HeaderKey) : DocumentText k.text := by
  simp only [text, DocumentText.append]
  exact ⟨⟨k.before.documentText, k.key.documentText⟩, k.behind.documentText⟩

theorem DocHeader.documentText (h : DocHeader) : DocumentText h.text := by
  simp only [text, DocumentText.append]
  refine ⟨h.first.documentText, fun c member => ?_⟩
  obtain ⟨k, -, inKey⟩ := List.mem_flatMap.mp member
  rcases List.mem_cons.mp inKey with rfl | inText
  · decide
  · exact k.documentText c inText

theorem LineContent.documentText (content : LineContent) : DocumentText content.text := by
  cases content with
  | nothing =>
      exact DocumentText.nil
  | header h =>
      simp only [text, DocumentText.cons, DocumentText.append, h.documentText, DocumentText.nil]
      decide
  | setting s =>
      simp only [text, DocSetting.text, DocumentText.cons, DocumentText.append]
      exact ⟨⟨s.key.documentText, s.before.documentText⟩, by decide, s.behind.documentText,
        s.value.documentText⟩

theorem DocLine.commentText_documentText (l : DocLine) : DocumentText l.commentText := by
  unfold commentText
  split
  · exact DocumentText.nil
  · next comment _ =>
      exact DocumentText.cons.mpr ⟨by decide, comment.2⟩

theorem DocLine.documentText (l : DocLine) : DocumentText l.text := by
  simp only [text, DocumentText.append]
  exact ⟨⟨⟨l.indent.documentText, l.content.documentText⟩, l.tail.documentText⟩,
    l.commentText_documentText⟩

/-! ## Meaning -/

/-- Where a profile can set something. -/
inductive Target where
  | cpu
  | memory
  | storage (dev : CStr)
  deriving Repr, DecidableEq

/-- The section of that path: `cpu`, `memory` or `storage.<dev>`. -/
def targetOf : List CStr → Option Target
  | [name] =>
      if name = "cpu" then some .cpu else if name = "memory" then some .memory else none
  | [name, dev] => if name = "storage" then some (.storage dev) else none
  | _ => none

def DocHeader.target (h : DocHeader) : Option Target :=
  targetOf (h.keys.map (·.key.name))

/-- A value as a reader of the document takes it. -/
inductive Meaning where
  | string (text : CStr)
  | integer (n : Int)
  deriving Repr, DecidableEq

def DocValue.meaning : DocValue → Meaning
  | string text => .string text.1
  | integer n => .integer n.value

/-- A setting under the section it stands in; `none` outside of the three kinds of sections. -/
structure Assignment where
  target : Option Target
  key : CStr
  value : Meaning
  deriving Repr, DecidableEq

/-- The section in force behind a line. -/
def LineContent.targetAfter (current : Option Target) : LineContent → Option Target
  | header h => h.target
  | _ => current

/-- What a line assigns under the section in force. -/
def LineContent.assigns (current : Option Target) : LineContent → List Assignment
  | setting s => [⟨current, s.key.name, s.value.meaning⟩]
  | _ => []

def assignmentsFrom (current : Option Target) : List DocLine → List Assignment
  | [] => []
  | line :: rest =>
      line.content.assigns current ++ assignmentsFrom (line.content.targetAfter current) rest

/-- Everything a document assigns, in file order. -/
def Document.assignments (d : Document) : List Assignment :=
  assignmentsFrom none d.allLines

/-! ## Attempts -/

section Attempts

/-- A key of the `[cpu]` section: what is announced in a dry run, and the setter. -/
def cpuSetting (key : CStr) : Meaning → Option (CStr × (CpuHandle → Update))
  | .string text =>
      if key = "governor" then
        some ("cpu[all]: governor=".toList ++ text, fun cpu => .cpuSetGovernor cpu text)
      else none
  | .integer n =>
      if key = "freq_min_hz" then
        some ("cpu[all]: freq_min_hz=".toList ++ showInt n, fun cpu => .cpuSetFreqMin cpu n)
      else if key = "freq_max_hz" then
        some ("cpu[all]: freq_max_hz=".toList ++ showInt n, fun cpu => .cpuSetFreqMax cpu n)
      else none

@[inherit_doc cpuSetting]
def memorySetting (key : CStr) : Meaning → Option (CStr × Update)
  | .string text =>
      if key = "thp" then
        (parseThpName text).map fun mode => ("memory: thp=".toList ++ text, .memSetThp mode)
      else none
  | .integer n =>
      if key = "swappiness" then
        some ("memory: swappiness=".toList ++ showInt n, .memSetSwappiness n)
      else if key = "overcommit" then
        some ("memory: overcommit=".toList ++ showInt n, .memSetOvercommit n)
      else if key = "vfs_cache_pressure" then
        some ("memory: vfs_cache_pressure=".toList ++ showInt n, .memSetVfsCachePressure n)
      else none

@[inherit_doc cpuSetting]
def storageSetting (dev key : CStr) : Meaning → Option (CStr × (StorageHandle → Update))
  | .string text =>
      if key = "scheduler" then
        some ("storage.".toList ++ dev ++ ": scheduler=".toList ++ text,
          fun st => .storageSetScheduler st text)
      else none
  | .integer n =>
      if key = "read_ahead_kb" then
        some ("storage.".toList ++ dev ++ ": read_ahead_kb=".toList ++ showInt n,
          fun st => .storageSetReadAhead st n)
      else none

theorem cpuSetting_freqMin (n : Int) :
    cpuSetting "freq_min_hz" (.integer n) =
      some ("cpu[all]: freq_min_hz=".toList ++ showInt n, fun cpu => .cpuSetFreqMin cpu n) := by
  rw [cpuSetting, if_pos rfl]

theorem cpuSetting_freqMax (n : Int) :
    cpuSetting "freq_max_hz" (.integer n) =
      some ("cpu[all]: freq_max_hz=".toList ++ showInt n, fun cpu => .cpuSetFreqMax cpu n) := by
  rw [cpuSetting, if_neg (by decide), if_pos rfl]

theorem memorySetting_swappiness (n : Int) :
    memorySetting "swappiness" (.integer n) =
      some ("memory: swappiness=".toList ++ showInt n, .memSetSwappiness n) := by
  rw [memorySetting, if_pos rfl]

theorem memorySetting_overcommit (n : Int) :
    memorySetting "overcommit" (.integer n) =
      some ("memory: overcommit=".toList ++ showInt n, .memSetOvercommit n) := by
  rw [memorySetting, if_neg (by decide), if_pos rfl]

theorem memorySetting_vfsCachePressure (n : Int) :
    memorySetting "vfs_cache_pressure" (.integer n) =
      some ("memory: vfs_cache_pressure=".toList ++ showInt n, .memSetVfsCachePressure n) := by
  rw [memorySetting, if_neg (by decide), if_neg (by decide), if_pos rfl]

theorem storageSetting_readAhead (dev : CStr) (n : Int) :
    storageSetting dev "read_ahead_kb" (.integer n) =
      some ("storage.".toList ++ dev ++ ": read_ahead_kb=".toList ++ showInt n,
        fun st => .storageSetReadAhead st n) := by
  rw [storageSetting, if_pos rfl]

/-- Does the assignment name a setting of the schema, with a value of its kind? -/
def Assignment.isSetting (a : Assignment) : Bool :=
  match a.target with
  | none => false
  | some .cpu => (cpuSetting a.key a.value).isSome
  | some .memory => (memorySetting a.key a.value).isSome
  | some (.storage dev) => (storageSetting dev a.key a.value).isSome

variable {σ τ : Type}

/--
Set exactly what the assignment says, or announce it.  The announcement is cut
to its buffer; a device is looked up for every key of its section.
-/
def Assignment.attempt (a : Assignment) (json dryRun : Bool) : CliM σ τ Int :=
  match a.target with
  | none => pure 0
  | some .cpu =>
      match cpuSetting a.key a.value with
      | none => pure 0
      | some (wouldDo, call) =>
          if dryRun then reading (announce json (bounded 128 wouldDo)) else applyAllCpus call
  | some .memory =>
      match memorySetting a.key a.value with
      | none => pure 0
      | some (wouldDo, call) => applyOne json dryRun (bounded 64 wouldDo) call
  | some (.storage dev) => do
      match ← reading (query (.storageOpen dev)) with
      | .error _ => pure 0
      | .ok st =>
          match storageSetting dev a.key a.value with
          | none => pure 0
          | some (wouldDo, call) => applyOne json dryRun (bounded 128 wouldDo) (call st)

/-- All the assignments in order; did none of them fail? -/
def attemptAll (assignments : List Assignment) (json dryRun : Bool) : CliM σ τ Int := do
  let results ← collectCli (fun a => a.attempt json dryRun) assignments
  pure (allOrMinusOne results)

end Attempts

/-- Loading the document does what its assignments say, on every system, and nothing else. -/
def Document.AppliedAsRead (d : Document) : Prop :=
  ∀ (σ τ : Type) (json dryRun : Bool),
    (profileApply (tomlParse d.text) json dryRun : CliM σ τ Int) =
      attemptAll d.assignments json dryRun

end Zenctl
