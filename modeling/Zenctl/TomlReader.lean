import Zenctl.Toml

namespace Zenctl

open CString

/-!
# Reading profile lines

What the parser makes of each kind of line.  The writer escapes nothing and the
parser has fixed buffers, so the two agree on some texts only: every entry the
parser can deliver is `Representable`, and a printed document whose entries all
are is read back entry by entry.
-/

/-! ## What the parser can deliver -/

/-- No newline and no more than the 511 bytes of a value. -/
def ValueText (text : CStr) : Prop :=
  '\n' ∉ text ∧ text.length ≤ 511

/-- No newline, no closing bracket and no more than the 127 bytes of a section path. -/
def SectionText (text : CStr) : Prop :=
  '\n' ∉ text ∧ ']' ∉ text ∧ text.length ≤ 127

/-- An entry the parser can deliver, whatever it reads. -/
def TomlKv.Representable (kv : TomlKv) : Prop :=
  SectionText kv.sectionPath ∧ ValueText kv.value

/-- Stripping the end of a buffer removes its only newline. -/
theorem rstrip_newline
    {text : CStr} (atEnd : '\n' ∉ text.dropLast) :
    '\n' ∉ rstrip text := by
  intro member
  rcases text.eq_nil_or_concat with rfl | ⟨body, last, rfl⟩
  · cases member
  · simp only [List.concat_eq_append, List.dropLast_concat] at atEnd member
    by_cases trailing : isTrailing last = true
    · rw [rstrip, List.rdropWhile_concat_pos _ _ _ trailing] at member
      exact atEnd ((List.rdropWhile_prefix _ _).subset member)
    · rw [rstrip, List.rdropWhile_concat_neg _ _ _ trailing] at member
      rcases List.mem_append.mp member with inside | here
      · exact atEnd inside
      · cases List.mem_singleton.mp here
        exact trailing rfl

/-- The line the parser sees of a buffer has no newline. -/
theorem strippedLine_newline
    {buffer : List Char} (atEnd : '\n' ∉ buffer.dropLast) :
    '\n' ∉ rstrip ((ofBuffer buffer).dropWhile isBlank) := by
  apply rstrip_newline
  intro member
  apply atEnd
  obtain ⟨lead, shape⟩ := List.dropWhile_suffix isBlank (l := ofBuffer buffer)
  obtain ⟨rest, whole⟩ : ofBuffer buffer <+: buffer := List.takeWhile_prefix _
  generalize (ofBuffer buffer).dropWhile isBlank = line at member shape
  have inLine : '\n' ∈ line.dropLast := member
  have nonempty : line ≠ [] := by
    rintro rfl
    cases inLine
  rw [← whole, ← shape]
  cases rest with
  | nil =>
      rw [List.append_nil, List.dropLast_append_of_ne_nil nonempty]
      exact List.mem_append_right lead inLine
  | cons c rest =>
      rw [List.dropLast_append_of_ne_nil (List.cons_ne_nil c rest)]
      exact List.mem_append_left _ (List.mem_append_right lead (List.dropLast_subset _ inLine))

theorem bounded_subset (size : Nat) (text : CStr) :
    bounded size text ⊆ text :=
  List.take_subset _ _

theorem tomlValue_subset (text : CStr) :
    (tomlValue text).1 ⊆ text := by
  have suffix := List.dropWhile_suffix isBlank (l := text)
  unfold tomlValue
  split
  · next rest shape =>
      intro c member
      exact suffix.subset (shape ▸ List.mem_cons_of_mem _ (beforeLast_subset _ _ member))
  · next rest shape =>
      intro c member
      exact suffix.subset (shape ▸ List.mem_cons_of_mem _ (beforeLast_subset _ _ member))
  · exact suffix.subset

theorem tomlHeader_section
    {sectionPath rest : CStr}
    (inSection : SectionText sectionPath)
    (oneLine : '\n' ∉ rest) :
    SectionText (tomlHeader sectionPath rest) := by
  have cut : ∀ start : CStr, '\n' ∉ start →
      SectionText (if ']' ∈ start then bounded 128 (start.takeWhile (· ≠ ']'))
        else sectionPath) := by
    intro start plain
    split
    · refine ⟨?_, ?_, by simp only [bounded, List.length_take]; omega⟩
      · intro member
        exact plain (List.takeWhile_subset _ (bounded_subset _ _ member))
      · intro member
        simpa using List.mem_takeWhile_imp (bounded_subset _ _ member)
    · exact inSection
  apply cut
  split
  · exact fun member => oneLine (List.mem_cons_of_mem _ member)
  · exact oneLine

/-- One buffer keeps the section path plain and yields at most one representable entry. -/
theorem tomlLine_representable
    {sectionPath : CStr} {buffer : List Char}
    (inSection : SectionText sectionPath)
    (atEnd : '\n' ∉ buffer.dropLast) :
    SectionText (tomlLine sectionPath buffer).1 ∧
      ∀ kv ∈ (tomlLine sectionPath buffer).2, kv.Representable := by
  have oneLine := strippedLine_newline atEnd
  unfold tomlLine
  generalize rstrip ((ofBuffer buffer).dropWhile isBlank) = line at oneLine
  split
  · exact ⟨inSection, nofun⟩
  · exact ⟨inSection, nofun⟩
  · exact ⟨tomlHeader_section inSection fun member => oneLine (List.mem_cons_of_mem _ member),
      nofun⟩
  · split
    · refine ⟨inSection, ?_⟩
      rintro kv ⟨⟩
      refine ⟨?_, ?_, by simp only [tomlSetting, bounded, List.length_take]; omega⟩
      · simp only [tomlSetting]
        rw [bounded_eq_self (by have := inSection.2.2; omega)]
        exact inSection
      · intro member
        have inValue := tomlValue_subset _ (bounded_subset _ _ member)
        exact oneLine ((List.dropWhile_suffix _).subset (List.tail_subset _ inValue))
    · exact ⟨inSection, nofun⟩

theorem tomlLines_representable
    {sectionPath : CStr} {buffers : List (List Char)}
    (inSection : SectionText sectionPath)
    (atEnd : ∀ buffer ∈ buffers, '\n' ∉ buffer.dropLast) :
    ∀ kv ∈ tomlLines sectionPath buffers, kv.Representable := by
  induction buffers generalizing sectionPath with
  | nil =>
      exact fun kv member => absurd member List.not_mem_nil
  | cons buffer rest inductionHypothesis =>
      intro kv member
      obtain ⟨nextSection, entry⟩ := tomlLine_representable inSection (atEnd buffer (by simp))
      rcases List.mem_append.mp member with here | later
      · exact entry kv (Option.mem_toList.mp here)
      · exact inductionHypothesis nextSection
          (fun b inRest => atEnd b (List.mem_cons_of_mem _ inRest)) kv later

/-- Every entry of a parsed file is representable. -/
theorem tomlParse_representable
    (content : List Char) :
    ∀ kv ∈ tomlParse content, kv.Representable :=
  tomlLines_representable ⟨List.not_mem_nil, List.not_mem_nil, by decide⟩
    fun _ delivered => fgets_newline delivered

/-! ## Lines read back -/

/-- A character of a bare key. -/
def isBareKeyChar (c : Char) : Bool :=
  isDigit c || ('a' ≤ c && c ≤ 'z') || ('A' ≤ c && c ≤ 'Z') || c = '_' || c = '-'

def BareKey (key : CStr) : Prop :=
  key ≠ [] ∧ ∀ c ∈ key, isBareKeyChar c = true

instance (key : CStr) : Decidable (BareKey key) :=
  decidable_of_iff (key ≠ [] ∧ key.all isBareKeyChar = true)
    (and_congr_right fun _ => List.all_eq_true)

/-- A bare key character has no meaning of its own to the parser. -/
theorem bareKeyChar_plain
    {c : Char} (bare : isBareKeyChar c = true) :
    isBlank c = false ∧ isTrailing c = false ∧ c ≠ '#' ∧ c ≠ '[' ∧ c ≠ '=' ∧ c ≠ '\n' ∧
      c ≠ '\x00' := by
  have apart : ∀ d, isBareKeyChar d = false → c ≠ d := by
    rintro d special rfl
    simp [special] at bare
  refine ⟨?_, ?_, apart _ (by decide), apart _ (by decide), apart _ (by decide),
    apart _ (by decide), apart _ (by decide)⟩
  · simp [isBlank, apart ' ' (by decide), apart '\t' (by decide)]
  · simp [isTrailing, apart ' ' (by decide), apart '\t' (by decide), apart '\n' (by decide),
      apart '\r' (by decide)]

/-- Stripping stops at a character that is not white space. -/
theorem rstrip_append
    {lead text : CStr} {c : Char}
    (solid : isTrailing c = false) :
    rstrip (lead ++ c :: text) = lead ++ c :: rstrip text :=
  rdropWhile_keeps solid lead text

theorem rstrip_cons
    {c : Char} (solid : isTrailing c = false) (text : CStr) :
    rstrip (c :: text) = c :: rstrip text := by
  simpa using @rstrip_append [] text c solid

theorem rstrip_newline_end (text : CStr) :
    rstrip (text ++ ['\n']) = rstrip text :=
  List.rdropWhile_concat_pos _ _ _ (by decide)

theorem dropWhile_blanks
    {blanks : CStr} (blank : ∀ c ∈ blanks, isBlank c = true)
    {c : Char} (solid : isBlank c = false) (rest : CStr) :
    (blanks ++ c :: rest).dropWhile isBlank = c :: rest := by
  rw [List.dropWhile_append_of_pos blank, List.dropWhile_cons_of_neg (by simp [solid])]

theorem rdropWhile_blanks
    {blanks : CStr} (blank : ∀ c ∈ blanks, isBlank c = true)
    {key : CStr} (solid : ∀ c ∈ key, isBlank c = false) :
    (key ++ blanks).rdropWhile isBlank = key := by
  rw [rdropWhile_tail blank, rdropWhile_solid solid]

/-- A line `key = rest`, with any blanks before and behind the key. -/
theorem tomlLine_setting
    {sectionPath indent key pad rest : CStr}
    (indentBlank : ∀ c ∈ indent, isBlank c = true)
    (bareKey : BareKey key)
    (padBlank : ∀ c ∈ pad, isBlank c = true)
    (noNul : '\x00' ∉ rest) :
    tomlLine sectionPath (indent ++ key ++ pad ++ '=' :: rest ++ ['\n']) =
      (sectionPath, some ⟨bounded 128 sectionPath, bounded 128 key,
        bounded 512 (tomlValue (rstrip rest)).1, (tomlValue (rstrip rest)).2⟩) := by
  obtain ⟨nonempty, bare⟩ := bareKey
  obtain ⟨first, others, rfl⟩ := List.exists_cons_of_ne_nil nonempty
  have firstPlain := bareKeyChar_plain (bare first (by simp))
  have blankPlain : ∀ c, isBlank c = true → c ≠ '\x00' ∧ c ≠ '=' := by
    intro c blank
    constructor <;> (rintro rfl; revert blank; decide)
  have wholeBuffer : '\x00' ∉ indent ++ first :: others ++ pad ++ '=' :: rest ++ ['\n'] := by
    simp only [List.mem_append, List.mem_cons, not_or]
    refine ⟨⟨⟨⟨?_, ?_, ?_⟩, ?_⟩, by decide, noNul⟩, by decide, List.not_mem_nil⟩
    · exact fun member => (blankPlain _ (indentBlank _ member)).1 rfl
    · exact firstPlain.2.2.2.2.2.2.symm
    · exact fun member =>
        (bareKeyChar_plain (bare _ (List.mem_cons_of_mem _ member))).2.2.2.2.2.2 rfl
    · exact fun member => (blankPlain _ (padBlank _ member)).1 rfl
  have unindented : (indent ++ first :: others ++ pad ++ '=' :: rest ++ ['\n']).dropWhile isBlank =
      first :: others ++ pad ++ '=' :: rest ++ ['\n'] := by
    simpa using dropWhile_blanks indentBlank firstPlain.1 (others ++ pad ++ '=' :: rest ++ ['\n'])
  have stripped : rstrip (first :: others ++ pad ++ '=' :: rest ++ ['\n']) =
      first :: (others ++ pad ++ '=' :: rstrip rest) := by
    rw [rstrip_newline_end, rstrip_append (by decide)]
    simp
  have beforeEq : ∀ c ∈ first :: others ++ pad, c ≠ '=' := by
    intro c member
    rcases List.mem_append.mp member with inKey | inPad
    · exact (bareKeyChar_plain (bare c inKey)).2.2.2.2.1
    · exact (blankPlain c (padBlank c inPad)).2
  have keyPart : (first :: (others ++ pad ++ '=' :: rstrip rest)).takeWhile (· ≠ '=') =
      first :: others ++ pad := by
    rw [show first :: (others ++ pad ++ '=' :: rstrip rest) =
      (first :: others ++ pad) ++ '=' :: rstrip rest by simp,
      List.takeWhile_append_of_pos (by simpa using beforeEq)]
    simp
  have valuePart : ((first :: (others ++ pad ++ '=' :: rstrip rest)).dropWhile (· ≠ '=')).tail =
      rstrip rest := by
    rw [show first :: (others ++ pad ++ '=' :: rstrip rest) =
      (first :: others ++ pad) ++ '=' :: rstrip rest by simp,
      List.dropWhile_append_of_pos (by simpa using beforeEq)]
    simp
  have trimmed : ((first :: others ++ pad).dropWhile isBlank).rdropWhile isBlank =
      first :: others := by
    rw [List.cons_append, List.dropWhile_cons_of_neg (by simp [firstPlain.1]), ← List.cons_append]
    exact rdropWhile_blanks padBlank fun c member => (bareKeyChar_plain (bare c member)).1
  unfold tomlLine
  rw [ofBuffer_eq_self wholeBuffer, unindented, stripped]
  split
  · next shape => cases shape
  · next shape =>
      injection shape with same
      exact absurd same firstPlain.2.2.1
  · next shape =>
      injection shape with same
      exact absurd same firstPlain.2.2.2.1
  · rw [if_pos (by simp), tomlSetting, keyPart, valuePart, trimmed]

theorem tomlHeader_closed
    {sectionPath path rest : CStr}
    (noBracket : ']' ∉ path)
    (single : path.head? ≠ some '[') :
    tomlHeader sectionPath (path ++ ']' :: rest) = bounded 128 path := by
  have upToBracket : (path ++ ']' :: rest).takeWhile (· ≠ ']') = path := by
    rw [List.takeWhile_append_of_pos]
    · simp
    · intro c member
      simp only [ne_eq, decide_not, Bool.not_eq_eq_eq_not, Bool.not_true, decide_eq_false_iff_not]
      rintro rfl
      exact noBracket member
  unfold tomlHeader
  extract_lets start
  have oneBracket : start = path ++ ']' :: rest := by
    simp only [start]
    split
    · next inner shape =>
        cases path with
        | nil =>
            cases shape
        | cons c path =>
            injection shape with same
            exact absurd (by simp [same]) single
    · rfl
  rw [if_pos (by simp [oneBracket]), oneBracket, upToBracket]

/-- A section header, with any blanks before it and anything behind it. -/
theorem tomlLine_header
    {sectionPath indent path rest : CStr}
    (indentBlank : ∀ c ∈ indent, isBlank c = true)
    (noBracket : ']' ∉ path)
    (single : path.head? ≠ some '[')
    (noNul : '\x00' ∉ path ++ rest) :
    tomlLine sectionPath (indent ++ '[' :: path ++ ']' :: rest ++ ['\n']) =
      (bounded 128 path, none) := by
  have wholeBuffer : '\x00' ∉ indent ++ '[' :: path ++ ']' :: rest ++ ['\n'] := by
    simp only [List.mem_append, List.mem_cons, not_or] at noNul ⊢
    refine ⟨⟨⟨?_, by decide, noNul.1⟩, by decide, noNul.2⟩, by decide, List.not_mem_nil⟩
    intro member
    exact absurd (indentBlank _ member) (by decide)
  have unindented : (indent ++ '[' :: path ++ ']' :: rest ++ ['\n']).dropWhile isBlank =
      '[' :: (path ++ ']' :: rest ++ ['\n']) := by
    rw [← dropWhile_blanks indentBlank (show isBlank '[' = false by decide)
      (path ++ ']' :: rest ++ ['\n'])]
    simp
  have stripped : rstrip ('[' :: (path ++ ']' :: rest ++ ['\n'])) =
      '[' :: (path ++ ']' :: rstrip rest) := by
    rw [← List.cons_append, rstrip_newline_end, ← List.cons_append, rstrip_append (by decide)]
    rfl
  unfold tomlLine
  rw [ofBuffer_eq_self wholeBuffer, unindented, stripped]
  exact congrArg (·, none) (tomlHeader_closed noBracket single)

/-- A blank line, or a comment. -/
theorem tomlLine_skipped
    {sectionPath indent rest : CStr}
    (indentBlank : ∀ c ∈ indent, isBlank c = true)
    (nothing : rest = [] ∨ rest.head? = some '#') :
    tomlLine sectionPath (indent ++ rest ++ ['\n']) = (sectionPath, none) := by
  have noNul : ∀ c ∈ indent, c ≠ '\x00' := by
    rintro c member rfl
    exact absurd (indentBlank _ member) (by decide)
  have text : ofBuffer (indent ++ rest ++ ['\n']) = indent ++ ofBuffer (rest ++ ['\n']) := by
    rw [ofBuffer, List.append_assoc, List.takeWhile_append_of_pos (by simpa using noNul)]
    rfl
  unfold tomlLine
  rw [text]
  rcases nothing with rfl | comment
  · have gone : rstrip ((indent ++ ofBuffer ([] ++ ['\n'])).dropWhile isBlank) = [] := by
      rw [List.dropWhile_append_of_pos indentBlank]
      decide
    rw [gone]
  · obtain ⟨tail, rfl⟩ : ∃ tail, rest = '#' :: tail := by
      cases rest with
      | nil => cases comment
      | cons c tail => exact ⟨tail, by simpa using comment⟩
    have kept : ∃ later,
        rstrip ((indent ++ ofBuffer ('#' :: tail ++ ['\n'])).dropWhile isBlank) =
          '#' :: later := by
      rw [show ofBuffer ('#' :: tail ++ ['\n']) = '#' :: ofBuffer (tail ++ ['\n']) from rfl,
        dropWhile_blanks indentBlank (by decide)]
      exact ⟨_, rstrip_cons (by decide) _⟩
    obtain ⟨later, shape⟩ := kept
    rw [shape]
    rfl

/-- How a line ends makes no difference to the parser. -/
theorem tomlLine_ending
    {sectionPath text ending : CStr}
    (noNul : '\x00' ∉ text)
    (trailing : ∀ c ∈ ending, isTrailing c = true) :
    tomlLine sectionPath (text ++ ending) = tomlLine sectionPath text := by
  have noNulBehind : '\x00' ∉ text ++ ending := by
    simp only [List.mem_append, not_or]
    exact ⟨noNul, fun member => absurd (trailing _ member) (by decide)⟩
  have stripped : rstrip ((text ++ ending).dropWhile isBlank) =
      rstrip (text.dropWhile isBlank) := by
    rw [List.dropWhile_append]
    split
    · next blank =>
        rw [List.isEmpty_iff.mp blank]
        have allTrailing : ∀ c ∈ ending.dropWhile isBlank, isTrailing c = true :=
          fun c member => trailing c ((List.dropWhile_suffix _).subset member)
        exact rdropWhile_tail allTrailing []
    · exact rdropWhile_tail trailing _
  unfold tomlLine
  rw [ofBuffer_eq_self noNulBehind, ofBuffer_eq_self noNul, stripped]

/-! ## Printed documents read back -/

/-- A quoted text up to its last quote. -/
theorem tomlValue_quoted
    {blanks : CStr} (blank : ∀ c ∈ blanks, isBlank c = true) (value : CStr) :
    tomlValue (blanks ++ '"' :: (value ++ ['"'])) = (value, true) := by
  unfold tomlValue
  rw [dropWhile_blanks blank (by decide)]
  simp [beforeLast_concat]

/-- A bare value. -/
theorem tomlValue_bare
    {blanks : CStr} (blank : ∀ c ∈ blanks, isBlank c = true)
    {first : Char} {value : CStr}
    (solid : isBlank first = false)
    (unquoted : first ≠ '"' ∧ first ≠ '\'') :
    tomlValue (blanks ++ first :: value) = (first :: value, false) := by
  unfold tomlValue
  rw [dropWhile_blanks blank solid]
  split
  · next shape =>
      injection shape with same
      exact absurd same unquoted.1
  · next shape =>
      injection shape with same
      exact absurd same unquoted.2
  · rfl

/-- Decimal digits and a sign. -/
def isNumeral (c : Char) : Bool :=
  isDigit c || c = '-'

theorem numeral_plain
    {c : Char} (numeral : isNumeral c = true) :
    isBlank c = false ∧ isTrailing c = false ∧ c ≠ '"' ∧ c ≠ '\'' ∧ c ≠ '\n' ∧
      c ≠ '\x00' := by
  have bare : isBareKeyChar c = true := by
    simp only [isNumeral, Bool.or_eq_true] at numeral
    simp only [isBareKeyChar, Bool.or_eq_true]
    tauto
  have plain := bareKeyChar_plain bare
  have apart : ∀ d, isNumeral d = false → c ≠ d := by
    rintro d special rfl
    simp [special] at numeral
  exact ⟨plain.1, plain.2.1, apart _ (by decide), apart _ (by decide), apart _ (by decide),
    apart _ (by decide)⟩

theorem showInt_numeral (value : Int) :
    showInt value ≠ [] ∧ ∀ c ∈ showInt value, isNumeral c = true := by
  cases value with
  | ofNat n =>
      obtain ⟨nonempty, digits⟩ := showNat_digits n
      exact ⟨nonempty, fun c member => by simp [isNumeral, digits c member]⟩
  | negSucc n =>
      refine ⟨List.cons_ne_nil _ _, ?_⟩
      intro c member
      rcases List.mem_cons.mp member with rfl | digit
      · decide
      · simp [isNumeral, (showNat_digits (n + 1)).2 c digit]

/-- What the `save_*` functions print: a short bare key, and a C string or a number. -/
def Setting.Printed (s : Setting) : Prop :=
  BareKey s.key ∧ s.key.length ≤ 127 ∧
    if s.isString then '\x00' ∉ s.value
    else s.value ≠ [] ∧ ∀ c ∈ s.value, isNumeral c = true

/-- A short line `key = text` yields the entry its text is read as. -/
theorem settingLine_read
    {sectionPath key text value : CStr} {isString : Bool}
    (inSection : SectionText sectionPath)
    (bareKey : BareKey key)
    (keyFits : key.length ≤ 127)
    (oneLine : '\n' ∉ text)
    (short : text.length ≤ 600)
    (noNul : '\x00' ∉ text)
    (read : tomlValue (rstrip text) = (value, isString))
    (valueFits : value.length ≤ 511)
    (rest : List Char) :
    tomlLines sectionPath (fgets 1024 (key ++ [' '] ++ '=' :: text ++ ['\n'] ++ rest)) =
      ⟨sectionPath, key, value, isString⟩ :: tomlLines sectionPath (fgets 1024 rest) := by
  have keyOneLine : '\n' ∉ key := fun member =>
    (bareKeyChar_plain (bareKey.2 _ member)).2.2.2.2.2.1 rfl
  have lineOneLine : '\n' ∉ key ++ [' '] ++ '=' :: text := by
    simp [keyOneLine, oneLine]
  have lineFits : (key ++ [' '] ++ '=' :: text).length + 1 < 1024 := by
    simp only [List.length_append, List.length_cons, List.length_nil]
    omega
  have lineRead := @tomlLine_setting sectionPath [] key [' '] text nofun bareKey
    (List.all_eq_true.mp rfl) noNul
  simp only [List.nil_append] at lineRead
  rw [List.append_assoc _ ['\n'], List.singleton_append, fgets_line lineOneLine lineFits, tomlLines]
  simp only [lineRead, read, bounded_eq_self (Nat.lt_succ_of_le keyFits),
    bounded_eq_self (Nat.lt_succ_of_le valueFits),
    bounded_eq_self (Nat.lt_succ_of_le inSection.2.2)]
  rfl

/-- A printed setting is one line that is read back as it was. -/
theorem Setting.line_read
    {s : Setting} (printed : s.Printed) (fits : ValueText s.value)
    {sectionPath : CStr} (inSection : SectionText sectionPath)
    (rest : List Char) :
    tomlLines sectionPath (fgets 1024 (s.line ++ rest)) =
      s.entry sectionPath :: tomlLines sectionPath (fgets 1024 rest) := by
  obtain ⟨key, value, isString⟩ := s
  obtain ⟨bareKey, keyFits, valueText⟩ := printed
  obtain ⟨oneLine, valueFits⟩ := fits
  simp only at bareKey keyFits oneLine valueFits
  have blank : ∀ c ∈ [' '], isBlank c = true := List.all_eq_true.mp rfl
  cases isString with
  | true =>
      have noNul : '\x00' ∉ value := valueText
      have stripped : rstrip ([' '] ++ '"' :: (value ++ ['"'])) =
          [' '] ++ '"' :: (value ++ ['"']) := by
        rw [← List.cons_append, ← List.append_assoc, rstrip_append (by decide)]
        rfl
      have line := settingLine_read inSection bareKey keyFits
        (show '\n' ∉ [' '] ++ '"' :: (value ++ ['"']) by simp [oneLine])
        (by simp only [List.length_append, List.length_cons, List.length_nil]; omega)
        (by simp [noNul]) (by rw [stripped, tomlValue_quoted blank]) valueFits rest
      rw [Setting.entry, ← line]
      simp [Setting.line]
  | false =>
      obtain ⟨nonempty, numerals⟩ := valueText
      have stripped : rstrip ([' '] ++ value) = [' '] ++ value := by
        rw [rstrip, List.rdropWhile_eq_self_iff]
        intro solid
        rw [List.getLast_append_of_ne_nil _ nonempty]
        simp [(numeral_plain (numerals _ (List.getLast_mem nonempty))).2.1]
      obtain ⟨first, others, rfl⟩ := List.exists_cons_of_ne_nil nonempty
      have firstPlain := numeral_plain (numerals first (by simp))
      have noNul : '\x00' ∉ first :: others := fun member =>
        (numeral_plain (numerals _ member)).2.2.2.2.2 rfl
      have line := settingLine_read inSection bareKey keyFits
        (show '\n' ∉ [' '] ++ first :: others by simpa using oneLine)
        (by simp only [List.length_append, List.length_nil, List.length_cons] at *; omega)
        (by simpa using noNul)
        (by rw [stripped, tomlValue_bare blank firstPlain.1 ⟨firstPlain.2.2.1, firstPlain.2.2.2.1⟩])
        valueFits rest
      rw [Setting.entry, ← line]
      simp [Setting.line]

theorem settings_read
    {settings : List Setting}
    (printed : ∀ s ∈ settings, s.Printed)
    (fits : ∀ s ∈ settings, ValueText s.value)
    {sectionPath : CStr} (inSection : SectionText sectionPath)
    (rest : List Char) :
    tomlLines sectionPath (fgets 1024 (settings.flatMap Setting.line ++ rest)) =
      settings.map (Setting.entry sectionPath) ++ tomlLines sectionPath (fgets 1024 rest) := by
  induction settings with
  | nil =>
      rfl
  | cons s settings inductionHypothesis =>
      rw [List.flatMap_cons, List.append_assoc,
        Setting.line_read (printed s (by simp)) (fits s (by simp)) inSection,
        inductionHypothesis (fun t member => printed t (List.mem_cons_of_mem s member))
          (fun t member => fits t (List.mem_cons_of_mem s member))]
      rfl

/-- A section as it is printed: a C string for its path that no bracket opens. -/
def PrintedSection (s : CStr × List Setting) : Prop :=
  '\x00' ∉ s.1 ∧ s.1.head? ≠ some '[' ∧ ∀ setting ∈ s.2, setting.Printed

/-- A section with settings announces itself, whatever section was in force before. -/
theorem sectionText_read
    {s : CStr × List Setting}
    (printed : PrintedSection s)
    (fits : ∀ kv ∈ s.2.map (Setting.entry s.1), kv.Representable)
    (before : CStr) (rest : List Char) :
    ∃ after, tomlLines before (fgets 1024 (sectionText s.1 s.2 ++ rest)) =
      s.2.map (Setting.entry s.1) ++ tomlLines after (fgets 1024 rest) := by
  obtain ⟨path, settings⟩ := s
  by_cases empty : settings = []
  · subst empty
    exact ⟨before, rfl⟩
  · obtain ⟨noNul, single, settingsPrinted⟩ := printed
    obtain ⟨first, others, shape⟩ := List.exists_cons_of_ne_nil empty
    have inSection : SectionText path :=
      (fits (first.entry path) (by simp [shape])).1
    have values : ∀ s ∈ settings, ValueText s.value := fun s member =>
      (fits (s.entry path) (List.mem_map_of_mem member)).2
    refine ⟨path, ?_⟩
    have headerOneLine : '\n' ∉ '[' :: path ++ [']'] := by simp [inSection.1]
    have headerFits : ('[' :: path ++ [']']).length + 1 < 1024 := by
      have := inSection.2.2
      simp only [List.length_append, List.length_cons, List.length_nil]
      omega
    have blankLine : tomlLine before ['\n'] = (before, none) :=
      @tomlLine_skipped before [] [] nofun (.inl rfl)
    have headerLine : tomlLine before ('[' :: path ++ [']'] ++ ['\n']) = (path, none) := by
      have read := @tomlLine_header before [] path [] nofun inSection.2.1 single (by simpa using noNul)
      rwa [bounded_eq_self (by have := inSection.2.2; omega)] at read
    have regroup : sectionText path settings ++ rest =
        [] ++ '\n' :: (('[' :: path ++ [']']) ++ '\n' :: (settings.flatMap Setting.line ++ rest)) := by
      simp [sectionText, empty]
    rw [regroup, fgets_line List.not_mem_nil (by decide), fgets_line headerOneLine headerFits,
      tomlLines, List.nil_append, blankLine, tomlLines, headerLine]
    exact settings_read settingsPrinted values inSection rest

theorem sections_read
    {sections : List (CStr × List Setting)}
    (printed : ∀ s ∈ sections, PrintedSection s)
    (fits : ∀ kv ∈ sections.flatMap fun s => s.2.map (Setting.entry s.1), kv.Representable)
    (before : CStr) :
    tomlLines before (fgets 1024 (sections.flatMap fun s => sectionText s.1 s.2)) =
      sections.flatMap fun s => s.2.map (Setting.entry s.1) := by
  induction sections generalizing before with
  | nil =>
      rfl
  | cons s sections inductionHypothesis =>
      simp only [List.flatMap_cons, List.mem_append] at fits
      obtain ⟨after, read⟩ := sectionText_read (printed s (by simp))
        (fun kv member => fits kv (.inl member)) before
        (sections.flatMap fun s => sectionText s.1 s.2)
      rw [List.flatMap_cons, read, inductionHypothesis
        (fun t member => printed t (List.mem_cons_of_mem s member))
        (fun kv member => fits kv (.inr member))]
      rfl

theorem Setting.printed_string
    {key value : CStr}
    (bareKey : BareKey key ∧ key.length ≤ 127)
    (noNul : '\x00' ∉ value) :
    Setting.Printed ⟨key, value, true⟩ :=
  ⟨bareKey.1, bareKey.2, noNul⟩

theorem Setting.printed_int
    {key : CStr}
    (bareKey : BareKey key ∧ key.length ≤ 127)
    (value : Int) :
    Setting.Printed ⟨key, showInt value, false⟩ :=
  ⟨bareKey.1, bareKey.2, showInt_numeral value⟩

theorem preamble_printed
    {name : CStr} (noNul : '\x00' ∉ name) (now : Int) :
    ∀ s ∈ preamble name now, s.Printed := by
  simp only [preamble, List.forall_mem_cons, List.not_mem_nil, false_implies, implies_true, and_true]
  exact ⟨Setting.printed_int (by decide) 1, Setting.printed_string (by decide) noNul,
    Setting.printed_int (by decide) now⟩

/-- A printed document is read back exactly when its entries are representable. -/
theorem tomlParse_profileText_iff
    {name : CStr} {now : Int} {sections : List (CStr × List Setting)}
    (noNul : '\x00' ∉ name)
    (printed : ∀ s ∈ sections, PrintedSection s) :
    tomlParse (profileText name now sections) = writtenEntries name now sections ↔
      ∀ kv ∈ writtenEntries name now sections, kv.Representable := by
  refine ⟨fun same => same ▸ tomlParse_representable _, fun fits => ?_⟩
  simp only [writtenEntries, List.mem_append] at fits
  have noSection : SectionText [] := ⟨List.not_mem_nil, List.not_mem_nil, by decide⟩
  have preambleFits : ∀ s ∈ preamble name now, ValueText s.value := fun s member =>
    (fits (s.entry []) (.inl (List.mem_map_of_mem member))).2
  have comment : tomlLine [] ("# zenctl profile".toList ++ ['\n']) = ([], none) :=
    @tomlLine_skipped [] [] "# zenctl profile".toList nofun (.inr rfl)
  have title : "# zenctl profile\n".toList = "# zenctl profile".toList ++ ['\n'] := by decide
  have regroup : profileText name now sections = "# zenctl profile".toList ++ '\n' ::
      ((preamble name now).flatMap Setting.line ++
        sections.flatMap fun s => sectionText s.1 s.2) :=
    (congrArg (· ++ (preamble name now).flatMap Setting.line ++
      sections.flatMap fun s => sectionText s.1 s.2) title).trans
      (by simp only [List.append_assoc, List.cons_append, List.nil_append])
  rw [tomlParse, regroup, fgets_line (by decide) (by simp), tomlLines, comment]
  simp only [Option.toList_none, List.nil_append]
  rw [settings_read (preamble_printed noNul now) preambleFits noSection,
    sections_read printed (fun kv member => fits kv (.inr member))]
  rfl

end Zenctl
