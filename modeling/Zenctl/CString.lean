import Mathlib.Data.List.Basic
import Mathlib.Data.List.DropRight
import Mathlib.Data.List.TakeWhile
import Mathlib.Data.Nat.Digits.Lemmas
import Mathlib.Tactic.Ring

namespace CString

/-!
# C strings and the part of the C library the program relies on

A C string is the list of its bytes up to the terminating NUL, one `Char` for
each byte.  The functions below follow the documented behaviour of the libc
routines of the same name: bounded copies by `snprintf`, decimal printing by
`%d` and `%lld`, and integer parsing by `strtol`, `strtoll` and `atoi` on an
LP64 machine.
-/

/-- The bytes of a C string, without the terminating NUL. -/
abbrev CStr := List Char

instance : Coe String CStr := ⟨String.toList⟩

instance : LawfulBEq CStr := List.instLawfulBEq

/-- Everything before the first NUL of a raw buffer. -/
def ofBuffer (bytes : List Char) : CStr :=
  bytes.takeWhile (· ≠ '\x00')

/-- `snprintf(buf, size, "%s", s)`: at most `size - 1` bytes are kept. -/
def bounded (size : Nat) (text : CStr) : CStr :=
  text.take (size - 1)

/-- `strncmp(s, lead, strlen(lead)) == 0`. -/
def startsWith (lead text : CStr) : Bool :=
  lead.isPrefixOf text

/-- `isspace` in the C locale. -/
def isSpace (c : Char) : Bool :=
  c = ' ' || c = '\t' || c = '\n' || c = '\x0b' || c = '\x0c' || c = '\r'

/-- `isdigit` in the C locale. -/
def isDigit (c : Char) : Bool :=
  '0' ≤ c && c ≤ '9'

/-- `tolower` in the C locale. -/
def toLower (c : Char) : Char :=
  if 'A' ≤ c ∧ c ≤ 'Z' then Char.ofNat (c.toNat + 32) else c

/-- `strcasecmp(a, b) == 0`. -/
def sameIgnoringCase (a b : CStr) : Bool :=
  a.map toLower = b.map toLower

/-- The value of one decimal digit. -/
def digitValue (c : Char) : Nat :=
  c.toNat - '0'.toNat

/-- The value of a run of decimal digits, most significant first. -/
def digitsValue (digits : CStr) : Nat :=
  digits.foldl (fun value c => value * 10 + digitValue c) 0

/-- The decimal digits of a natural number, most significant first. -/
def showNat (n : Nat) : CStr :=
  if n = 0 then ['0']
  else ((Nat.digits 10 n).reverse.map fun d => Char.ofNat ('0'.toNat + d))

/-- `%d`, `%ld` and `%lld`. -/
def showInt : Int → CStr
  | .ofNat n => showNat n
  | .negSucc n => '-' :: showNat (n + 1)

/-- The smallest and the largest value of a signed 64-bit integer. -/
def int64Min : Int := -9223372036854775808

@[inherit_doc int64Min]
def int64Max : Int := 9223372036854775807

/-- What `strtol` and `strtoll` report: the value, the unread rest, `ERANGE`. -/
structure Parsed where
  value : Int
  rest : CStr
  outOfRange : Bool
  deriving Repr, DecidableEq

/-- Clamp a parsed value to 64 bits, as the libc does together with `ERANGE`. -/
def clamp (value : Int) (rest : CStr) : Parsed :=
  if value < int64Min then ⟨int64Min, rest, true⟩
  else if int64Max < value then ⟨int64Max, rest, true⟩
  else ⟨value, rest, false⟩

/-- Split off an optional sign. -/
def splitSign : CStr → Bool × CStr
  | '-' :: rest => (true, rest)
  | '+' :: rest => (false, rest)
  | text => (false, text)

/--
`strtoll(s, &end, 10)`: leading white space, an optional sign, decimal digits.
`none` is the case `end == s`, where no digit was read.
-/
def strtoll (text : CStr) : Option Parsed :=
  let signed := splitSign (text.dropWhile isSpace)
  let digits := signed.2.takeWhile isDigit
  if digits = [] then none
  else
    let magnitude : Int := digitsValue digits
    some (clamp (if signed.1 then -magnitude else magnitude)
      (signed.2.dropWhile isDigit))

/-- `isxdigit` in the C locale. -/
def isHexDigit (c : Char) : Bool :=
  isDigit c || ('a' ≤ c && c ≤ 'f') || ('A' ≤ c && c ≤ 'F')

/-- The value of a hexadecimal digit. -/
def hexValue (c : Char) : Nat :=
  if isDigit c then digitValue c
  else if 'a' ≤ c ∧ c ≤ 'f' then c.toNat - 'a'.toNat + 10
  else c.toNat - 'A'.toNat + 10

/-- The digits of a base up to sixteen at the start of a text, and the rest. -/
def spanDigits (base : Nat) (text : CStr) : CStr × CStr :=
  text.span fun c => isHexDigit c && hexValue c < base

/-- The value of digits of a base, most significant first. -/
def valueIn (base : Nat) (digits : CStr) : Nat :=
  digits.foldl (fun value c => value * base + hexValue c) 0

/-- A leading `0x`, skipped when a hexadecimal digit follows. -/
def skipHexMark : CStr → Option CStr
  | '0' :: x :: d :: rest =>
      if (x = 'x' || x = 'X') && isHexDigit d then some (d :: rest) else none
  | _ => none

/-- The base `strtoll(s, &end, 0)` reads in, and the text it reads. -/
def detectBase (text : CStr) : Nat × CStr :=
  match skipHexMark text with
  | some digits => (16, digits)
  | none => if text.head? = some '0' then (8, text) else (10, text)

/-- The magnitude and the sign of a number in a given or detected base. -/
def strtoIn (base : CStr → Nat × CStr) (text : CStr) : Option (Bool × Nat × CStr) :=
  let signed := splitSign (text.dropWhile isSpace)
  let start := base signed.2
  let split := spanDigits start.1 start.2
  if split.1 = [] then none else some (signed.1, valueIn start.1 split.1, split.2)

/-- `strtoll(s, &end, 0)`. -/
def strtollAuto (text : CStr) : Option Parsed :=
  (strtoIn detectBase text).map fun number =>
    clamp (if number.1 then -(number.2.1 : Int) else number.2.1) number.2.2

/-- A value cast to a signed 32-bit integer. -/
def toInt32 (value : Int) : Int :=
  Int.bmod value 4294967296

/-- A value cast to a signed 64-bit integer, or a 64-bit product that wraps. -/
def toInt64 (value : Int) : Int :=
  Int.bmod value 18446744073709551616

/-- `atoi`: the `int` cast of `strtol`, zero when there are no digits. -/
def atoi (text : CStr) : Int :=
  match strtoll text with
  | some parsed => toInt32 parsed.value
  | none => 0

/-- `strtok_r` with the separators blank, tab and newline: the tokens in order. -/
def tokens (text : CStr) : List CStr :=
  (text.splitOnP fun c => c = ' ' || c = '\t' || c = '\n').filter (· ≠ [])

/--
The lines `fgets(buf, size, f)` delivers, newline included: a line longer than
`size - 1` bytes comes in pieces.  `room` is what is left of the buffer that
already holds `line`.
-/
def fgetsFrom (size room : Nat) (line : List Char) : List Char → List (List Char)
  | [] => if line = [] then [] else [line]
  | c :: rest =>
      if c = '\n' ∨ room ≤ 1 then (line ++ [c]) :: fgetsFrom size (size - 1) [] rest
      else fgetsFrom size (room - 1) (line ++ [c]) rest

/-- All the buffers a loop `while (fgets(buf, size, f))` sees. -/
def fgets (size : Nat) (content : List Char) : List (List Char) :=
  fgetsFrom size (size - 1) [] content

/-- The text before the last occurrence of `c` (`strrchr`), or all of it. -/
def beforeLast (c : Char) : CStr → CStr
  | [] => []
  | d :: rest =>
      if c ∈ rest then d :: beforeLast c rest
      else if d = c then []
      else d :: rest

/-- `strcmp(a, b) <= 0`. -/
def strcmpLe : CStr → CStr → Bool
  | [], _ => true
  | _ :: _, [] => false
  | a :: as, b :: bs => a.toNat < b.toNat || (a = b && strcmpLe as bs)

/-- A literal of a `sscanf` format: the text after it. -/
def scanText (literal text : CStr) : Option CStr :=
  if startsWith literal text then some (text.drop literal.length) else none

/-- A `%d`, `%ld` or `%lld` of a `sscanf` format: the value and the text after it. -/
def scanInt (text : CStr) : Option (Int × CStr) :=
  (strtoll text).map fun parsed => (parsed.value, parsed.rest)

/-- A blank of a `sscanf` format: any white space. -/
def scanBlank (text : CStr) : CStr :=
  text.dropWhile isSpace

/-- A `%<width>s` of a `sscanf` format. -/
def scanWord (width : Nat) (text : CStr) : Option CStr :=
  let word := ((scanBlank text).takeWhile fun c => !isSpace c).take width
  if word = [] then none else some word

/-- At most `count` integers in a row. -/
def scanInts : Nat → CStr → List Int
  | 0, _ => []
  | count + 1, text =>
      match scanInt text with
      | some (value, rest) => value :: scanInts count rest
      | none => []

/-- `strchr(text, c) + 1`: the text behind the first `c`. -/
def afterChar (c : Char) (text : CStr) : Option CStr :=
  if c ∈ text then some (text.dropWhile (· ≠ c)).tail else none

/-! ## Decimal printing and parsing -/

/-- A printed digit is a digit of that value. -/
theorem digitValue_ofNat
    {d : Nat} (small : d < 10) :
    digitValue (Char.ofNat ('0'.toNat + d)) = d ∧
      isDigit (Char.ofNat ('0'.toNat + d)) = true := by
  interval_cases d <;> decide

/-- Folding the printed digits of a little-endian digit list rebuilds the number. -/
theorem digitsValue_reverse_map
    {digits : List Nat} (small : ∀ d ∈ digits, d < 10) :
    digitsValue (digits.reverse.map fun d => Char.ofNat ('0'.toNat + d)) =
      Nat.ofDigits 10 digits := by
  induction digits with
  | nil =>
      rfl
  | cons d rest inductionHypothesis =>
      have restSmall : ∀ e ∈ rest, e < 10 := fun e member =>
        small e (List.mem_cons_of_mem d member)
      have headValue := (digitValue_ofNat (small d (by simp))).1
      have restValue := inductionHypothesis restSmall
      simp only [digitsValue] at restValue
      simp only [digitsValue, List.reverse_cons, List.map_append,
        List.foldl_append, List.map_cons, List.map_nil, List.foldl_cons,
        List.foldl_nil, restValue, headValue, Nat.ofDigits_cons]
      omega

/-- Printing a natural number and reading its digits gives the number back. -/
theorem digitsValue_showNat (n : Nat) :
    digitsValue (showNat n) = n := by
  unfold showNat
  split
  · subst_vars
    decide
  · rw [digitsValue_reverse_map fun d member => Nat.digits_lt_base (by omega) member,
      Nat.ofDigits_digits]

/-- A printed natural number is a non-empty run of digits. -/
theorem showNat_digits (n : Nat) :
    showNat n ≠ [] ∧ ∀ c ∈ showNat n, isDigit c = true := by
  unfold showNat
  split
  · exact ⟨by decide, List.all_eq_true.mp rfl⟩
  · next nonzero =>
      refine ⟨by simpa [Nat.digits_eq_nil_iff_eq_zero] using nonzero, ?_⟩
      intro c member
      simp only [List.map_reverse, List.mem_reverse, List.mem_map] at member
      obtain ⟨d, digitMember, rfl⟩ := member
      exact (digitValue_ofNat (Nat.digits_lt_base (by omega) digitMember)).2

/-- A printed natural number starts with a digit. -/
theorem showNat_eq_cons (n : Nat) :
    ∃ c rest, showNat n = c :: rest ∧ isDigit c = true := by
  obtain ⟨nonempty, digits⟩ := showNat_digits n
  cases shape : showNat n with
  | nil =>
      exact (nonempty shape).elim
  | cons c rest =>
      exact ⟨c, rest, rfl, digits c (by simp [shape])⟩

/-- Digits are neither white space nor a sign. -/
theorem digit_plain
    {c : Char} (digit : isDigit c = true) :
    isSpace c = false ∧ c ≠ '-' ∧ c ≠ '+' := by
  simp only [isDigit, Bool.and_eq_true, decide_eq_true_eq] at digit
  refine ⟨?_, ?_, ?_⟩
  · simp only [isSpace, Bool.or_eq_false_iff, decide_eq_false_iff_not]
    refine ⟨⟨⟨⟨⟨?_, ?_⟩, ?_⟩, ?_⟩, ?_⟩, ?_⟩ <;>
    · rintro rfl
      revert digit
      decide
  · rintro rfl
    revert digit
    decide
  · rintro rfl
    revert digit
    decide

/-- A value that fits 64 bits is not clamped. -/
theorem clamp_of_fits
    {value : Int}
    (low : int64Min ≤ value)
    (high : value ≤ int64Max)
    (rest : CStr) :
    clamp value rest = ⟨value, rest, false⟩ := by
  have notLow : ¬ value < int64Min := by omega
  have notHigh : ¬ int64Max < value := by omega
  simp [clamp, notLow, notHigh]

/-- Whatever is clamped, the result is a 64-bit value. -/
theorem clamp_bounds (value : Int) (rest : CStr) :
    int64Min ≤ (clamp value rest).value ∧ (clamp value rest).value ≤ int64Max := by
  unfold clamp
  split
  · exact ⟨le_refl _, show int64Min ≤ int64Max by decide⟩
  · next notLow =>
      split
      · exact ⟨show int64Min ≤ int64Max by decide, le_refl _⟩
      · next notHigh =>
          exact ⟨not_lt.mp notLow, not_lt.mp notHigh⟩

theorem strtoll_bounds
    {text : CStr} {parsed : Parsed} (read : strtoll text = some parsed) :
    int64Min ≤ parsed.value ∧ parsed.value ≤ int64Max := by
  unfold strtoll at read
  simp only at read
  split at read
  · cases read
  · injection read with same
    subst same
    exact clamp_bounds _ _

theorem toInt64_of_fits
    {value : Int}
    (low : int64Min ≤ value)
    (high : value ≤ int64Max) :
    toInt64 value = value := by
  unfold int64Min at low
  unfold int64Max at high
  unfold toInt64
  rw [Int.bmod_eq_of_le] <;> omega

/-- Whatever is cast, the result is a 64-bit value. -/
theorem toInt64_bounds (value : Int) :
    int64Min ≤ toInt64 value ∧ toInt64 value ≤ int64Max := by
  have low := Int.le_bmod (x := value) (m := 18446744073709551616) (by decide)
  have high := Int.bmod_lt (x := value) (m := 18446744073709551616) (by decide)
  unfold toInt64 int64Min int64Max
  omega

/-- Reading back a printed integer that fits 64 bits. -/
theorem strtoll_showInt
    {value : Int}
    (low : int64Min ≤ value)
    (high : value ≤ int64Max) :
    strtoll (showInt value) = some ⟨value, [], false⟩ := by
  have readDigits : ∀ n : Nat,
      (showNat n).takeWhile isDigit = showNat n ∧
        (showNat n).dropWhile isDigit = [] := by
    intro n
    have digits := (showNat_digits n).2
    exact ⟨List.takeWhile_eq_self_iff.mpr digits,
      List.dropWhile_eq_nil_iff.mpr digits⟩
  cases value with
  | ofNat n =>
      obtain ⟨c, rest, shape, digit⟩ := showNat_eq_cons n
      have plain := digit_plain digit
      have unsigned : splitSign (List.dropWhile isSpace (showNat n)) = (false, showNat n) := by
        rw [shape, List.dropWhile_cons_of_neg (by simp [plain.1])]
        unfold splitSign
        split <;> simp_all
      simp [strtoll, showInt, unsigned, (readDigits n).1, (readDigits n).2,
        (showNat_digits n).1, digitsValue_showNat]
      exact clamp_of_fits low high []
  | negSucc n =>
      have signed : splitSign (List.dropWhile isSpace ('-' :: showNat (n + 1))) =
          (true, showNat (n + 1)) := by
        rw [List.dropWhile_cons_of_neg (by decide)]
        rfl
      have magnitude : -((n + 1 : Nat) : Int) = Int.negSucc n := by
        rw [Int.negSucc_eq]
        push_cast
        ring
      simp only [strtoll, showInt, signed, (readDigits (n + 1)).1,
        (readDigits (n + 1)).2, (showNat_digits (n + 1)).1, ↓reduceIte,
        digitsValue_showNat, magnitude, clamp_of_fits low high]

theorem showInt_injective
    {first second : Int}
    (firstLow : int64Min ≤ first)
    (firstHigh : first ≤ int64Max)
    (secondLow : int64Min ≤ second)
    (secondHigh : second ≤ int64Max)
    (same : showInt first = showInt second) :
    first = second := by
  have read := strtoll_showInt firstLow firstHigh
  rw [same, strtoll_showInt secondLow secondHigh] at read
  injection read with parsed
  injection parsed with value
  exact value.symm

theorem showInt_ne_nil (value : Int) : showInt value ≠ [] := by
  cases value with
  | ofNat n => exact (showNat_digits n).1
  | negSucc n => exact List.cons_ne_nil _ _

/-- A printed integer is made of digits and a sign. -/
theorem showInt_chars (value : Int) :
    ∀ c ∈ showInt value, isDigit c = true ∨ c = '-' := by
  intro c member
  cases value with
  | ofNat n =>
      exact .inl ((showNat_digits n).2 c member)
  | negSucc n =>
      rcases List.mem_cons.mp member with rfl | digit
      · exact .inr rfl
      · exact .inl ((showNat_digits (n + 1)).2 c digit)

/-! ## Lines and quotes -/

theorem fgetsFrom_line
    {size room : Nat} {line rest held : List Char}
    (oneLine : '\n' ∉ line)
    (fits : line.length < room) :
    fgetsFrom size room held (line ++ '\n' :: rest) =
      (held ++ line ++ ['\n']) :: fgetsFrom size (size - 1) [] rest := by
  induction line generalizing room held with
  | nil =>
      simp [fgetsFrom]
  | cons c line inductionHypothesis =>
      simp only [List.mem_cons, not_or] at oneLine
      simp only [List.length_cons] at fits
      have unfinished : ¬ (c = '\n' ∨ room ≤ 1) := by
        rintro (rfl | small)
        · exact oneLine.1 rfl
        · omega
      rw [List.cons_append, fgetsFrom, if_neg unfinished,
        inductionHypothesis oneLine.2 (by omega)]
      simp

/-- A line that fits the buffer is delivered in one piece. -/
theorem fgets_line
    {size : Nat} {line rest : List Char}
    (oneLine : '\n' ∉ line)
    (fits : line.length + 1 < size) :
    fgets size (line ++ '\n' :: rest) = (line ++ ['\n']) :: fgets size rest := by
  unfold fgets
  rw [fgetsFrom_line oneLine (by omega)]
  rfl

theorem fgetsFrom_last
    {size room : Nat} {line held : List Char}
    (oneLine : '\n' ∉ line)
    (fits : line.length ≤ room) :
    fgetsFrom size room held line = if held ++ line = [] then [] else [held ++ line] := by
  induction line generalizing room held with
  | nil =>
      simp [fgetsFrom]
  | cons c line inductionHypothesis =>
      simp only [List.mem_cons, not_or] at oneLine
      simp only [List.length_cons] at fits
      unfold fgetsFrom
      split
      · next finished =>
          have full : line = [] := by
            rcases finished with rfl | small
            · exact absurd rfl oneLine.1
            · exact List.eq_nil_of_length_eq_zero (by omega)
          simp [full, fgetsFrom]
      · rw [inductionHypothesis oneLine.2 (by omega)]
        simp

/-- What stands behind the last newline is delivered in one piece. -/
theorem fgets_last
    {size : Nat} {line : List Char}
    (oneLine : '\n' ∉ line)
    (fits : line.length < size) :
    fgets size line = if line = [] then [] else [line] :=
  fgetsFrom_last oneLine (by omega)

/-- A newline can only stand at the end of a buffer. -/
theorem fgetsFrom_newline
    {size room : Nat} {held content buffer : List Char}
    (heldPlain : '\n' ∉ held)
    (delivered : buffer ∈ fgetsFrom size room held content) :
    '\n' ∉ buffer.dropLast := by
  induction content generalizing room held with
  | nil =>
      simp only [fgetsFrom] at delivered
      split at delivered
      · cases delivered
      · cases List.mem_singleton.mp delivered
        exact fun member => heldPlain (List.dropLast_subset _ member)
  | cons c rest inductionHypothesis =>
      simp only [fgetsFrom] at delivered
      split at delivered
      · rcases List.mem_cons.mp delivered with rfl | later
        · rwa [List.dropLast_concat]
        · exact inductionHypothesis List.not_mem_nil later
      · next unfinished =>
          refine inductionHypothesis ?_ delivered
          simp only [not_or] at unfinished
          simp only [List.mem_append, List.mem_singleton, not_or]
          exact ⟨heldPlain, fun same => unfinished.1 same.symm⟩

@[inherit_doc fgetsFrom_newline]
theorem fgets_newline
    {size : Nat} {content buffer : List Char}
    (delivered : buffer ∈ fgets size content) :
    '\n' ∉ buffer.dropLast :=
  fgetsFrom_newline List.not_mem_nil delivered

theorem beforeLast_append
    {c : Char} {rest : CStr} (absent : c ∉ rest) (lead : CStr) :
    beforeLast c (lead ++ c :: rest) = lead := by
  induction lead with
  | nil =>
      simp [beforeLast, absent]
  | cons d lead inductionHypothesis =>
      simp [beforeLast, inductionHypothesis]

/-- The last quote is not before this one. -/
theorem beforeLast_extends
    (c : Char) (lead rest : CStr) :
    ∃ more, beforeLast c (lead ++ c :: rest) = lead ++ more ∧
      (more = [] ∨ more.head? = some c) := by
  induction lead with
  | nil =>
      simp only [List.nil_append, beforeLast]
      split
      · exact ⟨_, rfl, .inr rfl⟩
      · exact ⟨[], by simp, .inl rfl⟩
  | cons d lead inductionHypothesis =>
      obtain ⟨more, same, quote⟩ := inductionHypothesis
      exact ⟨more, by simp [beforeLast, same], quote⟩

/-- The last quote closes the text before it. -/
theorem beforeLast_concat (c : Char) (text : CStr) :
    beforeLast c (text ++ [c]) = text :=
  beforeLast_append List.not_mem_nil text

/-- What is left out starts with the character. -/
theorem beforeLast_leads
    {c : Char} {text : CStr} (member : c ∈ text) :
    ∃ rest, text = beforeLast c text ++ c :: rest := by
  induction text with
  | nil => cases member
  | cons d text inductionHypothesis =>
      unfold beforeLast
      split
      · next later =>
          obtain ⟨rest, shape⟩ := inductionHypothesis later
          exact ⟨rest, congrArg (d :: ·) shape⟩
      · next last =>
          obtain rfl : c = d := (List.mem_cons.mp member).resolve_right last
          rw [if_pos rfl]
          exact ⟨text, rfl⟩

theorem beforeLast_subset (c : Char) (text : CStr) :
    beforeLast c text ⊆ text := by
  induction text with
  | nil =>
      simp [beforeLast]
  | cons d text inductionHypothesis =>
      unfold beforeLast
      split
      · exact List.cons_subset_cons d inductionHypothesis
      · split <;> simp

/-- A buffer without a NUL is the string it holds. -/
theorem ofBuffer_eq_self
    {bytes : List Char} (noNul : '\x00' ∉ bytes) :
    ofBuffer bytes = bytes := by
  unfold ofBuffer
  rw [List.takeWhile_eq_self_iff]
  intro c member
  simp only [ne_eq, decide_not, Bool.not_eq_eq_eq_not, Bool.not_true, decide_eq_false_iff_not]
  rintro rfl
  exact noNul member

/-- A text that fits is copied whole. -/
theorem bounded_eq_self
    {size : Nat} {text : CStr} (fits : text.length < size) :
    bounded size text = text :=
  List.take_of_length_le (by omega)

/-- A cut text is a short one only if nothing was cut. -/
theorem bounded_eq_iff
    {size : Nat} {text short : CStr} (fits : short.length + 1 < size) :
    bounded size text = short ↔ text = short := by
  constructor
  · rintro rfl
    simp only [bounded, List.length_take] at fits ⊢
    exact (List.take_of_length_le (by omega)).symm
  · rintro rfl
    exact bounded_eq_self (by omega)

/-! ## Tokens -/

theorem splitOnPPrepend_plain
    {separator : Char → Bool} {text held piece : List Char}
    (heldPlain : ∀ c ∈ held, separator c = false)
    (member : piece ∈ text.splitOnPPrepend separator held) :
    ∀ c ∈ piece, separator c = false := by
  induction text generalizing held with
  | nil =>
      rw [List.splitOnPPrepend_nil, List.mem_singleton] at member
      subst member
      simpa using heldPlain
  | cons c text inductionHypothesis =>
      rw [List.splitOnPPrepend_cons_eq_if] at member
      split at member
      · rcases List.mem_cons.mp member with rfl | later
        · simpa using heldPlain
        · exact inductionHypothesis (by simp) later
      · next plain =>
          refine inductionHypothesis ?_ member
          exact List.forall_mem_cons.mpr ⟨by simpa using plain, heldPlain⟩

/-- No token has a separator in it. -/
theorem tokens_plain
    {text token : CStr} (member : token ∈ tokens text) :
    ' ' ∉ token ∧ '\t' ∉ token ∧ '\n' ∉ token := by
  have plain := @splitOnPPrepend_plain _ text [] token (by simp) (List.mem_of_mem_filter member)
  exact ⟨fun c => absurd (plain _ c) (by decide), fun c => absurd (plain _ c) (by decide),
    fun c => absurd (plain _ c) (by decide)⟩

/-- Only a newline lowers to a newline. -/
theorem toLower_newline
    {c : Char} (lowers : toLower c = '\n') :
    c = '\n' := by
  unfold toLower at lowers
  split at lowers
  · next upper =>
      have letter : 65 ≤ c.toNat ∧ c.toNat ≤ 90 := upper
      generalize c.toNat = code at letter lowers
      obtain ⟨low, high⟩ := letter
      exfalso
      revert lowers
      interval_cases code <;> decide
  · exact lowers

/-- A literal is matched where the text begins with it. -/
theorem scanText_eq_some_iff {literal text rest : CStr} :
    scanText literal text = some rest ↔ text = literal ++ rest := by
  unfold scanText startsWith
  constructor
  · intro scanned
    split at scanned
    · next begins =>
        obtain ⟨more, rfl⟩ := List.isPrefixOf_iff_prefix.mp begins
        rw [List.drop_left] at scanned
        rw [Option.some.inj scanned]
    · cases scanned
  · rintro rfl
    rw [if_pos (List.isPrefixOf_iff_prefix.mpr ⟨rest, rfl⟩), List.drop_left]

/-! ## Ends of texts -/

/-- A check of a text byte by byte. -/
theorem every_of_all
    {text : List Char} {p : Char → Prop} [DecidablePred p]
    (all : text.all (fun c => decide (p c)) = true) :
    ∀ c ∈ text, p c :=
  fun c member => of_decide_eq_true (List.all_eq_true.mp all c member)

/-- Nothing is removed before a character that stays. -/
theorem rdropWhile_keeps
    {p : Char → Bool} {c : Char} (solid : p c = false) (lead text : CStr) :
    (lead ++ c :: text).rdropWhile p = lead ++ c :: text.rdropWhile p := by
  induction text using List.reverseRecOn with
  | nil =>
      rw [List.rdropWhile_concat_neg _ _ _ (by simp [solid])]
      rfl
  | append_singleton text last inductionHypothesis =>
      have regroup : lead ++ c :: (text ++ [last]) = (lead ++ c :: text) ++ [last] := by simp
      by_cases goes : p last = true
      · rw [regroup, List.rdropWhile_concat_pos _ _ _ goes, inductionHypothesis,
          List.rdropWhile_concat_pos _ _ _ goes]
      · rw [regroup, List.rdropWhile_concat_neg _ _ _ goes, ← regroup,
          List.rdropWhile_concat_neg _ _ _ goes]

theorem rdropWhile_tail
    {p : Char → Bool} {tail : CStr} (every : ∀ c ∈ tail, p c = true) (text : CStr) :
    (text ++ tail).rdropWhile p = text.rdropWhile p := by
  induction tail using List.reverseRecOn with
  | nil =>
      rw [List.append_nil]
  | append_singleton tail last inductionHypothesis =>
      rw [← List.append_assoc, List.rdropWhile_concat_pos _ _ _ (every last (by simp))]
      exact inductionHypothesis fun c member => every c (by simp [member])

theorem rdropWhile_solid
    {p : Char → Bool} {text : CStr} (solid : ∀ c ∈ text, p c = false) :
    text.rdropWhile p = text := by
  rw [List.rdropWhile_eq_self_iff]
  intro nonempty
  simp [solid _ (List.getLast_mem nonempty)]

end CString
