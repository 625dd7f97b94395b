import Zenctl.Json

namespace Json

/-!
# Decoding string literals

What a string literal stands for by section 7 of RFC 8259, over lists of bytes.
A literal is first read into pieces: characters that stand for themselves or
after a backslash, and the 16-bit units of `\u` escapes.  A unit stands for its
code point in UTF-8, two units that form a surrogate pair for the code point of
the pair, and a surrogate on its own for nothing.  Bytes from 0x80 on are
passed through.
-/

/-- The value of a hexadecimal digit. -/
def hexValue (c : Char) : Option Nat :=
  if '0' ≤ c ∧ c ≤ '9' then some (c.toNat - '0'.toNat)
  else if 'a' ≤ c ∧ c ≤ 'f' then some (c.toNat - 'a'.toNat + 10)
  else if 'A' ≤ c ∧ c ≤ 'F' then some (c.toNat - 'A'.toNat + 10)
  else none

/-- The unit four hexadecimal digits spell. -/
def hexUnit (a b c d : Char) : Option Nat := do
  let a ← hexValue a
  let b ← hexValue b
  let c ← hexValue c
  let d ← hexValue d
  return ((a * 16 + b) * 16 + c) * 16 + d

/-- What a backslash makes of the character behind it, `u` apart. -/
def escapeValue (c : Char) : Option Char :=
  if c = '"' then some '"'
  else if c = '\\' then some '\\'
  else if c = '/' then some '/'
  else if c = 'b' then some '\x08'
  else if c = 'f' then some '\x0c'
  else if c = 'n' then some '\n'
  else if c = 'r' then some '\r'
  else if c = 't' then some '\t'
  else none

/-- The bytes of a code point in UTF-8. -/
def utf8 (code : Nat) : List Char :=
  if code < 0x80 then [Char.ofNat code]
  else if code < 0x800 then [Char.ofNat (0xC0 + code / 64), Char.ofNat (0x80 + code % 64)]
  else if code < 0x10000 then
    [Char.ofNat (0xE0 + code / 4096), Char.ofNat (0x80 + code / 64 % 64),
      Char.ofNat (0x80 + code % 64)]
  else
    [Char.ofNat (0xF0 + code / 262144), Char.ofNat (0x80 + code / 4096 % 64),
      Char.ofNat (0x80 + code / 64 % 64), Char.ofNat (0x80 + code % 64)]

/-- A part of a string literal. -/
inductive Piece where
  | char (c : Char)
  | unit (value : Nat)
  deriving Repr, DecidableEq

/-- The pieces up to the closing quote, which must end the text. -/
def pieces : List Char → Option (List Piece)
  | [] => none
  | '"' :: rest => if rest = [] then some [] else none
  | '\\' :: 'u' :: a :: b :: c :: d :: rest => do
      let value ← hexUnit a b c d
      let more ← pieces rest
      return .unit value :: more
  | '\\' :: e :: rest => do
      let c ← escapeValue e
      let more ← pieces rest
      return .char c :: more
  | c :: rest =>
      if isPlain c then do
        let more ← pieces rest
        return .char c :: more
      else none

def isHighSurrogate (value : Nat) : Bool :=
  0xD800 ≤ value && value < 0xDC00

def isLowSurrogate (value : Nat) : Bool :=
  0xDC00 ≤ value && value < 0xE000

/-- The bytes the pieces stand for. -/
def bytes : List Piece → Option (List Char)
  | [] => some []
  | .char c :: rest => do
      let more ← bytes rest
      return c :: more
  | .unit high :: .unit low :: rest =>
      if isHighSurrogate high && isLowSurrogate low then do
        let more ← bytes rest
        return utf8 (0x10000 + (high - 0xD800) * 1024 + (low - 0xDC00)) ++ more
      else if isHighSurrogate high || isLowSurrogate high then none
      else do
        let more ← bytes (.unit low :: rest)
        return utf8 high ++ more
  | .unit value :: rest =>
      if isHighSurrogate value || isLowSurrogate value then none
      else do
        let more ← bytes rest
        return utf8 value ++ more

/-- The bytes a string literal stands for; texts that are no literal have none. -/
def decodeString : List Char → Option (List Char)
  | '"' :: rest => (pieces rest).bind bytes
  | _ => none

example : decodeString "\"\\ud83d\\ude00 \\u00e9\\/\"".toList =
    some ['\xf0', '\x9f', '\x98', '\x80', ' ', '\xc3', '\xa9', '/'] := by
  decide

/-! ## Literals -/

theorem isHex_of_value
    {c : Char} {value : Nat} (read : hexValue c = some value) :
    isHex c = true := by
  unfold hexValue at read
  simp only [isHex, Bool.or_eq_true, Bool.and_eq_true, decide_eq_true_eq]
  split_ifs at read with digit lower upper
  · exact .inl (.inl digit)
  · exact .inl (.inr lower)
  · exact .inr upper

theorem hexUnit_some
    {a b c d : Char} {value : Nat} (read : hexUnit a b c d = some value) :
    isHex a = true ∧ isHex b = true ∧ isHex c = true ∧ isHex d = true := by
  simp only [hexUnit, Option.bind_eq_bind, Option.bind_eq_some_iff] at read
  obtain ⟨_, first, _, second, _, third, _, fourth, _⟩ := read
  exact ⟨isHex_of_value first, isHex_of_value second, isHex_of_value third,
    isHex_of_value fourth⟩

theorem isEscape_of_value
    {c value : Char} (read : escapeValue c = some value) :
    isEscape c = true := by
  unfold escapeValue at read
  simp only [isEscape, Bool.or_eq_true, decide_eq_true_eq]
  split_ifs at read <;> simp_all

/-- A literal has no raw control character. -/
theorem StringBody.printable
    {body : List Char} (derived : StringBody body) :
    ∀ c ∈ body, 32 ≤ c.toNat := by
  have ofEscape : ∀ c, isEscape c = true → 32 ≤ c.toNat := by
    intro c escape
    simp only [isEscape, Bool.or_eq_true, decide_eq_true_eq] at escape
    rcases escape with ((((((rfl | rfl) | rfl) | rfl) | rfl) | rfl) | rfl) | rfl <;> decide
  have ofHex : ∀ c, isHex c = true → 32 ≤ c.toNat := by
    intro c hex
    simp only [isHex, Bool.or_eq_true, Bool.and_eq_true, decide_eq_true_eq] at hex
    rcases hex with (⟨low, _⟩ | ⟨low, _⟩) | ⟨low, _⟩ <;>
      exact Nat.le_trans (by decide) (UInt32.le_iff_toNat_le.mp (Char.le_def.mp low))
  induction derived with
  | nil => simp
  | plain plain _ inductionHypothesis =>
      simp only [isPlain, Bool.and_eq_true, decide_eq_true_eq] at plain
      simpa using ⟨plain.1.1, inductionHypothesis⟩
  | escape escape _ inductionHypothesis =>
      simp only [List.forall_mem_cons]
      exact ⟨by decide, ofEscape _ escape, inductionHypothesis⟩
  | unicode first second third fourth _ inductionHypothesis =>
      simp only [List.forall_mem_cons]
      exact ⟨by decide, by decide, ofHex _ first, ofHex _ second, ofHex _ third, ofHex _ fourth,
        inductionHypothesis⟩

theorem pieces_unit
    {a b c d : Char} {value : Nat} {rest : List Char} {read : List Piece}
    (digits : hexUnit a b c d = some value) (answer : pieces rest = some read) :
    pieces ('\\' :: 'u' :: a :: b :: c :: d :: rest) = some (.unit value :: read) := by
  rw [pieces, digits, answer]
  rfl

/-- What is read into pieces is the inside of a literal and the closing quote. -/
theorem stringBody_of_pieces
    {text : List Char} {read : List Piece} (answer : pieces text = some read) :
    ∃ body, text = body ++ ['"'] ∧ StringBody body := by
  fun_induction pieces text generalizing read with
  | case1 => cases answer
  | case2 => exact ⟨[], rfl, .nil⟩
  | case3 => cases answer
  | case4 a b c d rest inductionHypothesis =>
      simp only [Option.bind_eq_bind, Option.bind_eq_some_iff] at answer
      obtain ⟨value, digits, more, rest', _⟩ := answer
      obtain ⟨body, rfl, derived⟩ := inductionHypothesis rest'
      obtain ⟨first, second, third, fourth⟩ := hexUnit_some digits
      exact ⟨_, rfl, .unicode first second third fourth derived⟩
  | case5 e rest _ inductionHypothesis =>
      simp only [Option.bind_eq_bind, Option.bind_eq_some_iff] at answer
      obtain ⟨value, escape, more, rest', _⟩ := answer
      obtain ⟨body, rfl, derived⟩ := inductionHypothesis rest'
      exact ⟨_, rfl, .escape (isEscape_of_value escape) derived⟩
  | case6 c rest _ _ _ plain inductionHypothesis =>
      simp only [Option.bind_eq_bind, Option.bind_eq_some_iff] at answer
      obtain ⟨more, rest', _⟩ := answer
      obtain ⟨body, rfl, derived⟩ := inductionHypothesis rest'
      exact ⟨_, rfl, .plain plain derived⟩
  | case7 => cases answer

/-- Only string literals stand for something. -/
theorem quoted_of_decodeString
    {text s : List Char} (answer : decodeString text = some s) :
    ∃ body, text = quoted body ∧ StringBody body := by
  unfold decodeString at answer
  split at answer
  · next rest =>
      obtain ⟨read, answer, _⟩ := Option.bind_eq_some_iff.mp answer
      obtain ⟨body, rfl, derived⟩ := stringBody_of_pieces answer
      exact ⟨body, rfl, derived⟩
  · cases answer

/-- A unit outside the surrogates stands for itself, whatever follows it. -/
theorem bytes_unit
    {value : Nat} {rest : List Piece} {s : List Char}
    (plain : value < 0xD800) (answer : bytes rest = some s) :
    bytes (.unit value :: rest) = some (utf8 value ++ s) := by
  have notHigh : isHighSurrogate value = false := by simp [isHighSurrogate]; omega
  have notLow : isLowSurrogate value = false := by simp [isLowSurrogate]; omega
  cases rest with
  | nil =>
      rw [bytes, answer]
      · simp [notHigh, notLow]
      · rintro low more ⟨⟩
  | cons next rest =>
      cases next with
      | char c =>
          rw [bytes, answer]
          · simp [notHigh, notLow]
          · rintro low more ⟨⟩
      | unit low =>
          rw [bytes, answer]
          simp [notHigh, notLow]

end Json
