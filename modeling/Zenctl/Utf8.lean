import Zenctl.JsonStrings

namespace Json

/-!
# UTF-8

Which lists of bytes are the encoding of characters.  A text that is put
together from parts with ASCII between them is valid exactly when its parts
are; a part that is cut anywhere else need not be.
-/

/-- The bytes encode characters.  A surrogate is none, and no encoding is overlong. -/
def IsUtf8 (bytes : List Char) : Prop :=
  ∃ text : List Char, bytes = text.flatMap fun c => utf8 c.toNat

/-- Every byte is an ASCII character. -/
def isAscii (text : List Char) : Bool :=
  text.all fun c => decide (c.toNat < 0x80)

theorem isAscii_append (front back : List Char) :
    isAscii (front ++ back) = (isAscii front && isAscii back) :=
  List.all_append

theorem isAscii_take
    {text : List Char} (ascii : isAscii text = true) (n : Nat) :
    isAscii (text.take n) = true :=
  List.all_eq_true.mpr fun c member => List.all_eq_true.mp ascii c (List.mem_of_mem_take member)

/-! ## One character -/

theorem toNat_ofNat {n : Nat} (valid : n.isValidChar) : (Char.ofNat n).toNat = n := by
  rw [Char.ofNat, dif_pos valid]
  rfl

theorem toNat_byte {n : Nat} (small : n < 0x100) : (Char.ofNat n).toNat = n :=
  toNat_ofNat (.inl (Nat.lt_trans small (by decide)))

/-- A code point is no surrogate and lies below the end of the code space. -/
theorem codePoint (c : Char) :
    c.toNat < 0xD800 ∨ 0xDFFF < c.toNat ∧ c.toNat < 0x110000 :=
  c.valid

theorem utf8_ascii {c : Char} (ascii : c.toNat < 0x80) : utf8 c.toNat = [c] := by
  rw [utf8, if_pos ascii, Char.ofNat_toNat]

/-- Other characters take bytes that are no ASCII characters. -/
theorem utf8_wide
    {c : Char} (wide : ¬c.toNat < 0x80) :
    ∀ byte ∈ utf8 c.toNat, 0x80 ≤ byte.toNat := by
  have inSpace := codePoint c
  intro byte member
  unfold utf8 at member
  split_ifs at member with two three
  all_goals
    simp only [List.mem_cons, List.not_mem_nil, or_false] at member
    rcases member with rfl | rfl | rfl | rfl <;> rw [toNat_byte (by omega)] <;> omega

/-! ## Parts of a text -/

theorem IsUtf8.nil : IsUtf8 [] := ⟨[], rfl⟩

theorem IsUtf8.append
    {first second : List Char} (left : IsUtf8 first) (right : IsUtf8 second) :
    IsUtf8 (first ++ second) := by
  obtain ⟨text, rfl⟩ := left
  obtain ⟨more, rfl⟩ := right
  exact ⟨text ++ more, List.flatMap_append.symm⟩

theorem isUtf8_ascii {text : List Char} (ascii : isAscii text = true) : IsUtf8 text := by
  refine ⟨text, ?_⟩
  induction text with
  | nil => rfl
  | cons c rest inductionHypothesis =>
      rw [isAscii, List.all_cons, Bool.and_eq_true, decide_eq_true_eq] at ascii
      rw [List.flatMap_cons, utf8_ascii ascii.1, ← inductionHypothesis ascii.2]
      rfl

/-- Bytes without this character lie in front of where it stands. -/
theorem front_of_notMem
    {c : Char} {front rest before after : List Char} (outside : c ∉ front)
    (same : before ++ c :: after = front ++ rest) :
    ∃ more, before = front ++ more ∧ rest = more ++ c :: after := by
  induction front generalizing before with
  | nil => exact ⟨before, rfl, same.symm⟩
  | cons d front inductionHypothesis =>
      obtain ⟨other, others⟩ := List.ne_and_not_mem_of_not_mem_cons outside
      cases before with
      | nil => exact absurd (List.cons.inj same).1 other
      | cons b before =>
          obtain ⟨rfl, behind⟩ := List.cons.inj same
          obtain ⟨more, rfl, shape⟩ := inductionHypothesis others behind
          exact ⟨more, rfl, shape⟩

/-- An ASCII character is the end of one part and the beginning of the next. -/
theorem isUtf8_append_cons
    {c : Char} (ascii : c.toNat < 0x80) (before after : List Char) :
    IsUtf8 (before ++ c :: after) ↔ IsUtf8 before ∧ IsUtf8 after := by
  constructor
  · rintro ⟨text, encoded⟩
    -- character by character; the ASCII character is not inside the encoding of a wide one
    induction text generalizing before with
    | nil => cases before <;> cases encoded
    | cons d rest inductionHypothesis =>
        rw [List.flatMap_cons] at encoded
        have first : IsUtf8 (utf8 d.toNat) := ⟨[d], (List.append_nil _).symm⟩
        by_cases inside : c ∈ utf8 d.toNat
        · have small : d.toNat < 0x80 := by
            by_contra wide
            exact absurd (utf8_wide wide c inside) (by omega)
          rw [utf8_ascii small] at inside encoded first
          obtain rfl := List.mem_singleton.mp inside
          cases before with
          | nil => exact ⟨.nil, rest, (List.cons.inj encoded).2⟩
          | cons b before =>
              obtain ⟨rfl, others⟩ := List.cons.inj encoded
              obtain ⟨left, right⟩ := inductionHypothesis before others
              exact ⟨first.append left, right⟩
        · obtain ⟨more, rfl, others⟩ := front_of_notMem inside encoded
          obtain ⟨left, right⟩ := inductionHypothesis more others.symm
          exact ⟨first.append left, right⟩
  · rintro ⟨left, right⟩
    have single : IsUtf8 [c] := isUtf8_ascii (by simpa [isAscii] using ascii)
    exact left.append (single.append right)

theorem isUtf8_cons
    {c : Char} (ascii : c.toNat < 0x80) (rest : List Char) :
    IsUtf8 (c :: rest) ↔ IsUtf8 rest :=
  (isUtf8_append_cons ascii [] rest).trans (and_iff_right .nil)

/-- ASCII text behind changes nothing. -/
theorem isUtf8_append_ascii
    {back : List Char} (ascii : isAscii back = true) (front : List Char) :
    IsUtf8 (front ++ back) ↔ IsUtf8 front := by
  cases back with
  | nil => rw [List.append_nil]
  | cons c back =>
      rw [isAscii, List.all_cons, Bool.and_eq_true, decide_eq_true_eq] at ascii
      exact (isUtf8_append_cons ascii.1 front back).trans (and_iff_left (isUtf8_ascii ascii.2))

/-- ASCII text in front changes nothing. -/
theorem isUtf8_ascii_append
    {front : List Char} (ascii : isAscii front = true) (rest : List Char) :
    IsUtf8 (front ++ rest) ↔ IsUtf8 rest := by
  induction front with
  | nil => rfl
  | cons c front inductionHypothesis =>
      rw [isAscii, List.all_cons, Bool.and_eq_true, decide_eq_true_eq] at ascii
      exact (isUtf8_cons ascii.1 _).trans (inductionHypothesis ascii.2)

/-- ASCII text stands between two parts. -/
theorem isUtf8_between
    {middle : List Char} (ascii : isAscii middle = true) (nonempty : middle ≠ [])
    (before after : List Char) :
    IsUtf8 (before ++ (middle ++ after)) ↔ IsUtf8 before ∧ IsUtf8 after := by
  cases middle with
  | nil => exact absurd rfl nonempty
  | cons c middle =>
      rw [isAscii, List.all_cons, Bool.and_eq_true, decide_eq_true_eq] at ascii
      exact (isUtf8_append_cons ascii.1 before _).trans
        (and_congr_right' (isUtf8_ascii_append ascii.2 after))

/-- Characters are replaced by ASCII text or left alone, and only ASCII characters are replaced. -/
theorem isUtf8_flatMap_iff
    {escape : Char → List Char}
    (replaced : ∀ c, c.toNat < 0x80 → isAscii (escape c) = true ∧ escape c ≠ [])
    (kept : ∀ c, ¬c.toNat < 0x80 → escape c = [c]) (text : List Char) :
    IsUtf8 (text.flatMap escape) ↔ IsUtf8 text := by
  -- in front stand wide characters that have been passed already
  have passed : ∀ front : List Char, IsUtf8 (front ++ text.flatMap escape) ↔
      IsUtf8 (front ++ text) := by
    induction text with
    | nil => exact fun front => Iff.rfl
    | cons c rest inductionHypothesis =>
        intro front
        rw [List.flatMap_cons]
        by_cases ascii : c.toNat < 0x80
        · obtain ⟨escaped, nonempty⟩ := replaced c ascii
          rw [isUtf8_between escaped nonempty, isUtf8_append_cons ascii]
          exact and_congr_right' (inductionHypothesis [])
        · rw [kept c ascii, ← List.append_assoc, List.append_cons front c rest]
          exact inductionHypothesis (front ++ [c])
  exact passed []

/-! ## Recognising it -/

/-- The bytes from 0x80 to 0xBF, which continue a character. -/
abbrev tail : Nat × Nat := (0x80, 0xBF)

/-- The ranges of the bytes behind the first byte of a character. -/
def behind (lead : Nat) : Option (List (Nat × Nat)) :=
  if lead < 0x80 then some []
  else if lead < 0xC2 then none
  else if lead < 0xE0 then some [tail]
  else if lead = 0xE0 then some [(0xA0, 0xBF), tail]
  else if lead = 0xED then some [(0x80, 0x9F), tail]
  else if lead < 0xF0 then some [tail, tail]
  else if lead = 0xF0 then some [(0x90, 0xBF), tail, tail]
  else if lead < 0xF4 then some [tail, tail, tail]
  else if lead = 0xF4 then some [(0x80, 0x8F), tail, tail]
  else none

/-- Bytes in these ranges, and whole characters behind them. -/
def wellFormed : List (Nat × Nat) → List Char → Bool
  | [], [] => true
  | _ :: _, [] => false
  | [], c :: rest =>
      match behind c.toNat with
      | none => false
      | some ranges => wellFormed ranges rest
  | (low, high) :: ranges, c :: rest =>
      decide (low ≤ c.toNat) && decide (c.toNat ≤ high) && wellFormed ranges rest

theorem wellFormed_lead
    {ranges : List (Nat × Nat)} {lead : Nat} (found : behind lead = some ranges)
    (byte : lead < 0x100) (rest : List Char) :
    wellFormed [] (Char.ofNat lead :: rest) = wellFormed ranges rest := by
  rw [wellFormed, toNat_byte byte, found]

theorem wellFormed_range
    {low high n : Nat} (above : low ≤ n) (below : n ≤ high) (byte : n < 0x100)
    (ranges : List (Nat × Nat)) (rest : List Char) :
    wellFormed ((low, high) :: ranges) (Char.ofNat n :: rest) = wellFormed ranges rest := by
  rw [wellFormed, toNat_byte byte, decide_eq_true above, decide_eq_true below]
  rfl

/-- A character is passed, whatever follows it. -/
theorem wellFormed_utf8 (c : Char) (rest : List Char) :
    wellFormed [] (utf8 c.toNat ++ rest) = wellFormed [] rest := by
  have inSpace := codePoint c
  unfold utf8
  split_ifs with one two three
  · exact wellFormed_lead (if_pos one) (by omega) rest
  · have found : behind (0xC0 + c.toNat / 64) = some [tail] := by
      unfold behind
      rw [if_neg (by omega), if_neg (by omega), if_pos (by omega)]
    refine (wellFormed_lead found (by omega) _).trans ?_
    exact wellFormed_range (by omega) (by omega) (by omega) _ _
  · obtain ⟨low, high, found, above, below⟩ : ∃ low high,
        behind (0xE0 + c.toNat / 4096) = some [(low, high), tail] ∧
          low ≤ 0x80 + c.toNat / 64 % 64 ∧ 0x80 + c.toNat / 64 % 64 ≤ high := by
      unfold behind
      rw [if_neg (by omega), if_neg (by omega), if_neg (by omega)]
      split_ifs
      · exact ⟨_, _, rfl, by omega, by omega⟩
      · exact ⟨_, _, rfl, by omega, by omega⟩
      · exact ⟨_, _, rfl, by omega, by omega⟩
      all_goals omega
    refine (wellFormed_lead found (by omega) _).trans ?_
    refine (wellFormed_range above below (by omega) _ _).trans ?_
    exact wellFormed_range (by omega) (by omega) (by omega) _ _
  · obtain ⟨low, high, found, above, below⟩ : ∃ low high,
        behind (0xF0 + c.toNat / 262144) = some [(low, high), tail, tail] ∧
          low ≤ 0x80 + c.toNat / 4096 % 64 ∧ 0x80 + c.toNat / 4096 % 64 ≤ high := by
      unfold behind
      rw [if_neg (by omega), if_neg (by omega), if_neg (by omega), if_neg (by omega),
        if_neg (by omega), if_neg (by omega)]
      split_ifs
      · exact ⟨_, _, rfl, by omega, by omega⟩
      · exact ⟨_, _, rfl, by omega, by omega⟩
      · exact ⟨_, _, rfl, by omega, by omega⟩
      · omega
    refine (wellFormed_lead found (by omega) _).trans ?_
    refine (wellFormed_range above below (by omega) _ _).trans ?_
    refine (wellFormed_range (by omega) (by omega) (by omega) _ _).trans ?_
    exact wellFormed_range (by omega) (by omega) (by omega) _ _

/-- What lies in the ranges is there. -/
theorem wellFormed_cons
    {low high : Nat} {ranges : List (Nat × Nat)} {bytes : List Char}
    (read : wellFormed ((low, high) :: ranges) bytes = true) :
    ∃ b rest, bytes = b :: rest ∧ (low ≤ b.toNat ∧ b.toNat ≤ high) ∧
      wellFormed ranges rest = true := by
  cases bytes with
  | nil => cases read
  | cons b rest =>
      rw [wellFormed, Bool.and_eq_true, Bool.and_eq_true, decide_eq_true_eq,
        decide_eq_true_eq] at read
      exact ⟨b, rest, rfl, read.1, read.2⟩

/-- Bytes are what their number says. -/
theorem ofNat_eq {n : Nat} {c : Char} (same : n = c.toNat) : Char.ofNat n = c := by
  rw [same, Char.ofNat_toNat]

theorem utf8_two
    {a b : Char} (lead : 0xC2 ≤ a.toNat ∧ a.toNat < 0xE0)
    (second : 0x80 ≤ b.toNat ∧ b.toNat ≤ 0xBF) :
    ∃ c : Char, [a, b] = utf8 c.toNat := by
  refine ⟨Char.ofNat ((a.toNat - 0xC0) * 64 + (b.toNat - 0x80)), ?_⟩
  rw [toNat_ofNat (.inl (by omega)), utf8, if_neg (by omega), if_pos (by omega),
    @ofNat_eq _ a (by omega), @ofNat_eq _ b (by omega)]

theorem utf8_three
    {a b c : Char} (lead : 0xE0 ≤ a.toNat ∧ a.toNat < 0xF0)
    (second : 0x80 ≤ b.toNat ∧ b.toNat ≤ 0xBF) (third : 0x80 ≤ c.toNat ∧ c.toNat ≤ 0xBF)
    (long : a.toNat = 0xE0 → 0xA0 ≤ b.toNat) (plain : a.toNat = 0xED → b.toNat ≤ 0x9F) :
    ∃ d : Char, [a, b, c] = utf8 d.toNat := by
  refine ⟨Char.ofNat ((a.toNat - 0xE0) * 4096 + (b.toNat - 0x80) * 64 + (c.toNat - 0x80)), ?_⟩
  rw [toNat_ofNat (by unfold Nat.isValidChar; omega), utf8, if_neg (by omega), if_neg (by omega),
    if_pos (by omega), @ofNat_eq _ a (by omega), @ofNat_eq _ b (by omega),
    @ofNat_eq _ c (by omega)]

theorem utf8_four
    {a b c d : Char} (lead : 0xF0 ≤ a.toNat ∧ a.toNat ≤ 0xF4)
    (second : 0x80 ≤ b.toNat ∧ b.toNat ≤ 0xBF) (third : 0x80 ≤ c.toNat ∧ c.toNat ≤ 0xBF)
    (fourth : 0x80 ≤ d.toNat ∧ d.toNat ≤ 0xBF)
    (long : a.toNat = 0xF0 → 0x90 ≤ b.toNat) (inSpace : a.toNat = 0xF4 → b.toNat ≤ 0x8F) :
    ∃ e : Char, [a, b, c, d] = utf8 e.toNat := by
  refine ⟨Char.ofNat ((a.toNat - 0xF0) * 262144 + (b.toNat - 0x80) * 4096 +
    (c.toNat - 0x80) * 64 + (d.toNat - 0x80)), ?_⟩
  rw [toNat_ofNat (by unfold Nat.isValidChar; omega), utf8, if_neg (by omega), if_neg (by omega),
    if_neg (by omega), @ofNat_eq _ a (by omega), @ofNat_eq _ b (by omega),
    @ofNat_eq _ c (by omega), @ofNat_eq _ d (by omega)]

/-- What is recognised starts with a character. -/
theorem utf8_of_wellFormed
    {a : Char} {bytes : List Char} (read : wellFormed [] (a :: bytes) = true) :
    ∃ (c : Char) (rest : List Char),
      a :: bytes = utf8 c.toNat ++ rest ∧ wellFormed [] rest = true := by
  have three : ∀ {low high}, wellFormed [(low, high), tail] bytes = true →
      (0xE0 ≤ a.toNat ∧ a.toNat < 0xF0) → (0x80 ≤ low ∧ high ≤ 0xBF) →
      (a.toNat = 0xE0 → 0xA0 ≤ low) → (a.toNat = 0xED → high ≤ 0x9F) →
      ∃ (c : Char) (rest : List Char),
        a :: bytes = utf8 c.toNat ++ rest ∧ wellFormed [] rest = true := by
    intro low high read lead inTail long plain
    obtain ⟨b, bytes, rfl, second, read⟩ := wellFormed_cons read
    obtain ⟨c, rest, rfl, third, read⟩ := wellFormed_cons read
    obtain ⟨d, shape⟩ := @utf8_three a b c lead (by omega) third (by omega) (by omega)
    exact ⟨d, rest, congrArg (· ++ rest) shape, read⟩
  have four : ∀ {low high}, wellFormed [(low, high), tail, tail] bytes = true →
      (0xF0 ≤ a.toNat ∧ a.toNat ≤ 0xF4) → (0x80 ≤ low ∧ high ≤ 0xBF) →
      (a.toNat = 0xF0 → 0x90 ≤ low) → (a.toNat = 0xF4 → high ≤ 0x8F) →
      ∃ (c : Char) (rest : List Char),
        a :: bytes = utf8 c.toNat ++ rest ∧ wellFormed [] rest = true := by
    intro low high read lead inTail long inSpace
    obtain ⟨b, bytes, rfl, second, read⟩ := wellFormed_cons read
    obtain ⟨c, bytes, rfl, third, read⟩ := wellFormed_cons read
    obtain ⟨d, rest, rfl, fourth, read⟩ := wellFormed_cons read
    obtain ⟨e, shape⟩ := @utf8_four a b c d lead (by omega) third fourth (by omega) (by omega)
    exact ⟨e, rest, congrArg (· ++ rest) shape, read⟩
  rw [wellFormed] at read
  unfold behind at read
  split_ifs at read with ascii low two e0 ed three' f0 four' f4
  · exact ⟨a, bytes, by rw [utf8_ascii ascii]; rfl, read⟩
  · obtain ⟨b, rest, rfl, second, read⟩ := wellFormed_cons read
    obtain ⟨c, shape⟩ := @utf8_two a b (by omega) second
    exact ⟨c, rest, congrArg (· ++ rest) shape, read⟩
  · exact three read (by omega) (by omega) (by omega) (by omega)
  · exact three read (by omega) (by omega) (by omega) (by omega)
  · exact three read (by omega) (by omega) (by omega) (by omega)
  · exact four read (by omega) (by omega) (by omega) (by omega)
  · exact four read (by omega) (by omega) (by omega) (by omega)
  · exact four read (by omega) (by omega) (by omega) (by omega)

theorem utf8_ne_nil (code : Nat) : utf8 code ≠ [] := by
  unfold utf8
  split_ifs <;> exact List.cons_ne_nil _ _

theorem wellFormed_iff (bytes : List Char) : wellFormed [] bytes = true ↔ IsUtf8 bytes := by
  constructor
  · intro read
    induction size : bytes.length using Nat.strongRecOn generalizing bytes with
    | ind n inductionHypothesis =>
        cases bytes with
        | nil => exact .nil
        | cons a bytes =>
            obtain ⟨c, rest, shape, others⟩ := utf8_of_wellFormed read
            have shorter : rest.length < n := by
              have nonempty := List.length_pos_of_ne_nil (utf8_ne_nil c.toNat)
              rw [← size, shape, List.length_append]
              omega
            rw [shape]
            have first : IsUtf8 (utf8 c.toNat) := ⟨[c], (List.append_nil _).symm⟩
            exact first.append (inductionHypothesis _ shorter rest others rfl)
  · rintro ⟨text, rfl⟩
    induction text with
    | nil => rfl
    | cons c rest inductionHypothesis =>
        rw [List.flatMap_cons, wellFormed_utf8]
        exact inductionHypothesis

instance (bytes : List Char) : Decidable (IsUtf8 bytes) :=
  decidable_of_iff _ (wellFormed_iff bytes)

/-- The first byte of a character of two is no text. -/
example : IsUtf8 ['\xc3', '\xa9'] ∧ ¬IsUtf8 ['\xc3'] := by decide

end Json
