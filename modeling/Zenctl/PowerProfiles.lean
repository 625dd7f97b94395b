import Zenctl.CpuSelection
import Zenctl.DeviceNames
import Zenctl.RecordedCalls

namespace Zenctl

open CString

/-!
# The power profiles of an AMD GPU

The kernel lists the profiles in a table and stars the active one.  The getter
cuts the star off the name; the setter takes whatever stands up to the next
blank for the name.
-/

variable {σ : Type}

/-! ## The table -/

/-- White space inside a row. -/
abbrev RowBlanks := { text : CStr // ∀ c ∈ text, isSpace c = true ∧ c ≠ '\n' }

/-- A name of 1 to 63 bytes, without blanks and stars. -/
abbrev ProfileName :=
  { text : CStr // 1 ≤ text.length ∧ text.length ≤ 63 ∧
      ∀ c ∈ text, isSpace c = false ∧ c ≠ '*' ∧ c ≠ '\x00' }

structure ProfileRow where
  lead : RowBlanks
  number : Digits
  int : digitsValue number.1 ≤ 2147483647
  gap : RowBlanks
  apart : gap.1 ≠ []
  name : ProfileName
  tail : RowBlanks

namespace ProfileRow

def index (row : ProfileRow) : Int :=
  digitsValue row.number.1

/-- The row with a marker behind the name. -/
def line (row : ProfileRow) (marker : CStr) : CStr :=
  row.lead.1 ++ (row.number.1 ++ (row.gap.1 ++ (row.name.1 ++ (marker ++ row.tail.1))))

/-- The name and the index. -/
def entry (row : ProfileRow) : CStr × Int :=
  (row.name.1, row.index)

end ProfileRow

/-- The star of the active row, perhaps behind blanks. -/
def starMarker (space : RowBlanks) : CStr :=
  space.1 ++ ['*']

/-- The lines of a table, the star on one of them. -/
def starredLines (before : List ProfileRow) (active : ProfileRow) (space : RowBlanks)
    (after : List ProfileRow) : List CStr :=
  before.map (·.line []) ++ active.line (starMarker space) :: after.map (·.line [])

/-- The table of `pp_power_profile_mode`. -/
structure ProfileTable where
  before : List ProfileRow
  active : ProfileRow
  space : RowBlanks
  after : List ProfileRow
  distinctNames : ((before ++ active :: after).map fun row => row.name.1).Nodup
  distinctIndices : ((before ++ active :: after).map ProfileRow.index).Nodup
  short : ∀ line ∈ starredLines before active space after, line.length < 512

namespace ProfileTable

def rows (t : ProfileTable) : List ProfileRow :=
  t.before ++ t.active :: t.after

def lines (t : ProfileTable) : List CStr :=
  starredLines t.before t.active t.space t.after

def text (t : ProfileTable) : List Char :=
  t.lines.flatMap fun line => line ++ ['\n']

/-- The star stands off the active name, or a name of 63 bytes leaves no room for it. -/
def StarApart (t : ProfileTable) : Prop :=
  t.space.1 ≠ [] ∨ t.active.name.1.length = 63

/-- The active name as the setter reads it. -/
def activeSeen (t : ProfileTable) : CStr :=
  (t.active.name.1 ++ (starMarker t.space).takeWhile fun c => !isSpace c).take 63

/-- The names the setter reads, each with its index. -/
def seen (t : ProfileTable) : List (CStr × Int) :=
  t.before.map ProfileRow.entry ++
    (t.activeSeen, t.active.index) :: t.after.map ProfileRow.entry

theorem activeSeen_eq_iff (t : ProfileTable) :
    t.activeSeen = t.active.name.1 ↔ t.StarApart := by
  have named := t.active.name.2
  unfold activeSeen StarApart starMarker
  generalize t.active.name.1 = name at named ⊢
  obtain ⟨-, fits, -⟩ := named
  cases shape : t.space.1 with
  | nil =>
      have glued : (([] : CStr) ++ ['*']).takeWhile (fun c => !isSpace c) = ['*'] := by decide
      rw [glued]
      constructor
      · intro same
        have lengths := congrArg List.length same
        rw [List.length_take, List.length_append, List.length_singleton] at lengths
        exact .inr (by omega)
      · rintro (apart | full)
        · exact absurd rfl apart
        · rw [← full, List.take_left']
          rfl
  | cons c rest =>
      have blank : isSpace c = true := (t.space.2 c (by rw [shape]; exact .head _)).1
      have alone : ((c :: rest) ++ ['*']).takeWhile (fun c => !isSpace c) = [] := by
        rw [List.cons_append, List.takeWhile_cons_of_neg (by simp [blank])]
      rw [alone, List.append_nil]
      exact iff_of_true (List.take_of_length_le fits) (.inl (by simp))

end ProfileTable

/-! ## Lines -/

/-- A line that just fills the buffer comes without its newline. -/
theorem fgetsFrom_full
    {size room : Nat} {line rest held : List Char}
    (oneLine : '\n' ∉ line)
    (nonempty : line ≠ [])
    (full : line.length = room) :
    fgetsFrom size room held (line ++ '\n' :: rest) =
      (held ++ line) :: fgetsFrom size (size - 1) [] ('\n' :: rest) := by
  induction line generalizing room held with
  | nil => exact absurd rfl nonempty
  | cons c line inductionHypothesis =>
      simp only [List.mem_cons, not_or] at oneLine
      rw [List.length_cons] at full
      cases line with
      | nil =>
          rw [List.cons_append, fgetsFrom, if_pos (.inr (by rw [List.length_nil] at full; omega))]
          rfl
      | cons d line =>
          have unfinished : ¬(c = '\n' ∨ room ≤ 1) := by
            rintro (rfl | small)
            · exact oneLine.1 rfl
            · rw [List.length_cons] at full
              omega
          rw [List.cons_append, fgetsFrom, if_neg unfinished,
            inductionHypothesis oneLine.2 (by simp) (by omega)]
          simp

theorem fgets_full
    {size : Nat} {line rest : List Char}
    (oneLine : '\n' ∉ line)
    (nonempty : line ≠ [])
    (full : line.length + 1 = size) :
    fgets size (line ++ '\n' :: rest) = line :: fgets size ('\n' :: rest) := by
  unfold fgets
  rw [fgetsFrom_full oneLine nonempty (by omega)]
  rfl

/-- A loop that passes over blank lines finds in the buffers what is in the lines. -/
theorem findSome_lines
    {β : Type} {f : CStr → Option β} {size : Nat}
    (large : 2 < size)
    (passes : f ['\n'] = none)
    {rows : List CStr}
    (plain : ∀ row ∈ rows, row ≠ [] ∧ '\n' ∉ row ∧ '\x00' ∉ row ∧ row.length < size ∧
      f (row ++ ['\n']) = f row) :
    (OpenFile.lines ⟨rows.flatMap fun row => row ++ ['\n'], none⟩ size).findSome? f =
      rows.findSome? f := by
  have buffers : ∀ bytes, (OpenFile.lines ⟨bytes, none⟩ size) = (fgets size bytes).map ofBuffer :=
    fun _ => rfl
  simp only [buffers, List.findSome?_map]
  induction rows with
  | nil => rfl
  | cons row rows inductionHypothesis =>
      obtain ⟨nonempty, oneLine, noNul, fits, same⟩ := plain row (.head _)
      have later := inductionHypothesis fun other member => plain other (.tail _ member)
      have first : (row :: rows).flatMap (fun row => row ++ ['\n']) =
          row ++ '\n' :: rows.flatMap fun row => row ++ ['\n'] := by simp
      have whole : ofBuffer row = row := ofBuffer_eq_self noNul
      have wholeLine : ofBuffer (row ++ ['\n']) = row ++ ['\n'] :=
        ofBuffer_eq_self (by simp [noNul])
      rw [first, List.findSome?_cons]
      by_cases short : row.length + 1 < size
      · rw [fgets_line oneLine short, List.findSome?_cons, Function.comp_apply, wholeLine, same,
          later]
      · have newline : fgets size ('\n' :: rows.flatMap fun row => row ++ ['\n']) =
            ['\n'] :: fgets size (rows.flatMap fun row => row ++ ['\n']) :=
          @fgets_line size [] _ (by simp) (by rw [List.length_nil]; omega)
        have alone : ofBuffer ['\n'] = ['\n'] := rfl
        rw [fgets_full oneLine nonempty (by omega), newline, List.findSome?_cons,
          Function.comp_apply, whole, List.findSome?_cons, Function.comp_apply, alone, passes, later]

/-! ## One row -/

/-- White space and what begins otherwise. -/
theorem dropWhile_space
    {blanks rest : CStr} (blank : ∀ c ∈ blanks, isSpace c = true)
    (begins : (rest.head?.map isSpace).getD false = false) :
    (blanks ++ rest).dropWhile isSpace = rest := by
  rw [List.dropWhile_append_of_pos blank]
  cases rest with
  | nil => rfl
  | cons c rest => exact List.dropWhile_cons_of_neg (by simpa using begins)

namespace ProfileRow

variable (row : ProfileRow) (space : RowBlanks) {ending : CStr}

theorem name_head (rest : CStr) :
    ((row.name.1 ++ rest).head?.map isSpace).getD false = false := by
  obtain ⟨positive, -, plain⟩ := row.name.2
  generalize row.name.1 = name at positive plain ⊢
  cases name with
  | nil => simp at positive
  | cons c name => simpa using (plain c (.head _)).1

theorem number_head (rest : CStr) :
    ∃ c others, row.number.1 ++ rest = c :: others ∧ isDigit c = true := by
  obtain ⟨nonempty, digits⟩ := row.number.2
  generalize row.number.1 = number at nonempty digits ⊢
  cases number with
  | nil => exact absurd rfl nonempty
  | cons c number => exact ⟨c, number ++ rest, rfl, digits c (.head _)⟩

theorem gap_head (rest : CStr) :
    ∃ c others, row.gap.1 ++ rest = c :: others ∧ isSpace c = true := by
  have nonempty := row.apart
  have blank := row.gap.2
  generalize row.gap.1 = gap at nonempty blank ⊢
  cases gap with
  | nil => exact absurd rfl nonempty
  | cons c gap => exact ⟨c, gap ++ rest, rfl, (blank c (.head _)).1⟩

/-- The number is read up to the gap. -/
theorem strtoll_number (rest : CStr) :
    strtoll (row.number.1 ++ (row.gap.1 ++ rest)) =
      some ⟨row.index, row.gap.1 ++ rest, false⟩ := by
  have decimal := Decimal.unsigned row.number.1 row.number.2.1 row.number.2.2
  have stops : ∀ c others, row.gap.1 ++ rest = c :: others → isDigit c = false := by
    obtain ⟨blank, further, ends, isBlank⟩ := row.gap_head rest
    rintro c others same
    obtain ⟨rfl, -⟩ := List.cons.inj (ends.symm.trans same)
    by_contra digit
    have := (digit_plain (Bool.eq_true_of_not_eq_false digit)).1
    simp [isBlank] at this
  have int := row.int
  have low : int64Min = -9223372036854775808 := rfl
  have high : int64Max = 9223372036854775807 := rfl
  have read := @Decimal.strtoll_append _ _ decimal [] (List.forall_mem_nil _) _ stops
  rw [List.nil_append] at read
  rw [read, clamp, if_neg (by omega), if_neg (by omega)]
  rfl

/-- Behind the gap stands the name, and what is glued to it. -/
theorem name_found
    (marker : CStr) (blank : ∀ c ∈ ending, isSpace c = true) :
    ((row.gap.1 ++ (row.name.1 ++ (marker ++ (row.tail.1 ++ ending)))).dropWhile isSpace).takeWhile
        (fun c => !isSpace c) =
      row.name.1 ++ marker.takeWhile fun c => !isSpace c := by
  have blanks : ∀ c ∈ row.tail.1 ++ ending, isSpace c = true := by
    intro c member
    exact (List.mem_append.mp member).elim (fun inTail => (row.tail.2 c inTail).1) (blank c)
  have none : (row.tail.1 ++ ending).takeWhile (fun c => !isSpace c) = [] := by
    generalize row.tail.1 ++ ending = rest at blanks
    cases rest with
    | nil => rfl
    | cons c rest => exact List.takeWhile_cons_of_neg (by simp [blanks c (.head _)])
  rw [dropWhile_space (fun c member => (row.gap.2 c member).1) (row.name_head _),
    List.takeWhile_append_of_pos, List.takeWhile_append, none, List.append_nil]
  · split
    · next whole =>
        rw [(List.takeWhile_prefix _).eq_of_length whole]
    · rfl
  · intro c member
    simp [(row.name.2.2.2 c member).1]

/-- The setter takes the name with what is glued to it. -/
theorem profileRow_line
    (marker : CStr) (blank : ∀ c ∈ ending, isSpace c = true) :
    profileRow (row.line marker ++ ending) =
      some (row.index, (row.name.1 ++ marker.takeWhile fun c => !isSpace c).take 63) := by
  have shape : row.line marker ++ ending =
      row.lead.1 ++ (row.number.1 ++
        (row.gap.1 ++ (row.name.1 ++ (marker ++ (row.tail.1 ++ ending))))) := by
    simp [line]
  obtain ⟨first, others, begins, digit⟩ :=
    row.number_head (row.gap.1 ++ (row.name.1 ++ (marker ++ (row.tail.1 ++ ending))))
  have start : (row.line marker ++ ending).dropWhile isSpace =
      row.number.1 ++ (row.gap.1 ++ (row.name.1 ++ (marker ++ (row.tail.1 ++ ending)))) := by
    rw [shape, dropWhile_space fun c member => (row.lead.2 c member).1]
    rw [begins]
    simpa using (digit_plain digit).1
  have isNumber : (((row.number.1 ++ (row.gap.1 ++ (row.name.1 ++
      (marker ++ (row.tail.1 ++ ending))))).head?.map isDigit).getD false) = true := by
    rw [begins]
    exact digit
  unfold profileRow
  dsimp only
  rw [start, if_pos isNumber, row.strtoll_number]
  dsimp only
  have fits : toInt32 row.index = row.index := by
    have int := row.int
    have nonneg : (0 : Int) ≤ row.index := Int.natCast_nonneg _
    refine toInt32_fits (by omega) ?_
    unfold index int32Max
    exact_mod_cast int
  rw [row.name_found marker blank, fits]

/-- No star but the marker. -/
theorem parts_starless {c : Char} (member : c ∈ row.line []) : c ≠ '*' := by
  have blankOther : isSpace c = true → c ≠ '*' := by
    rintro blank rfl
    exact absurd blank (by decide)
  simp only [line, List.mem_append, List.not_mem_nil, false_or] at member
  rcases member with lead | number | gap | name | tail
  · exact blankOther (row.lead.2 c lead).1
  · rintro rfl
    exact absurd (row.number.2.2 _ number) (by decide)
  · exact blankOther (row.gap.2 c gap).1
  · exact (row.name.2.2.2 c name).2.1
  · exact blankOther (row.tail.2 c tail).1

/-- The getter passes over a row without a star. -/
theorem starredProfile_plain (blank : ∀ c ∈ ending, isSpace c = true) :
    starredProfile (row.line [] ++ ending) = none := by
  refine if_neg fun member => ?_
  rcases List.mem_append.mp member with inLine | inEnding
  · exact row.parts_starless inLine rfl
  · exact absurd (blank _ inEnding) (by decide)

/-- Blanks before the star go, the name stays. -/
theorem trimmed :
    (row.lead.1 ++ (row.number.1 ++ (row.gap.1 ++ (row.name.1 ++ space.1)))).rdropWhile
        (fun c => isSpace c || c = '*') =
      row.lead.1 ++ (row.number.1 ++ (row.gap.1 ++ row.name.1)) := by
  obtain ⟨positive, -, plain⟩ := row.name.2
  obtain ⟨name, last, split⟩ := (List.eq_nil_or_concat row.name.1).resolve_left
    (List.ne_nil_of_length_pos positive)
  have solid : (isSpace last || last = '*') = false := by
    have := plain last (by rw [split]; simp)
    simp [this.1, this.2.1]
  have gone : space.1.rdropWhile (fun c => isSpace c || c = '*') = [] := by
    rw [List.rdropWhile_eq_nil_iff]
    exact fun c member => by simp [(space.2 c member).1]
  have regroup : row.lead.1 ++ (row.number.1 ++ (row.gap.1 ++ (row.name.1 ++ space.1))) =
      (row.lead.1 ++ (row.number.1 ++ (row.gap.1 ++ name))) ++ last :: space.1 := by
    simp [split]
  rw [regroup, rdropWhile_keeps solid, gone, split]
  simp

/-- Behind the index token and the gap stands the name. -/
theorem behind_index :
    (((row.lead.1 ++ (row.number.1 ++ (row.gap.1 ++ row.name.1))).dropWhile isSpace).dropWhile
        fun c => !isSpace c).dropWhile isSpace = row.name.1 := by
  obtain ⟨first, others, begins, digit⟩ := row.number_head (row.gap.1 ++ row.name.1)
  obtain ⟨blankFirst, further, ends, isBlank⟩ := row.gap_head row.name.1
  have atNumber : (row.lead.1 ++ (row.number.1 ++ (row.gap.1 ++ row.name.1))).dropWhile isSpace =
      row.number.1 ++ (row.gap.1 ++ row.name.1) := by
    rw [dropWhile_space fun c member => (row.lead.2 c member).1]
    rw [begins]
    simpa using (digit_plain digit).1
  have atGap : (row.number.1 ++ (row.gap.1 ++ row.name.1)).dropWhile (fun c => !isSpace c) =
      row.gap.1 ++ row.name.1 := by
    rw [List.dropWhile_append_of_pos, ends, List.dropWhile_cons_of_neg (by simp [isBlank])]
    exact fun c member => by simp [(digit_plain (row.number.2.2 c member)).1]
  have atName : (row.gap.1 ++ row.name.1).dropWhile isSpace = row.name.1 := by
    refine dropWhile_space (fun c member => (row.gap.2 c member).1) ?_
    simpa using row.name_head []
  rw [atNumber, atGap, atName]

/-- The getter takes the name of a starred row. -/
theorem starredProfile_starred (blank : ∀ c ∈ ending, isSpace c = true) :
    starredProfile (row.line (starMarker space) ++ ending) = some row.name.1 := by
  have shape : row.line (starMarker space) ++ ending =
      (row.lead.1 ++ (row.number.1 ++ (row.gap.1 ++ (row.name.1 ++ space.1)))) ++
        '*' :: (row.tail.1 ++ ending) := by
    simp [line, starMarker]
  have last : '*' ∉ row.tail.1 ++ ending := by
    intro member
    rcases List.mem_append.mp member with inTail | inEnding
    · exact absurd (row.tail.2 _ inTail).1 (by decide)
    · exact absurd (blank _ inEnding) (by decide)
  have named : row.name.1 ≠ [] := List.ne_nil_of_length_pos row.name.2.1
  unfold starredProfile
  rw [shape, if_pos (by simp), beforeLast_append last]
  dsimp only
  rw [row.trimmed space, row.behind_index, if_neg named]

end ProfileRow

/-! ## The whole table -/

namespace ProfileTable

variable (t : ProfileTable)

theorem row_plain
    {row : ProfileRow} {marker : CStr} (starred : ∀ c ∈ marker, c ≠ '\n' ∧ c ≠ '\x00') :
    row.line marker ≠ [] ∧ '\n' ∉ row.line marker ∧ '\x00' ∉ row.line marker := by
  have plain : ∀ c ∈ row.line marker, c ≠ '\n' ∧ c ≠ '\x00' := by
    have blankPlain : ∀ {blanks : RowBlanks} {c}, c ∈ blanks.1 → c ≠ '\n' ∧ c ≠ '\x00' := by
      intro blanks c member
      obtain ⟨blank, inLine⟩ := blanks.2 c member
      refine ⟨inLine, ?_⟩
      rintro rfl
      exact absurd blank (by decide)
    intro c member
    simp only [ProfileRow.line, List.mem_append] at member
    rcases member with lead | number | gap | name | inMarker | tail
    · exact blankPlain lead
    · constructor <;>
        rintro rfl <;>
        exact absurd (row.number.2.2 _ number) (by decide)
    · exact blankPlain gap
    · obtain ⟨solid, -, noNul⟩ := row.name.2.2.2 c name
      refine ⟨?_, noNul⟩
      rintro rfl
      exact absurd solid (by decide)
    · exact starred c inMarker
    · exact blankPlain tail
  refine ⟨?_, fun member => (plain _ member).1 rfl, fun member => (plain _ member).2 rfl⟩
  obtain ⟨first, others, begins, -⟩ :=
    row.number_head (row.gap.1 ++ (row.name.1 ++ (marker ++ row.tail.1)))
  rw [ProfileRow.line, begins]
  simp

/-- A row of the table is a plain one, or the starred one. -/
theorem line_cases {line : CStr} (member : line ∈ t.lines) :
    (∃ row : ProfileRow, line = row.line []) ∨ line = t.active.line (starMarker t.space) := by
  rcases List.mem_append.mp member with before | inRest
  · obtain ⟨row, -, rfl⟩ := List.mem_map.mp before
    exact .inl ⟨row, rfl⟩
  rcases List.mem_cons.mp inRest with rfl | after
  · exact .inr rfl
  · obtain ⟨row, -, rfl⟩ := List.mem_map.mp after
    exact .inl ⟨row, rfl⟩

/-- What a loop over the file finds is what it finds in the rows. -/
theorem findSome_text
    {β : Type} {f : CStr → Option β}
    (passes : f ['\n'] = none)
    (same : ∀ line ∈ t.lines, f (line ++ ['\n']) = f line) :
    (OpenFile.lines ⟨t.text, none⟩ 512).findSome? f = t.lines.findSome? f := by
  refine findSome_lines (by decide) passes fun line member => ?_
  have plain : line ≠ [] ∧ '\n' ∉ line ∧ '\x00' ∉ line := by
    rcases t.line_cases member with ⟨row, rfl⟩ | rfl
    · exact row_plain (List.forall_mem_nil _)
    · refine row_plain fun c inMarker => ?_
      rcases List.mem_append.mp inMarker with blank | star
      · refine ⟨(t.space.2 c blank).2, ?_⟩
        rintro rfl
        exact absurd (t.space.2 _ blank).1 (by decide)
      · rw [List.mem_singleton.mp star]
        decide
  exact ⟨plain.1, plain.2.1, plain.2.2, t.short line member, same line member⟩

/-- The getter finds the starred row. -/
theorem starred_found :
    (OpenFile.lines ⟨t.text, none⟩ 512).findSome? starredProfile = some t.active.name.1 := by
  have plainRow : ∀ {ending : CStr}, (∀ c ∈ ending, isSpace c = true) → ∀ row : ProfileRow,
      starredProfile (row.line [] ++ ending) = none := fun blank row =>
    row.starredProfile_plain blank
  have newline : ∀ c ∈ ['\n'], isSpace c = true := List.all_eq_true.mp rfl
  have bare : ∀ row : ProfileRow, starredProfile (row.line []) = none := fun row => by
    simpa using @plainRow [] (List.forall_mem_nil _) row
  have starred : starredProfile (t.active.line (starMarker t.space)) = some t.active.name.1 := by
    simpa using @ProfileRow.starredProfile_starred t.active t.space [] (List.forall_mem_nil _)
  rw [findSome_text]
  · have none : (t.before.map (·.line [])).findSome? starredProfile = none := by
      rw [List.findSome?_eq_none_iff]
      intro line member
      obtain ⟨row, -, rfl⟩ := List.mem_map.mp member
      exact bare row
    rw [lines, starredLines, List.findSome?_append, none, Option.none_or, List.findSome?_cons,
      starred]
  · decide
  · intro line member
    rcases t.line_cases member with ⟨row, rfl⟩ | rfl
    · rw [plainRow newline, bare]
    · rw [t.active.starredProfile_starred t.space newline, starred]

theorem plainRow_seen (row : ProfileRow) {ending : CStr} (blank : ∀ c ∈ ending, isSpace c = true) :
    profileRow (row.line [] ++ ending) = some (row.index, row.name.1) := by
  rw [row.profileRow_line [] blank, List.takeWhile_nil, List.append_nil,
    List.take_of_length_le row.name.2.2.1]

theorem starredRow_seen {ending : CStr} (blank : ∀ c ∈ ending, isSpace c = true) :
    profileRow (t.active.line (starMarker t.space) ++ ending) =
      some (t.active.index, t.activeSeen) :=
  t.active.profileRow_line (starMarker t.space) blank

/-- What the setter's loop makes of a line. -/
def indexOn (profile line : CStr) : Option Int :=
  match profileRow line with
  | some (index, name) => if name = profile then some index else none
  | none => none

/-- The setter looks the profile up among the names it reads. -/
theorem profileIndex_text (profile : CStr) :
    profileIndex profile (OpenFile.lines ⟨t.text, none⟩ 512) =
      (t.seen.lookup profile).getD (-1) := by
  have newline : ∀ c ∈ ['\n'], isSpace c = true := List.all_eq_true.mp rfl
  have plain : ∀ row : ProfileRow, profileRow (row.line []) = some (row.index, row.name.1) :=
    fun row => by simpa using @plainRow_seen row [] (List.forall_mem_nil _)
  have starred : profileRow (t.active.line (starMarker t.space)) =
      some (t.active.index, t.activeSeen) := by
    simpa using @starredRow_seen t [] (List.forall_mem_nil _)
  have found : (OpenFile.lines ⟨t.text, none⟩ 512).findSome? (indexOn profile) =
      t.lines.findSome? (indexOn profile) := by
    refine t.findSome_text ?_ fun line member => ?_
    · have noRow : profileRow ['\n'] = none := by decide
      rw [indexOn, noRow]
    · unfold indexOn
      rcases t.line_cases member with ⟨row, rfl⟩ | rfl
      · rw [plainRow_seen row newline, plain]
      · rw [t.starredRow_seen newline, starred]
  have listed : ∀ rows : List ProfileRow,
      (rows.map (·.line [])).findSome? (indexOn profile) =
        (rows.map ProfileRow.entry).lookup profile := by
    intro rows
    rw [List.lookup_eq_findSome?, List.findSome?_map, List.findSome?_map]
    congr 1
    funext row
    simp only [Function.comp_apply, indexOn, plain, ProfileRow.entry, beq_iff_eq]
    exact if_congr eq_comm rfl rfl
  have active : [t.active.line (starMarker t.space)].findSome? (indexOn profile) =
      [(t.activeSeen, t.active.index)].lookup profile := by
    rw [List.findSome?_singleton, indexOn, starred, List.lookup_eq_findSome?,
      List.findSome?_singleton]
    simp only [beq_iff_eq]
    exact if_congr eq_comm rfl rfl
  have whole : t.lines.findSome? (indexOn profile) = t.seen.lookup profile := by
    have pieces : t.seen = t.before.map ProfileRow.entry ++
        ([(t.activeSeen, t.active.index)] ++ t.after.map ProfileRow.entry) := rfl
    have row : t.lines = t.before.map (·.line []) ++
        ([t.active.line (starMarker t.space)] ++ t.after.map (·.line [])) := rfl
    rw [pieces, row, List.findSome?_append, List.findSome?_append, List.lookup_append,
      List.lookup_append, listed, active, listed]
  exact congrArg (·.getD (-1)) (found.trans whole)

/-- The keys the setter looks up are the names when the star stands apart. -/
theorem seen_apart {t : ProfileTable} (apart : t.StarApart) :
    t.seen = t.rows.map ProfileRow.entry := by
  rw [seen, t.activeSeen_eq_iff.mpr apart, rows, List.map_append, List.map_cons]
  rfl

/-- A listed name leads to its index. -/
theorem lookup_listed
    {t : ProfileTable} (apart : t.StarApart) {row : ProfileRow} (listed : row ∈ t.rows) :
    t.seen.lookup row.name.1 = some row.index := by
  obtain ⟨before, after, split⟩ := List.append_of_mem listed
  have distinct := t.distinctNames
  rw [seen_apart apart, List.lookup_eq_some_iff]
  refine ⟨before.map ProfileRow.entry, after.map ProfileRow.entry, ?_, ?_⟩
  · rw [split, List.map_append, List.map_cons]
    rfl
  · rw [show t.before ++ t.active :: t.after = before ++ row :: after from split, List.map_append,
      List.map_cons, List.nodup_append] at distinct
    intro entry member
    obtain ⟨other, inBefore, rfl⟩ := List.mem_map.mp member
    have different := distinct.2.2 _ (List.mem_map_of_mem inBefore) _ (.head _)
    simpa [ProfileRow.entry] using Ne.symm different

/-- Another name leads nowhere. -/
theorem lookup_unlisted
    {t : ProfileTable} (apart : t.StarApart) {profile : CStr}
    (unlisted : ∀ row ∈ t.rows, row.name.1 ≠ profile) :
    t.seen.lookup profile = none := by
  rw [seen_apart apart, List.lookup_eq_none_iff]
  intro entry member
  obtain ⟨row, listed, rfl⟩ := List.mem_map.mp member
  simpa [ProfileRow.entry] using Ne.symm (unlisted row listed)

/-- With the star glued to it, the active name leads nowhere. -/
theorem lookup_glued
    {t : ProfileTable} (glued : ¬t.StarApart) :
    t.seen.lookup t.active.name.1 = none := by
  have distinct := t.distinctNames
  rw [List.map_append, List.map_cons, List.nodup_append, List.nodup_cons] at distinct
  obtain ⟨-, ⟨notAfter, -⟩, notBefore⟩ := distinct
  rw [List.lookup_eq_none_iff]
  intro entry member
  rw [bne_iff_ne]
  rcases List.mem_append.mp member with before | inRest
  · obtain ⟨row, listed, rfl⟩ := List.mem_map.mp before
    exact Ne.symm (notBefore _ (List.mem_map_of_mem listed) _ (.head _))
  rcases List.mem_cons.mp inRest with rfl | after
  · exact fun same => glued (t.activeSeen_eq_iff.mp same.symm)
  · obtain ⟨row, listed, rfl⟩ := List.mem_map.mp after
    exact fun same => notAfter (List.mem_map.mpr ⟨row, listed, same.symm⟩)

end ProfileTable

/-! ## The getter and the setter -/

/-- The GPU is an AMD one, has this table, and its DPM level is manual. -/
structure ProfileTable.Installed
    (t : ProfileTable) (g : GpuHandle) (os : Os σ) (sys : σ) : Prop where
  driver : g.driver = some "amdgpu".toList
  table : os.openRead sys (devicePath g "pp_power_profile_mode") = .ok ⟨t.text, none⟩
  manual : (textOf os sys (devicePath g "power_dpm_force_performance_level") 4096).map
    (fun level => level.rdropWhile isSpace) = some "manual".toList

namespace ProfileTable.Installed

variable {t : ProfileTable} {g : GpuHandle} {os : Os σ} {sys : σ}

theorem check (installed : t.Installed g os sys) (proc : Proc) :
    gpuAmdgpuCheck g os sys proc = (.value (), proc) := by
  unfold gpuAmdgpuCheck gpuDriverCheck
  rw [installed.driver]
  dsimp only
  rw [if_pos rfl]
  rfl

theorem opened (installed : t.Installed g os sys) (proc : Proc) :
    openPath (devicePath g "pp_power_profile_mode") os sys proc =
      (.value ⟨t.text, none⟩, proc) := by
  unfold openPath sysCallOr
  rw [GetM.bind_value (sysCall_ok installed.table)]
  rfl

/-- The getter delivers the starred name. -/
theorem reads (installed : t.Installed g os sys) :
    (zenctlGpuAmdgpuGetPowerProfile g).Delivers os sys t.active.name.1 := by
  refine .after (.of_run installed.check) (.after (.of_run installed.opened) ?_)
  rw [t.starred_found]
  have tried : (allocate : GetM σ Bool).FailsOr os sys fun _ => True := by
    intro proc
    unfold allocate
    split <;> exact .inr ⟨_, _, rfl, trivial⟩
  refine ⟨.after allocate_answers (.pure _), .bind tried fun got _ => ?_⟩
  cases got with
  | true => exact .pure rfl
  | false => exact .raise _ _ _

/-- The level does not stand in the way. -/
theorem level (installed : t.Installed g os sys) (proc : Proc) :
    ∃ read later, quietly (readStringAlloc
        (devicePath g "power_dpm_force_performance_level")) os sys proc = (.value read, later) ∧
      read.getD "manual" = "manual".toList := by
  have reads : (readStringAlloc (devicePath g "power_dpm_force_performance_level")).FailsOr os sys
      fun level => level = "manual".toList := by
    refine .bind (readFileString_failsOr _ 4096) fun text seen => ?_
    have manual := installed.manual
    rw [seen] at manual
    exact .bind (allocateOr_failsOr _ _) fun _ _ => .pure (Option.some.inj manual)
  rcases reads proc with ⟨later, failed⟩ | ⟨level, later, run, isManual⟩
  · exact ⟨none, _, quietly_failed failed, rfl⟩
  · exact ⟨some level, _, quietly_value run, isManual⟩

/-- An index that is found is written. -/
theorem writes
    (installed : t.Installed g os sys)
    {profile : CStr} {index : Int} (nonneg : 0 ≤ index)
    (found : t.seen.lookup profile = some index)
    (proc : Proc) :
    ∃ later, zenctlGpuAmdgpuSetPowerProfile g profile os sys proc =
      writeFileString (devicePath g "pp_power_profile_mode") (showInt index) os sys later := by
  obtain ⟨read, later, ran, allowed⟩ := installed.level proc
  refine ⟨later, ?_⟩
  unfold zenctlGpuAmdgpuSetPowerProfile
  rw [SetM.bind_getting_value (installed.check proc),
    SetM.bind_getting_value (installed.opened proc), t.profileIndex_text, found]
  dsimp only [Option.getD_some]
  rw [if_neg (by omega), SetM.bind_getting_value ran, if_neg (not_not.mpr allowed)]

/-- A profile that is not found is refused. -/
theorem refuses
    (installed : t.Installed g os sys)
    {profile : CStr} (missing : t.seen.lookup profile = none)
    (proc : Proc) :
    ∃ later, zenctlGpuAmdgpuSetPowerProfile g profile os sys proc = (.failed, sys, later) ∧
      later.err.code = Err.einval := by
  unfold zenctlGpuAmdgpuSetPowerProfile
  rw [SetM.bind_getting_value (installed.check proc),
    SetM.bind_getting_value (installed.opened proc), t.profileIndex_text, missing]
  exact ⟨_, rfl, rfl⟩

/-- A log beside the state changes nothing that is read. -/
theorem recorded (installed : t.Installed g os sys) (log : List SetCall) :
    t.Installed g os.recorded (sys, log) :=
  ⟨installed.driver, installed.table, installed.manual⟩

end ProfileTable.Installed

/-- The setter on a machine with a log of the writes. -/
abbrev setLogged (g : GpuHandle) (profile : CStr) (os : Os σ) (sys : σ) (proc : Proc) :
    Outcome Unit × (σ × List SetCall) × Proc :=
  zenctlGpuAmdgpuSetPowerProfile g profile os.recorded (sys, []) proc

/-- The write of an index into the table. -/
def indexWritten (g : GpuHandle) (os : Os σ) (index : Int) : SetCall :=
  .wrote (resolvePath os.sysfsRoot (devicePath g "pp_power_profile_mode")) (showInt index)

/--
The getter delivers the starred name.  The setter writes the index of a listed
name, once, and refuses every other; so it can be handed what was just read.
-/
structure ProfileTable.Served
    (t : ProfileTable) (g : GpuHandle) (os : Os σ) (sys : σ) : Prop where
  reads : (zenctlGpuAmdgpuGetPowerProfile g).Delivers os sys t.active.name.1
  listed : ∀ row ∈ t.rows, ∀ proc,
    (setLogged g row.name.1 os sys proc).2.1.2 = [indexWritten g os row.index]
  others : ∀ profile, (∀ row ∈ t.rows, row.name.1 ≠ profile) → ∀ proc,
    (setLogged g profile os sys proc).1 = .failed ∧
      (setLogged g profile os sys proc).2.1 = (sys, []) ∧
      (setLogged g profile os sys proc).2.2.err.code = Err.einval
  setBack : ∀ read first, (zenctlGpuAmdgpuGetPowerProfile g os sys first).1 = .value read →
    ∀ proc, (setLogged g read os sys proc).2.1.2 = [indexWritten g os t.active.index]

theorem ProfileTable.active_listed (t : ProfileTable) : t.active ∈ t.rows :=
  List.mem_append_right _ (.head _)

/-- With the star glued to it, the active name is refused. -/
theorem ProfileTable.not_served
    {t : ProfileTable} {g : GpuHandle} {os : Os σ} {sys : σ}
    (installed : t.Installed g os sys) (glued : ¬t.StarApart) :
    ¬t.Served g os sys := by
  intro served
  obtain ⟨later, refused, -⟩ := (installed.recorded []).refuses (lookup_glued glued) freshProc
  have written := served.listed t.active t.active_listed freshProc
  rw [setLogged, refused] at written
  cases written

/-- The two readers of the table agree exactly when the star stands off the name. -/
theorem ProfileTable.served_iff
    {t : ProfileTable} {g : GpuHandle} {os : Os σ} {sys : σ}
    (installed : t.Installed g os sys) :
    t.Served g os sys ↔ t.StarApart := by
  constructor
  · intro served
    by_contra glued
    exact not_served installed glued served
  · intro apart
    have listed : ∀ row ∈ t.rows, ∀ proc,
        (setLogged g row.name.1 os sys proc).2.1.2 = [indexWritten g os row.index] := by
      intro row member proc
      obtain ⟨later, ran⟩ := (installed.recorded []).writes (Int.natCast_nonneg _)
        (lookup_listed apart member) proc
      rw [setLogged, ran, (writeFileString_run os.recorded (sys, []) later _ _).1]
      rfl
    have reads := installed.reads
    refine ⟨reads, listed, fun profile unlisted proc => ?_, fun read first delivered => ?_⟩
    · obtain ⟨later, refused, code⟩ :=
        (installed.recorded []).refuses (lookup_unlisted apart unlisted) proc
      rw [setLogged, refused]
      exact ⟨rfl, rfl, code⟩
    · rcases reads.2 first with ⟨later, failed⟩ | ⟨value, later, run, rfl⟩
      · rw [failed] at delivered
        cases delivered
      · rw [run] at delivered
        injection delivered with same
        subst same
        exact listed t.active t.active_listed

/-! ## Two profiles -/

def amdGpu : GpuHandle :=
  ⟨0, "/sys/class/drm/card0", "/sys/class/drm/card0/device", some "amdgpu", some "AMD", none⟩

def rowGap : RowBlanks :=
  ⟨"  ".toList, every_of_all (by decide)⟩

def noTail : RowBlanks :=
  ⟨[], nofun⟩

/-- The default profile and `VIDEO`; the star of the latter has blanks before it or not. -/
def videoTable (spaced : Bool) : ProfileTable where
  before :=
    [{ lead := rowGap
       number := ⟨"0".toList, by decide, every_of_all (by decide)⟩
       int := by decide
       gap := rowGap
       apart := by decide
       name := ⟨"BOOTUP_DEFAULT".toList, by decide, by decide, every_of_all (by decide)⟩
       tail := noTail }]
  active :=
    { lead := rowGap
      number := ⟨"3".toList, by decide, every_of_all (by decide)⟩
      int := by decide
      gap := rowGap
      apart := by decide
      name := ⟨"VIDEO".toList, by decide, by decide, every_of_all (by decide)⟩
      tail := noTail }
  space := if spaced then rowGap else noTail
  after := []
  distinctNames := by decide
  distinctIndices := by decide
  short := by cases spaced <;> decide

/-- The machine with that table. -/
def videoOs (spaced : Bool) : Os Unit :=
  { (bareOs : Os Unit) with
    openRead := fun _ path =>
      if path = devicePath amdGpu "pp_power_profile_mode" then
        .ok ⟨(videoTable spaced).text, none⟩
      else if path = devicePath amdGpu "power_dpm_force_performance_level" then
        .ok ⟨"manual\n".toList, none⟩
      else .error Errno.enoent }

theorem videoOs_installed (spaced : Bool) :
    (videoTable spaced).Installed amdGpu (videoOs spaced) () where
  driver := rfl
  table := by
    dsimp only [videoOs]
    rw [if_pos rfl]
  manual := by
    have other : devicePath amdGpu "power_dpm_force_performance_level" ≠
        devicePath amdGpu "pp_power_profile_mode" := by decide
    have level : (videoOs spaced).openRead () (resolvePath (videoOs spaced).sysfsRoot
        (devicePath amdGpu "power_dpm_force_performance_level")) =
          .ok ⟨"manual\n".toList, none⟩ := by
      dsimp only [videoOs, bareOs, resolvePath]
      rw [if_neg other, if_pos rfl]
    unfold textOf
    rw [level]
    decide

theorem videoTable_served :
    (videoTable true).Served amdGpu (videoOs true) () :=
  (ProfileTable.served_iff (videoOs_installed true)).mpr (.inl (by decide))

/-- With the star behind the name, `VIDEO` is read and cannot be set. -/
theorem videoTable_refused :
    (videoTable false).text = "  0  BOOTUP_DEFAULT\n  3  VIDEO*\n".toList ∧
      (zenctlGpuAmdgpuGetPowerProfile amdGpu (videoOs false) () freshProc).1 =
        .value "VIDEO".toList ∧
      (setLogged amdGpu "VIDEO" (videoOs false) () freshProc).1 = .failed ∧
      ¬(videoTable false).Served amdGpu (videoOs false) () := by
  have installed := videoOs_installed false
  have glued : ¬(videoTable false).StarApart := by
    rintro (apart | full)
    · exact apart rfl
    · exact absurd full (by decide)
  refine ⟨by decide, ?_, ?_, (videoTable false).not_served installed glued⟩
  · exact installed.reads.1.outcome rfl
  · obtain ⟨later, refused, -⟩ :=
      (installed.recorded []).refuses (ProfileTable.lookup_glued glued) freshProc
    exact congrArg Prod.fst refused

end Zenctl
