import Zenctl.Libzenctl
import Zenctl.Tokenizer

namespace Zenctl

open CString
open Tokenizer

/-!
# The table of wake sources

`/proc/acpi/wakeup` is a header and a row for each device, and a write of a
name toggles the row of that name.  `zenctlPowerSetWakeup` makes an absolute
setting of it.  Which settings it gets right depends on the header, which it
takes for a row, and on where the first 16383 bytes of the table end.
-/

/-! ## The kernel's side -/

/-- A character no column of a row can have. -/
def isColumnBreak (c : Char) : Bool :=
  c = ' ' || c = '\t' || c = '\n' || c = '\r' || c = '\x00'

/-- A character that ends a line, or the text. -/
def isLineBreak (c : Char) : Bool :=
  c = '\n' || c = '\r' || c = '\x00'

/-- A column of a row. -/
abbrev Column := { word : CStr // word ≠ [] ∧ ∀ c ∈ word, isColumnBreak c = false }

/-- What stands between two columns. -/
abbrev Gap := { gap : CStr // gap ≠ [] ∧ ∀ c ∈ gap, rowTokens.isBlankOrTab c = true }

/-- The rest of a row: the node, if any, with the blanks in front of it. -/
abbrev NodeColumn := { rest : CStr //
  (∀ c ∈ rest, isLineBreak c = false) ∧ ∀ c ∈ rest.head?, rowTokens.isBlankOrTab c = true }

structure WakeupRow where
  name : Column
  afterName : Gap
  sleepState : Column
  afterSleepState : Gap
  enabled : Bool
  node : NodeColumn

namespace WakeupRow

def inState (row : WakeupRow) (enabled : Bool) : WakeupRow :=
  { row with enabled := enabled }

def status (row : WakeupRow) : CStr :=
  if row.enabled then "*enabled" else "*disabled"

/-- What stands in front of the status. -/
def lead (row : WakeupRow) : CStr :=
  row.name.1 ++ (row.afterName.1 ++ (row.sleepState.1 ++ row.afterSleepState.1))

def line (row : WakeupRow) : CStr :=
  row.lead ++ (row.status ++ row.node.1)

end WakeupRow

structure WakeupTable where
  header : { line : CStr // ∀ c ∈ line, isLineBreak c = false }
  rows : List WakeupRow
  distinct : (rows.map fun row => row.name.1).Nodup

namespace WakeupTable

def names (table : WakeupTable) : List CStr :=
  table.rows.map fun row => row.name.1

def rowsText (rows : List WakeupRow) : CStr :=
  rows.flatMap fun row => row.line ++ ['\n']

def text (table : WakeupTable) : CStr :=
  table.header.1 ++ '\n' :: rowsText table.rows

/-- The state of one device is changed. -/
def update (change : Bool → Bool) (device : CStr) (table : WakeupTable) : WakeupTable where
  header := table.header
  rows := table.rows.map fun row =>
    if row.name.1 = device then row.inState (change row.enabled) else row
  distinct := by
    have names : (table.rows.map fun row =>
        if row.name.1 = device then row.inState (change row.enabled) else row).map
          (fun row => row.name.1) = table.rows.map fun row => row.name.1 := by
      rw [List.map_map]
      refine List.map_congr_left fun row _ => ?_
      dsimp only [Function.comp]
      split <;> rfl
    rw [names]
    exact table.distinct

/-- What a write of a name does. -/
def toggle : CStr → WakeupTable → WakeupTable :=
  update not

/-- The table with a device in a state. -/
def set (device : CStr) (enabled : Bool) : WakeupTable → WakeupTable :=
  update (fun _ => enabled) device

end WakeupTable

/-- The table, and the names written to it so far. -/
structure WakeSources where
  table : WakeupTable
  written : List CStr

/-- A machine with wake sources. -/
def wakeSourcesOs : Os WakeSources :=
  { bareOs with
    openRead := fun sys path =>
      if path = acpiWakeupPath then .ok ⟨sys.table.text, none⟩ else .error Errno.enoent
    writeFile := fun sys path text =>
      if path = acpiWakeupPath then
        (.done, { table := sys.table.toggle text, written := sys.written ++ [text] })
      else (.openFailed Errno.enoent, sys) }

/-- A setting of a wake source does what it says. -/
structure SetsWakeup (table : WakeupTable) (device : CStr) (enabled : Bool) : Prop where
  /-- A device of the table comes into that state, and no other does; a repetition succeeds
  and changes nothing. -/
  listed : device ∈ table.names → ∀ written proc, ∃ changed later,
    zenctlPowerSetWakeup device enabled wakeSourcesOs ⟨table, written⟩ proc =
        (.value (), changed, later) ∧
      changed.table = table.set device enabled ∧
      ∃ final, zenctlPowerSetWakeup device enabled wakeSourcesOs changed later =
        (.value (), changed, final)
  /-- For any other name the call fails, and nothing is written. -/
  stranger : device ∉ table.names → ∀ written proc, ∃ later,
    zenctlPowerSetWakeup device enabled wakeSourcesOs ⟨table, written⟩ proc =
      (.failed, ⟨table, written⟩, later)

/-! ## What is read of a table -/

/-- The status column of a line about a device. -/
def rowStatus (device line : CStr) : Option CStr :=
  match rowTokens line with
  | name :: _ :: status :: _ =>
      if (name.head?.map isAlpha).getD false ∧ name = device then some status else none
  | _ => none

/-- The bytes of the table that fit the buffer. -/
def wakeupBufferSize : Nat := 16383

/-- The name of a device as it must be to be looked up. -/
def isWakeupName (device : CStr) : Bool :=
  '/' ∉ device && (device.head?.map isAlpha).getD false

/-- Where the setting of a device is right, for the rows in front of it. -/
def WakeupTable.Settable
    (table : WakeupTable) (before : List WakeupRow) (row : WakeupRow) (enabled : Bool) : Prop :=
  isWakeupName row.name.1 = true ∧
    match rowStatus row.name.1 (table.header.1.take wakeupBufferSize) with
    -- the header names the device, and its third word is taken for the status
    | some status => decide (status = "*enabled".toList) = enabled ∧ row.enabled = enabled
    -- as much of the status as tells the two apart is in the buffer
    | none =>
        table.header.1.length + 1 + (WakeupTable.rowsText before).length + row.lead.length +
          (if row.enabled || enabled then 8 else 1) ≤ wakeupBufferSize

/-- Where a setting is right: for a device of the table, and for any other name. -/
structure WakeupTable.Plain (table : WakeupTable) (device : CStr) (enabled : Bool) : Prop where
  listed : ∀ before row after, table.rows = before ++ row :: after → row.name.1 = device →
    table.Settable before row enabled
  stranger : device ∉ table.names → device = [] ∨ device.any isWakeupSeparator = true ∨
    rowStatus device (table.header.1.take wakeupBufferSize) = none

/-! ## Lines of a text that is cut off -/

theorem wakeupStatus_eq_words (device text : CStr) :
    wakeupStatus device text = (words (· == '\n') text).findSome? (rowStatus device) := by
  have parts : ∀ part : List Char, (!part.isEmpty) = decide (part ≠ []) := by
    intro part
    cases part <;> rfl
  unfold wakeupStatus words List.splitOn
  simp only [parts]
  rfl

@[simp] theorem wakeupStatus_nil (device : CStr) :
    wakeupStatus device [] = none := by
  rw [wakeupStatus_eq_words, words_nil]
  rfl

theorem wakeupStatus_line (device : CStr) {line : CStr} (single : ∀ c ∈ line, (c == '\n') = false) :
    wakeupStatus device line = rowStatus device line := by
  rw [wakeupStatus_eq_words]
  by_cases empty : line = []
  · rw [empty, words_nil]
    rfl
  · rw [words_single empty single]
    cases found : rowStatus device line <;> simp [found]

/-- The first line is looked at first, as far as the buffer holds it. -/
theorem wakeupStatus_take
    (device : CStr) {line : CStr} (single : ∀ c ∈ line, (c == '\n') = false)
    (rest : CStr) (n : Nat) :
    wakeupStatus device ((line ++ '\n' :: rest).take n) =
      (rowStatus device (line.take n)).or
        (wakeupStatus device (rest.take (n - (line.length + 1)))) := by
  rw [List.take_append]
  by_cases cut : n ≤ line.length
  · have firstGone : n - line.length = 0 := by omega
    have restGone : n - (line.length + 1) = 0 := by omega
    rw [firstGone, restGone, List.take_zero, List.take_zero, List.append_nil, wakeupStatus_nil,
      Option.or_none]
    exact wakeupStatus_line device fun c member => single c (List.mem_of_mem_take member)
  · have whole : line.take n = line := List.take_of_length_le (by omega)
    obtain ⟨left, length⟩ : ∃ left, n - line.length = left + 1 :=
      ⟨n - line.length - 1, by omega⟩
    have leftIs : n - (line.length + 1) = left := by omega
    rw [whole, length, leftIs, List.take_succ_cons, wakeupStatus_eq_words,
      words_append_sep (by rfl), List.findSome?_append, ← wakeupStatus_eq_words,
      ← wakeupStatus_eq_words, wakeupStatus_line device single]

/-- Newlines cut from the end of the buffer make no difference. -/
theorem wakeupStatus_buffer
    (device : CStr) {text : CStr} (plain : ∀ c ∈ text, c ≠ '\r' ∧ c ≠ '\x00') :
    wakeupStatus device (bufferText 16384 text) =
      wakeupStatus device (text.take wakeupBufferSize) := by
  have kept : bufferText 16384 text = (text.take wakeupBufferSize).rdropWhile isCrLf := by
    refine ofBuffer_eq_self fun nul => ?_
    have inText := List.mem_of_mem_take ((List.rdropWhile_prefix isCrLf _).subset nul)
    exact (plain _ inText).2 rfl
  have newlines : ∀ c ∈ (text.take wakeupBufferSize).rtakeWhile isCrLf, (c == '\n') = true := by
    intro c member
    have ends := List.mem_rtakeWhile_imp member
    have inText := List.mem_of_mem_take ((List.rtakeWhile_suffix isCrLf _).subset member)
    simpa [isCrLf, (plain c inText).1] using ends
  have split := List.rdropWhile_append_rtakeWhile (p := isCrLf)
    (l := text.take wakeupBufferSize)
  rw [kept, wakeupStatus_eq_words, wakeupStatus_eq_words]
  conv_rhs => rw [← split, words_append_gap newlines]

/-! ## A row that is cut off -/

theorem rowTokens_eq_words (line : CStr) :
    rowTokens line = words rowTokens.isBlankOrTab line := by
  have parts : ∀ part : List Char, (!part.isEmpty) = decide (part ≠ []) := by
    intro part
    cases part <;> rfl
  unfold rowTokens words
  simp only [parts]

theorem rowStatus_short
    (device : CStr) {line : CStr} (short : (rowTokens line).length ≤ 2) :
    rowStatus device line = none := by
  unfold rowStatus
  split
  · rename_i columns
    rw [columns] at short
    simp at short
  · rfl

theorem rowStatus_columns
    (device : CStr) {line name sleepState status : CStr} {rest : List CStr}
    (columns : rowTokens line = name :: sleepState :: status :: rest) :
    rowStatus device line =
      if (name.head?.map isAlpha).getD false ∧ name = device then some status else none := by
  unfold rowStatus
  rw [columns]

theorem isBlankOrTab_column {c : Char} (inside : isColumnBreak c = false) :
    rowTokens.isBlankOrTab c = false := by
  simp only [isColumnBreak, Bool.or_eq_false_iff] at inside
  simp [rowTokens.isBlankOrTab, inside.1.1.1.1, inside.1.1.1.2]

namespace WakeupRow

variable (row : WakeupRow)

theorem status_column :
    row.status ≠ [] ∧ ∀ c ∈ row.status, isColumnBreak c = false := by
  have enabled : ("*enabled".toList.all fun c => !isColumnBreak c) = true := by decide
  have disabled : ("*disabled".toList.all fun c => !isColumnBreak c) = true := by decide
  unfold status
  split
  · refine ⟨by decide, fun c member => ?_⟩
    simpa using List.all_eq_true.mp enabled c member
  · refine ⟨by decide, fun c member => ?_⟩
    simpa using List.all_eq_true.mp disabled c member

/-- The columns of a row from its third on. -/
theorem columns_lead (rest : CStr) :
    rowTokens (row.lead ++ rest) =
      row.name.1 :: row.sleepState.1 :: words rowTokens.isBlankOrTab rest := by
  have gapHead : ∀ (gap : Gap) (rest : CStr),
      ∀ c ∈ (gap.1 ++ rest).head?, rowTokens.isBlankOrTab c = true := by
    rintro ⟨gap, some, blank⟩ rest c first
    rw [List.head?_append_of_ne_nil gap some] at first
    exact blank c (List.mem_of_mem_head? first)
  have column : ∀ (column : Column) (rest : CStr),
      (∀ c ∈ rest.head?, rowTokens.isBlankOrTab c = true) →
      words rowTokens.isBlankOrTab (column.1 ++ rest) =
        column.1 :: words rowTokens.isBlankOrTab rest := by
    rintro ⟨word, some, inside⟩ rest ends
    exact words_word some (fun c member => isBlankOrTab_column (inside c member)) ends
  rw [rowTokens_eq_words, lead, List.append_assoc, List.append_assoc, List.append_assoc,
    column _ _ (gapHead _ _), words_gap row.afterName.2.2, column _ _ (gapHead _ _),
    words_gap row.afterSleepState.2.2]

/-- A row is about its own device, and its status is seen as far as the buffer goes. -/
theorem rowStatus_take (device : CStr) (n : Nat) :
    rowStatus device (row.line.take n) =
      if (row.name.1.head?.map isAlpha).getD false ∧ row.name.1 = device ∧ row.lead.length < n then
        some (row.status.take (n - row.lead.length))
      else none := by
  unfold line
  rw [List.take_append]
  by_cases reached : row.lead.length < n
  · have wholeLead : row.lead.take n = row.lead := List.take_of_length_le (by omega)
    have seen : row.status.take (n - row.lead.length) ≠ [] := by
      intro empty
      rcases List.take_eq_nil_iff.mp empty with none | gone
      · omega
      · exact row.status_column.1 gone
    have inside : ∀ c ∈ row.status.take (n - row.lead.length),
        rowTokens.isBlankOrTab c = false := fun c member =>
      isBlankOrTab_column (row.status_column.2 c (List.mem_of_mem_take member))
    have ends : ∀ c ∈ (row.node.1.take (n - row.lead.length - row.status.length)).head?,
        rowTokens.isBlankOrTab c = true := by
      intro c first
      rw [List.head?_take] at first
      split at first
      · cases first
      · exact row.node.2.2 c first
    have columns := row.columns_lead ((row.status ++ row.node.1).take (n - row.lead.length))
    rw [List.take_append, words_word seen inside ends] at columns
    rw [wholeLead, List.take_append, rowStatus_columns device columns]
    simp only [reached, and_true]
  · have statusGone : n - row.lead.length = 0 := by omega
    have columns := row.columns_lead []
    rw [List.append_nil, words_nil, rowTokens_eq_words] at columns
    have short := @words_length_le Char rowTokens.isBlankOrTab (row.lead.take n)
      (row.lead.drop n)
    rw [List.take_append_drop, columns] at short
    rw [statusGone, List.take_zero, List.append_nil,
      rowStatus_short device (by rw [rowTokens_eq_words]; exact short)]
    simp only [reached, and_false, if_false]

theorem line_single : ∀ c ∈ row.line, isLineBreak c = false := by
  have column : ∀ {word : CStr}, (∀ c ∈ word, isColumnBreak c = false) →
      ∀ c ∈ word, isLineBreak c = false := by
    intro word inside c member
    have notBreak := inside c member
    simp only [isColumnBreak, Bool.or_eq_false_iff] at notBreak
    simp [isLineBreak, notBreak.1.1.2, notBreak.1.2, notBreak.2]
  have blank : ∀ (gap : Gap), ∀ c ∈ gap.1, isLineBreak c = false := by
    rintro ⟨gap, some, blanks⟩ c member
    have isBlank := blanks c member
    rw [rowTokens.isBlankOrTab, Bool.or_eq_true, decide_eq_true_iff, decide_eq_true_iff] at isBlank
    rcases isBlank with rfl | rfl <;> rfl
  intro c member
  rw [line, lead] at member
  simp only [List.mem_append] at member
  rcases member with (name | gap | sleep | gap) | status | node
  · exact column row.name.2.2 c name
  · exact blank _ c gap
  · exact column row.sleepState.2.2 c sleep
  · exact blank _ c gap
  · exact column row.status_column.2 c status
  · exact row.node.2.1 c node

end WakeupRow

theorem newline_apart {c : Char} (inside : isLineBreak c = false) :
    (c == '\n') = false := by
  simp only [isLineBreak, Bool.or_eq_false_iff, decide_eq_false_iff_not] at inside
  simp [inside.1.1]

/-! ## The rows -/

theorem wakeupStatus_row
    (device : CStr) (row : WakeupRow) (rows : List WakeupRow) (n : Nat) :
    wakeupStatus device ((WakeupTable.rowsText (row :: rows)).take n) =
      (rowStatus device (row.line.take n)).or
        (wakeupStatus device ((WakeupTable.rowsText rows).take (n - (row.line.length + 1)))) := by
  have text : WakeupTable.rowsText (row :: rows) =
      row.line ++ '\n' :: WakeupTable.rowsText rows := by
    simp [WakeupTable.rowsText]
  rw [text]
  exact wakeupStatus_take device (fun c member => newline_apart (row.line_single c member)) _ n

/-- Rows about other devices are passed over. -/
theorem wakeupStatus_others
    {device : CStr} {rows : List WakeupRow} (apart : ∀ row ∈ rows, row.name.1 ≠ device) (n : Nat) :
    wakeupStatus device ((WakeupTable.rowsText rows).take n) = none := by
  induction rows generalizing n with
  | nil =>
      rw [WakeupTable.rowsText, List.flatMap_nil, List.take_nil, wakeupStatus_nil]
  | cons row rows inductionHypothesis =>
      have first : ¬row.name.1 = device := apart row List.mem_cons_self
      rw [wakeupStatus_row, row.rowStatus_take, if_neg fun about => first about.2.1, Option.none_or]
      exact inductionHypothesis (fun other member => apart other (List.mem_cons_of_mem row member)) _

/-- The row about a device decides. -/
theorem wakeupStatus_rows
    {device : CStr} {before after : List WakeupRow}
    (apartBefore : ∀ row ∈ before, row.name.1 ≠ device)
    (apartAfter : ∀ row ∈ after, row.name.1 ≠ device)
    (row : WakeupRow) (n : Nat) :
    wakeupStatus device ((WakeupTable.rowsText (before ++ row :: after)).take n) =
      rowStatus device (row.line.take (n - (WakeupTable.rowsText before).length)) := by
  induction before generalizing n with
  | nil =>
      rw [List.nil_append, wakeupStatus_row, wakeupStatus_others apartAfter, Option.or_none]
      rfl
  | cons first before inductionHypothesis =>
      have other : ¬first.name.1 = device := apartBefore first List.mem_cons_self
      have length : (WakeupTable.rowsText (first :: before)).length =
          first.line.length + 1 + (WakeupTable.rowsText before).length := by
        simp only [WakeupTable.rowsText, List.flatMap_cons, List.length_append, List.length_singleton]
      rw [List.cons_append, wakeupStatus_row, first.rowStatus_take,
        if_neg fun about => other about.2.1, Option.none_or,
        inductionHypothesis fun row member => apartBefore row (List.mem_cons_of_mem first member),
        length, Nat.sub_sub]

namespace WakeupTable

variable (table : WakeupTable)

theorem text_plain : ∀ c ∈ table.text, c ≠ '\r' ∧ c ≠ '\x00' := by
  have apart : ∀ {c : Char}, isLineBreak c = false → c ≠ '\r' ∧ c ≠ '\x00' := by
    intro c inside
    simp only [isLineBreak, Bool.or_eq_false_iff, decide_eq_false_iff_not] at inside
    exact ⟨inside.1.2, inside.2⟩
  intro c member
  rcases List.mem_append.mp member with inHeader | inRows
  · exact apart (table.header.2 c inHeader)
  · rcases List.mem_cons.mp inRows with rfl | inRows
    · decide
    · obtain ⟨row, -, inRow⟩ := List.mem_flatMap.mp inRows
      rcases List.mem_append.mp inRow with inLine | last
      · exact apart (row.line_single c inLine)
      · rw [List.mem_singleton.mp last]
        decide

/-- What the header says of a device, as the code reads it. -/
def headerStatus (device : CStr) : Option CStr :=
  rowStatus device (table.header.1.take wakeupBufferSize)

/-- The bytes of the buffer behind the header. -/
def afterHeader : Nat :=
  wakeupBufferSize - (table.header.1.length + 1)

theorem wakeupStatus_text (device : CStr) :
    wakeupStatus device (bufferText 16384 table.text) =
      (table.headerStatus device).or
        (wakeupStatus device ((rowsText table.rows).take table.afterHeader)) := by
  rw [wakeupStatus_buffer device table.text_plain]
  exact wakeupStatus_take device (fun c member => newline_apart (table.header.2 c member)) _ _

variable {table} {before after : List WakeupRow} {row : WakeupRow}

/-- A device has one row. -/
theorem rows_apart (split : table.rows = before ++ row :: after) :
    (∀ other ∈ before, other.name.1 ≠ row.name.1) ∧
      ∀ other ∈ after, other.name.1 ≠ row.name.1 := by
  have distinct := table.distinct
  rw [split, List.map_append, List.map_cons, List.nodup_append, List.nodup_cons] at distinct
  obtain ⟨-, ⟨notAfter, -⟩, apart⟩ := distinct
  constructor
  · intro other member same
    exact apart _ (List.mem_map_of_mem member) _ List.mem_cons_self same
  · intro other member same
    exact notAfter (same ▸ List.mem_map_of_mem member)

theorem split_of_mem {device : CStr} (listed : device ∈ table.names) :
    ∃ before row after, table.rows = before ++ row :: after ∧ row.name.1 = device := by
  obtain ⟨row, member, rfl⟩ := List.mem_map.mp listed
  obtain ⟨before, after, split⟩ := List.append_of_mem member
  exact ⟨before, row, after, split, rfl⟩

theorem mem_names (split : table.rows = before ++ row :: after) :
    row.name.1 ∈ table.names := by
  refine List.mem_map_of_mem (f := fun row : WakeupRow => row.name.1) ?_
  rw [split]
  exact List.mem_append_right before List.mem_cons_self

/-- The bytes of the buffer behind the columns in front of a status. -/
def statusRoom (table : WakeupTable) (before : List WakeupRow) (row : WakeupRow) : Nat :=
  table.afterHeader - (rowsText before).length - row.lead.length

/-- What is read of a device of the table. -/
theorem wakeupStatus_listed (split : table.rows = before ++ row :: after) :
    wakeupStatus row.name.1 (bufferText 16384 table.text) =
      (table.headerStatus row.name.1).or
        (if (row.name.1.head?.map isAlpha).getD false ∧ 0 < table.statusRoom before row then
          some (row.status.take (table.statusRoom before row))
        else none) := by
  have apart := rows_apart split
  have reached : (row.lead.length < table.afterHeader - (rowsText before).length) ↔
      0 < table.statusRoom before row := by
    unfold statusRoom
    omega
  rw [wakeupStatus_text, split, wakeupStatus_rows apart.1 apart.2, row.rowStatus_take]
  simp only [true_and, reached]
  rfl

theorem wakeupStatus_stranger {device : CStr} (stranger : device ∉ table.names) :
    wakeupStatus device (bufferText 16384 table.text) = table.headerStatus device := by
  have apart : ∀ row ∈ table.rows, row.name.1 ≠ device := fun row member same =>
    stranger (same ▸ List.mem_map_of_mem member)
  rw [wakeupStatus_text, wakeupStatus_others apart, Option.or_none]

/-! ## Changes of a table -/

theorem rows_update (split : table.rows = before ++ row :: after) (change : Bool → Bool) :
    (table.update change row.name.1).rows =
      before ++ row.inState (change row.enabled) :: after := by
  have apart := rows_apart split
  have kept : ∀ rows : List WakeupRow, (∀ other ∈ rows, other.name.1 ≠ row.name.1) →
      rows.map (fun other =>
        if other.name.1 = row.name.1 then other.inState (change other.enabled)
        else other) = rows := by
    intro rows others
    refine (List.map_congr_left fun other member => ?_).trans (List.map_id rows)
    rw [if_neg (others other member)]
    rfl
  unfold update
  dsimp only
  rw [split, List.map_append, List.map_cons, kept before apart.1, kept after apart.2, if_pos rfl]

theorem eq_of_rows {first second : WakeupTable}
    (header : first.header = second.header) (rows : first.rows = second.rows) :
    first = second := by
  cases first
  cases second
  cases header
  cases rows
  rfl

/-- A device that is in the state already. -/
theorem set_same (split : table.rows = before ++ row :: after) :
    table.set row.name.1 row.enabled = table := by
  refine eq_of_rows rfl ?_
  exact (rows_update split _).trans split.symm

theorem toggle_eq_set
    (split : table.rows = before ++ row :: after) {enabled : Bool} (other : row.enabled ≠ enabled) :
    table.toggle row.name.1 = table.set row.name.1 enabled := by
  refine eq_of_rows rfl ?_
  have flips : (!row.enabled) = enabled := by
    revert other
    cases row.enabled <;> cases enabled <;> decide
  refine (rows_update split not).trans (Eq.trans ?_ (rows_update split fun _ => enabled).symm)
  rw [flips]

theorem enabled_of_set
    (split : table.rows = before ++ row :: after) {enabled : Bool}
    (same : table = table.set row.name.1 enabled) :
    row.enabled = enabled := by
  have rows : before ++ row :: after = before ++ row.inState enabled :: after :=
    split.symm.trans ((congrArg rows same).trans (rows_update split _))
  have rowIs := (List.cons.inj (List.append_cancel_left rows)).1
  exact congrArg WakeupRow.enabled rowIs

end WakeupTable

/-! ## Runs -/

section Runs

variable {table : WakeupTable} {device : CStr} {enabled : Bool}

theorem readFileString_table (table : WakeupTable) (written : List CStr) (proc : Proc) :
    readFileString acpiWakeupPath 16384 wakeSourcesOs ⟨table, written⟩ proc =
      (.value (bufferText 16384 table.text), proc) := by
  have held : Holds wakeSourcesOs ⟨table, written⟩ acpiWakeupPath table.text := by
    simp [Holds, wakeSourcesOs, resolvePath, bareOs]
  exact readFileString_holds held 16384 proc

/-- A name that is no token of a row is refused. -/
theorem setWakeup_refused
    (refused : device = [] ∨ device.any isWakeupSeparator = true)
    (sys : WakeSources) (proc : Proc) :
    ∃ later, zenctlPowerSetWakeup device enabled wakeSourcesOs sys proc = (.failed, sys, later) := by
  unfold zenctlPowerSetWakeup
  by_cases empty : device = []
  · rw [if_pos empty]
    exact ⟨_, rfl⟩
  · rw [if_neg empty, if_pos (refused.resolve_left empty)]
    exact ⟨_, rfl⟩

theorem setWakeup_run
    (nonempty : device ≠ []) (plain : device.any isWakeupSeparator = false)
    (written : List CStr) (proc : Proc) :
    zenctlPowerSetWakeup device enabled wakeSourcesOs ⟨table, written⟩ proc =
      (match wakeupStatus device (bufferText 16384 table.text) with
        | none => getting (raise Err.enoent "device not in /proc/acpi/wakeup"
            (bounded 128 ("device=".toList ++ device)))
        | some status =>
            if decide (status = "*enabled".toList) = enabled then pure ()
            else writeFileString acpiWakeupPath device : SetM WakeSources Unit)
        wakeSourcesOs ⟨table, written⟩ proc := by
  unfold zenctlPowerSetWakeup
  rw [if_neg nonempty, if_neg (by rw [plain]; exact Bool.false_ne_true)]
  exact SetM.bind_getting_value (readFileString_table table written proc)

variable
  (nonempty : device ≠ [])
  (plain : device.any isWakeupSeparator = false)

include nonempty plain

theorem setWakeup_unread
    (unread : wakeupStatus device (bufferText 16384 table.text) = none)
    (written : List CStr) (proc : Proc) :
    ∃ later, zenctlPowerSetWakeup device enabled wakeSourcesOs ⟨table, written⟩ proc =
      (.failed, ⟨table, written⟩, later) := by
  rw [setWakeup_run nonempty plain, unread]
  exact ⟨_, rfl⟩

/-- The status that is read agrees, and nothing is written. -/
theorem setWakeup_agrees
    {status : CStr} (read : wakeupStatus device (bufferText 16384 table.text) = some status)
    (agrees : decide (status = "*enabled".toList) = enabled)
    (written : List CStr) (proc : Proc) :
    zenctlPowerSetWakeup device enabled wakeSourcesOs ⟨table, written⟩ proc =
      (.value (), ⟨table, written⟩, proc) := by
  rw [setWakeup_run nonempty plain, read]
  dsimp only
  rw [if_pos agrees]
  rfl

/-- It does not, and the name is written. -/
theorem setWakeup_differs
    {status : CStr} (read : wakeupStatus device (bufferText 16384 table.text) = some status)
    (differs : decide (status = "*enabled".toList) ≠ enabled)
    (written : List CStr) (proc : Proc) :
    zenctlPowerSetWakeup device enabled wakeSourcesOs ⟨table, written⟩ proc =
      (.value (), ⟨table.toggle device, written ++ [device]⟩, proc) := by
  rw [setWakeup_run nonempty plain, read]
  dsimp only
  rw [if_neg differs]
  rfl

/-- What is read and told to be different a second time makes a repetition write again. -/
theorem setWakeup_rewrites
    (sets : SetsWakeup table device enabled)
    (listed : device ∈ table.names)
    {status again : CStr}
    (read : wakeupStatus device (bufferText 16384 table.text) = some status)
    (differs : decide (status = "*enabled".toList) ≠ enabled)
    (readAgain : wakeupStatus device (bufferText 16384 (table.toggle device).text) = some again) :
    decide (again = "*enabled".toList) = enabled := by
  by_contra differsAgain
  obtain ⟨changed, later, run, -, final, repeated⟩ := sets.listed listed [] freshProc
  rw [setWakeup_differs nonempty plain read differs] at run
  obtain ⟨-, reached⟩ := Prod.mk.inj run
  obtain ⟨rfl, rfl⟩ := Prod.mk.inj reached
  rw [setWakeup_differs nonempty plain readAgain differsAgain] at repeated
  have written := congrArg (fun result => result.2.1.written.length) repeated
  simp at written

end Runs

/-! ## Which settings are right -/

theorem column_separator
    (column : Column) (noSlash : '/' ∉ column.1) :
    column.1.any isWakeupSeparator = false := by
  rw [List.any_eq_false]
  intro c member separates
  have inside := column.2.2 c member
  simp only [isColumnBreak, Bool.or_eq_false_iff, decide_eq_false_iff_not] at inside
  simp only [isWakeupSeparator, Bool.or_eq_true, decide_eq_true_iff] at separates
  rcases separates with (((slash | newline) | carriage) | tab) | blank
  · exact noSlash (slash ▸ member)
  · exact inside.1.1.2 newline
  · exact inside.1.2 carriage
  · exact inside.1.1.1.2 tab
  · exact inside.1.1.1.1 blank

theorem rowStatus_alpha
    {device line status : CStr} (found : rowStatus device line = some status) :
    (device.head?.map isAlpha).getD false = true := by
  unfold rowStatus at found
  split at found
  · split at found
    · rename_i about
      rw [← about.2]
      exact about.1
    · cases found
  · cases found

/-- A status that is cut short is never taken for an enabled one. -/
theorem status_cut
    (row : WakeupRow) {room : Nat} (short : room < 8) :
    decide (row.status.take room = "*enabled".toList) = false := by
  rw [decide_eq_false_iff_not]
  intro same
  have length := congrArg List.length same
  have enabled : "*enabled".toList.length = 8 := rfl
  rw [List.length_take, enabled] at length
  omega

theorem status_read
    (row : WakeupRow) {room : Nat} (enough : row.enabled = true → 8 ≤ room) :
    decide (row.status.take room = "*enabled".toList) = row.enabled := by
  unfold WakeupRow.status
  cases state : row.enabled with
  | true =>
      have whole := List.take_of_length_le (l := "*enabled".toList) (enough state)
      rw [if_pos rfl, decide_eq_true_iff]
      exact whole
  | false =>
      rw [if_neg Bool.false_ne_true, decide_eq_false_iff_not]
      intro same
      have part := List.take_prefix room "*disabled".toList
      rw [same] at part
      exact absurd part (by decide)

namespace WakeupTable

variable {table : WakeupTable} {before after : List WakeupRow} {row : WakeupRow} {enabled : Bool}

/-- The room a setting needs behind the columns in front of the status. -/
theorem room_iff (need : Nat) (some : 0 < need) :
    table.header.1.length + 1 + (rowsText before).length + row.lead.length + need ≤
        wakeupBufferSize ↔ need ≤ table.statusRoom before row := by
  unfold statusRoom afterHeader
  omega

/-- What is read of a device whose row was toggled. -/
theorem wakeupStatus_toggled (split : table.rows = before ++ row :: after) :
    wakeupStatus row.name.1 (bufferText 16384 (table.toggle row.name.1).text) =
      (table.headerStatus row.name.1).or
        (if (row.name.1.head?.map isAlpha).getD false ∧ 0 < table.statusRoom before row then
          some ((row.inState (!row.enabled)).status.take (table.statusRoom before row))
        else none) := by
  have read := wakeupStatus_listed (rows_update split not)
  exact read

/-- A setting that writes nothing is right when the device is in that state already. -/
theorem enabled_of_agrees
    (split : table.rows = before ++ row :: after)
    (sets : SetsWakeup table row.name.1 enabled)
    (plain : row.name.1.any isWakeupSeparator = false)
    {status : CStr}
    (read : wakeupStatus row.name.1 (bufferText 16384 table.text) = some status)
    (agrees : decide (status = "*enabled".toList) = enabled) :
    row.enabled = enabled := by
  obtain ⟨changed, later, run, right, -⟩ := sets.listed (mem_names split) [] freshProc
  rw [setWakeup_agrees row.name.2.1 plain read agrees] at run
  obtain ⟨-, reached⟩ := Prod.mk.inj run
  obtain ⟨rfl, -⟩ := Prod.mk.inj reached
  exact enabled_of_set split right

theorem settable_of_sets
    (split : table.rows = before ++ row :: after)
    (sets : SetsWakeup table row.name.1 enabled) :
    table.Settable before row enabled := by
  have listed := mem_names split
  have nonempty : row.name.1 ≠ [] := row.name.2.1
  have noSlash : '/' ∉ row.name.1 := by
    intro slash
    have refused : row.name.1.any isWakeupSeparator = true :=
      List.any_eq_true.mpr ⟨_, slash, rfl⟩
    obtain ⟨changed, later, run, -⟩ := sets.listed listed [] freshProc
    obtain ⟨final, failed⟩ := @setWakeup_refused _ enabled (.inr refused) ⟨table, []⟩ freshProc
    rw [failed] at run
    cases run
  have plain := column_separator row.name noSlash
  have read := wakeupStatus_listed split
  have readAgain := wakeupStatus_toggled split
  unfold Settable
  change _ ∧ match table.headerStatus row.name.1 with
    | some _ => _
    | none => _
  cases named : table.headerStatus row.name.1 with
  | some status =>
      rw [named, Option.some_or] at read readAgain
      refine ⟨by simp [isWakeupName, noSlash, rowStatus_alpha named], ?_⟩
      by_cases agrees : decide (status = "*enabled".toList) = enabled
      · exact ⟨agrees, enabled_of_agrees split sets plain read agrees⟩
      · have settled := setWakeup_rewrites nonempty plain sets listed read agrees readAgain
        exact absurd settled agrees
  | none =>
      rw [named, Option.none_or] at read readAgain
      by_cases seen : (row.name.1.head?.map isAlpha).getD false = true ∧
          0 < table.statusRoom before row
      · refine ⟨by simp [isWakeupName, noSlash, seen.1], ?_⟩
        rw [if_pos seen] at read readAgain
        rw [room_iff _ (by split <;> decide)]
        by_contra short
        by_cases whole : (row.enabled || enabled) = true
        · rw [if_pos whole, not_le] at short
          cases enabled with
          | true =>
              have differs : decide (row.status.take (table.statusRoom before row) =
                  "*enabled".toList) ≠ true := by
                rw [status_cut row short]
                exact Bool.false_ne_true
              have settled := setWakeup_rewrites nonempty plain sets listed read differs readAgain
              rw [status_cut _ short] at settled
              exact Bool.false_ne_true settled
          | false =>
              have state := enabled_of_agrees split sets plain read (status_cut row short)
              rw [state] at whole
              exact Bool.false_ne_true whole
        · rw [if_neg whole] at short
          exact short seen.2
      · rw [if_neg seen] at read
        obtain ⟨changed, later, run, -⟩ := sets.listed listed [] freshProc
        obtain ⟨final, failed⟩ := @setWakeup_unread table _ enabled nonempty plain read [] freshProc
        rw [failed] at run
        cases run

/-- The state of a device is read, and read again after a change. -/
theorem reads_of_settable
    (split : table.rows = before ++ row :: after)
    (unnamed : table.headerStatus row.name.1 = none)
    (settable : table.Settable before row enabled) :
    ∃ status again,
      wakeupStatus row.name.1 (bufferText 16384 table.text) = some status ∧
        decide (status = "*enabled".toList) = row.enabled ∧
        wakeupStatus row.name.1 (bufferText 16384 (table.toggle row.name.1).text) = some again ∧
        (row.enabled ≠ enabled → decide (again = "*enabled".toList) = enabled) := by
  obtain ⟨name, room⟩ := settable
  rw [show rowStatus row.name.1 (table.header.1.take wakeupBufferSize) = none from unnamed] at room
  dsimp only at room
  rw [room_iff _ (by split <;> decide)] at room
  have some : 0 < table.statusRoom before row := by
    split at room <;> omega
  have seen : (row.name.1.head?.map isAlpha).getD false = true ∧
      0 < table.statusRoom before row := by
    rw [isWakeupName, Bool.and_eq_true] at name
    exact ⟨name.2, some⟩
  have read := wakeupStatus_listed split
  have readAgain := wakeupStatus_toggled split
  rw [unnamed, Option.none_or, if_pos seen] at read readAgain
  refine ⟨_, _, read, ?_, readAgain, ?_⟩
  · refine status_read row fun state => ?_
    rwa [state, Bool.true_or, if_pos rfl] at room
  · intro other
    have flips : (!row.enabled) = enabled := by
      revert other
      cases row.enabled <;> cases enabled <;> decide
    rw [flips]
    refine status_read (row.inState enabled) fun state => ?_
    have asked : enabled = true := state
    rwa [asked, Bool.or_true, if_pos rfl] at room

theorem listed_of_settable
    (split : table.rows = before ++ row :: after)
    (settable : table.Settable before row enabled)
    (written : List CStr) (proc : Proc) :
    ∃ changed later,
      zenctlPowerSetWakeup row.name.1 enabled wakeSourcesOs ⟨table, written⟩ proc =
          (.value (), changed, later) ∧
        changed.table = table.set row.name.1 enabled ∧
        ∃ final, zenctlPowerSetWakeup row.name.1 enabled wakeSourcesOs changed later =
          (.value (), changed, final) := by
  have nonempty : row.name.1 ≠ [] := row.name.2.1
  have noSlash : '/' ∉ row.name.1 := by
    have name := settable.1
    rw [isWakeupName, Bool.and_eq_true] at name
    simpa using name.1
  have plain := column_separator row.name noSlash
  cases named : table.headerStatus row.name.1 with
  | some status =>
      obtain ⟨-, told⟩ := settable
      rw [show rowStatus row.name.1 (table.header.1.take wakeupBufferSize) = some status
        from named] at told
      obtain ⟨agrees, state⟩ := told
      have read := wakeupStatus_listed split
      rw [named, Option.some_or] at read
      have quiet := setWakeup_agrees nonempty plain read agrees written
      refine ⟨_, _, quiet proc, ?_, _, quiet proc⟩
      rw [← state]
      exact (set_same split).symm
  | none =>
      obtain ⟨status, again, read, tells, readAgain, tellsAgain⟩ :=
        reads_of_settable split named settable
      by_cases state : row.enabled = enabled
      · have agrees := tells.trans state
        have quiet := setWakeup_agrees nonempty plain read agrees written
        refine ⟨_, _, quiet proc, ?_, _, quiet proc⟩
        rw [← state]
        exact (set_same split).symm
      · have differs : decide (status = "*enabled".toList) ≠ enabled := by
          rw [tells]
          exact state
        exact ⟨_, _, setWakeup_differs nonempty plain read differs written proc,
          toggle_eq_set split state, _,
          setWakeup_agrees nonempty plain readAgain (tellsAgain state) _ proc⟩

theorem stranger_iff {device : CStr} (stranger : device ∉ table.names) :
    (∀ written proc, ∃ later,
      zenctlPowerSetWakeup device enabled wakeSourcesOs ⟨table, written⟩ proc =
        (.failed, ⟨table, written⟩, later)) ↔
      device = [] ∨ device.any isWakeupSeparator = true ∨ table.headerStatus device = none := by
  have read := wakeupStatus_stranger stranger
  constructor
  · intro fails
    by_contra accepted
    rw [not_or, not_or, Bool.not_eq_true] at accepted
    obtain ⟨nonempty, plain, named⟩ := accepted
    obtain ⟨status, told⟩ := Option.ne_none_iff_exists'.mp named
    rw [told] at read
    obtain ⟨later, run⟩ := fails [] freshProc
    by_cases agrees : decide (status = "*enabled".toList) = enabled
    · rw [setWakeup_agrees nonempty plain read agrees] at run
      cases run
    · rw [setWakeup_differs nonempty plain read agrees] at run
      cases run
  · intro unread written proc
    by_cases refused : device = [] ∨ device.any isWakeupSeparator = true
    · exact setWakeup_refused refused _ proc
    · rw [← or_assoc] at unread
      have unnamed := unread.resolve_left refused
      rw [not_or, Bool.not_eq_true] at refused
      exact setWakeup_unread refused.1 refused.2 (read.trans unnamed) written proc

end WakeupTable

theorem setsWakeup_iff (table : WakeupTable) (device : CStr) (enabled : Bool) :
    SetsWakeup table device enabled ↔ table.Plain device enabled := by
  constructor
  · intro sets
    refine ⟨?_, fun stranger => (WakeupTable.stranger_iff stranger).mp (sets.stranger stranger)⟩
    rintro before row after split rfl
    exact WakeupTable.settable_of_sets split sets
  · intro plain
    refine ⟨?_, fun stranger => (WakeupTable.stranger_iff stranger).mpr (plain.stranger stranger)⟩
    intro listed written proc
    obtain ⟨before, row, after, split, rfl⟩ := WakeupTable.split_of_mem listed
    exact WakeupTable.listed_of_settable split (plain.listed before row after split rfl) written proc

/-- The table of a machine without wake sources, as the kernel prints it. -/
def emptyWakeupTable : WakeupTable where
  header := ⟨"Device\tS-state\t  Status   Sysfs node".toList, by
    have plain : ("Device\tS-state\t  Status   Sysfs node".toList.all
      fun c => !isLineBreak c) = true := by decide
    intro c member
    simpa using List.all_eq_true.mp plain c member⟩
  rows := []
  distinct := .nil

/-- The header is taken for a row, and its first word for a device. -/
theorem setWakeup_header :
    ¬SetsWakeup emptyWakeupTable "Device".toList true := by
  intro sets
  obtain ⟨later, run⟩ := sets.stranger (by decide) [] freshProc
  have status : (zenctlPowerSetWakeup "Device".toList true wakeSourcesOs
      ⟨emptyWakeupTable, []⟩ freshProc).1 = .value () := by
    decide +kernel
  rw [run] at status
  cases status

end Zenctl
