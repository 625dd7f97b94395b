import Zenctl.JsonReader
import Zenctl.EscapedStrings
import Zenctl.Utf8
import Mathlib.Tactic.IntervalCases

namespace Zenctl

open CString Json

/-!
# Replies

A reply is one JSON object in UTF-8 that says either `ok` and carries `data`, or
`error` and carries an `error` member.  Here stands what the texts of `output.c`
are as JSON: the ones that are replies when the strings they carry are valid
UTF-8, and the ones that never are.
-/

/-- The object has a member of this name with this text. -/
def HasMember (entries : List (CStr × CStr)) (key value : CStr) : Prop :=
  (key, value) ∈ entries

/-- One object with its status, and the member that belongs to the status. -/
def IsReplyObject (text : CStr) : Prop :=
  ∃ entries, IsObject entries text ∧
    (HasMember entries "status" "\"ok\"" ∧ (∃ value, HasMember entries "data" value) ∨
      HasMember entries "status" "\"error\"" ∧ ∃ value, HasMember entries "error" value)

/-- The object, and the bytes of the text are those of characters. -/
def IsReply (text : CStr) : Prop :=
  IsReplyObject text ∧ IsUtf8 text

/-- A value, and the bytes are those of characters. -/
structure IsValue (text : CStr) : Prop where
  derived : Derives .value text
  spelled : IsUtf8 text

/-! ## Values -/

/-- What `out_json_escape` puts between the quotes. -/
def escapedBody (text : CStr) : CStr :=
  text.flatMap escapeChar

theorem escapedBody_body (text : CStr) : StringBody (escapedBody text) := by
  obtain ⟨body, shape, derived⟩ := quoted_of_decodeString (decodeString_outJsonEscape text)
  have same : escapedBody text = body := List.append_cancel_right (List.tail_eq_of_cons_eq shape)
  rwa [same]

theorem outJsonEscape_derives (text : CStr) : Derives .value (outJsonEscape text) :=
  .string (escapedBody_body text)

theorem hexDigit_ascii (n : Nat) : (hexDigit (n % 16)).toNat < 0x80 := by
  have small : n % 16 < 16 := Nat.mod_lt _ (by decide)
  interval_cases n % 16 <;> decide

theorem escapeChar_ascii
    (c : Char) (ascii : c.toNat < 0x80) :
    isAscii (escapeChar c) = true ∧ escapeChar c ≠ [] := by
  unfold escapeChar
  split_ifs
  all_goals refine ⟨?_, List.cons_ne_nil _ _⟩
  all_goals first | rfl | simp [isAscii, hexByte, hexDigit_ascii, ascii]

/-- Bytes of wide characters are printed as they are. -/
theorem escapeChar_wide (c : Char) (wide : ¬c.toNat < 0x80) : escapeChar c = [c] := by
  have other : ∀ {d : Char}, d.toNat < 0x80 → c ≠ d := by
    rintro d ascii rfl
    exact wide ascii
  unfold escapeChar
  rw [if_neg (other (by decide)), if_neg (other (by decide)), if_neg (other (by decide)),
    if_neg (other (by decide)), if_neg (other (by decide)), if_neg (other (by decide)),
    if_neg (other (by decide)), if_neg (by omega)]

theorem isUtf8_outJsonEscape (text : CStr) : IsUtf8 (outJsonEscape text) ↔ IsUtf8 text := by
  unfold outJsonEscape
  rw [isUtf8_cons (by decide), isUtf8_append_ascii rfl]
  exact isUtf8_flatMap_iff escapeChar_ascii escapeChar_wide text

theorem isAscii_outJsonEscape {text : CStr} (ascii : isAscii text = true) :
    isAscii (outJsonEscape text) = true := by
  rw [isAscii, List.all_eq_true] at ascii
  have escaped : ∀ c ∈ text, isAscii (escapeChar c) = true := fun c member =>
    (escapeChar_ascii c (of_decide_eq_true (ascii c member))).1
  simpa [outJsonEscape, isAscii, List.all_flatMap] using escaped

theorem outJsonEscape_value {text : CStr} (spelled : IsUtf8 text) : IsValue (outJsonEscape text) :=
  ⟨outJsonEscape_derives text, (isUtf8_outJsonEscape text).mpr spelled⟩

/-- Digits keep a number going. -/
theorem read_digits
    {digits : CStr} (all : ∀ c ∈ digits, isDigit c = true) :
    NumState.read .int digits = some .int := by
  induction digits with
  | nil => rfl
  | cons c rest inductionHypothesis =>
      have here := all c (List.mem_cons_self ..)
      simp only [isDigit, Bool.and_eq_true, decide_eq_true_eq] at here
      have moved : NumState.next .int c = some .int := if_pos here
      rw [NumState.read, moved]
      exact inductionHypothesis fun d member => all d (List.mem_cons_of_mem c member)

/-- A digit that is not zero starts a number of several digits. -/
theorem start_digit
    {d : Nat} (small : d < 10) (positive : d ≠ 0) :
    NumState.start (Char.ofNat ('0'.toNat + d)) = some .int ∧
      NumState.next .minus (Char.ofNat ('0'.toNat + d)) = some .int := by
  interval_cases d
  · exact absurd rfl positive
  all_goals exact ⟨rfl, rfl⟩

/-- A printed number has no leading zero. -/
theorem showNat_shape (n : Nat) :
    showNat n = ['0'] ∨
      ∃ d rest, d < 10 ∧ d ≠ 0 ∧ showNat n = Char.ofNat ('0'.toNat + d) :: rest ∧
        ∀ c ∈ rest, isDigit c = true := by
  by_cases zero : n = 0
  · exact .inl (by rw [zero]; rfl)
  have digits := (showNat_digits n).2
  have nonempty : Nat.digits 10 n ≠ [] := Nat.digits_ne_nil_iff_ne_zero.mpr zero
  have shape : showNat n = Char.ofNat ('0'.toNat + (Nat.digits 10 n).getLast nonempty) ::
      ((Nat.digits 10 n).dropLast.reverse.map fun d => Char.ofNat ('0'.toNat + d)) := by
    unfold showNat
    rw [if_neg zero]
    conv_lhs => rw [← List.dropLast_append_getLast nonempty]
    rw [List.reverse_append]
    rfl
  rw [shape] at digits
  exact .inr ⟨_, _, Nat.digits_lt_base (by decide) (List.getLast_mem nonempty),
    Nat.getLast_digit_ne_zero 10 zero, shape,
    fun c member => digits c (List.mem_cons_of_mem _ member)⟩

theorem showInt_derives (n : Int) : Derives .value (showInt n) := by
  refine .number ?_
  cases n with
  | ofNat n =>
      change IsNumber (showNat n)
      rcases showNat_shape n with zero | ⟨d, rest, small, positive, shape, digits⟩
      · rw [zero]
        exact ⟨.zero, .zero, rfl, rfl, rfl⟩
      · rw [shape]
        exact ⟨.int, .int, (start_digit small positive).1, read_digits digits, rfl⟩
  | negSucc n =>
      change IsNumber ('-' :: showNat (n + 1))
      rcases showNat_shape (n + 1) with zero | ⟨d, rest, small, positive, shape, digits⟩
      · rw [zero]
        exact ⟨.minus, .zero, rfl, rfl, rfl⟩
      · rw [shape]
        refine ⟨.minus, .int, rfl, ?_, rfl⟩
        rw [NumState.read, (start_digit small positive).2]
        exact read_digits digits

theorem isAscii_showNat (n : Nat) : isAscii (showNat n) = true := by
  refine List.all_eq_true.mpr fun c member => decide_eq_true ?_
  have digit := (showNat_digits n).2 c member
  simp only [isDigit, Bool.and_eq_true, decide_eq_true_eq] at digit
  exact Nat.lt_of_le_of_lt (UInt32.le_iff_toNat_le.mp (Char.le_def.mp digit.2)) (by decide)

theorem isAscii_showInt (n : Int) : isAscii (showInt n) = true := by
  cases n with
  | ofNat n => exact isAscii_showNat n
  | negSucc n => exact (Bool.and_eq_true _ _).mpr ⟨rfl, isAscii_showNat (n + 1)⟩

/-- The strings a field carries besides its key. -/
def Field.texts : Field → List CStr
  | .string _ value => [value]
  | _ => []

/--
The field is printed as a member: its strings are valid UTF-8, and its value is
a JSON value, which only `%g` could miss.
-/
def Field.Printable : Field → Prop
  | .string key value => IsUtf8 key ∧ IsUtf8 value
  | .int key _ | .bool key _ => IsUtf8 key
  | .double key text => IsUtf8 key ∧ IsValue text

/-- Fields that may stand in an object. -/
def Printable (fields : List Field) : Prop :=
  ∀ field ∈ fields, field.Printable

/-- The field has a key in ASCII and was not printed with `%g`. -/
def Field.isPlain : Field → Bool
  | .double .. => false
  | .string key _ | .int key _ | .bool key _ => isAscii key

/-- The field is plain and carries ASCII text at most. -/
def Field.isAscii (field : Field) : Bool :=
  field.isPlain && field.texts.all Json.isAscii

theorem Field.printable_plain
    {field : Field} (plain : field.isPlain = true) :
    field.Printable ↔ ∀ text ∈ field.texts, IsUtf8 text := by
  cases field with
  | string key value =>
      exact (and_iff_right (isUtf8_ascii plain)).trans List.forall_mem_singleton.symm
  | int key value => exact iff_of_true (isUtf8_ascii plain) (List.forall_mem_nil _)
  | bool key value => exact iff_of_true (isUtf8_ascii plain) (List.forall_mem_nil _)
  | double key text => cases plain

theorem printable_plain
    {fields : List Field} (plain : fields.all Field.isPlain = true) :
    Printable fields ↔ ∀ text ∈ fields.flatMap Field.texts, IsUtf8 text := by
  rw [List.forall_mem_flatMap]
  exact forall₂_congr fun field member =>
    Field.printable_plain (List.all_eq_true.mp plain field member)

theorem printable_ascii
    {fields : List Field} (ascii : fields.all Field.isAscii = true) :
    Printable fields := by
  intro field member
  obtain ⟨plain, texts⟩ := (Bool.and_eq_true _ _).mp (List.all_eq_true.mp ascii field member)
  exact (Field.printable_plain plain).mpr fun text inside =>
    isUtf8_ascii (List.all_eq_true.mp texts text inside)

theorem Printable.append
    {fields others : List Field} (first : Printable fields) (second : Printable others) :
    Printable (fields ++ others) :=
  List.forall_mem_append.mpr ⟨first, second⟩

/-- Fields that are left out under some condition. -/
theorem printable_if
    {fields : List Field} {condition : Prop} [Decidable condition] (printable : Printable fields) :
    Printable (if condition then fields else []) := by
  split
  · exact printable
  · exact List.forall_mem_nil _

theorem Field.key_spelled {field : Field} (printable : field.Printable) : IsUtf8 field.key := by
  cases field with
  | string key value => exact printable.1
  | int key value => exact printable
  | bool key value => exact printable
  | double key text => exact printable.1

theorem Field.value_isValue
    {field : Field} (printable : field.Printable) :
    IsValue field.valueText := by
  cases field with
  | string key value => exact outJsonEscape_value printable.2
  | int key value => exact ⟨showInt_derives value, isUtf8_ascii (isAscii_showInt value)⟩
  | bool key value =>
      cases value
      · exact ⟨.literal (List.mem_cons_of_mem _ (List.mem_cons_self ..)), isUtf8_ascii rfl⟩
      · exact ⟨.literal (List.mem_cons_self ..), isUtf8_ascii rfl⟩
  | double key text => exact printable.2

/-- A member is text as far as its key and its value are. -/
theorem Field.text_isUtf8 (field : Field) :
    IsUtf8 field.text ↔ IsUtf8 field.key ∧ IsUtf8 field.valueText := by
  rw [Field.text, isUtf8_append_cons (by decide), isUtf8_outJsonEscape]

theorem Field.text_spelled {field : Field} (printable : field.Printable) : IsUtf8 field.text :=
  field.text_isUtf8.mpr ⟨Field.key_spelled printable, (Field.value_isValue printable).spelled⟩

/-- A plain field that is printed as text is printed as a member. -/
theorem Field.printable_of_text
    {field : Field} (plain : field.isPlain = true) (spelled : IsUtf8 field.text) :
    field.Printable := by
  obtain ⟨key, value⟩ := field.text_isUtf8.mp spelled
  cases field with
  | string _ text => exact ⟨key, (isUtf8_outJsonEscape text).mp value⟩
  | int _ _ => exact key
  | bool _ _ => exact key
  | double _ _ => cases plain

/-! ## Objects and arrays -/

theorem Ws.nil : Ws [] := List.forall_mem_nil _

theorem outJsonItems_cons (item : CStr) (rest : List CStr) :
    outJsonItems true (item :: rest) =
      if rest = [] then item else item ++ ',' :: outJsonItems true rest := by
  cases rest with
  | nil => simp [outJsonItems, emitComma]
  | cons next rest => rfl

theorem outJsonItems_concat (items : List CStr) (last : CStr) :
    outJsonItems true (items ++ [last]) =
      outJsonItems true items ++ emitComma items.isEmpty ++ last := by
  induction items with
  | nil => simp [outJsonItems, emitComma]
  | cons item rest inductionHypothesis =>
      rw [List.cons_append, outJsonItems_cons, if_neg (by simp), inductionHypothesis,
        outJsonItems_cons]
      cases rest with
      | nil => simp [outJsonItems, emitComma]
      | cons next rest => simp [emitComma]

theorem outJsonFields_items (first : Bool) (fields : List Field) :
    outJsonFields first fields = outJsonItems first (fields.map Field.text) := by
  induction fields generalizing first with
  | nil => rfl
  | cons field rest inductionHypothesis =>
      rw [outJsonFields, inductionHypothesis]
      rfl

/-- Items with commas between them. -/
theorem isUtf8_items (items : List CStr) :
    IsUtf8 (outJsonItems true items) ↔ ∀ item ∈ items, IsUtf8 item := by
  induction items with
  | nil => exact iff_of_true .nil (List.forall_mem_nil _)
  | cons item rest inductionHypothesis =>
      rw [outJsonItems_cons, List.forall_mem_cons]
      cases rest with
      | nil => exact (and_iff_left (List.forall_mem_nil _)).symm
      | cons next rest =>
          rw [if_neg (List.cons_ne_nil _ _), isUtf8_append_cons (by decide), inductionHypothesis]

theorem isUtf8_arrayText (items : List CStr) :
    IsUtf8 (arrayText items) ↔ ∀ item ∈ items, IsUtf8 item := by
  rw [arrayText, isUtf8_cons (by decide), isUtf8_append_ascii rfl, isUtf8_items]

theorem isUtf8_fields (fields : List Field) :
    IsUtf8 (outJsonFields true fields) ↔ ∀ field ∈ fields, IsUtf8 field.text := by
  rw [outJsonFields_items, isUtf8_items, List.forall_mem_map]

/-- Plain fields are text exactly when they may stand in an object. -/
theorem isUtf8_plainFields
    {fields : List Field} (plain : fields.all Field.isPlain = true) :
    IsUtf8 (outJsonFields true fields) ↔ Printable fields := by
  rw [isUtf8_fields]
  exact forall₂_congr fun field member =>
    ⟨Field.printable_of_text (List.all_eq_true.mp plain field member), Field.text_spelled⟩

/-- A printed member and what it stands for. -/
structure Member where
  entry : CStr × CStr
  text : CStr
  derived : Derives (.members [entry]) text

/-- A member with the key as `out_json_escape` prints it. -/
def Member.of (key value : CStr) (derived : Derives .value value) : Member where
  entry := (escapedBody key, value)
  text := outJsonEscape key ++ ':' :: value
  derived := by
    have printed : outJsonEscape key ++ ':' :: value =
        [] ++ quoted (escapedBody key) ++ [] ++ ':' :: ([] ++ value ++ []) := by
      simp only [outJsonEscape, quoted, escapedBody, List.nil_append, List.append_nil]
    rw [printed]
    exact .member Ws.nil (escapedBody_body key) Ws.nil Ws.nil derived Ws.nil

/-- Members with commas between them. -/
theorem members_derive
    {members : List Member} (nonempty : members ≠ []) :
    Derives (.members (members.map Member.entry))
      (outJsonItems true (members.map Member.text)) := by
  induction members with
  | nil => exact absurd rfl nonempty
  | cons first rest inductionHypothesis =>
      rw [List.map_cons, List.map_cons, outJsonItems_cons]
      cases rest with
      | nil => exact first.derived
      | cons next rest =>
          rw [if_neg (by simp)]
          exact .moreMembers first.derived (inductionHypothesis (by simp))

/-- An object of printed members. -/
theorem object_derives (members : List Member) :
    Derives .value ('{' :: (outJsonItems true (members.map Member.text) ++ ['}'])) := by
  cases members with
  | nil => exact .emptyObject Ws.nil
  | cons first rest => exact .object (members_derive (List.cons_ne_nil first rest))

/-- An array of values. -/
theorem arrayText_derives
    {items : List CStr} (values : ∀ item ∈ items, Derives .value item) :
    Derives .value (arrayText items) := by
  have elements : ∀ {items : List CStr}, items ≠ [] → (∀ item ∈ items, Derives .value item) →
      Derives .elements (outJsonItems true items) := by
    intro items nonempty values
    induction items with
    | nil => exact absurd rfl nonempty
    | cons item rest inductionHypothesis =>
        have single : Derives .elements ([] ++ item ++ []) :=
          .element Ws.nil (values item (List.mem_cons_self ..)) Ws.nil
        rw [List.nil_append, List.append_nil] at single
        rw [outJsonItems_cons]
        cases rest with
        | nil => exact single
        | cons next rest =>
            rw [if_neg (by simp)]
            exact .moreElements single (inductionHypothesis (by simp) fun item member =>
              values item (List.mem_cons_of_mem _ member))
  cases items with
  | nil => exact .emptyArray Ws.nil
  | cons item rest => exact .array (elements (List.cons_ne_nil item rest) values)

/-- The fields of an object are printed members. -/
theorem fields_members
    {fields : List Field} (printable : Printable fields) :
    ∃ members : List Member, members.map Member.text = fields.map Field.text := by
  induction fields with
  | nil => exact ⟨[], rfl⟩
  | cons field rest inductionHypothesis =>
      obtain ⟨members, texts⟩ := inductionHypothesis fun f member =>
        printable f (List.mem_cons_of_mem _ member)
      have here := printable field (List.mem_cons_self ..)
      exact ⟨.of field.key field.valueText (Field.value_isValue here).derived :: members,
        congrArg (field.text :: ·) texts⟩

theorem objectText_derives
    {fields : List Field} (printable : Printable fields) :
    Derives .value (objectText fields) := by
  obtain ⟨members, texts⟩ := fields_members printable
  have object := object_derives members
  rw [texts, ← outJsonFields_items] at object
  exact object

theorem Printable.spelled {fields : List Field} (printable : Printable fields) :
    IsUtf8 (outJsonFields true fields) :=
  (isUtf8_fields fields).mpr fun field member => Field.text_spelled (printable field member)

theorem isUtf8_objectText (fields : List Field) :
    IsUtf8 (objectText fields) ↔ IsUtf8 (outJsonFields true fields) := by
  rw [objectText, isUtf8_cons (by decide), isUtf8_append_ascii rfl]

theorem objectText_value {fields : List Field} (printable : Printable fields) :
    IsValue (objectText fields) :=
  ⟨objectText_derives printable, (isUtf8_objectText fields).mpr printable.spelled⟩

theorem arrayText_value {items : List CStr} (values : ∀ item ∈ items, IsValue item) :
    IsValue (arrayText items) where
  derived := arrayText_derives fun item member => (values item member).derived
  spelled := (isUtf8_arrayText items).mpr fun item member => (values item member).spelled

/-- Fields and one more member, in braces. -/
def objectThen (fields : List Field) (key value : CStr) : CStr :=
  '{' :: (outJsonFields true fields ++ emitComma fields.isEmpty ++
    outJsonEscape key ++ ':' :: (value ++ ['}']))

theorem objectThen_derives
    {fields : List Field} (printable : Printable fields) (key : CStr)
    {value : CStr} (derived : Derives .value value) :
    Derives .value (objectThen fields key value) := by
  obtain ⟨members, texts⟩ := fields_members printable
  have object := object_derives (members ++ [.of key value derived])
  rw [List.map_append, texts, List.map_singleton, outJsonItems_concat, ← outJsonFields_items,
    List.isEmpty_map] at object
  simpa only [objectThen, Member.of, List.append_assoc, List.cons_append] using object

theorem isUtf8_objectThen
    {key : CStr} (ascii : isAscii key = true) (fields : List Field) (value : CStr) :
    IsUtf8 (objectThen fields key value) ↔ IsUtf8 (outJsonFields true fields) ∧ IsUtf8 value := by
  have comma : isAscii (emitComma fields.isEmpty) = true := by
    cases fields.isEmpty <;> rfl
  rw [objectThen, isUtf8_cons (by decide), isUtf8_append_cons (by decide),
    isUtf8_append_ascii (isAscii_outJsonEscape ascii), isUtf8_append_ascii comma,
    isUtf8_append_ascii rfl]

theorem objectThen_value
    {fields : List Field} (printable : Printable fields)
    {key value : CStr} (ascii : isAscii key = true) (isValue : IsValue value) :
    IsValue (objectThen fields key value) where
  derived := objectThen_derives printable key isValue.derived
  spelled := (isUtf8_objectThen ascii fields value).mpr ⟨printable.spelled, isValue.spelled⟩

/-! ## Replies of `output.c` -/

theorem plain_body
    {lead rest : CStr} (plain : lead.all isPlain = true) (body : StringBody rest) :
    StringBody (lead ++ rest) := by
  induction lead with
  | nil => exact body
  | cons c lead inductionHypothesis =>
      rw [List.all_cons, Bool.and_eq_true] at plain
      exact .plain plain.1 (inductionHypothesis plain.2)

/-- Two members in braces and a newline: the shape of every envelope. -/
theorem envelope_isObject
    (first second : Member) :
    IsObject [first.entry, second.entry]
      ('{' :: (first.text ++ ',' :: (second.text ++ "\x7d\n".toList))) := by
  refine ⟨[], first.text ++ ',' :: second.text, ['\n'], Ws.nil, ?_,
    .moreMembers first.derived second.derived, ?_⟩
  · exact List.forall_mem_singleton.mpr rfl
  · simp

/-- The data of a success is there; whatever follows must close the object. -/
theorem okBegin_reply
    {value rest : CStr} (derived : Derives .value value)
    (closes : run (some (.after, [.obj])) rest = finished) :
    IsReplyObject (outJsonOkBegin ++ (value ++ rest)) := by
  let status : Member := .of "status" (outJsonEscape "ok") (outJsonEscape_derives _)
  have statusEntry : status.entry = ("status".toList, "\"ok\"".toList) := rfl
  have before : outJsonOkBegin =
      '{' :: (status.text ++ ',' :: (quoted "data".toList ++ [':'])) := rfl
  have dataKey : escapedBody "data" = "data".toList := rfl
  have dataBody : StringBody "data".toList := dataKey ▸ escapedBody_body "data"
  have printed : ∀ blank : CStr, Ws blank → Derives (.members [("data".toList, value)])
      ([] ++ quoted "data".toList ++ [] ++ ':' :: ([] ++ value ++ blank)) := fun blank wsBlank =>
    .member Ws.nil dataBody Ws.nil Ws.nil derived wsBlank
  have hasStatus : ∀ others, HasMember (status.entry :: others) "status" "\"ok\"" := by
    intro others
    rw [statusEntry]
    exact List.mem_cons_self ..
  have hasData : ∀ others,
      HasMember (status.entry :: ("data".toList, value) :: others) "data" value := fun others =>
    List.mem_cons_of_mem _ (List.mem_cons_self ..)
  obtain ⟨blank, more, wsBlank, ⟨rfl, next⟩ | ⟨rfl, next⟩⟩ := after_obj_run closes
  · -- more members follow, and the reader has a derivation for them
    obtain ⟨entries, members, last, rfl, others, done⟩ := (sound more).members [] next
    refine ⟨_, ⟨[], _, last, Ws.nil, after_nil_run done,
      .moreMembers status.derived (.moreMembers (printed blank wsBlank) others), ?_⟩,
      .inl ⟨hasStatus _, value, hasData _⟩⟩
    rw [before]
    simp
  · refine ⟨_, ⟨[], _, more, Ws.nil, after_nil_run next,
      .moreMembers status.derived (printed blank wsBlank), ?_⟩,
      .inl ⟨hasStatus _, value, hasData _⟩⟩
    rw [before]
    simp

theorem isAscii_outJsonOkBegin : isAscii outJsonOkBegin = true := rfl

theorem isUtf8_okEnvelope (data : CStr) : IsUtf8 (okEnvelope data) ↔ IsUtf8 data := by
  have closing : isAscii outJsonOkEnd = true := rfl
  rw [okEnvelope, isUtf8_append_ascii closing, isUtf8_ascii_append isAscii_outJsonOkBegin]

/-- The envelope of a success around a value. -/
theorem okEnvelope_reply_iff
    {data : CStr} (derived : Derives .value data) :
    IsReply (okEnvelope data) ↔ IsUtf8 data := by
  refine ⟨fun reply => (isUtf8_okEnvelope data).mp reply.2, fun spelled =>
    ⟨?_, (isUtf8_okEnvelope data).mpr spelled⟩⟩
  unfold okEnvelope
  rw [List.append_assoc]
  exact okBegin_reply derived rfl

theorem okEnvelope_reply {data : CStr} (value : IsValue data) : IsReply (okEnvelope data) :=
  (okEnvelope_reply_iff value.derived).mpr value.spelled

theorem outJsonError_object (code : Int) (message : CStr) :
    IsReplyObject (outJsonError code message) := by
  let number : Member := .of "code" (showInt code) (showInt_derives code)
  let reason : Member := .of "message" (outJsonEscape message) (outJsonEscape_derives message)
  let status : Member := .of "status" (outJsonEscape "error") (outJsonEscape_derives _)
  let payload : Member := .of "error" _ (object_derives [number, reason])
  have statusEntry : status.entry = ("status".toList, "\"error\"".toList) := rfl
  have payloadKey : escapedBody "error" = "error".toList := rfl
  have before : "\x7b\"status\":\"error\",\"error\":\x7b\"code\":".toList =
      '{' :: (status.text ++ ',' :: (outJsonEscape "error" ++ ':' :: '{' ::
        (outJsonEscape "code" ++ [':']))) := rfl
  have between : ",\"message\":".toList = ',' :: (outJsonEscape "message" ++ [':']) := rfl
  have after : "\x7d\x7d\n".toList = '}' :: "\x7d\n".toList := rfl
  have printed : outJsonError code message =
      '{' :: (status.text ++ ',' :: (payload.text ++ "\x7d\n".toList)) := by
    unfold outJsonError
    rw [before, between, after]
    simp only [List.append_assoc, List.cons_append, List.nil_append, payload, number, reason,
      Member.of, List.map_cons, List.map_nil, outJsonItems, emitComma, if_true, if_false,
      Bool.false_eq_true, List.append_nil]
  rw [printed]
  refine ⟨_, envelope_isObject status payload, .inr ⟨?_, payload.entry.2, ?_⟩⟩
  · rw [statusEntry]
    exact List.mem_cons_self ..
  · exact List.mem_cons_of_mem _ (List.mem_singleton.mpr (congrArg (·, _) payloadKey.symm))

/-- An error is reported when its message is text. -/
theorem outJsonError_reply_iff (code : Int) (message : CStr) :
    IsReply (outJsonError code message) ↔ IsUtf8 message := by
  have opening : isAscii "\x7b\"status\":\"error\",\"error\":\x7b\"code\":".toList = true := rfl
  have between : isAscii ",\"message\":".toList = true := rfl
  have closing : isAscii "\x7d\x7d\n".toList = true := rfl
  have spelled : IsUtf8 (outJsonError code message) ↔ IsUtf8 message := by
    unfold outJsonError
    rw [isUtf8_append_ascii closing, List.append_assoc, List.append_assoc,
      isUtf8_ascii_append opening, isUtf8_ascii_append (isAscii_showInt code),
      isUtf8_ascii_append between, isUtf8_outJsonEscape]
  exact ⟨fun reply => spelled.mp reply.2, fun text =>
    ⟨outJsonError_object code message, spelled.mpr text⟩⟩

/-- Plain fields in front of others are a reply when their strings are text. -/
theorem okObject_append_reply_iff
    {fields others : List Field} (plain : fields.all Field.isPlain = true)
    (printable : Printable others) :
    IsReply (okObject (fields ++ others)) ↔ ∀ text ∈ fields.flatMap Field.texts, IsUtf8 text := by
  rw [← printable_plain plain]
  constructor
  · intro reply field member
    have spelled := (isUtf8_objectText _).mp ((isUtf8_okEnvelope _).mp reply.2)
    exact Field.printable_of_text (List.all_eq_true.mp plain field member)
      ((isUtf8_fields _).mp spelled field (List.mem_append_left _ member))
  · exact fun first => okEnvelope_reply (objectText_value (first.append printable))

theorem okObject_reply_iff
    {fields : List Field} (plain : fields.all Field.isPlain = true) :
    IsReply (okObject fields) ↔ ∀ text ∈ fields.flatMap Field.texts, IsUtf8 text := by
  have nothing : Printable [] := List.forall_mem_nil _
  rw [← okObject_append_reply_iff plain nothing, List.append_nil]

theorem okObject_reply {fields : List Field} (printable : Printable fields) :
    IsReply (okObject fields) :=
  okEnvelope_reply (objectText_value printable)

/-- The same with one more member behind the fields. -/
theorem okObjectThen_reply_iff
    {fields : List Field} (plain : fields.all Field.isPlain = true)
    {key value : CStr} (ascii : isAscii key = true) (derived : Derives .value value) :
    IsReply (okEnvelope (objectThen fields key value)) ↔
      (∀ text ∈ fields.flatMap Field.texts, IsUtf8 text) ∧ IsUtf8 value := by
  rw [← printable_plain plain]
  constructor
  · intro reply
    have spelled := (isUtf8_objectThen ascii fields value).mp ((isUtf8_okEnvelope _).mp reply.2)
    exact spelled.imp_left (isUtf8_plainFields plain).mp
  · rintro ⟨printable, spelled⟩
    exact okEnvelope_reply (objectThen_value printable ascii ⟨derived, spelled⟩)

theorem okObjectArray_reply
    {fields : List Field} (printable : Printable fields) {key : CStr} (ascii : isAscii key = true)
    {items : List CStr} (values : ∀ item ∈ items, IsValue item) :
    IsReply (okObjectArray fields key items) :=
  okEnvelope_reply (objectThen_value printable ascii (arrayText_value values))

theorem okArray_reply
    {items : List (List Field)} (printable : ∀ fields ∈ items, Printable fields) :
    IsReply (okArray items) := by
  refine okEnvelope_reply (arrayText_value fun item member => ?_)
  obtain ⟨fields, inside, rfl⟩ := List.mem_map.mp member
  exact objectText_value (printable fields inside)

/-- Strings in an array. -/
theorem names_derive (names : List CStr) :
    Derives .value (arrayText (names.map outJsonEscape)) :=
  arrayText_derives (List.forall_mem_map.mpr fun name _ => outJsonEscape_derives name)

theorem isUtf8_names (names : List CStr) :
    IsUtf8 (arrayText (names.map outJsonEscape)) ↔ ∀ name ∈ names, IsUtf8 name := by
  rw [isUtf8_arrayText, List.forall_mem_map]
  exact forall₂_congr fun name _ => isUtf8_outJsonEscape name

theorem names_reply_iff (names : List CStr) :
    IsReply (okEnvelope (arrayText (names.map outJsonEscape))) ↔ ∀ name ∈ names, IsUtf8 name :=
  (okEnvelope_reply_iff (names_derive names)).trans (isUtf8_names names)

/-! ## Texts that are no replies -/

theorem IsReply.scan
    {text : CStr} (reply : IsReply text) :
    scan text = finished := by
  obtain ⟨⟨entries, isObject, _⟩, _⟩ := reply
  exact isObject.scan_eq

/-- Nothing at all is no reply. -/
theorem nothing_broken : ¬IsReply [] :=
  fun reply => nomatch reply.scan

/-- The reader where the data of a success is expected. -/
theorem scan_okBegin (rest : CStr) :
    Json.scan (outJsonOkBegin ++ rest) = run (some (.value, [.obj])) rest := by
  rw [scan_append]
  have opened : Json.scan outJsonOkBegin = some (.value, [.obj]) := rfl
  rw [opened]

/-- Data that starts with a key and a colon, without a brace before it. -/
theorem bareKey_broken (key rest : CStr) :
    ¬IsReply (okEnvelope (outJsonEscape key ++ ':' :: rest)) := by
  intro reply
  have read := reply.scan
  rw [okEnvelope, List.append_assoc, scan_okBegin, List.append_assoc,
    show outJsonEscape key = quoted (escapedBody key) from rfl,
    run_quoted_value (escapedBody_body key), List.cons_append, run_cons,
    show step (.after, [.obj]) ':' = none from rfl, run_none] at read
  exact nomatch read

theorem bareFields_broken (field : Field) (fields : List Field) (rest : CStr) :
    ¬IsReply (okEnvelope (outJsonFields true (field :: fields) ++ rest)) := by
  have printed : outJsonFields true (field :: fields) ++ rest =
      outJsonEscape field.key ++
        ':' :: (field.valueText ++ (outJsonFields false fields ++ rest)) := by
    simp [outJsonFields, emitComma, Field.text]
  rw [printed]
  exact bareKey_broken _ _

theorem okBareArray_broken (field : Field) (fields : List Field) (key : CStr)
    (items : List (Option (List Field))) :
    ¬IsReply (okBareArray (field :: fields) key items) := by
  unfold okBareArray
  simp only [List.append_assoc]
  exact bareFields_broken field fields _

theorem okBare_broken (field : Field) (fields : List Field) :
    ¬IsReply (okBare (field :: fields)) := by
  have broken := bareFields_broken field fields []
  rw [List.append_nil] at broken
  exact broken

/-! ## Dry runs -/

/-- Read inside a string literal of an object, the text ends inside such a literal. -/
def StaysQuoted (text : CStr) : Prop :=
  run (some (.str false, [.obj])) text = some (.str false, [.obj])

/-- The reader never waits for a quote inside a literal name. -/
def NameWithoutQuote (state : State) : Prop :=
  ∀ expected, state.1 = .lit expected → '"' ∉ expected

theorem openValue_names
    {stack : List Frame} {c : Char} {next : State} (opened : openValue stack c = some next) :
    NameWithoutQuote next := by
  intro expected atName
  unfold openValue at opened
  split_ifs at opened with quote brace bracket isTrue isFalse isNull
  · cases opened; cases atName
  · cases opened; cases atName
  · cases opened; cases atName
  · cases opened; cases atName; decide
  · cases opened; cases atName; decide
  · cases opened; cases atName; decide
  · obtain ⟨number, _, rfl⟩ := Option.map_eq_some_iff.mp opened
    cases atName

theorem closeValue_names
    {stack : List Frame} {c : Char} {next : State} (closed : closeValue stack c = some next) :
    NameWithoutQuote next := by
  intro expected atName
  unfold closeValue at closed
  split at closed
  · cases closed; cases atName
  · cases stack with
    | nil => cases closed
    | cons frame outer =>
        cases frame <;> dsimp only at closed <;> split_ifs at closed <;> cases closed <;>
          cases atName

theorem step_names
    {state next : State} {c : Char} (names : NameWithoutQuote state)
    (moved : step state c = some next) :
    NameWithoutQuote next := by
  obtain ⟨mode, stack⟩ := state
  intro expected atName
  cases mode with
  | value =>
      simp only [step] at moved
      split_ifs at moved
      · cases moved; cases atName
      · exact openValue_names moved expected atName
  | firstElement =>
      simp only [step] at moved
      split_ifs at moved
      · cases moved; cases atName
      · cases moved; cases atName
      · exact openValue_names moved expected atName
  | firstKey | key | colon | str isKey | esc isKey =>
      simp only [step] at moved
      split_ifs at moved <;> cases moved <;> cases atName
  | after => exact closeValue_names moved expected atName
  | uni isKey missing =>
      simp only [step] at moved
      split_ifs at moved
      cases missing <;> cases moved <;> cases atName
  | num number =>
      simp only [step] at moved
      split at moved
      · cases moved; cases atName
      · split_ifs at moved
        exact closeValue_names moved expected atName
  | lit pending =>
      -- only a name goes on as a name, and what is left of it is a part of it
      have plain := names pending rfl
      simp only [step] at moved
      cases pending with
      | nil => cases moved
      | cons e rest =>
          dsimp only at moved
          split_ifs at moved with same last
          · cases moved; cases atName
          · cases moved
            cases atName
            exact fun member => plain (List.mem_cons_of_mem e member)

theorem run_names
    {state next : State} {text : CStr} (names : NameWithoutQuote state)
    (ran : run (some state) text = some next) :
    NameWithoutQuote next := by
  induction text generalizing state with
  | nil =>
      cases ran
      exact names
  | cons c rest inductionHypothesis =>
      rw [run_cons] at ran
      cases moved : step state c with
      | none =>
          rw [moved, run_none] at ran
          cases ran
      | some between =>
          rw [moved] at ran
          exact inductionHypothesis (step_names names moved) ran

/-- Only inside a string literal of an object a quote, a brace and a newline end the text. -/
theorem closing_state
    {state : State} (names : NameWithoutQuote state) (rest : CStr)
    (moves : run (some state) ('"' :: '}' :: '\n' :: rest) ≠ none) :
    ∃ outer, state = (.str false, .obj :: outer) ∧
      run (some state) ('"' :: '}' :: '\n' :: rest) = run (some (.after, outer)) rest := by
  obtain ⟨mode, stack⟩ := state
  have inString : ∀ isKey, run (some (.str isKey, stack)) ('}' :: '\n' :: rest) = none := by
    intro isKey
    exact run_none rest
  have afterNone : run none ('}' :: '\n' :: rest) = none := run_none _
  cases mode with
  | value => exact absurd (inString false) moves
  | firstElement => exact absurd (inString false) moves
  | firstKey => exact absurd (inString true) moves
  | key => exact absurd (inString true) moves
  | colon => exact absurd afterNone moves
  | after =>
      refine absurd ?_ moves
      cases stack with
      | nil => exact afterNone
      | cons frame outer => cases frame <;> exact afterNone
  | str isKey =>
      cases isKey with
      | true => exact absurd (run_none ('\n' :: rest)) moves
      | false =>
          cases stack with
          | nil => exact absurd (run_none ('\n' :: rest)) moves
          | cons frame outer =>
              cases frame with
              | arr => exact absurd (run_none ('\n' :: rest)) moves
              | obj => exact ⟨outer, rfl, rfl⟩
  | esc isKey => exact absurd (inString isKey) moves
  | uni isKey missing => exact absurd afterNone moves
  | num number =>
      have closed : closeValue stack '"' = none := by
        cases stack with
        | nil => rfl
        | cons frame outer => cases frame <;> rfl
      have moved : step (.num number, stack) '"' = none := by
        cases number <;> first | rfl | exact closed
      rw [run_cons, moved] at moves
      exact absurd afterNone moves
  | lit expected =>
      have plain := names expected rfl
      have moved : step (.lit expected, stack) '"' = none := by
        cases expected with
        | nil => rfl
        | cons e rest => exact if_neg fun same : '"' = e => plain (same ▸ List.mem_cons_self ..)
      rw [run_cons, moved] at moves
      exact absurd afterNone moves

theorem inString_names (isKey : Bool) (stack : List Frame) :
    NameWithoutQuote (.str isKey, stack) := by
  intro expected atName
  cases atName

/-- The reader behind the text of a dry run. -/
theorem scan_dryrunJson (what rest : CStr) :
    Json.scan (dryrunJson what ++ rest) =
      run (run (some (.str false, [.obj])) what) ('"' :: '}' :: '\n' :: rest) := by
  have shape : dryrunJson what ++ rest =
      outJsonOkBegin ++ ("\"dry-run: ".toList ++ (what ++ '"' :: '}' :: '\n' :: rest)) := by
    simp [dryrunJson, outJsonOkEnd]
  rw [shape, scan_okBegin, run_append, run_append]
  rfl

/-- Between quotes the text is the inside of a string literal. -/
def Quotable (text : CStr) : Prop :=
  StaysQuoted text ∧ IsUtf8 text

/-- The announcement of a dry run is an object when its text stays inside the quotes. -/
theorem dryrunJson_object
    {what : CStr} (stays : StaysQuoted what) :
    IsReplyObject (dryrunJson what) := by
  have ends : run (some (.str false, [.obj])) (what ++ "\"\x7d\n".toList) = finished := by
    rw [run_append, stays]
    rfl
  obtain ⟨body, rest, shape, derived, closed⟩ := str_run ends
  have text : dryrunJson what =
      outJsonOkBegin ++ (quoted ("dry-run: ".toList ++ body) ++ rest) := by
    have announced : dryrunJson what =
        outJsonOkBegin ++ ('"' :: ("dry-run: ".toList ++ (what ++ "\"\x7d\n".toList))) := by
      simp [dryrunJson, outJsonOkEnd]
    rw [announced, shape]
    simp [quoted]
  rw [text]
  exact okBegin_reply (.string (plain_body rfl derived)) closed

theorem isUtf8_dryrunJson (what : CStr) : IsUtf8 (dryrunJson what) ↔ IsUtf8 what := by
  have lead : isAscii "\"dry-run: ".toList = true := rfl
  have closing : isAscii ("\"".toList ++ outJsonOkEnd) = true := rfl
  rw [dryrunJson, List.append_assoc _ "\"".toList, isUtf8_append_ascii closing, List.append_assoc,
    isUtf8_ascii_append isAscii_outJsonOkBegin, isUtf8_ascii_append lead]

theorem dryrunJson_reply_iff (what : CStr) : IsReply (dryrunJson what) ↔ Quotable what := by
  refine ⟨fun reply => ⟨?_, (isUtf8_dryrunJson what).mp reply.2⟩, fun quotable =>
    ⟨dryrunJson_object quotable.1, (isUtf8_dryrunJson what).mpr quotable.2⟩⟩
  have ends := reply.scan
  rw [← List.append_nil (dryrunJson what), scan_dryrunJson] at ends
  unfold StaysQuoted
  cases reached : run (some (.str false, [.obj])) what with
  | none =>
      rw [reached, run_none] at ends
      cases ends
  | some state =>
      rw [reached] at ends
      obtain ⟨outer, rfl, after⟩ := closing_state (run_names (inString_names _ _) reached)
        [] (by rw [ends]; exact Option.some_ne_none _)
      rw [ends, run_nil] at after
      cases after
      rfl

/-- After the announcement of a dry run no second document can follow. -/
theorem dryrunJson_then_broken (what rest : CStr) :
    ¬IsReply (dryrunJson what ++ '{' :: rest) := by
  intro reply
  have ends := reply.scan
  rw [scan_dryrunJson] at ends
  cases reached : run (some (.str false, [.obj])) what with
  | none =>
      rw [reached, run_none] at ends
      cases ends
  | some state =>
      rw [reached] at ends
      obtain ⟨outer, rfl, after⟩ := closing_state (run_names (inString_names _ _) reached)
        ('{' :: rest) (by rw [ends]; exact Option.some_ne_none _)
      have stuck : step (.after, outer) '{' = none := by
        cases outer with
        | nil => rfl
        | cons frame outer => cases frame <;> rfl
      rw [ends, run_cons, stuck, run_none] at after
      cases after

/-! ## Arrays with a comma by index -/

theorem outIndexedItems_later
    {index : Nat} (later : index ≠ 0) (items : List (Option CStr)) :
    outIndexedItems index items = outJsonItems false (items.filterMap id) := by
  induction items generalizing index with
  | nil => rfl
  | cons item rest inductionHypothesis =>
      have others := inductionHypothesis (Nat.succ_ne_zero index)
      cases item with
      | none => exact others
      | some text =>
          have comma : emitComma (decide (index = 0)) = emitComma false := by
            rw [decide_eq_false later]
          rw [outIndexedItems, others, comma]
          rfl

/-- A comma in front of the first element. -/
theorem leadingComma_broken (rest : CStr) :
    ¬IsReply (okEnvelope ('[' :: ',' :: rest)) := by
  intro reply
  have ends := reply.scan
  rw [okEnvelope, List.append_assoc, scan_okBegin] at ends
  exact nomatch (run_none _).symm.trans ends

/-- The first element is there, or none is. -/
def StartsWithFirst {α : Type} : List (Option α) → Prop
  | none :: rest => rest.filterMap id = []
  | _ => True

theorem texts_readable (items : List (Option (List Field))) :
    (items.map (Option.map objectText)).filterMap id = (items.filterMap id).map objectText := by
  simp [List.filterMap_map, List.map_filterMap]

theorem okIndexedArray_reply_iff
    {items : List (Option (List Field))}
    (printable : ∀ fields, some fields ∈ items → Printable fields) :
    IsReply (okIndexedArray items) ↔ StartsWithFirst items := by
  have values : ∀ text ∈ (items.filterMap id).map objectText, IsValue text := by
    intro text member
    obtain ⟨fields, readable, rfl⟩ := List.mem_map.mp member
    obtain ⟨item, inside, rfl⟩ := List.mem_filterMap.mp readable
    exact objectText_value (printable fields inside)
  rw [← texts_readable] at values
  have empty : IsReply (okEnvelope (arrayText [])) :=
    okEnvelope_reply (arrayText_value (List.forall_mem_nil _))
  cases items with
  | nil => exact iff_of_true empty trivial
  | cons first rest =>
      have later := outIndexedItems_later Nat.one_ne_zero (rest.map (Option.map objectText))
      cases first with
      | some fields =>
          refine iff_of_true ?_ trivial
          unfold okIndexedArray
          rw [List.map_cons, Option.map_some, outIndexedItems, later]
          exact okEnvelope_reply (arrayText_value values)
      | none =>
          change IsReply (okIndexedArray (none :: rest)) ↔ rest.filterMap id = []
          unfold okIndexedArray
          rw [List.map_cons, Option.map_none, outIndexedItems, later, texts_readable]
          cases rest.filterMap id with
          | nil => exact iff_of_true empty rfl
          | cons fields others => exact iff_of_false (leadingComma_broken _) (List.cons_ne_nil _ _)

/-! ## Objects that run into each other -/

/-- An object needs no delimiter behind it. -/
theorem run_objectText
    {fields : List Field} (printable : Printable fields) {mode : Mode}
    (atValue : mode = .value ∨ mode = .firstElement) (stack : List Frame) (rest : CStr) :
    run (some (mode, stack)) (objectText fields ++ rest) = run (some (.after, stack)) rest := by
  obtain ⟨members, texts⟩ := fields_members printable
  have opened : ∀ text, run (some (mode, stack)) ('{' :: text) =
      run (some (.firstKey, .obj :: stack)) text := by
    rcases atValue with rfl | rfl <;> exact fun _ => rfl
  rw [objectText, outJsonFields_items, ← texts, List.cons_append, opened, List.append_assoc]
  cases members with
  | nil => rfl
  | cons first others =>
      exact (members_derive (List.cons_ne_nil first others)).follows .firstKey stack '}' rest
        (.inr rfl) (.inr rfl)

/-- The reader cannot pass the text, whatever is behind it. -/
def Breaks (text : CStr) : Prop :=
  ∀ mode stack rest, mode = .value ∨ mode = .firstElement →
    run (some (mode, stack)) (text ++ rest) = none

/-- The reader stops at the first element it cannot pass. -/
theorem items_break
    {items : List CStr} (settled : ∀ item ∈ items, Derives .value item ∨ Breaks item)
    (broken : ∃ item ∈ items, Breaks item) {mode : Mode}
    (atValue : mode = .value ∨ mode = .firstElement) (stack : List Frame) (rest : CStr) :
    run (some (mode, .arr :: stack)) (outJsonItems true items ++ rest) = none := by
  induction items generalizing mode with
  | nil =>
      obtain ⟨item, inside, _⟩ := broken
      cases inside
  | cons item others inductionHypothesis =>
      obtain ⟨here, later⟩ := List.forall_mem_cons.mp settled
      rw [outJsonItems_cons]
      rcases here with derived | breaks
      · obtain ⟨stop, inside, breaks⟩ := broken
        rcases List.mem_cons.mp inside with rfl | inside
        · split
          · exact breaks mode _ rest atValue
          · rw [List.append_assoc]
            exact breaks mode _ _ atValue
        · rw [if_neg (List.ne_nil_of_mem inside), List.append_assoc, List.cons_append]
          exact (derived.follows mode (.arr :: stack) ',' _ atValue rfl).trans
            (inductionHypothesis later ⟨stop, inside, breaks⟩ (.inl rfl))
      · split
        · exact breaks mode _ rest atValue
        · rw [List.append_assoc]
          exact breaks mode _ _ atValue

theorem brokenArray
    {items : List CStr} (settled : ∀ item ∈ items, Derives .value item ∨ Breaks item)
    (broken : ∃ item ∈ items, Breaks item) :
    ¬IsReply (okEnvelope (arrayText items)) := by
  intro reply
  have read := reply.scan
  rw [okEnvelope, List.append_assoc, scan_okBegin, arrayText, List.cons_append, List.append_assoc]
    at read
  have stopped := items_break settled broken (.inr rfl) [.obj] (']' :: outJsonOkEnd)
  exact nomatch stopped.symm.trans read

/-- Two members without a comma between them. -/
theorem fieldObjects_break
    {lead inner : List Field} (leadOk : Printable lead) (innerOk : Printable inner)
    (nonempty : lead ≠ []) (key next : CStr) (rest : CStr) :
    Breaks ('{' :: (outJsonFields true lead ++ ',' :: (outJsonEscape key ++
      ':' :: (objectText inner ++ (outJsonEscape next ++ rest))))) := by
  intro mode stack more atValue
  obtain ⟨members, texts⟩ := fields_members leadOk
  have opened : ∀ text, run (some (mode, stack)) ('{' :: text) =
      run (some (.firstKey, .obj :: stack)) text := by
    rcases atValue with rfl | rfl <;> exact fun _ => rfl
  have some_members : members ≠ [] := by
    rintro rfl
    exact nonempty (List.map_eq_nil_iff.mp texts.symm)
  simp only [List.cons_append, List.append_assoc]
  rw [opened, outJsonFields_items, ← texts]
  refine Eq.trans ((members_derive some_members).follows .firstKey stack ',' _ (.inr rfl)
    (.inl rfl)) ?_
  have comma : ∀ text, run (some (.after, Frame.obj :: stack)) (',' :: text) =
      run (some (.key, .obj :: stack)) text := fun _ => rfl
  have colon : ∀ text, run (some (.colon, Frame.obj :: stack)) (':' :: text) =
      run (some (.value, .obj :: stack)) text := fun _ => rfl
  rw [comma, show outJsonEscape key = quoted (escapedBody key) from rfl,
    run_quoted_key (escapedBody_body key) (.inl rfl), colon, run_objectText innerOk (.inl rfl)]
  exact run_none _

end Zenctl
