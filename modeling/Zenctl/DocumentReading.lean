import Zenctl.ProfileSchema

namespace Zenctl

open CString

/-!
# Documents as the parser reads them

`toml_parse` knows no quoted keys in a section header, strips no comment behind
a number, takes the last quote of a line for the closing one and reads through
fixed buffers.  A document that is `Plain` meets none of this, and loading it
attempts exactly what it assigns.
-/

/-! ## Lines -/

theorem DocInt.digits_eq
    {n : DocInt} (plain : '_' ∉ n.digits) :
    n.digits = showNat n.magnitude := by
  rw [← n.written, List.filter_eq_self.mpr]
  intro c member
  simp only [ne_eq, decide_not, Bool.not_eq_eq_eq_not, Bool.not_true, decide_eq_false_iff_not]
  rintro rfl
  exact plain member

/-- A number without underscores is a decimal text of its value. -/
theorem DocInt.decimal
    {n : DocInt} (plain : '_' ∉ n.digits) :
    Decimal n.text n.value := by
  obtain ⟨nonempty, digits⟩ := showNat_digits n.magnitude
  have magnitude := digitsValue_showNat n.magnitude
  rw [text, value, digits_eq plain]
  cases n.sign with
  | unsigned => simpa [DocSign.text, magnitude] using Decimal.unsigned _ nonempty digits
  | plus => simpa [DocSign.text, magnitude] using Decimal.plus _ nonempty digits
  | minus => simpa [DocSign.text, magnitude] using Decimal.minus _ nonempty digits

theorem DocInt.text_length
    {n : DocInt} (plain : '_' ∉ n.digits) :
    n.text.length ≤ 511 := by
  have short : (showNat n.magnitude).length ≤ 20 := by
    have fits := n.fits
    cases zero : n.magnitude with
    | zero => decide
    | succ m =>
        rw [zero] at fits
        have negative : (showInt (.negSucc m)).length ≤ 20 := by
          refine showInt_length ?_ ?_
          · have := fits
            unfold int64Min int64Max at *
            split at this <;> omega
          · unfold int64Max
            omega
        exact (Nat.le_succ _).trans negative
  have sign : n.sign.text.length ≤ 1 := by cases n.sign <;> decide
  rw [text, digits_eq plain, List.length_append]
  omega

theorem DocInt.strictInt_value
    (n : DocInt) :
    strictInt n.value = some n.value :=
  if_pos n.fits

/-- The parser takes a quoted value up to the last quote of its line. -/
theorem stringText_read
    (behind : Blanks) (text rest : CStr) :
    ∃ more, tomlValue (rstrip (behind.1 ++ '"' :: (text ++ '"' :: rest))) = (text ++ more, true) ∧
      (more = [] ∨ more.head? = some '"') ∧ ('"' ∉ rest → more = []) := by
  have stripped : rstrip (behind.1 ++ '"' :: (text ++ '"' :: rest)) =
      behind.1 ++ '"' :: (text ++ '"' :: rstrip rest) := by
    have regroup : ∀ tail : CStr, behind.1 ++ '"' :: (text ++ '"' :: tail) =
        (behind.1 ++ '"' :: text) ++ '"' :: tail := by simp
    rw [regroup, rstrip_append (by decide), ← regroup]
  have read : tomlValue (behind.1 ++ '"' :: (text ++ '"' :: rstrip rest)) =
      (beforeLast '"' (text ++ '"' :: rstrip rest), true) := by
    unfold tomlValue
    rw [dropWhile_blanks behind.2 (by decide)]
    rfl
  obtain ⟨more, same, quote⟩ := beforeLast_extends '"' text (rstrip rest)
  rw [stripped, read]
  refine ⟨more, by rw [same], quote, fun absent => ?_⟩
  have kept : '"' ∉ rstrip rest := fun member =>
    absent ((List.rdropWhile_prefix _ _).subset member)
  rw [beforeLast_append kept] at same
  exact List.append_cancel_left (same.symm.trans (List.append_nil text).symm)

/-- A number is read with everything behind it but white space. -/
theorem numberText_read
    (behind : Blanks) (n : DocInt) (rest : CStr) :
    ∃ value, tomlValue (rstrip (behind.1 ++ (n.text ++ rest))) = (value, false) ∧
      ((∀ c ∈ rest, isTrailing c = true) → value = n.text) := by
  obtain ⟨first, others, shape⟩ := List.exists_cons_of_ne_nil n.text_ne_nil
  have plain := n.text_plain (show first ∈ n.text by simp [shape])
  refine ⟨rstrip (n.text ++ rest), ?_, fun trailing => ?_⟩
  · rw [shape, List.cons_append, rstrip_append plain.2.2.1,
      tomlValue_bare behind.2 plain.2.1 plain.2.2.2, rstrip_cons plain.2.2.1]
  · rw [rstrip, rdropWhile_tail trailing]
    exact rdropWhile_solid fun c member => (n.text_plain member).2.2.1

theorem tomlLine_ended
    {sectionPath text : CStr} (plain : DocumentText text) :
    tomlLine sectionPath (text ++ ['\n']) = tomlLine sectionPath text :=
  tomlLine_ending plain.noNul (List.all_eq_true.mp rfl)

/-- What stands behind the equals sign of a setting. -/
def DocLine.valueText (l : DocLine) (s : DocSetting) : CStr :=
  s.behind.1 ++ (s.value.text ++ (l.tail.1 ++ l.commentText))

theorem DocLine.valueText_documentText
    (l : DocLine) (s : DocSetting) :
    DocumentText (l.valueText s) := by
  simp only [valueText, DocumentText.append]
  exact ⟨s.behind.documentText, s.value.documentText, l.tail.documentText,
    l.commentText_documentText⟩

/-- A setting with a bare key is one entry. -/
theorem DocLine.bareSetting_read
    {l : DocLine} {s : DocSetting} (content : l.content = .setting s)
    (bare : s.key.isBare = true)
    {sectionPath : CStr} (fits : sectionPath.length < 128) :
    tomlLine sectionPath l.text = (sectionPath, some ⟨sectionPath, bounded 128 s.key.name,
      bounded 512 (tomlValue (rstrip (l.valueText s))).1,
      (tomlValue (rstrip (l.valueText s))).2⟩) := by
  obtain ⟨same, key⟩ := DocKey.text_of_bare bare
  have shape : l.text ++ ['\n'] =
      l.indent.1 ++ s.key.name ++ s.before.1 ++ '=' :: l.valueText s ++ ['\n'] := by
    simp [text, content, LineContent.text, DocSetting.text, same, valueText]
  rw [← tomlLine_ended l.documentText, shape,
    tomlLine_setting l.indent.2 key s.before.2 (l.valueText_documentText s).noNul,
    bounded_eq_self fits]

/-- The quote of a quoted key becomes part of the key. -/
theorem quotedKey_head (text : CStr) :
    (bounded 128 (((('"' :: text).takeWhile (· ≠ '=')).dropWhile isBlank).rdropWhile isBlank)).head? =
      some '"' := by
  have opened : (('"' :: text).takeWhile (· ≠ '=')).dropWhile isBlank =
      '"' :: text.takeWhile (· ≠ '=') := by
    rw [List.takeWhile_cons_of_pos (by decide), List.dropWhile_cons_of_neg (by decide)]
  rw [opened]
  have kept : ('"' :: text.takeWhile (· ≠ '=')).rdropWhile isBlank ≠ [] := by
    rw [Ne, List.rdropWhile_eq_nil_iff]
    exact fun every => absurd (every '"' List.mem_cons_self) (by decide)
  obtain ⟨first, others, shape⟩ := List.exists_cons_of_ne_nil kept
  have inFront := List.rdropWhile_prefix isBlank (l := '"' :: text.takeWhile (· ≠ '='))
  rw [shape] at inFront ⊢
  rw [(List.cons_prefix_cons.mp inFront).1]
  rfl

/-- A setting with a quoted key is one entry too. -/
theorem DocLine.quotedSetting_read
    {l : DocLine} {s : DocSetting} (content : l.content = .setting s)
    (quoted : s.key.isBare = false)
    {sectionPath : CStr} (fits : sectionPath.length < 128) :
    ∃ kv, tomlLine sectionPath l.text = (sectionPath, some kv) ∧ kv.sectionPath = sectionPath ∧
      kv.key.head? = some '"' := by
  obtain ⟨name, key⟩ : ∃ name, s.key = .quoted name := by
    cases shape : s.key with
    | bare key =>
        rw [shape] at quoted
        cases quoted
    | quoted name => exact ⟨name, rfl⟩
  have shape : l.text = l.indent.1 ++ '"' :: (name.1 ++ '"' :: s.before.1 ++ '=' :: l.valueText s) := by
    simp [text, content, LineContent.text, DocSetting.text, key, DocKey.text, valueText]
  have stripped : rstrip (l.text.dropWhile isBlank) =
      '"' :: (name.1 ++ '"' :: s.before.1 ++ '=' :: rstrip (l.valueText s)) := by
    rw [shape, dropWhile_blanks l.indent.2 (by decide), rstrip_cons (by decide),
      rstrip_append (by decide)]
  have split : tomlLine sectionPath l.text = (sectionPath, some (tomlSetting sectionPath
      ('"' :: (name.1 ++ '"' :: s.before.1 ++ '=' :: rstrip (l.valueText s))))) := by
    unfold tomlLine
    rw [ofBuffer_eq_self l.documentText.noNul, stripped]
    exact if_pos (by simp)
  exact ⟨_, split, bounded_eq_self fits, quotedKey_head _⟩

/-- A line is read as it is meant: the same section behind it, and its assignment if any. -/
def DocLine.ReadAs (l : DocLine) (sectionPath nextPath : CStr) (entry : Option TomlKv) : Prop :=
  tomlLine sectionPath l.text = (nextPath, entry) ∧ nextPath.length < 128 ∧
    sectionTarget nextPath = l.content.targetAfter (sectionTarget sectionPath) ∧
    List.Forall₂ LoadedAs entry.toList (l.content.assigns (sectionTarget sectionPath))

/-- Every kind of line is written plainly. -/
def DocLine.Plain (current : Option Target) (l : DocLine) : Prop :=
  match l.content with
  | .nothing => True
  | .header h => h.Plain
  | .setting s => s.Plain current l.comment

instance (current : Option Target) (l : DocLine) : Decidable (l.Plain current) :=
  match l with
  | ⟨_, .nothing, _, _⟩ => inferInstanceAs (Decidable True)
  | ⟨_, .header h, _, _⟩ => inferInstanceAs (Decidable h.Plain)
  | ⟨_, .setting s, _, comment⟩ => inferInstanceAs (Decidable (s.Plain current comment))

theorem DocLine.nothing_read
    {l : DocLine} (content : l.content = .nothing)
    {sectionPath : CStr} (fits : sectionPath.length < 128) :
    l.ReadAs sectionPath sectionPath none := by
  refine ⟨?_, fits, by rw [content]; rfl, by rw [content]; exact .nil⟩
  have shape : l.text ++ ['\n'] = (l.indent.1 ++ l.tail.1) ++ l.commentText ++ ['\n'] := by
    simp [text, content, LineContent.text]
  rw [← tomlLine_ended l.documentText, shape]
  refine tomlLine_skipped (fun c member => ?_) ?_
  · rcases List.mem_append.mp member with inIndent | inTail
    · exact l.indent.2 c inIndent
    · exact l.tail.2 c inTail
  · unfold commentText
    split
    · exact .inl rfl
    · exact .inr rfl

/-- The text of a header does not open with another bracket. -/
theorem DocHeader.text_head
    (h : DocHeader) :
    h.text.head? ≠ some '[' := by
  obtain ⟨⟨before, key, behind⟩, others⟩ := h
  obtain ⟨blanks, blank⟩ := before
  simp only [text, HeaderKey.text]
  cases blanks with
  | cons c blanks =>
      rintro ⟨⟩
      exact absurd (blank '[' List.mem_cons_self) (by decide)
  | nil =>
      cases key with
      | quoted name =>
          exact fun same => absurd (Option.some.inj same) (by decide)
      | bare key =>
          obtain ⟨name, nonempty, bare⟩ := key
          obtain ⟨first, rest, rfl⟩ := List.exists_cons_of_ne_nil nonempty
          rintro ⟨⟩
          exact absurd (bare '[' List.mem_cons_self) (by decide)

/-- The first bracket of a header splits what stands behind the opening one. -/
theorem firstBracket_split
    (text rest : CStr) :
    ∃ behind, text ++ ']' :: rest = text.takeWhile (· ≠ ']') ++ ']' :: behind := by
  have whole := List.takeWhile_append_dropWhile (p := (· ≠ ']')) (l := text)
  cases later : text.dropWhile (· ≠ ']') with
  | nil =>
      rw [later, List.append_nil] at whole
      exact ⟨rest, by rw [whole]⟩
  | cons c later' =>
      have bracket : c = ']' := by
        have stops := List.head?_dropWhile_not (· ≠ ']') text
        rw [later] at stops
        simpa using stops
      rw [later, bracket] at whole
      refine ⟨later' ++ ']' :: rest, ?_⟩
      conv => lhs; rw [← whole]
      simp

theorem DocLine.header_read
    {l : DocLine} {h : DocHeader} (content : l.content = .header h) (plain : h.Plain)
    (sectionPath : CStr) :
    l.ReadAs sectionPath (codePath h.text) none := by
  refine ⟨?_, ?_, by rw [content]; exact plain.sectionTarget_eq, by rw [content]; exact .nil⟩
  · obtain ⟨behind, split⟩ := firstBracket_split h.text (l.tail.1 ++ l.commentText)
    have document : DocumentText (h.text.takeWhile (· ≠ ']') ++ ']' :: behind) := by
      rw [← split]
      simp only [DocumentText.append, DocumentText.cons]
      exact ⟨h.documentText, by decide, l.tail.documentText, l.commentText_documentText⟩
    have shape : l.text ++ ['\n'] =
        l.indent.1 ++ '[' :: h.text.takeWhile (· ≠ ']') ++ ']' :: behind ++ ['\n'] := by
      have regroup : l.text ++ ['\n'] =
          l.indent.1 ++ '[' :: (h.text ++ ']' :: (l.tail.1 ++ l.commentText)) ++ ['\n'] := by
        simp [text, content, LineContent.text]
      rw [regroup, split]
      simp
    have noBracket : ']' ∉ h.text.takeWhile (· ≠ ']') := fun member => by
      simpa using List.mem_takeWhile_imp member
    have single : (h.text.takeWhile (· ≠ ']')).head? ≠ some '[' := by
      intro opened
      obtain ⟨rest, whole⟩ := List.takeWhile_prefix (· ≠ ']') (l := h.text)
      refine h.text_head ?_
      rw [← whole, List.head?_append, opened]
      rfl
    have noNul : '\x00' ∉ h.text.takeWhile (· ≠ ']') ++ behind := by
      have inWhole := document.noNul
      simp only [List.mem_append, List.mem_cons, not_or] at inWhole ⊢
      exact ⟨inWhole.1, inWhole.2.2⟩
    rw [← tomlLine_ended l.documentText, shape,
      tomlLine_header l.indent.2 noBracket single noNul]
    rfl
  · unfold codePath bounded
    rw [List.length_take]
    omega

theorem DocLine.setting_read
    {l : DocLine} {s : DocSetting} (content : l.content = .setting s)
    {sectionPath : CStr} (fits : sectionPath.length < 128)
    (plain : s.Plain (sectionTarget sectionPath) l.comment) :
    ∃ kv, l.ReadAs sectionPath sectionPath (some kv) := by
  suffices loaded : ∃ kv, tomlLine sectionPath l.text = (sectionPath, some kv) ∧
      LoadedAs kv ⟨sectionTarget sectionPath, s.key.name, s.value.meaning⟩ by
    obtain ⟨kv, read, same⟩ := loaded
    exact ⟨kv, read, fits, by rw [content]; rfl, by rw [content]; exact .cons same .nil⟩
  cases bare : s.key.isBare with
  | false =>
      -- the quote stays in the key, so the entry is no setting, and the line denotes none
      obtain ⟨kv, read, inSection, quote⟩ := quotedSetting_read content bare fits
      refine ⟨kv, read, inSection ▸ loadedAs_idle ?_ ?_⟩
      · rw [inSection]
        by_contra setting
        have := (plain (by simpa using setting)).1
        rw [bare] at this
        cases this
      · intro t _ known
        exact (schemaKeys_short known).2 quote
  | true =>
      refine ⟨_, bareSetting_read content bare fits, ?_⟩
      cases value : s.value with
      | string text =>
          have shape : l.valueText s =
              s.behind.1 ++ '"' :: (text.1 ++ '"' :: (l.tail.1 ++ l.commentText)) := by
            simp [valueText, value, DocValue.text]
          obtain ⟨more, read, quote, closed⟩ :=
            stringText_read s.behind text.1 (l.tail.1 ++ l.commentText)
          rw [shape, read]
          refine string_loadedAs quote fun setting => ?_
          rw [DocSetting.Plain, value] at plain
          obtain ⟨-, short, noQuote⟩ := plain setting
          refine ⟨closed ?_, short⟩
          simp only [List.mem_append, not_or]
          refine ⟨fun member => absurd (l.tail.2 _ member) (by decide), ?_⟩
          unfold commentText
          split
          · exact List.not_mem_nil
          · next comment written =>
              simp [noQuote comment written]
      | integer n =>
          have shape : l.valueText s =
              s.behind.1 ++ (n.text ++ (l.tail.1 ++ l.commentText)) := by
            simp [valueText, value, DocValue.text]
          obtain ⟨text, read, whole⟩ := numberText_read s.behind n (l.tail.1 ++ l.commentText)
          rw [shape, read]
          refine integer_loadedAs fun setting => ?_
          rw [DocSetting.Plain, value] at plain
          obtain ⟨-, noUnderscore, noComment, frequency, tunable⟩ := plain setting
          have onlyBlanks : ∀ c ∈ l.tail.1 ++ l.commentText, isTrailing c = true := by
            intro c member
            rw [commentText, noComment, List.append_nil] at member
            have blank := l.tail.2 c member
            simp only [isBlank, Bool.or_eq_true, decide_eq_true_eq] at blank
            rcases blank with rfl | rfl <;> decide
          refine ⟨?_, frequency, fun memory => toInt32_fits (tunable memory).1 (tunable memory).2⟩
          have short : n.text.length < 512 := Nat.lt_succ_of_le (n.text_length noUnderscore)
          change cliParseInt (bounded 512 text) = _
          rw [whole onlyBlanks, bounded_eq_self short, (n.decimal noUnderscore).cliParseInt_eq,
            n.strictInt_value]

/-- A plain line is read as it is meant. -/
theorem DocLine.Plain.read
    {l : DocLine} {sectionPath : CStr}
    (fits : sectionPath.length < 128) (plain : l.Plain (sectionTarget sectionPath)) :
    ∃ nextPath entry, l.ReadAs sectionPath nextPath entry := by
  unfold DocLine.Plain at plain
  split at plain
  · next content =>
      exact ⟨_, _, nothing_read content fits⟩
  · next h content =>
      exact ⟨_, _, header_read content plain sectionPath⟩
  · next s content =>
      obtain ⟨kv, read⟩ := setting_read content fits plain
      exact ⟨_, _, read⟩

/-! ## Documents -/

def PlainFrom (current : Option Target) : List DocLine → Prop
  | [] => True
  | line :: rest => line.Plain current ∧ PlainFrom (line.content.targetAfter current) rest

instance decidablePlainFrom :
    (current : Option Target) → (lines : List DocLine) → Decidable (PlainFrom current lines)
  | _, [] => inferInstanceAs (Decidable True)
  | current, line :: rest =>
      have := decidablePlainFrom (line.content.targetAfter current) rest
      inferInstanceAs (Decidable (line.Plain current ∧ _))

/-- The lines fit the buffer of the parser, their ends included, and are written plainly. -/
structure Document.Plain (d : Document) : Prop where
  fits : ∀ l ∈ d.lines, (l.1.text ++ l.2.text).length ≤ 1023
  lastFits : d.last.text.length ≤ 1023
  lines : PlainFrom none d.allLines

theorem endedLine_delivered
    {text : CStr} (plain : DocumentText text) (ending : LineEnd)
    (fits : (text ++ ending.text).length ≤ 1023) (rest : List Char) :
    fgets 1024 (text ++ ending.text ++ rest) = (text ++ ending.text) :: fgets 1024 rest := by
  cases ending with
  | lf =>
      have short : text.length + 1 < 1024 := by
        simp only [LineEnd.text, List.length_append, List.length_singleton] at fits
        omega
      have whole := @fgets_line 1024 text rest plain.oneLine short
      simpa [LineEnd.text] using whole
  | crlf =>
      have short : (text ++ ['\r']).length + 1 < 1024 := by
        simp only [LineEnd.text, List.length_append, List.length_cons, List.length_nil] at fits ⊢
        omega
      have oneLine : '\n' ∉ text ++ ['\r'] := by
        simp [plain.oneLine]
      have whole := @fgets_line 1024 _ rest oneLine short
      simpa [LineEnd.text] using whole

/-- The lines of a document, one entry for each assignment. -/
theorem documentLines_read
    {lines : List (DocLine × LineEnd)} {last : DocLine} {sectionPath : CStr}
    (inBuffer : sectionPath.length < 128)
    (fits : ∀ l ∈ lines, (l.1.text ++ l.2.text).length ≤ 1023)
    (lastFits : last.text.length ≤ 1023)
    (plain : PlainFrom (sectionTarget sectionPath) (lines.map (·.1) ++ [last])) :
    List.Forall₂ LoadedAs
      (tomlLines sectionPath
        (fgets 1024 ((lines.flatMap fun l => l.1.text ++ l.2.text) ++ last.text)))
      (assignmentsFrom (sectionTarget sectionPath) (lines.map (·.1) ++ [last])) := by
  induction lines generalizing sectionPath with
  | nil =>
      obtain ⟨nextPath, entry, read, -, -, loaded⟩ := plain.1.read inBuffer
      have behind : fgets 1024 last.text = if last.text = [] then [] else [last.text] :=
        fgets_last last.documentText.oneLine (by omega)
      simp only [List.flatMap_nil, List.nil_append, List.map_nil, assignmentsFrom, List.append_nil]
      rw [behind]
      split
      · next empty =>
          rw [empty] at read
          cases read
          exact loaded
      · rw [tomlLines, read]
        simpa [tomlLines] using loaded
  | cons l lines inductionHypothesis =>
      obtain ⟨line, ending⟩ := l
      obtain ⟨linePlain, restPlain⟩ := plain
      obtain ⟨nextPath, entry, read, nextFits, target, loaded⟩ := linePlain.read inBuffer
      have trailing : ∀ c ∈ ending.text, isTrailing c = true := by
        cases ending <;> exact List.all_eq_true.mp rfl
      have first := endedLine_delivered line.documentText ending (fits _ List.mem_cons_self)
        ((lines.flatMap fun l => l.1.text ++ l.2.text) ++ last.text)
      rw [List.flatMap_cons, List.append_assoc, first, tomlLines,
        tomlLine_ending line.documentText.noNul trailing, read]
      simp only [List.map_cons, List.cons_append, assignmentsFrom]
      rw [← target] at restPlain ⊢
      exact List.rel_append loaded (inductionHypothesis nextFits
        (fun l member => fits l (List.mem_cons_of_mem _ member)) restPlain)

theorem collectCli_forall₂
    {σ τ α β γ : Type} {first : α → CliM σ τ γ} {second : β → CliM σ τ γ}
    {as : List α} {bs : List β}
    (same : List.Forall₂ (fun a b => first a = second b) as bs) :
    collectCli first as = collectCli second bs := by
  induction same with
  | nil =>
      rfl
  | cons here _ inductionHypothesis =>
      rw [collectCli, collectCli, here, inductionHypothesis]

/-- Loading a plain document attempts exactly what it assigns. -/
theorem plainDocument_appliedAsRead
    {d : Document} (plain : d.Plain) :
    d.AppliedAsRead := by
  intro σ τ json dryRun
  have loaded : List.Forall₂ LoadedAs (tomlParse d.text) d.assignments :=
    documentLines_read (show ([] : CStr).length < 128 by decide) plain.fits plain.lastFits plain.lines
  have same := collectCli_forall₂ (loaded.imp fun kv a read => read σ τ json dryRun)
  rw [profileApply, same]
  rfl

/-! ## The manual's example -/

def DocKey.plain (name : CStr) (bare : BareKey name) : DocKey :=
  .bare ⟨name, bare⟩

def LineContent.line (content : LineContent) : DocLine × LineEnd :=
  (⟨noBlanks, content, noBlanks, none⟩, .lf)

/-- `key = value`. -/
def settingLine (key : DocKey) (value : DocValue) : DocLine × LineEnd :=
  (LineContent.setting ⟨key, oneBlank, oneBlank, value⟩).line

/-- `[first.others]`. -/
def headerLine (first : DocKey) (others : List DocKey) : DocLine × LineEnd :=
  (LineContent.header ⟨⟨noBlanks, first, noBlanks⟩, others.map fun key =>
    ⟨noBlanks, key, noBlanks⟩⟩).line

/-- The profile of the manual page, with its device written as a bare or as a quoted key. -/
def manualProfile (dev : DocKey) : Document where
  lines := [
    settingLine (.plain "schema_version" (by decide))
      (.integer ⟨.unsigned, 1, "1", by decide, by decide, by decide⟩),
    settingLine (.plain "profile_name" (by decide))
      (.string ⟨"server-perf", List.all_eq_true.mp (by decide)⟩),
    LineContent.nothing.line,
    headerLine (.plain "cpu" (by decide)) [],
    settingLine (.plain "governor" (by decide))
      (.string ⟨"performance", List.all_eq_true.mp (by decide)⟩),
    LineContent.nothing.line,
    headerLine (.plain "storage" (by decide)) [dev],
    settingLine (.plain "scheduler" (by decide))
      (.string ⟨"mq-deadline", List.all_eq_true.mp (by decide)⟩),
    settingLine (.plain "read_ahead_kb" (by decide))
      (.integer ⟨.unsigned, 256, "256", by decide, by decide, by decide⟩)]
  last := ⟨noBlanks, .nothing, noBlanks, none⟩

theorem manualProfile_bare_applied :
    (manualProfile (.plain "sda" (by decide))).AppliedAsRead :=
  plainDocument_appliedAsRead ⟨by decide, by decide, by decide⟩

/-- A machine with the block device `sda` on which every setter call succeeds. -/
def sdaCtx : Ctx Unit Unit where
  lib :=
    { query := fun call _ memory =>
        match call with
        | .storageOpen dev => (if dev = "sda" then .ok ⟨dev⟩ else .error Err.zero, memory)
        | _ => (.error Err.zero, memory)
      update := fun _ sys memory => (.ok (), sys, memory) }
  host := NumberSite.eagerHost
  env := smallEnv 0

/-- The example as it is printed: the scheduler and the read-ahead size are never set. -/
theorem manualProfile_quoted_misread :
    ¬ (manualProfile (.quoted ⟨"sda", List.all_eq_true.mp (by decide)⟩)).AppliedAsRead := by
  intro applied
  have same := congrArg (fun program => (program sdaCtx NumberSite.firstProcess).2.steps)
    (applied Unit Unit false false)
  revert same
  decide +kernel

end Zenctl
