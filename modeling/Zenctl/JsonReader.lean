import Zenctl.Json

namespace Json

/-!
# The reader and the grammar agree

First the reader follows every derivation: a value moves it from `value` to a
state that behaves like `after`, the members of an object bring it back to the
closing brace.  Then the converse, by induction on the length of the text: a
run that ends with every structure closed has read a value, and what it read
has a derivation.
-/

/-! ## From the grammar to the reader -/

/-- The four white space characters. -/
theorem isWs_iff (c : Char) :
    isWs c = true ↔ c = ' ' ∨ c = '\t' ∨ c = '\n' ∨ c = '\r' := by
  simp only [isWs, Bool.or_eq_true, decide_eq_true_eq, or_assoc]

/-- White space does not move a state that skips it. -/
theorem run_ws
    {state : State}
    (skips : ∀ c, isWs c = true → step state c = some state)
    {blank : List Char}
    (ws : Ws blank)
    (rest : List Char) :
    run (some state) (blank ++ rest) = run (some state) rest := by
  induction blank with
  | nil =>
      rfl
  | cons c blank inductionHypothesis =>
      rw [List.cons_append, run_cons, skips c (ws c (by simp))]
      exact inductionHypothesis fun d member => ws d (List.mem_cons_of_mem c member)

theorem value_skips (stack : List Frame) (c : Char) (ws : isWs c = true) :
    step (.value, stack) c = some (.value, stack) := by
  simp [step, ws]

theorem key_skips (stack : List Frame) (c : Char) (ws : isWs c = true) :
    step (.key, stack) c = some (.key, stack) := by
  simp [step, ws]

theorem firstKey_skips (stack : List Frame) (c : Char) (ws : isWs c = true) :
    step (.firstKey, stack) c = some (.firstKey, stack) := by
  simp [step, ws]

theorem firstElement_skips (stack : List Frame) (c : Char) (ws : isWs c = true) :
    step (.firstElement, stack) c = some (.firstElement, stack) := by
  simp [step, ws]

theorem colon_skips (stack : List Frame) (c : Char) (ws : isWs c = true) :
    step (.colon, stack) c = some (.colon, stack) := by
  simp [step, ws]

theorem after_skips (stack : List Frame) (c : Char) (ws : isWs c = true) :
    step (.after, stack) c = some (.after, stack) := by
  simp [step, closeValue, ws]

/-- A character that may follow a value. -/
def isDelim (c : Char) : Bool :=
  isWs c || c = ',' || c = '}' || c = ']'

/-- The body of a string literal keeps the reader inside the literal. -/
theorem run_stringBody
    {body : List Char}
    (derived : StringBody body)
    (isKey : Bool)
    (stack : List Frame)
    (rest : List Char) :
    run (some (.str isKey, stack)) (body ++ rest) =
      run (some (.str isKey, stack)) rest := by
  induction derived with
  | nil =>
      rfl
  | @plain c body plainChar _ inductionHypothesis =>
      have shape := plainChar
      simp only [isPlain, Bool.and_eq_true, decide_eq_true_eq] at shape
      rw [List.cons_append, run_cons]
      simp only [step, shape.1.2, shape.2, ↓reduceIte, plainChar]
      exact inductionHypothesis
  | @escape c body escapeChar _ inductionHypothesis =>
      simp only [List.cons_append, run_cons, step, Char.reduceEq, ↓reduceIte,
        escapeChar]
      exact inductionHypothesis
  | @unicode a b c d body hexA hexB hexC hexD _ inductionHypothesis =>
      have notEscape : isEscape 'u' = false := by decide
      simp only [List.cons_append, run_cons, step, Char.reduceEq, ↓reduceIte,
        notEscape, Bool.false_eq_true, hexA, hexB, hexC, hexD]
      exact inductionHypothesis

/-- A string literal in the position of a key. -/
theorem run_quoted_key
    {body : List Char}
    (derived : StringBody body)
    {mode : Mode}
    (atKey : mode = .key ∨ mode = .firstKey)
    (stack : List Frame)
    (rest : List Char) :
    run (some (mode, stack)) (quoted body ++ rest) =
      run (some (.colon, stack)) rest := by
  have opened : step (mode, stack) '"' = some (.str true, stack) := by
    rcases atKey with rfl | rfl <;> rfl
  rw [quoted, List.cons_append, run_cons, opened, List.append_assoc,
    run_stringBody derived]
  rfl

/-- A string literal in the position of a value. -/
theorem run_quoted_value
    {body : List Char}
    (derived : StringBody body)
    (stack : List Frame)
    (rest : List Char) :
    run (some (.value, stack)) (quoted body ++ rest) =
      run (some (.after, stack)) rest := by
  have opened : step (.value, stack) '"' = some (.str false, stack) := rfl
  rw [quoted, List.cons_append, run_cons, opened, List.append_assoc,
    run_stringBody derived]
  rfl

/-- The reader follows the number automaton. -/
theorem run_number
    {first last : NumState}
    {text : List Char}
    (read : first.read text = some last)
    (stack : List Frame)
    (rest : List Char) :
    run (some (.num first, stack)) (text ++ rest) =
      run (some (.num last, stack)) rest := by
  induction text generalizing first with
  | nil =>
      simp only [NumState.read, Option.some.injEq] at read
      rw [read]
      rfl
  | cons c text inductionHypothesis =>
      simp only [NumState.read, Option.bind_eq_some_iff] at read
      obtain ⟨following, moved, readRest⟩ := read
      rw [List.cons_append, run_cons]
      simp only [step, moved]
      exact inductionHypothesis readRest

/-- No number goes on with a delimiter. -/
theorem next_delim
    {c : Char}
    (delim : isDelim c = true)
    (state : NumState) :
    state.next c = none := by
  have cases : c = ' ' ∨ c = '\t' ∨ c = '\n' ∨ c = '\r' ∨ c = ',' ∨ c = '}' ∨ c = ']' := by
    simpa [isDelim, isWs, or_assoc] using delim
  rcases cases with rfl | rfl | rfl | rfl | rfl | rfl | rfl <;> cases state <;> decide

/-- At a delimiter a complete number behaves like any complete value. -/
theorem run_num_delim
    {state : NumState}
    (accepting : state.accepting = true)
    {c : Char}
    (delim : isDelim c = true)
    (stack : List Frame)
    (rest : List Char) :
    run (some (.num state, stack)) (c :: rest) =
      run (some (.after, stack)) (c :: rest) := by
  simp [run_cons, step, next_delim delim, accepting]

/-- What opens a number opens nothing else. -/
theorem step_value_number
    {c : Char}
    {state : NumState}
    (starts : NumState.start c = some state)
    {mode : Mode}
    (atValue : mode = .value ∨ mode = .firstElement)
    (stack : List Frame) :
    step (mode, stack) c = some (.num state, stack) := by
  have notOther : c ≠ '"' ∧ c ≠ '{' ∧ c ≠ '[' ∧ c ≠ 't' ∧ c ≠ 'f' ∧ c ≠ 'n' ∧ c ≠ ']' ∧
      isWs c = false := by
    have isSome : (NumState.start c).isSome = true := by simp [starts]
    refine ⟨?_, ?_, ?_, ?_, ?_, ?_, ?_, ?_⟩
    any_goals
      rintro rfl
      exact absurd isSome (by decide)
    rw [Bool.eq_false_iff, ne_eq, isWs_iff]
    rintro (rfl | rfl | rfl | rfl) <;> exact absurd isSome (by decide)
  obtain ⟨h1, h2, h3, h4, h5, h6, h7, h8⟩ := notOther
  rcases atValue with rfl | rfl <;>
    simp [step, openValue, h1, h2, h3, h4, h5, h6, h7, h8, starts]

/-- What each symbol of the grammar does to the reader. -/
def Follows : Symbol → List Char → Prop
  | .value, text =>
      ∀ mode stack c rest, mode = .value ∨ mode = .firstElement → isDelim c = true →
        run (some (mode, stack)) (text ++ c :: rest) =
          run (some (.after, stack)) (c :: rest)
  | .elements, text =>
      ∀ mode stack c rest, mode = .value ∨ mode = .firstElement → c = ',' ∨ c = ']' →
        run (some (mode, .arr :: stack)) (text ++ c :: rest) =
          run (some (.after, .arr :: stack)) (c :: rest)
  | .members _, text =>
      ∀ mode stack c rest, mode = .key ∨ mode = .firstKey → c = ',' ∨ c = '}' →
        run (some (mode, .obj :: stack)) (text ++ c :: rest) =
          run (some (.after, .obj :: stack)) (c :: rest)

/-- White space after a complete value, then the next delimiter. -/
theorem run_after_ws
    {blank : List Char}
    (ws : Ws blank)
    (stack : List Frame)
    (rest : List Char) :
    run (some (.after, stack)) (blank ++ rest) =
      run (some (.after, stack)) rest :=
  run_ws (after_skips stack) ws rest

/-- A value followed by white space and a delimiter. -/
theorem follows_value_ws
    {value blank : List Char}
    (follows : Follows .value value)
    (ws : Ws blank)
    {mode : Mode}
    (atValue : mode = .value ∨ mode = .firstElement)
    {c : Char}
    (delim : isDelim c = true)
    (stack : List Frame)
    (rest : List Char) :
    run (some (mode, stack)) (value ++ (blank ++ c :: rest)) =
      run (some (.after, stack)) (c :: rest) := by
  cases blank with
  | nil =>
      exact follows mode stack c rest atValue delim
  | cons b blank =>
      have blankWs : isWs b = true := ws b (by simp)
      have blankDelim : isDelim b = true := by simp [isDelim, blankWs]
      rw [List.cons_append, follows mode stack b (blank ++ c :: rest) atValue blankDelim,
        ← List.cons_append, run_after_ws ws]

/-- The reader follows every derivation. -/
theorem Derives.follows
    {symbol : Symbol}
    {text : List Char}
    (derived : Derives symbol text) :
    Follows symbol text := by
  induction derived with
  | @string body bodyDerived =>
      rintro mode stack c rest (rfl | rfl) _
      · exact run_quoted_value bodyDerived stack (c :: rest)
      · have opened : step (.firstElement, stack) '"' = step (.value, stack) '"' := rfl
        rw [quoted, List.cons_append, run_cons, opened, ← run_cons, ← List.cons_append,
          ← quoted]
        exact run_quoted_value bodyDerived stack (c :: rest)
  | @number text isNumber =>
      intro mode stack c rest atValue delim
      cases text with
      | nil =>
          exact isNumber.elim
      | cons d text =>
          obtain ⟨first, last, starts, read, accepting⟩ := isNumber
          rw [List.cons_append, run_cons, step_value_number starts atValue,
            run_number read, run_num_delim accepting delim]
  | @literal name known =>
      rintro mode stack c rest atValue _
      simp only [literals, List.mem_cons, List.not_mem_nil, or_false] at known
      rcases known with rfl | rfl | rfl <;> rcases atValue with rfl | rfl <;> rfl
  | @emptyObject blank ws =>
      intro mode stack c rest atValue _
      have opened : step (mode, stack) '{' = some (.firstKey, .obj :: stack) := by
        rcases atValue with rfl | rfl <;> rfl
      rw [List.cons_append, run_cons, opened, List.append_assoc,
        run_ws (firstKey_skips _) ws]
      rfl
  | @object entries body _ inductionHypothesis =>
      intro mode stack c rest atValue _
      have opened : step (mode, stack) '{' = some (.firstKey, .obj :: stack) := by
        rcases atValue with rfl | rfl <;> rfl
      rw [List.cons_append, run_cons, opened, List.append_assoc, List.singleton_append,
        inductionHypothesis .firstKey stack '}' (c :: rest) (.inr rfl) (.inr rfl)]
      rfl
  | @emptyArray blank ws =>
      intro mode stack c rest atValue _
      have opened : step (mode, stack) '[' = some (.firstElement, .arr :: stack) := by
        rcases atValue with rfl | rfl <;> rfl
      rw [List.cons_append, run_cons, opened, List.append_assoc,
        run_ws (firstElement_skips _) ws]
      rfl
  | @array body _ inductionHypothesis =>
      intro mode stack c rest atValue _
      have opened : step (mode, stack) '[' = some (.firstElement, .arr :: stack) := by
        rcases atValue with rfl | rfl <;> rfl
      rw [List.cons_append, run_cons, opened, List.append_assoc, List.singleton_append,
        inductionHypothesis .firstElement stack ']' (c :: rest) (.inr rfl) (.inr rfl)]
      rfl
  | @element before value after wsBefore _ wsAfter inductionHypothesis =>
      intro mode stack c rest atValue delim
      have isDelimiter : isDelim c = true := by
        rcases delim with rfl | rfl <;> decide
      have skips : ∀ b, isWs b = true →
          step (mode, Frame.arr :: stack) b = some (mode, .arr :: stack) := by
        rcases atValue with rfl | rfl
        · exact value_skips _
        · exact firstElement_skips _
      rw [List.append_assoc, List.append_assoc, run_ws skips wsBefore]
      exact follows_value_ws inductionHypothesis wsAfter atValue isDelimiter _ rest
  | @moreElements first rest' _ _ firstFollows restFollows =>
      intro mode stack c rest atValue delim
      have nextElement : ∀ tail, run (some (.after, Frame.arr :: stack)) (',' :: tail) =
          run (some (.value, .arr :: stack)) tail := fun _ => rfl
      rw [List.append_assoc, List.cons_append,
        firstFollows mode stack ',' _ atValue (.inl rfl), nextElement,
        restFollows .value stack c rest (.inl rfl) delim]
  | @member before key gap between value after wsBefore keyBody wsGap wsBetween _ wsAfter
      inductionHypothesis =>
      intro mode stack c rest atKey delim
      have isDelimiter : isDelim c = true := by
        rcases delim with rfl | rfl <;> decide
      have skips : ∀ b, isWs b = true →
          step (mode, Frame.obj :: stack) b = some (mode, .obj :: stack) := by
        rcases atKey with rfl | rfl
        · exact key_skips _
        · exact firstKey_skips _
      have colonRead : ∀ tail, run (some (.colon, Frame.obj :: stack)) (':' :: tail) =
          run (some (.value, .obj :: stack)) tail := fun _ => rfl
      simp only [List.append_assoc, List.cons_append]
      rw [run_ws skips wsBefore, run_quoted_key keyBody atKey, run_ws (colon_skips _) wsGap,
        colonRead, run_ws (value_skips _) wsBetween]
      exact follows_value_ws inductionHypothesis wsAfter (.inl rfl) isDelimiter _ rest
  | @moreMembers entry entries first rest' _ _ firstFollows restFollows =>
      intro mode stack c rest atKey delim
      have nextMember : ∀ tail, run (some (.after, Frame.obj :: stack)) (',' :: tail) =
          run (some (.key, .obj :: stack)) tail := fun _ => rfl
      rw [List.append_assoc, List.cons_append,
        firstFollows mode stack ',' _ atKey (.inl rfl), nextMember,
        restFollows .key stack c rest (.inl rfl) delim]

/-- An object text brings the reader to the end of one complete value. -/
theorem IsObject.scan_eq
    {entries : List (List Char × List Char)}
    {text : List Char}
    (isObject : IsObject entries text) :
    scan text = some (.after, []) := by
  obtain ⟨before, body, after, wsBefore, wsAfter, members, rfl⟩ := isObject
  have opened : ∀ rest, run (some (.value, [])) ('{' :: rest) =
      run (some (.firstKey, [.obj])) rest := fun _ => rfl
  have closed : ∀ rest, run (some (.after, [.obj])) ('}' :: rest) =
      run (some (.after, [])) rest := fun _ => rfl
  rw [scan, run_ws (value_skips _) wsBefore, opened,
    members.follows .firstKey [] '}' after (.inr rfl) (.inr rfl), closed,
    ← List.append_nil after, run_after_ws wsAfter]
  rfl

/-- Two pieces of text are read one after the other. -/
theorem run_append (state : Option State) (first rest : List Char) :
    run state (first ++ rest) = run (run state first) rest := by
  induction first generalizing state with
  | nil =>
      rw [List.nil_append, run_nil]
  | cons c first inductionHypothesis =>
      cases state with
      | none => simp
      | some state => exact inductionHypothesis (step state c)

theorem scan_append (first rest : List Char) :
    scan (first ++ rest) = run (scan first) rest :=
  run_append _ first rest

/-! ## From the reader to the grammar -/

/-- The reader at the end of one complete value. -/
abbrev finished : Option State := some (.after, [])

/-- A state other than `finished` is not an end, so the text goes on. -/
theorem run_finished_cons
    {mode : Mode}
    {stack : List Frame}
    {text : List Char}
    (unfinished : mode ≠ .after)
    (ends : run (some (mode, stack)) text = finished) :
    ∃ c rest, text = c :: rest ∧ run (step (mode, stack) c) rest = finished := by
  cases text with
  | nil =>
      simp only [run_nil, finished, Option.some.injEq, Prod.mk.injEq] at ends
      exact (unfinished ends.1).elim
  | cons c rest =>
      exact ⟨c, rest, rfl, ends⟩

/-- One hexadecimal digit of a `\u` escape. -/
theorem uni_run
    {isKey : Bool}
    {missing : Nat}
    {stack : List Frame}
    {text : List Char}
    (ends : run (some (.uni isKey missing, stack)) text = finished) :
    ∃ c rest, text = c :: rest ∧ isHex c = true ∧
      run (some (if missing = 0 then .str isKey else .uni isKey (missing - 1), stack)) rest =
        finished := by
  obtain ⟨c, rest, rfl, moved⟩ := run_finished_cons (by simp) ends
  simp only [step] at moved
  split at moved
  · next hex =>
      refine ⟨c, rest, rfl, hex, ?_⟩
      cases missing <;> exact moved
  · simp [finished] at moved

/-- Text read inside a string literal starts with a body and its closing quote. -/
theorem str_run
    {isKey : Bool}
    {stack : List Frame}
    {text : List Char}
    (ends : run (some (.str isKey, stack)) text = finished) :
    ∃ body rest, text = body ++ '"' :: rest ∧ StringBody body ∧
      run (some (if isKey then .colon else .after, stack)) rest = finished := by
  induction size : text.length using Nat.strongRecOn generalizing text with
  | _ size inductionHypothesis =>
      obtain ⟨c, tail, rfl, moved⟩ := run_finished_cons (by simp) ends
      simp only [step] at moved
      split at moved
      · next quote =>
          subst quote
          exact ⟨[], tail, rfl, .nil, moved⟩
      split at moved
      · next backslash =>
          subst backslash
          obtain ⟨e, rest, rfl, escaped⟩ := run_finished_cons (by simp) moved
          simp only [step] at escaped
          split at escaped
          · next escapeChar =>
              obtain ⟨body, last, rfl, derived, closed⟩ :=
                inductionHypothesis rest.length (by simp at size; omega) escaped rfl
              exact ⟨'\\' :: e :: body, last, rfl, .escape escapeChar derived, closed⟩
          split at escaped
          · next isU =>
              subst isU
              obtain ⟨a, rest1, rfl, hexA, run1⟩ := uni_run escaped
              obtain ⟨b, rest2, rfl, hexB, run2⟩ := uni_run run1
              obtain ⟨c, rest3, rfl, hexC, run3⟩ := uni_run run2
              obtain ⟨d, rest4, rfl, hexD, run4⟩ := uni_run run3
              obtain ⟨body, last, rfl, derived, closed⟩ :=
                inductionHypothesis rest4.length (by simp at size; omega) run4 rfl
              exact ⟨'\\' :: 'u' :: a :: b :: c :: d :: body, last, rfl,
                .unicode hexA hexB hexC hexD derived, closed⟩
          · simp [finished] at escaped
      split at moved
      · next plainChar =>
          obtain ⟨body, last, rfl, derived, closed⟩ :=
            inductionHypothesis tail.length (by simp at size; omega) moved rfl
          exact ⟨c :: body, last, rfl, .plain plainChar derived, closed⟩
      · simp [finished] at moved

/-- Text read inside a number starts with the rest of the number. -/
theorem num_run
    {state : NumState}
    {stack : List Frame}
    {text : List Char}
    (ends : run (some (.num state, stack)) text = finished) :
    ∃ digits rest last, text = digits ++ rest ∧ state.read digits = some last ∧
      last.accepting = true ∧ run (some (.after, stack)) rest = finished := by
  induction text generalizing state with
  | nil =>
      simp [finished] at ends
  | cons c text inductionHypothesis =>
      rw [run_cons] at ends
      simp only [step] at ends
      split at ends
      · next following moved =>
          obtain ⟨digits, rest, last, rfl, read, accepting, tail⟩ := inductionHypothesis ends
          exact ⟨c :: digits, rest, last, rfl, by simp [NumState.read, moved, read],
            accepting, tail⟩
      · split at ends
        · next accepting =>
            exact ⟨[], c :: text, state, rfl, rfl, accepting, ends⟩
        · simp [finished] at ends

/-- Text read inside a literal name starts with the rest of the name. -/
theorem lit_run
    {expected : List Char}
    {stack : List Frame}
    {text : List Char}
    (nonempty : expected ≠ [])
    (ends : run (some (.lit expected, stack)) text = finished) :
    ∃ rest, text = expected ++ rest ∧ run (some (.after, stack)) rest = finished := by
  induction expected generalizing text with
  | nil =>
      exact (nonempty rfl).elim
  | cons e expected inductionHypothesis =>
      obtain ⟨c, tail, rfl, moved⟩ := run_finished_cons (by simp) ends
      simp only [step] at moved
      split at moved
      · next same =>
          subst same
          by_cases last : expected = []
          · subst last
            exact ⟨tail, rfl, moved⟩
          · simp only [last, ↓reduceIte] at moved
            obtain ⟨rest, rfl, closed⟩ := inductionHypothesis last moved
            exact ⟨rest, rfl, closed⟩
      · simp [finished] at moved

/-- After a value inside an object: white space, then a comma or the closing brace. -/
theorem after_obj_run
    {stack : List Frame}
    {text : List Char}
    (ends : run (some (.after, .obj :: stack)) text = finished) :
    ∃ blank rest, Ws blank ∧
      ((text = blank ++ ',' :: rest ∧ run (some (.key, .obj :: stack)) rest = finished) ∨
        (text = blank ++ '}' :: rest ∧ run (some (.after, stack)) rest = finished)) := by
  induction text with
  | nil =>
      simp [finished] at ends
  | cons c text inductionHypothesis =>
      rw [run_cons] at ends
      simp only [step, closeValue] at ends
      split at ends
      · next ws =>
          obtain ⟨blank, rest, blankWs, shapes⟩ := inductionHypothesis ends
          refine ⟨c :: blank, rest, ?_, ?_⟩
          · simpa [Ws, ws] using blankWs
          · simpa using shapes
      split at ends
      · next comma =>
          subst comma
          exact ⟨[], text, by simp [Ws], .inl ⟨rfl, ends⟩⟩
      split at ends
      · next brace =>
          subst brace
          exact ⟨[], text, by simp [Ws], .inr ⟨rfl, ends⟩⟩
      · simp [finished] at ends

/-- After a value inside an array: white space, then a comma or the closing bracket. -/
theorem after_arr_run
    {stack : List Frame}
    {text : List Char}
    (ends : run (some (.after, .arr :: stack)) text = finished) :
    ∃ blank rest, Ws blank ∧
      ((text = blank ++ ',' :: rest ∧ run (some (.value, .arr :: stack)) rest = finished) ∨
        (text = blank ++ ']' :: rest ∧ run (some (.after, stack)) rest = finished)) := by
  induction text with
  | nil =>
      simp [finished] at ends
  | cons c text inductionHypothesis =>
      rw [run_cons] at ends
      simp only [step, closeValue] at ends
      split at ends
      · next ws =>
          obtain ⟨blank, rest, blankWs, shapes⟩ := inductionHypothesis ends
          refine ⟨c :: blank, rest, ?_, ?_⟩
          · simpa [Ws, ws] using blankWs
          · simpa using shapes
      split at ends
      · next comma =>
          subst comma
          exact ⟨[], text, by simp [Ws], .inl ⟨rfl, ends⟩⟩
      split at ends
      · next bracket =>
          subst bracket
          exact ⟨[], text, by simp [Ws], .inr ⟨rfl, ends⟩⟩
      · simp [finished] at ends

/-- After the whole text: white space only. -/
theorem after_nil_run
    {text : List Char}
    (ends : run (some (.after, [])) text = finished) :
    Ws text := by
  induction text with
  | nil =>
      exact List.forall_mem_nil _
  | cons c text inductionHypothesis =>
      rw [run_cons] at ends
      simp only [step, closeValue] at ends
      split at ends
      · next ws =>
          exact List.forall_mem_cons.mpr ⟨ws, inductionHypothesis ends⟩
      · simp [finished] at ends

/-- Before a key: white space and the opening quote. -/
theorem key_run
    {stack : List Frame}
    {text : List Char}
    (ends : run (some (.key, stack)) text = finished) :
    ∃ blank rest, Ws blank ∧ text = blank ++ '"' :: rest ∧
      run (some (.str true, stack)) rest = finished := by
  induction text with
  | nil =>
      simp [finished] at ends
  | cons c text inductionHypothesis =>
      rw [run_cons] at ends
      simp only [step] at ends
      split at ends
      · next ws =>
          obtain ⟨blank, rest, blankWs, rfl, opened⟩ := inductionHypothesis ends
          exact ⟨c :: blank, rest, by simpa [Ws, ws] using blankWs, rfl, opened⟩
      split at ends
      · next quote =>
          subst quote
          exact ⟨[], text, by simp [Ws], rfl, ends⟩
      · simp [finished] at ends

/-- After a key: white space and the colon. -/
theorem colon_run
    {stack : List Frame}
    {text : List Char}
    (ends : run (some (.colon, stack)) text = finished) :
    ∃ blank rest, Ws blank ∧ text = blank ++ ':' :: rest ∧
      run (some (.value, stack)) rest = finished := by
  induction text with
  | nil =>
      simp [finished] at ends
  | cons c text inductionHypothesis =>
      rw [run_cons] at ends
      simp only [step] at ends
      split at ends
      · next ws =>
          obtain ⟨blank, rest, blankWs, rfl, opened⟩ := inductionHypothesis ends
          exact ⟨c :: blank, rest, by simpa [Ws, ws] using blankWs, rfl, opened⟩
      split at ends
      · next colon =>
          subst colon
          exact ⟨[], text, by simp [Ws], rfl, ends⟩
      · simp [finished] at ends

/-- Right after an opening brace: white space and the closing brace, or a first member. -/
theorem firstKey_run
    {stack : List Frame}
    {text : List Char}
    (ends : run (some (.firstKey, .obj :: stack)) text = finished) :
    (∃ blank rest, Ws blank ∧ text = blank ++ '}' :: rest ∧
        run (some (.after, stack)) rest = finished) ∨
      run (some (.key, .obj :: stack)) text = finished := by
  induction text with
  | nil =>
      simp [finished] at ends
  | cons c text inductionHypothesis =>
      rw [run_cons] at ends
      simp only [step] at ends
      split at ends
      · next ws =>
          rcases inductionHypothesis ends with ⟨blank, rest, blankWs, rfl, tail⟩ | asKey
          · exact .inl ⟨c :: blank, rest, by simpa [Ws, ws] using blankWs, rfl, tail⟩
          · exact .inr (by rw [run_cons, key_skips _ c ws]; exact asKey)
      split at ends
      · next quote =>
          subst quote
          exact .inr ends
      split at ends
      · next brace =>
          subst brace
          exact .inl ⟨[], text, by simp [Ws], rfl, ends⟩
      · simp [finished] at ends

/-- Right after an opening bracket: white space and the closing bracket, or a first element. -/
theorem firstElement_run
    {stack : List Frame}
    {text : List Char}
    (ends : run (some (.firstElement, .arr :: stack)) text = finished) :
    (∃ blank rest, Ws blank ∧ text = blank ++ ']' :: rest ∧
        run (some (.after, stack)) rest = finished) ∨
      run (some (.value, .arr :: stack)) text = finished := by
  induction text with
  | nil =>
      simp [finished] at ends
  | cons c text inductionHypothesis =>
      rw [run_cons] at ends
      simp only [step] at ends
      split at ends
      · next ws =>
          rcases inductionHypothesis ends with ⟨blank, rest, blankWs, rfl, tail⟩ | asValue
          · exact .inl ⟨c :: blank, rest, by simpa [Ws, ws] using blankWs, rfl, tail⟩
          · exact .inr (by rw [run_cons, value_skips _ c ws]; exact asValue)
      split at ends
      · next bracket =>
          subst bracket
          exact .inl ⟨[], text, by simp [Ws], rfl, ends⟩
      · next notWs _ =>
          refine .inr ?_
          rw [run_cons]
          simpa [step, notWs] using ends

/-- What a finished run from each position has read, and where it goes on. -/
structure Sound (text : List Char) : Prop where
  value : ∀ stack, run (some (.value, stack)) text = finished →
    ∃ blank value rest, text = blank ++ value ++ rest ∧ Ws blank ∧ value ≠ [] ∧
      Derives .value value ∧ run (some (.after, stack)) rest = finished
  elements : ∀ stack, run (some (.value, .arr :: stack)) text = finished →
    ∃ body rest, text = body ++ ']' :: rest ∧ Derives .elements body ∧
      run (some (.after, stack)) rest = finished
  members : ∀ stack, run (some (.key, .obj :: stack)) text = finished →
    ∃ entries body rest, text = body ++ '}' :: rest ∧ Derives (.members entries) body ∧
      run (some (.after, stack)) rest = finished

/-- A finished run from a value position has read a value. -/
theorem sound_value
    {text : List Char}
    (shorter : ∀ rest : List Char, rest.length < text.length → Sound rest)
    {stack : List Frame}
    (ends : run (some (.value, stack)) text = finished) :
    ∃ blank value rest, text = blank ++ value ++ rest ∧ Ws blank ∧ value ≠ [] ∧
      Derives .value value ∧ run (some (.after, stack)) rest = finished := by
  obtain ⟨c, tail, rfl, moved⟩ := run_finished_cons (by simp) ends
  simp only [step] at moved
  split at moved
  · next ws =>
      obtain ⟨blank, value, rest, rfl, blankWs, nonempty, derived, closed⟩ :=
        (shorter tail (by simp)).value stack moved
      exact ⟨c :: blank, value, rest, rfl, by simpa [Ws, ws] using blankWs, nonempty,
        derived, closed⟩
  simp only [openValue] at moved
  split at moved
  · next quote =>
      subst quote
      obtain ⟨body, rest, rfl, derived, closed⟩ := str_run moved
      exact ⟨[], quoted body, rest, by simp [quoted], by simp [Ws], by simp [quoted],
        .string derived, closed⟩
  split at moved
  · next brace =>
      subst brace
      rcases firstKey_run moved with ⟨blank, rest, blankWs, rfl, closed⟩ | asKey
      · exact ⟨[], '{' :: (blank ++ ['}']), rest, by simp, by simp [Ws], by simp,
          .emptyObject blankWs, closed⟩
      · obtain ⟨entries, body, rest, rfl, derived, closed⟩ :=
          (shorter tail (by simp)).members stack asKey
        exact ⟨[], '{' :: (body ++ ['}']), rest, by simp, by simp [Ws], by simp,
          .object derived, closed⟩
  split at moved
  · next bracket =>
      subst bracket
      rcases firstElement_run moved with ⟨blank, rest, blankWs, rfl, closed⟩ | asValue
      · exact ⟨[], '[' :: (blank ++ [']']), rest, by simp, by simp [Ws], by simp,
          .emptyArray blankWs, closed⟩
      · obtain ⟨body, rest, rfl, derived, closed⟩ :=
          (shorter tail (by simp)).elements stack asValue
        exact ⟨[], '[' :: (body ++ [']']), rest, by simp, by simp [Ws], by simp,
          .array derived, closed⟩
  split at moved
  · next isTrue =>
      subst isTrue
      obtain ⟨rest, rfl, closed⟩ := lit_run (by decide) moved
      exact ⟨[], "true".toList, rest, rfl, by simp [Ws], by decide,
        .literal (by simp [literals]), closed⟩
  split at moved
  · next isFalse =>
      subst isFalse
      obtain ⟨rest, rfl, closed⟩ := lit_run (by decide) moved
      exact ⟨[], "false".toList, rest, rfl, by simp [Ws], by decide,
        .literal (by simp [literals]), closed⟩
  split at moved
  · next isNull =>
      subst isNull
      obtain ⟨rest, rfl, closed⟩ := lit_run (by decide) moved
      exact ⟨[], "null".toList, rest, rfl, by simp [Ws], by decide,
        .literal (by simp [literals]), closed⟩
  cases starts : NumState.start c with
  | none =>
      simp [starts, finished] at moved
  | some state =>
      simp only [starts, Option.map_some] at moved
      obtain ⟨digits, rest, last, rfl, read, accepting, closed⟩ := num_run moved
      exact ⟨[], c :: digits, rest, rfl, by simp [Ws], by simp,
        .number ⟨state, last, starts, read, accepting⟩, closed⟩

/-- Every finished run has a derivation behind it. -/
theorem sound (text : List Char) : Sound text := by
  induction size : text.length using Nat.strongRecOn generalizing text with
  | _ size inductionHypothesis =>
      have shorter : ∀ rest : List Char, rest.length < text.length → Sound rest :=
        fun rest less => inductionHypothesis rest.length (by omega) rest rfl
      have values := @sound_value text shorter
      refine ⟨fun stack ends => values ends, fun stack ends => ?_, fun stack ends => ?_⟩
      · obtain ⟨blank, value, rest, rfl, blankWs, nonempty, derived, closed⟩ := values ends
        have valueLength : 0 < value.length := List.length_pos_of_ne_nil nonempty
        obtain ⟨gap, more, gapWs, ⟨rfl, next⟩ | ⟨rfl, next⟩⟩ := after_arr_run closed
        · obtain ⟨body, last, rfl, restDerived, done⟩ :=
            (shorter more (by simp; omega)).elements stack next
          exact ⟨(blank ++ value ++ gap) ++ ',' :: body, last, by simp,
            .moreElements (.element blankWs derived gapWs) restDerived, done⟩
        · exact ⟨blank ++ value ++ gap, more, by simp, .element blankWs derived gapWs, next⟩
      · obtain ⟨blank, afterQuote, blankWs, rfl, inKey⟩ := key_run ends
        obtain ⟨key, afterKey, rfl, keyBody, atColon⟩ := str_run inKey
        obtain ⟨gap, afterColon, gapWs, rfl, atValue⟩ := colon_run atColon
        obtain ⟨between, value, rest, rfl, betweenWs, nonempty, derived, closed⟩ :=
          (shorter afterColon (by simp; omega)).value _ atValue
        obtain ⟨trail, more, trailWs, ⟨rfl, next⟩ | ⟨rfl, next⟩⟩ := after_obj_run closed
        · obtain ⟨entries, body, last, rfl, restDerived, done⟩ :=
            (shorter more (by simp; omega)).members stack next
          exact ⟨(key, value) :: entries, _, last, by simp [quoted],
            .moreMembers (.member blankWs keyBody gapWs betweenWs derived trailWs) restDerived,
            done⟩
        · exact ⟨[(key, value)], _, more, by simp [quoted],
            .member blankWs keyBody gapWs betweenWs derived trailWs, next⟩

end Json
