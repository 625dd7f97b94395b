import Mathlib.Data.List.Basic
import Mathlib.Tactic.Common

namespace Json

/-!
# JSON texts

The grammar of RFC 8259 over lists of characters, and a pushdown reader that
walks a text once from the left.  `Derives` is the grammar; `run` is the
reader.  The two agree: a derivable object drives the reader from `value` to
`after`, and a run of the reader that closes its object has a derivation.

A text that is written piece by piece is followed by the reader piece by piece,
so facts about a printer are facts about reader states.
-/

/-! ## Grammar -/

/-- Insignificant white space. -/
def isWs (c : Char) : Bool :=
  c = ' ' || c = '\t' || c = '\n' || c = '\r'

/-- A run of insignificant white space. -/
def Ws (text : List Char) : Prop :=
  ∀ c ∈ text, isWs c = true

/-- A character that stands for itself inside a string literal. -/
def isPlain (c : Char) : Bool :=
  32 ≤ c.toNat && c ≠ '"' && c ≠ '\\'

/-- A character that may follow a backslash, `u` apart. -/
def isEscape (c : Char) : Bool :=
  c = '"' || c = '\\' || c = '/' || c = 'b' || c = 'f' || c = 'n' || c = 'r' || c = 't'

/-- A hexadecimal digit. -/
def isHex (c : Char) : Bool :=
  ('0' ≤ c && c ≤ '9') || ('a' ≤ c && c ≤ 'f') || ('A' ≤ c && c ≤ 'F')

/-- What may stand between the quotes of a string literal. -/
inductive StringBody : List Char → Prop where
  | nil : StringBody []
  | plain {c : Char} {rest : List Char} :
      isPlain c = true → StringBody rest → StringBody (c :: rest)
  | escape {c : Char} {rest : List Char} :
      isEscape c = true → StringBody rest → StringBody ('\\' :: c :: rest)
  | unicode {a b c d : Char} {rest : List Char} :
      isHex a = true → isHex b = true → isHex c = true → isHex d = true →
      StringBody rest → StringBody ('\\' :: 'u' :: a :: b :: c :: d :: rest)

/-- A string literal with the given body. -/
def quoted (body : List Char) : List Char :=
  '"' :: (body ++ ['"'])

/-- How far a number literal has been read. -/
inductive NumState where
  | minus | zero | int | point | frac | exp | expSign | expDigits
  deriving Repr, DecidableEq

namespace NumState

/-- The number read so far is complete. -/
def accepting : NumState → Bool
  | zero | int | frac | expDigits => true
  | minus | point | exp | expSign => false

/-- The first character of a number literal. -/
def start (c : Char) : Option NumState :=
  if c = '-' then some minus
  else if c = '0' then some zero
  else if '1' ≤ c ∧ c ≤ '9' then some int
  else none

/-- One more character of a number literal. -/
def next (state : NumState) (c : Char) : Option NumState :=
  match state with
  | minus => if c = '0' then some zero else if '1' ≤ c ∧ c ≤ '9' then some int else none
  | zero => if c = '.' then some point else if c = 'e' ∨ c = 'E' then some exp else none
  | int =>
      if '0' ≤ c ∧ c ≤ '9' then some int
      else if c = '.' then some point
      else if c = 'e' ∨ c = 'E' then some exp
      else none
  | point => if '0' ≤ c ∧ c ≤ '9' then some frac else none
  | frac =>
      if '0' ≤ c ∧ c ≤ '9' then some frac
      else if c = 'e' ∨ c = 'E' then some exp
      else none
  | exp =>
      if c = '+' ∨ c = '-' then some expSign
      else if '0' ≤ c ∧ c ≤ '9' then some expDigits
      else none
  | expSign | expDigits => if '0' ≤ c ∧ c ≤ '9' then some expDigits else none

/-- Read the remaining characters of a number literal. -/
def read (state : NumState) : List Char → Option NumState
  | [] => some state
  | c :: rest => (state.next c).bind fun following => following.read rest

end NumState

/-- A number literal. -/
def IsNumber : List Char → Prop
  | [] => False
  | c :: rest =>
      ∃ first last, NumState.start c = some first ∧
        first.read rest = some last ∧ last.accepting = true

/-- The three literal names. -/
def literals : List (List Char) :=
  ["true".toList, "false".toList, "null".toList]

/-- What a part of a JSON text is: a value, or the inside of an array or object. -/
inductive Symbol where
  | value
  | elements
  | members (entries : List (List Char × List Char))

/--
The grammar.  The members of an object are recorded with the body of each key
and the text of each value, in order.
-/
inductive Derives : Symbol → List Char → Prop where
  | string {body : List Char} :
      StringBody body → Derives .value (quoted body)
  | number {text : List Char} :
      IsNumber text → Derives .value text
  | literal {name : List Char} :
      name ∈ literals → Derives .value name
  | emptyObject {blank : List Char} :
      Ws blank → Derives .value ('{' :: (blank ++ ['}']))
  | object {entries : List (List Char × List Char)} {body : List Char} :
      Derives (.members entries) body → Derives .value ('{' :: (body ++ ['}']))
  | emptyArray {blank : List Char} :
      Ws blank → Derives .value ('[' :: (blank ++ [']']))
  | array {body : List Char} :
      Derives .elements body → Derives .value ('[' :: (body ++ [']']))
  | element {before value after : List Char} :
      Ws before → Derives .value value → Ws after →
      Derives .elements (before ++ value ++ after)
  | moreElements {first rest : List Char} :
      Derives .elements first → Derives .elements rest →
      Derives .elements (first ++ ',' :: rest)
  | member {before key gap between value after : List Char} :
      Ws before → StringBody key → Ws gap → Ws between → Derives .value value → Ws after →
      Derives (.members [(key, value)])
        (before ++ quoted key ++ gap ++ ':' :: (between ++ value ++ after))
  | moreMembers {entry : List Char × List Char} {entries : List (List Char × List Char)}
      {first rest : List Char} :
      Derives (.members [entry]) first → Derives (.members entries) rest →
      Derives (.members (entry :: entries)) (first ++ ',' :: rest)

/-- A text that is one JSON object with the given members and nothing else. -/
def IsObject (entries : List (List Char × List Char)) (text : List Char) : Prop :=
  ∃ before body after, Ws before ∧ Ws after ∧
    Derives (.members entries) body ∧
    text = before ++ '{' :: (body ++ '}' :: after)

/-! ## Reader -/

/-- An enclosing structure that is still open. -/
inductive Frame where
  | obj | arr
  deriving Repr, DecidableEq

/-- What the reader is in the middle of. -/
inductive Mode where
  | value
  | firstElement
  | firstKey
  | key
  | colon
  | after
  | str (isKey : Bool)
  | esc (isKey : Bool)
  | uni (isKey : Bool) (missing : Nat)
  | num (state : NumState)
  | lit (expected : List Char)
  deriving Repr, DecidableEq

/-- A reader state: the mode and the open structures, innermost first. -/
abbrev State := Mode × List Frame

/-- A character that opens a value. -/
def openValue (stack : List Frame) (c : Char) : Option State :=
  if c = '"' then some (.str false, stack)
  else if c = '{' then some (.firstKey, .obj :: stack)
  else if c = '[' then some (.firstElement, .arr :: stack)
  else if c = 't' then some (.lit "rue".toList, stack)
  else if c = 'f' then some (.lit "alse".toList, stack)
  else if c = 'n' then some (.lit "ull".toList, stack)
  else (NumState.start c).map fun state => (.num state, stack)

/-- A character after a complete value. -/
def closeValue (stack : List Frame) (c : Char) : Option State :=
  if isWs c then some (.after, stack)
  else
    match stack with
    | [] => none
    | .obj :: outer =>
        if c = ',' then some (.key, stack)
        else if c = '}' then some (.after, outer)
        else none
    | .arr :: outer =>
        if c = ',' then some (.value, stack)
        else if c = ']' then some (.after, outer)
        else none

/-- One character of the text. -/
def step (state : State) (c : Char) : Option State :=
  match state with
  | (.value, stack) => if isWs c then some (.value, stack) else openValue stack c
  | (.firstElement, stack) =>
      if isWs c then some (.firstElement, stack)
      else if c = ']' then some (.after, stack.tail)
      else openValue stack c
  | (.firstKey, stack) =>
      if isWs c then some (.firstKey, stack)
      else if c = '"' then some (.str true, stack)
      else if c = '}' then some (.after, stack.tail)
      else none
  | (.key, stack) =>
      if isWs c then some (.key, stack)
      else if c = '"' then some (.str true, stack)
      else none
  | (.colon, stack) =>
      if isWs c then some (.colon, stack)
      else if c = ':' then some (.value, stack)
      else none
  | (.after, stack) => closeValue stack c
  | (.str isKey, stack) =>
      if c = '"' then some (if isKey then .colon else .after, stack)
      else if c = '\\' then some (.esc isKey, stack)
      else if isPlain c then some (.str isKey, stack)
      else none
  | (.esc isKey, stack) =>
      if isEscape c then some (.str isKey, stack)
      else if c = 'u' then some (.uni isKey 3, stack)
      else none
  | (.uni isKey missing, stack) =>
      if isHex c then
        match missing with
        | 0 => some (.str isKey, stack)
        | more + 1 => some (.uni isKey more, stack)
      else none
  | (.num number, stack) =>
      match number.next c with
      | some following => some (.num following, stack)
      | none => if number.accepting then closeValue stack c else none
  | (.lit expected, stack) =>
      match expected with
      | [] => none
      | e :: rest =>
          if c = e then some (if rest = [] then .after else .lit rest, stack) else none

/-- The reader over a whole piece of text; a failed reader stays failed. -/
def run : Option State → List Char → Option State
  | state, [] => state
  | none, _ :: _ => none
  | some state, c :: rest => run (step state c) rest

/-- The reader on a text from its beginning. -/
def scan (text : List Char) : Option State :=
  run (some (.value, [])) text

@[simp] theorem run_nil (state : Option State) : run state [] = state := by
  cases state <;> rfl

@[simp] theorem run_none (text : List Char) : run none text = none := by
  cases text <;> rfl

theorem run_cons (state : State) (c : Char) (rest : List Char) :
    run (some state) (c :: rest) = run (step state c) rest := rfl

end Json
