import Zenctl.Answers

namespace Zenctl

open CString

/-!
# Files that list the choices

The scheduler of a disk, the `mem_sleep` mode and the huge page mode are files
that list every choice and put the active one in brackets.  Each of the three
getters finds the brackets in its own way.
-/

variable {σ : Type}

/-! ## The brackets in a text -/

/-- A text whose first bracketed word is this one; it goes on in some way. -/
def Brackets (word text : CStr) : Prop :=
  ∃ front back, text = front ++ '[' :: (word ++ ']' :: back) ∧
    '[' ∉ front ∧ ']' ∉ front ∧ ']' ∉ word ∧ '\x00' ∉ front ++ word

namespace Brackets

variable {word text : CStr}

/-- Characters other than the bracket may go at the end. -/
theorem rdropWhile
    (brackets : Brackets word text)
    (strip : Char → Bool) (keeps : strip ']' = false) :
    Brackets word (text.rdropWhile strip) := by
  obtain ⟨front, back, rfl, rest⟩ := brackets
  have whole : ∀ back, front ++ '[' :: (word ++ ']' :: back) =
      (front ++ '[' :: word) ++ ']' :: back := fun _ => by simp
  refine ⟨front, back.rdropWhile strip, ?_, rest⟩
  rw [whole, rdropWhile_keeps keeps, whole]

/-- What follows the text does not matter. -/
theorem append (brackets : Brackets word text) (more : CStr) :
    Brackets word (text ++ more) := by
  obtain ⟨front, back, rfl, rest⟩ := brackets
  exact ⟨front, back ++ more, by simp, rest⟩

/-- The string in a buffer ends behind the brackets. -/
theorem ofBuffer (brackets : Brackets word text) :
    Brackets word (CString.ofBuffer text) := by
  obtain ⟨front, back, rfl, noOpen, noClose, inWord, noNul⟩ := brackets
  refine ⟨front, CString.ofBuffer back, ?_, noOpen, noClose, inWord, noNul⟩
  have whole : front ++ '[' :: (word ++ ']' :: back) =
      (front ++ '[' :: (word ++ [']'])) ++ back := by simp
  rw [whole, CString.ofBuffer, List.takeWhile_append_of_pos]
  · simp [CString.ofBuffer]
  · intro c member
    refine decide_eq_true fun nul => ?_
    subst nul
    rw [List.mem_append] at noNul
    simp [not_or.mp noNul] at member

/-- `strchr` for the opening bracket, then for the closing one behind it. -/
theorem afterOpen (brackets : Brackets word text) :
    ∃ start, afterChar '[' text = some start ∧ ']' ∈ start ∧
      start.takeWhile (· ≠ ']') = word := by
  obtain ⟨front, back, rfl, noOpen, -, inWord, -⟩ := brackets
  refine ⟨word ++ ']' :: back, ?_, by simp, ?_⟩
  · have skips : (front ++ '[' :: (word ++ ']' :: back)).dropWhile (· ≠ '[') =
        '[' :: (word ++ ']' :: back) := by
      rw [List.dropWhile_append_of_pos]
      · rfl
      · exact fun c member => decide_eq_true fun same => noOpen (same ▸ member)
    rw [afterChar, if_pos (by simp), skips]
    rfl
  · rw [List.takeWhile_append_of_pos]
    · simp
    · exact fun c member => decide_eq_true fun same => inWord (same ▸ member)

/-- `strchr` for either bracket from the start. -/
theorem positions (brackets : Brackets word text) :
    '[' ∈ text ∧ ']' ∈ text ∧ text.idxOf '[' < text.idxOf ']' ∧
      (text.take (text.idxOf ']')).drop (text.idxOf '[' + 1) = word := by
  obtain ⟨front, back, rfl, noOpen, noClose, inWord, -⟩ := brackets
  have opens : (front ++ '[' :: (word ++ ']' :: back)).idxOf '[' = front.length := by
    rw [List.idxOf_append_of_notMem noOpen, List.idxOf_cons_self, Nat.add_zero]
  have closes : (front ++ '[' :: (word ++ ']' :: back)).idxOf ']' =
      front.length + (word.length + 1) := by
    rw [List.idxOf_append_of_notMem noClose, List.idxOf_cons_ne _ (by decide),
      List.idxOf_append_of_notMem inWord, List.idxOf_cons_self, Nat.add_zero, Nat.succ_eq_add_one]
  rw [opens, closes]
  refine ⟨by simp, by simp, by omega, ?_⟩
  have whole : front ++ '[' :: (word ++ ']' :: back) =
      (front ++ '[' :: word) ++ ']' :: back := by simp
  have pieces : front ++ '[' :: word = (front ++ ['[']) ++ word := by simp
  rw [whole, List.take_append_of_le_length (by simp), List.take_of_length_le (by simp), pieces,
    List.drop_append_of_le_length (by simp), List.drop_of_length_le (by simp), List.nil_append]

end Brackets

/-- A buffer that holds the text, but perhaps not the newline, keeps its brackets. -/
theorem bufferText_brackets
    {word text : CStr} {size : Nat}
    (brackets : Brackets word text)
    (fits : text.length < size)
    (newline : CStr) :
    Brackets word (bufferText size (text ++ newline)) := by
  have cut : (text ++ newline).take (size - 1) =
      text ++ newline.take (size - 1 - text.length) := by
    rw [List.take_append, List.take_of_length_le (by omega)]
  rw [bufferText, cut]
  exact ((brackets.append _).rdropWhile isCrLf (by decide)).ofBuffer

/-! ## Tokens and the text between them -/

/-- The characters `strtok_r` is told to split at. -/
def isSeparator (c : Char) : Bool :=
  c = ' ' || c = '\t' || c = '\n'

/-- What stands before a piece is separators and the pieces before it. -/
theorem splitOnPPrepend_split
    {separator : Char → Bool} {text held piece : CStr} {before after : List CStr}
    (pieces : text.splitOnPPrepend separator held = before ++ piece :: after) :
    ∃ front back, held.reverse ++ text = front ++ (piece ++ back) ∧
      ∀ c ∈ front, separator c = true ∨ ∃ earlier ∈ before, c ∈ earlier := by
  induction text generalizing held before with
  | nil =>
      rw [List.splitOnPPrepend_nil] at pieces
      cases before with
      | nil =>
          obtain ⟨rfl, -⟩ := List.cons.inj pieces
          exact ⟨[], [], by simp, by simp⟩
      | cons earlier before => simp at pieces
  | cons c text inductionHypothesis =>
      rw [List.splitOnPPrepend_cons_eq_if] at pieces
      split at pieces
      · next splits =>
          cases before with
          | nil =>
              obtain ⟨rfl, -⟩ := List.cons.inj pieces
              exact ⟨[], c :: text, by simp, by simp⟩
          | cons earlier before =>
              obtain ⟨rfl, later⟩ := List.cons.inj pieces
              obtain ⟨front, back, shape, known⟩ := inductionHypothesis later
              refine ⟨held.reverse ++ c :: front, back, ?_, ?_⟩
              · rw [List.reverse_nil, List.nil_append] at shape
                rw [shape]
                simp
              · intro d member
                rcases List.mem_append.mp member with inHeld | inFront
                · exact .inr ⟨_, .head _, inHeld⟩
                rcases List.mem_cons.mp inFront with rfl | inFront
                · exact .inl splits
                exact (known d inFront).imp_right fun ⟨piece, listed, inside⟩ =>
                  ⟨piece, .tail _ listed, inside⟩
      · obtain ⟨front, back, shape, known⟩ := inductionHypothesis pieces
        exact ⟨front, back, by rw [← shape]; simp, known⟩

/-- What stands before a token is separators and the tokens before it. -/
theorem tokens_split
    {text token : CStr} {before after : List CStr}
    (found : tokens text = before ++ token :: after) :
    ∃ front back, text = front ++ (token ++ back) ∧
      ∀ c ∈ front, isSeparator c = true ∨ ∃ earlier ∈ before, c ∈ earlier := by
  obtain ⟨first, second, pieces, firstKept, secondKept⟩ := List.filter_eq_append_iff.mp found
  obtain ⟨empties, rest, second, noneKept, -, -⟩ := List.filter_eq_cons_iff.mp secondKept
  subst second
  rw [← List.append_assoc] at pieces
  obtain ⟨front, back, shape, known⟩ :=
    @splitOnPPrepend_split isSeparator text [] token (first ++ empties) rest pieces
  refine ⟨front, back, shape, fun c member => (known c member).imp_right ?_⟩
  rintro ⟨piece, listed, inside⟩
  have kept : piece ≠ [] := List.ne_nil_of_mem inside
  rcases List.mem_append.mp listed with inFirst | inEmpties
  · refine ⟨piece, ?_, inside⟩
    rw [← firstKept, List.mem_filter]
    exact ⟨inFirst, decide_eq_true kept⟩
  · exact absurd (decide_eq_true kept) (noneKept piece inEmpties)

/-! ## Lists with one choice in brackets -/

/-- A word such a list can hold. -/
def IsToken (word : CStr) : Prop :=
  word ≠ [] ∧ ∀ c ∈ word, isSeparator c = false ∧ c ≠ '[' ∧ c ≠ ']' ∧ c ≠ '\x00'

/-- Distinct tokens, one of them active. -/
structure BracketList where
  names : List CStr
  active : CStr
  distinct : names.Nodup
  plain : ∀ name ∈ names, IsToken name
  listed : active ∈ names

namespace BracketList

/-- A token as it is printed. -/
def mark (l : BracketList) (name : CStr) : CStr :=
  if name = l.active then '[' :: (name ++ [']']) else name

/-- The brackets go to a listed token. -/
def moveTo (l : BracketList) (name : CStr) : BracketList :=
  if listed : name ∈ l.names then { l with active := name, listed := listed } else l

theorem moveTo_active
    {l : BracketList} {name : CStr} (listed : name ∈ l.names) :
    (l.moveTo name).active = name := by
  rw [moveTo, dif_pos listed]

/-- A text with these tokens has the active one in its first brackets. -/
theorem brackets
    {l : BracketList} {text : CStr} (shown : tokens text = l.names.map l.mark) :
    Brackets l.active text := by
  obtain ⟨before, after, names⟩ := List.append_of_mem l.listed
  have distinct := l.distinct
  rw [names, List.nodup_append] at distinct
  have marked : tokens text =
      before.map l.mark ++ ('[' :: (l.active ++ [']'])) :: after.map l.mark := by
    rw [shown, names, List.map_append, List.map_cons, mark, if_pos rfl]
  obtain ⟨front, back, rfl, known⟩ := tokens_split marked
  have frontPlain : ∀ c ∈ front, c ≠ '[' ∧ c ≠ ']' ∧ c ≠ '\x00' := by
    intro c member
    rcases known c member with separates | ⟨piece, earlier, inside⟩
    · refine ⟨?_, ?_, ?_⟩ <;> rintro rfl <;> exact absurd separates (by decide)
    · obtain ⟨name, listed, rfl⟩ := List.mem_map.mp earlier
      have other : name ≠ l.active := distinct.2.2 name listed _ (.head _)
      rw [mark, if_neg other] at inside
      exact ((l.plain name (by rw [names]; simp [listed])).2 c inside).2
  have activePlain := (l.plain _ l.listed).2
  refine ⟨front, back, by simp, ?_, ?_, ?_, ?_⟩
  · exact fun member => (frontPlain _ member).1 rfl
  · exact fun member => (frontPlain _ member).2.1 rfl
  · exact fun member => (activePlain _ member).2.2.1 rfl
  · rw [List.mem_append]
    rintro (member | member)
    · exact (frontPlain _ member).2.2 rfl
    · exact (activePlain _ member).2.2.2 rfl

end BracketList

/-! ## The three files and their getters -/

inductive Selector where
  | scheduler (st : StorageHandle)
  | memSleep
  | thp
  deriving Repr, DecidableEq

/-- The mode behind a word of the huge page file. -/
def thpNamed (word : CStr) : Option ThpMode :=
  if word = "always" then some .always
  else if word = "madvise" then some .madvise
  else if word = "never" then some .never
  else none

namespace Selector

def path : Selector → CStr
  | .scheduler st => storagePath st "/queue/scheduler"
  | .memSleep => "/sys/power/mem_sleep"
  | .thp => thpPath

/-- The buffer of the getter. -/
def room : Selector → Nat
  | .scheduler _ => 256
  | .memSleep => 4096
  | .thp => 128

/-- The file shows this list in some spacing, and the list fits into the buffer. -/
def Shows (selector : Selector) (os : Os σ) (sys : σ) (l : BracketList) : Prop :=
  ∃ text newline, Holds os sys selector.path (text ++ newline) ∧
    (newline = [] ∨ newline = ['\n']) ∧
    tokens text = l.names.map l.mark ∧ text.length < selector.room

/-- The getter of the file delivers this token. -/
def Gets (selector : Selector) (os : Os σ) (sys : σ) (word : CStr) : Prop :=
  match selector with
  | .scheduler st => (zenctlStorageGetScheduler st).Delivers os sys word
  | .memSleep => zenctlPowerGetMemSleepMode.Delivers os sys word
  | .thp => ∀ proc, (zenctlMemGetThp os sys proc).1 = .ofOption (thpNamed word)

/-- What a getter reads of a shown list. -/
theorem Shows.buffer
    {selector : Selector} {os : Os σ} {sys : σ} {l : BracketList}
    (shows : selector.Shows os sys l) :
    ∃ text, Brackets l.active text ∧
      ∀ proc, readFileString selector.path selector.room os sys proc = (.value text, proc) := by
  obtain ⟨text, newline, held, -, shown, fits⟩ := shows
  exact ⟨_, bufferText_brackets (l.brackets shown) fits newline, readFileString_holds held _⟩

/-- Each getter finds the active token. -/
theorem Shows.gets
    {selector : Selector} {os : Os σ} {sys : σ} {l : BracketList}
    (shows : selector.Shows os sys l) :
    selector.Gets os sys l.active := by
  obtain ⟨text, brackets, read⟩ := shows.buffer
  cases selector with
  | scheduler st =>
      obtain ⟨start, opens, closes, cut⟩ := brackets.afterOpen
      refine .after (.of_run read) ?_
      rw [opens]
      dsimp only
      rw [if_pos closes, cut]
      exact .after (.allocateOr _ _) (.of_run fun _ => rfl)
  | memSleep =>
      obtain ⟨opens, closes, ordered, cut⟩ := (brackets.rdropWhile isSpace (by decide)).positions
      have copied : (readStringAlloc "/sys/power/mem_sleep").Delivers os sys
          (text.rdropWhile isSpace) :=
        .after (.of_run read) (.after (.allocateOr _ _) (.of_run fun _ => rfl))
      have found : activeSleepMode (text.rdropWhile isSpace) = l.active := by
        rw [activeSleepMode, if_pos ⟨opens, closes, ordered⟩, cut]
      refine .after copied (.after (.allocateOr _ _) (.of_run fun _ => ?_))
      rw [found]
      rfl
  | thp =>
      intro proc
      have read : readFileString thpPath 128 os sys proc = (.value text, proc) := read proc
      obtain ⟨opens, closes, ordered, cut⟩ := brackets.positions
      have found : bracketedThp text = some l.active := by
        rw [bracketedThp, if_pos ⟨opens, closes, ordered.le⟩, cut]
      unfold zenctlMemGetThp
      rw [GetM.bind_value read, found]
      dsimp only
      unfold thpNamed
      split_ifs <;> rfl

end Selector

/-! ## The kernel behind such a file -/

/--
A file whose brackets move to a token that is written and accepted.  A refused
write moves nothing, nor does the empty text, which leads to no write, nor a
write to another file.
-/
structure SelectorFile (os : Os σ) (selector : Selector) where
  choice : σ → BracketList
  shows : ∀ sys, selector.Shows os sys (choice sys)
  accepted : ∀ sys name, name ≠ [] →
    (os.writeFile sys (resolvePath os.sysfsRoot selector.path) name).1 = .done →
      name ∈ (choice sys).names ∧
        choice (os.writeFile sys (resolvePath os.sysfsRoot selector.path) name).2 =
          (choice sys).moveTo name
  refused : ∀ sys name,
    (os.writeFile sys (resolvePath os.sysfsRoot selector.path) name).1 ≠ .done →
      choice (os.writeFile sys (resolvePath os.sysfsRoot selector.path) name).2 = choice sys
  empty : ∀ sys,
    choice (os.writeFile sys (resolvePath os.sysfsRoot selector.path) []).2 = choice sys
  others : ∀ sys path text, path ≠ resolvePath os.sysfsRoot selector.path →
    choice (os.writeFile sys path text).2 = choice sys

/-- A call of one of the three setters. -/
inductive SelectorCall where
  | scheduler (st : StorageHandle) (name : CStr)
  | memSleep (mode : CStr)
  | thp (mode : ThpMode)
  deriving Repr, DecidableEq

namespace SelectorCall

def selector : SelectorCall → Selector
  | scheduler st _ => .scheduler st
  | memSleep _ => .memSleep
  | thp _ => .thp

/-- The token the call asks for. -/
def word : SelectorCall → CStr
  | scheduler _ name => name
  | memSleep mode => mode
  | thp .always => "always"
  | thp .madvise => "madvise"
  | thp .never => "never"

def run : SelectorCall → SetM σ Unit
  | scheduler st name => zenctlStorageSetScheduler st name
  | memSleep mode => zenctlPowerSetMemSleepMode mode
  | thp mode => zenctlMemSetThp mode

/-- One call after the other, whether or not they succeed. -/
def runAll (os : Os σ) : List SelectorCall → σ → Proc → σ × Proc
  | [], sys, proc => (sys, proc)
  | call :: rest, sys, proc =>
      let outcome := call.run os sys proc
      runAll os rest outcome.2.1 outcome.2.2

/-- Does the call write a token to the file behind the selector? -/
def Writes (call : SelectorCall) (os : Os σ) (selector : Selector) : Prop :=
  resolvePath os.sysfsRoot call.selector.path = resolvePath os.sysfsRoot selector.path ∧
    call.word ≠ []

instance (call : SelectorCall) (os : Os σ) (selector : Selector) :
    Decidable (call.Writes os selector) :=
  inferInstanceAs (Decidable (_ ∧ _))

/-- The token of the last call that wrote the file and succeeded, if there is one. -/
def lastWritten (os : Os σ) (selector : Selector) : List SelectorCall → σ → Proc → CStr → CStr
  | [], _, _, current => current
  | call :: rest, sys, proc, current =>
      let outcome := call.run os sys proc
      let now := if call.Writes os selector ∧ outcome.1 = .value () then call.word else current
      lastWritten os selector rest outcome.2.1 outcome.2.2 now

/-- A setter refuses the call and changes nothing, or writes the token. -/
theorem run_cases (call : SelectorCall) (os : Os σ) (sys : σ) (proc : Proc) :
    ((call.run os sys proc).1 = .failed ∧ (call.run os sys proc).2.1 = sys) ∨
      call.run os sys proc = writeFileString call.selector.path call.word os sys proc := by
  cases call with
  | scheduler st name =>
      dsimp only [run]
      unfold zenctlStorageSetScheduler
      split
      · exact .inl ⟨rfl, rfl⟩
      split
      · exact .inl ⟨rfl, rfl⟩
      · exact .inr rfl
  | memSleep mode => exact .inr rfl
  | thp mode => cases mode <;> exact .inr rfl

end SelectorCall

namespace SelectorFile

variable {os : Os σ} {selector : Selector}

/-- One call leaves the brackets at the token it wrote, or where they were. -/
theorem run_active (file : SelectorFile os selector) (call : SelectorCall) (sys : σ) (proc : Proc) :
    (file.choice (call.run os sys proc).2.1).active =
      if call.Writes os selector ∧ (call.run os sys proc).1 = .value () then call.word
      else (file.choice sys).active := by
  rcases call.run_cases os sys proc with ⟨failed, kept⟩ | written
  · rw [failed, kept, if_neg (by simp)]
  obtain ⟨reached, succeeds, fails⟩ :=
    writeFileString_run os sys proc call.selector.path call.word
  rw [written, reached]
  by_cases path : resolvePath os.sysfsRoot call.selector.path =
      resolvePath os.sysfsRoot selector.path
  · rw [path] at succeeds fails ⊢
    by_cases nothing : call.word = []
    · rw [nothing, file.empty sys, if_neg (fun both => both.1.2 nothing)]
    by_cases done :
        (os.writeFile sys (resolvePath os.sysfsRoot selector.path) call.word).1 = .done
    · obtain ⟨listed, moved⟩ := file.accepted sys call.word nothing done
      rw [moved, BracketList.moveTo_active listed, if_pos ⟨⟨path, nothing⟩, (succeeds done).1⟩]
    · rw [file.refused sys call.word done, fails done, if_neg (by simp)]
  · rw [file.others sys _ call.word path, if_neg (fun both => path both.1.1)]

/-- The brackets are at the token written last. -/
theorem runAll_active (file : SelectorFile os selector) (calls : List SelectorCall) :
    ∀ sys proc, (file.choice (SelectorCall.runAll os calls sys proc).1).active =
      SelectorCall.lastWritten os selector calls sys proc (file.choice sys).active := by
  induction calls with
  | nil => exact fun _ _ => rfl
  | cons call rest inductionHypothesis =>
      intro sys proc
      rw [SelectorCall.runAll, inductionHypothesis, SelectorCall.lastWritten, file.run_active call]

end SelectorFile

/-- Every getter delivers the token in brackets, and so what was set last. -/
theorem Selector.gets_lastWritten (selector : Selector) (os : Os σ) :
    (∀ sys l, selector.Shows os sys l → selector.Gets os sys l.active) ∧
      (∀ (file : SelectorFile os selector) calls sys proc,
        selector.Gets os (SelectorCall.runAll os calls sys proc).1
          (SelectorCall.lastWritten os selector calls sys proc (file.choice sys).active)) ∧
      ∀ mode, thpNamed (SelectorCall.thp mode).word = some mode := by
  refine ⟨fun _ _ shows => shows.gets, fun file calls sys proc => ?_, fun mode => ?_⟩
  · rw [← file.runAll_active]
    exact (file.shows _).gets
  · cases mode <;> rfl

/-- The two modes of a laptop; one of them is active. -/
def sleepModes (deep : Bool) : BracketList where
  names := ["s2idle".toList, "deep".toList]
  active := if deep then "deep" else "s2idle"
  distinct := by decide
  plain := by
    rintro name (_ | ⟨_, _ | ⟨_, ⟨⟩⟩⟩) <;> exact ⟨by decide, every_of_all (by decide)⟩
  listed := by cases deep <;> decide

/-- The laptop; its state says whether the mode is `deep`. -/
def sleepOs : Os Bool :=
  { (bareOs : Os Bool) with
    openRead := fun deep path =>
      if path = "/sys/power/mem_sleep".toList then
        .ok ⟨if deep then "s2idle [deep]\n".toList else "[s2idle] deep\n".toList, none⟩
      else .error Errno.enoent
    writeFile := fun deep path text =>
      if path = "/sys/power/mem_sleep".toList then
        if text = "deep".toList then (.done, true)
        else if text = "s2idle".toList then (.done, false)
        else if text = [] then (.done, deep)
        else (.writeFailed Errno.einval, deep)
      else (.openFailed Errno.enoent, deep) }

theorem sleepOs_shows (deep : Bool) :
    Selector.memSleep.Shows sleepOs deep (sleepModes deep) := by
  cases deep with
  | true => exact ⟨"s2idle [deep]".toList, ['\n'], rfl, .inr rfl, by decide, by decide⟩
  | false => exact ⟨"[s2idle] deep".toList, ['\n'], rfl, .inr rfl, by decide, by decide⟩

theorem sleepOs_write (deep : Bool) (text : CStr) :
    sleepOs.writeFile deep (resolvePath sleepOs.sysfsRoot Selector.memSleep.path) text =
      if text = "deep".toList then (.done, true)
      else if text = "s2idle".toList then (.done, false)
      else if text = [] then (.done, deep)
      else (.writeFailed Errno.einval, deep) :=
  rfl

def sleepFile : SelectorFile sleepOs .memSleep where
  choice := sleepModes
  shows := sleepOs_shows
  accepted deep name written done := by
    rw [sleepOs_write] at done ⊢
    split_ifs at done ⊢ with isDeep isIdle
    · subst isDeep
      exact ⟨by decide +revert, by cases deep <;> rfl⟩
    · subst isIdle
      exact ⟨by decide +revert, by cases deep <;> rfl⟩
  refused deep name failed := by
    rw [sleepOs_write] at failed ⊢
    split_ifs at failed ⊢ with isDeep isIdle nothing
    · exact absurd rfl failed
    · exact absurd rfl failed
    · rfl
    · rfl
  empty _ := rfl
  others deep path text other := by
    have elsewhere : path ≠ "/sys/power/mem_sleep".toList := other
    dsimp only [sleepOs]
    rw [if_neg elsewhere]

/-- The laptop is switched from `deep` to `s2idle`. -/
theorem sleepFile_switched :
    Selector.memSleep.Gets sleepOs true "deep" ∧
      Selector.memSleep.Gets sleepOs
        (SelectorCall.runAll sleepOs [.memSleep "s2idle"] true freshProc).1 "s2idle" := by
  obtain ⟨reads, follows, -⟩ := Selector.gets_lastWritten .memSleep sleepOs
  exact ⟨reads true (sleepModes true) (sleepOs_shows true), follows sleepFile _ true freshProc⟩

end Zenctl
