import Zenctl.CString
import Mathlib.Data.List.DropRight

namespace Zenctl

open CString

/-!
# The profile file format

`toml_parse` reads a profile line by line into a flat list of entries, and the
`save_*` functions print sections of `key = value` lines.  The parser is
permissive: a line it does not understand is skipped.
-/

/-- `toml_kv_t`: one setting under the section path in force. -/
structure TomlKv where
  sectionPath : CStr
  key : CStr
  value : CStr
  /-- Was the value quoted? -/
  isString : Bool
  deriving Repr, DecidableEq

/-- Blank and tab, skipped around keys and before values. -/
def isBlank (c : Char) : Bool :=
  c = ' ' || c = '\t'

/-- The characters `rstrip` removes from the end of a line. -/
def isTrailing (c : Char) : Bool :=
  c = ' ' || c = '\t' || c = '\n' || c = '\r'

def rstrip (text : CStr) : CStr :=
  text.rdropWhile isTrailing

/-- A section header, after its first bracket. -/
def tomlHeader (sectionPath rest : CStr) : CStr :=
  let start := match rest with
    | '[' :: inner => inner
    | _ => rest
  if ']' ∈ start then bounded 128 (start.takeWhile (· ≠ ']')) else sectionPath

/-- The value of a line: quoted text up to the last quote, or the bare rest. -/
def tomlValue (text : CStr) : CStr × Bool :=
  match text.dropWhile isBlank with
  | '"' :: rest => (beforeLast '"' rest, true)
  | '\'' :: rest => (beforeLast '\'' rest, true)
  | bare => (bare, false)

/-- A line with an equals sign. -/
def tomlSetting (sectionPath line : CStr) : TomlKv where
  sectionPath := bounded 128 sectionPath
  key := bounded 128 (((line.takeWhile (· ≠ '=')).dropWhile isBlank).rdropWhile isBlank)
  value := bounded 512 (tomlValue (line.dropWhile (· ≠ '=')).tail).1
  isString := (tomlValue (line.dropWhile (· ≠ '=')).tail).2

/-- One buffer of the reading loop: the section path after it, and its entry if any. -/
def tomlLine (sectionPath : CStr) (buffer : List Char) : CStr × Option TomlKv :=
  match rstrip ((ofBuffer buffer).dropWhile isBlank) with
  | [] => (sectionPath, none)
  | '#' :: _ => (sectionPath, none)
  | '[' :: rest => (tomlHeader sectionPath rest, none)
  | line =>
      if '=' ∈ line then (sectionPath, some (tomlSetting sectionPath line))
      else (sectionPath, none)

/-- The reading loop. -/
def tomlLines (sectionPath : CStr) : List (List Char) → List TomlKv
  | [] => []
  | buffer :: rest =>
      let result := tomlLine sectionPath buffer
      result.2.toList ++ tomlLines result.1 rest

/-- `toml_parse` on the content of a file. -/
def tomlParse (content : List Char) : List TomlKv :=
  tomlLines [] (fgets 1024 content)

/-! ## Printing -/

/-- One line a `save_*` function prints. -/
structure Setting where
  key : CStr
  value : CStr
  isString : Bool
  deriving Repr, DecidableEq

/-- `key = "value"` or `key = value`. -/
def Setting.line (s : Setting) : CStr :=
  if s.isString then s.key ++ " = \"".toList ++ s.value ++ "\"\n".toList
  else s.key ++ " = ".toList ++ s.value ++ "\n".toList

/-- A section: nothing at all when there is no setting to print. -/
def sectionText (sectionPath : CStr) (settings : List Setting) : CStr :=
  if settings = [] then []
  else "\n[".toList ++ sectionPath ++ "]\n".toList ++ settings.flatMap Setting.line

/-- The settings ahead of the sections. -/
def preamble (name : CStr) (now : Int) : List Setting :=
  [⟨"schema_version", "1", false⟩, ⟨"name", name, true⟩, ⟨"created_at", showInt now, false⟩]

/-- The document `profile_write` prints. -/
def profileText (name : CStr) (now : Int) (sections : List (CStr × List Setting)) : CStr :=
  "# zenctl profile\n".toList ++ (preamble name now).flatMap Setting.line ++
    sections.flatMap fun s => sectionText s.1 s.2

/-- A printed setting as the entry it stands for. -/
def Setting.entry (sectionPath : CStr) (s : Setting) : TomlKv :=
  ⟨sectionPath, s.key, s.value, s.isString⟩

/-- The entries a printed document stands for. -/
def writtenEntries (name : CStr) (now : Int) (sections : List (CStr × List Setting)) :
    List TomlKv :=
  (preamble name now).map (Setting.entry []) ++
    sections.flatMap fun s => s.2.map (Setting.entry s.1)

end Zenctl
