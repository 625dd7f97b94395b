import Zenctl.Api

namespace Zenctl

open CString

/-!
# JSON output helpers

The text each `out_json_*` helper prints.  A helper that takes the `first`
flag prints the separating comma itself, so a run of fields is one function of
the flag and the list of fields.  String arguments are never `NULL` here: every
caller passes a literal, an argument or a string a getter returned.
-/

/-- `%x` of one digit. -/
def hexDigit (n : Nat) : Char :=
  if n < 10 then Char.ofNat ('0'.toNat + n) else Char.ofNat ('a'.toNat + (n - 10))

/-- `%02x` of one byte. -/
def hexByte (c : Char) : CStr :=
  [hexDigit (c.toNat / 16 % 16), hexDigit (c.toNat % 16)]

/-- One character of `out_json_escape`. -/
def escapeChar (c : Char) : CStr :=
  if c = '"' then ['\\', '"']
  else if c = '\\' then ['\\', '\\']
  else if c = '\x08' then ['\\', 'b']
  else if c = '\x0c' then ['\\', 'f']
  else if c = '\n' then ['\\', 'n']
  else if c = '\r' then ['\\', 'r']
  else if c = '\t' then ['\\', 't']
  else if c.toNat < 32 then '\\' :: 'u' :: '0' :: '0' :: hexByte c
  else [c]

def outJsonEscape (text : CStr) : CStr :=
  '"' :: (text.flatMap escapeChar ++ ['"'])

def outJsonOkBegin : CStr := "\x7b\"status\":\"ok\",\"data\":"

def outJsonOkEnd : CStr := "\x7d\n"

def outJsonError (code : Int) (message : CStr) : CStr :=
  "\x7b\"status\":\"error\",\"error\":\x7b\"code\":".toList ++ showInt code ++
    ",\"message\":".toList ++ outJsonEscape message ++ "\x7d\x7d\n".toList

/-- One `key:value` pair as the `out_json_field_*` helpers print it. -/
inductive Field where
  | string (key value : CStr)
  | int (key : CStr) (value : Int)
  | bool (key : CStr) (value : Bool)
  /-- The value is the text `%g` produced. -/
  | double (key text : CStr)
  deriving Repr, DecidableEq

namespace Field

/-- The key of a field. -/
def key : Field → CStr
  | string key _ | int key _ | bool key _ | double key _ => key

/-- The text of the value of a field. -/
def valueText : Field → CStr
  | string _ value => outJsonEscape value
  | int _ value => showInt value
  | bool _ value => if value then "true" else "false"
  | double _ text => text

/-- The text of one field without the comma. -/
def text (field : Field) : CStr :=
  outJsonEscape field.key ++ ':' :: field.valueText

end Field

/-- `emit_comma`: nothing before the first item, a comma before the others. -/
def emitComma (first : Bool) : CStr :=
  if first then [] else [',']

/-- A run of `out_json_field_*` calls that share one `first` flag. -/
def outJsonFields (first : Bool) : List Field → CStr
  | [] => []
  | field :: rest => emitComma first ++ field.text ++ outJsonFields false rest

/-- A run of items separated by `out_json_separator` or by the index test. -/
def outJsonItems (first : Bool) : List CStr → CStr
  | [] => []
  | item :: rest => emitComma first ++ item ++ outJsonItems false rest

/-- The fields between braces. -/
def objectText (fields : List Field) : CStr :=
  '{' :: (outJsonFields true fields ++ ['}'])

/-- The items between brackets. -/
def arrayText (items : List CStr) : CStr :=
  '[' :: (outJsonItems true items ++ [']'])

/-- A success envelope around a data text. -/
def okEnvelope (data : CStr) : CStr :=
  outJsonOkBegin ++ data ++ outJsonOkEnd

/-- `ok_begin`, `open_object`, the fields, `close_object`, `ok_end`. -/
def okObject (fields : List Field) : CStr :=
  okEnvelope (objectText fields)

/-- `ok_begin`, the fields, `ok_end`: the fields are not wrapped in an object. -/
def okBare (fields : List Field) : CStr :=
  okEnvelope (outJsonFields true fields)

/-- An object whose last field is an array. -/
def okObjectArray (fields : List Field) (key : CStr) (items : List CStr) : CStr :=
  okEnvelope ('{' :: (outJsonFields true fields ++ emitComma fields.isEmpty ++
    outJsonEscape key ++ ':' :: (arrayText items ++ ['}'])))

/-- An array of objects as the data of a success envelope. -/
def okArray (items : List (List Field)) : CStr :=
  okEnvelope (arrayText (items.map objectText))

/-- The envelope `cli_dryrun` prints: the text goes between the quotes unescaped. -/
def dryrunJson (what : CStr) : CStr :=
  outJsonOkBegin ++ "\"dry-run: ".toList ++ what ++ "\"".toList ++ outJsonOkEnd

/--
Array elements whose comma is decided by the loop index.  An element that is
skipped still counts, so the comma is there even when nothing precedes it.
-/
def outIndexedItems (index : Nat) : List (Option CStr) → CStr
  | [] => []
  | none :: rest => outIndexedItems (index + 1) rest
  | some item :: rest =>
      emitComma (index = 0) ++ item ++ outIndexedItems (index + 1) rest

/-- An array of such elements as the data of a success envelope. -/
def okIndexedArray (items : List (Option (List Field))) : CStr :=
  okEnvelope ('[' :: (outIndexedItems 0 (items.map (Option.map objectText)) ++ [']']))

/-- Fields and such an array behind them, not wrapped in an object. -/
def okBareArray (fields : List Field) (key : CStr) (items : List (Option (List Field))) : CStr :=
  okEnvelope (outJsonFields true fields ++ emitComma fields.isEmpty ++ outJsonEscape key ++
    ':' :: '[' :: (outIndexedItems 0 (items.map (Option.map objectText)) ++ [']']))

/--
A run of `out_json_field_object_begin` objects that share one `first` flag.
The helper resets the flag, so from the second object on no comma is printed.
-/
def outFieldObjects (first : Bool) : List (CStr × List Field) → CStr
  | [] => []
  | (key, fields) :: rest =>
      emitComma first ++ outJsonEscape key ++ ':' :: '{' ::
        (outJsonFields true fields ++ '}' :: outFieldObjects true rest)

end Zenctl
