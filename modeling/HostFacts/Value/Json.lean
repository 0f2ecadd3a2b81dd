import HostFacts.Fault

/-!
# Values in JSON

`Value.json` writes a value as JSON in ASCII, with one entry to a line and two spaces to a level.
Keys are written as texts, so scalar keys of other kinds become their JSON text. Infinities and
not-a-number have words of their own.
-/

namespace HostFacts

open HostFacts.Number HostFacts.Text

namespace Value

/-- Numbers in JSON. -/
def jsonFloats : FloatFormat := ⟨"Infinity", "-Infinity", "NaN", false⟩

/-- A code unit of sixteen bits as an escape. -/
def unitEscape (unit : Nat) : List Char := '\\' :: 'u' :: hexPadded false 4 unit

/-- A character between quotes. -/
def jsonChar (c : Char) : List Char :=
  if c = '"' || c = '\\' then ['\\', c]
  else if c = '\n' then ['\\', 'n']
  else if c = '\r' then ['\\', 'r']
  else if c = '\t' then ['\\', 't']
  else if c = '\x0c' then ['\\', 'f']
  else if c = '\x08' then ['\\', 'b']
  else if ' ' ≤ c && c ≤ '~' then [c]
  else if codeOf c < 0x10000 then unitEscape (codeOf c)
  else unitEscape (halves (codeOf c)).1 ++ unitEscape (halves (codeOf c)).2

/-- A text in quotes. -/
def jsonText (s : String) : List Char := '"' :: s.toList.flatMap jsonChar ++ ['"']

/-- An integer, if it is short enough to be written. -/
def jsonInt (i : Int) : Except Fault (List Char) :=
  if Number.isWritable i then .ok (decimalInt i) else .error (.digitLimit none)

/-- The text of a key. -/
def jsonKey : Value → Except Fault (List Char)
  | text s => .ok (jsonText s)
  | null => .ok (jsonText "null")
  | bool b => .ok (jsonText (if b then "true" else "false"))
  | int i => (jsonInt i).map fun digits => '"' :: digits ++ ['"']
  | float x => .ok (jsonText (jsonFloats.text x))
  | v => .error (.notJsonKey v.kind)

/-- A line end and the spaces of a level. -/
def jsonLine (level : Nat) : List Char := '\n' :: List.replicate (2 * level) ' '

/-- Parts on lines of their own between brackets. -/
def jsonBlock (left right : Char) (level : Nat) (parts : List (List Char)) : List Char :=
  if parts.isEmpty then [left, right]
  else
    left :: jsonLine (level + 1) ++ joinWith (',' :: jsonLine (level + 1)) parts ++
      jsonLine level ++ [right]

mutual

/-- Writes a value at a level of nesting. -/
def jsonAt (level : Nat) : Value → Except Fault (List Char)
  | null => .ok "null".toList
  | bool true => .ok "true".toList
  | bool false => .ok "false".toList
  | int i => jsonInt i
  | float x => .ok (jsonFloats.text x).toList
  | text s => .ok (jsonText s)
  | list items => (jsonItems (level + 1) items).map (jsonBlock '[' ']' level)
  | tuple items => (jsonItems (level + 1) items).map (jsonBlock '[' ']' level)
  | map entries => (jsonEntries (level + 1) entries).map (jsonBlock '{' '}' level)
  | enclosingList | enclosingMap => .error .circular
  | bytes _ => .error (.notInJson "bytes")
  | set _ => .error (.notInJson "set")
  | date _ => .error (.notInJson "date")
  | moment _ => .error (.notInJson "datetime")
  | version _ => .error (.notInJson "VersionInfo")

/-- Writes the elements of a list. -/
def jsonItems (level : Nat) : List Value → Except Fault (List (List Char))
  | [] => .ok []
  | v :: rest => do
    let first ← jsonAt level v
    let others ← jsonItems level rest
    return first :: others

/-- Writes the entries of a map. -/
def jsonEntries (level : Nat) : List (Value × Value) → Except Fault (List (List Char))
  | [] => .ok []
  | (k, v) :: rest => do
    let key ← jsonKey k
    let value ← jsonAt level v
    let others ← jsonEntries level rest
    return (key ++ ':' :: ' ' :: value) :: others

end

/-- Writes a value as JSON. -/
def json (v : Value) : Except Fault String := (jsonAt 0 v).map String.ofList

end Value

end HostFacts
