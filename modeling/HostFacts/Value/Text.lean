import HostFacts.Number.FloatText
import HostFacts.Text.Quoted
import HostFacts.Value.Basic

/-!
# The text of a value

`Value.literal` shows a value with its kind visible: text in quotes, collections in brackets.
`Value.plain` is the text that a value has as a property: a text stands for itself and a
version for its components. Integers beyond the digit limit cannot be written; `isWritable` tells
whether a value is free of them.
-/

namespace HostFacts.Value

open HostFacts.Number HostFacts.Text

/-- Parts with commas between them, in brackets. -/
def bracketed (left right : String) (parts : List String) : String :=
  left ++ String.intercalate ", " parts ++ right

/-- The parts of a tuple in brackets; a lone part is followed by a comma. -/
def tupled : List String → String
  | [part] => "(" ++ part ++ ",)"
  | parts => bracketed "(" ")" parts

mutual

/-- The value with its kind visible. -/
def literal : Value → String
  | null => "None"
  | bool true => "True"
  | bool false => "False"
  | int i => intText i
  | float x => FloatFormat.plain.text x
  | text s => quoted s
  | bytes b => quotedBytes b
  | list items => bracketed "[" "]" (literals items)
  | tuple items => tupled (literals items)
  | set [] => "set()"
  | set items => bracketed "\x7b" "\x7d" (literals items)
  | map entries => bracketed "\x7b" "\x7d" (entryLiterals entries)
  | enclosingList => "[...]"
  | enclosingMap => "\x7b...\x7d"
  | date d => d.text
  | moment m => m.text
  | version v => "VersionInfo(components=" ++ tupled (v.components.map natText) ++ ")"

/-- The literals of the elements. -/
def literals : List Value → List String
  | [] => []
  | v :: rest => literal v :: literals rest

/-- The literals of the entries, each with a colon between key and value. -/
def entryLiterals : List (Value × Value) → List String
  | [] => []
  | (k, v) :: rest => (literal k ++ ": " ++ literal v) :: entryLiterals rest

end

/-- The plain text of a value. -/
def plain : Value → String
  | text s => s
  | version v => v.text
  | v => v.literal

mutual

/-- Whether every integer in the value is short enough to be written. -/
def isWritable : Value → Bool
  | int i => Number.isWritable i
  | list items | tuple items | set items => areWritable items
  | map entries => entriesWritable entries
  | version v => v.components.all fun n => Number.isWritable n
  | _ => true

/-- Whether all elements can be written. -/
def areWritable : List Value → Bool
  | [] => true
  | v :: rest => isWritable v && areWritable rest

/-- Whether all keys and values can be written. -/
def entriesWritable : List (Value × Value) → Bool
  | [] => true
  | (k, v) :: rest => isWritable k && isWritable v && entriesWritable rest

end

end HostFacts.Value
