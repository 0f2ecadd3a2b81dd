import HostFacts.Text.Base64
import HostFacts.Yaml.Style

/-!
# Writing YAML

`write` gives a YAML text for a value: collections in block style, their entries in order, and all
in ASCII. A list in a mapping is not indented. A key that is a collection, empty, several lines or
long is marked by a question mark and stands on a line of its own. Versions have no YAML form.
-/

namespace HostFacts.Yaml

open HostFacts.Number HostFacts.Text

/-- Numbers in YAML. -/
def floats : FloatFormat := ⟨".inf", "-.inf", ".nan", true⟩

/-! ## Scalars -/

/-- The bytes of a line in base 64. -/
def bytesPerLine : Nat := 57

/-- The lines of bytes in base 64. -/
def byteLines : List UInt8 → List (List Char)
  | [] => []
  | b :: rest =>
    Base64.encode ((b :: rest).take bytesPerLine) :: byteLines (rest.drop (bytesPerLine - 1))
termination_by bytes => bytes.length
decreasing_by
  simp only [List.length_drop, List.length_cons]
  omega

/-- The word for null. -/
def nullText : List Char := "null".toList

/-- A scalar value as a tag and a text. -/
def scalarForm? : Value → Option (Tag × List Char)
  | .null => some (.null, nullText)
  | .bool b => some (.truth, if b then "true".toList else "false".toList)
  | .int i => some (.integer, decimalInt i)
  | .float x => some (.float, (floats.text x).toList)
  | .text s => some (.text, s.toList)
  | .bytes b => some (.binary, (byteLines b).flatMap (· ++ ['\n']))
  | .date d => some (.timestamp, d.text.toList)
  | .moment m => some (.timestamp, m.text.toList)
  | _ => none

/-- The short form of the tags that scalars are written with. -/
def shortTag : Tag → List Char
  | .null => "!!null".toList
  | .truth => "!!bool".toList
  | .integer => "!!int".toList
  | .float => "!!float".toList
  | .binary => "!!binary".toList
  | .timestamp => "!!timestamp".toList
  | _ => "!!str".toList

/-- Writes a scalar at a level; its further lines are indented up to `column`. -/
def putScalar (tag : Tag) (s : List Char) (column : Nat) (folds : Bool) (p : Pen) : Pen :=
  let style := Style.of tag s
  let p := if style = .plain || tag = .text then p else p.mark (shortTag tag) true false
  match style with
  | .plain => putPlain column folds s p
  | .singleQuoted => putQuoted column folds s p
  | .doubleQuoted => putDoubleQuoted column folds s p
  | .block => putBlock column ((splitAll '\n' s).dropLast) p

/-! ## Keys -/

/-- The length from which on a key is too long, its tag included. -/
def simpleKeyLimit : Nat := 128

/-- Whether a key needs no mark: a short scalar on one line, or an empty collection. -/
def isSimpleKey (key : Value) : Bool :=
  match scalarForm? key with
  | some (tag, s) =>
    (shortTag tag).length + s.length < simpleKeyLimit && !s.isEmpty && !hasLines s
  | none =>
    match key with
    | .list [] | .tuple [] => true
    | _ => false

/-! ## Collections -/

/-- Where a value is written. -/
inductive Position where
  /-- As an element of a list. -/
  | element
  /-- As a value of a mapping, or as a marked key. -/
  | part
  /-- As a key without a mark. -/
  | simpleKey
  deriving DecidableEq

/-- The column of the entries of a collection in one whose entries stand at `outer`. -/
def deeper : Option Nat → Nat
  | none => 0
  | some column => column + levelWidth

/-- The column of the elements of a list: in a mapping the one of the keys, unless the line is
fresh. -/
def elementColumn (outer : Option Nat) (position : Position) (p : Pen) : Nat :=
  if position = .element || p.fresh then deeper outer else outer.getD 0

/-- Writes an empty collection. -/
def putEmpty (left right : Char) (p : Pen) : Pen :=
  { p.mark [left] true false with spaced := true }.mark [right] false false

/-- Writes a key at a column with its marks; `put` writes the key itself. -/
def putKey (column : Nat) (simple : Bool) (put : Pen → Pen) (p : Pen) : Pen :=
  if simple then (put (p.indent column)).mark [':'] false false
  else ((put ((p.indent column).mark ['?'] true true)).indent column).mark [':'] true true

mutual

/-- Writes a value in a collection whose entries stand at the column `outer`. -/
def putValue (outer : Option Nat) (position : Position) (v : Value) (p : Pen) : Pen :=
  match v with
  | .list [] => putEmpty '[' ']' p
  | .tuple [] => putEmpty '[' ']' p
  | .list items => putItems (elementColumn outer position p) items p
  | .tuple items => putItems (elementColumn outer position p) items p
  | .set [] => putEmpty '{' '}' (p.mark "!!set".toList true false)
  | .set items => putKeys (deeper outer) items (p.mark "!!set".toList true false)
  | .map [] => putEmpty '{' '}' p
  | .map entries => putEntries (deeper outer) entries p
  | v =>
    match scalarForm? v with
    | some (tag, s) => putScalar tag s (outer.getD 0 + levelWidth) (position != .simpleKey) p
    | none => p

/-- Writes the elements of a list. -/
def putItems (column : Nat) : List Value → Pen → Pen
  | [], p => p
  | v :: rest, p =>
    let p := (p.indent column).mark ['-'] true true
    putItems column rest (putValue (some column) .element v p)

/-- Writes the entries of a mapping. -/
def putEntries (column : Nat) : List (Value × Value) → Pen → Pen
  | [], p => p
  | (k, v) :: rest, p =>
    let simple := isSimpleKey k
    let key := putValue (some column) (if simple then .simpleKey else .part) k
    putEntries column rest (putValue (some column) .part v (putKey column simple key p))

/-- Writes the elements of a set, each as a key with null. -/
def putKeys (column : Nat) : List Value → Pen → Pen
  | [], p => p
  | v :: rest, p =>
    let simple := isSimpleKey v
    let key := putValue (some column) (if simple then .simpleKey else .part) v
    putKeys column rest (putPlain 0 false nullText (putKey column simple key p))

end

/-! ## Documents -/

mutual

/-- Accepts the values that have a YAML form without aliases. -/
def checkForm : Value → Except Fault Unit
  | .int i => if Number.isWritable i then .ok () else .error (.digitLimit none)
  | .version v => .error (.notInYaml (.version v))
  | .enclosingList => .error (.notInYaml .enclosingList)
  | .enclosingMap => .error (.notInYaml .enclosingMap)
  | .list items => checkForms items
  | .tuple items => checkForms items
  | .set items => checkForms items
  | .map entries => checkEntries entries
  | _ => .ok ()

/-- Accepts a list of values. -/
def checkForms : List Value → Except Fault Unit
  | [] => .ok ()
  | v :: rest => do
    checkForm v
    checkForms rest

/-- Accepts a list of entries. -/
def checkEntries : List (Value × Value) → Except Fault Unit
  | [] => .ok ()
  | (k, v) :: rest => do
    checkForm k
    checkForm v
    checkEntries rest

end

/-- Writes a value as YAML. -/
def write (v : Value) : Except Fault String := do
  checkForm v
  return String.ofList ((putValue none .part v Pen.start).indent 0).text

end HostFacts.Yaml
