import HostFacts.Fault
import HostFacts.Text.Search

/-!
# Reading versions

`Version.parse` accepts digits with single points between them; white space around the text and
points at its ends do not count. `sanitize` prepares a raw text for it: underscores become points,
and everything from the first character on that is neither digit nor point is dropped, so
`1.8.0_362-b09` becomes `1.8.0.362`.
-/

namespace HostFacts.Version

open HostFacts.Number HostFacts.Text

/-- The number that a part of a version stands for. -/
def component? (part : List Char) : Option Nat :=
  if !part.isEmpty && part.all isDigit then some (ofDecimal part) else none

/-- The part of a text that counts: no white space around it, then no points at its ends. -/
def core (s : List Char) : List Char := trimWhile (· == '.') (trim s)

/-- Reads the parts one after the other; `whole` is the text that a fault names. -/
def componentsOf (whole : Value) : List (List Char) → Except Fault (List Nat)
  | [] => .ok []
  | part :: rest =>
    match component? part with
    | none => .error (.unparsableVersion whole [])
    | some n =>
      if digitLimit < part.length then .error (.digitLimit (some part.length))
      else (componentsOf whole rest).map (n :: ·)

/-- The text as a value; no text is null. -/
def textValue : Option String → Value
  | none => .null
  | some s => .text s

/-- Reads a version. -/
def parse (text : Option String) : Except Fault Version :=
  match core (text.getD "").toList with
  | [] => .error (.unparsableVersion (textValue text) [])
  | s => (componentsOf (textValue text) (splitAll '.' s)).map Version.mk

/-- A digit or a point. -/
def isVersionChar (c : Char) : Bool := isDigit c || c == '.'

/-- The digits and points that a raw text starts with, underscores taken for points. -/
def sanitizeChars (s : List Char) : List Char :=
  ((trim s).map fun c => if c = '_' then '.' else c).takeWhile isVersionChar

/-- The digits and points that a raw text starts with, underscores taken for points. -/
def sanitize (s : String) : String := onChars sanitizeChars s

/-- The version with the given components, which have to be natural numbers. -/
def ofValues : List Value → Except Fault Version
  | [] => .ok ⟨[]⟩
  | .int (.ofNat n) :: rest => (ofValues rest).map fun v => ⟨n :: v.components⟩
  | v :: _ => .error (if v.isWritable then .badComponent v else .digitLimit none)

/-- The version whose components are the elements of a value. -/
def ofValue (v : Value) : Except Fault Version := do ofValues (← v.elements)

/-- Whether a version and a value are in an order: only another version can be. -/
def compareWith (relation : String) (holds : Version → Version → Bool) (v : Version) :
    Value → Except Fault Bool
  | .version w => .ok (holds v w)
  | other => .error (.notComparable relation other.kind)

end HostFacts.Version
