import HostFacts.Calendar
import HostFacts.Pairs
import HostFacts.Number.FloatRead
import HostFacts.Version.Basic

/-!
# Values

A `Value` is what a property file, a caller or a report can hold. Values that can be keys are equal
by meaning (`Value.same`): a truth value is the number zero or one, and numbers of different kinds
are equal when they are the same number.

A list or a mapping may hold itself. At the place where it would come up again a value has a leaf
for it (`enclosingList`, `enclosingMap`). A mapping that lies too deep for the stack has the same
leaf.
-/

namespace HostFacts

open HostFacts.Number

/-- A value of a property file, of a setting or of a report. -/
inductive Value where
  | null
  | bool (b : Bool)
  | int (i : Int)
  | float (x : Float)
  | text (s : String)
  | bytes (b : List UInt8)
  | list (items : List Value)
  | tuple (items : List Value)
  | set (items : List Value)
  | map (entries : List (Value × Value))
  /-- A list that this place lies in. -/
  | enclosingList
  /-- A mapping that this place lies in, or one that is too deep to be gone through. -/
  | enclosingMap
  | date (d : Calendar.Date)
  | moment (m : Calendar.Moment)
  | version (v : Version)
  deriving Inhabited

namespace Value

/-- The word for the kind of a value in messages. -/
def kind : Value → String
  | null => "NoneType"
  | bool _ => "bool"
  | int _ => "int"
  | float _ => "float"
  | text _ => "str"
  | bytes _ => "bytes"
  | list _ | enclosingList => "list"
  | tuple _ => "tuple"
  | set _ => "set"
  | map _ | enclosingMap => "dict"
  | date _ => "date"
  | moment _ => "datetime"
  | version _ => "VersionInfo"

/-- The integer that a value equals, if it is a number that equals one. -/
def integer? : Value → Option Int
  | bool b => some (if b then 1 else 0)
  | int i => some i
  | float x => exactInt? x
  | _ => none

mutual

/-- Equality by meaning. Lists, sets and maps are never keys and equal nothing. -/
def same : Value → Value → Bool
  | null, null => true
  | text a, text b => a == b
  | bytes a, bytes b => a == b
  | tuple a, tuple b => sameAll a b
  | date a, date b => a == b
  | moment a, moment b => a.same b
  | version a, version b => a == b
  | float a, float b => a == b
  | a, b =>
    match a.integer?, b.integer? with
    | some i, some j => i == j
    | _, _ => false

/-- Equality of lists, element by element. -/
def sameAll : List Value → List Value → Bool
  | [], [] => true
  | a :: as, b :: bs => same a b && sameAll as bs
  | _, _ => false

end

instance : BEq Value := ⟨same⟩

/-- Whether the value can be a key. -/
def isKey : Value → Bool
  | list _ | set _ | map _ | enclosingList | enclosingMap => false
  | _ => true

/-- The map of a list of pairs: of equal keys the first stays and the last value counts. -/
def mapOf (pairs : List (Value × Value)) : Value := map (Pairs.ofList pairs)

/-- The set of a list of values. -/
def setOf (items : List Value) : Value :=
  set (items.foldl (fun acc v => if acc.any (same v) then acc else acc ++ [v]) [])

end Value

end HostFacts
