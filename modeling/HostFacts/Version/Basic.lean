import HostFacts.Number.Decimal

/-!
# Versions

A version is a list of natural numbers, written with points between them. Versions are ordered from
the left, and a version comes before every longer one that starts with it.
-/

namespace HostFacts

open HostFacts.Number

/-- A version, its most significant component first. -/
structure Version where
  components : List Nat
  deriving DecidableEq, Repr

namespace Version

/-- The component at an index, zero beyond the end. -/
def component (v : Version) (index : Nat) : Nat := v.components.getD index 0

/-- The first component. -/
def major (v : Version) : Nat := v.component 0

/-- The second component. -/
def minor (v : Version) : Nat := v.component 1

/-- The third component. -/
def patch (v : Version) : Nat := v.component 2

/-- The components with points between them, as characters. -/
def dotted : List Nat → List Char
  | [] => []
  | [n] => decimal n
  | n :: rest => decimal n ++ '.' :: dotted rest

/-- The text of a version. -/
def text (v : Version) : String := String.ofList (dotted v.components)

/-- Whether one list of components comes before another. -/
def before : List Nat → List Nat → Bool
  | _, [] => false
  | [], _ :: _ => true
  | a :: as, b :: bs => a < b || (a == b && before as bs)

instance : LT Version := ⟨fun a b => before a.components b.components = true⟩

instance : LE Version := ⟨fun a b => a < b ∨ a = b⟩

instance (a b : Version) : Decidable (a < b) :=
  inferInstanceAs (Decidable (before a.components b.components = true))

instance (a b : Version) : Decidable (a ≤ b) := inferInstanceAs (Decidable (a < b ∨ a = b))

/-- Puts a version behind the versions of a sorted list that do not come after it. -/
def insertSorted {α : Type} (version : α → Version) (a : α) : List α → List α
  | [] => [a]
  | b :: rest => if version a < version b then a :: b :: rest else b :: insertSorted version a rest

/-- Sorts by version; equal versions keep their order. -/
def sortBy {α : Type} (version : α → Version) (items : List α) : List α :=
  items.foldl (fun sorted a => insertSorted version a sorted) []

end Version

end HostFacts
