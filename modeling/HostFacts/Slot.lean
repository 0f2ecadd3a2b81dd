/-!
# Slots

A `Slot` holds something pluggable, or nothing. It never holds what the plugged thing answers.
-/

namespace HostFacts

/-- A place for something pluggable. -/
abbrev Slot (α : Type) := Option α

namespace Slot

/-- One use of a slot. -/
inductive Step (α : Type) where
  | get
  | set (value : Option α)
  deriving DecidableEq, Repr

/-- The slot after a use. -/
def use {α : Type} : Step α → Slot α → Slot α
  | .get, s => s
  | .set value, _ => value

end Slot

end HostFacts
