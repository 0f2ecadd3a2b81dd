import HostFacts.Cell
import HostFacts.Signal

/-!
# Flags

A `Flag` is a trait that is detected by a signal once and remembered until it is cleared.
-/

namespace HostFacts

/-- A trait with the properties it is detected from. -/
structure Flag where
  signal : Signal
  source : Source
  cell : Cell Bool

namespace Flag

/-- A flag that was not detected yet. -/
def new (source : Source) (signal : Signal) : Flag := ⟨signal, source, .empty⟩

/-- The trait, detected if need be. -/
def resolve : Act (Flag × World) Bool := do
  let (flag, _) ← Act.get
  let detect := Act.zoom Prod.snd (fun w t => (t.1, w)) (flag.signal.detect flag.source)
  let (value, cell) ← flag.cell.read detect
  Act.modify fun t => ({ t.1 with cell }, t.2)
  return value

/-- Fixes the trait; none lets it be detected again. -/
def set (value : Option Bool) : Act (Flag × World) Unit :=
  Act.modify fun t => ({ t.1 with cell := Cell.ofOption value }, t.2)

end Flag

end HostFacts
