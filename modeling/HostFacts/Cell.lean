import HostFacts.Act

/-!
# Cells that remember

A `Cell` holds a value that is worked out on demand. Reading an empty cell works the value out and
settles it; reading a settled cell works out nothing. A fault leaves the cell as it was.

A history of a cell is a list of `Step`s. A step settles the cell, clears it, or does neither, and
what a cell holds depends on its history only.
-/

namespace HostFacts

/-- A value that is worked out on demand. -/
inductive Cell (α : Type) where
  | empty
  | settled (a : α)
  deriving DecidableEq, Repr

namespace Cell

variable {σ α : Type}

/-- Whether the cell holds a value. -/
def isSettled : Cell α → Bool
  | empty => false
  | settled _ => true

/-- The value of the cell and the cell afterwards; `resolve` works the value out if need be. -/
def read (c : Cell α) (resolve : Act σ α) : Act σ (α × Cell α) :=
  match c with
  | settled a => return (a, settled a)
  | empty => do
    let a ← resolve
    return (a, settled a)

/-- The cell that an explicit setting leaves; no value empties it. -/
def ofOption : Option α → Cell α
  | none => empty
  | some a => settled a

/-- One use of a cell: reading it, setting it to a value or to none, fixing a value whatever it is,
or clearing it. -/
inductive Step (α : Type) where
  | get
  | override (value : Option α)
  | force (value : α)
  | reset
  deriving DecidableEq, Repr

/-- A use of a cell that is the state of an action; reading answers with the value. -/
def run (resolve : Act σ α) : Step α → Act (Cell α × σ) (Option α)
  | .get => do
    let state ← Act.get
    let (a, c) ← Act.zoom Prod.snd (fun s t => (t.1, s)) (state.1.read resolve)
    Act.modify fun t => (c, t.2)
    return some a
  | .override value => do
    Act.modify fun t => (ofOption value, t.2)
    return none
  | .force value => do
    Act.modify fun t => (settled value, t.2)
    return none
  | .reset => do
    Act.modify fun t => (empty, t.2)
    return none

end Cell

end HostFacts
