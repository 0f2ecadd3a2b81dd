import HostFacts.Yaml.Basic

/-!
# Writing in columns

A `Pen` writes a text from left to right and knows in which column it is. It also knows whether it
stands behind white space, so that a mark needs no space in front, and whether only marks stand on
its line, so that an indentation can be completed instead of started anew.
-/

namespace HostFacts.Yaml

/-- What is written so far. -/
structure Pen where
  /-- The characters, the latest first. -/
  written : List Char
  column : Nat
  /-- White space comes directly before. -/
  spaced : Bool
  /-- The line holds nothing but white space and marks. -/
  fresh : Bool

namespace Pen

/-- Nothing is written. -/
def start : Pen := ⟨[], 0, true, true⟩

/-- The text that was written. -/
def text (p : Pen) : List Char := p.written.reverse

/-- Writes characters of a scalar. -/
def put (p : Pen) (s : List Char) : Pen :=
  { p with written := s.reverse ++ p.written, column := p.column + s.length }

/-- Ends the line. -/
def lineEnd (p : Pen) : Pen := ⟨'\n' :: p.written, 0, true, true⟩

/-- Goes to a column, on a new line unless only marks stand before it on this one. -/
def indent (p : Pen) (column : Nat) : Pen :=
  let isBehind := !p.fresh || column < p.column || (p.column == column && !p.spaced)
  let p := if isBehind then p.lineEnd else p
  if p.column < column then
    { p.put (List.replicate (column - p.column) ' ') with spaced := true }
  else p

/-- Writes a mark. A space comes before it if it `needs` one; afterwards the line counts as fresh if
it was and `keeps` says so. -/
def mark (p : Pen) (s : List Char) (needs : Bool) (keeps : Bool) : Pen :=
  let lead := if needs && !p.spaced then [' '] else []
  { p.put (lead ++ s) with spaced := false, fresh := p.fresh && keeps }

/-- Takes the line for one that is in use. -/
def inUse (p : Pen) : Pen := { p with spaced := false, fresh := false }

end Pen

end HostFacts.Yaml
