/-!
# Sets of characters as ranges of code points

Character classes are given as lists of ranges. `Ranges.has` is membership.
-/

namespace HostFacts.Text

/-- A set of characters: ranges of code points, both ends included. -/
abbrev Ranges := List (Nat × Nat)

/-- Whether a character lies in one of the ranges. -/
def Ranges.has (r : Ranges) (c : Char) : Bool :=
  r.any fun e => e.1 ≤ c.toNat && c.toNat ≤ e.2

theorem Ranges.has_iff {r : Ranges} {c : Char} :
    r.has c = true ↔ ∃ e ∈ r, e.1 ≤ c.toNat ∧ c.toNat ≤ e.2 := by
  simp [Ranges.has]

end HostFacts.Text
