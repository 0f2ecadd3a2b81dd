import HostFacts.Number.Decimal

/-!
# Shortest decimals

Every finite binary fraction of double precision is the centre of an interval of numbers that round
to it. `shortest` finds the decimal with the fewest digits in that interval: it goes from coarse
powers of ten to fine ones and takes the first of which a multiple lies inside, of two such
multiples the nearer, and of two equally near the even one.
-/

namespace HostFacts.Number

/-- The parts of a double: a sign, and the value as `mantissa · 2 ^ exponent`. -/
structure Binary where
  negative : Bool
  mantissa : Nat
  exponent : Int
  /-- The next smaller double lies only half as far away as the next larger one. -/
  narrowBelow : Bool

/-- Takes a finite double apart. -/
def Binary.ofFloat (x : Float) : Binary :=
  let bits := x.toBits.toNat
  let hidden := Nat.pow 2 52
  let fraction := bits % hidden
  let biased := bits / hidden % Nat.pow 2 11
  let negative := bits / Nat.pow 2 63 == 1
  if biased = 0 then ⟨negative, fraction, -1074, false⟩
  else ⟨negative, fraction + hidden, (biased : Int) - 1075, fraction == 0 && biased > 1⟩

/-- The multiple of `10 ^ k` that rounds to the double and lies nearest to it, if one does. -/
def Binary.multiple? (b : Binary) (k : Int) : Option Nat :=
  -- everything is measured in quarters of the last binary place
  let unit := b.exponent - 2
  let grid := Nat.pow 10 k.toNat * Nat.pow 2 (-unit).toNat
  let quarter := Nat.pow 2 unit.toNat * Nat.pow 10 (-k).toNat
  let centre := 4 * b.mantissa * quarter
  let low := (4 * b.mantissa - (if b.narrowBelow then 1 else 2)) * quarter
  let high := (4 * b.mantissa + 2) * quarter
  let closed := b.mantissa % 2 == 0
  let inside (c : Nat) : Bool :=
    if closed then low ≤ c * grid && c * grid ≤ high else low < c * grid && c * grid < high
  let c := centre / grid
  let below := centre - c * grid
  let above := (c + 1) * grid - centre
  match inside c, inside (c + 1) with
  | false, false => none
  | true, false => some c
  | false, true => some (c + 1)
  | true, true =>
    if below < above then some c
    else if above < below then some (c + 1)
    else some (if c % 2 == 0 then c else c + 1)

/-- The powers of ten of which doubles have shortest decimals, from coarse to fine. -/
def grids : List Int := (List.range 634).map fun (i : Nat) => 309 - (i : Int)

/-- The shortest decimal of a positive finite double: `(c, k)` for `c · 10 ^ k`. -/
def Binary.shortest (b : Binary) : Nat × Int :=
  (grids.findSome? fun k => (b.multiple? k).map fun c => (c, k)).getD (0, 0)

end HostFacts.Number
