import HostFacts.Number.Shortest

/-!
# The text of floating-point numbers

A number is written with the fewest digits that read back. From `10 ^ -4` up to `10 ^ 16` it is
positional with at least one decimal place, and outside that range it has an exponent of at least
two digits. Formats differ only in the words for infinity and not-a-number and in whether a lone
digit before an exponent gets a decimal place: that is a `FloatFormat`.
-/

namespace HostFacts.Number

/-- How a format spells the odd cases. -/
structure FloatFormat where
  infinity : String
  minusInfinity : String
  notANumber : String
  /-- A mantissa of one digit is written `1.0` in front of an exponent. -/
  pointed : Bool

/-- The format of plain text: `1e+16`, `inf`, `nan`. -/
def FloatFormat.plain : FloatFormat := ⟨"inf", "-inf", "nan", false⟩

/-- Writes `c · 10 ^ k`, for `c` not zero. -/
def FloatFormat.layout (f : FloatFormat) (c : Nat) (k : Int) : List Char :=
  let digits := decimal c
  let point : Int := digits.length + k
  if -4 < point && point ≤ 16 then
    if point ≤ 0 then ['0', '.'] ++ List.replicate (-point).toNat '0' ++ digits
    else if digits.length ≤ point.toNat then
      digits ++ List.replicate (point.toNat - digits.length) '0' ++ ['.', '0']
    else digits.take point.toNat ++ '.' :: digits.drop point.toNat
  else
    let exponent := point - 1
    let sign := if exponent < 0 then '-' else '+'
    let mantissa :=
      match digits with
      | [d] => if f.pointed then [d, '.', '0'] else [d]
      | d :: ds => d :: '.' :: ds
      | [] => []
    mantissa ++ ['e', sign] ++ decimalPadded 2 exponent.natAbs

/-- The text of a number. -/
def FloatFormat.text (f : FloatFormat) (x : Float) : String :=
  if x.isNaN then f.notANumber
  else
    let b := Binary.ofFloat x
    if x.isInf then (if b.negative then f.minusInfinity else f.infinity)
    else
      let sign := if b.negative then ['-'] else []
      if b.mantissa = 0 then String.ofList (sign ++ ['0', '.', '0'])
      else
        let (c, k) := b.shortest
        String.ofList (sign ++ f.layout c k)

end HostFacts.Number
