import HostFacts.Number.Numeral
import HostFacts.Number.Shortest
import HostFacts.Text.Case

/-!
# Reading floating-point numbers

The accepted texts are a sign, digits with at most one point and at least one digit, and an
exponent; single underscores may stand between digits. `inf`, `infinity` and `nan` are accepted in
any case, and white space around the whole is ignored. The result is the nearest double.
-/

namespace HostFacts.Number

open HostFacts.Text

/-- The nearest double to `m · 10 ^ e`. Beyond the range of doubles the exponent is not expanded. -/
def ofScientific (m : Nat) (e : Int) : Float :=
  if m = 0 then 0.0
  else
    let magnitude : Int := (decimal m).length + e
    if magnitude > 400 then Float.ofBits 0x7ff0000000000000
    else if magnitude < -400 then 0.0
    else Float.ofScientific m (e < 0) e.natAbs

/-- A run of digits in which single underscores may stand between digits, and what follows it. -/
def digitRun : List Char → List Char × List Char
  | c :: '_' :: d :: rest =>
    if isDigit c && isDigit d then
      let (more, rest) := digitRun (d :: rest)
      (c :: more, rest)
    else if isDigit c then ([c], '_' :: d :: rest)
    else ([], c :: '_' :: d :: rest)
  | c :: rest =>
    if isDigit c then
      let (more, rest) := digitRun rest
      (c :: more, rest)
    else ([], c :: rest)
  | [] => ([], [])

/-- The exponent after the digits of a number: nothing, or `e` with an integer. -/
def exponent? : List Char → Option Int
  | [] => some 0
  | c :: rest =>
    if c = 'e' || c = 'E' then
      let (negative, digits) := signed rest
      match digitRun digits with
      | ([], _) => none
      | (run, []) => some (if negative then -(ofDecimal run : Int) else ofDecimal run)
      | (_, _ :: _) => none
    else none

/-- The number without a sign. -/
def unsignedFloat? (s : List Char) : Option Float :=
  let word := String.ofList (lower s)
  if word == "inf" || word == "infinity" then some (Float.ofBits 0x7ff0000000000000)
  else if word == "nan" then some (Float.ofBits 0x7ff8000000000000)
  else
    let (whole, rest) := digitRun s
    let (places, rest) :=
      match rest with
      | '.' :: more => digitRun more
      | _ => ([], rest)
    if whole.isEmpty && places.isEmpty then none
    else
      (exponent? rest).map fun e => ofScientific (ofDecimal (whole ++ places)) (e - places.length)

/-- Reads a number. -/
def float? (s : List Char) : Option Float :=
  let (negative, rest) := signed (numeralText s)
  (unsignedFloat? rest).map fun x => if negative then -x else x

/-- The integer that a number equals, if it equals one. -/
def exactInt? (x : Float) : Option Int :=
  if x.isNaN || x.isInf then none
  else
    let b := Binary.ofFloat x
    let value : Option Nat :=
      if 0 ≤ b.exponent then some (b.mantissa * Nat.pow 2 b.exponent.toNat)
      else
        let unit := Nat.pow 2 (-b.exponent).toNat
        if b.mantissa % unit = 0 then some (b.mantissa / unit) else none
    value.map fun n => if b.negative then -(n : Int) else n

end HostFacts.Number
