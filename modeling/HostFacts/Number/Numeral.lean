import HostFacts.Number.Decimal
import HostFacts.Text.Blank

/-!
# Integer numerals

A numeral is a sign and digits of a base up to sixteen; `0b`, `0o` or `0x` may stand in front when
it fits the base. The decimal digits of every script count, and white space around the numeral is
ignored.
-/

namespace HostFacts.Number

open HostFacts.Text

/-- The zeros of the scripts of Unicode 14; the digits one to nine follow each of them. -/
def zeros : List Nat :=
  [0x30, 0x660, 0x6f0, 0x7c0, 0x966, 0x9e6, 0xa66, 0xae6, 0xb66, 0xbe6, 0xc66, 0xce6, 0xd66, 0xde6,
   0xe50, 0xed0, 0xf20, 0x1040, 0x1090, 0x17e0, 0x1810, 0x1946, 0x19d0, 0x1a80, 0x1a90, 0x1b50,
   0x1bb0, 0x1c40, 0x1c50, 0xa620, 0xa8d0, 0xa900, 0xa9d0, 0xa9f0, 0xaa50, 0xabf0, 0xff10, 0x104a0,
   0x10d30, 0x11066, 0x110f0, 0x11136, 0x111d0, 0x112f0, 0x11450, 0x114d0, 0x11650, 0x116c0,
   0x11730, 0x118e0, 0x11950, 0x11c50, 0x11d50, 0x11da0, 0x16a60, 0x16ac0, 0x16b50, 0x1d7ce,
   0x1d7d8, 0x1d7e2, 0x1d7ec, 0x1d7f6, 0x1e140, 0x1e2f0, 0x1e950, 0x1fbf0]

/-- A decimal digit of any script as one of `0` to `9`; other characters stay. -/
def plainDigit (c : Char) : Char :=
  match zeros.find? fun z => z ≤ c.toNat && c.toNat < z + 10 with
  | some z => digitChar (c.toNat - z)
  | none => c

/-- White space around a numeral: the four separators do not count. -/
def isNumeralSpace (c : Char) : Bool := isSpace c && !('\x1c' ≤ c && c ≤ '\x1f')

/-- The text of a numeral without white space around it and with plain digits. -/
def numeralText (s : List Char) : List Char := (trimWhile isNumeralSpace s).map plainDigit

/-- A sign in front of a text: whether it is a minus, and the rest. -/
def signed : List Char → Bool × List Char
  | '-' :: rest => (true, rest)
  | '+' :: rest => (false, rest)
  | rest => (false, rest)

/-- The number of decimal digits that a text starts with, behind white space and a sign. -/
def leadingDigits (s : List Char) : Nat := ((signed (numeralText s)).2.takeWhile isDigit).length

/-- The letter that marks a base. -/
def baseLetter? : Nat → Option Char
  | 2 => some 'b'
  | 8 => some 'o'
  | 16 => some 'x'
  | _ => none

/-- The text behind the mark of a base, if the mark is there. -/
def unmarked (base : Nat) (s : List Char) : List Char :=
  match s, baseLetter? base with
  | '0' :: c :: rest, some letter => if c.toLower = letter then rest else s
  | _, _ => s

/-- An integer as it is written. -/
structure Numeral where
  negative : Bool
  digits : List Nat

/-- The number of a numeral in a base. -/
def Numeral.value (base : Nat) (n : Numeral) : Int :=
  let m := ofDigits base n.digits
  if n.negative then -(m : Int) else m

/-- Reads a numeral. -/
def numeral? (base : Nat) (s : List Char) : Option Numeral :=
  let (negative, rest) := signed (numeralText s)
  let digits := unmarked base rest
  if digits.isEmpty then none
  else
    (digits.mapM fun c => (hexValue? c).filter (· < base)).map fun ds => ⟨negative, ds⟩

end HostFacts.Number
