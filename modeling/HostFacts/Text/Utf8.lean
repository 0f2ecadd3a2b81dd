import HostFacts.Number.Decimal

/-!
# Decoding UTF-8

`decode` reads bytes as well-formed UTF-8: no overlong forms, no surrogates, nothing above U+10FFFF.
The bytes are gone through once. Between characters nothing is pending; inside one a `Pending`
holds which bytes may come next. A fault names the bytes of the character that went wrong.
-/

namespace HostFacts.Text.Utf8

open HostFacts.Number

/-- What is wrong with a sequence of bytes. -/
inductive Reason where
  | invalidStart
  | invalidContinuation
  | unexpectedEnd
  deriving DecidableEq, Repr

/-- The bytes that are no character: positions of the first and the last, and the first byte. -/
structure Fault where
  first : Nat
  last : Nat
  lead : UInt8
  reason : Reason
  deriving DecidableEq, Repr

/-- The wording of a reason. -/
def Reason.text : Reason → String
  | .invalidStart => "invalid start byte"
  | .invalidContinuation => "invalid continuation byte"
  | .unexpectedEnd => "unexpected end of data"

/-- The wording of a fault. -/
def Fault.message (f : Fault) : String :=
  let place :=
    if f.first = f.last then
      let code := String.ofList (hexPadded false 2 f.lead.toNat)
      s!"byte 0x{code} in position {natText f.first}"
    else s!"bytes in position {natText f.first}-{natText f.last}"
  s!"'utf-8' codec can't decode {place}: {f.reason.text}"

/-- A character of which some bytes are still to come. -/
structure Pending where
  /-- The position of its first byte, and that byte. -/
  first : Nat
  lead : UInt8
  /-- How many bytes are to come. -/
  missing : Nat
  /-- The range in which the next byte must lie. -/
  low : UInt8
  high : UInt8
  /-- The bits read so far. -/
  bits : Nat

/-- What a byte that is not ASCII starts. -/
def start? (position : Nat) (b : UInt8) : Option Pending :=
  if b < 0xc2 then none
  else if b < 0xe0 then some ⟨position, b, 1, 0x80, 0xbf, b.toNat - 0xc0⟩
  else if b < 0xf0 then
    let low := if b == 0xe0 then 0xa0 else 0x80
    let high := if b == 0xed then 0x9f else 0xbf
    some ⟨position, b, 2, low, high, b.toNat - 0xe0⟩
  else if b < 0xf5 then
    let low := if b == 0xf0 then 0x90 else 0x80
    let high := if b == 0xf4 then 0x8f else 0xbf
    some ⟨position, b, 3, low, high, b.toNat - 0xf0⟩
  else none

/-- Decodes from a position on. -/
def decodeFrom : Nat → Option Pending → List UInt8 → Except Fault (List Char)
  | _, none, [] => .ok []
  | position, some p, [] => .error ⟨p.first, position - 1, p.lead, .unexpectedEnd⟩
  | position, none, b :: rest =>
    if b < 0x80 then (decodeFrom (position + 1) none rest).map (Char.ofNat b.toNat :: ·)
    else
      match start? position b with
      | none => .error ⟨position, position, b, .invalidStart⟩
      | some p => decodeFrom (position + 1) (some p) rest
  | position, some p, b :: rest =>
    if p.low ≤ b && b ≤ p.high then
      let bits := p.bits * 64 + (b.toNat - 0x80)
      if p.missing = 1 then (decodeFrom (position + 1) none rest).map (Char.ofNat bits :: ·)
      else decodeFrom (position + 1) (some ⟨p.first, p.lead, p.missing - 1, 0x80, 0xbf, bits⟩) rest
    else .error ⟨p.first, position - 1, p.lead, .invalidContinuation⟩

/-- The characters that the bytes encode. -/
def decode (bytes : List UInt8) : Except Fault (List Char) := decodeFrom 0 none bytes

/-- The bytes of a text. -/
def encode (s : String) : List UInt8 := s.toUTF8.toList

end HostFacts.Text.Utf8
