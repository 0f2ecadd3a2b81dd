/-!
# Base 64

Three bytes are written as four characters of six bits each; equal signs fill up the last group.
`decode` is lenient: characters of no value are skipped, and the text ends where the equal signs
complete a group. A text that stops inside a group does not decode.
-/

namespace HostFacts.Text.Base64

/-- The character for six bits. -/
def symbol (n : Nat) : Char :=
  if n < 26 then Char.ofNat (65 + n)
  else if n < 52 then Char.ofNat (71 + n)
  else if n < 62 then Char.ofNat (n - 4)
  else if n = 62 then '+'
  else '/'

/-- The six bits that a character stands for. -/
def value? (c : Char) : Option Nat :=
  if 'A' ≤ c && c ≤ 'Z' then some (c.toNat - 65)
  else if 'a' ≤ c && c ≤ 'z' then some (c.toNat - 71)
  else if '0' ≤ c && c ≤ '9' then some (c.toNat + 4)
  else if c = '+' then some 62
  else if c = '/' then some 63
  else none

/-- Encodes bytes. -/
def encode : List UInt8 → List Char
  | a :: b :: c :: rest =>
    let n := a.toNat * 65536 + b.toNat * 256 + c.toNat
    symbol (n / 262144) :: symbol (n / 4096 % 64) :: symbol (n / 64 % 64) :: symbol (n % 64) ::
      encode rest
  | [a, b] =>
    let n := a.toNat * 65536 + b.toNat * 256
    [symbol (n / 262144), symbol (n / 4096 % 64), symbol (n / 64 % 64), '=']
  | [a] =>
    let n := a.toNat * 65536
    [symbol (n / 262144), symbol (n / 4096 % 64), '=', '=']
  | [] => []

/-- Decodes a text of which `filled` characters of the current group are read, with the bits in
`left` not yet given out and `padding` equal signs directly before. -/
def decodeFrom : (filled left padding : Nat) → List Char → Option (List UInt8)
  | filled, _, _, [] => if filled = 0 then some [] else none
  | filled, left, padding, c :: rest =>
    if c = '=' then
      if 2 ≤ filled then
        if 4 ≤ filled + padding + 1 then some [] else decodeFrom filled left (padding + 1) rest
      else decodeFrom filled left padding rest
    else
      match value? c with
      | none => decodeFrom filled left padding rest
      | some v =>
        if filled = 0 then decodeFrom 1 v 0 rest
        else
          let bits := left * 64 + v
          let unit := Nat.pow 4 (3 - filled)
          let byte := UInt8.ofNat (bits / unit)
          (decodeFrom ((filled + 1) % 4) (bits % unit) 0 rest).map (byte :: ·)

/-- Decodes a text. -/
def decode (s : List Char) : Option (List UInt8) := decodeFrom 0 0 0 s

end HostFacts.Text.Base64
