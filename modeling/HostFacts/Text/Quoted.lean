import HostFacts.Number.Decimal
import HostFacts.Text.Blank
import HostFacts.Text.Printable
import HostFacts.Text.Surrogates

/-!
# Quoted text

A quoted text stands between single quotes, or between double quotes when it holds single quotes
and no double one. The quote in use, the backslash, the tab and the two line ends are escaped by a
letter, and every other character that is not printable by its code in two, four or eight digits.
Bytes are quoted the same way behind a `b`, where only ASCII counts as printable.
-/

namespace HostFacts.Text

open HostFacts.Number

/-- The quote that a text is put in. -/
def quoteFor (s : List Char) : Char :=
  if s.contains '\'' && !s.contains '"' then '"' else '\''

/-- A code as an escape: `\x`, `\u` or `\U` with two, four or eight digits. -/
def codeEscape (code : Nat) : List Char :=
  if code < 0x100 then '\\' :: 'x' :: hexPadded false 2 code
  else if code < 0x10000 then '\\' :: 'u' :: hexPadded false 4 code
  else '\\' :: 'U' :: hexPadded false 8 code

/-- A character as it stands between quotes `q`. -/
def quotedChar (q c : Char) : List Char :=
  if c = q || c = '\\' then ['\\', c]
  else if c = '\n' then ['\\', 'n']
  else if c = '\r' then ['\\', 'r']
  else if c = '\t' then ['\\', 't']
  else if isPrintable c then [c]
  else codeEscape (codeOf c)

/-- The quoted form of a text. -/
def quote (s : List Char) : List Char :=
  quoteFor s :: s.flatMap (quotedChar (quoteFor s)) ++ [quoteFor s]

/-- The quoted form of a string. -/
def quoted (s : String) : String := onChars quote s

/-- The quoted form of bytes. -/
def quotedBytes (bytes : List UInt8) : String :=
  let chars := bytes.map fun b => Char.ofNat b.toNat
  let q := quoteFor chars
  let escape (c : Char) : List Char :=
    if c.toNat < 0x7f then quotedChar q c else codeEscape c.toNat
  String.ofList ('b' :: q :: chars.flatMap escape ++ [q])

end HostFacts.Text
