import HostFacts.Text.Surrogates
import HostFacts.Yaml.Fold

/-!
# Quoted scalars

Between single quotes a quote is written twice and everything else stands for itself. Between
double quotes a backslash starts an escape: a letter for a character, a code in two, four or eight
hexadecimal digits, or a line end that is left out. Lines are folded in both. A code may be that of
a surrogate, which stays apart from its neighbours.
-/

namespace HostFacts.Yaml

open HostFacts.Number HostFacts.Text

/-- The character that an escape with a letter stands for. -/
def escaped? : Char → Option Char
  | '0' => some '\x00'
  | 'a' => some '\x07'
  | 'b' => some '\x08'
  | 't' | '\t' => some '\t'
  | 'n' => some '\n'
  | 'v' => some '\x0b'
  | 'f' => some '\x0c'
  | 'r' => some '\r'
  | 'e' => some '\x1b'
  | ' ' => some ' '
  | '"' => some '"'
  | '\\' => some '\\'
  | '/' => some '/'
  | 'N' => some '\x85'
  | '_' => some '\xa0'
  | 'L' => some '\u2028'
  | 'P' => some '\u2029'
  | _ => none

/-- The number of digits after the letter of a code. -/
def codeWidth? : Char → Option Nat
  | 'x' => some 2
  | 'u' => some 4
  | 'U' => some 8
  | _ => none

/-- The number in the first `width` characters, if they are hexadecimal digits. -/
def hexCode? (width : Nat) (s : List Char) : Option Nat :=
  let digits := (s.take width).filterMap hexValue?
  if digits.length = width then some (ofDigits 16 digits) else none

/-- The character with a code. -/
def charOf (code : Nat) : Except Flaw Char :=
  if code < 0x110000 then .ok (ofCode code)
  else .error (.fault ⟨.badCharacter (0x80000000 ≤ code), rfl⟩)

/-- Adds characters in front of what was read. -/
def prepend (cs : List Char) (r : Except Flaw (List Char × List Char)) :
    Except Flaw (List Char × List Char) :=
  r.map fun (more, rest) => (cs ++ more, rest)

/-- Reads a quoted scalar from behind its first quote. -/
def quotedScalar (double : Bool) : List Char → Except Flaw (List Char × List Char)
  | [] => .error .illFormed
  | c :: rest =>
    if isWhite c || isBreak c then
      let g := gap isWhite (c :: rest)
      if g.marked || g.rest.isEmpty then .error .illFormed
      else prepend g.text (quotedScalar double g.rest)
    else if double && c == '"' then .ok ([], rest)
    else if double && c == '\\' then
      match rest with
      | [] => .error .illFormed
      | d :: more =>
        match escaped? d, codeWidth? d with
        | some e, _ => prepend [e] (quotedScalar double more)
        | none, some width =>
          match hexCode? width more with
          | none => .error .illFormed
          | some code => do
            let c ← charOf code
            prepend [c] (quotedScalar double (more.drop width))
        | none, none =>
          if isBreak d then
            let l := lines isWhite more
            if l.marked then .error .illFormed
            else prepend l.breaks (quotedScalar double l.rest)
          else .error .illFormed
    else if !double && c == '\'' then
      match rest with
      | '\'' :: more => prepend ['\''] (quotedScalar double more)
      | _ => .ok ([], rest)
    else prepend [c] (quotedScalar double rest)
termination_by s => s.length
decreasing_by
  · exact gap_lt (by assumption)
  · simp only [List.length_cons]
    omega
  · simp only [List.length_cons, List.length_drop]
    omega
  · have := lines_le isWhite more
    simp only [List.length_cons]
    omega
  · simp only [List.length_cons]
    omega
  · simp

end HostFacts.Yaml
