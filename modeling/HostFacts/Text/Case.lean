import HostFacts.Text.Blank
import HostFacts.Text.CaseTable

/-!
# Lower and upper case

Case is changed character by character by the full mappings of Unicode 14, so one character may
become several. One letter depends on its neighbours: the capital sigma becomes the final form `ς`
at the end of a word (`endsWord`) and `σ` elsewhere.
-/

namespace HostFacts.Text

/-- The other form of a character by a table of runs. -/
def shifted? (runs : List CaseRun) (c : Char) : Option Char :=
  (runs.find? fun r =>
      r.first ≤ c.toNat && c.toNat ≤ r.last && (c.toNat - r.first) % r.stride == 0).map
    fun r => Char.ofNat (Int.toNat (c.toNat + r.shift))

/-- The other form of a character: several characters where the second table has it, else one. -/
def mapCase (runs : List CaseRun) (expansions : List (Nat × List Nat)) (c : Char) : List Char :=
  match expansions.lookup c.toNat with
  | some cs => cs.map Char.ofNat
  | none => [(shifted? runs c).getD c]

/-- The lower form of a character on its own. -/
def lowerChar (c : Char) : List Char := mapCase lowerRuns lowerExpansions c

/-- The upper form of a character. -/
def upperChar (c : Char) : List Char := mapCase upperRuns upperExpansions c

/-- Whether the first character that is not passed over is a letter with case. -/
def nextIsCased (s : List Char) : Bool :=
  match s.dropWhile ignorable.has with
  | [] => false
  | c :: _ => cased.has c

/-- Whether a letter between `before` (read backwards) and `after` is the last of its word. -/
def endsWord (before after : List Char) : Bool := nextIsCased before && !nextIsCased after

/-- Lower case of a text that follows the characters `before` (read backwards). -/
def lowerFrom (before : List Char) : List Char → List Char
  | [] => []
  | c :: rest =>
    (if c = 'Σ' then [if endsWord before rest then 'ς' else 'σ'] else lowerChar c) ++
      lowerFrom (c :: before) rest

/-- Lower case of a text. -/
def lower (s : List Char) : List Char := lowerFrom [] s

/-- Upper case of a text. -/
def upper (s : List Char) : List Char := s.flatMap upperChar

/-- The string in lower case. -/
def lowered (s : String) : String := onChars lower s

end HostFacts.Text
